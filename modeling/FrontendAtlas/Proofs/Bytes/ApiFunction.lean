import FrontendAtlas.Declaration.ApiFunction
import FrontendAtlas.Proofs.Bytes.Bracket
import FrontendAtlas.Proofs.Bytes.Comment
import FrontendAtlas.Proofs.Bytes.Identifier
import FrontendAtlas.Proofs.Declaration.PatternRest

namespace FrontendAtlas.Bytes

open FrontendAtlas.Text FrontendAtlas.Source FrontendAtlas.Declaration

variable {α : Type} {text rest : List Char} {c : Char} {i : Nat}

def stop (text : List Char) (hit : Hit α) : Nat :=
  byteLength text - byteLength hit.rest

theorem At.stop {pattern : Pattern α} {hit : Hit α} (leaves : ∀ before, Leaves [] (pattern before))
    (found : hit ∈ hits pattern text) : At text (stop text hit) hit.rest :=
  .of_suffix (suffix_of_mem_hits leaves found)

theorem subtract_of_suffix (part : rest <:+ text) :
    subtract (bytes text).length (byteLength rest) = .ok (byteLength text - byteLength rest) := by
  have size := (At.of_suffix part).size
  rw [length_bytes]
  exact if_pos (by omega)

theorem exists_subtract_one {after : List Char} (place : At text i after)
    (part : c :: rest <:+ after) (ascii : Ascii c) :
    ∃ j, subtract (i + (byteLength after - byteLength rest)) 1 = .ok j ∧ At text j (c :: rest) := by
  obtain ⟨front, rfl⟩ := part
  have size : i + (byteLength (front ++ c :: rest) - byteLength rest) =
      i + byteLength front + 1 := by
    simp only [byteLength_append, byteLength, utf8Size_of_ascii ascii]
    omega
  refine ⟨i + byteLength front, ?_, place.append⟩
  rw [size]
  exact if_pos (Nat.succ_pos _)

theorem exists_subtract_stop {pattern : Pattern α} {hit : Hit α}
    (leaves : ∀ before, Leaves [c] (pattern before)) (ascii : Ascii c)
    (found : hit ∈ hits pattern text) :
    ∃ j, subtract (stop text hit) 1 = .ok j ∧ At text j (c :: hit.rest) := by
  have ends := exists_subtract_one (At.start text) (suffix_of_mem_hits leaves found) ascii
  rwa [Nat.zero_add] at ends

def promiseOpen? (text : List Char) : Option (List Char) := do
  let text ← char? ':' (trimStart text)
  let text ← word? "Promise" (trimStart text)
  char? '<' (trimStart text)

def skipArrow (text : List Char) : List Char :=
  ((word? "=>" (trimStart text)).map trimStart).getD (trimStart text)

def requestBody (text : List Char) (start : Nat) : Checked (List Char) := do
  let rest := skipArrow (← sliceFrom text start)
  let start ← subtract (bytes text).length (byteLength rest)
  if rest.head? = some '{' then boundedBody .braces text start requestWindow
  else truncate rest requestWindow

def promiseAndBody (text : List Char) (opening : Nat) :
    Checked (Option (List Char × List Char)) := do
  match ← matchingClose .parens text opening with
  | none => return none
  | some close =>
    let after ← sliceFrom text (close + 1)
    match promiseOpen? after with
    | none => return none
    | some rest =>
      let angle ← subtract (close + 1 + (byteLength after - byteLength rest)) 1
      match ← matchingClose .angles text angle with
      | none => return none
      | some stop =>
        return some (trim (← slice text (angle + 1) stop), ← requestBody text (stop + 1))

theorem body?_eq_bind (d : Delimiters) (text : List Char) :
    d.body? text = (char? d.opener text).bind (d.split? d.opener 0) := by
  cases text with
  | nil => rfl
  | cons c text => by_cases opens : c = d.opener <;> simp [Delimiters.body?, char?, opens]

theorem suffix_of_promiseOpen? (read : promiseOpen? text = some rest) : '<' :: rest <:+ text := by
  simp only [promiseOpen?, Option.bind_eq_bind, Option.bind_eq_some_iff, char?_eq_some_iff] at read
  obtain ⟨a, colon, b, promise, angle⟩ := read
  have opens : '<' :: rest <:+ b := angle ▸ trimStart_suffix b
  have annotated : ':' :: a <:+ text := colon ▸ trimStart_suffix text
  exact opens.trans <| (suffix_of_word? promise).trans <| (trimStart_suffix a).trans <|
    (List.suffix_cons ':' a).trans annotated

def bodyText (after : List Char) : List Char :=
  if (skipArrow after).head? = some '{' then Delimiters.braces.contents (skipArrow after)
  else skipArrow after

theorem promiseAndBody?_eq (text : List Char) : promiseAndBody? text =
    (Delimiters.parens.split? '(' 0 text).bind fun parameters =>
      (promiseOpen? parameters.2).bind fun rest =>
        (Delimiters.angles.split? '<' 0 rest).map fun found =>
          (trim found.1, (bodyText found.2).take requestWindow) := by
  have parameters : Delimiters.parens.body? ('(' :: text) = Delimiters.parens.split? '(' 0 text :=
    body?_opener Delimiters.parens text
  simp only [promiseAndBody?, parameters, body?_eq_bind Delimiters.angles, promiseOpen?, bodyText,
    skipArrow, Option.bind_eq_bind, Option.bind_assoc, Option.map_eq_bind, Option.pure_def]
  rfl

theorem skipArrow_suffix (text : List Char) : skipArrow text <:+ text := by
  refine List.IsSuffix.trans ?_ (trimStart_suffix text)
  rw [skipArrow]
  cases arrow : word? "=>" (trimStart text) with
  | none => exact List.suffix_refl _
  | some after => exact (trimStart_suffix after).trans (suffix_of_word? arrow)

theorem requestBody_eq (place : At text i rest) :
    requestBody text i = .ok ((bodyText rest).take requestWindow) := by
  have part : skipArrow rest <:+ text := (skipArrow_suffix rest).trans place.suffix
  have start := At.of_suffix part
  simp only [requestBody, place.sliceFrom, subtract_of_suffix part, ok_bind, bodyText]
  split
  case isTrue opens =>
    obtain ⟨inside, whole⟩ := List.head?_eq_some_iff.1 opens
    rw [whole] at start ⊢
    rw [boundedBody_eq ascii_braces]
    exact congrArg Except.ok (window_of_at ascii_braces start requestWindow)
  case isFalse => exact truncate_eq _ requestWindow

theorem ascii_parens : Ascii Delimiters.parens.opener ∧ Ascii Delimiters.parens.closer := by decide

theorem promiseAndBody_eq (place : At text i ('(' :: rest)) :
    promiseAndBody text i = .ok (promiseAndBody? rest) := by
  have close : matchingClose .parens text i =
      .ok ((Delimiters.parens.split? '(' 0 rest).map fun found => i + 1 + byteLength found.1) :=
    matchingClose_of_at ascii_parens place
  rw [promiseAndBody, promiseAndBody?_eq, close]
  cases parameters : Delimiters.parens.split? '(' 0 rest with
  | none => rfl
  | some found =>
    have after := (place.delimited ascii_parens parameters).2
    simp only [Option.map_some, Option.bind_some, ok_bind, after.sliceFrom]
    -- The angle bracket is one byte before the end of what the annotation's reader has taken.
    cases annotation : promiseOpen? found.2 with
    | none => rfl
    | some type =>
      obtain ⟨angle, offset, opens⟩ :=
        exists_subtract_one after (suffix_of_promiseOpen? annotation) (by decide)
      have angleClose : matchingClose .angles text angle =
          .ok ((Delimiters.angles.split? '<' 0 type).map fun found =>
            angle + 1 + byteLength found.1) :=
        matchingClose_of_at ascii_angles opens
      simp only [offset, angleClose, Option.bind_some, ok_bind]
      cases promised : Delimiters.angles.split? '<' 0 type with
      | none => rfl
      | some inner =>
        obtain ⟨inside, body⟩ := opens.delimited ascii_angles promised
        simp [inside.slice inside.append, requestBody_eq body]

def find? (word text : List Char) : Option Nat :=
  (cutAt? word text).map fun found => byteLength found.1

def quotedArgument (text : List Char) (start : Nat) : Checked (Option (List Char)) := do
  let rest ← sliceFrom text start
  match rest.head? with
  | some quote =>
    if quote = '\x27' ∨ quote = '\x22' then
      match find? [quote] (← sliceFrom rest 1) with
      | some stop => return some (← slice rest 1 (1 + stop))
      | none => return none
    else return none
  | none => return none

def endpointOf (call : Hit HttpMethod) (raw : List Char) : Checked (Option Endpoint) :=
  return some ⟨call.value, String.ofList (← route raw)⟩

def templateArgument (code : List Char) (call : Hit HttpMethod) : Checked (Option Endpoint) := do
  if (← sliceFrom code (stop code call)).head? = some '\x60' then
    match ← template code (stop code call) with
    | some raw => endpointOf call raw
    | none => return none
  else return none

def heldTemplate (code : List Char) (calls : List (Hit HttpMethod)) (hit : Hit (List Char)) :
    Checked (Option Endpoint) := do
  match ← template code (← subtract (stop code hit) 1) with
  | some raw =>
    match ← calls.findM? fun call =>
        return beginsWithName hit.value (← sliceFrom code (stop code call)) with
    | some call => endpointOf call raw
    | none => return none
  | none => return none

def endpoint (code : List Char) : Checked (Option Endpoint) := do
  let calls := hits helperCall code
  match calls.head? with
  | none => return none
  | some first =>
    orElse (calls.findSomeM? fun call => do
        return (← quotedArgument code (stop code call)).map fun text =>
          ⟨call.value, String.ofList text⟩) <|
      orElse (calls.findSomeM? (templateArgument code)) <|
      orElse ((hits templateVariable code).findSomeM? (heldTemplate code calls)) <|
      match firstHit? pathLiteral code with
      | some raw => endpointOf first raw
      | none => return some ⟨first.value, unknownRoute⟩

theorem cutAt?_singleton (c : Char) (text : List Char) : cutAt? [c] text =
    if c ∈ text then some (text.takeWhile (· ≠ c), text.dropWhile (· ≠ c)) else none := by
  induction text with
  | nil => simp [cutAt?]
  | cons d text ih =>
    by_cases here : c = d
    · simp [cutAt?, startsWith, after?, here]
    · by_cases later : c ∈ text <;> simp [cutAt?, startsWith, after?, here, Ne.symm here, ih, later]

theorem quotedArgument_eq (place : At text i rest) :
    quotedArgument text i = .ok (quotedArgument? rest) := by
  rw [quotedArgument, place.sliceFrom]
  cases rest with
  | nil => rfl
  | cons quote inner =>
    by_cases quoted : quote = '\x27' ∨ quote = '\x22'
    · have ascii : Ascii quote := by rcases quoted with rfl | rfl <;> decide
      have start : At (quote :: inner) 1 inner := (At.start (quote :: inner)).succ ascii
      have parts :
          At (quote :: inner) 1 (inner.takeWhile (· ≠ quote) ++ inner.dropWhile (· ≠ quote)) := by
        rwa [List.takeWhile_append_dropWhile]
      have cut := parts.slice parts.append
      by_cases closed : quote ∈ inner
      · simp only [quotedArgument?, quoted, closed, and_true, if_true, find?, cutAt?_singleton,
          start.sliceFrom, cut, List.head?_cons, Option.map_some, ok_bind, pure_eq_ok]
      · simp [quotedArgument?, quoted, closed, find?, cutAt?_singleton, start.sliceFrom]
    · simp [quotedArgument?, quoted]

theorem endpointOf_eq (call : Hit HttpMethod) (raw : List Char) :
    endpointOf call raw = .ok (some ⟨call.value, String.ofList (Source.route raw)⟩) := by
  rw [endpointOf, route_eq]
  rfl

theorem templateArgument_eq {code : List Char} {call : Hit HttpMethod}
    (place : At code (stop code call) call.rest) :
    templateArgument code call =
      .ok ((template? call.rest).map fun raw =>
        ⟨call.value, String.ofList (Source.route raw)⟩) := by
  rw [templateArgument, place.sliceFrom]
  by_cases opens : call.rest.head? = some '\x60'
  · obtain ⟨rest, whole⟩ := List.head?_eq_some_iff.1 opens
    rw [whole] at place ⊢
    simp only [ok_bind, List.head?_cons, if_true, template_of_at place, template?]
    cases templateBody? 0 rest with
    | none => rfl
    | some raw => exact endpointOf_eq call raw
  · have nothing : template? call.rest = none := by
      cases whole : call.rest with
      | nil => rfl
      | cons c rest =>
        refine if_neg ?_
        rintro rfl
        exact opens (by rw [whole]; rfl)
    simp [opens, nothing]

theorem heldTemplate_eq {code : List Char} {hit : Hit (List Char)}
    (found : hit ∈ hits templateVariable code) :
    heldTemplate code (hits helperCall code) hit = .ok (do
      let raw ← templateBody? 0 hit.rest
      let call ← (hits helperCall code).find? fun call => beginsWithName hit.value call.rest
      return ⟨call.value, String.ofList (Source.route raw)⟩) := by
  obtain ⟨i, offset, place⟩ := exists_subtract_stop leaves_templateVariable (by decide) found
  have passed : ((hits helperCall code).findM? fun call =>
        return beginsWithName hit.value (← sliceFrom code (stop code call))) =
      .ok ((hits helperCall code).find? fun call => beginsWithName hit.value call.rest) := by
    apply findM?_eq
    intro call called
    rw [(At.stop leaves_helperCall called).sliceFrom]
    rfl
  change (subtract (stop code hit) 1 >>= fun i => template code i >>= _) = _
  rw [offset, ok_bind, template_of_at place, ok_bind]
  cases templateBody? 0 hit.rest with
  | none => rfl
  | some raw =>
    dsimp only
    rw [passed, ok_bind, Option.bind_eq_bind, Option.bind_some]
    cases (hits helperCall code).find? fun call => beginsWithName hit.value call.rest with
    | none => rfl
    | some call => exact endpointOf_eq call raw

theorem endpoint_eq (code : List Char) : endpoint code = .ok (endpoint? code) := by
  rw [endpoint, endpoint?]
  cases (hits helperCall code).head? with
  | none => rfl
  | some first =>
    apply orElse_eq
    · apply findSomeM?_eq
      intro call called
      rw [quotedArgument_eq (At.stop leaves_helperCall called)]
      rfl
    apply orElse_eq
    · apply findSomeM?_eq
      intro call called
      exact templateArgument_eq (At.stop leaves_helperCall called)
    apply orElse_eq
    · apply findSomeM?_eq
      intro hit found
      exact heldTemplate_eq found
    · cases firstHit? pathLiteral code with
      | none => rfl
      | some raw => exact endpointOf_eq first raw

def apiFunctions (source : List Char) (path : String) : Checked (Dict ApiFunction) := do
  let text ← stripComments source
  gather (hits asyncFunction text ++ hits asyncArrow text) (String.ofList ·.value) fun hit => do
    match ← promiseAndBody text (← subtract (stop text hit) 1) with
    | none => return none
    | some (promised, body) =>
      let found ← endpoint body
      return some ⟨String.ofList hit.value, path, found.map (·.route), found.map (·.method),
        String.ofList promised⟩

theorem apiFunctions_eq (source : List Char) (path : String) :
    apiFunctions source path = .ok (Declaration.apiFunctions source path) := by
  rw [apiFunctions, stripComments_eq, ok_bind, Declaration.apiFunctions]
  generalize Source.stripComments source = text
  rw [gather_eq _ fun hit => (promiseAndBody? hit.rest).map fun found =>
    ⟨String.ofList hit.value, path, (endpoint? found.2).map (·.route),
      (endpoint? found.2).map (·.method), String.ofList found.1⟩]
  · simp [Option.map_eq_bind, Option.bind_assoc]
  · intro hit found
    obtain ⟨i, offset, place⟩ :
        ∃ i, subtract (stop text hit) 1 = .ok i ∧ At text i ('(' :: hit.rest) := by
      rcases List.mem_append.1 found with found | found
      · exact exists_subtract_stop leaves_exportedAsyncFunction?.atLineStart (by decide) found
      · exact exists_subtract_stop leaves_exportedAsyncArrow?.atLineStart (by decide) found
    rw [offset, ok_bind, promiseAndBody_eq place, ok_bind]
    cases promiseAndBody? hit.rest with
    | none => rfl
    | some found => simp [endpoint_eq]

end FrontendAtlas.Bytes
