import FrontendAtlas.Proofs.Bytes.ApiFunction
import FrontendAtlas.Proofs.Bytes.TypeSection
import FrontendAtlas.Proofs.Declaration.HookText
import FrontendAtlas.Proofs.Dict

namespace FrontendAtlas.Bytes

open FrontendAtlas.Text FrontendAtlas.Source FrontendAtlas.Declaration

variable {text mid rest : List Char} {c : Char} {i start depth : Nat}

def exportsNext (text : List Char) : Bool :=
  startsWith "export ".toList (trimStart text)

def expressionPass (text : List Char) (start : Nat) : Pass Int (List Char) where
  step c i depth := do
    if c = '(' ∨ c = '{' ∨ c = '[' then return .next (i + 1) (depth + 1)
    else if c = ')' ∨ c = '}' ∨ c = ']' then
      if depth - 1 < 0 then return .done (trim (← slice text start i))
      else return .next (i + 1) (depth - 1)
    else if c = ';' ∧ depth = 0 then return .done (trim (← slice text start i))
    else if c = '\n' ∧ depth = 0 then
      if exportsNext (← sliceFrom text i) then return .done (trim (← slice text start i))
      else return .next (i + 1) depth
    else return .next (i + 1) depth
  finish _ _ := return trim (← sliceFrom text start)

def expression (text : List Char) (start : Nat) : Checked (List Char) :=
  (expressionPass text start).run text start 0

theorem expressionPass_passes (text : List Char) (start : Nat) (depth : Int) :
    (expressionPass text start).Passes depth depth := by
  intro b i wide
  simp [expressionPass, ne_of_wide wide, Ascii]

def endsExpression (depth : Nat) (c : Char) (rest : List Char) : Prop :=
  depth = 0 ∧ ((c = ')' ∨ c = '}' ∨ c = ']') ∨ c = ';' ∨ c = '\n' ∧ exportsNext rest = true)

def depthAfter (c : Char) (depth : Nat) : Nat :=
  if c = '(' ∨ c = '{' ∨ c = '[' then depth + 1
  else if c = ')' ∨ c = '}' ∨ c = ']' then depth - 1
  else depth

theorem depthAfter_of_wide (wide : ¬ Ascii c) : depthAfter c depth = depth := by
  simp [depthAfter, ne_of_wide wide, Ascii]

theorem expressionFrom_of_ends (ends : endsExpression depth c rest) :
    expressionFrom depth (c :: rest) = [] := by
  obtain ⟨rfl, closes | rfl | ⟨rfl, exports⟩⟩ := ends
  · have flat : ¬ (c = '(' ∨ c = '{' ∨ c = '[') := by rcases closes with rfl | rfl | rfl <;> decide
    simp [expressionFrom, flat, closes]
  · rfl
  · rw [exportsNext] at exports
    rw [expressionFrom, if_neg (by decide), if_neg (by decide), if_neg (by decide),
      if_pos ⟨rfl, rfl, exports⟩]

theorem expressionFrom_of_goesOn (goesOn : ¬ endsExpression depth c rest) :
    expressionFrom depth (c :: rest) = c :: expressionFrom (depthAfter c depth) rest := by
  rw [expressionFrom.eq_def, depthAfter]
  dsimp only
  split_ifs with opens closes ends exports
  · rfl
  · cases depth with
    | zero => exact absurd ⟨rfl, .inl closes⟩ goesOn
    | succ depth => rfl
  · exact absurd ⟨ends.2, .inr (.inl ends.1)⟩ goesOn
  · exact absurd ⟨exports.2.1, .inr (.inr ⟨exports.1, exports.2.2⟩)⟩ goesOn
  · rfl

theorem ascii_of_endsExpression (ends : endsExpression depth c rest) : Ascii c := by
  obtain ⟨-, (rfl | rfl | rfl) | rfl | ⟨rfl, -⟩⟩ := ends <;> decide

theorem exportsNext_newline (rest : List Char) :
    exportsNext ('\n' :: rest) = exportsNext rest := rfl

theorem expressionPass_step_ends (ends : endsExpression depth c rest)
    (before : At text start (mid ++ c :: rest)) (place : At text i (c :: rest)) :
    (expressionPass text start).step c i depth = .ok (.done (trim mid)) := by
  have cut := before.slice place
  obtain ⟨rfl, closes | rfl | ⟨rfl, exports⟩⟩ := ends
  · have flat : ¬ (c = '(' ∨ c = '{' ∨ c = '[') := by rcases closes with rfl | rfl | rfl <;> decide
    simp [expressionPass, flat, closes, cut]
  · simp [expressionPass, cut]
  · simp [expressionPass, place.sliceFrom, exportsNext_newline, exports, cut]

theorem expressionPass_step_goesOn (goesOn : ¬ endsExpression depth c rest)
    (place : At text i (c :: rest)) :
    (expressionPass text start).step c i depth =
      .ok (.next (i + 1) (depthAfter c depth : Nat)) := by
  simp only [expressionPass, depthAfter, place.sliceFrom, ok_bind, pure_eq_ok]
  split_ifs with opens closes below ends newline exports
  · rfl
  · exact absurd ⟨by omega, .inl closes⟩ goesOn
  · rw [Int.natCast_sub (by omega)]
    rfl
  · exact absurd ⟨by omega, .inr (.inl ends.1)⟩ goesOn
  · obtain ⟨rfl, top⟩ := newline
    exact absurd ⟨by omega, .inr (.inr ⟨rfl, exports⟩)⟩ goesOn
  · rfl
  · rfl

theorem run_expressionPass (before : At text start (mid ++ rest)) (place : At text i rest) :
    (expressionPass text start).run text i depth =
      .ok (trim (mid ++ expressionFrom depth rest)) := by
  induction rest generalizing mid i depth with
  | nil =>
    rw [Pass.run_of_end place]
    simp [expressionPass, before.sliceFrom, expressionFrom]
  | cons c rest ih =>
    by_cases ends : endsExpression depth c rest
    · rw [Pass.run_of_done (place.byte?_ascii (ascii_of_endsExpression ends))
        (expressionPass_step_ends ends before place), expressionFrom_of_ends ends, List.append_nil]
    · have longer : At text start ((mid ++ [c]) ++ rest) := by simpa using before
      have next : (expressionPass text start).run text i depth =
          (expressionPass text start).run text (i + c.utf8Size) (depthAfter c depth : Nat) := by
        refine Pass.run_char place (fun _ => expressionPass_step_goesOn ends place) fun wide => ?_
        rw [depthAfter_of_wide wide]
        exact ⟨expressionPass_passes text start depth, expressionPass_passes text start depth⟩
      rw [next, ih longer place.next, expressionFrom_of_goesOn ends]
      simp

theorem expression_eq (place : At text i rest) :
    expression text i = .ok (Declaration.expression rest) := by
  have start : At text i ([] ++ rest) := place
  exact run_expressionPass start place

def annotationEnd (text : List Char) (start : Nat) : Checked (Option Nat) := do
  match char? ':' (trimStart (← sliceFrom text start)) with
  | some annotation => typesEnd text (← subtract (bytes text).length (byteLength annotation)) true
  | none => return some start

def block (text : List Char) (brace : Nat) : Checked (Option (List Char)) :=
  return (← balancedBody .braces text brace) <|> fromByte? (brace + 1) text

def bodyFrom (text : List Char) (start : Nat) : Checked (Option (List Char)) := do
  let rest ← sliceFrom text start
  match (find? "=>".toList rest).map (start + ·), (find? ['{'] rest).map (start + ·) with
  | some arrow, none => return some (← expression text (arrow + 2))
  | none, none => return none
  | none, some brace => block text brace
  | some arrow, some brace =>
    if arrow < brace then
      if (trim (← slice text (arrow + 2) brace)).isEmpty then block text brace
      else return some (← expression text (arrow + 2))
    else block text brace

def hookBody (text : List Char) (opening : Nat) : Checked (Option (List Char)) := do
  match ← matchingClose .parens text opening with
  | none => return none
  | some close =>
    match ← annotationEnd text (close + 1) with
    | none => return none
    | some after => bodyFrom text after

theorem afterAnnotation?_eq (text : List Char) : afterAnnotation? text =
    (char? ':' (trimStart text)).elim (some text) (afterTypes? true) := by
  rw [afterAnnotation?]
  cases trimStart text with
  | nil => rfl
  | cons c rest =>
    by_cases colon : c = ':'
    · subst colon
      rfl
    · simp [char?, colon]

theorem suffix_of_colon (annotated : char? ':' (trimStart text) = some rest) : rest <:+ text := by
  have inside : ':' :: rest <:+ text := char?_eq_some_iff.1 annotated ▸ trimStart_suffix text
  exact (List.suffix_cons ':' rest).trans inside

theorem suffix_of_afterAnnotation? (read : afterAnnotation? text = some rest) : rest <:+ text := by
  rw [afterAnnotation?_eq] at read
  cases annotated : char? ':' (trimStart text) with
  | none =>
    rw [annotated] at read
    cases read
    exact List.suffix_refl _
  | some annotation =>
    rw [annotated] at read
    exact (suffix_of_sectionEnd? read).trans (suffix_of_colon annotated)

theorem annotationEnd_eq (place : At text i rest) : annotationEnd text i =
    .ok ((afterAnnotation? rest).map fun found => byteLength text - byteLength found) := by
  rw [annotationEnd, afterAnnotation?_eq, place.sliceFrom, ok_bind]
  cases annotated : char? ':' (trimStart rest) with
  | none =>
    have size := place.size
    have here : byteLength text - byteLength rest = i := by omega
    simp [here]
  | some annotation =>
    have part : annotation <:+ text := (suffix_of_colon annotated).trans place.suffix
    simp only [subtract_of_suffix part, ok_bind]
    exact run_sectionPass (.of_suffix part)

theorem block_eq (place : At text i ('{' :: rest)) :
    block text i = .ok (some (Delimiters.braces.contents ('{' :: rest))) := by
  have body : balancedBody .braces text i =
      .ok ((Delimiters.braces.body? ('{' :: rest)).map Prod.fst) :=
    balancedBody_of_at ascii_braces place
  rw [block, body, fromByte?_eq_some_iff.2 (place.succ ascii_braces.1), Delimiters.contents]
  cases Delimiters.braces.body? ('{' :: rest) <;> rfl

theorem append_of_cutAt? {word before : List Char} (cut : cutAt? word text = some (before, rest)) :
    text = before ++ rest ∧ word <+: rest := by
  induction text generalizing before with
  | nil =>
    cases word with
    | nil => simp_all [cutAt?]
    | cons c word => simp [cutAt?] at cut
  | cons c text ih =>
    rw [cutAt?] at cut
    split at cut
    case isTrue here =>
      cases cut
      exact ⟨rfl, startsWith_iff.1 here⟩
    case isFalse =>
      obtain ⟨⟨front, found⟩, later, pair⟩ := Option.map_eq_some_iff.1 cut
      cases pair
      obtain ⟨whole, starts⟩ := ih later
      exact ⟨congrArg (c :: ·) whole, starts⟩

theorem byteLength_pos (text : List Char) (full : text ≠ []) : 0 < byteLength text := by
  cases text with
  | nil => exact absurd rfl full
  | cons c text => exact Nat.add_pos_left c.utf8Size_pos _

theorem byteLength_lt_iff {front front' back back' : List Char}
    (same : front ++ back = front' ++ back') :
    byteLength front < byteLength front' ↔ front.length < front'.length := by
  have grow (front more : List Char) : byteLength front < byteLength (front ++ more) ↔
      front.length < (front ++ more).length := by
    cases more with
    | nil => simp
    | cons c more =>
      have bytes := byteLength_pos (c :: more) (List.cons_ne_nil c more)
      simp only [byteLength_append, List.length_append, List.length_cons]
      omega
  rcases List.append_eq_append_iff.1 same with ⟨more, rfl, -⟩ | ⟨more, rfl, -⟩
  · exact grow front more
  · simp only [byteLength_append, List.length_append]
    omega

theorem dropWhile_brace {before after : List Char}
    (later : before.length < ((before ++ '=' :: '>' :: after).takeWhile (· ≠ '{')).length) :
    (before ++ '=' :: '>' :: after).dropWhile (· ≠ '{') = after.dropWhile (· ≠ '{') := by
  have plain : before.takeWhile (· ≠ '{') = before := by
    by_contra shorter
    rw [List.takeWhile_append, if_neg fun same =>
      shorter (List.takeWhile_prefix _ |>.eq_of_length same)] at later
    exact absurd later (Nat.not_lt.2 (List.takeWhile_prefix _).length_le)
  rw [List.takeWhile_eq_self_iff] at plain
  rw [List.dropWhile_append_of_pos plain]
  simp

theorem At.arrow {before : List Char} (place : At text i rest)
    (cut : cutAt? "=>".toList rest = some (before, mid)) :
    ∃ after, mid = '=' :: '>' :: after ∧ At text (i + byteLength before + 2) after := by
  obtain ⟨rfl, after, rfl⟩ := append_of_cutAt? cut
  have arrow : At text (i + byteLength before) ('=' :: '>' :: after) := place.append
  exact ⟨after, rfl, (arrow.succ (by decide)).succ (by decide)⟩

theorem At.brace {before : List Char} (place : At text i rest)
    (cut : cutAt? ['{'] rest = some (before, mid)) :
    ∃ inside, mid = '{' :: inside ∧ At text (i + byteLength before) ('{' :: inside) := by
  obtain ⟨rfl, inside, rfl⟩ := append_of_cutAt? cut
  exact ⟨inside, rfl, place.append⟩

theorem slice_arrow_brace {before after front : List Char} (place : At text i rest)
    (arrows : cutAt? "=>".toList rest = some (before, '=' :: '>' :: after))
    (braces : cutAt? ['{'] rest = some (front, mid))
    (later : before.length < front.length) :
    slice text (i + byteLength before + 2) (i + byteLength front) =
      .ok (after.takeWhile (· ≠ '{')) := by
  obtain ⟨inner, same, start⟩ := place.arrow arrows
  obtain ⟨opened, rfl, stop⟩ := place.brace braces
  obtain ⟨whole, -⟩ := append_of_cutAt? arrows
  cases same
  have first : front = rest.takeWhile (· ≠ '{') ∧ '{' :: opened = rest.dropWhile (· ≠ '{') := by
    rw [cutAt?_singleton] at braces
    split at braces
    · simp only [Option.some.injEq, Prod.mk.injEq] at braces
      exact ⟨braces.1.symm, braces.2.symm⟩
    · cases braces
  rw [whole] at first
  rw [first.1] at later
  rw [first.2, dropWhile_brace later] at stop
  rw [← List.takeWhile_append_dropWhile (p := (· ≠ '{')) (l := after)] at start
  exact start.slice stop

theorem bodyFrom_eq (place : At text i rest) : bodyFrom text i = .ok (bodyFrom? rest) := by
  rw [bodyFrom, bodyFrom?, place.sliceFrom, ok_bind, find?, find?]
  cases arrows : cutAt? "=>".toList rest with
  | none =>
    cases braces : cutAt? ['{'] rest with
    | none => rfl
    | some brace =>
      obtain ⟨inside, same, opens⟩ := place.brace braces
      simp [same, block_eq opens]
  | some arrow =>
    obtain ⟨before, _⟩ := arrow
    obtain ⟨after, rfl, start⟩ := place.arrow arrows
    have body := expression_eq start
    cases braces : cutAt? ['{'] rest with
    | none => simp [body]
    | some brace =>
      obtain ⟨front, _⟩ := brace
      obtain ⟨inside, rfl, opens⟩ := place.brace braces
      -- The two places are compared by bytes here, and by characters in `bodyFrom?`.
      have order : i + byteLength before < i + byteLength front ↔ before.length < front.length := by
        rw [Nat.add_lt_add_iff_left]
        exact byteLength_lt_iff ((append_of_cutAt? arrows).1.symm.trans (append_of_cutAt? braces).1)
      by_cases later : before.length < front.length
      · have between := slice_arrow_brace place arrows braces later
        simp only [Option.map_some, order, later, between, List.drop_succ_cons, List.drop_zero,
          if_true, true_and, ok_bind]
        generalize after.takeWhile (· ≠ '{') = gap
        by_cases empty : trim gap = [] <;> simp [empty, body, block_eq opens]
      · simp [order, later, block_eq opens]

theorem hookBody?_eq (text : List Char) : hookBody? text =
    (Delimiters.parens.split? '(' 0 text).bind fun parameters =>
      (afterAnnotation? parameters.2).bind bodyFrom? := by
  have parameters : Delimiters.parens.body? ('(' :: text) = Delimiters.parens.split? '(' 0 text :=
    body?_opener Delimiters.parens text
  rw [hookBody?, parameters]
  rfl

theorem hookBody_eq (place : At text i ('(' :: rest)) : hookBody text i = .ok (hookBody? rest) := by
  have close : matchingClose .parens text i =
      .ok ((Delimiters.parens.split? '(' 0 rest).map fun found => i + 1 + byteLength found.1) :=
    matchingClose_of_at ascii_parens place
  rw [hookBody, hookBody?_eq, close]
  cases parameters : Delimiters.parens.split? '(' 0 rest with
  | none => rfl
  | some found =>
    have after := (place.delimited ascii_parens parameters).2
    simp only [Option.map_some, Option.bind_some, ok_bind, annotationEnd_eq after]
    cases annotation : afterAnnotation? found.2 with
    | none => rfl
    | some body =>
      exact bodyFrom_eq (.of_suffix ((suffix_of_afterAnnotation? annotation).trans after.suffix))

def hookDeclarations (text : List Char) : Checked (List HookDeclaration) := do
  let placed ← (hits hookFunction text ++ hits hookConstant text).filterMapM fun hit => do
    match ← hookBody text (← subtract (stop text hit) 1) with
    | some body => return some (hit.position, HookDeclaration.mk (String.ofList hit.value) body)
    | none => return none
  return (placed.mergeSort fun a b => a.1 ≤ b.1).map (·.2)

def writtenKey (window : List Char) : Checked (Option (List String)) :=
  (hits keyField window).findSomeM? fun hit => do
    match ← balancedBody .brackets window (← subtract (stop window hit) 1) with
    | some array =>
      match (← literals array).map String.ofList with
      | [] => return none
      | keys => return some keys
    | none => return none

def hook (declaration : HookDeclaration) (path : String) (apis known : NameSet) : Checked Hook := do
  let window ← truncate declaration.body hookWindow
  let dependencies ← (apis.names ++ known.names).filterM fun name => do
    if name = declaration.name then return false else mentions declaration.body name.toList
  return {
    name := declaration.name
    path
    binding := binding? window
    cacheKey := (← writtenKey window) <|> (derivedKey? declaration.name)
    usesQuery := fits (callOf queryFunctions) window
    usesMutation := fits (callOf mutationFunctions) window
    dependencies := .ofList dependencies }

def hooks (source : List Char) (path : String) (apis known : NameSet) : Checked (Dict Hook) := do
  let declarations ← hookDeclarations (← stripComments source)
  gather declarations (·.name) fun declaration => return some (← hook declaration path apis known)

theorem hookDeclarations_eq (text : List Char) :
    hookDeclarations text = .ok (Declaration.hookDeclarations text) := by
  rw [hookDeclarations, Declaration.hookDeclarations, filterMapM_eq fun hit =>
    (hookBody? hit.rest).map fun body =>
      (hit.position, HookDeclaration.mk (String.ofList hit.value) body)]
  · rfl
  · intro hit found
    obtain ⟨i, offset, place⟩ :
        ∃ i, subtract (stop text hit) 1 = .ok i ∧ At text i ('(' :: hit.rest) := by
      rcases List.mem_append.1 found with found | found
      · exact exists_subtract_stop leaves_exportedHookFunction?.atLineStart (by decide) found
      · exact exists_subtract_stop leaves_exportedHookConstant?.atLineStart (by decide) found
    rw [offset, ok_bind, hookBody_eq place, ok_bind]
    cases hookBody? hit.rest <;> rfl

theorem ascii_brackets :
    Ascii Delimiters.brackets.opener ∧ Ascii Delimiters.brackets.closer := by decide

theorem writtenKey_eq (window : List Char) : writtenKey window = .ok (writtenKey? window) := by
  apply findSomeM?_eq
  intro hit found
  obtain ⟨i, offset, place⟩ := exists_subtract_stop leaves_keyField (by decide) found
  have array : balancedBody .brackets window i =
      .ok ((Delimiters.brackets.body? ('[' :: hit.rest)).map Prod.fst) :=
    balancedBody_of_at ascii_brackets place
  rw [offset, ok_bind, array, ok_bind]
  cases Delimiters.brackets.body? ('[' :: hit.rest) with
  | none => rfl
  | some found =>
    simp only [Option.map_some, literals_eq, ok_bind, Option.bind_eq_bind, Option.bind_some]
    cases (Source.literals found.1).map String.ofList <;> rfl

theorem hook_eq (declaration : HookDeclaration) (path : String) (apis known : NameSet) :
    hook declaration path apis known = .ok (declaration.hook path apis known) := by
  have mentioned : ((apis.names ++ known.names).filterM fun name => do
      if name = declaration.name then return false else mentions declaration.body name.toList) =
      .ok ((apis.names ++ known.names).filter fun name =>
        name != declaration.name && Source.mentions declaration.body name.toList) := by
    apply filterM_eq
    intro name _
    by_cases own : name = declaration.name
    · simp [own]
    · simp [own, mentions_eq]
  have collected : NameSet.ofList ((apis.names ++ known.names).filter fun name =>
      name != declaration.name && Source.mentions declaration.body name.toList) =
      (apis.union known).filter fun name =>
        name != declaration.name && Source.mentions declaration.body name.toList := by
    apply NameSet.ext_mem
    intro name
    simp [or_and_right]
  rw [hook, truncate_eq, ok_bind, mentioned, ok_bind, writtenKey_eq, ok_bind, collected]
  rfl

theorem hooks_eq (source : List Char) (path : String) (apis known : NameSet) :
    hooks source path apis known = .ok (Declaration.hooks source path apis known) := by
  rw [hooks, stripComments_eq, ok_bind, hookDeclarations_eq, ok_bind, Declaration.hooks,
    gather_eq _ fun declaration => some (declaration.hook path apis known)]
  · simp
  · intro declaration _
    rw [hook_eq]
    rfl

end FrontendAtlas.Bytes
