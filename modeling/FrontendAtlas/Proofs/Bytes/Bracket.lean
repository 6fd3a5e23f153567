import FrontendAtlas.Proofs.Bytes.Boundary
import FrontendAtlas.Source.Bracket
import FrontendAtlas.Source.Template

namespace FrontendAtlas.Bytes

open FrontendAtlas.Text FrontendAtlas.Source

variable {text mid rest : List Char} {c previous : Char} {i j depth : Nat} {d : Delimiters}

def endsArrow (d : Delimiters) (text : List Char) (i : Nat) : Checked Bool := do
  if d.closer = '>' ∧ 0 < i then return (← byteAt text (← subtract i 1)) == '=' else return false

def closePass (d : Delimiters) (text : List Char) : Pass Nat (Option Nat) where
  step c i depth := do
    if c = d.opener then return .next (i + 1) (depth + 1)
    else if c = d.closer then
      if ← endsArrow d text i then return .next (i + 1) depth
      let depth ← subtract depth 1
      if depth = 0 then return .done (some i) else return .next (i + 1) depth
    else return .next (i + 1) depth
  finish _ _ := return none

def matchingClose (d : Delimiters) (text : List Char) (offset : Nat) : Checked (Option Nat) :=
  if byte? text offset = some d.opener then (closePass d text).run text offset 0 else return none

theorem closePass_passes (ascii : Ascii d.opener ∧ Ascii d.closer) :
    (closePass d text).Passes depth depth := by
  intro b i wide
  simp [closePass, ne_of_wide wide ascii.1, ne_of_wide wide ascii.2]

theorem endsArrow_eq (before : At text j (previous :: rest)) :
    endsArrow d text (j + previous.utf8Size) = .ok (!d.closesAfter previous) := by
  obtain ⟨b, read, same⟩ := before.byte?_last
  have positive : 0 < j + previous.utf8Size := Nat.add_pos_right j previous.utf8Size_pos
  by_cases angle : d.closer = '>'
  · have equals : (b == '=') = (previous == '=') := by
      rw [Bool.eq_iff_iff, beq_iff_eq, beq_iff_eq, same '=' (by decide)]
    simp [endsArrow, Delimiters.closesAfter, angle, positive, subtract, Nat.succ_le_of_lt positive,
      byteAt, read, equals]
  · simp [endsArrow, Delimiters.closesAfter, angle]

theorem closePass_step_closer (depth : Nat) (apart : d.closer ≠ d.opener)
    (before : At text j (previous :: rest)) :
    (closePass d text).step d.closer (j + previous.utf8Size) (depth + 1) =
      .ok (if d.closesAfter previous then
        if depth = 0 then .done (some (j + previous.utf8Size))
        else .next (j + previous.utf8Size + 1) depth
      else .next (j + previous.utf8Size + 1) (depth + 1)) := by
  simp only [closePass, if_neg apart, if_true, endsArrow_eq before]
  cases closes : d.closesAfter previous with
  | true => by_cases flat : depth = 0 <;> simp [subtract, flat]
  | false => rfl

theorem run_closePass_next {later : Nat} (place : At text i (c :: rest)) (small : Ascii c)
    (step : (closePass d text).step c i depth = .ok (.next (i + 1) later)) :
    (closePass d text).run text i depth = (closePass d text).run text (i + c.utf8Size) later := by
  rw [Pass.run_of_next (place.byte?_ascii small) step (Nat.lt_succ_self i), utf8Size_of_ascii small]

theorem run_closePass (ascii : Ascii d.opener ∧ Ascii d.closer)
    (before : At text j (previous :: rest)) :
    (closePass d text).run text (j + previous.utf8Size) (depth + 1) =
      .ok ((d.split? previous depth rest).map fun found =>
        j + previous.utf8Size + byteLength found.1) := by
  -- The pass is one delimiter deeper than the split counts, so its depth is never zero.
  fun_induction Delimiters.split? d previous depth rest generalizing j with
  | case1 => exact Pass.run_of_end before.next
  | case2 previous depth rest ih =>
    rw [run_closePass_next before.next ascii.1 (by simp [closePass]; rfl), ih before.next]
    simp [Function.comp_def, byteLength, Nat.add_assoc]
  | case3 previous c rest flat closes =>
    obtain ⟨rfl, closes⟩ := closes
    have step := closePass_step_closer 0 flat before
    rw [closes, if_pos rfl, if_pos rfl] at step
    exact Pass.run_of_done (before.next.byte?_ascii ascii.2) step
  | case4 previous c rest flat closes depth ih =>
    obtain ⟨rfl, closes⟩ := closes
    have step := closePass_step_closer (depth + 1) flat before
    rw [closes, if_pos rfl, if_neg (Nat.succ_ne_zero depth)] at step
    rw [run_closePass_next before.next ascii.2 step, ih before.next]
    simp [Function.comp_def, byteLength, Nat.add_assoc]
  | case5 previous depth c rest flat stays ih =>
    have plain (small : Ascii c) : (closePass d text).step c (j + previous.utf8Size) (depth + 1) =
        .ok (.next (j + previous.utf8Size + 1) (depth + 1)) := by
      by_cases closer : c = d.closer
      · subst closer
        rw [closePass_step_closer depth flat before, if_neg fun closes => stays ⟨rfl, closes⟩]
      · simp [closePass, flat, closer]
    rw [Pass.run_plain before.next (closePass_passes ascii) plain, ih before.next]
    simp [Function.comp_def, byteLength, Nat.add_assoc]

theorem append_of_split? {found : List Char × List Char}
    (split : d.split? previous depth rest = some found) :
    rest = found.1 ++ d.closer :: found.2 := by
  fun_induction Delimiters.split? d previous depth rest generalizing found with
  | case1 => cases split
  | case2 previous depth rest ih =>
    obtain ⟨inner, deeper, rfl⟩ := Option.map_eq_some_iff.1 split
    simp [ih deeper]
  | case3 previous c rest flat closes =>
    cases split
    simp [closes.1]
  | case4 previous c rest flat closes depth ih =>
    obtain ⟨inner, deeper, rfl⟩ := Option.map_eq_some_iff.1 split
    simp [ih deeper]
  | case5 previous depth c rest flat stays ih =>
    obtain ⟨inner, deeper, rfl⟩ := Option.map_eq_some_iff.1 split
    simp [ih deeper]

theorem suffix_of_split? {found : List Char × List Char}
    (split : d.split? previous depth rest = some found) :
    found.2 <:+ rest := by
  rw [append_of_split? split]
  exact (List.suffix_cons d.closer found.2).trans (List.suffix_append found.1 _)

theorem At.delimited {found : List Char × List Char} (ascii : Ascii d.opener ∧ Ascii d.closer)
    (place : At text i (d.opener :: rest)) (split : d.split? previous depth rest = some found) :
    At text (i + 1) (found.1 ++ d.closer :: found.2) ∧
      At text (i + 1 + byteLength found.1 + 1) found.2 := by
  have inside := place.succ ascii.1
  rw [append_of_split? split] at inside
  exact ⟨inside, inside.append.succ ascii.2⟩

theorem body?_opener (d : Delimiters) (rest : List Char) :
    d.body? (d.opener :: rest) = d.split? d.opener 0 rest :=
  if_pos rfl

theorem matchingClose_of_at (ascii : Ascii d.opener ∧ Ascii d.closer)
    (place : At text i (d.opener :: rest)) :
    matchingClose d text i =
      .ok ((d.split? d.opener 0 rest).map fun found => i + 1 + byteLength found.1) := by
  have read := place.byte?_ascii ascii.1
  rw [matchingClose, if_pos read, run_closePass_next place ascii.1 (by simp [closePass]; rfl),
    run_closePass ascii place, utf8Size_of_ascii ascii.1]

theorem opens_cases (ascii : Ascii d.opener) (text : List Char) (offset : Nat) :
    (byte? text offset ≠ some d.opener ∧ (fromByte? offset text).bind d.body? = none) ∨
      ∃ rest, At text offset (d.opener :: rest) ∧
        (fromByte? offset text).bind d.body? = d.split? d.opener 0 rest := by
  by_cases read : byte? text offset = some d.opener
  · obtain ⟨rest, place⟩ := exists_at_of_byte? read ascii
    exact .inr ⟨rest, place, by simp [fromByte?_eq_some_iff.2 place, body?_opener]⟩
  · refine .inl ⟨read, ?_⟩
    rw [Option.bind_eq_none_iff]
    intro rest found
    have place := fromByte?_eq_some_iff.1 found
    cases rest with
    | nil => rfl
    | cons c rest =>
      refine if_neg ?_
      rintro rfl
      exact read (place.byte?_ascii ascii)

theorem matchingClose_eq (ascii : Ascii d.opener ∧ Ascii d.closer) (text : List Char)
    (offset : Nat) :
    matchingClose d text offset = .ok (d.close? text offset) := by
  have closes : d.close? text offset =
      ((fromByte? offset text).bind d.body?).map fun found => offset + 1 + byteLength found.1 := by
    simp [Delimiters.close?, Option.map_eq_bind, Option.bind_assoc]
  rw [closes]
  rcases opens_cases ascii.1 text offset with ⟨other, nothing⟩ | ⟨rest, place, inside⟩
  · rw [matchingClose, if_neg other, nothing]
    rfl
  · rw [matchingClose_of_at ascii place, inside]

def balancedBody (d : Delimiters) (text : List Char) (offset : Nat) :
    Checked (Option (List Char)) := do
  match ← matchingClose d text offset with
  | some stop => return some (← slice text (offset + 1) stop)
  | none => return none

def truncate (text : List Char) (limit : Nat) : Checked (List Char) :=
  if limit < text.length then slice text 0 (byteLength (text.take limit)) else return text

def boundedBody (d : Delimiters) (text : List Char) (offset limit : Nat) : Checked (List Char) := do
  truncate ((← balancedBody d text offset).getD ((fromByte? (offset + 1) text).getD [])) limit

theorem balancedBody_of_at (ascii : Ascii d.opener ∧ Ascii d.closer)
    (place : At text i (d.opener :: rest)) :
    balancedBody d text i = .ok ((d.body? (d.opener :: rest)).map Prod.fst) := by
  rw [balancedBody, matchingClose_of_at ascii place, body?_opener]
  cases split : d.split? d.opener 0 rest with
  | none => rfl
  | some found =>
    have inside := (place.delimited ascii split).1
    simp [inside.slice inside.append]

theorem balancedBody_eq (ascii : Ascii d.opener ∧ Ascii d.closer) (text : List Char)
    (offset : Nat) :
    balancedBody d text offset = .ok (d.bodyAt? text offset) := by
  have body : d.bodyAt? text offset = ((fromByte? offset text).bind d.body?).map Prod.fst := by
    simp [Delimiters.bodyAt?, Option.map_eq_bind, Option.bind_assoc]
  rw [body]
  rcases opens_cases ascii.1 text offset with ⟨other, nothing⟩ | ⟨rest, place, inside⟩
  · rw [balancedBody, matchingClose, if_neg other, nothing]
    rfl
  · rw [balancedBody_of_at ascii place, inside, body?_opener]

theorem truncate_eq (text : List Char) (limit : Nat) :
    truncate text limit = .ok (text.take limit) := by
  rw [truncate]
  split
  case isTrue long =>
    have start : At text 0 (text.take limit ++ text.drop limit) := by simpa using At.start text
    exact start.slice (by simpa using start.append)
  case isFalse short => rw [List.take_of_length_le (by omega)]; rfl

theorem boundedBody_eq (ascii : Ascii d.opener ∧ Ascii d.closer) (text : List Char)
    (offset limit : Nat) :
    boundedBody d text offset limit = .ok (d.window text offset limit) := by
  rw [boundedBody, balancedBody_eq ascii]
  exact truncate_eq _ limit

theorem window_of_at (ascii : Ascii d.opener ∧ Ascii d.closer)
    (place : At text i (d.opener :: rest)) (limit : Nat) :
    d.window text i limit = (d.contents (d.opener :: rest)).take limit := by
  have body : d.bodyAt? text i = (d.body? (d.opener :: rest)).map Prod.fst :=
    Except.ok.inj ((balancedBody_eq ascii text i).symm.trans (balancedBody_of_at ascii place))
  rw [Delimiters.window, body, fromByte?_eq_some_iff.2 (place.succ ascii.1), Delimiters.contents]
  cases d.body? (d.opener :: rest) <;> rfl

def templatePass (text : List Char) (start : Nat) : Pass Unit (Option (List Char)) where
  step c i _ := do
    if c = '\\' then return .next (i + 2) ()
    else if c = '\x60' then return .done (some (← slice text start i))
    else if c = '$' ∧ byte? text (i + 1) = some '{' then
      match ← matchingClose .braces text (i + 1) with
      | some stop => return .next (stop + 1) ()
      | none => return .done none
    else return .next (i + 1) ()
  finish _ _ := return none

def template (text : List Char) (offset : Nat) : Checked (Option (List Char)) :=
  if byte? text offset = some '\x60' then (templatePass text (offset + 1)).run text (offset + 1) ()
  else return none

def routePass (text : List Char) : Pass (List Char) (List Char) where
  step c i out := do
    if c = '$' ∧ byte? text (i + 1) = some '{' then
      match ← matchingClose .braces text (i + 1) with
      | some stop => return .next (stop + 1) (out ++ routeParameter (← slice text (i + 2) stop))
      | none => return .done out
    else if c = '?' then return .done out
    else
      let next := ((← sliceFrom text i).head?).getD '\x00'
      return .next (i + max next.utf8Size 1) (out ++ [next])
  finish _ out := return out

def route (text : List Char) : Checked (List Char) :=
  (routePass text).run text 0 []

section Braces

variable (previous : Char) (rest : List Char) (braces : Nat)

theorem split?_braces_open : Delimiters.braces.split? previous braces ('{' :: rest) =
    (Delimiters.braces.split? '{' (braces + 1) rest).map fun found =>
      ('{' :: found.1, found.2) := by
  cases braces <;> simp [Delimiters.split?, Delimiters.braces]

theorem split?_braces_close : Delimiters.braces.split? previous 0 ('}' :: rest) = some ([], rest) :=
  rfl

theorem split?_braces_close_succ : Delimiters.braces.split? previous (braces + 1) ('}' :: rest) =
    (Delimiters.braces.split? '}' braces rest).map fun found => ('}' :: found.1, found.2) := rfl

theorem split?_braces_plain (opens : c ≠ '{') (closes : c ≠ '}') :
    Delimiters.braces.split? previous braces (c :: rest) =
      (Delimiters.braces.split? c braces rest).map fun found => (c :: found.1, found.2) := by
  cases braces <;> simp [Delimiters.split?, Delimiters.braces, opens, closes]

theorem templateBody?_succ : templateBody? (braces + 1) rest =
    (Delimiters.braces.split? previous braces rest).bind fun found =>
      (templateBody? 0 found.2).map (found.1 ++ '}' :: ·) := by
  induction rest generalizing braces previous with
  | nil => rfl
  | cons c rest ih =>
    by_cases opens : c = '{'
    · simp [templateBody?, opens, split?_braces_open, ih '{', Option.map_bind, Option.bind_map,
        Function.comp_def]
    by_cases closes : c = '}'
    · cases braces with
      | zero => simp [templateBody?, closes, split?_braces_close]
      | succ braces =>
        simp [templateBody?, closes, split?_braces_close_succ, ih '}', Option.map_bind,
          Option.bind_map, Function.comp_def]
    · simp [templateBody?, opens, closes, split?_braces_plain, ih c, Option.map_bind,
        Option.bind_map, Function.comp_def]

theorem routeFrom_interpolation (seen : List Char) :
    routeFrom (.interpolation braces seen.reverse) rest =
    (Delimiters.braces.split? previous braces rest).elim [] fun found =>
      routeParameter (seen ++ found.1) ++ routeFrom .text found.2 := by
  induction rest generalizing braces previous seen with
  | nil => rfl
  | cons c rest ih =>
    have later (braces : Nat) := ih c braces (seen ++ [c])
    simp only [List.reverse_append, List.reverse_singleton, List.singleton_append,
      List.append_assoc] at later
    by_cases opens : c = '{'
    · subst opens
      cases braces <;> simp [routeFrom, split?_braces_open, later, Function.comp_def]
    by_cases closes : c = '}'
    · subst closes
      cases braces with
      | zero => simp [routeFrom, split?_braces_close]
      | succ braces => simp [routeFrom, split?_braces_close_succ, later, Function.comp_def]
    · cases braces <;> simp [routeFrom, opens, closes, split?_braces_plain, later,
        Function.comp_def]

end Braces

theorem ascii_braces : Ascii Delimiters.braces.opener ∧ Ascii Delimiters.braces.closer := by decide

theorem matchingClose_interpolation (place : At text i ('$' :: '{' :: rest)) :
    matchingClose .braces text (i + 1) =
      .ok ((Delimiters.braces.split? '{' 0 rest).map fun found => i + 2 + byteLength found.1) :=
  matchingClose_of_at ascii_braces (place.succ (by decide))

theorem templatePass_step_interpolation (start : Nat) (place : At text i ('$' :: '{' :: rest)) :
    (templatePass text start).step '$' i () =
      .ok ((Delimiters.braces.split? '{' 0 rest).elim (.done none) fun found =>
      .next (i + 2 + byteLength found.1 + 1) ()) := by
  have brace := ((place.succ (by decide)).byte?_eq_iff (a := '{') (by decide)).2 rfl
  simp only [templatePass, brace, matchingClose_interpolation place]
  cases Delimiters.braces.split? '{' 0 rest <;> rfl

theorem run_templatePass_interpolation (start : Nat) (place : At text i ('$' :: '{' :: rest)) :
    (templatePass text start).run text i () =
      (Delimiters.braces.split? '{' 0 rest).elim (.ok none) fun found =>
        (templatePass text start).run text (i + 2 + byteLength found.1 + 1) () :=
  Pass.run_of_elim (place.byte?_ascii (by decide)) (templatePass_step_interpolation start place)
    fun _ => by omega

theorem run_templatePass {start : Nat} (before : At text start (mid ++ rest))
    (place : At text i rest) :
    (templatePass text start).run text i () = .ok ((templateBody? 0 rest).map (mid ++ ·)) := by
  have passes : (templatePass text start).Passes () () := by
    intro b i wide
    simp [templatePass, ne_of_wide wide, Ascii]
  induction rest using suffix_induction generalizing mid i with
  | nil => exact Pass.run_of_end place
  | cons c rest ih =>
    by_cases escape : c = '\\'
    · subst escape
      have skip : (templatePass text start).step '\\' i () = .ok (.next (i + 1 + 1) ()) := rfl
      have after : At text (i + 1) rest := place.succ (by decide)
      rw [Pass.run_of_next (place.byte?_ascii (by decide)) skip (by omega)]
      cases rest with
      | nil => exact Pass.run_of_le (by rw [← after.size]; simp)
      | cons d rest =>
        have longer : At text start ((mid ++ ['\\', d]) ++ rest) := by simpa using before
        rw [Pass.run_succ after passes, ih _ (List.suffix_cons d rest) longer after.next]
        simp [templateBody?, Function.comp_def]
    by_cases stop : c = '\x60'
    · subst stop
      have step : (templatePass text start).step '\x60' i () = .ok (.done (some mid)) := by
        simp [templatePass, before.slice place]
      rw [Pass.run_of_done (place.byte?_ascii (by decide)) step]
      simp [templateBody?]
    by_cases opens : c = '$' ∧ rest.head? = some '{'
    · obtain ⟨rfl, next⟩ := opens
      obtain ⟨rest, rfl⟩ := List.head?_eq_some_iff.1 next
      have body :
          templateBody? 0 ('$' :: '{' :: rest) = (templateBody? 1 rest).map ('$' :: '{' :: ·) := by
        simp [templateBody?]
      rw [run_templatePass_interpolation start place, body, templateBody?_succ '{']
      cases split : Delimiters.braces.split? '{' 0 rest with
      | none => rfl
      | some found =>
        have after := ((place.succ (by decide)).delimited ascii_braces split).2
        have part := (suffix_of_split? split).trans (List.suffix_cons '{' rest)
        have whole : rest = found.1 ++ '}' :: found.2 := append_of_split? split
        have longer : At text start ((mid ++ '$' :: '{' :: (found.1 ++ ['}'])) ++ found.2) := by
          rw [whole] at before
          simpa using before
        simp [ih _ part longer after, Function.comp_def]
    · have plain (small : Ascii c) :
          (templatePass text start).step c i () = .ok (.next (i + 1) ()) := by
        have brace := (place.succ small).byte?_eq_iff (a := '{') (by decide)
        simp [templatePass, escape, stop, brace, opens]
      have longer : At text start ((mid ++ [c]) ++ rest) := by simpa using before
      rw [Pass.run_plain place passes plain, ih _ (List.suffix_refl rest) longer place.next,
        templateBody?_plain escape stop opens]
      simp [Function.comp_def]

theorem template_of_at (place : At text i ('\x60' :: rest)) :
    template text i = .ok (templateBody? 0 rest) := by
  have inside := place.succ (by decide)
  have start : At text (i + 1) ([] ++ rest) := inside
  rw [template, if_pos (place.byte?_ascii (by decide)), run_templatePass start inside]
  simp

theorem template_eq (text : List Char) (offset : Nat) :
    template text offset = .ok (templateAt? text offset) := by
  by_cases read : byte? text offset = some '\x60'
  · obtain ⟨rest, place⟩ := exists_at_of_byte? read (by decide)
    rw [template_of_at place, templateAt?, fromByte?_eq_some_iff.2 place]
    rfl
  · rw [template, if_neg read, templateAt?]
    cases found : fromByte? offset text with
    | none => rfl
    | some rest =>
      have place := fromByte?_eq_some_iff.1 found
      cases rest with
      | nil => rfl
      | cons c rest =>
        have other : c ≠ '\x60' := by
          rintro rfl
          exact read (place.byte?_ascii (by decide))
        simp [template?, other]

theorem routePass_step_interpolation (out : List Char) (place : At text i ('$' :: '{' :: rest)) :
    (routePass text).step '$' i out =
      .ok ((Delimiters.braces.split? '{' 0 rest).elim (.done out) fun found =>
      .next (i + 2 + byteLength found.1 + 1) (out ++ routeParameter found.1)) := by
  have brace := ((place.succ (by decide)).byte?_eq_iff (a := '{') (by decide)).2 rfl
  cases split : Delimiters.braces.split? '{' 0 rest with
  | none => simp [routePass, brace, matchingClose_interpolation place, split]
  | some found =>
    have inside : At text (i + 2) (found.1 ++ '}' :: found.2) :=
      ((place.succ (by decide)).delimited ascii_braces split).1
    simp [routePass, brace, matchingClose_interpolation place, split, inside.slice inside.append]

theorem run_routePass_interpolation (out : List Char) (place : At text i ('$' :: '{' :: rest)) :
    (routePass text).run text i out =
      (Delimiters.braces.split? '{' 0 rest).elim (.ok out) fun found =>
        (routePass text).run text (i + 2 + byteLength found.1 + 1)
          (out ++ routeParameter found.1) :=
  Pass.run_of_elim (place.byte?_ascii (by decide)) (routePass_step_interpolation out place)
    fun _ => by omega

theorem run_routePass_plain (out : List Char) (query : c ≠ '?')
    (plain : ¬ (c = '$' ∧ rest.head? = some '{')) (place : At text i (c :: rest)) :
    (routePass text).run text i out = (routePass text).run text (i + c.utf8Size) (out ++ [c]) := by
  -- Only the first byte is looked at, which for a longer character is no ASCII character.
  obtain ⟨b, read, same⟩ := place.byte?_first
  have step : (routePass text).step b i out = .ok (.next (i + max c.utf8Size 1) (out ++ [c])) := by
    have noInterpolation : ¬ (b = '$' ∧ byte? text (i + 1) = some '{') := by
      rintro ⟨dollar, brace⟩
      rw [same '$' (by decide)] at dollar
      subst dollar
      exact plain ⟨rfl, ((place.succ (by decide)).byte?_eq_iff (by decide)).1 brace⟩
    have path : b ≠ '?' := fun mark => query ((same '?' (by decide)).1 mark)
    simp [routePass, noInterpolation, path, place.sliceFrom]
  rw [Nat.max_eq_left c.utf8Size_pos] at step
  exact Pass.run_of_next read step (Nat.lt_add_of_pos_right c.utf8Size_pos)

theorem run_routePass {out : List Char} (place : At text i rest) :
    (routePass text).run text i out = .ok (out ++ routeFrom .text rest) := by
  induction rest using suffix_induction generalizing out i with
  | nil =>
    rw [Pass.run_of_end place]
    simp [routePass, routeFrom]
  | cons c rest ih =>
    by_cases opens : c = '$' ∧ rest.head? = some '{'
    · obtain ⟨rfl, next⟩ := opens
      obtain ⟨rest, rfl⟩ := List.head?_eq_some_iff.1 next
      have inside := routeFrom_interpolation '{' rest 0 []
      rw [run_routePass_interpolation out place, routeFrom, ← List.reverse_nil, inside]
      cases split : Delimiters.braces.split? '{' 0 rest with
      | none => simp
      | some found =>
        have after := ((place.succ (by decide)).delimited ascii_braces split).2
        have part := (suffix_of_split? split).trans (List.suffix_cons '{' rest)
        simp [ih _ part after]
    by_cases query : c = '?'
    · subst query
      have step : (routePass text).step '?' i out = .ok (.done out) := rfl
      rw [Pass.run_of_done (place.byte?_ascii (by decide)) step]
      simp [routeFrom]
    · have literal : routeFrom .text (c :: rest) = c :: routeFrom .text rest := by
        rw [routeFrom, if_neg query]
        rintro later rfl rfl
        exact opens ⟨rfl, rfl⟩
      rw [run_routePass_plain out query opens place, ih _ (List.suffix_refl rest) place.next,
        literal]
      simp

theorem route_eq (text : List Char) : route text = .ok (Source.route text) :=
  run_routePass (At.start text)

end FrontendAtlas.Bytes
