import FrontendAtlas.Proofs.Bytes.Bracket
import FrontendAtlas.Proofs.Bytes.Literal
import FrontendAtlas.Source.TypeSection

namespace FrontendAtlas.Bytes

open FrontendAtlas.Text FrontendAtlas.Source

variable {text rest : List Char} {c quote : Char} {i depth : Nat} {expected : Bool}

def sectionPass (text : List Char) : Pass (Nat × Bool) (Option Nat) where
  step c i := fun (depth, expected) => do
    if c = '=' ∧ byte? text (i + 1) = some '>' then
      if depth = 0 then return .done (some i) else return .next (i + 2) (depth, true)
    else if c = '(' ∨ c = '[' ∨ c = '<' then return .next (i + 1) (depth + 1, true)
    else if c = ')' ∨ c = ']' ∨ c = '>' then return .next (i + 1) (depth - 1, false)
    else if c = '{' ∧ depth = 0 ∧ expected = false then return .done (some i)
    else if c = '{' then
      match ← matchingClose .braces text i with
      | some stop => return .next (stop + 1) (depth, false)
      | none => return .done none
    else if c = ';' ∧ depth = 0 then return .done none
    else if isTypeConnector c then return .next (i + 1) (depth, true)
    else if isQuote c then return .next (← skipLiteral text i (← byteAt text i)) (depth, false)
    else if isAsciiBlank c then return .next (i + 1) (depth, expected)
    else return .next (i + 1) (depth, false)
  finish _ _ := return none

def typesEnd (text : List Char) (start : Nat) (expected : Bool) : Checked (Option Nat) :=
  (sectionPass text).run text start (0, expected)

def sectionState (c : Char) (depth : Nat) (expected : Bool) : Nat × Bool :=
  if c = '(' ∨ c = '[' ∨ c = '<' then (depth + 1, true)
  else if c = ')' ∨ c = ']' ∨ c = '>' then (depth - 1, false)
  else if isTypeConnector c then (depth, true)
  else if isAsciiBlank c then (depth, expected)
  else (depth, false)

structure Ordinary (c : Char) (depth : Nat) (rest : List Char) : Prop where
  noArrow : ¬ (c = '=' ∧ rest.head? = some '>')
  noBrace : c ≠ '{'
  noEnd : ¬ (c = ';' ∧ depth = 0)
  noQuote : ¬ isQuote c = true

theorem sectionEnd?_ordinary (ordinary : Ordinary c depth rest) :
    sectionEnd? (.types depth expected) (c :: rest) =
      sectionEnd?
        (.types (sectionState c depth expected).1 (sectionState c depth expected).2) rest := by
  rw [sectionEnd?, sectionState]
  · rw [if_neg ordinary.noBrace, if_neg ordinary.noEnd, if_neg ordinary.noQuote]
    split_ifs <;> rfl
  · rintro later rfl rfl
    exact ordinary.noArrow ⟨rfl, rfl⟩

theorem sectionPass_step_ordinary (ordinary : Ordinary c depth rest) (place : At text i (c :: rest))
    (small : Ascii c) :
    (sectionPass text).step c i (depth, expected) =
      .ok (.next (i + 1) (sectionState c depth expected)) := by
  have noArrow : ¬ (c = '=' ∧ byte? text (i + 1) = some '>') := by
    rw [(place.succ small).byte?_eq_iff (by decide)]
    exact ordinary.noArrow
  have noBody : ¬ (c = '{' ∧ depth = 0 ∧ expected = false) := fun body => ordinary.noBrace body.1
  simp only [sectionPass, sectionState]
  rw [if_neg noArrow, if_neg noBody, if_neg ordinary.noBrace, if_neg ordinary.noEnd,
    if_neg ordinary.noQuote]
  split_ifs <;> rfl

theorem sectionPass_passes (text : List Char) (depth : Nat) (expected : Bool) :
    (sectionPass text).Passes (depth, expected) (depth, false) := by
  intro b i wide
  simp [sectionPass, ne_of_wide wide, Ascii, not_isQuote_of_wide wide, isTypeConnector,
    isAsciiBlank]

theorem sectionState_of_wide (wide : ¬ Ascii c) :
    sectionState c depth expected = (depth, false) := by
  simp [sectionState, ne_of_wide wide, Ascii, isTypeConnector, isAsciiBlank]

theorem run_sectionPass_ordinary (ordinary : Ordinary c depth rest)
    (place : At text i (c :: rest)) :
    (sectionPass text).run text i (depth, expected) =
      (sectionPass text).run text (i + c.utf8Size) (sectionState c depth expected) := by
  refine Pass.run_char place (sectionPass_step_ordinary ordinary place) fun wide => ?_
  rw [sectionState_of_wide wide]
  exact ⟨sectionPass_passes text depth expected, sectionPass_passes text depth false⟩

theorem sectionEnd?_quoted (quote : Char) (rest : List Char) :
    sectionEnd? (.quoted depth quote) rest =
    sectionEnd? (.types depth false) (cutLiteral quote rest).2 := by
  fun_induction cutLiteral quote rest with
  | case1 => rfl
  | case2 c rest ih => rw [sectionEnd?, ih]
  | case3 c rest unescaped breaks =>
    have newline : c = '\n' := by simp_all [breaksLiteral]
    subst newline
    simp [sectionEnd?, breaks, isTypeConnector, isQuote, isAsciiBlank]
  | case4 rest unescaped goesOn => simp [sectionEnd?]
  | case5 c rest unescaped goesOn open_ ih => simp [sectionEnd?, goesOn, open_, ih]

theorem sectionEnd?_braces (braces : Nat) (previous : Char) (rest : List Char) :
    sectionEnd? (.object depth braces) rest =
      (Delimiters.braces.split? previous braces rest).bind fun found =>
        sectionEnd? (.types depth false) found.2 := by
  induction rest generalizing braces previous with
  | nil => rfl
  | cons c rest ih =>
    by_cases opens : c = '{'
    · simp [opens, sectionEnd?_deeper, split?_braces_open, ih _ '{', Option.bind_map]
    by_cases closes : c = '}'
    · cases braces with
      | zero => simp [sectionEnd?, closes, split?_braces_close]
      | succ braces =>
        simp [sectionEnd?, closes, split?_braces_close_succ, ih _ '}', Option.bind_map]
    · simp [sectionEnd?_field, opens, closes, split?_braces_plain, ih _ c, Option.bind_map]

theorem sectionEnd?_quote (quoted : isQuote quote = true) :
    sectionEnd? (.types depth expected) (quote :: rest) =
    sectionEnd? (.quoted depth quote) rest := by
  simp only [isQuote, Bool.or_eq_true, beq_iff_eq] at quoted
  rcases quoted with (rfl | rfl) | rfl <;> simp [sectionEnd?, isTypeConnector, isQuote]

theorem sectionPass_step_quote (quoted : isQuote quote = true) (place : At text i (quote :: rest)) :
    (sectionPass text).step quote i (depth, expected) =
      .ok (.next (i + 1 + byteLength (cutLiteral quote rest).1) (depth, false)) := by
  have read := place.byte?_ascii (ascii_of_isQuote quoted).1
  have skip := skipLiteral_eq quoted place
  have other : quote ≠ '=' ∧ ¬ (quote = '(' ∨ quote = '[' ∨ quote = '<') ∧
      ¬ (quote = ')' ∨ quote = ']' ∨ quote = '>') ∧ quote ≠ '{' ∧ quote ≠ ';' ∧
      isTypeConnector quote = false := by
    simp only [isQuote, Bool.or_eq_true, beq_iff_eq] at quoted
    rcases quoted with (rfl | rfl) | rfl <;> decide
  simp [sectionPass, other, quoted, byteAt, read, skip]

theorem sectionPass_step_object (nested : ¬ (depth = 0 ∧ expected = false))
    (place : At text i ('{' :: rest)) :
    (sectionPass text).step '{' i (depth, expected) =
      .ok ((Delimiters.braces.split? '{' 0 rest).elim (.done none) fun found =>
        .next (i + 1 + byteLength found.1 + 1) (depth, false)) := by
  have close : matchingClose .braces text i =
      .ok ((Delimiters.braces.split? '{' 0 rest).map fun found => i + 1 + byteLength found.1) :=
    matchingClose_of_at ascii_braces place
  cases split : Delimiters.braces.split? '{' 0 rest <;>
    simp [sectionPass, nested, close, split]

theorem run_sectionPass_object (nested : ¬ (depth = 0 ∧ expected = false))
    (place : At text i ('{' :: rest)) :
    (sectionPass text).run text i (depth, expected) =
      (Delimiters.braces.split? '{' 0 rest).elim (.ok none) fun found =>
        (sectionPass text).run text (i + 1 + byteLength found.1 + 1) (depth, false) :=
  Pass.run_of_elim (place.byte?_ascii (by decide)) (sectionPass_step_object nested place)
    fun _ => by omega

theorem run_sectionPass_quote (quoted : isQuote quote = true) (place : At text i (quote :: rest)) :
    (sectionPass text).run text i (depth, expected) =
      (sectionPass text).run text (i + 1 + byteLength (cutLiteral quote rest).1) (depth, false) :=
  Pass.run_of_next (place.byte?_ascii (ascii_of_isQuote quoted).1)
    (sectionPass_step_quote quoted place) (by omega)

theorem sectionPass_step_arrow (place : At text i ('=' :: '>' :: rest)) :
    (sectionPass text).step '=' i (depth, expected) =
      .ok (if depth = 0 then .done (some i) else .next (i + 2) (depth, true)) := by
  have second := ((place.succ (by decide)).byte?_eq_iff (a := '>') (by decide)).2 rfl
  by_cases top : depth = 0 <;> simp [sectionPass, second, top]

theorem run_sectionPass (place : At text i rest) : (sectionPass text).run text i (depth, expected) =
    .ok ((sectionEnd? (.types depth expected) rest).map fun found =>
      byteLength text - byteLength found) := by
  induction rest using suffix_induction generalizing depth expected i with
  | nil => exact Pass.run_of_end place
  | cons c rest ih =>
    have offset : byteLength text - byteLength (c :: rest) = i := by have := place.size; omega
    by_cases arrow : c = '=' ∧ rest.head? = some '>'
    · obtain ⟨rfl, next⟩ := arrow
      obtain ⟨rest, rfl⟩ := List.head?_eq_some_iff.1 next
      have read := place.byte?_ascii (by decide)
      have step : (sectionPass text).step '=' i (depth, expected) = _ :=
        sectionPass_step_arrow place
      by_cases top : depth = 0
      · rw [if_pos top] at step
        rw [Pass.run_of_done read step, sectionEnd?, if_pos top, Option.map_some, offset]
      · have after : At text (i + 2) rest := (place.succ (by decide)).succ (by decide)
        rw [if_neg top] at step
        rw [Pass.run_of_next read step (by omega), ih _ (List.suffix_cons '>' rest) after,
          sectionEnd?, if_neg top]
    by_cases brace : c = '{'
    · subst brace
      by_cases top : depth = 0 ∧ expected = false
      · have step : (sectionPass text).step '{' i (depth, expected) = .ok (.done (some i)) := by
          simp [sectionPass, top]
        have whole : sectionEnd? (.types depth expected) ('{' :: rest) = some ('{' :: rest) := by
          simp [sectionEnd?, top]
        rw [Pass.run_of_done (place.byte?_ascii (by decide)) step, whole, Option.map_some, offset]
      · have inside : sectionEnd? (.types depth expected) ('{' :: rest) =
            sectionEnd? (.object depth 0) rest := by
          simp [sectionEnd?, top]
        rw [run_sectionPass_object top place, inside, sectionEnd?_braces 0 '{']
        cases split : Delimiters.braces.split? '{' 0 rest with
        | none => rfl
        | some found => exact ih _ (suffix_of_split? split) (place.delimited ascii_braces split).2
    by_cases ends : c = ';' ∧ depth = 0
    · obtain ⟨rfl, rfl⟩ := ends
      have step : (sectionPass text).step ';' i (0, expected) = .ok (.done none) := rfl
      rw [Pass.run_of_done (place.byte?_ascii (by decide)) step]
      simp [sectionEnd?]
    by_cases quoted : isQuote c = true
    · rw [run_sectionPass_quote quoted place,
        ih _ (cutLiteral_suffix c rest) (place.cutLiteral quoted), sectionEnd?_quote quoted,
        sectionEnd?_quoted]
    · have ordinary : Ordinary c depth rest := ⟨arrow, brace, ends, quoted⟩
      rw [run_sectionPass_ordinary ordinary place, sectionEnd?_ordinary ordinary,
        ih _ (List.suffix_refl rest) place.next]

theorem typesEnd_eq (text : List Char) (start : Nat) (expected : Bool) :
    typesEnd text start expected = .ok (typesEnd? text start expected) := by
  rw [typesEnd, typesEnd?]
  cases found : place start text with
  | boundary rest => exact run_sectionPass (at_of_place found)
  | inside rest =>
    obtain ⟨j, k, c, before, rfl, positive, inside⟩ := exists_at_of_place_inside found
    have wide : ¬ Ascii c := fun small => by
      rw [utf8Size_of_ascii small] at inside
      omega
    rw [Pass.run_inside before wide (sectionPass_passes text 0 expected)
      (sectionPass_passes text 0 false) inside]
    exact run_sectionPass before.next
  | beyond => exact Pass.run_of_le (Nat.le_of_lt (lt_of_place_beyond found))

theorem suffix_of_sectionEnd? {mode : SectionMode} (found : sectionEnd? mode text = some rest) :
    rest <:+ text := by
  have skip {c : Char} {text : List Char} (inside : rest <:+ text) : rest <:+ c :: text :=
    inside.trans (List.suffix_cons c text)
  fun_induction sectionEnd? mode text
  case case1 | case13 => cases found
  case case7 | case11 =>
    cases found
    exact List.suffix_refl _
  case case2 ih => exact skip (skip (ih found))
  case case8 ih => exact skip (skip (ih found))
  -- In all other cases the pass goes on after one character.
  all_goals
    rename_i ih
    exact skip (ih found)

theorem ends_of_sectionEnd? {mode : SectionMode} (found : sectionEnd? mode text = some rest) :
    ∃ c after, rest = c :: after ∧ Ascii c := by
  fun_induction sectionEnd? mode text
  case case1 | case13 => cases found
  case case7 | case11 =>
    cases found
    exact ⟨_, _, rfl, by decide⟩
  all_goals
    rename_i ih
    exact ih found

end FrontendAtlas.Bytes
