import FrontendAtlas.Proofs.Source.Scan
import FrontendAtlas.Source.Identifier

namespace FrontendAtlas.Source

open FrontendAtlas.Text

/-- A character of no identifier, on either reading of what an identifier may hold. -/
def isBreak (c : Char) : Bool :=
  !isIdentChar c && !isIdentPart c

theorem not_isBlank_of_isIdentChar {c : Char} (ident : isIdentChar c = true) : isBlank c = false := by
  have apart : blanks.any isIdentChar = false := by decide +kernel
  cases blank : isBlank c with
  | false => rfl
  | true => exact absurd ident (List.any_eq_false.1 apart c (mem_blanks_of_isBlank blank))

theorem isBreak_of_isBlank {c : Char} (blank : isBlank c = true) : isBreak c = true := by
  rw [isBreak, Bool.and_eq_true, Bool.not_eq_true', Bool.not_eq_true']
  constructor
  · by_contra ident
    rw [not_isBlank_of_isIdentChar (Bool.not_eq_false _ ▸ ident)] at blank
    cases blank
  · by_contra part
    rw [not_isBlank_of_isIdentPart (Bool.not_eq_false _ ▸ part)] at blank
    cases blank

variable {word text front back more : List Char} {skip : Nat} {before : Option Char}

theorem getLast?_cons_or (c : Char) (front : List Char) (before : Option Char) :
    (c :: front).getLast?.or before = front.getLast?.or (some c) := by
  cases front <;> simp [List.getLast?_cons]

theorem mem_occurrencesFrom {place : Occurrence} (found : place ∈ occurrencesFrom word skip before text) :
    ∃ front, text = front ++ (word ++ place.after) ∧ place.before = front.getLast?.or before := by
  have later {c : Char} {before : Option Char} {rest : List Char}
      (inside : ∃ front, rest = front ++ (word ++ place.after) ∧
        place.before = front.getLast?.or (some c)) :
      ∃ front, c :: rest = front ++ (word ++ place.after) ∧
        place.before = front.getLast?.or before := by
    obtain ⟨front, rfl, last⟩ := inside
    exact ⟨c :: front, rfl, by rw [last, getLast?_cons_or]⟩
  fun_induction occurrencesFrom word skip before text with
  | case1 => cases found
  | case2 skip before c rest ih => exact later (ih found)
  | case3 before c rest after fits ih =>
    rcases List.mem_cons.1 found with rfl | found
    · have here : c :: rest = word ++ after := after?_eq_some_iff.1 fits
      exact ⟨[], here, rfl⟩
    · exact later (ih found)
  | case4 before c rest nothing ih => exact later (ih found)

theorem length_le_of_apart {c : Char} {after : List Char} (apart : ∀ d ∈ (c :: front).getLast?, d ∉ word)
    (begins : c :: (front ++ more) = word ++ after) : word.length - 1 ≤ front.length := by
  by_contra longer
  have stretch : c :: front <+: c :: (front ++ more) := ⟨more, rfl⟩
  have inside : c :: front <+: word := by
    apply List.prefix_of_prefix_length_le stretch ⟨after, begins.symm⟩
    rw [List.length_cons]
    omega
  have last : (c :: front).getLast (by simp) ∈ (c :: front).getLast? := List.getLast?_eq_getLast_of_ne_nil _
  exact apart _ last (inside.subset (List.getLast_mem _))

theorem mem_occurrencesFrom_of_apart (nonempty : word ≠ []) (apart : ∀ c ∈ front.getLast?, c ∉ word)
    (within : skip ≤ front.length) :
    ⟨front.getLast?.or before, back⟩ ∈ occurrencesFrom word skip before (front ++ (word ++ back)) := by
  induction front generalizing skip before with
  | nil =>
    obtain ⟨c, word, rfl⟩ := List.exists_cons_of_ne_nil nonempty
    cases Nat.le_zero.1 within
    have found : after? (c :: word) (c :: (word ++ back)) = some back := after?_append (c :: word) back
    rw [List.nil_append, List.cons_append, occurrencesFrom, found]
    exact List.mem_cons_self
  | cons c front ih =>
    have later : ∀ d ∈ front.getLast?, d ∉ word := by
      intro d last
      exact apart d (by simp [List.getLast?_cons, Option.mem_def.1 last])
    rw [getLast?_cons_or, List.cons_append]
    cases skip with
    | succ skip => exact ih later (Nat.le_of_succ_le_succ within)
    | zero =>
      rw [occurrencesFrom]
      cases found : after? word (c :: (front ++ (word ++ back))) with
      | none => exact ih later (Nat.zero_le _)
      | some after =>
        have fits : word.length - 1 ≤ front.length := length_le_of_apart apart (after?_eq_some_iff.1 found)
        exact List.mem_cons_of_mem _ (ih later fits)

theorem mem_occurrences_of_apart (nonempty : word ≠ []) (apart : ∀ c ∈ front.getLast?, c ∉ word) :
    ⟨front.getLast?, back⟩ ∈ occurrences word (front ++ (word ++ back)) := by
  have found : ⟨front.getLast?.or none, back⟩ ∈ occurrencesFrom word 0 none (front ++ (word ++ back)) :=
    mem_occurrencesFrom_of_apart nonempty apart (Nat.zero_le _)
  simpa [occurrences, nonempty] using found

theorem occurrencesFrom_suffix {mark : Char} (apart : mark ∉ word) (within : skip ≤ front.length) :
    occurrencesFrom word 0 (some mark) text <:+ occurrencesFrom word skip before (front ++ mark :: text) := by
  induction front generalizing skip before with
  | nil =>
    cases Nat.le_zero.1 within
    rw [List.nil_append, occurrencesFrom]
    cases found : after? word (mark :: text) with
    | none => exact List.suffix_rfl
    | some after =>
      have empty : word = [] := by
        have begins : word <+: [] ++ mark :: text := ⟨after, (after?_eq_some_iff.1 found).symm⟩
        exact List.prefix_nil.1 ((prefix_append_cons_iff apart).1 begins)
      rw [empty]
      exact List.suffix_cons _ _
  | cons c front ih =>
    rw [List.cons_append]
    cases skip with
    | succ skip => exact ih (Nat.le_of_succ_le_succ within)
    | zero =>
      rw [occurrencesFrom]
      cases found : after? word (c :: (front ++ mark :: text)) with
      | none => exact ih (Nat.zero_le _)
      | some after =>
        have begins : word <+: c :: front ++ mark :: text := ⟨after, (after?_eq_some_iff.1 found).symm⟩
        have fits : word.length - 1 ≤ front.length :=
          Nat.sub_le_of_le_add ((prefix_append_cons_iff apart).1 begins).length_le
        exact (ih fits).trans (List.suffix_cons _ _)

theorem mem_occurrences {place : Occurrence} (found : place ∈ occurrences word text) :
    word ≠ [] ∧ ∃ front, text = front ++ (word ++ place.after) ∧ place.before = front.getLast? := by
  rw [occurrences] at found
  split at found
  · cases found
  case isFalse nonempty =>
    obtain ⟨front, whole, last⟩ := mem_occurrencesFrom found
    exact ⟨by simpa using nonempty, front, whole, by simpa using last⟩

theorem mem_occurrencesFrom_mark {place : Occurrence} (mark : Char)
    (found : place ∈ occurrencesFrom word 0 none text) :
    ⟨place.before.or (some mark), place.after⟩ ∈ occurrencesFrom word 0 (some mark) text := by
  cases text with
  | nil => cases found
  | cons c text =>
    have later {skip : Nat} (found : place ∈ occurrencesFrom word skip (some c) text) :
        ⟨place.before.or (some mark), place.after⟩ ∈ occurrencesFrom word skip (some c) text := by
      obtain ⟨front, -, last⟩ := mem_occurrencesFrom found
      have same : place.before.or (some mark) = place.before := by
        rw [last]
        cases front.getLast? <;> rfl
      rwa [same]
    rw [occurrencesFrom] at found ⊢
    cases here : after? word (c :: text) with
    | none =>
      rw [here] at found
      exact later found
    | some after =>
      rw [here] at found
      rcases List.mem_cons.1 found with rfl | found
      · exact List.mem_cons_self
      · exact List.mem_cons_of_mem _ (later found)

theorem calls_append {mark : Char} (isMark : isIdentChar mark = false ∧ mark ≠ '.') (apart : mark ∉ word)
    (front : List Char) (called : calls text word = true) : calls (front ++ mark :: text) word = true := by
  rw [calls, List.any_eq_true] at called ⊢
  obtain ⟨⟨before, after⟩, found, holds⟩ := called
  have nonempty : word ≠ [] := (mem_occurrences found).1
  simp only [occurrences, List.isEmpty_iff, nonempty, if_false] at found ⊢
  refine ⟨_, (occurrencesFrom_suffix apart (Nat.zero_le _)).subset (mem_occurrencesFrom_mark mark found), ?_⟩
  cases before with
  | some c => exact holds
  | none => simpa [Occurrence.isWhole, Occurrence.isApplied, isMark] using holds

end FrontendAtlas.Source
