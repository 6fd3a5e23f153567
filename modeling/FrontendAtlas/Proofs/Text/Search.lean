import FrontendAtlas.Text.Blank
import FrontendAtlas.Text.Search
import Mathlib

namespace FrontendAtlas.Text

theorem after?_eq_some_iff {word text rest : List Char} :
    after? word text = some rest ↔ text = word ++ rest := by
  induction word generalizing text with
  | nil => simp [after?, eq_comm]
  | cons c word ih =>
    cases text with
    | nil => simp [after?]
    | cons d text =>
      by_cases same : c = d
      · simp [after?, same, ih]
      · simp [after?, same, Ne.symm same]

@[simp] theorem after?_append (word rest : List Char) : after? word (word ++ rest) = some rest :=
  after?_eq_some_iff.2 rfl

theorem startsWith_iff {word text : List Char} : startsWith word text = true ↔ word <+: text := by
  rw [startsWith, Option.isSome_iff_exists]
  simp only [after?_eq_some_iff]
  exact exists_congr fun rest => eq_comm

theorem after?_eq_none_iff {word text : List Char} : after? word text = none ↔ ¬ word <+: text := by
  rw [← startsWith_iff, startsWith, Option.not_isSome_iff_eq_none]

theorem endsWith_iff {word text : List Char} : endsWith word text = true ↔ word <:+ text := by
  rw [endsWith, startsWith_iff, List.reverse_prefix]

theorem contains_iff {word text : List Char} : contains word text = true ↔ word <:+: text := by
  induction text with
  | nil => simp [contains]
  | cons c text ih => rw [contains, Bool.or_eq_true, startsWith_iff, ih, List.infix_cons_iff]

theorem cutAt?_found {c : Char} (word rest : List Char) :
    cutAt? (c :: word) (c :: (word ++ rest)) = some ([], c :: (word ++ rest)) := by
  have found : startsWith (c :: word) (c :: (word ++ rest)) = true :=
    startsWith_iff.2 (List.prefix_append _ _)
  simp [cutAt?, found]

theorem cutAt?_append {c : Char} {front : List Char} (word rest : List Char) (apart : c ∉ front) :
    cutAt? (c :: word) (front ++ rest) =
      (cutAt? (c :: word) rest).map fun found => (front ++ found.1, found.2) := by
  induction front with
  | nil => simp
  | cons d front ih =>
    rw [List.mem_cons, not_or] at apart
    have missed : startsWith (c :: word) (d :: (front ++ rest)) = false := by
      simp [startsWith, after?, apart.1]
    simp [cutAt?, missed, ih apart.2, Function.comp_def]

section Words

variable {word front back : List Char} {c : Char}

theorem prefix_append_cons_iff (apart : c ∉ word) : word <+: front ++ c :: back ↔ word <+: front := by
  induction front generalizing word with
  | nil =>
    cases word with
    | nil => simp
    | cons d word => grind
  | cons d front ih =>
    cases word with
    | nil => simp
    | cons e word =>
      rw [List.mem_cons, not_or] at apart
      simp [List.cons_prefix_cons, ih apart.2]

theorem infix_append_cons_iff (apart : c ∉ word) :
    word <:+: front ++ c :: back ↔ word <:+: front ∨ word <:+: back := by
  induction front with
  | nil =>
    have start : word <+: [] ++ c :: back ↔ word <+: [] := prefix_append_cons_iff apart
    rw [List.nil_append] at start ⊢
    simp [List.infix_cons_iff, start]
  | cons d front ih =>
    rw [List.cons_append, List.infix_cons_iff, List.infix_cons_iff, ih, ← List.cons_append,
      prefix_append_cons_iff apart, or_assoc]

def Lacks (words : List String) (text : List Char) : Prop :=
  ∀ word ∈ words, ¬ word.toList <:+: text

instance (words : List String) (text : List Char) : Decidable (Lacks words text) :=
  inferInstanceAs (Decidable (∀ word ∈ words, ¬ word.toList <:+: text))

variable {words : List String}

theorem lacks_append_cons_iff (apart : ∀ word ∈ words, c ∉ word.toList) :
    Lacks words (front ++ c :: back) ↔ Lacks words front ∧ Lacks words back := by
  simp only [Lacks, ← forall_and]
  apply forall_congr'
  intro word
  by_cases member : word ∈ words
  · simp [member, infix_append_cons_iff (apart word member)]
  · simp [member]

theorem lacks_cons_iff (apart : ∀ word ∈ words, c ∉ word.toList) :
    Lacks words (c :: back) ↔ Lacks words back := by
  have split : Lacks words ([] ++ c :: back) ↔ Lacks words [] ∧ Lacks words back :=
    lacks_append_cons_iff apart
  rw [List.nil_append] at split
  rw [split, and_iff_right_iff_imp]
  intro lacks word member occurs
  exact lacks word member (occurs.trans (List.nil_infix))

theorem Lacks.of_append (front : List Char) (lacks : Lacks words (front ++ back)) : Lacks words back := by
  intro word member occurs
  exact lacks word member (occurs.trans (List.suffix_append front back).isInfix)

theorem Lacks.subset {fewer : List String} (lacks : Lacks words back) (subset : fewer ⊆ words) :
    Lacks fewer back := by
  intro word member
  exact lacks word (subset member)

end Words

theorem trimStart_cons_of_not_blank {c : Char} (h : isBlank c = false) (rest : List Char) :
    trimStart (c :: rest) = c :: rest := by
  simp [trimStart, h]

theorem trimStart_cons_of_blank {c : Char} (h : isBlank c = true) (rest : List Char) :
    trimStart (c :: rest) = trimStart rest := by
  simp [trimStart, h]

theorem trimStart_append_cons {c : Char} (visible : isBlank c = false) (front back : List Char) :
    trimStart (front ++ c :: back) = trimStart front ++ c :: back := by
  induction front with
  | nil => exact trimStart_cons_of_not_blank visible back
  | cons d front ih =>
    rw [List.cons_append]
    cases blank : isBlank d with
    | true => rw [trimStart_cons_of_blank blank, trimStart_cons_of_blank blank, ih]
    | false => rw [trimStart_cons_of_not_blank blank, trimStart_cons_of_not_blank blank, List.cons_append]

theorem mem_dropWhile_iff {p : Char → Bool} {c : Char} (stays : p c = false) (text : List Char) :
    c ∈ text.dropWhile p ↔ c ∈ text := by
  induction text with
  | nil => rfl
  | cons d text ih =>
    rw [List.dropWhile_cons]
    split
    case isTrue passes =>
      have other : c ≠ d := by
        rintro rfl
        simp [stays] at passes
      simp [ih, other]
    case isFalse => rfl

theorem mem_trim_iff {c : Char} (visible : isBlank c = false) (text : List Char) : c ∈ trim text ↔ c ∈ text := by
  rw [trim, trimEnd, List.mem_reverse, mem_dropWhile_iff visible, List.mem_reverse, trimStart,
    mem_dropWhile_iff visible]

theorem trim_ne_nil {text : List Char} {c : Char} (member : c ∈ text) (visible : isBlank c = false) :
    trim text ≠ [] :=
  List.ne_nil_of_mem ((mem_trim_iff visible text).2 member)

theorem mem_takeWhile_trimStart {p : Char → Bool} {c : Char} {text : List Char}
    (blanks : ∀ b, isBlank b = true → p b = true) (found : (trimStart text).head? = some c)
    (passes : p c = true) : c ∈ text.takeWhile p := by
  induction text with
  | nil => simp [trimStart] at found
  | cons d text ih =>
    cases blank : isBlank d with
    | true =>
      rw [trimStart_cons_of_blank blank] at found
      rw [List.takeWhile_cons_of_pos (blanks d blank)]
      exact List.mem_cons_of_mem _ (ih found)
    | false =>
      rw [trimStart_cons_of_not_blank blank, List.head?_cons, Option.some.injEq] at found
      simp [found, passes]

theorem trim_eq_self {text : List Char} (first : ∀ c ∈ text.head?, isBlank c = false)
    (last : ∀ c ∈ text.getLast?, isBlank c = false) : trim text = text := by
  have start : trimStart text = text := by
    cases text with
    | nil => rfl
    | cons c rest => exact trimStart_cons_of_not_blank (first c rfl) rest
  rw [trim, start, trimEnd]
  cases reversed : text.reverse with
  | nil =>
    rw [List.reverse_eq_nil_iff.1 reversed]
    rfl
  | cons c rest =>
    have ends : c ∈ text.getLast? := by simp [← List.head?_reverse, reversed]
    rw [List.dropWhile_cons_of_neg (by simp [last c ends]), ← reversed, List.reverse_reverse]

theorem head?_of_trim_eq_self {text : List Char} (trimmed : trim text = text) :
    ∀ c ∈ text.head?, isBlank c = false := by
  cases text with
  | nil => simp
  | cons c rest =>
    intro d hd
    cases Option.mem_some.1 hd
    cases blank : isBlank c with
    | false => rfl
    | true =>
      -- A blank in front is dropped, so the trimmed text would be shorter.
      have shorter : (trim (c :: rest)).length ≤ rest.length := by
        calc (trim (c :: rest)).length
          _ ≤ (trimStart rest).length := by
            rw [trim, trimStart_cons_of_blank blank, trimEnd, List.length_reverse]
            simpa using (List.dropWhile_sublist (l := (trimStart rest).reverse) isBlank).length_le
          _ ≤ rest.length := (List.dropWhile_sublist isBlank).length_le
      rw [trimmed, List.length_cons] at shorter
      omega

theorem getLast?_of_trim_eq_self {text : List Char} (trimmed : trim text = text) :
    ∀ c ∈ text.getLast?, isBlank c = false := by
  intro c hc
  have start : trimStart text = text := by
    cases text with
    | nil => rfl
    | cons d rest => exact trimStart_cons_of_not_blank (head?_of_trim_eq_self trimmed d rfl) rest
  rw [trim, start, trimEnd] at trimmed
  rw [← trimmed, List.getLast?_reverse] at hc
  have front := List.head?_dropWhile_not isBlank text.reverse
  rw [Option.mem_def.1 hc] at front
  exact front

theorem trim_append_blanks {lead trail : List Char} (before : ∀ c ∈ lead, isBlank c = true)
    (after : ∀ c ∈ trail, isBlank c = true) (core : List Char) : trim (lead ++ (core ++ trail)) = trim core := by
  have start : trimStart (lead ++ (core ++ trail)) = trimStart (core ++ trail) :=
    List.dropWhile_append_of_pos before
  have stop (front : List Char) : trimEnd (front ++ trail) = trimEnd front := by
    have reversed : ∀ c ∈ trail.reverse, isBlank c = true := fun c member => after c (List.mem_reverse.1 member)
    rw [trimEnd, trimEnd, List.reverse_append, List.dropWhile_append_of_pos reversed]
  rw [trim, trim, start, trimStart, List.dropWhile_append]
  split
  case isTrue empty =>
    have none : trail.dropWhile isBlank = [] := List.dropWhile_eq_nil_iff.2 after
    rw [none, trimStart, List.isEmpty_iff.1 empty]
  case isFalse => exact stop _

structure Padding where
  lead : List Char
  trail : List Char
  blank : ∀ c ∈ lead ++ trail, isBlank c = true

def Padding.around (gap : Padding) (core : List Char) : List Char :=
  gap.lead ++ (core ++ gap.trail)

@[simp] theorem Padding.trim_around (gap : Padding) (core : List Char) : trim (gap.around core) = trim core := by
  apply trim_append_blanks
  · intro c member
    exact gap.blank c (List.mem_append_left _ member)
  · intro c member
    exact gap.blank c (List.mem_append_right _ member)

theorem exists_around_trim (text : List Char) : ∃ gap : Padding, gap.around (trim text) = text := by
  refine ⟨⟨text.takeWhile isBlank, (trimStart text).rtakeWhile isBlank, ?_⟩, ?_⟩
  · intro c member
    rcases List.mem_append.1 member with front | back
    · exact List.mem_takeWhile_imp front
    · exact List.mem_rtakeWhile_imp back
  · have ends : trim text ++ (trimStart text).rtakeWhile isBlank = trimStart text :=
      List.rdropWhile_append_rtakeWhile
    rw [Padding.around, ends]
    exact List.takeWhile_append_dropWhile

end FrontendAtlas.Text
