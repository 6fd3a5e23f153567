import FrontendAtlas.Proofs.Source.Scan
import FrontendAtlas.Text.Case

namespace FrontendAtlas.Text

open FrontendAtlas.Source

variable {b : Char} {word front back : List Char}

theorem caseless_of_isBlank (blank : isBlank b = true) :
    lowerChar b = [b] ∧ isCased b = false ∧ isCaseIgnorable b = false ∧ (b == 'Σ') = false := by
  have known : blanks.all fun b =>
      lowerChar b == [b] && !isCased b && !isCaseIgnorable b && !(b == 'Σ') := by decide +kernel
  simpa [and_assoc] using List.all_eq_true.1 known b (mem_blanks_of_isBlank blank)

theorem meetsCased_append_blank (blank : isBlank b = true) (front back : List Char) :
    meetsCased (front ++ b :: back) = meetsCased front := by
  obtain ⟨-, cased, ignorable, -⟩ := caseless_of_isBlank blank
  rw [meetsCased, meetsCased, List.dropWhile_append]
  cases front.dropWhile isCaseIgnorable with
  | nil => simp [ignorable, cased]
  | cons c rest => rfl

theorem lowerFrom_append_blank (blank : isBlank b = true) (seen before text : List Char) :
    lowerFrom (seen ++ b :: before) text = lowerFrom seen text := by
  induction text generalizing seen with
  | nil => rfl
  | cons c text ih => rw [lowerFrom, lowerFrom, meetsCased_append_blank blank, ← List.cons_append, ih]

theorem lowerFrom_before_blank (blank : isBlank b = true) (before front back : List Char) :
    lowerFrom before (front ++ b :: back) = lowerFrom before front ++ b :: lower back := by
  induction front generalizing before with
  | nil =>
    obtain ⟨form, -, -, sigma⟩ := caseless_of_isBlank blank
    have after : lowerFrom (b :: before) back = lower back := lowerFrom_append_blank blank [] before back
    simp [lowerFrom, sigma, form, after]
  | cons c front ih =>
    rw [List.cons_append, lowerFrom, lowerFrom, meetsCased_append_blank blank, ih, List.append_assoc]

theorem lower_append_blank (blank : isBlank b = true) (front back : List Char) :
    lower (front ++ b :: back) = lower front ++ b :: lower back :=
  lowerFrom_before_blank blank [] front back

section Words

variable (visible : ∀ c ∈ word, isBlank c = false)
include visible

theorem infix_lower_append_blank (blank : isBlank b = true) (front back : List Char) :
    word <:+: lower (front ++ b :: back) ↔ word <:+: lower front ∨ word <:+: lower back := by
  have apart : b ∉ word := fun member => by
    rw [visible b member] at blank
    cases blank
  rw [lower_append_blank blank, infix_append_cons_iff apart]

theorem infix_lower_trimStart (text : List Char) : word <:+: lower (trimStart text) ↔ word <:+: lower text := by
  induction text with
  | nil => rfl
  | cons c text ih =>
    cases blank : isBlank c with
    | false => rw [trimStart_cons_of_not_blank blank]
    | true =>
      have cut : word <:+: lower (c :: text) ↔ word <:+: lower [] ∨ word <:+: lower text :=
        infix_lower_append_blank visible blank [] text
      rw [trimStart_cons_of_blank blank, ih, cut, or_iff_right_of_imp]
      exact fun occurs => occurs.trans List.nil_infix

theorem infix_lower_trimEnd (text : List Char) : word <:+: lower (trimEnd text) ↔ word <:+: lower text := by
  induction text using List.reverseRecOn with
  | nil => rfl
  | append_singleton text c ih =>
    cases blank : isBlank c with
    | false => simp [trimEnd, blank]
    | true =>
      have shorter : trimEnd (text ++ [c]) = trimEnd text := by simp [trimEnd, blank]
      rw [shorter, ih, infix_lower_append_blank visible blank, or_iff_left_of_imp]
      exact fun occurs => occurs.trans List.nil_infix

theorem infix_lower_trim (text : List Char) : word <:+: lower (trim text) ↔ word <:+: lower text := by
  rw [trim, infix_lower_trimEnd visible, infix_lower_trimStart visible]

end Words

end FrontendAtlas.Text
