import FrontendAtlas.Proofs.Source.ExportText
import FrontendAtlas.Source.TypeSection

namespace FrontendAtlas.Source

open FrontendAtlas.Text

inductive Bracket where
  | round
  | square
  | angle

namespace Bracket

def opener : Bracket → Char
  | round => '('
  | square => '['
  | angle => '<'

def closer : Bracket → Char
  | round => ')'
  | square => ']'
  | angle => '>'

end Bracket

def typeSigns : List Char :=
  ['(', '[', '<', ')', ']', '>', '{', '}', ';', '|', '&', ',', ':', '=', '?', '\x27', '\x22', '\x60']

def isTypeLetter (c : Char) : Bool :=
  c ∉ typeSigns && !isAsciiBlank c

/-- The rest of an annotation, inside brackets or not, where a type is expected or not.  Arrows and
semicolons stand inside brackets only, object types outside of them only where a type is expected. -/
inductive TypeParts : (inside expected : Bool) → Type
  | done {inside expected : Bool} (settled : inside = true ∨ expected = false) : TypeParts inside expected
  | word {inside expected : Bool} (text : List Char) (nonempty : text ≠ [])
    (letters : text.all isTypeLetter = true) (next : TypeParts inside false) : TypeParts inside expected
  | blank {inside expected : Bool} (c : Char) (blank : isAsciiBlank c = true)
    (next : TypeParts inside expected) : TypeParts inside expected
  | connector {inside expected : Bool} (c : Char) (known : c ∈ ['|', '&', ',', ':', '?'])
    (next : TypeParts inside true) : TypeParts inside expected
  | arrow {expected : Bool} (next : TypeParts true true) : TypeParts true expected
  | semicolon {expected : Bool} (next : TypeParts true false) : TypeParts true expected
  | object {inside expected : Bool} (fields : List Char) (balanced : Delimiters.braces.Balanced fields)
    (placed : inside = true ∨ expected = true) (next : TypeParts inside false) : TypeParts inside expected
  | group {inside expected : Bool} (bracket : Bracket) (inner : TypeParts true true)
    (next : TypeParts inside false) : TypeParts inside expected

namespace TypeParts

def print {inside expected : Bool} : TypeParts inside expected → List Char
  | .done _ => []
  | .word text _ _ next => text ++ next.print
  | .blank c _ next => c :: next.print
  | .connector c _ next => c :: next.print
  | .arrow next => '=' :: '>' :: next.print
  | .semicolon next => ';' :: next.print
  | .object fields _ _ next => '{' :: (fields ++ '}' :: next.print)
  | .group bracket inner next => bracket.opener :: (inner.print ++ bracket.closer :: next.print)

end TypeParts

section Pass

variable {depth : Nat} {expected : Bool} {rest : List Char}

theorem sectionEnd?_letter {c : Char} (letter : isTypeLetter c = true) :
    sectionEnd? (.types depth expected) (c :: rest) = sectionEnd? (.types depth false) rest := by
  simp only [isTypeLetter, typeSigns, Bool.and_eq_true, decide_eq_true_eq, List.mem_cons, not_or,
    Bool.not_eq_true', List.not_mem_nil, not_false_eq_true, and_true] at letter
  simp [sectionEnd?, isTypeConnector, isQuote, letter]

theorem sectionEnd?_word {text : List Char} (nonempty : text ≠ []) (letters : text.all isTypeLetter = true) :
    sectionEnd? (.types depth expected) (text ++ rest) = sectionEnd? (.types depth false) rest := by
  induction text generalizing expected with
  | nil => exact absurd rfl nonempty
  | cons c text ih =>
    rw [List.all_cons, Bool.and_eq_true] at letters
    rw [List.cons_append, sectionEnd?_letter letters.1]
    cases text with
    | nil => rfl
    | cons d text => exact ih (by simp) letters.2

theorem sectionEnd?_fields {fields : List Char} {previous : Char} {braces left : Nat}
    (ends : Delimiters.braces.depth? previous braces fields = some left) :
    sectionEnd? (.object depth braces) (fields ++ rest) = sectionEnd? (.object depth left) rest := by
  fun_induction Delimiters.depth? Delimiters.braces previous braces fields with
  | case1 =>
    cases ends
    rfl
  | case2 previous braces fields ih =>
    rw [List.cons_append, ← ih ends]
    exact sectionEnd?_deeper braces
  | case3 => cases ends
  | case4 previous c fields flat closes braces ih =>
    have close : c = '}' := closes.1
    simp [sectionEnd?, close, ← ih ends]
  | case5 previous braces c fields flat stays ih =>
    have opens : c ≠ '{' := flat
    have closes : c ≠ '}' := fun close => stays ⟨close, rfl⟩
    rw [List.cons_append, sectionEnd?_field opens closes, ih ends]

theorem sectionEnd?_object {fields : List Char} (balanced : Delimiters.braces.Balanced fields)
    (placed : 0 < depth ∨ expected = true) :
    sectionEnd? (.types depth expected) ('{' :: (fields ++ '}' :: rest)) =
      sectionEnd? (.types depth false) rest := by
  have opening : ¬ (depth = 0 ∧ expected = false) := by grind
  simp [sectionEnd?, opening, sectionEnd?_fields balanced]

theorem sectionEnd?_blank {c : Char} (blank : isAsciiBlank c = true) :
    sectionEnd? (.types depth expected) (c :: rest) = sectionEnd? (.types depth expected) rest := by
  simp only [isAsciiBlank, Bool.or_eq_true, beq_iff_eq] at blank
  obtain (((rfl | rfl) | rfl) | rfl) | rfl := blank <;>
    simp [sectionEnd?, isTypeConnector, isQuote, isAsciiBlank]

theorem sectionEnd?_connector {c : Char} (known : c ∈ ['|', '&', ',', ':', '?']) :
    sectionEnd? (.types depth expected) (c :: rest) = sectionEnd? (.types depth true) rest := by
  simp only [List.mem_cons, List.not_mem_nil, or_false] at known
  obtain rfl | rfl | rfl | rfl | rfl := known <;> simp [sectionEnd?, isTypeConnector]

theorem sectionEnd?_opener (bracket : Bracket) :
    sectionEnd? (.types depth expected) (bracket.opener :: rest) = sectionEnd? (.types (depth + 1) true) rest := by
  cases bracket <;> simp [sectionEnd?, Bracket.opener]

theorem sectionEnd?_closer (bracket : Bracket) :
    sectionEnd? (.types (depth + 1) expected) (bracket.closer :: rest) = sectionEnd? (.types depth false) rest := by
  cases bracket <;> simp [sectionEnd?, Bracket.closer]

theorem TypeParts.sectionEnd?_print {inside : Bool} (parts : TypeParts inside expected)
    (nested : inside = true ↔ 0 < depth) (rest : List Char) :
    ∃ later, (inside = false → later = false) ∧
      sectionEnd? (.types depth expected) (parts.print ++ rest) = sectionEnd? (.types depth later) rest := by
  induction parts generalizing depth rest with
  | done settled => exact ⟨_, by grind, rfl⟩
  | word text nonempty letters next ih =>
    rw [print, List.append_assoc, sectionEnd?_word nonempty letters]
    exact ih nested rest
  | blank c blank next ih =>
    rw [print, List.cons_append, sectionEnd?_blank blank]
    exact ih nested rest
  | connector c known next ih =>
    rw [print, List.cons_append, sectionEnd?_connector known]
    exact ih nested rest
  | arrow next ih =>
    have deep : depth ≠ 0 := Nat.ne_of_gt (nested.1 rfl)
    obtain ⟨later, settled, pass⟩ := ih nested rest
    exact ⟨later, settled, by simp [print, sectionEnd?, deep, pass]⟩
  | semicolon next ih =>
    have deep : depth ≠ 0 := Nat.ne_of_gt (nested.1 rfl)
    obtain ⟨later, settled, pass⟩ := ih nested rest
    exact ⟨later, settled, by simp [print, sectionEnd?, deep, pass, isTypeConnector, isQuote, isAsciiBlank]⟩
  | object fields balanced placed next ih =>
    rw [print, List.cons_append, List.append_assoc, List.cons_append,
      sectionEnd?_object balanced (placed.imp_left nested.1)]
    exact ih nested rest
  | group bracket inner next inner_ih next_ih =>
    have deeper : true = true ↔ 0 < depth + 1 := by simp
    obtain ⟨later, -, pass⟩ := inner_ih deeper (bracket.closer :: (next.print ++ rest))
    rw [print, List.cons_append, List.append_assoc, List.cons_append, sectionEnd?_opener, pass,
      sectionEnd?_closer]
    exact next_ih nested rest

end Pass

structure ReturnType where
  parts : TypeParts false true
  inert : Lacks inertWords parts.print

namespace ReturnType

def text (type : ReturnType) : List Char :=
  type.parts.print

theorem afterTypes?_text (type : ReturnType) (rest : List Char) :
    afterTypes? true (type.text ++ rest) = afterTypes? false rest := by
  have outside : false = true ↔ 0 < 0 := by simp
  obtain ⟨later, settled, pass⟩ := type.parts.sectionEnd?_print outside rest
  rw [settled rfl] at pass
  exact pass

end ReturnType

end FrontendAtlas.Source
