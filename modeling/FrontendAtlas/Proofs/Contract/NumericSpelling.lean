import FrontendAtlas.Proofs.Contract.Breach
import FrontendAtlas.Proofs.Source.Scan

/-! The spellings of whole-number types.  The name of a type may be qualified, followed by question marks,
wrapped as nullable and surrounded by white space.  Nothing else is taken for a whole-number type, and of
these spellings only those whose wrapper is itself qualified are missed. -/

namespace FrontendAtlas.Contract

open FrontendAtlas.Text FrontendAtlas.Source

def IsNumericName (name : List Char) : Prop :=
  ∃ type ∈ numericTypes, name.map Char.toLower = type.toList

instance (name : List Char) : Decidable (IsNumericName name) :=
  inferInstanceAs (Decidable (∃ type ∈ numericTypes, name.map Char.toLower = type.toList))

def qualify (qualified : Bool) (name : List Char) : List Char :=
  if qualified then "System.".toList ++ name else name

inductive Wrapper
  | bare
  | nullable (qualified : Bool) (gap : Padding)

namespace Wrapper

def wrap : Wrapper → List Char → List Char
  | bare, type => type
  | nullable qualified gap, type => qualify qualified ("Nullable<".toList ++ (gap.around type ++ ['>']))

def isQualified : Wrapper → Bool
  | bare => false
  | nullable qualified _ => qualified

end Wrapper

/-- A name with what may stand around it: a qualifier, question marks, a wrapper and white space. -/
structure Spelling where
  name : List Char
  numeric : IsNumericName name
  qualified : Bool
  marks : Nat
  wrapper : Wrapper
  gap : Padding

namespace Spelling

def type (spelling : Spelling) : List Char :=
  qualify spelling.qualified spelling.name ++ List.replicate spelling.marks '?'

def text (spelling : Spelling) : List Char :=
  spelling.gap.around (spelling.wrapper.wrap spelling.type)

end Spelling

variable {name text : List Char} {c : Char}

def unqualify (text : List Char) : List Char :=
  (after? "System.".toList text).getD text

theorem unqualify_qualify (qualified : Bool) (unlike : ¬ "System.".toList <+: name) :
    unqualify (qualify qualified name) = name := by
  cases qualified with
  | true => rw [qualify, if_pos rfl, unqualify, after?_append, Option.getD_some]
  | false =>
    rw [qualify, if_neg Bool.false_ne_true, unqualify, after?_eq_none_iff.2 unlike, Option.getD_none]

theorem exists_qualify_unqualify (text : List Char) :
    ∃ qualified, qualify qualified (unqualify text) = text := by
  cases found : after? "System.".toList text with
  | none =>
    refine ⟨false, ?_⟩
    rw [qualify, if_neg Bool.false_ne_true, unqualify, found, Option.getD_none]
  | some rest =>
    refine ⟨true, ?_⟩
    rw [qualify, if_pos rfl, unqualify, found, Option.getD_some]
    exact (after?_eq_some_iff.1 found).symm

theorem dropOptional_eq_self (unmarked : ∀ c ∈ text.getLast?, c ≠ '?') : dropOptional text = text := by
  apply List.rdropWhile_eq_self_iff.2
  intro nonempty
  simpa using unmarked _ (List.getLast?_eq_getLast_of_ne_nil nonempty)

theorem dropOptional_append_marks (marks : Nat) (unmarked : ∀ c ∈ text.getLast?, c ≠ '?') :
    dropOptional (text ++ List.replicate marks '?') = text := by
  induction marks with
  | zero => rw [List.replicate_zero, List.append_nil, dropOptional_eq_self unmarked]
  | succ marks ih =>
    rw [List.replicate_succ', ← List.append_assoc]
    exact (List.rdropWhile_concat_pos _ _ _ rfl).trans ih

theorem exists_dropOptional_append (text : List Char) :
    ∃ marks, dropOptional text ++ List.replicate marks '?' = text := by
  have marks : text.rtakeWhile (· == '?') = List.replicate (text.rtakeWhile (· == '?')).length '?' := by
    apply List.eq_replicate_of_mem
    intro c member
    have mark := List.mem_rtakeWhile_imp member
    exact beq_iff_eq.1 mark
  refine ⟨(text.rtakeWhile (· == '?')).length, ?_⟩
  rw [← marks]
  exact List.rdropWhile_append_rtakeWhile

theorem unwrapNullable_nullable (argument : List Char) :
    unwrapNullable ("Nullable<".toList ++ (argument ++ ['>'])) = trim argument := by
  rw [unwrapNullable, after?_append]
  simp

theorem unwrapNullable_eq_self (unlike : ¬ "Nullable<".toList <+: text) : unwrapNullable text = text := by
  rw [unwrapNullable, after?_eq_none_iff.2 unlike]

theorem exists_wrap_unwrapNullable (text : List Char) :
    ∃ wrapper : Wrapper, wrapper.isQualified = false ∧ wrapper.wrap (unwrapNullable text) = text := by
  rw [unwrapNullable]
  split
  case h_1 inner found =>
    split
    case isTrue closed =>
      obtain ⟨gap, around⟩ := exists_around_trim inner.dropLast
      refine ⟨.nullable false gap, rfl, ?_⟩
      have ends : inner.dropLast ++ ['>'] = inner := List.dropLast_append_getLast? '>' closed
      rw [Wrapper.wrap, around, ends]
      exact (after?_eq_some_iff.1 found).symm
    case isFalse => exact ⟨.bare, rfl, rfl⟩
  case h_2 => exact ⟨.bare, rfl, rfl⟩

theorem isNumericType_iff :
    isNumericType text = true ↔ IsNumericName (unqualify (dropOptional (unwrapNullable (trim text)))) := by
  rw [isNumericType, List.contains_iff_mem, IsNumericName]
  constructor
  · intro listed
    exact ⟨_, listed, String.toList_ofList.symm⟩
  · rintro ⟨type, listed, same⟩
    rw [unqualify] at same
    rwa [same, String.ofList_toList]

section Name

variable (numeric : IsNumericName name)
include numeric

theorem IsNumericName.notMem (sign : c.toLower.isAlphanum = false) : c ∉ name := by
  have letters : numericTypes.all (fun type => type.toList.all Char.isAlphanum) = true := by decide +kernel
  obtain ⟨type, listed, same⟩ := numeric
  intro member
  have lowered : c.toLower ∈ type.toList := by
    rw [← same]
    exact List.mem_map_of_mem member
  have letter := List.all_eq_true.1 (List.all_eq_true.1 letters type listed) _ lowered
  exact Bool.false_ne_true (sign.symm.trans letter)

theorem IsNumericName.visible (member : c ∈ name) : isBlank c = false := by
  have signs : blanks.all (fun b => !b.toLower.isAlphanum) = true := by decide +kernel
  cases blank : isBlank c with
  | false => rfl
  | true =>
    have sign := List.all_eq_true.1 signs c (mem_blanks_of_isBlank blank)
    exact absurd member (numeric.notMem (by simpa using sign))

end Name

namespace Wrapper

variable {wrapper : Wrapper} {type : List Char}

theorem getLast?_wrap_nullable (qualified : Bool) (gap : Padding) (type : List Char) :
    ((nullable qualified gap).wrap type).getLast? = some '>' := by
  rw [wrap, qualify]
  split
  · rw [← List.append_assoc, ← List.append_assoc, List.getLast?_concat]
  · rw [← List.append_assoc, List.getLast?_concat]

theorem trim_wrap (trimmed : trim type = type) : trim (wrapper.wrap type) = wrapper.wrap type := by
  cases wrapper with
  | bare => exact trimmed
  | nullable qualified gap =>
    apply trim_eq_self
    · cases qualified <;> simp [wrap, qualify] <;> decide
    · intro c last
      rw [getLast?_wrap_nullable] at last
      cases last
      rfl

theorem unwrapNullable_wrap (plain : wrapper.isQualified = false) (trimmed : trim type = type)
    (unopened : '<' ∉ type) : unwrapNullable (wrapper.wrap type) = type := by
  cases wrapper with
  | bare =>
    apply unwrapNullable_eq_self
    intro front
    exact unopened (front.mem (by decide))
  | nullable qualified gap =>
    cases plain
    rw [wrap, qualify, if_neg Bool.false_ne_true, unwrapNullable_nullable, Padding.trim_around, trimmed]

/-- The qualifier of a wrapper hides it from the step that would take it off; so it is still there when the
qualifier has gone. -/
theorem mem_of_isQualified (qualified : wrapper.isQualified = true) (type : List Char) :
    '<' ∈ unqualify (dropOptional (unwrapNullable (wrapper.wrap type))) := by
  cases wrapper with
  | bare => cases qualified
  | nullable _ gap =>
    cases qualified
    have hidden : ¬ "Nullable<".toList <+: (nullable true gap).wrap type := by simp [wrap, qualify]
    have unmarked : ∀ c ∈ ((nullable true gap).wrap type).getLast?, c ≠ '?' := by
      rw [getLast?_wrap_nullable]
      simp
    have unlike : ¬ "System.".toList <+: "Nullable<".toList ++ (gap.around type ++ ['>']) := by simp
    rw [unwrapNullable_eq_self hidden, dropOptional_eq_self unmarked, wrap, unqualify_qualify true unlike]
    exact List.mem_append_left _ (by decide)

end Wrapper

theorem mem_qualify {qualified : Bool} (member : c ∈ qualify qualified name) : c ∈ "System.".toList ∨ c ∈ name := by
  rw [qualify] at member
  split at member
  · exact List.mem_append.1 member
  · exact .inr member

namespace Spelling

variable (spelling : Spelling)

theorem mem_type (member : c ∈ spelling.type) : c ∈ "System.?".toList ∨ c ∈ spelling.name := by
  rcases List.mem_append.1 member with member | member
  · rcases mem_qualify member with member | member
    · exact .inl (List.mem_append_left ['?'] member)
    · exact .inr member
  · rw [List.eq_of_mem_replicate member]
    exact .inl (by decide)

theorem trim_type : trim spelling.type = spelling.type := by
  have signs : "System.?".toList.all (fun c => !isBlank c) = true := by decide +kernel
  have visible (c : Char) (member : c ∈ spelling.type) : isBlank c = false := by
    rcases spelling.mem_type member with member | member
    · simpa using List.all_eq_true.1 signs c member
    · exact spelling.numeric.visible member
  apply trim_eq_self
  · intro c first
    exact visible c (List.mem_of_mem_head? first)
  · intro c last
    exact visible c (List.mem_of_getLast? last)

theorem unopened_type : '<' ∉ spelling.type := by
  intro member
  rcases spelling.mem_type member with member | member
  · revert member
    decide
  · exact spelling.numeric.notMem (by decide) member

theorem unqualify_dropOptional_type : unqualify (dropOptional spelling.type) = spelling.name := by
  have unmarked : '?' ∉ qualify spelling.qualified spelling.name := by
    intro member
    rcases mem_qualify member with member | member
    · revert member
      decide
    · exact spelling.numeric.notMem (by decide) member
  have unlike : ¬ "System.".toList <+: spelling.name := by
    intro front
    exact spelling.numeric.notMem (c := '.') (by decide) (front.mem (by decide))
  rw [type, dropOptional_append_marks, unqualify_qualify _ unlike]
  intro c last same
  exact unmarked (same ▸ List.mem_of_getLast? last)

theorem isNumericType_text : isNumericType spelling.text = true ↔ spelling.wrapper.isQualified = false := by
  rw [isNumericType_iff, text, Padding.trim_around, Wrapper.trim_wrap spelling.trim_type]
  cases qualified : spelling.wrapper.isQualified with
  | false =>
    rw [Wrapper.unwrapNullable_wrap qualified spelling.trim_type spelling.unopened_type, unqualify_dropOptional_type]
    exact iff_of_true spelling.numeric rfl
  | true =>
    refine iff_of_false ?_ Bool.true_eq_false.mp
    intro numeric
    exact numeric.notMem (by decide) (Wrapper.mem_of_isQualified qualified spelling.type)

end Spelling

theorem exists_spelling (numeric : isNumericType text = true) :
    ∃ spelling : Spelling, spelling.wrapper.isQualified = false ∧ spelling.text = text := by
  obtain ⟨gap, padded⟩ := exists_around_trim text
  obtain ⟨wrapper, plain, wrapped⟩ := exists_wrap_unwrapNullable (trim text)
  obtain ⟨marks, marked⟩ := exists_dropOptional_append (unwrapNullable (trim text))
  obtain ⟨qualified, named⟩ := exists_qualify_unqualify (dropOptional (unwrapNullable (trim text)))
  refine ⟨⟨_, isNumericType_iff.1 numeric, qualified, marks, wrapper, gap⟩, plain, ?_⟩
  rw [Spelling.text, Spelling.type, named, marked, wrapped, padded]

/-- A spelling is taken for a whole-number type unless its wrapper is qualified, and a text that is taken for
one is such a spelling: white space, a wrapper, question marks and a qualifier can be taken off to leave the
name of a whole-number type. -/
theorem isNumericType_spellings (spelling : Spelling) (text : List Char) :
    (isNumericType spelling.text = true ↔ spelling.wrapper.isQualified = false) ∧
      (isNumericType text = true ↔
        ∃ spelling : Spelling, spelling.wrapper.isQualified = false ∧ spelling.text = text) := by
  refine ⟨spelling.isNumericType_text, exists_spelling, ?_⟩
  rintro ⟨spelling, plain, rfl⟩
  exact spelling.isNumericType_text.2 plain

def systemNullableInt : Spelling where
  name := "int".toList
  numeric := by decide +kernel
  qualified := false
  marks := 0
  wrapper := .nullable true ⟨[], [], by simp⟩
  gap := ⟨[], [], by simp⟩

/-- A qualified name and a wrapper are each known, but a qualified wrapper is not. -/
theorem isNumericType_of_qualified_wrapper :
    isNumericType "System.int".toList = true ∧ isNumericType "Nullable<int>".toList = true ∧
      systemNullableInt.text = "System.Nullable<int>".toList ∧ isNumericType systemNullableInt.text = false := by
  decide +kernel

theorem Dto.showsNumericId_iff {dto : Dto} : dto.ShowsNumericId ↔
    ∃ spelling : Spelling, spelling.wrapper.isQualified = false ∧
      dto.properties.get? "Id" = some (.string (String.ofList spelling.text)) := by
  constructor
  · rintro ⟨type, declared, numeric⟩
    obtain ⟨spelling, plain, same⟩ := exists_spelling numeric
    exact ⟨spelling, plain, by rw [same, String.ofList_toList, declared]⟩
  · rintro ⟨spelling, plain, declared⟩
    refine ⟨_, declared, ?_⟩
    rwa [String.toList_ofList, spelling.isNumericType_text]

end FrontendAtlas.Contract
