import FrontendAtlas.Path
import Mathlib

namespace FrontendAtlas

namespace Text

variable {sep : Char → Bool}

theorem splitAt_ne_nil (text : List Char) : splitAt sep text ≠ [] := by
  induction text with
  | nil => simp [splitAt]
  | cons c text ih =>
    rw [splitAt]
    split
    · simp
    · split <;> simp

theorem splitAt_append_cons {c : Char} (separates : sep c = true) (front back : List Char) :
    splitAt sep (front ++ c :: back) = splitAt sep front ++ splitAt sep back := by
  induction front with
  | nil => simp [splitAt, separates]
  | cons d front ih =>
    rw [List.cons_append, splitAt, splitAt, ih]
    split
    · rfl
    · cases split : splitAt sep front with
      | nil => exact absurd split (splitAt_ne_nil front)
      | cons first more => rfl

theorem splitAt_eq_self {text : List Char} (none : ∀ c ∈ text, sep c = false) :
    splitAt sep text = [text] := by
  induction text with
  | nil => rfl
  | cons c text ih =>
    obtain ⟨first, rest⟩ := List.forall_mem_cons.1 none
    simp [splitAt, first, ih rest]

end Text

namespace Path

def inner (segments : List String) : List PathPart :=
  segments.filterMap ofSegment?

theorem inner_append (front back : List String) : inner (front ++ back) = inner front ++ inner back :=
  List.filterMap_append

theorem splitAt_slash (front back : List Char) : Text.splitAt (· == '/') (front ++ '/' :: back) =
    Text.splitAt (· == '/') front ++ Text.splitAt (· == '/') back :=
  Text.splitAt_append_cons rfl front back

theorem ofSegment?_cases (segment : String) :
    (segment = "" ∨ segment = ".") ∧ ofSegment? segment = none ∨
      segment = ".." ∧ ofSegment? segment = some .parent ∨
      (segment ≠ "" ∧ segment ≠ "." ∧ segment ≠ "..") ∧ ofSegment? segment = some (.name segment) := by
  by_cases empty : segment = ""
  · exact .inl ⟨.inl empty, empty ▸ rfl⟩
  by_cases dot : segment = "."
  · exact .inl ⟨.inr dot, dot ▸ rfl⟩
  by_cases dots : segment = ".."
  · exact .inr (.inl ⟨dots, dots ▸ rfl⟩)
  · refine .inr (.inr ⟨⟨empty, dot, dots⟩, ?_⟩)
    simp [ofSegment?]

theorem segments_join {path : String} (relative : isAbsolute path = false) (base : String) :
    ∃ front, segments (join base path) = front ++ segments path ∧ inner front = inner (segments base) := by
  rw [join, relative, if_neg Bool.false_ne_true]
  split
  case isTrue open_ =>
    rcases Bool.or_eq_true_iff.1 open_ with empty | ends
    · refine ⟨[], ?_, ?_⟩
      · rw [String.isEmpty_iff.1 empty, String.empty_append, List.nil_append]
      · rw [String.isEmpty_iff.1 empty]
        decide
    · -- The base ends in a slash, after which it has one more, empty segment.
      obtain ⟨front, split⟩ := List.getLast?_eq_some_iff.1 (beq_iff_eq.1 ends)
      refine ⟨(Text.splitAt (· == '/') front).map String.ofList, ?_, ?_⟩
      · rw [segments, String.toList_append, split, List.append_assoc, List.singleton_append,
          splitAt_slash, List.map_append, segments]
      · rw [segments, split, splitAt_slash, List.map_append, inner_append]
        simp [Text.splitAt, inner, ofSegment?]
  case isFalse =>
    refine ⟨segments base, ?_, rfl⟩
    rw [segments, String.toList_append, String.toList_append, List.append_assoc]
    change (Text.splitAt _ (base.toList ++ '/' :: path.toList)).map String.ofList = _
    rw [splitAt_slash, List.map_append]
    rfl

theorem parts_eq (path : String) : ∃ lead, parts path = lead ++ inner (segments path) ∧
    (isAbsolute path = true ∧ lead = [.root] ∨
      isAbsolute path = false ∧ (lead = [.current] ∨ lead = [])) := by
  rw [parts]
  split
  case isTrue absolute => exact ⟨[.root], rfl, .inl ⟨absolute, rfl⟩⟩
  case isFalse relative =>
    rw [Bool.not_eq_true] at relative
    split
    · exact ⟨[.current], rfl, .inr ⟨relative, .inl rfl⟩⟩
    · exact ⟨[], rfl, .inr ⟨relative, .inr rfl⟩⟩

theorem eq_of_ofSegment? {segment name : String} (part : ofSegment? segment = some (.name name)) :
    segment = name := by
  rcases ofSegment?_cases segment with ⟨-, none⟩ | ⟨-, parent⟩ | ⟨-, own⟩
  · rw [none] at part
    cases part
  · rw [parent] at part
    cases part
  · rw [own] at part
    cases part
    rfl

theorem name_mem_parts_iff_inner {path name : String} :
    .name name ∈ parts path ↔ .name name ∈ inner (segments path) := by
  obtain ⟨lead, split, begins⟩ := parts_eq path
  rw [split, List.mem_append, or_iff_right]
  rcases begins with ⟨-, rfl⟩ | ⟨-, rfl | rfl⟩ <;> simp

theorem name_mem_parts_iff {path name : String} :
    .name name ∈ parts path ↔ name ∈ segments path ∧ ofSegment? name = some (.name name) := by
  rw [name_mem_parts_iff_inner, inner, List.mem_filterMap]
  constructor
  · rintro ⟨segment, member, part⟩
    cases eq_of_ofSegment? part
    exact ⟨member, part⟩
  · rintro ⟨member, part⟩
    exact ⟨name, member, part⟩

theorem fileName?_eq_some_iff {path name : String} :
    fileName? path = some name ↔ (parts path).getLast? = some (.name name) := by
  rw [fileName?]
  split
  case h_1 text last => simp [last]
  case h_2 other =>
    constructor
    · intro none
      cases none
    · intro last
      exact absurd last (other name)

theorem lastName?_eq_some_iff {path name : String} : lastName? path = some name ↔
    ∃ front, segments path = front ++ [name] ∧ ofSegment? name = some (.name name) := by
  rw [lastName?, Option.filter_eq_some_iff, fileName?_eq_some_iff, beq_iff_eq]
  constructor
  · rintro ⟨last, ends⟩
    obtain ⟨front, ends⟩ := List.getLast?_eq_some_iff.1 ends
    exact ⟨front, ends, (name_mem_parts_iff.1 (List.mem_of_getLast? last)).2⟩
  · rintro ⟨front, ends, part⟩
    obtain ⟨lead, split, -⟩ := parts_eq path
    have whole : parts path = lead ++ inner front ++ [.name name] := by
      simp [split, ends, inner, part]
    exact ⟨by rw [whole, List.getLast?_concat], by rw [ends, List.getLast?_concat]⟩

theorem lastName?_join {path name : String} (relative : isAbsolute path = false)
    (named : lastName? path = some name) (base : String) : lastName? (join base path) = some name := by
  obtain ⟨above, ends, part⟩ := lastName?_eq_some_iff.1 named
  obtain ⟨front, joined, -⟩ := segments_join relative base
  exact lastName?_eq_some_iff.2 ⟨front ++ above, by rw [joined, ends, List.append_assoc], part⟩

theorem name_mem_parts_of_join {base file name : String} (relative : isAbsolute file = false)
    (last : inner (segments file) = [.name file]) (member : .name name ∈ (parts (join base file)).dropLast) :
    .name name ∈ parts base := by
  obtain ⟨front, joined, same⟩ := segments_join relative base
  obtain ⟨lead, split, begins⟩ := parts_eq (join base file)
  rw [split, joined, inner_append, last, ← List.append_assoc, List.dropLast_concat, List.mem_append, same,
    ← name_mem_parts_iff_inner] at member
  apply member.resolve_left
  rcases begins with ⟨-, rfl⟩ | ⟨-, rfl | rfl⟩ <;> simp

end Path

end FrontendAtlas
