import FrontendAtlas.Contract.Check
import FrontendAtlas.Proofs.Contract.NameMatching
import FrontendAtlas.Proofs.Dict

namespace FrontendAtlas.Contract

open FrontendAtlas.Text

variable {snapshot : Snapshot} {allowed : List String} {record type : String}

def interfaceNames (types : Dict TypeDeclaration) : List String :=
  (types.entries.filter fun entry => entry.2.kind = .interface).map (·.1)

def loneTypeNote (name : String) : Violation :=
  Check.alignmentNote name "Frontend type has no corresponding backend DTO (may be frontend-only)"

def NeedsRecord (name : String) : Prop :=
  name.toList.head? ≠ some '_' ∧ ¬ "Enum".toList <:+: name.toList

def Serves (record type : String) : Prop :=
  record = type ∨ AlikeBase type record ∨ record = type ++ dtoEnding

theorem exists_serves_iff {dtos : Dict Dto} : (∃ record ∈ dtos.keys, Serves record type) ↔
    (counterpart? type dtos.keys).isSome = true ∨ dtos.contains (type ++ dtoEnding) = true := by
  rw [isSome_counterpart?_iff, ← Dict.mem_keys_iff]
  constructor
  · rintro ⟨record, known, rfl | alike | rfl⟩
    · exact .inl (.inl known)
    · exact .inl (.inr ⟨record, known, alike⟩)
    · exact .inr known
  · rintro ((known | ⟨record, known, alike⟩) | known)
    · exact ⟨type, known, .inl rfl⟩
    · exact ⟨record, known, .inr (.inl alike)⟩
    · exact ⟨_, known, .inr (.inr rfl)⟩

theorem isMatchedInterface_iff {dtos : Dict Dto} : Check.isMatchedInterface dtos type = true ↔
    ¬ NeedsRecord type ∨ ∃ record ∈ dtos.keys, Serves record type := by
  rw [exists_serves_iff, NeedsRecord, Check.isMatchedInterface, Bool.or_eq_true, Bool.or_eq_true, Bool.or_eq_true,
    beq_iff_eq, contains_iff]
  tauto

namespace Check

theorem head_of_mem_dtoNotes {types : Dict TypeDeclaration} {interfaces : List String} {name : String}
    {dto : Dto} {violation : Violation} (found : violation ∈ dtoNotes types interfaces name dto) :
    violation.message.toList.head? ≠ some 'F' := by
  rw [dtoNotes] at found
  split at found
  · rw [List.mem_singleton.1 found]
    simp [alignmentNote]
  · obtain ⟨entry, -, found⟩ := List.mem_filterMap.1 found
    simp only [Option.ite_none_left_eq_some, Option.some.injEq] at found
    rw [← found.2]
    simp [alignmentNote]

theorem typeAlignment_run (records : snapshot.dtos.isEmpty = false) (types : snapshot.nodes.types.isEmpty = false) :
    (typeAlignment allowed).run snapshot =
      ((snapshot.dtos.entries.filter fun entry => !isSkippedDto allowed entry.1).flatMap fun entry =>
        dtoNotes snapshot.nodes.types (interfaceNames snapshot.nodes.types) entry.1 entry.2) ++
      ((interfaceNames snapshot.nodes.types).filter fun name => !isMatchedInterface snapshot.dtos name).map
        loneTypeNote := by
  simp only [typeAlignment, records, types]
  rfl

theorem loneTypeNote_mem_iff (records : snapshot.dtos.isEmpty = false)
    (known : type ∈ interfaceNames snapshot.nodes.types) :
    loneTypeNote type ∈ (typeAlignment allowed).run snapshot ↔ isMatchedInterface snapshot.dtos type = false := by
  have types : snapshot.nodes.types.isEmpty = false := by
    cases empty : snapshot.nodes.types.isEmpty with
    | false => rfl
    | true =>
      rw [interfaceNames, List.isEmpty_iff.1 empty] at known
      cases known
  have onRecord (entry : String × Dto) : loneTypeNote type ∉
      dtoNotes snapshot.nodes.types (interfaceNames snapshot.nodes.types) entry.1 entry.2 := by
    intro found
    apply head_of_mem_dtoNotes found
    simp [loneTypeNote, alignmentNote]
  have same (name : String) : loneTypeNote name = loneTypeNote type ↔ name = type := by
    simp [loneTypeNote, alignmentNote]
  rw [typeAlignment_run records types, List.mem_append, List.mem_flatMap, List.mem_map]
  simp [onRecord, same, known]

end Check

/-- The interface that a record finds can find the record in turn: the names are equal, or equal but for
the record's ending, or neither of them has the ending. -/
def Mutual (record type : String) : Prop :=
  type = record ∨ type = baseName record ∨ ¬ HasEnding record ∧ ¬ HasEnding type

theorem serves_iff (matched : type = record ∨ AlikeBase record type) :
    Serves record type ↔ Mutual record type := by
  constructor
  · rintro (rfl | alike | rfl)
    · exact .inl rfl
    · rcases matched with rfl | converse
      · exact .inl rfl
      · -- Each name is as long as the other without its ending, so neither has one.
        have first := length_eq_of_eqIgnoringAsciiCase alike
        have second := length_eq_of_eqIgnoringAsciiCase converse
        have shorter := length_baseName_le record
        have shorter' := length_baseName_le type
        exact .inr (.inr ⟨not_hasEnding_of_length (by omega), not_hasEnding_of_length (by omega)⟩)
    · exact .inr (.inl (baseName_append type).symm)
  · rintro (rfl | rfl | ⟨plain, plain'⟩)
    · exact .inl rfl
    · obtain ⟨-, split⟩ | ⟨-, same⟩ := baseName_cases record
      · exact .inr (.inr split)
      · exact .inl same.symm
    · rcases matched with rfl | alike
      · exact .inl rfl
      · rw [AlikeBase, baseName_of_not_hasEnding plain, eqIgnoringAsciiCase_comm] at alike
        refine .inr (.inl ?_)
        rwa [AlikeBase, baseName_of_not_hasEnding plain']

/-- An interface that a record has found is not reported to lack a record if the two names are mutual.
If they are not, the record does not count for it: it is reported unless another record serves it or it
needs none. -/
theorem typeAlignment_directions (known : snapshot.dtos.contains record = true)
    (matched : counterpart? record (interfaceNames snapshot.nodes.types) = some type) :
    (Mutual record type → loneTypeNote type ∉ (Check.typeAlignment allowed).run snapshot) ∧
      (¬ Mutual record type → (loneTypeNote type ∈ (Check.typeAlignment allowed).run snapshot ↔
        NeedsRecord type ∧ ∀ other ∈ snapshot.dtos.keys, other ≠ record → ¬ Serves other type)) := by
  obtain ⟨listed, alike⟩ := counterpart?_sound matched
  have key : record ∈ snapshot.dtos.keys := Dict.mem_keys_iff.2 known
  have records : snapshot.dtos.isEmpty = false := by
    cases empty : snapshot.dtos.isEmpty with
    | false => rfl
    | true =>
      rw [Dict.keys, List.isEmpty_iff.1 empty] at key
      cases key
  rw [Check.loneTypeNote_mem_iff records listed, ← Bool.not_eq_true, isMatchedInterface_iff, ← serves_iff alike]
  constructor
  · intro serves reported
    exact reported (.inr ⟨record, key, serves⟩)
  · intro fails
    rw [not_or, not_not]
    apply and_congr_right
    intro needs
    constructor
    · intro none other listed _ serves
      exact none ⟨other, listed, serves⟩
    · rintro none ⟨other, listed, serves⟩
      have differs : other ≠ record := by
        rintro rfl
        exact fails serves
      exact none other listed differs serves

def onePair (record type : String) : Snapshot where
  nodes := ⟨.ofList [(type, ⟨type, .interface, ∅, "types.ts"⟩)], ∅, ∅, ∅⟩
  edges := []
  controllers := ∅
  dtos := .ofList [(record, ⟨record, ∅⟩)]
  missing := []

theorem typeAlignment_directions_person :
    (onePair "PersonDto" "Person").dtos.contains "PersonDto" = true ∧
      counterpart? "PersonDto" (interfaceNames (onePair "PersonDto" "Person").nodes.types) = some "Person" ∧
      loneTypeNote "Person" ∉ (Check.typeAlignment []).run (onePair "PersonDto" "Person") := by
  have known : (onePair "PersonDto" "Person").dtos.contains "PersonDto" = true := by decide +kernel
  have matched : counterpart? "PersonDto" (interfaceNames (onePair "PersonDto" "Person").nodes.types) =
      some "Person" := by decide +kernel
  refine ⟨known, matched, (typeAlignment_directions known matched).1 (.inr (.inl ?_))⟩
  decide +kernel

/-- A record has found an interface that is then said to have no record. -/
theorem typeAlignment_of_other_case :
    Check.isSkippedDto [] "PersonDto" = false ∧
      counterpart? "PersonDto" (interfaceNames (onePair "PersonDto" "person").nodes.types) = some "person" ∧
      loneTypeNote "person" ∈ (Check.typeAlignment []).run (onePair "PersonDto" "person") := by
  decide +kernel

end FrontendAtlas.Contract
