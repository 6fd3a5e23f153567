import FrontendAtlas.Proofs.Json.Record
import FrontendAtlas.Proofs.Project.SnapshotLoading

/-! Snapshots that have to have all sections.  What a document lacks is told by the names of its fields,
but a record may also be given as the array of its fields, which has no names.  So an array is taken for
complete however short it is, and the sections that it lacks are empty. -/

namespace FrontendAtlas

open FrontendAtlas.Json FrontendAtlas.Contract

theorem Json.Draft.length_ofValues (items : List Value) : (ofValues items).length = items.length := by
  induction items with
  | nil => rfl
  | cons item items ih => rw [ofValues, List.length_cons, List.length_cons, ih]

namespace Json.Shape

variable {α : Type} {shape : Shape α} {rules : List FieldRule}

theorem length_le_of_checkItems {items : List Draft} (h : checkItems rules items = .ok ()) :
    items.length ≤ rules.length := by
  induction rules generalizing items with
  | nil =>
    cases items with
    | nil => exact Nat.le_refl 0
    | cons item items => cases h
  | cons rule rules ih =>
    cases items with
    | nil => exact Nat.zero_le _
    | cons item items =>
      obtain ⟨-, -, checked⟩ := bind_eq_ok.1 h
      exact Nat.succ_le_succ (ih checked)

theorem object_or_array_of_decode {value : Value} {a : α} (h : value.decode shape.decode = .ok a) :
    (∃ fields, value = .object fields) ∨
      ∃ items, value = .array items ∧ items.length ≤ shape.rules.length ∧
        shape.build (lookItem shape.rules (Draft.ofValues items)) = .ok a := by
  cases value with
  | object fields => exact .inl ⟨fields, rfl⟩
  | array items =>
    obtain ⟨_, checked, built⟩ := bind_eq_ok.1 h
    exact .inr ⟨items, rfl, Draft.length_ofValues items ▸ length_le_of_checkItems checked, built⟩
  | _ => cases h

theorem lookItem_eq_none {items : List Draft} {name : String}
    (behind : name ∉ (rules.map (·.name)).take items.length) : lookItem rules items name = none := by
  rw [lookItem, List.lookup_eq_none_iff]
  intro entry member
  rw [bne_iff_ne]
  rintro rfl
  apply behind
  have inFront := List.mem_map_of_mem (f := Prod.fst) member
  rw [List.zip_eq_zip_take_min, List.map_fst_zip (by simp)] at inFront
  exact List.take_subset_take_left _ (Nat.min_le_right _ _) inFront

end Json.Shape

namespace Contract.Snapshot

def NamesSections (value : Value) : Prop :=
  ∃ fields, value = .object fields ∧
    ∀ name ∈ ["controllers", "dtos", "components", "hooks"], ∃ field ∈ fields, field.1 = name

theorem missingSections_eq_nil_iff {fields : List (String × Value)} :
    missingSections (.object fields) = [] ↔ NamesSections (.object fields) := by
  simp only [List.eq_nil_iff_forall_not_mem, mem_missingSections, NamesSections, Value.object.injEq,
    exists_eq_left', not_and, not_forall, not_not, requiredSections, exists_prop]

theorem names_shape (missing : List String) : (shape missing).rules.map (·.name) =
    ["types", "api_functions", "hooks", "components", "edges", "controllers", "dtos"] := rfl

theorem sections_of_short_array {missing : List String} {items : List Draft} {snapshot : Snapshot}
    (built : (shape missing).build (Shape.lookItem (shape missing).rules items) = .ok snapshot) :
    (items.length ≤ 2 → snapshot.nodes.hooks = ∅) ∧ (items.length ≤ 3 → snapshot.nodes.components = ∅) ∧
      (items.length ≤ 5 → snapshot.controllers = ∅) ∧ (items.length ≤ 6 → snapshot.dtos = ∅) := by
  have absent {β : Type} {name : String} {decoder : Decoder β} {usual found : β}
      (h : (Shape.fieldOr usual name decoder).build (Shape.lookItem (shape missing).rules items) = .ok found)
      (behind : name ∉ ((shape missing).rules.map (·.name)).take items.length) : found = usual := by
    rw [Shape.fieldOr, Shape.build_absent (Shape.lookItem_eq_none behind)] at h
    exact (Except.ok.inj h).symm
  rw [names_shape] at absent
  have reads := readsSections_of_build built
  refine ⟨fun short => absent reads.hooks ?_, fun short => absent reads.components ?_,
    fun short => absent reads.controllers ?_, fun short => absent reads.dtos ?_⟩
  all_goals
    intro member
    have sooner := List.take_subset_take_left _ short member
    revert sooner
    decide

end Contract.Snapshot

namespace Project

/-- When all sections are required, a snapshot is loaded from an object that names all of them, or from an
array of at most seven items; a section for which the array is too short is empty. -/
theorem loadChecked_strict_eq_ok {space : Workspace} {settings : VerifierSettings} {path : String}
    {snapshot : Snapshot} :
    loadChecked space { settings with requireSections := true } path = .ok snapshot ↔
      ∃ text value, space.entry? path = some (.file (.text text)) ∧ Value.parse? text.toList = some value ∧
        Snapshot.ofText text = .ok snapshot ∧
        (Snapshot.NamesSections value ∨ ∃ items, value = .array items ∧ items.length ≤ 7 ∧
          (items.length ≤ 2 → snapshot.nodes.hooks = ∅) ∧ (items.length ≤ 3 → snapshot.nodes.components = ∅) ∧
          (items.length ≤ 5 → snapshot.controllers = ∅) ∧ (items.length ≤ 6 → snapshot.dtos = ∅)) := by
  rw [loadChecked_eq_ok]
  constructor
  · rintro ⟨⟨text, held, decoded⟩, complete⟩
    obtain ⟨value, parsed, missing⟩ := Snapshot.missing_of_ofText decoded
    rw [complete rfl] at missing
    refine ⟨text, value, held, parsed, decoded, ?_⟩
    rw [Snapshot.ofText, parsed] at decoded
    rcases Shape.object_or_array_of_decode (mapError_eq_ok.1 decoded) with
      ⟨fields, rfl⟩ | ⟨items, rfl, short, built⟩
    · exact .inl (Snapshot.missingSections_eq_nil_iff.1 missing.symm)
    · have sections := Snapshot.sections_of_short_array built
      rw [Draft.length_ofValues] at sections
      exact .inr ⟨items, rfl, short, sections⟩
  · rintro ⟨text, value, held, parsed, decoded, given⟩
    refine ⟨⟨text, held, decoded⟩, fun _ => ?_⟩
    obtain ⟨_, parsed', missing⟩ := Snapshot.missing_of_ofText decoded
    cases parsed.symm.trans parsed'
    rw [missing]
    rcases given with ⟨fields, rfl, named⟩ | ⟨items, rfl, -⟩
    · exact Snapshot.missingSections_eq_nil_iff.2 ⟨fields, rfl, named⟩
    · rfl

def emptyArraySpace : Workspace where
  tree := ⟨[(["graph.json"], .file (.text "[]"))], by simp⟩
  directory := []

/-- An empty array is loaded although it has none of the sections. -/
theorem loadChecked_empty_array :
    ∃ snapshot, loadChecked emptyArraySpace { requireSections := true } "graph.json" = .ok snapshot ∧
      emptyArraySpace.entry? "graph.json" = some (.file (.text "[]")) ∧
      ∃ value, Value.parse? "[]".toList = some value ∧ ¬ Snapshot.NamesSections value := by
  have held : emptyArraySpace.entry? "graph.json" = some (.file (.text "[]")) := by decide +kernel
  have parsed : Value.parse? "[]".toList = some (.array []) := by cbv
  have decoded : Snapshot.ofText "[]" = .ok ⟨{}, [], ∅, ∅, []⟩ := by cbv
  refine ⟨_, loadChecked_eq_ok.2 ⟨⟨"[]", held, decoded⟩, fun _ => rfl⟩, held, _, parsed, ?_⟩
  rintro ⟨fields, named, -⟩
  cases named

end Project

end FrontendAtlas
