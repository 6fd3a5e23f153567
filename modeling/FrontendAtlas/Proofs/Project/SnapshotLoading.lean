import FrontendAtlas.Project.Verification
import FrontendAtlas.Proofs.Json.Shape

namespace FrontendAtlas

open FrontendAtlas.Json FrontendAtlas.Contract

theorem Content.text?_eq_none_iff {content : Content} :
    content.text? = none ↔ ¬ ByteArray.IsValidUTF8 ⟨content.bytes.toArray⟩ := by
  cases content with
  | text value => simpa [Content.text?, Content.bytes] using value.isValidUTF8
  | binary bytes invalid => simpa [Content.text?, Content.bytes] using invalid

theorem Workspace.read?_eq_some_iff {space : Workspace} {path : String} {content : Content} :
    space.read? path = some content ↔ space.entry? path = some (.file content) := by
  simp only [Workspace.read?, Workspace.entry?, Option.bind_eq_some_iff, FileTree.content?]
  constructor
  · rintro ⟨place, found, held⟩
    refine ⟨place, found, ?_⟩
    split at held
    · rename_i entry
      rw [entry, Option.some.inj held]
    · simp at held
  · rintro ⟨place, found, held⟩
    exact ⟨place, found, by simp [held]⟩

structure Contract.Snapshot.ReadsSections (missing : List String) (look : String → Option Draft)
    (snapshot : Snapshot) : Prop where
  missing : snapshot.missing = missing
  hooks : (Shape.fieldOr ∅ "hooks" (Decode.dict Hook.shape.decode)).build look = .ok snapshot.nodes.hooks
  components : (Shape.fieldOr ∅ "components" (Decode.dict Component.shape.decode)).build look =
    .ok snapshot.nodes.components
  controllers : (Shape.fieldOr ∅ "controllers" (Decode.dict Controller.shape.decode)).build look =
    .ok snapshot.controllers
  dtos : (Shape.fieldOr ∅ "dtos" (Decode.dict Dto.shape.decode)).build look = .ok snapshot.dtos

theorem Contract.Snapshot.readsSections_of_build {missing : List String} {look : String → Option Draft}
    {snapshot : Snapshot} (built : (shape missing).build look = .ok snapshot) :
    ReadsSections missing look snapshot := by
  simp only [shape, Shape.build_seq_eq_ok, Shape.build_map_eq_ok] at built
  obtain ⟨_, _, ⟨_, _, ⟨_, _, ⟨_, _, ⟨_, _, ⟨_, _, ⟨_, _, rfl⟩, _, rfl⟩, hooks, rfl⟩, components, rfl⟩, _, rfl⟩,
    controllers, rfl⟩, dtos, rfl⟩ := built
  exact ⟨rfl, hooks, components, controllers, dtos⟩

theorem Contract.Snapshot.missing_of_ofText {text : String} {snapshot : Snapshot}
    (h : Snapshot.ofText text = .ok snapshot) :
    ∃ value, Value.parse? text.toList = some value ∧ snapshot.missing = Snapshot.missingSections value := by
  rw [Snapshot.ofText] at h
  split at h
  · simp at h
  · rename_i value parsed
    refine ⟨value, parsed, ?_⟩
    obtain ⟨look, built⟩ := Shape.build_of_decode (mapError_eq_ok.1 h)
    exact (Snapshot.readsSections_of_build built).missing

theorem Contract.Snapshot.mem_missingSections {value : Value} {name : String} :
    name ∈ Snapshot.missingSections value ↔ name ∈ Snapshot.requiredSections ∧
      ∃ fields, value = .object fields ∧ ∀ field ∈ fields, field.1 ≠ name := by
  cases value with
  | object fields =>
    have lacking : (fields.lookup name).isNone = true ↔ ∀ field ∈ fields, field.1 ≠ name := by
      simp only [Option.isNone_iff_eq_none, List.lookup_eq_none_iff, bne_iff_ne]
      exact forall₂_congr fun _ _ => ne_comm
    simp [Snapshot.missingSections, lacking]
  | _ => simp [Snapshot.missingSections]

namespace Project

def Decodes (space : Workspace) (path : String) (snapshot : Snapshot) : Prop :=
  ∃ text, space.entry? path = some (.file (.text text)) ∧ Snapshot.ofText text = .ok snapshot

inductive Unloadable (space : Workspace) (settings : VerifierSettings) (path : String) : Prop
  | notFile : (∀ content, space.entry? path ≠ some (.file content)) → Unloadable space settings path
  | notText {content} : space.entry? path = some (.file content) →
      ¬ ByteArray.IsValidUTF8 ⟨content.bytes.toArray⟩ → Unloadable space settings path
  | notSnapshot {text} : space.entry? path = some (.file (.text text)) →
      (∀ snapshot, Snapshot.ofText text ≠ .ok snapshot) → Unloadable space settings path
  | lacksSection {text fields name} : settings.requireSections = true →
      space.entry? path = some (.file (.text text)) → Value.parse? text.toList = some (.object fields) →
      name ∈ ["controllers", "dtos", "components", "hooks"] → (∀ field ∈ fields, field.1 ≠ name) →
      Unloadable space settings path

variable {space : Workspace} {settings : VerifierSettings} {path : String}

theorem Decodes.unique {first second : Snapshot} (h : Decodes space path first)
    (h' : Decodes space path second) : first = second := by
  obtain ⟨text, held, decoded⟩ := h
  obtain ⟨text', held', decoded'⟩ := h'
  rw [held] at held'
  cases held'
  rw [decoded] at decoded'
  exact Except.ok.inj decoded'

theorem loadSnapshot_eq_ok {snapshot : Snapshot} :
    loadSnapshot space path = .ok snapshot ↔ Decodes space path snapshot := by
  rw [loadSnapshot]
  cases read : space.read? path with
  | none =>
    simp only [reduceCtorEq, false_iff]
    rintro ⟨text, held, -⟩
    rw [Workspace.read?_eq_some_iff.2 held] at read
    cases read
  | some content =>
    have held := Workspace.read?_eq_some_iff.1 read
    cases content with
    | binary bytes invalid => simp [Content.text?, Decodes, held]
    | text value => simp [Content.text?, Decodes, held, mapError_eq_ok]

theorem concernsSnapshot_of_loadSnapshot {failure : Failure} (h : loadSnapshot space path = .error failure) :
    failure.concernsSnapshot = true := by
  rw [loadSnapshot] at h
  split at h
  · cases h
    rfl
  · split at h
    · cases h
      rfl
    · rename_i text _
      cases decoded : Snapshot.ofText text with
      | error fault =>
        rw [decoded] at h
        cases h
        rfl
      | ok snapshot =>
        rw [decoded] at h
        cases h

theorem loadChecked_eq_ok {snapshot : Snapshot} : loadChecked space settings path = .ok snapshot ↔
    Decodes space path snapshot ∧ (settings.requireSections = true → snapshot.missing = []) := by
  simp only [loadChecked, bind_eq_ok, loadSnapshot_eq_ok]
  by_cases strict : settings.requireSections = true
  · simp only [strict, if_true, requireSections, List.isEmpty_iff, forall_const]
    constructor
    · rintro ⟨loaded, decodes, checked⟩
      split at checked
      · cases checked
        exact ⟨decodes, by assumption⟩
      · cases checked
    · rintro ⟨decodes, complete⟩
      exact ⟨snapshot, decodes, by simp [complete]⟩
  · simp [strict, pure, Except.pure]

theorem concernsSnapshot_of_loadChecked {failure : Failure}
    (h : loadChecked space settings path = .error failure) : failure.concernsSnapshot = true := by
  rw [loadChecked] at h
  cases loaded : loadSnapshot space path with
  | error reason =>
    rw [loaded] at h
    cases h
    exact concernsSnapshot_of_loadSnapshot loaded
  | ok snapshot =>
    simp only [loaded, bind, Except.bind, requireSections, pure, Except.pure] at h
    split at h
    · split at h <;> cases h
      rfl
    · cases h

theorem unloadable_iff : Unloadable space settings path ↔
    ∀ snapshot, loadChecked space settings path ≠ .ok snapshot := by
  simp only [ne_eq, loadChecked_eq_ok]
  constructor
  · rintro unloadable snapshot ⟨⟨text, held, decoded⟩, complete⟩
    cases unloadable with
    | notFile absent => exact absent _ held
    | notText held' invalid =>
      rw [held] at held'
      cases held'
      exact absurd (Content.text?_eq_none_iff.2 invalid) (by simp [Content.text?])
    | notSnapshot held' refused =>
      rw [held] at held'
      cases held'
      exact refused snapshot decoded
    | lacksSection strict held' parsed required lacking =>
      rw [held] at held'
      cases held'
      obtain ⟨value, parsed', missing⟩ := Snapshot.missing_of_ofText decoded
      rw [parsed] at parsed'
      cases parsed'
      have listed := Snapshot.mem_missingSections.2 ⟨required, _, rfl, lacking⟩
      rw [← missing, complete strict] at listed
      cases listed
  · intro refused
    cases entry : space.entry? path with
    | none => exact .notFile fun content => by simp [entry]
    | some found =>
      cases found with
      | directory => exact .notFile fun content => by simp [entry]
      | file content =>
        cases content with
        | binary bytes invalid => exact .notText entry invalid
        | text text =>
          cases decoded : Snapshot.ofText text with
          | error fault => exact .notSnapshot entry fun snapshot => by simp [decoded]
          | ok snapshot =>
            -- The snapshot decodes, so it is the required sections that it was refused for.
            have incomplete := not_and.1 (refused snapshot) ⟨text, entry, decoded⟩
            simp only [Classical.not_imp] at incomplete
            obtain ⟨strict, missing⟩ := incomplete
            obtain ⟨name, listed⟩ := List.exists_mem_of_ne_nil _ missing
            obtain ⟨value, parsed, sections⟩ := Snapshot.missing_of_ofText decoded
            rw [sections] at listed
            obtain ⟨required, fields, rfl, lacking⟩ := Snapshot.mem_missingSections.1 listed
            exact .lacksSection strict entry parsed required lacking

end Project

end FrontendAtlas
