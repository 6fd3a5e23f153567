import FrontendAtlas.Command.Run
import FrontendAtlas.Proofs.Contract.Breach
import FrontendAtlas.Proofs.Project.SnapshotLoading

namespace FrontendAtlas

open FrontendAtlas.Json FrontendAtlas.Contract

namespace Command

open FrontendAtlas.Project (Decodes Unloadable loadChecked loadChecked_eq_ok unloadable_iff
  concernsSnapshot_of_loadChecked)

theorem exit_verify_of_loaded {space : Workspace} {settings : VerifierSettings} {path : String}
    {snapshot : Snapshot} (json : Bool) (loaded : loadChecked space settings path = .ok snapshot) :
    (snapshot.Breached → (verify space settings path json).map (·.exit) = .ok 1) ∧
      (¬ snapshot.Breached → (verify space settings path json).map (·.exit) = .ok 0) := by
  rw [verify, loaded]
  simp only [withSnapshot, Except.map, Except.ok.injEq, Report.exitCode]
  constructor
  · intro breached
    refine if_neg ?_
    rw [Report.passed_ofSnapshot]
    exact not_not_intro breached
  · intro kept
    exact if_pos ((Report.passed_ofSnapshot _ _).2 kept)

theorem exit_verify_of_unloadable {space : Workspace} {settings : VerifierSettings} {path : String}
    (json : Bool) (h : Unloadable space settings path) :
    (verify space settings path json).map (·.exit) = .ok 2 := by
  rw [verify]
  cases loaded : loadChecked space settings path with
  | ok snapshot => exact absurd loaded (unloadable_iff.1 h snapshot)
  | error failure =>
    rw [withSnapshot, if_pos (concernsSnapshot_of_loadChecked loaded)]
    rfl

theorem exit_verify_cases (space : Workspace) (settings : VerifierSettings) (path : String) (json : Bool) :
    (Unloadable space settings path ∧ (verify space settings path json).map (·.exit) = .ok 2) ∨
      ∃ snapshot, loadChecked space settings path = .ok snapshot ∧
        (snapshot.Breached ∧ (verify space settings path json).map (·.exit) = .ok 1 ∨
          ¬ snapshot.Breached ∧ (verify space settings path json).map (·.exit) = .ok 0) := by
  cases loaded : loadChecked space settings path with
  | error failure =>
    have unloadable : Unloadable space settings path := unloadable_iff.2 fun snapshot => by simp [loaded]
    exact .inl ⟨unloadable, exit_verify_of_unloadable json unloadable⟩
  | ok snapshot =>
    obtain ⟨fails, passes⟩ := exit_verify_of_loaded json loaded
    refine .inr ⟨snapshot, rfl, ?_⟩
    by_cases breached : snapshot.Breached
    · exact .inl ⟨breached, fails breached⟩
    · exact .inr ⟨breached, passes breached⟩

theorem exit_verify_congr {space space' : Workspace} {settings settings' : VerifierSettings}
    {path path' : String} {snapshot snapshot' : Snapshot} (json json' : Bool)
    (decodes : Decodes space path snapshot) (decodes' : Decodes space' path' snapshot')
    (strict : settings.requireSections = settings'.requireSections)
    (missing : snapshot.missing = snapshot'.missing)
    (controllers : snapshot.controllers = snapshot'.controllers) (dtos : snapshot.dtos = snapshot'.dtos)
    (components : snapshot.nodes.components = snapshot'.nodes.components) :
    (verify space settings path json).map (·.exit) = (verify space' settings' path' json').map (·.exit) := by
  have breached : snapshot.Breached ↔ snapshot'.Breached := by
    simp only [Snapshot.breached_iff, Check.responseEnvelope_finds, Check.numericId_finds,
      Check.idKeyRoute_finds, Check.hookWrapping_finds, controllers, dtos, components]
  rcases exit_verify_cases space settings path json with ⟨unloadable, ends⟩ | ⟨loaded, h, ends⟩
  · have refused := unloadable_iff.1 unloadable snapshot
    rw [ne_eq, loadChecked_eq_ok, strict, missing] at refused
    have unloadable' : Unloadable space' settings' path' := by
      refine unloadable_iff.2 fun other loaded => refused ⟨decodes, ?_⟩
      obtain ⟨decodes'', complete⟩ := loadChecked_eq_ok.1 loaded
      rwa [decodes'.unique decodes'']
    rw [ends, exit_verify_of_unloadable json' unloadable']
  · obtain ⟨decodes'', complete⟩ := loadChecked_eq_ok.1 h
    cases decodes.unique decodes''
    rw [strict, missing] at complete
    obtain ⟨fails, passes⟩ := exit_verify_of_loaded json' (loadChecked_eq_ok.2 ⟨decodes', complete⟩)
    rcases ends with ⟨broken, ends⟩ | ⟨kept, ends⟩
    · rw [ends, fails (breached.1 broken)]
    · rw [ends, passes fun broken => kept (breached.2 broken)]

/-- A verification never fails to end, and its exit code is 2, 1 or 0 by the stated conditions.  Two
runs over snapshots that differ in no section with a blocking rule end alike, whatever is allowed and
however the report is printed; to require the sections can only turn an exit code into 2. -/
theorem verify_exit_law (space : Workspace) (settings : VerifierSettings) (path : String) (json : Bool) :
    (∃ code, (verify space settings path json).map (·.exit) = .ok code ∧
      (code = 2 ↔ Unloadable space settings path) ∧
      (code = 1 ↔ ¬ Unloadable space settings path ∧
        ∃ snapshot, Decodes space path snapshot ∧ snapshot.Breached) ∧
      (code = 0 ↔ ¬ Unloadable space settings path ∧
        ¬ ∃ snapshot, Decodes space path snapshot ∧ snapshot.Breached)) ∧
    (∀ space' settings' path' json' snapshot snapshot', Decodes space path snapshot →
      Decodes space' path' snapshot' → settings.requireSections = settings'.requireSections →
      snapshot.missing = snapshot'.missing → snapshot.controllers = snapshot'.controllers →
      snapshot.dtos = snapshot'.dtos → snapshot.nodes.components = snapshot'.nodes.components →
      (verify space settings path json).map (·.exit) =
        (verify space' settings' path' json').map (·.exit)) ∧
    ((verify space { settings with requireSections := true } path json).map (·.exit) =
        (verify space { settings with requireSections := false } path json).map (·.exit) ∨
      (verify space { settings with requireSections := true } path json).map (·.exit) = .ok 2) := by
  refine ⟨?_, ?_, ?_⟩
  · rcases exit_verify_cases space settings path json with ⟨unloadable, ends⟩ | ⟨snapshot, loaded, ends⟩
    · exact ⟨2, ends, by simp [unloadable], by simp [unloadable], by simp [unloadable]⟩
    · have loads : ¬ Unloadable space settings path := fun h => unloadable_iff.1 h snapshot loaded
      have decodes := (loadChecked_eq_ok.1 loaded).1
      have breached : (∃ snapshot, Decodes space path snapshot ∧ snapshot.Breached) ↔ snapshot.Breached := by
        constructor
        · rintro ⟨other, decodes', broken⟩
          rwa [decodes.unique decodes']
        · exact fun broken => ⟨snapshot, decodes, broken⟩
      rcases ends with ⟨broken, ends⟩ | ⟨kept, ends⟩
      · exact ⟨1, ends, by simp [loads], by simp [loads, breached, broken], by simp [breached, broken]⟩
      · exact ⟨0, ends, by simp [loads], by simp [breached, kept], by simp [loads, breached, kept]⟩
  · intro space' settings' path' json' snapshot snapshot' decodes decodes' strict missing
    exact exit_verify_congr json json' decodes decodes' strict missing
  · rcases exit_verify_cases space { settings with requireSections := true } path json with
      ⟨-, ends⟩ | ⟨snapshot, loaded, ends⟩
    · exact .inr ends
    · left
      obtain ⟨decodes, -⟩ := loadChecked_eq_ok.1 loaded
      have loose : loadChecked space { settings with requireSections := false } path = .ok snapshot :=
        loadChecked_eq_ok.2 ⟨decodes, by simp⟩
      obtain ⟨fails, passes⟩ := exit_verify_of_loaded json loose
      rcases ends with ⟨broken, ends⟩ | ⟨kept, ends⟩
      · rw [ends, fails broken]
      · rw [ends, passes kept]

def callingSpace : Workspace where
  tree := ⟨[(["a"], .file (.text "[\x7b\x7d,\x7b\x7d,\x7b\x7d,\x7b\"A\":[\"\",\"\",[],true]\x7d]")),
    (["b"], .file (.text "[\x7b\x7d,\x7b\x7d,\x7b\x7d,\x7b\"A\":[\"\",\"\",[],true]\x7d,[null]]"))], by simp; decide⟩
  directory := []

def callingSnapshot (edges : List Value) : Snapshot where
  nodes := { components := .ofList [("A", ⟨"", "", ∅, true⟩)] }
  edges
  controllers := ∅
  dtos := ∅
  missing := []

theorem verify_exit_law_calling :
    Decodes callingSpace "a" (callingSnapshot []) ∧ Decodes callingSpace "b" (callingSnapshot [.null]) ∧
      (verify callingSpace {} "a" true).map (·.exit) = .ok 1 ∧
      (verify callingSpace { allowed := ["ADto"] } "b" false).map (·.exit) = .ok 1 := by
  have first : Decodes callingSpace "a" (callingSnapshot []) := ⟨_, by cbv, by cbv⟩
  have second : Decodes callingSpace "b" (callingSnapshot [.null]) := ⟨_, by cbv, by cbv⟩
  obtain ⟨⟨code, ends, -, one, -⟩, alike, -⟩ := verify_exit_law callingSpace {} "a" true
  have loads : ¬ Unloadable callingSpace {} "a" := fun unloadable =>
    unloadable_iff.1 unloadable _ (loadChecked_eq_ok.2 ⟨first, by simp⟩)
  have calling : (callingSnapshot []).nodes.components.get? "A" = some ⟨"", "", ∅, true⟩ := by cbv
  have same := alike callingSpace { allowed := ["ADto"] } "b" false _ _ first second rfl rfl rfl rfl rfl
  rw [one.2 ⟨loads, _, first, .directCall calling rfl⟩] at ends
  exact ⟨first, second, ends, same.symm.trans ends⟩

end Command

end FrontendAtlas
