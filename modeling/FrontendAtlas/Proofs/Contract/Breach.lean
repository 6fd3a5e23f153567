import FrontendAtlas.Contract.Report
import FrontendAtlas.Proofs.Dict

namespace FrontendAtlas.Contract

open FrontendAtlas.Json

def Controller.StatesEnvelope (controller : Controller) : Prop :=
  ∃ patterns flag, controller.patterns = some patterns ∧
    patterns.get? "response_envelope" = some (.bool flag)

def Dto.ShowsNumericId (dto : Dto) : Prop :=
  ∃ type, dto.properties.get? "Id" = some (.string type) ∧ isNumericType type.toList = true

def NamesRawId (route : Option String) : Prop :=
  ∃ text, route = some text ∧ usesRawId text.toList = true

inductive Snapshot.Breached (snapshot : Snapshot) : Prop
  | envelope {name controller} : snapshot.controllers.get? name = some controller →
      ¬ controller.StatesEnvelope → Breached snapshot
  | numericId {name dto} : snapshot.dtos.get? name = some dto → dto.ShowsNumericId → Breached snapshot
  | controllerRoute {name controller} : snapshot.controllers.get? name = some controller →
      NamesRawId controller.route → Breached snapshot
  | endpointRoute {name controller endpoint} : snapshot.controllers.get? name = some controller →
      endpoint ∈ controller.endpoints → NamesRawId endpoint.route → Breached snapshot
  | directCall {name component} : snapshot.nodes.components.get? name = some component →
      component.callsNetwork = true → Breached snapshot

theorem filter_eq_ite {α : Type*} {members : List α} {keep : α → Bool} {agreed : Prop} [Decidable agreed]
    (uniform : ∀ member ∈ members, keep member = decide agreed) :
    members.filter keep = if agreed then members else [] := by
  split
  case isTrue holds =>
    apply List.filter_eq_self.2
    intro member listed
    simp [uniform member listed, holds]
  case isFalse fails =>
    apply List.filter_eq_nil_iff.2
    intro member listed
    simp [uniform member listed, fails]

namespace Check

def Reports (check : Check) (severity : Severity) : Prop :=
  ∀ snapshot, ∀ violation ∈ check.run snapshot, violation.severity = severity

def Marks (check : Check) (severity : Severity) : Prop :=
  ∀ snapshot, ∀ violation ∈ check.run snapshot, violation.severity = severity ∧ violation.checkId = check.id

theorem Marks.reports {check : Check} {severity : Severity} (marks : check.Marks severity) :
    check.Reports severity :=
  fun snapshot violation found => (marks snapshot violation found).1

def Finds (check : Check) (snapshot : Snapshot) : Prop :=
  ∃ violation, violation ∈ check.run snapshot

theorem responseEnvelope_marks : responseEnvelope.Marks .fail := by
  intro snapshot violation found
  obtain ⟨⟨name, controller⟩, -, found⟩ := List.mem_filterMap.1 found
  simp only at found
  split at found <;> simp at found <;> simp [← found, responseEnvelope]

theorem numericId_marks : numericId.Marks .fail := by
  intro snapshot violation found
  obtain ⟨⟨name, dto⟩, -, found⟩ := List.mem_filterMap.1 found
  simp only at found
  split at found
  · split at found <;> simp at found
    simp [← found, numericId]
  · simp at found

theorem marks_of_rawIdViolation? {subject start : String} {route : Option String} {violation : Violation}
    (h : rawIdViolation? subject start route = some violation) :
    violation.severity = .fail ∧ violation.checkId = idKeyRoute.id := by
  simp only [rawIdViolation?, Option.bind_eq_bind, Option.bind_eq_some_iff, pure] at h
  obtain ⟨text, -, h⟩ := h
  simp [← Option.some.inj h, idKeyRoute]

theorem rawIdViolation?_isSome {subject start : String} {route : Option String} :
    (∃ violation, rawIdViolation? subject start route = some violation) ↔ NamesRawId route := by
  cases route with
  | none => simp [rawIdViolation?, NamesRawId]
  | some text =>
    by_cases raw : usesRawId text.toList <;> simp [rawIdViolation?, NamesRawId, Option.filter, raw]

theorem idKeyRoute_marks : idKeyRoute.Marks .fail := by
  intro snapshot violation found
  obtain ⟨⟨name, controller⟩, -, found⟩ := List.mem_flatMap.1 found
  rcases List.mem_append.1 found with found | found
  · exact marks_of_rawIdViolation? (Option.mem_toList.1 found)
  · obtain ⟨endpoint, -, found⟩ := List.mem_filterMap.1 found
    exact marks_of_rawIdViolation? found

theorem hookWrapping_marks : hookWrapping.Marks .fail := by
  intro snapshot violation found
  obtain ⟨⟨name, component⟩, -, found⟩ := List.mem_filterMap.1 found
  simp only at found
  split at found <;> simp at found
  simp [← found, hookWrapping]

theorem marks_of_mem_missingProperties {dtoName typeName : String} {dto : Dto} {properties : Dict String}
    {violation : Violation} (found : violation ∈ missingProperties dtoName typeName dto properties) :
    violation.severity = .info ∧ violation.checkId = "type_alignment" := by
  obtain ⟨⟨name, value⟩, -, found⟩ := List.mem_filterMap.1 found
  simp only [Option.ite_none_left_eq_some, Option.some.injEq] at found
  rw [← found.2]
  exact ⟨rfl, rfl⟩

theorem marks_of_mem_dtoNotes {types : Dict TypeDeclaration} {interfaces : List String}
    {name : String} {dto : Dto} {violation : Violation} (found : violation ∈ dtoNotes types interfaces name dto) :
    violation.severity = .info ∧ violation.checkId = "type_alignment" := by
  rw [dtoNotes] at found
  split at found
  · simp [List.mem_singleton.1 found, alignmentNote]
  · exact marks_of_mem_missingProperties found

theorem typeAlignment_marks (allowed : List String) : (typeAlignment allowed).Marks .info := by
  intro snapshot violation found
  simp only [typeAlignment] at found ⊢
  split at found
  · simp at found
  · split at found
    · simp [List.mem_singleton.1 found, alignmentNote]
    · rcases List.mem_append.1 found with found | found
      · obtain ⟨⟨name, dto⟩, -, found⟩ := List.mem_flatMap.1 found
        exact marks_of_mem_dtoNotes found
      · obtain ⟨name, -, rfl⟩ := List.mem_map.1 found
        exact ⟨rfl, rfl⟩

theorem unresolvedReference_marks : unresolvedReference.Marks .warn := by
  intro snapshot violation found
  obtain ⟨reference, -, rfl⟩ := List.mem_map.1 found
  exact ⟨rfl, rfl⟩

theorem responseEnvelope_finds {snapshot : Snapshot} :
    responseEnvelope.Finds snapshot ↔ ∃ name controller,
      snapshot.controllers.get? name = some controller ∧ ¬ controller.StatesEnvelope := by
  simp only [Finds, responseEnvelope, List.mem_filterMap, Prod.exists, Dict.mem_entries_iff]
  constructor
  · rintro ⟨violation, name, controller, known, found⟩
    refine ⟨name, controller, known, ?_⟩
    rintro ⟨patterns, flag, hp, hf⟩
    simp [hp, hf] at found
  · rintro ⟨name, controller, known, silent⟩
    cases declared : controller.patterns.bind (·.get? "response_envelope") with
    | none => exact ⟨_, name, controller, known, by simp only [declared]; rfl⟩
    | some value =>
      cases value with
      | bool flag =>
        obtain ⟨patterns, hp, hf⟩ := Option.bind_eq_some_iff.1 declared
        exact absurd ⟨patterns, flag, hp, hf⟩ silent
      | _ => exact ⟨_, name, controller, known, by simp only [declared]; rfl⟩

theorem numericId_finds {snapshot : Snapshot} :
    numericId.Finds snapshot ↔ ∃ name dto, snapshot.dtos.get? name = some dto ∧ dto.ShowsNumericId := by
  simp only [Finds, numericId, List.mem_filterMap, Prod.exists, Dict.mem_entries_iff]
  constructor
  · rintro ⟨violation, name, dto, known, found⟩
    refine ⟨name, dto, known, ?_⟩
    split at found
    · rename_i type declared
      split at found
      · rename_i numeric
        exact ⟨type, declared, numeric⟩
      · simp at found
    · simp at found
  · rintro ⟨name, dto, known, type, declared, numeric⟩
    exact ⟨_, name, dto, known, by simp only [declared, numeric]; rfl⟩

theorem idKeyRoute_finds {snapshot : Snapshot} :
    idKeyRoute.Finds snapshot ↔ ∃ name controller, snapshot.controllers.get? name = some controller ∧
      (NamesRawId controller.route ∨ ∃ endpoint ∈ controller.endpoints, NamesRawId endpoint.route) := by
  simp only [Finds, idKeyRoute, List.mem_flatMap, Prod.exists, Dict.mem_entries_iff, List.mem_append,
    List.mem_filterMap, Option.mem_toList]
  constructor
  · rintro ⟨violation, name, controller, known, found | ⟨endpoint, listed, found⟩⟩
    · exact ⟨name, controller, known, .inl (rawIdViolation?_isSome.1 ⟨_, found⟩)⟩
    · exact ⟨name, controller, known, .inr ⟨endpoint, listed, rawIdViolation?_isSome.1 ⟨_, found⟩⟩⟩
  · rintro ⟨name, controller, known, raw | ⟨endpoint, listed, raw⟩⟩
    · obtain ⟨violation, found⟩ := rawIdViolation?_isSome.2 raw
      exact ⟨violation, name, controller, known, .inl found⟩
    · obtain ⟨violation, found⟩ := rawIdViolation?_isSome.2 raw
      exact ⟨violation, name, controller, known, .inr ⟨endpoint, listed, found⟩⟩

theorem hookWrapping_finds {snapshot : Snapshot} :
    hookWrapping.Finds snapshot ↔ ∃ name component,
      snapshot.nodes.components.get? name = some component ∧ component.callsNetwork = true := by
  simp only [Finds, hookWrapping, List.mem_filterMap, Prod.exists, Dict.mem_entries_iff]
  constructor
  · rintro ⟨violation, name, component, known, found⟩
    refine ⟨name, component, known, ?_⟩
    split at found
    · assumption
    · simp at found
  · rintro ⟨name, component, known, calls⟩
    exact ⟨_, name, component, known, by simp only [calls]; rfl⟩

end Check

open Check in
theorem Snapshot.breached_iff {snapshot : Snapshot} :
    snapshot.Breached ↔ responseEnvelope.Finds snapshot ∨ numericId.Finds snapshot ∨
      idKeyRoute.Finds snapshot ∨ hookWrapping.Finds snapshot := by
  rw [responseEnvelope_finds, numericId_finds, idKeyRoute_finds, hookWrapping_finds]
  constructor
  · intro breached
    cases breached with
    | envelope known silent => exact .inl ⟨_, _, known, silent⟩
    | numericId known shown => exact .inr (.inl ⟨_, _, known, shown⟩)
    | controllerRoute known raw => exact .inr (.inr (.inl ⟨_, _, known, .inl raw⟩))
    | endpointRoute known listed raw => exact .inr (.inr (.inl ⟨_, _, known, .inr ⟨_, listed, raw⟩⟩))
    | directCall known calls => exact .inr (.inr (.inr ⟨_, _, known, calls⟩))
  · rintro (⟨_, _, known, silent⟩ | ⟨_, _, known, shown⟩ | ⟨_, _, known, raw | ⟨_, listed, raw⟩⟩ |
      ⟨_, _, known, calls⟩)
    · exact .envelope known silent
    · exact .numericId known shown
    · exact .controllerRoute known raw
    · exact .endpointRoute known listed raw
    · exact .directCall known calls

open Check in
theorem Report.passed_ofSnapshot (snapshot : Snapshot) (allowed : List String) :
    (Report.ofSnapshot snapshot allowed).passed = true ↔ ¬ snapshot.Breached := by
  have failing (check : Check) (reports : check.Reports .fail) :
      (∃ violation ∈ check.run snapshot, violation.severity = .fail) ↔ check.Finds snapshot := by
    constructor
    · rintro ⟨violation, found, -⟩
      exact ⟨violation, found⟩
    · rintro ⟨violation, found⟩
      exact ⟨violation, found, reports snapshot violation found⟩
  have silent (check : Check) (severity : Severity) (reports : check.Reports severity)
      (mild : severity ≠ .fail) : ¬ ∃ violation ∈ check.run snapshot, violation.severity = .fail := by
    rintro ⟨violation, found, fail⟩
    exact mild ((reports snapshot violation found).symm.trans fail)
  have fails : (∃ violation ∈ (Report.ofSnapshot snapshot allowed).violations, violation.severity = .fail) ↔
      snapshot.Breached := by
    simp only [Report.ofSnapshot, Check.all, List.flatMap_cons, List.flatMap_nil, List.append_nil,
      List.mem_append, or_and_right, exists_or]
    rw [failing _ responseEnvelope_marks.reports, failing _ numericId_marks.reports, failing _ idKeyRoute_marks.reports,
      failing _ hookWrapping_marks.reports, Snapshot.breached_iff]
    have info := silent _ _ (typeAlignment_marks allowed).reports (by decide)
    have warn := silent _ _ unresolvedReference_marks.reports (by decide)
    simp only [info, warn, or_false]
  rw [← fails, Report.passed]
  simp

end FrontendAtlas.Contract
