import FrontendAtlas.Proofs.Command.ExitCode
import FrontendAtlas.Proofs.Project.GraphFile
import FrontendAtlas.Proofs.Project.ReferenceClosure

namespace FrontendAtlas

open FrontendAtlas.Contract FrontendAtlas.Json

namespace Graph

variable {graph : Graph} {allowed : List String}

theorem breached_snapshot :
    graph.snapshot.Breached ↔ graph.nodes.components.values.any (·.callsNetwork) = true := by
  have calls : (∃ name component, graph.nodes.components.get? name = some component ∧
      component.callsNetwork = true) ↔ graph.nodes.components.values.any (·.callsNetwork) = true := by
    simp only [← Dict.mem_entries_iff, Dict.values, List.any_map, List.any_eq_true, Prod.exists,
      Function.comp_apply]
  rw [Snapshot.breached_iff, Check.responseEnvelope_finds, Check.numericId_finds, Check.idKeyRoute_finds,
    Check.hookWrapping_finds]
  simp [snapshot, calls]

theorem violations_snapshot : (Report.ofSnapshot graph.snapshot allowed).violations =
    Check.hookWrapping.run graph.snapshot ++ Check.unresolvedReference.run graph.snapshot := by
  simp [Report.ofSnapshot, Check.all, Check.responseEnvelope, Check.numericId, Check.idKeyRoute,
    Check.typeAlignment, snapshot, Dict.isEmpty]

end Graph

theorem Contract.Check.Reports.filter_run {check : Check} {severity : Severity}
    (reports : check.Reports severity) (snapshot : Snapshot) (other : Severity) :
    (check.run snapshot).filter (·.severity == other) =
      if severity = other then check.run snapshot else [] := by
  apply filter_eq_ite
  intro violation found
  rw [reports snapshot violation found, beq_eq_decide]

theorem Graph.filter_violations_snapshot (graph : Graph) (allowed : List String) (severity : Severity) :
    (Report.ofSnapshot graph.snapshot allowed).violations.filter (·.severity == severity) =
      (if .fail = severity then Check.hookWrapping.run graph.snapshot else []) ++
        if .warn = severity then Check.unresolvedReference.run graph.snapshot else [] := by
  rw [violations_snapshot, List.filter_append, Check.hookWrapping_marks.reports.filter_run,
    Check.unresolvedReference_marks.reports.filter_run]

namespace Project

variable {space : Workspace} {settings : GeneratorSettings} {graph : Graph} {path : String} {tree : FileTree}

theorem dangling_of_graph {now : String} (h : Project.graph space settings now = .ok graph) :
    graph.nodes.dangling = graph.nodes.hooks.entries.filterMap fun entry =>
      (entry.2.binding.filter fun target => !graph.nodes.apis.contains target).map (⟨entry.1, ·, .binding⟩) := by
  have uses (entry : String × Component) (listed : entry ∈ graph.nodes.components.entries) :
      (entry.2.hooks.names.filter fun target => !graph.nodes.hooks.contains target).map
        (DanglingReference.mk entry.1 · .use) = [] := by
    have found := Dict.mem_entries_iff.1 listed
    rw [(hooks_of_nodes (nodes_of_graph h)).2] at found
    rw [List.map_eq_nil_iff, List.filter_eq_nil_iff]
    intro hook used
    have declared := mem_hooks_of_componentsOf found used
    rw [NameSet.mem_ofList, Dict.mem_keys_iff] at declared
    simp [declared]
  rw [Nodes.dangling]
  refine (congrArg₂ (· ++ ·) ?_ (List.flatMap_eq_nil_iff.2 uses)).trans (List.append_nil _)
  rw [List.filterMap_eq_flatMap_toList]
  congr 1
  funext entry
  obtain ⟨name, hook⟩ := entry
  dsimp only
  cases hook.binding with
  | none => rfl
  | some target =>
    cases absent : graph.nodes.apis.contains target <;> simp [absent, Option.filter_some]

end Project

namespace Command

open FrontendAtlas.Project (loadChecked loadChecked_eq_ok unloadable_iff)

variable {space : Workspace} {settings : GeneratorSettings} {now : String} {outcome : Outcome}

theorem graph_of_generate (h : generate space settings now = .ok outcome) :
    ∃ graph, Project.graph space settings now = .ok graph ∧
      Project.writeGraph space graph settings.outputPath = .ok outcome.tree := by
  rw [generate, bind_eq_ok] at h
  obtain ⟨graph, built, h⟩ := h
  obtain ⟨tree, written, h⟩ := bind_eq_ok.1 h
  cases h
  exact ⟨graph, built, written⟩

/-- A graph that was just written is verified by what its components and hooks do: it fails just when a
component makes requests by itself, with one violation for each such component in the order of their
names, and it has one warning for each hook that is bound to no known function, and no notes.  If all
sections are required, it cannot be loaded, since it has no back end. -/
theorem verify_of_generate (wellFormed : space.WellFormed) (h : generate space settings now = .ok outcome) :
    ∃ graph, Project.graph space settings now = .ok graph ∧ ∀ (verifier : VerifierSettings) (json : Bool),
      (verify ⟨outcome.tree, space.directory⟩ { verifier with requireSections := false }
        settings.outputPath json).map (·.exit) =
          .ok (if graph.nodes.components.values.any (·.callsNetwork) then 1 else 0) ∧
      (∃ report, Project.verify ⟨outcome.tree, space.directory⟩ { verifier with requireSections := false }
          settings.outputPath = .ok report ∧
        report.violations.filter (·.severity == .fail) =
          (graph.nodes.components.entries.filter (·.2.callsNetwork)).map (fun entry =>
            ⟨.fail, "hook_wrapping", entry.1, "Component makes direct API calls instead of using hooks"⟩) ∧
        report.violations.filter (·.severity == .warn) =
          graph.nodes.hooks.entries.filterMap (fun entry =>
            (entry.2.binding.filter fun target => !graph.nodes.apis.contains target).map fun target =>
              ⟨.warn, "unresolved_reference", entry.1, "bound to unknown API function '" ++ target ++ "'"⟩) ∧
        report.violations.filter (·.severity == .info) = []) ∧
      (verify ⟨outcome.tree, space.directory⟩ { verifier with requireSections := true }
        settings.outputPath json).map (·.exit) = .ok 2 := by
  obtain ⟨graph, built, written⟩ := graph_of_generate h
  refine ⟨graph, built, fun verifier json => ?_⟩
  have decodes := Project.decodes_of_writeGraph wellFormed written
  have loaded : loadChecked ⟨outcome.tree, space.directory⟩ { verifier with requireSections := false }
      settings.outputPath = .ok graph.snapshot := loadChecked_eq_ok.2 ⟨decodes, by simp⟩
  refine ⟨?_, ⟨.ofSnapshot graph.snapshot verifier.allowed, ?_, ?_, ?_, ?_⟩, ?_⟩
  · obtain ⟨fails, passes⟩ := exit_verify_of_loaded json loaded
    rw [Graph.breached_snapshot] at fails passes
    split
    · exact fails (by assumption)
    · exact passes (by assumption)
  · rw [Project.verify, loaded]
    rfl
  · rw [Graph.filter_violations_snapshot, ← List.filterMap_eq_map, List.filterMap_filter]
    exact List.append_nil _
  · rw [Graph.filter_violations_snapshot]
    change (graph.nodes.dangling.map _) = _
    rw [Project.dangling_of_graph built, List.map_filterMap]
    simp only [Option.map_map]
    rfl
  · exact graph.filter_violations_snapshot verifier.allowed .info
  · apply exit_verify_of_unloadable
    rw [unloadable_iff]
    intro snapshot strict
    obtain ⟨decodes', complete⟩ := loadChecked_eq_ok.1 strict
    have complete := complete rfl
    rw [decodes'.unique decodes] at complete
    cases complete

def fetchingSpace : Workspace where
  tree := ⟨[(["c"], .directory),
    (["c", "Card.tsx"], .file (.text "export function Card() \x7b fetch('/x') \x7d")),
    (["h"], .directory),
    (["h", "useA.ts"], .file (.text "export const useA = () => useQuery(\x7b queryFn: getA \x7d)")),
    (["t.ts"], .file (.text "export type A = string"))], by simp; decide⟩
  directory := []

def fetchingSettings : GeneratorSettings :=
  { sourceRoot := "", outputDir := "c/../out", typesPath := "t.ts", hooksDir := "h", componentsDir := "c" }

theorem verify_of_generate_fetching : fetchingSpace.WellFormed ∧
    ∃ outcome, generate fetchingSpace fetchingSettings "" = .ok outcome ∧
      (verify ⟨outcome.tree, []⟩ {} fetchingSettings.outputPath true).map (·.exit) = .ok 1 ∧
      (verify ⟨outcome.tree, []⟩ { requireSections := true } fetchingSettings.outputPath true).map (·.exit) =
        .ok 2 := by
  have wellFormed : fetchingSpace.WellFormed := ⟨FileTree.closed_of_entries (by decide +kernel), rfl⟩
  have calls : (Project.graph fetchingSpace fetchingSettings "").toOption.any
      (·.nodes.components.values.any (·.callsNetwork)) = true := by decide +kernel
  have succeeds : (generate fetchingSpace fetchingSettings "").toBool = true := by decide +kernel
  cases ran : generate fetchingSpace fetchingSettings "" with
  | error failure =>
    rw [ran] at succeeds
    cases succeeds
  | ok outcome =>
    obtain ⟨graph, built, verified⟩ := verify_of_generate wellFormed ran
    obtain ⟨exit, -, strict⟩ := verified {} true
    rw [built, Except.toOption, Option.any_some] at calls
    rw [if_pos calls] at exit
    exact ⟨wellFormed, outcome, rfl, exit, strict⟩

end Command

end FrontendAtlas
