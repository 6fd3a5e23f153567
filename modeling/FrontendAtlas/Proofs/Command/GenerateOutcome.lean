import FrontendAtlas.Proofs.Command.GenerateTwice
import FrontendAtlas.Proofs.Project.FirstDefinition

namespace FrontendAtlas

open FrontendAtlas.Json

namespace FileTree

def putFile? (made : FileTree) (place : Location) (content : Content) : Option FileTree :=
  if made.entry? place = some .directory then none else some (made.put place (.file content))

theorem write?_eq_bind (tree : FileTree) (start : Location) (path : String) (content : Content) :
    tree.write? start path content = (tree.makeDirs? start (Path.parts path).dropLast).bind fun result =>
      (Path.lastName? path).bind fun name => result.1.putFile? (result.2 ++ [name]) content :=
  rfl

end FileTree

namespace Change

variable {α β : Type} {tree later left : FileTree} {place : Location} {failure : Failure} {a : α}

theorem bind_of_ok {first : Change α} (next : α → Change β) (done : first tree = .ok a later) :
    (first >>= next) tree = next a later := by
  simp only [bind, EStateM.bind, done]

theorem bind_of_error {first : Change α} (next : α → Change β) (failed : first tree = .error failure left) :
    (first >>= next) tree = .error failure left := by
  simp only [bind, EStateM.bind, failed]

/-- A change has come to the given end, or there is none and it failed for lack of access. -/
def Reaches (result : EStateM.Result Failure FileTree α) : Option (FileTree × α) → Prop
  | some (later, a) => result = .ok a later
  | none => ∃ left, result = .error .access left

theorem Reaches.eq_access {result : EStateM.Result Failure FileTree α} {ending : Option (FileTree × α)}
    (h : Reaches result ending) (failed : result = .error failure left) : failure = .access := by
  subst failed
  cases ending with
  | none =>
    obtain ⟨_, same⟩ := h
    cases same
    rfl
  | some ending => cases h

theorem Reaches.bind {first : Change α} {next : α → Change β} {middle : Option (FileTree × α)}
    {final : FileTree × α → Option (FileTree × β)} (start : Reaches (first tree) middle)
    (goes : ∀ result, Reaches (next result.2 result.1) (final result)) :
    Reaches ((first >>= next) tree) (middle.bind final) := by
  cases middle with
  | none =>
    obtain ⟨left, failed⟩ := start
    exact ⟨left, bind_of_error next failed⟩
  | some result =>
    rw [bind_of_ok next start]
    exact goes result

theorem Reaches.andThen {first : Change α} {middle : Option (FileTree × α)}
    (start : Reaches (first tree) middle)
    (b : β) : Reaches ((first >>= fun _ => return b) tree) (middle.map fun result => (result.1, b)) := by
  rw [Option.map_eq_bind]
  apply start.bind
  intro result
  rfl

theorem makeDirs_name (tree : FileTree) (place : Location) (name : String) (rest : List PathPart) :
    makeDirs place (.name name :: rest) tree =
      match tree.entry? (place ++ [name]) with
      | some .directory => makeDirs (place ++ [name]) rest tree
      | some (.file _) => .error .access tree
      | none => makeDirs (place ++ [name]) rest (tree.put (place ++ [name]) .directory) := by
  have look : (get : Change FileTree) tree = .ok tree tree := rfl
  refine (bind_of_ok _ look).trans ?_
  rcases tree.entry? (place ++ [name]) with _ | _ | _ <;> rfl

theorem reaches_makeDirs (parts : List PathPart) :
    Reaches (makeDirs place parts tree) (tree.makeDirs? place parts) := by
  induction parts generalizing tree place with
  | nil => rfl
  | cons part parts ih =>
    cases part with
    | name name =>
      simp only [Reaches, makeDirs_name, FileTree.makeDirs?]
      rcases tree.entry? (place ++ [name]) with _ | _ | _
      · exact ih
      · exact ih
      · exact ⟨tree, rfl⟩
    | _ => exact ih

theorem reaches_putFile (tree : FileTree) (place : Location) (content : Content) :
    Reaches (putFile place content tree) ((tree.putFile? place content).map fun later => (later, ())) := by
  have look : (get : Change FileTree) tree = .ok tree tree := rfl
  rw [putFile, FileTree.putFile?]
  split
  case isTrue directory => exact ⟨tree, (bind_of_ok _ look).trans (by rw [if_pos directory]; rfl)⟩
  case isFalse free => exact (bind_of_ok _ look).trans (by rw [if_neg free]; rfl)

end Change

namespace Project

variable {graph : Graph} {path : String}

theorem saveGraph_of_untyped (untyped : graph.nodes.types.isEmpty = true)
    (tree : FileTree) (start : Location) :
    saveGraph start graph path tree = .error (.noTypes path) tree := by
  rw [saveGraph, untyped]
  rfl

theorem reaches_saveGraph (typed : graph.nodes.types.isEmpty = false) (tree : FileTree) (start : Location) :
    Change.Reaches (saveGraph start graph path tree)
      ((tree.write? start path (.text graph.fileText)).map fun later => (later, ())) := by
  rw [saveGraph, typed, if_neg Bool.false_ne_true, FileTree.write?_eq_bind, Option.map_bind]
  apply Change.Reaches.bind (Change.reaches_makeDirs _)
  rintro ⟨made, folder⟩
  cases Path.lastName? path with
  | none => exact ⟨made, rfl⟩
  | some name => exact Change.reaches_putFile ..

theorem Selected.types_exist {space : Workspace} {settings : GeneratorSettings} {place : Location}
    {source : Source} (selected : Selected space settings .types place source) :
    space.entry? settings.fullTypesPath ≠ none := by
  have located {base : Location} {entry : Entry} (located : space.locate? settings.fullTypesPath = some base)
      (held : space.tree.entry? base = some entry) : space.entry? settings.fullTypesPath ≠ none := by
    simp [Workspace.entry?, located, held]
  cases selected with
  | walked found directory => exact located found directory
  | given found file => exact located found file

theorem types_isEmpty_iff {space : Workspace} {settings : GeneratorSettings} {found : Nodes}
    (h : nodes space settings = .ok found) : found.types.isEmpty = true ↔
      ∀ place source, Selected space settings .types place source →
        Declaration.types source.text source.label = ∅ := by
  have searched (name : String) : found.types.get? name =
      (sourcesListed space.tree.entries space settings .types).findSome? fun item =>
        (Declaration.types item.2.text item.2.label).get? name :=
      @get?_collection space settings .types found name h
  simp only [Dict.isEmpty_iff, Dict.eq_empty_iff, searched, List.findSome?_eq_none_iff, Prod.forall,
    mem_sourcesListed_iff]
  constructor
  · intro none place source selected name
    exact none name place source selected
  · intro none name place source selected
    exact none place source selected name

end Project

namespace Command

variable {space : Workspace} {settings : GeneratorSettings} {now : String}

theorem generating_of_error {failure : Failure} (failed : Project.graph space settings now = .error failure) :
    generating space.directory settings now space.tree = .error failure space.tree := by
  have look : (get : Change FileTree) space.tree = .ok space.tree space.tree := rfl
  have raised : (MonadExcept.ofExcept (Project.graph space settings now) : Change Graph) space.tree =
      .error failure space.tree := by rw [failed]; rfl
  exact (Change.bind_of_ok _ look).trans (Change.bind_of_error _ raised)

theorem generating_of_graph {graph : Graph} (built : Project.graph space settings now = .ok graph) :
    generating space.directory settings now space.tree =
      (Project.saveGraph space.directory graph settings.outputPath >>= fun _ =>
        return lines ["Frontend graph written to " ++ settings.outputPath, "  " ++ graph.stats.text])
        space.tree := by
  have look : (get : Change FileTree) space.tree = .ok space.tree space.tree := rfl
  have found : (MonadExcept.ofExcept (Project.graph space settings now) : Change Graph) space.tree =
      .ok graph space.tree := by rw [built]; rfl
  exact (Change.bind_of_ok _ look).trans (Change.bind_of_ok _ found)

theorem generating_cases (space : Workspace) (settings : GeneratorSettings) (now : String) :
    (space.entry? settings.fullTypesPath = none ∧
      Project.graph space settings now = .error (.missingTypes settings.fullTypesPath) ∧
      generating space.directory settings now space.tree =
        .error (.missingTypes settings.fullTypesPath) space.tree) ∨
    (∃ graph, space.entry? settings.fullTypesPath ≠ none ∧ Project.graph space settings now = .ok graph ∧
      graph.nodes.types.isEmpty = true ∧
      generating space.directory settings now space.tree = .error (.noTypes settings.outputPath) space.tree) ∨
    (∃ graph, space.entry? settings.fullTypesPath ≠ none ∧ Project.graph space settings now = .ok graph ∧
      graph.nodes.types.isEmpty = false ∧
      Change.Reaches (generating space.directory settings now space.tree)
        ((space.tree.write? space.directory settings.outputPath (.text graph.fileText)).map fun later =>
          (later, lines ["Frontend graph written to " ++ settings.outputPath, "  " ++ graph.stats.text]))) := by
  have absent := @Project.isNone_typeFiles? space settings
  cases present : Project.typeFiles? space settings with
  | none =>
    rw [present] at absent
    have failed : Project.graph space settings now = .error (.missingTypes settings.fullTypesPath) := by
      rw [Project.graph, Project.nodes_of_typeFiles?_eq_none present]
      rfl
    exact .inl ⟨Option.isNone_iff_eq_none.1 absent.symm, failed, generating_of_error failed⟩
  | some files =>
    rw [present] at absent
    have exist : space.entry? settings.fullTypesPath ≠ none := fun none => by simp [none] at absent
    obtain ⟨graph, built⟩ := Project.exists_graph now (Option.isSome_iff_exists.2 ⟨files, present⟩)
    right
    cases typed : graph.nodes.types.isEmpty with
    | true =>
      refine .inl ⟨graph, exist, built, typed, (generating_of_graph built).trans ?_⟩
      exact Change.bind_of_error _ (Project.saveGraph_of_untyped typed ..)
    | false =>
      refine .inr ⟨graph, exist, built, typed, ?_⟩
      rw [generating_of_graph built]
      have saved : Change.Reaches (Project.saveGraph space.directory graph settings.outputPath space.tree) _ :=
        Project.reaches_saveGraph typed ..
      have printed := saved.andThen
        (lines ["Frontend graph written to " ++ settings.outputPath, "  " ++ graph.stats.text])
      rwa [Option.map_map] at printed

theorem generate_eq_generating (space : Workspace) (settings : GeneratorSettings) (now : String) :
    generate space settings now =
      match generating space.directory settings now space.tree with
      | .ok output tree => .ok { exit := 0, output, tree }
      | .error failure _ => .error failure := by
  rw [generate]
  rcases generating_cases space settings now with ⟨-, failed, ends⟩ | ⟨graph, -, built, untyped, ends⟩ |
    ⟨graph, -, built, typed, ends⟩
  · rw [failed, ends]
    rfl
  · rw [built, ends]
    dsimp only [bind, Except.bind]
    rw [Project.writeGraph, if_pos untyped]
  · rw [built]
    dsimp only [bind, Except.bind]
    rw [Project.writeGraph, typed, if_neg Bool.false_ne_true]
    cases written : space.tree.write? space.directory settings.outputPath (.text graph.fileText) with
    | none =>
      rw [written] at ends
      obtain ⟨left, ends⟩ := ends
      rw [ends]
    | some later =>
      rw [written] at ends
      rw [show generating _ _ _ _ = .ok _ later from ends]
      rfl

theorem generating_eq_missingTypes {path : String} {tree : FileTree} :
    generating space.directory settings now space.tree = .error (.missingTypes path) tree ↔
      space.entry? settings.fullTypesPath = none ∧ path = settings.fullTypesPath ∧ tree = space.tree := by
  rcases generating_cases space settings now with ⟨missing, -, ends⟩ | ⟨graph, present, built, untyped, ends⟩ |
    ⟨graph, present, built, typed, ends⟩
  · rw [ends]
    constructor
    · intro same
      cases same
      exact ⟨missing, rfl, rfl⟩
    · rintro ⟨-, rfl, rfl⟩
      rfl
  · simp [ends, present]
  · simp only [present, false_and, iff_false]
    intro failed
    cases ends.eq_access failed

theorem generating_eq_noTypes {path : String} {tree : FileTree} :
    generating space.directory settings now space.tree = .error (.noTypes path) tree ↔
      (space.entry? settings.fullTypesPath ≠ none ∧ ∀ place source,
        Project.Selected space settings .types place source → Declaration.types source.text source.label = ∅) ∧
      path = settings.outputPath ∧ tree = space.tree := by
  rcases generating_cases space settings now with ⟨missing, -, ends⟩ | ⟨graph, present, built, untyped, ends⟩ |
    ⟨graph, present, built, typed, ends⟩
  · simp [ends, missing]
  · rw [ends]
    constructor
    · intro same
      cases same
      exact ⟨⟨present, (Project.types_isEmpty_iff (Project.nodes_of_graph built)).1 untyped⟩, rfl, rfl⟩
    · rintro ⟨-, rfl, rfl⟩
      rfl
  · constructor
    · intro failed
      cases ends.eq_access failed
    · rintro ⟨⟨-, none⟩, -⟩
      rw [(Project.types_isEmpty_iff (Project.nodes_of_graph built)).2 none] at typed
      cases typed

theorem exists_generated {place : Location} {source : Project.Source}
    (selected : Project.Selected space settings .types place source)
    (declares : Declaration.types source.text source.label ≠ ∅)
    (writable : ∀ content, (space.tree.write? space.directory settings.outputPath content).isSome = true) :
    ∃ graph output tree, Project.graph space settings now = .ok graph ∧
      space.tree.write? space.directory settings.outputPath (.text graph.fileText) = some tree ∧
      generating space.directory settings now space.tree = .ok output tree := by
  rcases generating_cases space settings now with ⟨missing, -, -⟩ | ⟨graph, -, built, untyped, -⟩ |
    ⟨graph, -, built, typed, ends⟩
  · exact absurd missing selected.types_exist
  · have none := (Project.types_isEmpty_iff (Project.nodes_of_graph built)).1 untyped
    exact absurd (none place source selected) declares
  · obtain ⟨tree, written⟩ := Option.isSome_iff_exists.1 (writable (.text graph.fileText))
    rw [written] at ends
    exact ⟨graph, _, tree, built, written, ends⟩

def staleSpace : Workspace where
  tree := ⟨[(["out"], .directory),
    (["out", "frontend-graph.json"], .file (.text "old")),
    (["t"], .directory),
    (["t", "a.ts"], .file (.text "// export type A = string\n")),
    (["t.ts"], .file (.text "export type A = string\n"))], by simp; decide⟩
  directory := []

def staleSettings (typesPath : String) : GeneratorSettings :=
  { sourceRoot := "", outputDir := "out", typesPath }

end Command

end FrontendAtlas
