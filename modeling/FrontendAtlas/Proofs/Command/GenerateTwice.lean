import FrontendAtlas.Proofs.Command.GenerateVerify
import FrontendAtlas.Proofs.Ignore.Scan

/-! Writing a graph twice.  The first run changes the tree that the second one reads, by the graph's file
and the directories made for it.  No walk takes that file, no ignore rule comes from it, and new
directories hold nothing else; so the second run finds the same nodes, unless a path that is followed
leads back out of a directory that the first run made. -/

namespace FrontendAtlas

open FrontendAtlas.Ignore FrontendAtlas.Json

namespace FileTree

variable {tree later : FileTree} {place file : Location} {entry : Entry} {content : Content}
  {parts : List PathPart}

theorem put_self (proper : place ≠ []) (held : tree.entry? place = some entry) :
    tree.put place entry = tree := by
  have same (entries : List (Location × Entry)) (sorted : entries.Pairwise fun a b => a.1 < b.1)
      (held : entries.lookup place = some entry) : putEntry place entry entries = entries := by
    induction entries with
    | nil => cases held
    | cons first rest ih =>
      obtain ⟨least, sorted⟩ := List.pairwise_cons.1 sorted
      rw [Dict.lookup_cons_ite] at held
      rw [putEntry]
      split at held
      case isTrue here =>
        rw [here, if_neg (List.lt_irrefl _), if_pos rfl, ← Option.some.inj held]
      case isFalse elsewhere =>
        have above := least _ (Dict.mem_of_lookup held)
        rw [if_neg (List.lt_asymm above), if_neg elsewhere, ih sorted held]
  rw [eq_lookup proper] at held
  cases tree
  simp only [put, mk.injEq]
  exact same _ (by assumption) held

theorem Writes.content?_of_ne (writes : Writes parts file content tree later) (differs : place ≠ file) :
    later.content? place = tree.content? place := by
  rw [content?, content?]
  cases before : tree.entry? place with
  | some entry => rw [writes.kept differs before]
  | none =>
    cases after : later.entry? place with
    | none => rfl
    | some entry =>
      rcases writes.added differs after with found | ⟨-, rfl, -⟩
      · rw [before] at found
        cases found
      · rfl

end FileTree

theorem Workspace.read?_of_writes {space : Workspace} {later : FileTree} {file : Location} {content : Content}
    {parts : List PathPart} {path : String} (writes : FileTree.Writes parts file content space.tree later)
    (differs : space.place path ≠ file) (leads : space.read? path = space.tree.content? (space.place path)) :
    Workspace.read? ⟨later, space.directory⟩ path = space.read? path := by
  rw [leads, ← writes.content?_of_ne differs]
  cases after : Workspace.locate? ⟨later, space.directory⟩ path with
  | some place =>
    have denoted : place = space.place path := @Workspace.place_of_locate? ⟨later, space.directory⟩ _ _ after
    rw [Workspace.read?, after, Option.bind_some, denoted]
  | none =>
    rw [writes.content?_of_ne differs, ← leads, Workspace.read?, Workspace.read?, after]
    cases before : space.locate? path with
    | none => rfl
    | some place =>
      have still := writes.covers.locate? before
      rw [Workspace.locate?] at after
      rw [after] at still
      cases still

namespace Ignore

variable {space : Workspace} {later : FileTree} {base front : Location} {extensions : List String}
  {recursive : Bool} {content : Content} {parts : List PathPart}

theorem hasExtension_graphFile (path : List String) :
    hasExtension extensions (path ++ [GeneratorSettings.graphFile]) = extensions.contains "json" := by
  have extension : Path.extension? GeneratorSettings.graphFile = some "json" := by decide +kernel
  simp [hasExtension, extension]

/-- The paths that a `.git` file brings in lead to the files that they denote, if there are any. -/
def LinksLead (space : Workspace) : Prop :=
  ∀ directory, ∀ path ∈ linkPaths space directory, space.read? path = space.tree.content? (space.place path)

theorem lastName?_of_mem_linkPaths {directory : Location} {path : String}
    (followed : path ∈ linkPaths space directory) :
    Path.lastName? path = some "commondir" ∨ Path.lastName? path = some "exclude" := by
  rw [linkPaths] at followed
  split at followed
  · cases followed
  · rcases List.mem_cons.1 followed with rfl | shared
    · exact .inl (Path.lastName?_join (by decide) (by decide) _)
    · obtain ⟨directory, -, rfl⟩ := Option.map_eq_some_iff.1 (Option.mem_toList.1 shared)
      exact .inr (Path.lastName?_join (by decide) (by decide) _)

variable (writes : FileTree.Writes parts (front ++ [GeneratorSettings.graphFile]) content space.tree later)
  (noRepository : .name ".git" ∉ parts) (linked : LinksLead space)

include writes noRepository linked

theorem sameRules_of_writes : SameRules space ⟨later, space.directory⟩ := by
  have apart (directory : Location) (name : String) (other : name ≠ GeneratorSettings.graphFile) :
      directory ++ [name] ≠ front ++ [GeneratorSettings.graphFile] :=
    fun same => other (List.append_inj_right' same rfl |> List.singleton_inj.1)
  constructor
  · intro directory file known
    apply writes.content?_of_ne
    simp only [ruleFiles, List.mem_cons, List.not_mem_nil, or_false] at known
    rcases known with rfl | rfl | rfl | rfl
    · exact apart directory _ (by decide)
    · exact apart directory _ (by decide)
    · exact apart directory _ (by decide)
    · rw [show directory ++ [".git", "info", "exclude"] = (directory ++ [".git", "info"]) ++ ["exclude"] by simp]
      exact apart _ _ (by decide)
  · intro directory path followed
    apply Workspace.read?_of_writes writes _ (linked directory path followed)
    rcases lastName?_of_mem_linkPaths followed with named | named
    · rw [space.place_of_lastName? named]
      exact apart _ _ (by decide)
    · rw [space.place_of_lastName? named]
      exact apart _ _ (by decide)
  · intro directory
    have differs := apart directory ".git" (by decide)
    rw [isRepository, isRepository, FileTree.has, FileTree.has]
    cases before : space.tree.entry? (directory ++ [".git"]) with
    | some entry => rw [writes.kept differs before]
    | none =>
      cases after : later.entry? (directory ++ [".git"]) with
      | none => rfl
      | some entry =>
        rcases writes.added differs after with found | ⟨-, -, front, name, member, same⟩
        · rw [before] at found
          cases found
        · rw [← List.singleton_inj.1 (List.append_inj_right' same rfl)] at member
          exact absurd member noRepository

theorem takes_of_writes (other : "json" ∉ extensions) {path : List String} {found : Content} :
    Takes ⟨later, space.directory⟩ base extensions recursive path found ↔
      Takes space base extensions recursive path found := by
  have apart (proper : path ≠ []) (extension : hasExtension extensions path = true) :
      base ++ path ≠ front ++ [GeneratorSettings.graphFile] := by
    obtain ⟨above, name, rfl⟩ := List.eq_nil_or_concat path |>.resolve_left proper
    intro same
    rw [List.concat_eq_append, ← List.append_assoc] at same
    rw [List.concat_eq_append, List.singleton_inj.1 (List.append_inj_right' same rfl), hasExtension_graphFile,
      List.contains_iff_mem] at extension
    exact other extension
  have reached := (sameRules_of_writes writes noRepository linked).reaches base path
  constructor
  · rintro ⟨held, proper, depth, extension, reaches⟩
    rw [reached] at reaches
    rcases writes.added (apart proper extension) held with before | ⟨-, directory, -⟩
    · exact ⟨before, proper, depth, extension, reaches⟩
    · cases directory
  · rintro ⟨held, proper, depth, extension, reaches⟩
    rw [← reached] at reaches
    exact ⟨writes.kept (apart proper extension) held, proper, depth, extension, reaches⟩

theorem filesIn_of_writes (closed : space.tree.Closed) (other : "json" ∉ extensions) :
    filesIn ⟨later, space.directory⟩ base extensions recursive = filesIn space base extensions recursive := by
  apply eq_of_sorted pairwise_filesIn pairwise_filesIn
  intro path content
  rw [mem_filesIn_iff, mem_filesIn_iff, takes_of_writes writes noRepository linked other]
  constructor
  · rintro ⟨-, takes⟩
    exact ⟨closed.directory_of_append takes.held takes.below, takes⟩
  · rintro ⟨directory, takes⟩
    exact ⟨writes.covers.directory directory, takes⟩

end Ignore

/-- A path leads to the directory that it denotes, if there is one.  Where a path steps back out of a
directory that does not exist, it denotes a place that it does not lead to. -/
def Workspace.Leads (space : Workspace) (path : String) : Prop :=
  space.tree.entry? (space.place path) = some .directory → space.locate? path = some (space.place path)

instance (space : Workspace) (path : String) : Decidable (space.Leads path) :=
  inferInstanceAs (Decidable (_ → _))

theorem Workspace.leads_of_locate? {space : Workspace} {path : String} {place : Location}
    (found : space.locate? path = some place) : space.Leads path :=
  fun _ => place_of_locate? found ▸ found

structure GeneratorSettings.Apart (settings : GeneratorSettings) (space : Workspace) : Prop where
  types : space.place settings.outputPath ≠ space.place settings.fullTypesPath
  repository : .name ".git" ∉ Path.parts settings.outputDir
  components : "json" ∉ settings.componentExtensions

namespace Project

variable {space : Workspace} {settings : GeneratorSettings} {later : FileTree} {content : Content}
  {front : Location} {parts : List PathPart}

section Writes

variable (closed : space.tree.Closed)
  (writes : FileTree.Writes parts (front ++ [GeneratorSettings.graphFile]) content space.tree later)
  (noRepository : .name ".git" ∉ parts) (linked : LinksLead space)

include closed writes noRepository linked

theorem scan_of_writes {directory : String} {extensions : List String} {recursive : Bool}
    (other : "json" ∉ extensions) (leads : space.Leads directory) :
    scan ⟨later, space.directory⟩ directory extensions recursive = scan space directory extensions recursive := by
  rw [scan_eq, scan_eq]
  dsimp only
  simp only [filesIn_of_writes writes noRepository linked closed other]
  cases before : space.locate? directory with
  | some base =>
    rw [show Workspace.locate? ⟨later, space.directory⟩ directory = some base from writes.covers.locate? before]
  | none =>
    cases after : Workspace.locate? ⟨later, space.directory⟩ directory with
    | none => rfl
    | some base =>
      have denoted : base = space.place directory :=
        @Workspace.place_of_locate? ⟨later, space.directory⟩ _ _ after
      have absent : space.tree.entry? base ≠ some .directory := by
        rw [denoted]
        intro present
        rw [leads present] at before
        cases before
      rw [Option.elim_some, filesIn, if_neg absent]
      rfl

theorem typeFiles?_of_writes
    (differ : front ++ [GeneratorSettings.graphFile] ≠ space.place settings.fullTypesPath)
    {files : List SourceFile} (present : typeFiles? space settings = some files) :
    typeFiles? ⟨later, space.directory⟩ settings = some files := by
  rw [typeFiles?] at present ⊢
  cases located : space.locate? settings.fullTypesPath with
  | none =>
    rw [Workspace.entry?, located] at present
    cases present
  | some place =>
    have again : Workspace.locate? ⟨later, space.directory⟩ settings.fullTypesPath = some place :=
      writes.covers.locate? located
    have elsewhere : place ≠ front ++ [GeneratorSettings.graphFile] := by
      rw [Workspace.place_of_locate? located]
      exact differ.symm
    rw [Workspace.entry?, located, Option.bind_some] at present
    rw [Workspace.entry?, again, Option.bind_some]
    cases held : space.tree.entry? place with
    | none =>
      rw [held] at present
      cases present
    | some entry =>
      rw [held] at present
      rw [writes.kept elsewhere held]
      cases entry with
      | file content => exact present
      | directory =>
        rw [← present]
        exact congrArg some (scan_of_writes closed writes noRepository linked (by decide)
          (Workspace.leads_of_locate? located))

theorem nodes_of_writes (other : "json" ∉ settings.componentExtensions)
    (differ : front ++ [GeneratorSettings.graphFile] ≠ space.place settings.fullTypesPath)
    (leads : ∀ directory ∈ [settings.fullApiDir, settings.fullHooksDir, settings.fullComponentsDir],
      space.Leads directory) {found : Nodes} (h : nodes space settings = .ok found) :
    nodes ⟨later, space.directory⟩ settings = .ok found := by
  simp only [List.forall_mem_cons] at leads
  obtain ⟨apis, hooks, components, -⟩ := leads
  cases present : typeFiles? space settings with
  | none =>
    rw [nodes_of_typeFiles?_eq_none present] at h
    cases h
  | some files =>
    rw [nodes_of_typeFiles? present] at h
    rw [← h, nodes_of_typeFiles? (typeFiles?_of_writes closed writes noRepository linked differ present)]
    simp only [apiSources, hookSources, componentSources,
      scan_of_writes closed writes noRepository linked (by decide : "json" ∉ ["ts"]) apis,
      scan_of_writes closed writes noRepository linked (by decide : "json" ∉ ["ts", "tsx"]) hooks,
      scan_of_writes closed writes noRepository linked other components]

end Writes

theorem graph_at {other : Workspace} {now : String} {graph : Graph}
    (built : Project.graph space settings now = .ok graph) (same : nodes other settings = .ok graph.nodes)
    (now' : String) : Project.graph other settings now' = .ok { graph with generatedAt := now' } := by
  have made : graph = .ofNodes graph.nodes now := by
    rw [Project.graph, nodes_of_graph built] at built
    exact (Except.ok.inj built).symm
  rw [Project.graph, same, made]
  rfl

end Project

namespace Command

variable {space : Workspace} {settings : GeneratorSettings} {now : String} {outcome : Outcome}

theorem generate_of_graph {graph : Graph} {tree : FileTree} (built : Project.graph space settings now = .ok graph)
    (written : Project.writeGraph space graph settings.outputPath = .ok tree) :
    ∃ outcome, generate space settings now = .ok outcome ∧ outcome.tree = tree := by
  rw [generate, built]
  dsimp only [bind, Except.bind]
  rw [written]
  exact ⟨_, rfl, rfl⟩

theorem held_of_generate (ran : generate space settings now = .ok outcome) :
    ∃ graph : Graph, Project.nodes space settings = .ok graph.nodes ∧
      outcome.tree.entry? (space.place settings.outputPath) = some (.file (.text graph.fileText)) := by
  obtain ⟨graph, built, written⟩ := graph_of_generate ran
  obtain ⟨-, written⟩ := Project.writeGraph_eq_ok.1 written
  exact ⟨graph, Project.nodes_of_graph built, (Workspace.writes_of_write? written).held⟩

theorem nodes_of_same_tree {later : FileTree} {now' : String} {outcome' : Outcome}
    (ran : generate space settings now = .ok outcome)
    (ran' : generate ⟨later, space.directory⟩ settings now' = .ok outcome')
    (same : outcome'.tree = outcome.tree) :
    Project.nodes ⟨later, space.directory⟩ settings = Project.nodes space settings := by
  obtain ⟨graph, found, held⟩ := held_of_generate ran
  obtain ⟨graph', found', held'⟩ := held_of_generate ran'
  rw [same] at held'
  have texts : graph'.fileText = graph.fileText := by simpa using held'.symm.trans held
  have read := graph'.ofFileText_fileText
  rw [texts, graph.ofFileText_fileText] at read
  rw [found, found', Except.ok.inj read]

theorem exists_of_toOption_any {ε α : Type} {result : Except ε α} {p : α → Bool}
    (h : result.toOption.any p = true) : ∃ value, result = .ok value ∧ p value = true := by
  cases result with
  | error => cases h
  | ok value => exact ⟨value, rfl, h⟩

def worktreeSpace : Workspace where
  tree := ⟨[([".git"], .file (.text "gitdir: own\n")),
    (["c"], .directory),
    (["c", "Card.tsx"], .file (.text "export function Card() \x7b fetch('/x') \x7d")),
    (["c", "Old.tsx"], .file (.text "export function Old() \x7b fetch('/x') \x7d")),
    (["own"], .directory),
    (["own", "commondir"], .file (.text "../shared\n")),
    (["shared"], .directory),
    (["shared", "info"], .directory),
    (["shared", "info", "exclude"], .file (.text "Old.tsx\n")),
    (["t.ts"], .file (.text "export type A = string"))], by decide +kernel⟩
  directory := []

def nestedSettings : GeneratorSettings :=
  { sourceRoot := "", outputDir := "c/out", typesPath := "t.ts", componentsDir := "c" }

def FindsOther (space : Workspace) (settings : GeneratorSettings) (before after : List String) : Prop :=
  ∃ outcome outcome', generate space settings "" = .ok outcome ∧
    generate ⟨outcome.tree, space.directory⟩ settings "" = .ok outcome' ∧
    (Project.nodes space settings).toOption.map (·.apis.keys) = some before ∧
    (Project.nodes ⟨outcome.tree, space.directory⟩ settings).toOption.map (·.apis.keys) = some after ∧
    outcome'.tree ≠ outcome.tree

theorem findsOther_of_any {before after : List String} (differ : before ≠ after)
    (first : (Project.nodes space settings).toOption.map (·.apis.keys) = some before)
    (runs : (generate space settings "").toOption.any (fun outcome =>
      (generate ⟨outcome.tree, space.directory⟩ settings "").toOption.any fun _ =>
        decide ((Project.nodes ⟨outcome.tree, space.directory⟩ settings).toOption.map (·.apis.keys) =
          some after)) = true) :
    FindsOther space settings before after := by
  obtain ⟨outcome, ran, runs⟩ := exists_of_toOption_any runs
  obtain ⟨outcome', ran', found⟩ := exists_of_toOption_any runs
  have found := of_decide_eq_true found
  refine ⟨outcome, outcome', ran, ran', first, found, fun same => differ ?_⟩
  rw [nodes_of_same_tree ran ran' same, first] at found
  exact Option.some.inj found

def detourSpace : Workspace where
  tree := ⟨[(["api"], .directory),
    (["api", "a.ts"], .file (.text "export async function getA(): Promise<A> \x7b\x7d")),
    (["t.ts"], .file (.text "export type A = string"))], by simp; decide⟩
  directory := []

def detourSettings : GeneratorSettings :=
  { sourceRoot := "", outputDir := "out", typesPath := "t.ts", apiDir := "out/../api" }

def linkedDetourSpace : Workspace where
  tree := ⟨[([".git"], .file (.text "gitdir: meta\n")),
    (["api"], .directory),
    (["api", "Old.ts"], .file (.text "export async function getOld(): Promise<A> \x7b\x7d")),
    (["meta"], .directory),
    (["meta", "commondir"], .file (.text "./out/..\n")),
    (["meta", "info"], .directory),
    (["meta", "info", "exclude"], .file (.text "Old.ts\n")),
    (["t.ts"], .file (.text "export type A = string"))], by decide +kernel⟩
  directory := []

def linkedDetourSettings : GeneratorSettings :=
  { sourceRoot := "", outputDir := "meta/out", typesPath := "t.ts", apiDir := "api" }

end Command

end FrontendAtlas
