import FrontendAtlas.Proofs.Project.FirstDefinition
import FrontendAtlas.Proofs.Project.SnapshotLoading

namespace FrontendAtlas

open FrontendAtlas.Ignore

namespace FileTree

variable {tree later : FileTree} {file place other : Location} {content : Content}

theorem lookup_filter {α β : Type} [DecidableEq α] [BEq α] [LawfulBEq α] (keep : α → Bool)
    (entries : List (α × β)) (key : α) :
    (entries.filter fun entry => keep entry.1).lookup key =
      if keep key then entries.lookup key else none := by
  induction entries with
  | nil => simp
  | cons entry entries ih =>
    rw [Dict.lookup_cons_ite, List.filter_cons]
    by_cases here : key = entry.1
    · subst here
      split <;> simp [Dict.lookup_cons_ite, *]
    · split <;> simp [Dict.lookup_cons_ite, ih, here]

theorem remove_apply (tree : FileTree) (proper : file ≠ []) (place : Location) :
    FileTree.entry? (tree.remove file) place = if file.isPrefixOf place then none else tree.entry? place := by
  cases place with
  | nil =>
    cases file with
    | nil => exact absurd rfl proper
    | cons first rest => rfl
  | cons first rest =>
    refine (lookup_filter (fun place => !file.isPrefixOf place) tree.entries (first :: rest)).trans ?_
    cases file.isPrefixOf (first :: rest) <;> rfl

structure Drops (file : Location) (tree later : FileTree) : Prop where
  gone : later.entry? file = none
  kept : ∀ {place}, place ≠ file → later.entry? place = tree.entry? place

theorem drops_remove (closed : tree.Closed) (held : tree.entry? file = some (.file content)) :
    Drops file tree (tree.remove file) := by
  have proper : file ≠ [] := by
    rintro rfl
    cases held
  constructor
  · rw [remove_apply tree proper, if_pos (List.isPrefixOf_iff_prefix.2 (List.prefix_refl _))]
  · intro place differs
    rw [remove_apply tree proper]
    split
    case isFalse => rfl
    case isTrue below =>
      obtain ⟨path, rfl⟩ := List.isPrefixOf_iff_prefix.1 below
      cases found : tree.entry? (file ++ path) with
      | none => rfl
      | some entry =>
        -- Nothing lies under a file.
        have directory := closed.directory_of_append found fun empty => differs (by simp [empty])
        rw [held] at directory
        cases directory

variable (drops : Drops file tree later)

include drops

theorem Drops.covers : tree.Covers later := by
  have known (entry : Entry) (place : Location) (found : later.entry? place = some entry) :
      tree.entry? place = some entry := by
    rw [← drops.kept, found]
    rintro rfl
    rw [drops.gone] at found
    cases found
  constructor
  · intro place
    apply known
  · intro place present
    obtain ⟨entry, found⟩ := Option.isSome_iff_exists.1 present
    rw [has, known entry place found]
    rfl

variable (held : tree.entry? file = some (.file content))

include held

theorem Drops.foldlM_step? {segments : List String} (found : segments.foldlM tree.step? place = some other)
    (differs : other ≠ file) : segments.foldlM later.step? place = some other := by
  induction segments generalizing place with
  | nil => exact found
  | cons segment segments ih =>
    rw [List.foldlM_cons, Option.bind_eq_bind, Option.bind_eq_some_iff] at found ⊢
    obtain ⟨next, stepped, found⟩ := found
    obtain ⟨directory, advance, present⟩ := step?_eq_some_iff.1 stepped
    have apart : place ≠ file := by
      rintro rfl
      rw [held] at directory
      cases directory
    have onward : next ≠ file := by
      rintro rfl
      cases segments with
      | nil => exact differs (Option.some.inj found).symm
      | cons segment segments =>
        rw [List.foldlM_cons, Option.bind_eq_bind, Option.bind_eq_some_iff] at found
        obtain ⟨_, stepped, -⟩ := found
        rw [(step?_eq_some_iff.1 stepped).1] at held
        cases held
    refine ⟨next, step?_eq_some_iff.2 ⟨drops.kept apart ▸ directory, advance, ?_⟩, ih found⟩
    intro name part
    rw [has, drops.kept onward]
    exact present name part

theorem Drops.locate? {start : Location} {path : String} (found : tree.locate? start path = some place)
    (differs : place ≠ file) : later.locate? start path = some place := by
  rw [FileTree.locate?] at found ⊢
  split at found
  case isTrue => cases found
  case isFalse nonempty =>
    rw [if_neg nonempty]
    exact drops.foldlM_step? held found differs

theorem Drops.locate?_eq {start : Location} {path : String} (apart : tree.locate? start path ≠ some file) :
    later.locate? start path = tree.locate? start path := by
  cases located : tree.locate? start path with
  | some place => exact drops.locate? held located fun same => apart (same ▸ located)
  | none =>
    cases again : later.locate? start path with
    | none => rfl
    | some place =>
      rw [drops.covers.locate? again] at located
      cases located

end FileTree

section Workspace

variable {space : Workspace} {later : FileTree} {file : Location} {content : Content} {path : String}
  (drops : FileTree.Drops file space.tree later) (held : space.tree.entry? file = some (.file content))
  (apart : space.locate? path ≠ some file)

include drops held apart

theorem FileTree.Drops.read? : Workspace.read? ⟨later, space.directory⟩ path = space.read? path := by
  rw [Workspace.read?, Workspace.read?, Workspace.locate?, Workspace.locate?, drops.locate?_eq held apart]
  cases located : space.tree.locate? space.directory path with
  | none => rfl
  | some place =>
    have elsewhere : place ≠ file := fun same => apart (same ▸ located)
    rw [Option.bind_some, Option.bind_some, FileTree.content?, FileTree.content?, drops.kept elsewhere]

theorem FileTree.Drops.workspaceEntry? :
    Workspace.entry? ⟨later, space.directory⟩ path = space.entry? path := by
  rw [Workspace.entry?, Workspace.entry?, Workspace.locate?, Workspace.locate?, drops.locate?_eq held apart]
  cases located : space.tree.locate? space.directory path with
  | none => rfl
  | some place => exact drops.kept fun same => apart (same ▸ located)

end Workspace

namespace Ignore

/-- A place whose entry can change what is ignored elsewhere. -/
inductive Steers (space : Workspace) : Location → Prop
  | rules {directory file : Location} (known : file ∈ ruleFiles) : Steers space (directory ++ file)
  | linked {directory place : Location} {path : String} (followed : path ∈ linkPaths space directory)
      (located : space.locate? path = some place) : Steers space place

theorem sameRules_of_drops {space : Workspace} {later : FileTree} {file : Location} {content : Content}
    (drops : FileTree.Drops file space.tree later) (held : space.tree.entry? file = some (.file content))
    (inert : ¬ Steers space file) : SameRules space ⟨later, space.directory⟩ := by
  have kept (directory name : Location) (known : name ∈ ruleFiles) :
      FileTree.entry? later (directory ++ name) = space.tree.entry? (directory ++ name) :=
    drops.kept fun same => inert (same ▸ .rules known)
  constructor
  · intro directory name known
    rw [FileTree.content?, FileTree.content?, kept directory name known]
  · intro directory path followed
    exact drops.read? held fun located => inert (.linked followed located)
  · intro directory
    rw [isRepository, isRepository, FileTree.has, FileTree.has, kept directory [".git"] (by simp [ruleFiles])]

theorem not_steers {space : Workspace} {root path : Location} (below : path ≠ [])
    (visible : ∀ name ∈ path, name.toList.head? ≠ some '.') (outside : ".git" ∉ root)
    (unlinked : ∀ directory, ∀ link ∈ linkPaths space directory, space.locate? link ≠ some (root ++ path)) :
    ¬ Steers space (root ++ path) := by
  have last (front : Location) (name : String) (same : front ++ [name] = root ++ path) : name ∈ path := by
    obtain ⟨above, final, rfl⟩ := List.eq_nil_or_concat path |>.resolve_left below
    rw [List.concat_eq_append, ← List.append_assoc] at same
    rw [List.concat_eq_append, List.singleton_inj.1 (List.append_inj_right' same rfl)]
    exact List.mem_append_right above (List.mem_singleton.2 rfl)
  have hidden (name : String) (dotted : name.toList.head? = some '.') (front : Location) :
      front ++ [name] ≠ root ++ path :=
    fun same => visible name (last front name same) dotted
  generalize place : root ++ path = file at hidden unlinked
  rintro (@⟨directory, name, known⟩ | @⟨directory, _, link, followed, located⟩)
  · simp only [ruleFiles, List.mem_cons, List.not_mem_nil, or_false] at known
    rcases known with rfl | rfl | rfl | rfl
    · exact hidden ".ignore" (by decide) directory rfl
    · exact hidden ".gitignore" (by decide) directory rfl
    · exact hidden ".git" (by decide) directory rfl
    · have inside : ".git" ∈ root ++ path := by simp [place]
      rcases List.mem_append.1 inside with above | member
      · exact outside above
      · exact visible _ member (by decide)
  · exact unlinked directory link followed located

end Ignore

namespace Project

variable {space : Workspace} {settings : GeneratorSettings} {later : FileTree} {file : Location}
  {content : Content}

section Drops

variable (drops : FileTree.Drops file space.tree later) (inert : ¬ Steers space file)
  (held : space.tree.entry? file = some (.file content)) (unreadable : content.text? = none)

theorem source?_path_of_content {path : String} (settings : GeneratorSettings)
    (unreadable : content.text? = none) :
    source? settings ⟨path, content⟩ = none := by
  rw [source?, unreadable]
  rfl

include drops inert held unreadable

theorem selected_of_drops {role : Role} {place : Location} {source : Source} :
    Selected ⟨later, space.directory⟩ settings role place source ↔
      Selected space settings role place source := by
  have rules := sameRules_of_drops drops held inert
  constructor
  · intro selected
    cases selected with
    | @walked _ base path content source located directory takes accepted readable =>
      refine .walked (drops.covers.locate? located) (drops.covers.directory directory) ?_ accepted readable
      obtain ⟨found, below, depth, extension, reached⟩ := takes
      have apart : base ++ path ≠ file := by
        rintro rfl
        rw [drops.gone] at found
        cases found
      exact ⟨drops.kept apart ▸ found, below, depth, extension, rules.reaches base path ▸ reached⟩
    | @given _ content source located found readable =>
      have apart : place ≠ file := by
        rintro rfl
        rw [drops.gone] at found
        cases found
      exact .given (drops.covers.locate? located) (drops.kept apart ▸ found) readable
  · intro selected
    cases selected with
    | @walked _ base path content source located directory takes accepted readable =>
      have base_ne : base ≠ file := by
        rintro rfl
        rw [held] at directory
        cases directory
      refine .walked (drops.locate? held located base_ne) ((drops.kept base_ne).trans directory) ?_
        accepted readable
      obtain ⟨found, below, depth, extension, reached⟩ := takes
      have apart : base ++ path ≠ file := by
        rintro rfl
        rw [held] at found
        cases found
        rw [Role.fileAt, source?_path_of_content settings unreadable] at readable
        cases readable
      exact ⟨(drops.kept apart).trans found, below, depth, extension, (rules.reaches base path).trans reached⟩
    | @given _ content source located found readable =>
      have apart : place ≠ file := by
        rintro rfl
        rw [held] at found
        cases found
        rw [source?_path_of_content settings unreadable] at readable
        cases readable
      exact .given (drops.locate? held located apart) ((drops.kept apart).trans found) readable

theorem nodes_of_drops (other : space.locate? settings.fullTypesPath ≠ some file) :
    nodes ⟨later, space.directory⟩ settings = nodes space settings := by
  have sources (role : Role) : sourcesListed later.entries ⟨later, space.directory⟩ settings role =
      sourcesListed space.tree.entries space settings role := by
    apply eq_of_sorted (@pairwise_sourcesListed ⟨later, space.directory⟩ ..) pairwise_sourcesListed
    intro place source
    exact (@mem_sourcesListed_iff ⟨later, space.directory⟩ ..).trans
      ((selected_of_drops drops inert held unreadable).trans mem_sourcesListed_iff.symm)
  have types := drops.workspaceEntry? held other
  rw [← nodesListed_entries, ← nodesListed_entries]
  simp only [nodesListed, types, sources]

end Drops

def garbled : Content := .binary [255] (by decide +kernel)

def garbledSpace : Workspace where
  tree := ⟨[([".work"], .directory),
    ([".work", ".git"], .file (.text "gitdir: own\n")),
    ([".work", "own"], .directory),
    ([".work", "own", "commondir"], .file (.text "../shared\n")),
    ([".work", "s"], .directory),
    ([".work", "s", "useA.ts"], .file (.text "export type A = string\n")),
    ([".work", "s", "useB.ts"], .file garbled),
    ([".work", "s", "useC.ts"], .file (.text "export type C = string\n")),
    ([".work", "shared"], .directory),
    ([".work", "shared", "info"], .directory),
    ([".work", "shared", "info", "exclude"], .file (.text "useC.ts\n"))], by decide +kernel⟩
  directory := [".work"]

def garbledSettings : GeneratorSettings :=
  { sourceRoot := "", typesPath := "s", apiDir := "s", hooksDir := "s", componentsDir := "s",
    componentExtensions := ["ts"] }

def garbledExcludes : Content := .binary [79, 108, 100, 46, 116, 115, 10, 255] (by decide +kernel)

def excludingSpace : Workspace where
  tree := ⟨[([".git"], .file (.text "gitdir: own\n")),
    (["api"], .directory),
    (["api", "Old.ts"], .file (.text "export async function getOld(): Promise<A> \x7b return get('/old'); \x7d")),
    (["own"], .directory),
    (["own", "commondir"], .file (.text "../shared\n")),
    (["shared"], .directory),
    (["shared", "info"], .directory),
    (["shared", "info", "exclude"], .file garbledExcludes),
    (["t.ts"], .file (.text "export type A = string"))], by decide +kernel⟩
  directory := []

def excludingSettings : GeneratorSettings := { sourceRoot := "", typesPath := "t.ts", apiDir := "api" }

end Project

end FrontendAtlas
