import FrontendAtlas.Files.Tree
import FrontendAtlas.Proofs.Dict
import FrontendAtlas.Proofs.Path

namespace FrontendAtlas

def PathPart.follow : Location → PathPart → Location
  | _, .root => []
  | place, .current => place
  | place, .parent => place.dropLast
  | place, .name text => place ++ [text]

/-- The place that a path denotes, whatever is there. -/
def Workspace.place (space : Workspace) (path : String) : Location :=
  (Path.parts path).foldl PathPart.follow space.directory

def Path.origin (path : String) (start : Location) : Location :=
  if isAbsolute path then [] else start

theorem Workspace.place_eq (space : Workspace) (path : String) : space.place path =
    (Path.inner (Path.segments path)).foldl PathPart.follow (Path.origin path space.directory) := by
  obtain ⟨lead, split, ⟨absolute, rfl⟩ | ⟨relative, rfl | rfl⟩⟩ := Path.parts_eq path
  · simp [place, split, Path.origin, absolute, PathPart.follow]
  · simp [place, split, Path.origin, relative, PathPart.follow]
  · simp [place, split, Path.origin, relative]

namespace FileTree

variable {tree made : FileTree} {place other : Location} {entry : Entry}

theorem lookup_putEntry (place other : Location) (entry : Entry) (entries : List (Location × Entry)) :
    (putEntry place entry entries).lookup other =
      if other = place then some entry else entries.lookup other := by
  induction entries with
  | nil => simp [putEntry, Dict.lookup_cons_ite]
  | cons first rest ih =>
    rw [putEntry]
    split
    · simp [Dict.lookup_cons_ite]
    · split
      case isTrue same =>
        simp only [Dict.lookup_cons_ite, same]
        split <;> rfl
      case isFalse differs =>
        simp only [Dict.lookup_cons_ite, ih]
        by_cases found : other = first.1
        · simp [found, Ne.symm differs]
        · simp [found]

theorem eq_lookup (proper : place ≠ []) : tree.entry? place = tree.entries.lookup place := by
  cases place with
  | nil => exact absurd rfl proper
  | cons first rest => rfl

theorem put_apply (tree : FileTree) (proper : place ≠ []) (entry : Entry) (other : Location) :
    FileTree.entry? (tree.put place entry) other = if other = place then some entry else tree.entry? other := by
  cases other with
  | nil => rw [if_neg proper.symm]; rfl
  | cons first rest => exact lookup_putEntry place (first :: rest) entry tree.entries

theorem nodup_places (tree : FileTree) : (tree.entries.map (·.1)).Nodup := by
  rw [List.Nodup, List.pairwise_map]
  apply tree.sorted.imp
  intro a b below same
  rw [same] at below
  exact List.lt_irrefl _ below

theorem mem_entries_iff (proper : place ≠ []) :
    (place, entry) ∈ tree.entries ↔ tree.entry? place = some entry := by
  rw [eq_lookup proper]
  exact (Dict.lookup_eq_some_iff_mem tree.nodup_places).symm

theorem content?_eq_some_iff {content : Content} :
    tree.content? place = some content ↔ tree.entry? place = some (.file content) := by
  rw [content?]
  split
  case h_1 other held => simp [held]
  case h_2 other =>
    constructor
    · intro none
      cases none
    · intro held
      exact absurd held (other content)

def Closed (tree : FileTree) : Prop :=
  ∀ place entry, tree.entry? place = some entry → tree.entry? place.dropLast = some .directory

theorem closed_of_entries (each : ∀ item ∈ tree.entries, tree.entry? item.1.dropLast = some .directory) :
    tree.Closed := by
  intro place entry found
  by_cases top : place = []
  · rw [top]
    rfl
  · exact each _ ((mem_entries_iff top).2 found)

theorem Closed.directory_of_append {path : List String} (closed : tree.Closed)
    (found : tree.entry? (place ++ path) = some entry) (below : path ≠ []) :
    tree.entry? place = some .directory := by
  induction path using List.reverseRecOn generalizing entry with
  | nil => exact absurd rfl below
  | append_singleton path name ih =>
    have above := closed _ _ found
    rw [← List.append_assoc, List.dropLast_concat] at above
    cases path with
    | nil => simpa using above
    | cons first rest => exact ih above (by simp)

theorem step?_eq_some_iff {segment : String} : tree.step? place segment = some other ↔
    tree.entry? place = some .directory ∧ other = (Path.ofSegment? segment).elim place (PathPart.follow place) ∧
      ∀ name, Path.ofSegment? segment = some (.name name) → tree.has other = true := by
  by_cases directory : tree.entry? place = some .directory
  · rw [step?, directory]
    rcases Path.ofSegment?_cases segment with ⟨rfl | rfl, part⟩ | ⟨rfl, part⟩ | ⟨⟨empty, dot, dots⟩, part⟩
    · simp [part, @eq_comm _ other]
    · simp [part, @eq_comm _ other]
    · simp [part, PathPart.follow, @eq_comm _ other]
    · simp only [part, empty, dot, dots, or_self, if_false, Option.elim_some, PathPart.follow]
      constructor
      · intro found
        split at found
        · cases found
          exact ⟨trivial, rfl, fun _ _ => by assumption⟩
        · cases found
      · rintro ⟨-, rfl, present⟩
        rw [if_pos (present _ rfl)]
  · simp only [directory, false_and, iff_false]
    rw [step?]
    split
    · contradiction
    · simp

theorem locate?_eq {start : Location} {path : String} (nonempty : path ≠ "") :
    tree.locate? start path = (Path.segments path).foldlM tree.step? (Path.origin path start) := by
  rw [locate?, String.isEmpty_eq_false_iff.2 nonempty, if_neg Bool.false_ne_true]
  rfl

structure Covers (later tree : FileTree) : Prop where
  directory : ∀ {place}, tree.entry? place = some .directory → later.entry? place = some .directory
  has : ∀ {place}, tree.has place = true → later.has place = true

theorem Covers.foldlM_step? {later : FileTree} (covers : later.Covers tree) {segments : List String}
    (found : segments.foldlM tree.step? place = some other) :
    segments.foldlM later.step? place = some other := by
  induction segments generalizing place with
  | nil => exact found
  | cons segment segments ih =>
    rw [List.foldlM_cons, Option.bind_eq_bind, Option.bind_eq_some_iff] at found ⊢
    obtain ⟨next, stepped, found⟩ := found
    obtain ⟨directory, advance, present⟩ := step?_eq_some_iff.1 stepped
    refine ⟨next, step?_eq_some_iff.2 ⟨covers.directory directory, advance, ?_⟩, ih found⟩
    exact fun name part => covers.has (present name part)

theorem Covers.locate? {later : FileTree} (covers : later.Covers tree) {start : Location} {path : String}
    (found : tree.locate? start path = some place) : later.locate? start path = some place := by
  rw [FileTree.locate?] at found ⊢
  split at found
  case isTrue => cases found
  case isFalse nonempty =>
    rw [if_neg nonempty]
    exact covers.foldlM_step? found

theorem follow_of_foldlM_step? {segments : List String}
    (found : segments.foldlM tree.step? place = some other) :
    other = (Path.inner segments).foldl PathPart.follow place := by
  induction segments generalizing place with
  | nil => exact (Option.some.inj found).symm
  | cons segment segments ih =>
    rw [List.foldlM_cons, Option.bind_eq_bind, Option.bind_eq_some_iff] at found
    obtain ⟨next, stepped, found⟩ := found
    obtain ⟨-, advance, -⟩ := step?_eq_some_iff.1 stepped
    rw [ih found, advance, Path.inner, Path.inner, List.filterMap_cons]
    cases Path.ofSegment? segment <;> rfl

end FileTree

structure Workspace.WellFormed (space : Workspace) : Prop where
  closed : space.tree.Closed
  directory : space.tree.entry? space.directory = some .directory

theorem Workspace.WellFormed.origin {space : Workspace} (h : space.WellFormed) (path : String) :
    space.tree.entry? (Path.origin path space.directory) = some .directory := by
  rw [Path.origin]
  split
  · rfl
  · exact h.directory

theorem Workspace.place_of_locate? {space : Workspace} {path : String} {place : Location}
    (found : space.locate? path = some place) : place = space.place path := by
  rw [Workspace.locate?, FileTree.locate?] at found
  split at found
  · cases found
  · rw [FileTree.follow_of_foldlM_step? found, space.place_eq]
    rfl

end FrontendAtlas
