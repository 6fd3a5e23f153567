import FrontendAtlas.Ignore.Scan
import FrontendAtlas.Proofs.Files.Tree

namespace FrontendAtlas.Ignore

variable {space later : Workspace} {base : Location} {extensions : List String} {recursive : Bool}
  {listing : List (Location × Entry)} {path : List String} {content : Content}

structure Takes (space : Workspace) (base : Location) (extensions : List String) (recursive : Bool)
    (path : List String) (content : Content) : Prop where
  held : space.tree.entry? (base ++ path) = some (.file content)
  below : path ≠ []
  depth : recursive = true ∨ path.length = 1
  extension : hasExtension extensions path = true
  reached : reaches space base path = true

theorem under?_eq_some_iff {directory place : Location} :
    under? directory place = some path ↔ place = directory ++ path ∧ path ≠ [] := by
  rw [under?]
  constructor
  · intro found
    split at found
    case isTrue below =>
      cases found
      obtain ⟨rest, rfl⟩ := List.isPrefixOf_iff_prefix.1 below.1
      have longer := below.2
      simp only [List.drop_left, true_and]
      rintro rfl
      simp at longer
    case isFalse => cases found
  · rintro ⟨rfl, proper⟩
    have longer := List.length_pos_iff.2 proper
    simp [longer]

theorem taken?_eq_some_iff {place : Location} {entry : Entry} :
    taken? space base extensions recursive place entry = some (path, content) ↔
      place = base ++ path ∧ entry = .file content ∧ path ≠ [] ∧ (recursive = true ∨ path.length = 1) ∧
        hasExtension extensions path = true ∧ reaches space base path = true := by
  simp only [taken?, Option.bind_eq_bind, Option.bind_eq_some_iff, under?_eq_some_iff]
  cases entry with
  | directory => simp
  | file other =>
    simp only [Option.ite_none_right_eq_some, Option.some.injEq, Prod.mk.injEq, Bool.and_eq_true,
      Bool.or_eq_true, beq_iff_eq, Entry.file.injEq]
    constructor
    · rintro ⟨_, ⟨rfl, proper⟩, ⟨⟨depth, extension⟩, reached⟩, rfl, rfl⟩
      exact ⟨rfl, rfl, proper, depth, extension, reached⟩
    · rintro ⟨rfl, rfl, proper, depth, extension, reached⟩
      exact ⟨path, ⟨rfl, proper⟩, ⟨⟨depth, extension⟩, reached⟩, rfl, rfl⟩

theorem mem_walk_iff (same : listing.Perm space.tree.entries) :
    (path, content) ∈ walk space base extensions recursive listing ↔
      Takes space base extensions recursive path content := by
  simp only [walk, List.mem_filterMap, Prod.exists, taken?_eq_some_iff, same.mem_iff]
  constructor
  · rintro ⟨_, _, listed, rfl, rfl, proper, depth, extension, reached⟩
    exact ⟨(FileTree.mem_entries_iff (by simp [proper])).1 listed, proper, depth, extension, reached⟩
  · rintro ⟨held, proper, depth, extension, reached⟩
    have listed := (FileTree.mem_entries_iff (by simp [proper])).2 held
    exact ⟨_, _, listed, rfl, rfl, proper, depth, extension, reached⟩

theorem nodup_paths_walk (same : listing.Perm space.tree.entries) :
    ((walk space base extensions recursive listing).map (·.1)).Nodup := by
  have places : (listing.map (·.1)).Nodup := (same.map _).nodup_iff.2 space.tree.nodup_places
  rw [List.Nodup, List.pairwise_map] at places ⊢
  rw [walk, List.pairwise_filterMap]
  apply places.imp
  rintro ⟨place, entry⟩ ⟨place', entry'⟩ differ ⟨path, content⟩ found ⟨path', content'⟩ found' rfl
  obtain ⟨rfl, -⟩ := taken?_eq_some_iff.1 found
  obtain ⟨rfl, -⟩ := taken?_eq_some_iff.1 found'
  exact differ rfl

theorem mem_inOrder {found : List (List String × Content)} {file : List String × Content} :
    file ∈ inOrder found ↔ file ∈ found :=
  (List.mergeSort_perm _ _).mem_iff

theorem pairwise_inOrder {found : List (List String × Content)} (distinct : (found.map (·.1)).Nodup) :
    (inOrder found).Pairwise fun a b => a.1 < b.1 := by
  have ordered : (inOrder found).Pairwise fun a b => (!decide (b.1 < a.1)) = true := by
    apply List.pairwise_mergeSort
    · intro a b c
      simp only [Bool.not_eq_true', decide_eq_false_iff_not, List.not_lt]
      exact List.le_trans
    · intro a b
      simp only [Bool.or_eq_true, Bool.not_eq_true', decide_eq_false_iff_not, List.not_lt]
      exact List.le_total _ _
  have apart : (inOrder found).Pairwise fun a b => a.1 ≠ b.1 := by
    rw [← List.pairwise_map (R := fun a b => a ≠ b)]
    exact ((List.mergeSort_perm _ _).map _).nodup_iff.2 distinct
  refine (ordered.and apart).imp ?_
  rintro a b ⟨le, differ⟩
  rw [Bool.not_eq_true', decide_eq_false_iff_not] at le
  exact List.not_le.1 fun above => differ (List.le_antisymm (List.not_lt.1 le) above)

theorem inOrder_of_sorted {found : List (List String × Content)}
    (sorted : found.Pairwise fun a b => a.1 < b.1) : inOrder found = found := by
  apply List.mergeSort_of_pairwise
  apply sorted.imp
  intro a b below
  rw [Bool.not_eq_true', decide_eq_false_iff_not]
  exact List.lt_asymm below

theorem eq_of_sorted {α : Type} {found others : List (List String × α)}
    (sorted : found.Pairwise fun a b => a.1 < b.1) (sorted' : others.Pairwise fun a b => a.1 < b.1)
    (same : ∀ path file, (path, file) ∈ found ↔ (path, file) ∈ others) : found = others := by
  have distinct {files : List (List String × α)} (sorted : files.Pairwise fun a b => a.1 < b.1) :
      files.Nodup := by
    apply sorted.imp
    rintro a b below rfl
    exact List.lt_irrefl _ below
  have perm : found.Perm others :=
    (List.perm_ext_iff_of_nodup (distinct sorted) (distinct sorted')).2 fun file => same file.1 file.2
  refine perm.eq_of_pairwise ?_ sorted sorted'
  intro a b _ _ below above
  exact absurd (List.lt_trans below above) (List.lt_irrefl _)

theorem inOrder_walk_of_perm (same : listing.Perm space.tree.entries) :
    inOrder (walk space base extensions recursive listing) =
      inOrder (walk space base extensions recursive space.tree.entries) := by
  apply eq_of_sorted (pairwise_inOrder (nodup_paths_walk same)) (pairwise_inOrder (nodup_paths_walk (.refl _)))
  intro path content
  rw [mem_inOrder, mem_inOrder, mem_walk_iff same, mem_walk_iff (.refl _)]

def filesIn (space : Workspace) (base : Location) (extensions : List String) (recursive : Bool) :
    List (List String × Content) :=
  if space.tree.entry? base = some .directory then
    inOrder (walk space base extensions recursive space.tree.entries)
  else []

theorem scan_eq (space : Workspace) (directory : String) (extensions : List String) (recursive : Bool) :
    scan space directory extensions recursive = (space.locate? directory).elim [] fun base =>
      (filesIn space base extensions recursive).map fun (path, content) =>
        ⟨Path.join directory (String.intercalate "/" path), content⟩ := by
  rw [scan]
  cases space.locate? directory with
  | none => rfl
  | some base =>
    dsimp only [Option.elim_some]
    rw [filesIn]
    by_cases directory : space.tree.entry? base = some .directory
    · rw [if_pos directory, if_pos directory]
    · rw [if_neg directory, if_neg directory, List.map_nil]

theorem mem_filesIn_iff : (path, content) ∈ filesIn space base extensions recursive ↔
    space.tree.entry? base = some .directory ∧ Takes space base extensions recursive path content := by
  rw [filesIn]
  split
  case isTrue directory => simp [mem_inOrder, mem_walk_iff (.refl _), directory]
  case isFalse other => simp [other]

theorem pairwise_filesIn : (filesIn space base extensions recursive).Pairwise fun a b => a.1 < b.1 := by
  rw [filesIn]
  split
  · exact pairwise_inOrder (nodup_paths_walk (.refl _))
  · exact .nil

/-- The paths that are read when the `.git` file of a directory is followed. -/
def linkPaths (space : Workspace) (directory : Location) : List String :=
  match (space.tree.content? (directory ++ [".git"])).bind ownDir? with
  | none => []
  | some own => Path.join own "commondir" :: ((commonDir? space own).map (Path.join · "info/exclude")).toList

theorem forall_linkPaths_of_entries {P : String → Prop}
    (each : ∀ item ∈ space.tree.entries, ∀ path ∈ linkPaths space item.1.dropLast, P path) :
    ∀ directory, ∀ path ∈ linkPaths space directory, P path := by
  intro directory path followed
  cases link : space.tree.content? (directory ++ [".git"]) with
  | none => simp [linkPaths, link] at followed
  | some content =>
    have held := FileTree.content?_eq_some_iff.1 link
    have listed := (FileTree.mem_entries_iff (by simp)).2 held
    refine each _ listed path ?_
    rwa [List.dropLast_concat]

structure SameRules (space later : Workspace) : Prop where
  files : ∀ directory, ∀ file ∈ ruleFiles,
    later.tree.content? (directory ++ file) = space.tree.content? (directory ++ file)
  linked : ∀ directory, ∀ path ∈ linkPaths space directory, later.read? path = space.read? path
  repositories : ∀ directory, isRepository later.tree directory = isRepository space.tree directory

namespace SameRules

variable (same : SameRules space later)

include same

theorem excludeFile? (directory : Location) : excludeFile? later directory = excludeFile? space directory := by
  have linked := same.linked directory
  rw [Ignore.excludeFile?, Ignore.excludeFile?, same.files directory [".git"] (by simp [ruleFiles])]
  rw [linkPaths] at linked
  cases link : space.tree.content? (directory ++ [".git"]) with
  | none => exact same.files directory _ (by simp [ruleFiles])
  | some content =>
    rw [link, Option.bind_some] at linked
    cases own : ownDir? content with
    | none => simp [own]
    | some directory =>
      simp only [own, List.forall_mem_cons, Option.mem_toList, Option.map_eq_some_iff] at linked
      have common : commonDir? later directory = commonDir? space directory := by
        rw [commonDir?, commonDir?, linked.1]
      simp only [own, Option.bind_eq_bind, Option.bind_some, common]
      cases shared : commonDir? space directory with
      | none => rfl
      | some path => exact linked.2 _ ⟨path, shared, rfl⟩

theorem repositoryLevels (levels : List (Location × List String)) :
    repositoryLevels later.tree levels = repositoryLevels space.tree levels := by
  induction levels with
  | nil => rfl
  | cons level rest ih => rw [Ignore.repositoryLevels, Ignore.repositoryLevels, same.repositories, ih]

theorem reaches (base : Location) (path : List String) : reaches later base path = reaches space base path := by
  have rules (file : Location) (known : file ∈ ruleFiles) (directory : Location) :
      rulesAt later.tree (directory ++ file) = rulesAt space.tree (directory ++ file) := by
    rw [rulesAt, rulesAt, same.files directory file known]
  have verdict (place : Location) (isDirectory : Bool) :
      placeVerdict? later place isDirectory = placeVerdict? space place isDirectory := by
    simp only [placeVerdict?, same.repositoryLevels, same.excludeFile?, rules [".ignore"] (by simp [ruleFiles]),
      rules [".gitignore"] (by simp [ruleFiles])]
  simp only [Ignore.reaches, skips, verdict]

end SameRules

end FrontendAtlas.Ignore
