import FrontendAtlas.Files.Content
import FrontendAtlas.Path

namespace FrontendAtlas

abbrev Location := List String

inductive Entry where
  | directory
  | file (content : Content)
  deriving DecidableEq

structure FileTree where
  entries : List (Location × Entry)
  sorted : entries.Pairwise fun a b => a.1 < b.1
  deriving DecidableEq

namespace FileTree

def empty : FileTree := ⟨[], .nil⟩

instance : EmptyCollection FileTree := ⟨empty⟩
instance : Inhabited FileTree := ⟨empty⟩

def entry? (tree : FileTree) : Location → Option Entry
  | [] => some .directory
  | place => tree.entries.lookup place

def has (tree : FileTree) (place : Location) : Bool :=
  (tree.entry? place).isSome

def content? (tree : FileTree) (place : Location) : Option Content :=
  match tree.entry? place with
  | some (.file content) => some content
  | _ => none

def putEntry (place : Location) (entry : Entry) : List (Location × Entry) → List (Location × Entry)
  | [] => [(place, entry)]
  | first :: rest =>
    if place < first.1 then (place, entry) :: first :: rest
    else if place = first.1 then (place, entry) :: rest
    else first :: putEntry place entry rest

theorem fst_of_mem_putEntry {place : Location} {entry : Entry} {entries : List (Location × Entry)}
    {e : Location × Entry} (h : e ∈ putEntry place entry entries) : e.1 = place ∨ e ∈ entries := by
  induction entries with
  | nil => simp [putEntry] at h; simp [h]
  | cons first rest ih =>
    rw [putEntry] at h
    split at h
    · rcases List.mem_cons.1 h with rfl | h
      · exact .inl rfl
      · exact .inr h
    · split at h
      · rcases List.mem_cons.1 h with rfl | h
        · exact .inl rfl
        · exact .inr (List.mem_cons_of_mem _ h)
      · rcases List.mem_cons.1 h with rfl | h
        · exact .inr List.mem_cons_self
        · exact (ih h).imp_right (List.mem_cons_of_mem _)

theorem sorted_putEntry (place : Location) (entry : Entry) {entries : List (Location × Entry)}
    (h : entries.Pairwise fun a b => a.1 < b.1) :
    (putEntry place entry entries).Pairwise fun a b => a.1 < b.1 := by
  induction entries with
  | nil => simp [putEntry]
  | cons first rest ih =>
    obtain ⟨least, tail⟩ := List.pairwise_cons.1 h
    rw [putEntry]
    split
    case isTrue below =>
      refine List.pairwise_cons.2 ⟨fun e he => ?_, h⟩
      rcases List.mem_cons.1 he with rfl | he
      · exact below
      · exact List.lt_trans below (least e he)
    case isFalse notBelow =>
      split
      case isTrue same => exact List.pairwise_cons.2 ⟨fun e he => same ▸ least e he, tail⟩
      case isFalse other =>
        refine List.pairwise_cons.2 ⟨fun e he => ?_, ih tail⟩
        rcases fst_of_mem_putEntry he with same | he
        · rw [same]
          refine List.not_le.1 fun le => other ?_
          exact List.le_antisymm le (List.not_lt.1 notBelow)
        · exact least e he

def put (tree : FileTree) (place : Location) (entry : Entry) : FileTree :=
  ⟨putEntry place entry tree.entries, sorted_putEntry place entry tree.sorted⟩

def remove (tree : FileTree) (place : Location) : FileTree where
  entries := tree.entries.filter fun entry => !place.isPrefixOf entry.1
  sorted := tree.sorted.sublist List.filter_sublist

def step? (tree : FileTree) (place : Location) (segment : String) : Option Location :=
  match tree.entry? place with
  | some .directory =>
    if segment = "" ∨ segment = "." then some place
    else if segment = ".." then some place.dropLast
    else if tree.has (place ++ [segment]) then some (place ++ [segment])
    else none
  | _ => none

def locate? (tree : FileTree) (start : Location) (path : String) : Option Location :=
  if path.isEmpty then none
  else (Path.segments path).foldlM tree.step? (if Path.isAbsolute path then [] else start)

def makeDirs? : FileTree → Location → List PathPart → Option (FileTree × Location)
  | tree, place, [] => some (tree, place)
  | tree, _, .root :: rest => makeDirs? tree [] rest
  | tree, place, .current :: rest => makeDirs? tree place rest
  | tree, place, .parent :: rest => makeDirs? tree place.dropLast rest
  | tree, place, .name name :: rest =>
    let next := place ++ [name]
    match tree.entry? next with
    | some .directory => makeDirs? tree next rest
    | some (.file _) => none
    | none => makeDirs? (tree.put next .directory) next rest

def makeDir? (tree : FileTree) (start : Location) (path : String) : Option FileTree :=
  (tree.makeDirs? start (Path.parts path)).map (·.1)

/-- Writes a file and makes the directories above it; none if a directory has its place or a file is
in the way. -/
def write? (tree : FileTree) (start : Location) (path : String) (content : Content) : Option FileTree := do
  let (tree, place) ← tree.makeDirs? start (Path.parts path).dropLast
  let name ← Path.lastName? path
  if tree.entry? (place ++ [name]) = some .directory then none
  else return tree.put (place ++ [name]) (.file content)

end FileTree

structure Workspace where
  tree : FileTree
  directory : Location

namespace Workspace

def locate? (space : Workspace) (path : String) : Option Location :=
  space.tree.locate? space.directory path

def entry? (space : Workspace) (path : String) : Option Entry :=
  (space.locate? path).bind space.tree.entry?

def isDirectory (space : Workspace) (path : String) : Bool :=
  space.entry? path == some .directory

def read? (space : Workspace) (path : String) : Option Content :=
  (space.locate? path).bind space.tree.content?

def readText? (space : Workspace) (path : String) : Option String :=
  (space.read? path).bind Content.text?

end Workspace

def Location.path (place : Location) : String :=
  if place.isEmpty then "/" else String.join (place.map ("/" ++ ·))

end FrontendAtlas
