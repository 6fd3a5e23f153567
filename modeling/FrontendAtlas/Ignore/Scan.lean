import FrontendAtlas.Files.Tree
import FrontendAtlas.Ignore.Rule

/-! The source files of a directory.  Hidden entries are passed over, and so is what ignore files
exclude: `.ignore` files everywhere, `.gitignore` files and the repository's exclude file inside a repository
and up to its root.  `.ignore` wins over `.gitignore`, and the nearer file over the farther one.  The excludes
that users keep for all their repositories are left out: they are found by way of the environment, not of the
tree. -/

namespace FrontendAtlas.Ignore

/-- What is looked for in a directory to find ignore rules. -/
def ruleFiles : List Location :=
  [[".ignore"], [".gitignore"], [".git"], [".git", "info", "exclude"]]

def levels (place : Location) : List (Location × List String) :=
  (List.range place.length).reverse.map fun depth => (place.take depth, place.drop depth)

def rulesAt (tree : FileTree) (place : Location) : List Rule :=
  (tree.content? place).elim [] rulesOf

def nearestVerdict? (rules : Location → List Rule) (isDirectory : Bool)
    (levels : List (Location × List String)) : Option Verdict :=
  levels.findSome? fun (directory, path) => verdict? (rules directory) path isDirectory

def isRepository (tree : FileTree) (directory : Location) : Bool :=
  tree.has (directory ++ [".git"])

def repositoryLevels (tree : FileTree) : List (Location × List String) → List (Location × List String)
  | [] => []
  | level :: rest =>
    if isRepository tree level.1 then [level]
    else match repositoryLevels tree rest with
      | [] => []
      | more => level :: more

def ownDir? (link : Content) : Option String := do
  let line ← link.lines.head?
  (Text.after? "gitdir: ".toList line.toList).map String.ofList

/-- The directory that a linked worktree shares with its repository.  A name that does not begin with a
dot is seen from the working directory, like the name of the worktree's own directory. -/
def commonDir? (space : Workspace) (own : String) : Option String := do
  let content ← space.read? (Path.join own "commondir")
  let line ← content.lines.head?
  return if line.toList.head? = some '.' then Path.join own line else line

def excludeFile? (space : Workspace) (directory : Location) : Option Content :=
  match space.tree.content? (directory ++ [".git"]) with
  | some link => do
    let shared ← commonDir? space (← ownDir? link)
    space.read? (Path.join shared "info/exclude")
  | none => space.tree.content? (directory ++ [".git", "info", "exclude"])

def placeVerdict? (space : Workspace) (place : Location) (isDirectory : Bool) : Option Verdict :=
  let all := levels place
  let inRepository := repositoryLevels space.tree all
  (nearestVerdict? (fun directory => rulesAt space.tree (directory ++ [".ignore"])) isDirectory all) <|>
    (nearestVerdict? (fun directory => rulesAt space.tree (directory ++ [".gitignore"])) isDirectory
      inRepository) <|>
    (nearestVerdict? (fun directory => (excludeFile? space directory).elim [] rulesOf) isDirectory inRepository)

def isHidden (place : Location) : Bool :=
  (place.getLast?.bind fun name => name.toList.head?) == some '.'

def skips (space : Workspace) (place : Location) (isDirectory : Bool) : Bool :=
  match placeVerdict? space place isDirectory with
  | some .ignored => true
  | some .kept => false
  | none => isHidden place

def reaches (space : Workspace) (directory : Location) (path : List String) : Bool :=
  (List.range path.length).all fun depth =>
    !skips space (directory ++ path.take (depth + 1)) (depth + 1 < path.length)

structure SourceFile where
  path : String
  content : Content

def under? (directory place : Location) : Option (List String) :=
  if directory.isPrefixOf place ∧ directory.length < place.length then some (place.drop directory.length)
  else none

def hasExtension (extensions : List String) (path : List String) : Bool :=
  (path.getLast?.bind Path.extension?).any extensions.contains

def taken? (space : Workspace) (base : Location) (extensions : List String) (recursive : Bool)
    (place : Location) (entry : Entry) : Option (List String × Content) := do
  let path ← under? base place
  match entry with
  | .directory => none
  | .file content =>
    if (recursive || path.length == 1) && hasExtension extensions path && reaches space base path then
      some (path, content)
    else none

def walk (space : Workspace) (base : Location) (extensions : List String) (recursive : Bool)
    (listing : List (Location × Entry)) : List (List String × Content) :=
  listing.filterMap fun (place, entry) => taken? space base extensions recursive place entry

def inOrder (found : List (List String × Content)) : List (List String × Content) :=
  found.mergeSort fun a b => !decide (b.1 < a.1)

def scan (space : Workspace) (directory : String) (extensions : List String) (recursive : Bool) :
    List SourceFile :=
  match space.locate? directory with
  | none => []
  | some base =>
    if space.tree.entry? base = some .directory then
      (inOrder (walk space base extensions recursive space.tree.entries)).map fun (path, content) =>
        ⟨Path.join directory (String.intercalate "/" path), content⟩
    else []

end FrontendAtlas.Ignore
