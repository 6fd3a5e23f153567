import FrontendAtlas.Failure
import FrontendAtlas.Files.Tree

/-! Changes of a file tree, step by step.  A change can fail on the way; what was done before stays. -/

namespace FrontendAtlas

abbrev Change := EStateM Failure FileTree

namespace Change

def makeDirs : Location → List PathPart → Change Location
  | place, [] => return place
  | _, .root :: rest => makeDirs [] rest
  | place, .current :: rest => makeDirs place rest
  | place, .parent :: rest => makeDirs place.dropLast rest
  | place, .name name :: rest => do
    let next := place ++ [name]
    match FileTree.entry? (← get) next with
    | some .directory => makeDirs next rest
    | some (.file _) => throw .access
    | none =>
      modify (·.put next .directory)
      makeDirs next rest

def putFile (place : Location) (content : Content) : Change Unit := do
  if FileTree.entry? (← get) place = some .directory then throw .access
  modify (·.put place (.file content))

def leaves {α : Type} (change : Change α) (tree : FileTree) : FileTree :=
  match change tree with
  | .ok _ later | .error _ later => later

end Change

end FrontendAtlas
