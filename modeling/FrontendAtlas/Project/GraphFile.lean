import FrontendAtlas.Failure
import FrontendAtlas.Files.Change
import FrontendAtlas.Files.Tree
import FrontendAtlas.Graph.Basic
import FrontendAtlas.Settings.Basic

namespace FrontendAtlas.Project

def writeGraph (space : Workspace) (graph : Graph) (path : String) : Except Failure FileTree :=
  if graph.nodes.types.isEmpty then .error (.noTypes path)
  else match space.tree.write? space.directory path (.text graph.fileText) with
    | some tree => .ok tree
    | none => .error .access

def saveGraph (start : Location) (graph : Graph) (path : String) : Change Unit := do
  if graph.nodes.types.isEmpty then throw (.noTypes path)
  let folder ← Change.makeDirs start (Path.parts path).dropLast
  match Path.lastName? path with
  | some name => Change.putFile (folder ++ [name]) (.text graph.fileText)
  | none => throw .access

def readGraph (space : Workspace) (path : String) : Except Failure Graph :=
  match space.readText? path with
  | some text => (Graph.ofFileText text).mapError .json
  | none => .error .access

end FrontendAtlas.Project
