import FrontendAtlas.Command.Run
import FrontendAtlas.Command.Usage
import FrontendAtlas.Moment
import Std.Time

namespace FrontendAtlas.Main

def loadFile (tree : FileTree) (place : Location) : IO FileTree := do
  try
    let bytes ← IO.FS.readBinFile place.path
    return tree.put place (.file (.ofBytes bytes.toList))
  catch _ => return tree

def kindOf (place : Location) : IO (Option IO.FS.FileType) := do
  try
    let path ← IO.FS.realPath place.path
    return some (← path.metadata).type
  catch _ => return none

def loadPlace (tree : FileTree) (place : Location) : IO FileTree := do
  match ← kindOf place with
  | some .dir => return tree.put place .directory
  | some .file => loadFile tree place
  | _ => return tree

def loadLevel (tree : FileTree) (place : Location) : IO FileTree := do
  let tree ← if place.isEmpty then pure tree else loadPlace tree place
  Ignore.ruleFiles.foldlM (fun tree file => loadPlace tree (place ++ file)) tree

partial def loadUnder (tree : FileTree) (place : Location) : IO FileTree := do
  match ← kindOf place with
  | some .dir =>
    let path ← IO.FS.realPath place.path
    let entries ← path.readDir
    entries.foldlM (fun tree entry => loadUnder tree (place ++ [entry.fileName])) (tree.put place .directory)
  | some .file => loadFile tree place
  | _ => return tree

def loadPath (tree : FileTree) (atEnd : FileTree → Location → IO FileTree) (place : Location) :
    List String → IO FileTree
  | [] => atEnd tree place
  | segment :: rest => do
    let tree ← loadLevel tree place
    let next := if segment = "" ∨ segment = "." then place
      else if segment = ".." then place.dropLast
      else place ++ [segment]
    loadPath tree atEnd next rest

def load (atEnd : FileTree → Location → IO FileTree) (directory : Location) (tree : FileTree)
    (path : String) : IO FileTree :=
  loadPath tree atEnd [] ((if Path.isAbsolute path then [] else directory) ++ Path.segments path)

def loadLink (directory : Location) (tree : FileTree) : Location × Entry → IO FileTree
  | (_, .directory) => return tree
  | (place, .file content) => do
    if place.getLast? ≠ some ".git" then return tree
    let some own := Ignore.ownDir? content | return tree
    let tree ← load loadPlace directory tree (Path.join own "commondir")
    let some shared := Ignore.commonDir? ⟨tree, directory⟩ own | return tree
    load loadPlace directory tree (Path.join shared "info/exclude")

def store (old new : FileTree) : IO Unit :=
  new.entries.forM fun (place, entry) =>
    if old.entry? place == some entry then pure ()
    else match entry with
      | .directory => IO.FS.createDirAll place.path
      | .file content => IO.FS.writeBinFile place.path ⟨content.bytes.toArray⟩

def now : IO String := do
  let moment ← Std.Time.Timestamp.now
  return momentText moment.toMillisecondsSinceUnixEpoch.toInt.toNat

def execute (invocation : Command.Invocation) : IO UInt32 := do
  let directory := (Path.segments (← IO.currentDir).toString).filter (· != "")
  let tree ← load loadPlace directory ∅ invocation.root
  let root := Command.rootPath ⟨tree, directory⟩ invocation.root
  let tree ← load loadPlace directory tree (Settings.file root)
  let tree ← (Command.reads ⟨tree, directory⟩ invocation).foldlM (load loadUnder directory) tree
  let tree ← tree.entries.foldlM (loadLink directory) tree
  let outcome := Command.execute ⟨tree, directory⟩ invocation (← now)
  try
    store tree outcome.tree
    IO.print outcome.output
    IO.eprint outcome.errors
    return outcome.exit.toUInt32
  catch _ =>
    IO.eprintln ("Error: " ++ Failure.access.message)
    return 1

def refuse (refusal : Command.Refusal) : IO UInt32 := do
  if refusal.exitCode = 0 then IO.print (Command.lines refusal.lines)
  else IO.eprint (Command.lines refusal.lines)
  return refusal.exitCode.toUInt32

end FrontendAtlas.Main

def main (arguments : List String) : IO UInt32 :=
  match FrontendAtlas.Command.Invocation.ofArguments arguments with
  | .ok invocation => FrontendAtlas.Main.execute invocation
  | .error refusal => FrontendAtlas.Main.refuse refusal
