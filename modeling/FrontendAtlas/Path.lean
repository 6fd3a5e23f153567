import FrontendAtlas.Text.Search

namespace FrontendAtlas

inductive PathPart where
  | root
  | current
  | parent
  | name (text : String)
  deriving DecidableEq

namespace Path

def isAbsolute (path : String) : Bool :=
  path.toList.head? == some '/'

def segments (path : String) : List String :=
  (Text.splitAt (· == '/') path.toList).map String.ofList

def ofSegment? : String → Option PathPart
  | "" | "." => none
  | ".." => some .parent
  | text => some (.name text)

/-- The parts of a path.  Empty segments and those that are `.` are dropped, but for a `.` in front. -/
def parts (path : String) : List PathPart :=
  let inner := (segments path).filterMap ofSegment?
  if isAbsolute path then .root :: inner
  else if (segments path).head? = some "." then .current :: inner
  else inner

def fileName? (path : String) : Option String :=
  match (parts path).getLast? with
  | some (.name text) => some text
  | _ => none

/-- The name of the file that a path asks for.  Anything after it, be it only a slash, asks for a
directory. -/
def lastName? (path : String) : Option String :=
  (fileName? path).filter fun name => (segments path).getLast? == some name

def splitExtension (name : String) : String × Option String :=
  let reversed := name.toList.reverse
  match reversed.dropWhile (· ≠ '.') with
  | _ :: stem@(_ :: _) =>
    (String.ofList stem.reverse, some (String.ofList (reversed.takeWhile (· ≠ '.')).reverse))
  | _ => (name, none)

def fileStem? (path : String) : Option String :=
  (fileName? path).map fun name => (splitExtension name).1

def extension? (path : String) : Option String :=
  (fileName? path).bind fun name => (splitExtension name).2

def join (base path : String) : String :=
  if isAbsolute path then path
  else if base.isEmpty || base.toList.getLast? == some '/' then base ++ path
  else base ++ "/" ++ path

def partText : PathPart → String
  | .root => "/"
  | .current => "."
  | .parent => ".."
  | .name text => text

def partsFrom (base path : String) : List PathPart :=
  if (parts base).isPrefixOf (parts path) then (parts path).drop (parts base).length else parts path

def label (base path : String) : String :=
  String.intercalate "/" ((partsFrom base path).map partText)

end Path

end FrontendAtlas
