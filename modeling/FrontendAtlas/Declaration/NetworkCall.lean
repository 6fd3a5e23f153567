import FrontendAtlas.Declaration.Endpoint
import FrontendAtlas.Source.Identifier

namespace FrontendAtlas.Declaration

open FrontendAtlas.Text FrontendAtlas.Source

def memberAccess? (text : List Char) : Option (List Char) := do
  match ← char? '.' text with
  | c :: rest => if c.isAlpha then some (rest.dropWhile Char.isAlpha) else none
  | [] => none

def clientFunctions : List String := requestHelpers ++ ["request"]

def libraryCall : Pattern Unit :=
  atWordStart fun text =>
    let called (rest : Option (List Char)) : Option (Unit × List Char) := rest.map ((), ·)
    (called ((word? "fetch" text).bind fun rest => char? '(' (trimStart rest))) <|>
      (called ((word? "axios" text).bind fun rest => argumentsOpen? ((memberAccess? rest).getD rest))) <|>
      (called (((word? "apiClient" text).bind memberAccess?).bind argumentsOpen?))

def clientOpen? (text : List Char) : Option (Unit × List Char) := do
  let (_, rest) ← oneOf? ["client", "api", "http"] (char? '.') text
  let (_, rest) ← oneOf? clientFunctions argumentsOpen? rest
  return ((), rest)

def clientCall : Pattern Unit :=
  afterBreak clientOpen?

def callsNetwork (text : List Char) : Bool :=
  fits libraryCall text || fits clientCall text

def importNames? (text : List Char) : Option (List Char) :=
  (word? "import" text).bind fun rest => char? '{' (trimStart rest)

def importOrigin? (text : List Char) : Option (List Char × List Char) := do
  let rest ← word? "from" (trimStart text)
  let isEdge (c : Char) : Bool := c == '\x27' || c == '\x22'
  match trimStart rest with
  | quote :: rest =>
    match rest.takeWhile fun c => !isEdge c, rest.dropWhile fun c => !isEdge c with
    | origin@(_ :: _), _ :: after => if isEdge quote then return (origin, after) else none
    | _, _ => none
  | [] => none

def namedImport : Pattern (List Char × List Char) :=
  atWordStart fun text => do
    let names ← importNames? text
    let rest ← char? '}' (names.dropWhile (· ≠ '}'))
    let (origin, after) ← importOrigin? rest
    return ((names.takeWhile (· ≠ '}'), origin), after)

def moduleName (path : List Char) : List Char :=
  (((splitAt (· == '/') path).getLast?).getD []).takeWhile (· ≠ '.')

def importedHelper? (specifier : List Char) : Option (List Char) :=
  let specifier := trim specifier
  let specifier := (word? "type " specifier).getD specifier
  let (imported, localName) := match cutAt? " as ".toList specifier with
    | some (imported, rest) => (trim imported, trim (rest.drop 4))
    | none => (specifier, specifier)
  if String.ofList imported ∈ clientFunctions ∧ ¬ localName.isEmpty then some localName else none

def importedHelpers (text : List Char) : List (List Char) :=
  (hits namedImport text).flatMap fun hit =>
    let (specifiers, origin) := hit.value
    if String.ofList (moduleName origin) ∈ clientObjects then
      (splitAt (· == ',') specifiers).filterMap importedHelper?
    else []

end FrontendAtlas.Declaration
