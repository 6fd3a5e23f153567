import FrontendAtlas.Declaration.NetworkCall
import FrontendAtlas.Path
import FrontendAtlas.Source.Comment

namespace FrontendAtlas.Declaration

open FrontendAtlas.Text FrontendAtlas.Source

def exportHead : Pattern (String × List Char) :=
  atLineStart fun text => do
    let text ← keyword? "export" text
    let (kind, text) ← oneOf? ["function", "const", "class"] gap? (skipKeyword "default" text)
    let (name, text) ← ident? text
    return ((kind, name), text)

def isFunctionValue (text : List Char) : Bool :=
  let isFunction := (word? "function" text).any fun rest => !rest.head?.any isWordChar
  let isArrow := (ident? text).any fun (_, rest) => startsWith "=>".toList (trimStart rest)
  let isWrapped := (oneOf? ["memo", "forwardRef"] (fun rest =>
    match trimStart rest with
    | '<' :: _ | '(' :: _ => some ()
    | _ => none) ((word? "React." text).getD text)).isSome
  text.head? == some '(' || isFunction || isArrow || isWrapped

def holdsComponent (text : List Char) : Bool :=
  match assigned? (fun c => c == '=' || c == '\n') text with
  | some value =>
    let value := trimStart value
    isFunctionValue value || (word? "async" value).any fun rest => isFunctionValue (trimStart rest)
  | none => false

/-- An ASCII capital in front, an ASCII small letter somewhere, and no underscore. -/
def isComponentName (name : List Char) : Bool :=
  name.head?.any Char.isUpper && name.any Char.isLower && !name.contains '_'

/-- The name of a file's component: the first exported function, class or constant that is one, else
any export with such a name, else the name of the file. -/
def componentName? (text : List Char) (file : String) : Option String :=
  let named := (hits exportHead text).filter fun hit => isComponentName hit.value.2
  let certain := named.find? fun hit => hit.value.1 != "const" || holdsComponent hit.rest
  let exported := (certain <|> named.head?).map fun hit => String.ofList hit.value.2
  exported <|> (Path.fileStem? file).filter fun stem => isComponentName stem.toList

def component? (source : List Char) (file path : String) (hooks : NameSet) : Option Component := do
  let text := stripComments source
  let name ← componentName? text file
  let code := blankLiterals text
  return {
    name
    path
    hooks := hooks.filter fun hook => mentions code hook.toList
    callsNetwork := callsNetwork text || (importedHelpers text).any fun helper => calls code helper }

end FrontendAtlas.Declaration
