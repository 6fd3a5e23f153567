import FrontendAtlas.Graph.Node
import FrontendAtlas.Source.Bracket
import FrontendAtlas.Source.Comment
import FrontendAtlas.Source.Identifier
import FrontendAtlas.Source.Pattern
import FrontendAtlas.Source.TypeSection
import FrontendAtlas.Text.Case

namespace FrontendAtlas.Declaration

open FrontendAtlas.Text FrontendAtlas.Source

def hookWindow : Nat := 1500

def hookName? (text : List Char) : Option (List Char × List Char) := do
  match ← word? "use" text with
  | c :: rest =>
    if c.isUpper || c.isDigit || c == '_' || c == '$' then
      some ('u' :: 's' :: 'e' :: c :: rest.takeWhile isIdentPart, rest.dropWhile isIdentPart)
    else none
  | [] => none

def exportedHookFunction? (text : List Char) : Option (List Char × List Char) := do
  let text ← keyword? "export" text
  let text ← keyword? "function" (skipKeyword "default" text)
  let (name, text) ← hookName? text
  return (name, ← parametersOpen? text)

def exportedHookConstant? (text : List Char) : Option (List Char × List Char) := do
  let text ← keyword? "export" text
  let text ← keyword? "const" text
  let (name, text) ← hookName? text
  let text := trimStart (← assigned? (· == '=') text)
  return (name, ← char? '(' (((word? "async" text).map trimStart).getD text))

def hookFunction : Pattern (List Char) :=
  atLineStart exportedHookFunction?

def hookConstant : Pattern (List Char) :=
  atLineStart exportedHookConstant?

/-- An arrow function's expression: up to a semicolon, a closer without an opener, or a line that
exports something, none of them inside brackets.  The depth is counted without bound: a counter of 32 bits
agrees with it in a text of fewer than `2 ^ 31` brackets. -/
def expressionFrom : (depth : Nat) → List Char → List Char
  | _, [] => []
  | depth, c :: rest =>
    if c = '(' ∨ c = '{' ∨ c = '[' then c :: expressionFrom (depth + 1) rest
    else if c = ')' ∨ c = '}' ∨ c = ']' then
      match depth with
      | 0 => []
      | depth + 1 => c :: expressionFrom depth rest
    else if c = ';' ∧ depth = 0 then []
    else if c = '\n' ∧ depth = 0 ∧ startsWith "export ".toList (trimStart rest) then []
    else c :: expressionFrom depth rest

def expression (text : List Char) : List Char :=
  trim (expressionFrom 0 text)

def afterAnnotation? (text : List Char) : Option (List Char) :=
  match trimStart text with
  | ':' :: annotation => afterTypes? true annotation
  | _ => some text

/-- The body of the hook whose parameter list the text is in: an expression if an arrow comes before
the first brace and something stands between the two, else the text in the braces. -/
def hookBody? (text : List Char) : Option (List Char) := do
  let (_, text) ← Delimiters.parens.body? ('(' :: text)
  let text ← afterAnnotation? text
  let arrow := cutAt? "=>".toList text
  let brace := cutAt? ['{'] text
  match arrow, brace with
  | some (_, arrow), none => return expression (arrow.drop 2)
  | none, none => none
  | none, some (_, block) => return Delimiters.braces.contents block
  | some (beforeArrow, arrow), some (beforeBrace, block) =>
    if beforeArrow.length < beforeBrace.length ∧
        ¬ (trim ((arrow.drop 2).takeWhile (· ≠ '{'))).isEmpty then
      return expression (arrow.drop 2)
    else return Delimiters.braces.contents block

structure HookDeclaration where
  name : String
  body : List Char

def hookDeclarations (text : List Char) : List HookDeclaration :=
  let found := hits hookFunction text ++ hits hookConstant text
  let placed := found.filterMap fun hit =>
    (hookBody? hit.rest).map fun body => (hit.position, HookDeclaration.mk (String.ofList hit.value) body)
  (placed.mergeSort fun a b => a.1 ≤ b.1).map (·.2)

def hookNames (source : List Char) : List String :=
  (hookDeclarations (stripComments source)).map (·.name)

def callOf (names : List String) : Pattern String :=
  atWordStart (oneOf? names argumentsOpen?)

def queryFunctions : List String := ["useQuery", "useQueries", "useInfiniteQuery", "useSuspenseQuery"]

def mutationFunctions : List String := ["useMutation"]

def fieldValue? (names : List String) (text : List Char) : Option (List Char) :=
  (oneOf? names (fun rest => (char? ':' (trimStart rest)).map trimStart) text).map (·.2)

def keyField : Pattern Unit :=
  atWordStart fun text => do
    return ((), ← char? '[' (← fieldValue? ["queryKey", "mutationKey"] text))

def writtenKey? (window : List Char) : Option (List String) :=
  (hits keyField window).findSome? fun hit => do
    let (array, _) ← Delimiters.brackets.body? ('[' :: hit.rest)
    match (literals array).map String.ofList with
    | [] => none
    | keys => some keys

def derivedKey? (name : String) : Option (List String) :=
  match word? "use" name.toList with
  | some (c :: stem) => some [String.ofList (lower (c :: stem))]
  | _ => none

def calledName? (text : List Char) : Option (List Char) := do
  let (name, rest) ← ident? text
  let _ ← char? '(' (trimStart rest)
  return name

def awaitedName? (text : List Char) : Option (List Char) :=
  ((keyword? "await" text).bind calledName?) <|> calledName? text

def lambdaTarget? (text : List Char) : Option (List Char) :=
  match text with
  | '{' :: rest =>
    ((keyword? "return" (trimStart rest)).bind awaitedName?) <|> awaitedName? (trimStart rest)
  | _ => awaitedName? text

def lambdaBody? (text : List Char) : Option (List Char) := do
  let rest ← match text with
    | '(' :: rest =>
      match rest.dropWhile fun c => c != '(' && c != ')' with
      | ')' :: after => some after
      | _ => none
    | _ => (ident? text).map (·.2)
  return trimStart (← word? "=>" (trimStart rest))

def functionFields : List String := ["queryFn", "mutationFn"]

def lambdaBinding : Pattern (List Char) :=
  atWordStart fun text => do
    let value ← fieldValue? functionFields text
    let target ← (((word? "async" value).bind fun rest => lambdaBody? (trimStart rest)).bind lambdaTarget?) <|>
      ((lambdaBody? value).bind lambdaTarget?)
    return (target, [])

def bareBinding : Pattern (List Char) :=
  atWordStart fun text => do
    let (name, rest) ← ident? (← fieldValue? functionFields text)
    if '\n' ∈ rest.takeWhile isBlank then return (name, [])
    match trimStart rest with
    | ',' :: _ | '}' :: _ => return (name, [])
    | _ => none

def binding? (window : List Char) : Option String :=
  ((firstHit? lambdaBinding window) <|> (firstHit? bareBinding window)).map String.ofList

def HookDeclaration.hook (declaration : HookDeclaration) (path : String) (apis hooks : NameSet) : Hook :=
  let window := declaration.body.take hookWindow
  { name := declaration.name
    path
    binding := binding? window
    cacheKey := (writtenKey? window) <|> (derivedKey? declaration.name)
    usesQuery := fits (callOf queryFunctions) window
    usesMutation := fits (callOf mutationFunctions) window
    dependencies := (apis.union hooks).filter fun name =>
      name != declaration.name && mentions declaration.body name.toList }

def hooks (source : List Char) (path : String) (apis hooks : NameSet) : Dict Hook :=
  Dict.ofListFirst <| (hookDeclarations (stripComments source)).map fun declaration =>
    (declaration.name, declaration.hook path apis hooks)

end FrontendAtlas.Declaration
