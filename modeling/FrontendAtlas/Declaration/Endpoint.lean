import FrontendAtlas.Graph.Node
import FrontendAtlas.Source.Pattern
import FrontendAtlas.Source.Quote
import FrontendAtlas.Source.Template

/-! The request that a function body makes, as far as its text shows it.  The evidence is taken in
order of strength: a quoted argument of a client's helper, a template argument, a template held by a
variable that is passed, and at last any literal that looks like a path. -/

namespace FrontendAtlas.Declaration

open FrontendAtlas.Text FrontendAtlas.Source

structure Endpoint where
  method : HttpMethod
  route : String
  deriving DecidableEq

def clientObjects : List String := ["apiClient", "client", "api", "http"]

def requestHelpers : List String := ["get", "post", "put", "patch", "del", "delete"]

def skipClient (text : List Char) : List Char :=
  ((oneOf? clientObjects (char? '.') text).map (·.2)).getD text

def helperCall : Pattern HttpMethod :=
  afterBreak fun text => do
    let (helper, rest) ← oneOf? requestHelpers argumentsOpen? (skipClient text)
    return (← HttpMethod.ofHelper? helper, trimStart rest)

/-- The single- or double-quoted text at the front; escapes are not looked at. -/
def quotedArgument? : List Char → Option (List Char)
  | c :: rest =>
    if (c = '\x27' ∨ c = '\x22') ∧ c ∈ rest then some (rest.takeWhile (· ≠ c)) else none
  | [] => none

def templateVariable : Pattern (List Char) :=
  atWordStart fun text => do
    let (_, text) ← oneOf? ["const", "let", "var"] gap? text
    let (name, text) ← ident? text
    let text ← char? '=' (trimStart text)
    return (name, ← char? '\x60' (trimStart text))

def beginsWithName (name text : List Char) : Bool :=
  (after? name text).any fun rest => !rest.head?.any isIdentChar

def pathLiteral : Pattern (List Char) := fun _ text =>
  match text with
  | quote :: '/' :: rest =>
    let inPath (c : Char) : Bool := !isQuote c && !isBlank c
    match rest.dropWhile inPath with
    | c :: after => if isQuote quote && isQuote c then some ('/' :: rest.takeWhile inPath, after) else none
    | [] => none
  | _ => none

def unknownRoute : String := "unknown"

def endpoint? (code : List Char) : Option Endpoint := do
  let calls := hits helperCall code
  let first ← calls.head?
  let quoted := calls.findSome? fun call =>
    (quotedArgument? call.rest).map fun text => ⟨call.value, String.ofList text⟩
  let template := calls.findSome? fun call =>
    (template? call.rest).map fun raw => ⟨call.value, String.ofList (route raw)⟩
  let held := (hits templateVariable code).findSome? fun hit => do
    let raw ← templateBody? 0 hit.rest
    let call ← calls.find? fun call => beginsWithName hit.value call.rest
    return ⟨call.value, String.ofList (route raw)⟩
  let path := (firstHit? pathLiteral code).elim unknownRoute fun raw => String.ofList (route raw)
  quoted <|> template <|> held <|> some ⟨first.value, path⟩

end FrontendAtlas.Declaration
