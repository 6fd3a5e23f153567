import FrontendAtlas.Declaration.Endpoint
import FrontendAtlas.Source.Bracket
import FrontendAtlas.Source.Comment

namespace FrontendAtlas.Declaration

open FrontendAtlas.Text FrontendAtlas.Source

def requestWindow : Nat := 500

def exportedAsyncFunction? (text : List Char) : Option (List Char × List Char) := do
  let text ← keyword? "export" text
  let text ← keyword? "async" text
  let text ← keyword? "function" text
  let (name, text) ← ident? text
  return (name, ← parametersOpen? text)

def exportedAsyncArrow? (text : List Char) : Option (List Char × List Char) := do
  let text ← keyword? "export" text
  let text ← keyword? "const" text
  let (name, text) ← ident? text
  let text ← assigned? (· == '=') text
  let text ← word? "async" (trimStart text)
  return (name, ← char? '(' (trimStart text))

def asyncFunction : Pattern (List Char) :=
  atLineStart exportedAsyncFunction?

def asyncArrow : Pattern (List Char) :=
  atLineStart exportedAsyncArrow?

/-- From the inside of a parameter list: the type that the function promises, and the stretch of its
body that is looked at.  A body in braces without an end reaches to the end of the text. -/
def promiseAndBody? (text : List Char) : Option (List Char × List Char) := do
  let (_, text) ← Delimiters.parens.body? ('(' :: text)
  let text ← char? ':' (trimStart text)
  let text ← word? "Promise" (trimStart text)
  let (promised, text) ← Delimiters.angles.body? (trimStart text)
  let text := trimStart text
  let text := ((word? "=>" text).map trimStart).getD text
  let body := if text.head? = some '{' then Delimiters.braces.contents text else text
  return (trim promised, body.take requestWindow)

/-- The API functions of a module: declared functions before arrow functions, and of those with the
same name the first one that promises something. -/
def apiFunctions (source : List Char) (path : String) : Dict ApiFunction :=
  let text := stripComments source
  Dict.ofListFirst <| (hits asyncFunction text ++ hits asyncArrow text).filterMap fun hit => do
    let (promised, body) ← promiseAndBody? hit.rest
    let name := String.ofList hit.value
    let endpoint := endpoint? body
    return (name, ⟨name, path, endpoint.map (·.route), endpoint.map (·.method), String.ofList promised⟩)

end FrontendAtlas.Declaration
