import FrontendAtlas.Declaration.Member
import FrontendAtlas.Graph.Node
import FrontendAtlas.Source.Bracket
import FrontendAtlas.Source.TypeSection

namespace FrontendAtlas.Declaration

open FrontendAtlas.Text FrontendAtlas.Source

def typeKind? (text : List Char) : Option (TypeKind × List Char) :=
  ((keyword? "interface" text).map (TypeKind.interface, ·)) <|>
    ((keyword? "type" text).map (TypeKind.synonym, ·)) <|>
    ((keyword? "enum" (skipKeyword "const" text)).map (TypeKind.enum, ·))

def exportedType? (text : List Char) : Option ((TypeKind × List Char) × List Char) := do
  let text ← keyword? "export" text
  let (kind, text) ← typeKind? (skipKeyword "declare" text)
  let (name, text) ← ident? text
  return ((kind, name), text)

def typeHead : Pattern (TypeKind × List Char) :=
  atLineStart exportedType?

def interfaceProperties (text : List Char) : Dict String :=
  match (afterTypes? false text).bind Delimiters.braces.body? with
  | some (body, _) => properties body
  | none => ∅

def types (source : List Char) (path : String) : Dict TypeDeclaration :=
  Dict.ofListFirst <| (hits typeHead (stripComments source)).map fun hit =>
    let (kind, name) := hit.value
    let name := String.ofList name
    let properties := if kind = .interface then interfaceProperties hit.rest else ∅
    (name, ⟨name, kind, properties, path⟩)

end FrontendAtlas.Declaration
