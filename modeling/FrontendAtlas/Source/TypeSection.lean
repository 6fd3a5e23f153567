import FrontendAtlas.Text.Blank
import FrontendAtlas.Text.Utf8
import FrontendAtlas.Source.Quote

/-! The stretch of types between a declaration's name and what follows it: generic parameters,
`extends` clauses, a return annotation.  It ends at the brace of a body or at a top-level arrow. -/

namespace FrontendAtlas.Source

inductive SectionMode where
  /-- Inside `depth` brackets; `expected` tells whether a type has to follow, so that a brace opens an
  object type and no body. -/
  | types (depth : Nat) (expected : Bool)
  | object (depth braces : Nat)
  | quoted (depth : Nat) (quote : Char)

def isTypeConnector (c : Char) : Bool :=
  c == '|' || c == '&' || c == ',' || c == ':' || c == '=' || c == '?'

def sectionEnd? : SectionMode → List Char → Option (List Char)
  | _, [] => none
  | .quoted depth quote, '\\' :: _ :: rest => sectionEnd? (.quoted depth quote) rest
  | .quoted depth quote, c :: rest =>
    sectionEnd? (if breaksLiteral quote c ∨ c = quote then .types depth false else .quoted depth quote) rest
  | .object depth braces, c :: rest =>
    if c = '{' then sectionEnd? (.object depth (braces + 1)) rest
    else if c = '}' then
      sectionEnd? (match braces with | 0 => .types depth false | braces + 1 => .object depth braces) rest
    else sectionEnd? (.object depth braces) rest
  | .types depth _, '=' :: '>' :: rest =>
    if depth = 0 then some ('=' :: '>' :: rest) else sectionEnd? (.types depth true) rest
  | .types depth expected, c :: rest =>
    if c = '(' ∨ c = '[' ∨ c = '<' then sectionEnd? (.types (depth + 1) true) rest
    else if c = ')' ∨ c = ']' ∨ c = '>' then sectionEnd? (.types (depth - 1) false) rest
    else if c = '{' then
      if depth = 0 ∧ expected = false then some (c :: rest) else sectionEnd? (.object depth 0) rest
    else if c = ';' ∧ depth = 0 then none
    else if isTypeConnector c then sectionEnd? (.types depth true) rest
    else if isQuote c then sectionEnd? (.quoted depth c) rest
    else if Text.isAsciiBlank c then sectionEnd? (.types depth expected) rest
    else sectionEnd? (.types depth false) rest

theorem sectionEnd?_deeper {depth : Nat} {rest : List Char} (braces : Nat) :
    sectionEnd? (.object depth braces) ('{' :: rest) = sectionEnd? (.object depth (braces + 1)) rest := by
  cases braces <;> simp [sectionEnd?]

theorem sectionEnd?_field {depth : Nat} {rest : List Char} {c : Char} (opens : c ≠ '{') (closes : c ≠ '}')
    (braces : Nat) : sectionEnd? (.object depth braces) (c :: rest) = sectionEnd? (.object depth braces) rest := by
  cases braces <;> simp [sectionEnd?, opens, closes]

def afterTypes? (expected : Bool) (text : List Char) : Option (List Char) :=
  sectionEnd? (.types 0 expected) text

/-- The byte offset at which the type section that starts at a byte offset ends.  A start inside a
character counts the rest of that character as part of a type. -/
def typesEnd? (text : List Char) (offset : Nat) (expected : Bool) : Option Nat :=
  let found := match Text.place offset text with
    | .boundary rest => afterTypes? expected rest
    | .inside rest => afterTypes? false rest
    | .beyond => none
  found.map fun rest => Text.byteLength text - Text.byteLength rest

end FrontendAtlas.Source
