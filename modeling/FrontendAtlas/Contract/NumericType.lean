import FrontendAtlas.Text.Blank
import FrontendAtlas.Text.Search

namespace FrontendAtlas.Contract

open FrontendAtlas.Text

def numericTypes : List String := [
  "int", "long", "short", "byte", "sbyte", "uint", "ulong", "ushort", "int16", "int32", "int64",
  "uint16", "uint32", "uint64", "integer", "number"]

def unwrapNullable (text : List Char) : List Char :=
  match after? "Nullable<".toList text with
  | some inner => if inner.getLast? = some '>' then trim inner.dropLast else text
  | none => text

def dropOptional (text : List Char) : List Char :=
  (text.reverse.dropWhile (· == '?')).reverse

/-- Whether a text is the name of a whole-number type in any ASCII case, possibly qualified by
`System.`, followed by question marks or wrapped as nullable. -/
def isNumericType (text : List Char) : Bool :=
  let plain := dropOptional (unwrapNullable (trim text))
  let name := (after? "System.".toList plain).getD plain
  numericTypes.contains (String.ofList (name.map Char.toLower))

end FrontendAtlas.Contract
