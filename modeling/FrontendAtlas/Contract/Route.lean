import FrontendAtlas.Text.Search

namespace FrontendAtlas.Contract

open FrontendAtlas.Text

/-- Whether `{id}` stands at the front, possibly as optional `{id?}` or with a constraint such as
`{id:int}`. -/
def opensRawId (text : List Char) : Bool :=
  match after? ['{', 'i', 'd'] text with
  | some ('}' :: _) => true
  | some ('?' :: '}' :: _) => true
  | some (':' :: rest) => rest.contains '}'
  | _ => false

def usesRawId : List Char → Bool
  | [] => false
  | c :: rest => opensRawId (c :: rest) || usesRawId rest

end FrontendAtlas.Contract
