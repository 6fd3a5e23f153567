import FrontendAtlas.Text.Case
import FrontendAtlas.Text.Search

namespace FrontendAtlas.Contract

open FrontendAtlas.Text

def dtoEnding : String := "Dto"

def baseName (name : String) : String :=
  if endsWith dtoEnding.toList name.toList then
    String.ofList (name.toList.take (name.length - dtoEnding.length))
  else name

/-- The counterpart of a name: the name itself, else the name without its ending, else the first
candidate that is the latter up to ASCII case. -/
def counterpart? (name : String) (candidates : List String) : Option String :=
  let base := baseName name
  (candidates.find? (· == name)) <|> (candidates.find? (· == base)) <|>
    (candidates.find? (eqIgnoringAsciiCase · base))

def camelCase (name : String) : String :=
  match name.toList with
  | c :: rest => String.ofList (lowerChar c ++ rest)
  | [] => ""

end FrontendAtlas.Contract
