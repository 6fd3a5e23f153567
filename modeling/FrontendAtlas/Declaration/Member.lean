import FrontendAtlas.Dict
import FrontendAtlas.Source.Comment
import FrontendAtlas.Source.Pattern

namespace FrontendAtlas.Declaration

open FrontendAtlas.Text FrontendAtlas.Source

structure PieceState where
  /-- Counted without bound: a counter of 32 bits agrees with it in a text of fewer than `2 ^ 31` brackets. -/
  depth : Int := 0
  previous : Char := '\x00'
  quote : Option Char := none

namespace PieceState

/-- How much deeper in brackets a character leads; the `>` of an arrow closes nothing. -/
def depthStep (previous c : Char) : Int :=
  if c = '{' ∨ c = '(' ∨ c = '[' ∨ c = '<' then 1
  else if c = '}' ∨ c = ')' ∨ c = ']' ∨ (c = '>' ∧ previous ≠ '=') then -1
  else 0

def ends (state : PieceState) (c : Char) : Bool :=
  state.quote.isNone && (c == ';' || c == ',' || c == '\n') && state.depth ≤ 0

def next (state : PieceState) (c : Char) : PieceState :=
  match state.quote with
  | some quote =>
    { state with quote := if c = quote ∧ state.previous ≠ '\\' then none else some quote, previous := c }
  | none =>
    { quote := if isQuote c then some c else none
      depth := state.depth + depthStep state.previous c
      previous := c }

end PieceState

def piecesFrom (state : PieceState) : List Char → List (List Char)
  | [] => [[]]
  | c :: rest =>
    if state.ends c then [] :: piecesFrom (state.next c) rest
    else match piecesFrom (state.next c) rest with
      | piece :: more => (c :: piece) :: more
      | [] => [[c]]

def opensMidway (piece : List Char) : Bool :=
  ["|", "&", "=>"].any fun sign => startsWith sign.toList piece

def endsMidway (member : List Char) : Bool :=
  ["|", "&", ":", "=>"].any fun sign => endsWith sign.toList member

def joinPieces : (done : List (List Char)) → List (List Char) → List (List Char)
  | done, [] => done.reverse
  | done, piece :: rest =>
    let piece := trim piece
    if piece.isEmpty then joinPieces done rest
    else match done with
      | last :: before =>
        if opensMidway piece || endsMidway last then joinPieces ((last ++ ' ' :: piece) :: before) rest
        else joinPieces (piece :: done) rest
      | [] => joinPieces [piece] rest

def members (body : List Char) : List (List Char) :=
  joinPieces [] (piecesFrom {} body)

def propertyName? (text : List Char) : Option (List Char × List Char) :=
  match text with
  | c :: rest =>
    if c = '\x27' ∨ c = '\x22' then
      match rest.dropWhile (· ≠ c) with
      | _ :: after =>
        let isEdge (d : Char) : Bool := d == '\x27' || d == '\x22'
        let name := (rest.takeWhile (· ≠ c)).dropWhile isEdge
        some ((name.reverse.dropWhile isEdge).reverse, after)
      | [] => none
    else ident? text
  | [] => none

def typedName? (text : List Char) : Option (List Char × List Char) := do
  let (name, rest) ← propertyName? text
  let rest := trimStart rest
  let rest := trimStart ((char? '?' rest).getD rest)
  let type := trim (← char? ':' rest)
  if type.isEmpty then none else return (name, type)

def property? (member : List Char) : Option (List Char × List Char) :=
  ((keyword? "readonly" member).bind typedName?) <|> typedName? member

def properties (body : List Char) : Dict String :=
  Dict.ofListFirst <| (members (stripComments body)).filterMap fun member =>
    (property? member).map fun (name, type) => (String.ofList name, String.ofList type)

end FrontendAtlas.Declaration
