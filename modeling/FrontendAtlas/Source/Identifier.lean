import FrontendAtlas.Source.Bracket
import FrontendAtlas.Text.Blank
import FrontendAtlas.Text.Search
import FrontendAtlas.Text.Word

namespace FrontendAtlas.Source

structure Occurrence where
  before : Option Char
  after : List Char

/-- The places where a nonempty word stands in a text, from left to right and without overlap; the
first `skip` characters lie in a place already taken. -/
def occurrencesFrom (word : List Char) : (skip : Nat) → (before : Option Char) → List Char → List Occurrence
  | _, _, [] => []
  | skip + 1, _, c :: rest => occurrencesFrom word skip (some c) rest
  | 0, before, c :: rest =>
    match Text.after? word (c :: rest) with
    | some after => ⟨before, after⟩ :: occurrencesFrom word (word.length - 1) (some c) rest
    | none => occurrencesFrom word 0 (some c) rest

def occurrences (word text : List Char) : List Occurrence :=
  if word.isEmpty then [] else occurrencesFrom word 0 none text

namespace Occurrence

def isWhole (place : Occurrence) : Bool :=
  !place.before.any Text.isIdentChar && !place.after.head?.any Text.isIdentChar

def isApplied (place : Occurrence) : Bool :=
  let next := Text.trimStart place.after
  let arguments : Option (List Char) := match next with
    | '<' :: _ => (Delimiters.angles.body? next).map fun found => Text.trimStart found.2
    | _ => some next
  arguments.any fun rest => rest.head? == some '('

end Occurrence

def mentions (text name : List Char) : Bool :=
  (occurrences name text).any Occurrence.isWhole

def calls (text name : List Char) : Bool :=
  (occurrences name text).any fun place =>
    place.isWhole && place.before != some '.' && place.isApplied

end FrontendAtlas.Source
