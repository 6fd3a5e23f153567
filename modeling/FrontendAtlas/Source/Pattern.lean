import FrontendAtlas.Text.Blank
import FrontendAtlas.Text.Search
import FrontendAtlas.Text.Word

namespace FrontendAtlas.Source

open FrontendAtlas.Text

/-- A pattern sees the character before a place and the text from it on; where it fits, it yields a
value and the text after the match. -/
abbrev Pattern (α : Type) := (before : Option Char) → List Char → Option (α × List Char)

structure Hit (α : Type) where
  position : Nat
  value : α
  rest : List Char

variable {α : Type}

/-- The matches of a pattern from left to right, each after the end of the one before; the first
`skip` characters lie in a match. -/
def hitsFrom (pattern : Pattern α) : (skip position : Nat) → (before : Option Char) → List Char → List (Hit α)
  | _, _, _, [] => []
  | skip + 1, position, _, c :: rest => hitsFrom pattern skip (position + 1) (some c) rest
  | 0, position, before, c :: rest =>
    match pattern before (c :: rest) with
    | some (value, after) =>
      ⟨position, value, after⟩ :: hitsFrom pattern (rest.length - after.length) (position + 1) (some c) rest
    | none => hitsFrom pattern 0 (position + 1) (some c) rest

def hits (pattern : Pattern α) (text : List Char) : List (Hit α) :=
  hitsFrom pattern 0 0 none text

def firstHit? (pattern : Pattern α) (text : List Char) : Option α :=
  (hits pattern text).head?.map (·.value)

def fits (pattern : Pattern α) (text : List Char) : Bool :=
  !(hits pattern text).isEmpty

def atLineStart (reader : List Char → Option (α × List Char)) : Pattern α := fun before text =>
  if before.all (· == '\n') then reader (text.dropWhile fun c => c == ' ' || c == '\t') else none

def atWordStart (reader : List Char → Option (α × List Char)) : Pattern α := fun before text =>
  if before.any isWordChar then none else reader text

/-- A pattern that fits at the start of the text, or together with one character in front that is
neither part of a word nor a dollar sign nor a dot. -/
def afterBreak (reader : List Char → Option (α × List Char)) : Pattern α := fun before text =>
  (if before.isNone then reader text else none) <|>
    match text with
    | c :: rest => if isWordChar c || c == '$' || c == '.' then none else reader rest
    | [] => none

def word? (word : String) (text : List Char) : Option (List Char) :=
  after? word.toList text

def gap? : List Char → Option (List Char)
  | c :: rest => if isBlank c then some (trimStart rest) else none
  | [] => none

def keyword? (word : String) (text : List Char) : Option (List Char) :=
  (word? word text).bind gap?

def skipKeyword (word : String) (text : List Char) : List Char :=
  (keyword? word text).getD text

def char? (c : Char) : List Char → Option (List Char)
  | d :: rest => if d = c then some rest else none
  | [] => none

def isIdentStart (c : Char) : Bool :=
  c.isAlpha || c == '_' || c == '$'

def isIdentPart (c : Char) : Bool :=
  isWordChar c || c == '$'

def ident? : List Char → Option (List Char × List Char)
  | c :: rest =>
    if isIdentStart c then some (c :: rest.takeWhile isIdentPart, rest.dropWhile isIdentPart) else none
  | [] => none

def oneOf? (words : List String) (next : List Char → Option α) (text : List Char) : Option (String × α) :=
  words.findSome? fun word => do return (word, ← next (← word? word text))

/-- The text after the parenthesis of a parameter or argument list, with or without type arguments in
front of it.  The type arguments reach up to the first character that satisfies `stop`. -/
def listOpen? (stop : Char → Bool) (text : List Char) : Option (List Char) :=
  match trimStart text with
  | '<' :: rest =>
    match (trimEnd (rest.takeWhile fun c => !stop c)).getLast?, rest.dropWhile fun c => !stop c with
    | some '>', '(' :: after => some after
    | _, _ => none
  | '(' :: after => some after
  | _ => none

def parametersOpen? : List Char → Option (List Char) :=
  listOpen? (· == '(')

def argumentsOpen? : List Char → Option (List Char) :=
  listOpen? fun c => c == '(' || c == ')'

/-- The text after the equals sign of a definition, with or without a type annotation in front of it.
The annotation is not empty and reaches up to the first character that satisfies `stop`. -/
def assigned? (stop : Char → Bool) (text : List Char) : Option (List Char) :=
  match trimStart text with
  | ':' :: rest =>
    match rest.takeWhile fun c => !stop c, rest.dropWhile fun c => !stop c with
    | _ :: _, '=' :: after => some after
    | _, _ => none
  | '=' :: after => some after
  | _ => none

end FrontendAtlas.Source
