import FrontendAtlas.Text.Utf8

/-! Balanced delimiters.  Only the two delimiters at hand are counted: quotes and comments are not
looked at.  When angle brackets are counted, the `>` of an arrow `=>` closes nothing. -/

namespace FrontendAtlas.Source

structure Delimiters where
  opener : Char
  closer : Char
  deriving DecidableEq

namespace Delimiters

def braces : Delimiters := ⟨'{', '}'⟩
def parens : Delimiters := ⟨'(', ')'⟩
def brackets : Delimiters := ⟨'[', ']'⟩
def angles : Delimiters := ⟨'<', '>'⟩

def closesAfter (d : Delimiters) (previous : Char) : Bool :=
  !(d.closer == '>' && previous == '=')

/-- Splits text, `depth + 1` delimiters deep and following `previous`, at the closer that brings the
depth to nothing. -/
def split? (d : Delimiters) : (previous : Char) → (depth : Nat) → List Char → Option (List Char × List Char)
  | _, _, [] => none
  | previous, depth, c :: rest =>
    if c = d.opener then (split? d c (depth + 1) rest).map fun (inner, after) => (c :: inner, after)
    else if c = d.closer ∧ d.closesAfter previous then
      match depth with
      | 0 => some ([], rest)
      | depth + 1 => (split? d c depth rest).map fun (inner, after) => (c :: inner, after)
    else (split? d c depth rest).map fun (inner, after) => (c :: inner, after)

def body? (d : Delimiters) : List Char → Option (List Char × List Char)
  | [] => none
  | c :: rest => if c = d.opener then d.split? c 0 rest else none

def contents (d : Delimiters) (text : List Char) : List Char :=
  (d.body? text).elim (text.drop 1) fun found => found.1

def close? (d : Delimiters) (text : List Char) (offset : Nat) : Option Nat := do
  let (inner, _) ← d.body? (← Text.fromByte? offset text)
  return offset + 1 + Text.byteLength inner

def bodyAt? (d : Delimiters) (text : List Char) (offset : Nat) : Option (List Char) := do
  let (inner, _) ← d.body? (← Text.fromByte? offset text)
  return inner

def window (d : Delimiters) (text : List Char) (offset limit : Nat) : List Char :=
  ((d.bodyAt? text offset).getD ((Text.fromByte? (offset + 1) text).getD [])).take limit

end Delimiters

end FrontendAtlas.Source
