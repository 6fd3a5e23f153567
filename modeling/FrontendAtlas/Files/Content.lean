namespace FrontendAtlas

inductive Content where
  | text (value : String)
  | binary (bytes : List UInt8) (invalid : ¬ ByteArray.IsValidUTF8 ⟨bytes.toArray⟩)
  deriving DecidableEq

namespace Content

def ofBytes (bytes : List UInt8) : Content :=
  if valid : ByteArray.IsValidUTF8 ⟨bytes.toArray⟩ then .text (.fromUTF8 _ valid)
  else .binary bytes valid

def text? : Content → Option String
  | .text value => some value
  | .binary _ _ => none

def bytes : Content → List UInt8
  | .text value => value.toUTF8.data.toList
  | .binary bytes _ => bytes

/-- The lines of a sequence of bytes without their line ends, which are a newline or a carriage
return and a newline; `line` is the line so far, last byte first. -/
def byteLines : (line : List UInt8) → List UInt8 → List (List UInt8)
  | [], [] => []
  | line, [] => [line.reverse]
  | line, byte :: rest =>
    if byte = 10 then
      let line := match line with
        | 13 :: before => before
        | line => line
      line.reverse :: byteLines [] rest
    else byteLines (byte :: line) rest

/-- The lines up to the first one that is no UTF-8 text. -/
def lines (content : Content) : List String :=
  ((byteLines [] content.bytes).map fun line => String.fromUTF8? ⟨line.toArray⟩).takeWhile (·.isSome)
    |>.filterMap id

end Content

end FrontendAtlas
