namespace FrontendAtlas.Text

def byteLength : List Char → Nat
  | [] => 0
  | c :: rest => c.utf8Size + byteLength rest

inductive Place where
  | boundary (rest : List Char)
  | inside (rest : List Char)
  | beyond

def place : Nat → List Char → Place
  | 0, text => .boundary text
  | _ + 1, [] => .beyond
  | offset + 1, c :: rest =>
    if c.utf8Size ≤ offset + 1 then place (offset + 1 - c.utf8Size) rest else .inside rest

def fromByte? (offset : Nat) (text : List Char) : Option (List Char) :=
  match place offset text with
  | .boundary rest => some rest
  | _ => none

end FrontendAtlas.Text
