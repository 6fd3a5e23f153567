import FrontendAtlas.Dict
import FrontendAtlas.Json.Number

namespace FrontendAtlas.Json

inductive Value where
  | null
  | bool (value : Bool)
  | number (value : Number)
  | string (value : String)
  | array (items : List Value)
  | object (fields : List (String × Value))

instance : Inhabited Value := ⟨.null⟩

def hexDigit (n : Nat) : Char :=
  if n < 10 then Char.ofNat ('0'.toNat + n) else Char.ofNat ('a'.toNat + (n - 10))

def escapeChar (c : Char) : List Char :=
  match c with
  | '\x22' => ['\\', '\x22']
  | '\\' => ['\\', '\\']
  | '\x08' => ['\\', 'b']
  | '\t' => ['\\', 't']
  | '\n' => ['\\', 'n']
  | '\x0c' => ['\\', 'f']
  | '\r' => ['\\', 'r']
  | c =>
    if c.toNat < 0x20 then ['\\', 'u', '0', '0', hexDigit (c.toNat / 16), hexDigit (c.toNat % 16)]
    else [c]

def quote (text : String) : List Char :=
  '\x22' :: text.toList.flatMap escapeChar ++ ['\x22']

def boolText (value : Bool) : List Char :=
  if value then ['t', 'r', 'u', 'e'] else ['f', 'a', 'l', 's', 'e']

namespace Value

def dict (entries : Dict Value) : Value :=
  .object entries.entries

def names (names : List String) : Value :=
  .array (names.map .string)

def ofText? (text : Option String) : Value :=
  text.elim .null .string

def field? (name : String) : Value → Option Value
  | .object fields => fields.lookup name
  | _ => none

mutual

def compact : Value → List Char
  | .null => ['n', 'u', 'l', 'l']
  | .bool value => boolText value
  | .number value => value.text
  | .string value => quote value
  | .array items => '[' :: compactItems items ++ [']']
  | .object fields => '{' :: compactFields fields ++ ['}']

def compactItems : List Value → List Char
  | [] => []
  | [item] => item.compact
  | item :: rest => item.compact ++ ',' :: compactItems rest

def compactFields : List (String × Value) → List Char
  | [] => []
  | [(name, value)] => quote name ++ ':' :: value.compact
  | (name, value) :: rest => quote name ++ ':' :: value.compact ++ ',' :: compactFields rest

end

def indent (depth : Nat) : List Char :=
  '\n' :: List.replicate (2 * depth) ' '

mutual

def prettyAt (depth : Nat) : Value → List Char
  | .null => ['n', 'u', 'l', 'l']
  | .bool value => boolText value
  | .number value => value.text
  | .string value => quote value
  | .array [] => ['[', ']']
  | .array (item :: rest) =>
    '[' :: indent (depth + 1) ++ item.prettyAt (depth + 1) ++ prettyItems depth rest
  | .object [] => ['{', '}']
  | .object ((name, value) :: rest) =>
    '{' :: indent (depth + 1) ++ quote name ++ ':' :: ' ' :: value.prettyAt (depth + 1) ++
      prettyFields depth rest

def prettyItems (depth : Nat) : List Value → List Char
  | [] => indent depth ++ [']']
  | item :: rest => ',' :: indent (depth + 1) ++ item.prettyAt (depth + 1) ++ prettyItems depth rest

def prettyFields (depth : Nat) : List (String × Value) → List Char
  | [] => indent depth ++ ['}']
  | (name, value) :: rest =>
    ',' :: indent (depth + 1) ++ quote name ++ ':' :: ' ' :: value.prettyAt (depth + 1) ++
      prettyFields depth rest

end

def pretty (value : Value) : List Char :=
  value.prettyAt 0

end Value

end FrontendAtlas.Json
