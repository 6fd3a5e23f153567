import FrontendAtlas.Json.Number

namespace FrontendAtlas.Json

inductive Token where
  | openArray
  | closeArray
  | openObject
  | closeObject
  | comma
  | colon
  | null
  | bool (value : Bool)
  | number (value : Option Number)
  | string (value : Option String)
  | fault

structure Quoted where
  body : List Char := []
  leading : Option Nat := none
  sound : Bool := true

namespace Quoted

def push (quoted : Quoted) (c : Char) : Quoted :=
  { body := c :: quoted.body, sound := quoted.sound && quoted.leading.isNone }

def pushUnit (quoted : Quoted) (unit : Nat) : Quoted :=
  let isLeading := 0xD800 ≤ unit && unit < 0xDC00
  let isTrailing := 0xDC00 ≤ unit && unit < 0xE000
  match quoted.leading with
  | some leading =>
    if isTrailing then
      { quoted with
        body := Char.ofNat (0x10000 + (leading - 0xD800) * 0x400 + (unit - 0xDC00)) :: quoted.body
        leading := none }
    else { quoted with leading := none, sound := false }
  | none =>
    if isLeading then { quoted with leading := some unit }
    else if isTrailing then { quoted with sound := false }
    else quoted.push (Char.ofNat unit)

def value? (quoted : Quoted) : Option String :=
  if quoted.sound && quoted.leading.isNone then some (String.ofList quoted.body.reverse) else none

end Quoted

inductive NumeralPhase where
  | minus
  | zero
  | whole
  | point
  | fraction
  | mark
  | sign
  | exponent

namespace NumeralPhase

def ends : NumeralPhase → Bool
  | .zero | .whole | .fraction | .exponent => true
  | _ => false

def next? (phase : NumeralPhase) (c : Char) : Option NumeralPhase :=
  let isMark := c == 'e' || c == 'E'
  match phase with
  | .minus => if c = '0' then some .zero else if c.isDigit then some .whole else none
  | .zero => if c = '.' then some .point else if isMark then some .mark else none
  | .whole => if c.isDigit then some .whole else if c = '.' then some .point else if isMark then some .mark else none
  | .point => if c.isDigit then some .fraction else none
  | .fraction => if c.isDigit then some .fraction else if isMark then some .mark else none
  | .mark => if c = '+' ∨ c = '-' then some .sign else if c.isDigit then some .exponent else none
  | .sign | .exponent => if c.isDigit then some .exponent else none

def refuses (phase : NumeralPhase) (c : Char) : Bool :=
  match phase with
  | .zero => c.isDigit
  | phase => !phase.ends

end NumeralPhase

inductive LexState where
  | between
  | word (expected : List Char) (token : Token)
  | numeral (phase : NumeralPhase) (text : List Char)
  | string (quoted : Quoted)
  | escape (quoted : Quoted)
  | unit (quoted : Quoted) (left value : Nat)
  | stopped

namespace LexState

def isSpace (c : Char) : Bool :=
  c == ' ' || c == '\n' || c == '\t' || c == '\r'

def hexValue? (c : Char) : Option Nat :=
  if c.isDigit then some (c.toNat - '0'.toNat)
  else if 'a' ≤ c ∧ c ≤ 'f' then some (c.toNat - 'a'.toNat + 10)
  else if 'A' ≤ c ∧ c ≤ 'F' then some (c.toNat - 'A'.toNat + 10)
  else none

def stop : LexState × List Token := (.stopped, [.fault])

def numberToken (text : List Char) : Token :=
  .number (Numeral.ofText text.reverse).number?

def start (c : Char) : LexState × List Token :=
  if isSpace c then (.between, [])
  else if c.isDigit then (.numeral (if c = '0' then .zero else .whole) [c], [])
  else match c with
    | '[' => (.between, [.openArray])
    | ']' => (.between, [.closeArray])
    | '{' => (.between, [.openObject])
    | '}' => (.between, [.closeObject])
    | ',' => (.between, [.comma])
    | ':' => (.between, [.colon])
    | '-' => (.numeral .minus [c], [])
    | '\x22' => (.string {}, [])
    | 'n' => (.word ['u', 'l', 'l'] .null, [])
    | 't' => (.word ['r', 'u', 'e'] (.bool true), [])
    | 'f' => (.word ['a', 'l', 's', 'e'] (.bool false), [])
    | _ => stop

def unescape (quoted : Quoted) (c : Char) : LexState × List Token :=
  match c with
  | '\x22' | '\\' | '/' => (.string (quoted.push c), [])
  | 'b' => (.string (quoted.push '\x08'), [])
  | 'f' => (.string (quoted.push '\x0c'), [])
  | 'n' => (.string (quoted.push '\n'), [])
  | 'r' => (.string (quoted.push '\r'), [])
  | 't' => (.string (quoted.push '\t'), [])
  | 'u' => (.unit quoted 3 0, [])
  | _ => stop

def step : LexState → Char → LexState × List Token
  | .between, c => start c
  | .word [last] token, c => if c = last then (.between, [token]) else stop
  | .word (first :: rest) token, c => if c = first then (.word rest token, []) else stop
  | .word [] _, _ => stop
  | .numeral phase text, c =>
    match phase.next? c with
    | some phase => (.numeral phase (c :: text), [])
    | none =>
      if phase.refuses c then stop
      else
        let (state, tokens) := start c
        (state, numberToken text :: tokens)
  | .string quoted, c =>
    if c = '\x22' then (.between, [.string quoted.value?])
    else if c = '\\' then (.escape quoted, [])
    else if c.toNat < 0x20 then stop
    else (.string (quoted.push c), [])
  | .escape quoted, c => unescape quoted c
  | .unit quoted left value, c =>
    match hexValue? c, left with
    | none, _ => stop
    | some digit, 0 => (.string (quoted.pushUnit (value * 16 + digit)), [])
    | some digit, left + 1 => (.unit quoted left (value * 16 + digit), [])
  | .stopped, _ => (.stopped, [])

def finish : LexState → List Token
  | .between | .stopped => []
  | .numeral phase text => if phase.ends then [numberToken text] else [.fault]
  | _ => [.fault]

end LexState

def tokensFrom : LexState → List Char → List Token
  | state, [] => state.finish
  | state, c :: rest => (state.step c).2 ++ tokensFrom (state.step c).1 rest

def tokens (text : List Char) : List Token :=
  tokensFrom .between text

end FrontendAtlas.Json
