namespace FrontendAtlas.Toml

inductive Token where
  | space (text : String)
  | newline
  | comment
  | equals
  | period
  | comma
  | colon
  | plus
  | openBrace
  | closeBrace
  | openBracket
  | closeBracket
  | bare (text : String)
  | quoted (text : String) (multiline : Bool)
  deriving DecidableEq

inductive LexState where
  | between
  | space (text : List Char)
  | comment
  | bare (text : List Char)
  | opened (quote : Char)
  | openedTwice (quote : Char)
  | string (quote : Char) (multiline fresh : Bool) (text : List Char)
  | closing (quote : Char) (count : Nat) (text : List Char)
  | escape (multiline : Bool) (text : List Char)
  | unit (multiline : Bool) (text : List Char) (left value : Nat)
  | lineEnd (passed : Bool) (text : List Char)

namespace LexState

def isBareChar (c : Char) : Bool :=
  c.isAlphanum || c == '-' || c == '_'

def isVisible (c : Char) : Bool :=
  c == '\t' || 0x20 ≤ c.toNat

def bareToken (text : List Char) : Token :=
  .bare (String.ofList text.reverse)

def stringToken (multiline : Bool) (text : List Char) : Token :=
  .quoted (String.ofList text.reverse) multiline

def start? (c : Char) : Option (LexState × List Token) :=
  if isBareChar c then some (.bare [c], [])
  else match c with
    | '\n' => some (.between, [.newline])
    | ' ' | '\t' => some (.space [c], [])
    | '#' => some (.comment, [])
    | '=' => some (.between, [.equals])
    | '.' => some (.between, [.period])
    | ',' => some (.between, [.comma])
    | ':' => some (.between, [.colon])
    | '+' => some (.between, [.plus])
    | '{' => some (.between, [.openBrace])
    | '}' => some (.between, [.closeBrace])
    | '[' => some (.between, [.openBracket])
    | ']' => some (.between, [.closeBracket])
    | '\x27' | '\x22' => some (.opened c, [])
    | _ => none

def startAfter? (token : Token) (c : Char) : Option (LexState × List Token) :=
  (start? c).map fun (state, tokens) => (state, token :: tokens)

def stringChar? (quote : Char) (multiline fresh : Bool) (text : List Char) (c : Char) :
    Option (LexState × List Token) :=
  if c = '\n' then
    if multiline then some (.string quote true false (if fresh then text else c :: text), []) else none
  else if c = quote then
    if multiline then some (.closing quote 1 text, []) else some (.between, [stringToken false text])
  else if c = '\\' ∧ quote = '\x22' then some (.escape multiline text, [])
  else if isVisible c ∧ c ≠ '\x7f' then some (.string quote multiline false (c :: text), [])
  else none

def unescape? (multiline : Bool) (text : List Char) (c : Char) : Option LexState :=
  let plain (c : Char) : Option LexState := some (.string '\x22' multiline false (c :: text))
  match c with
  | '\x22' | '\\' => plain c
  | 'b' => plain '\x08'
  | 'f' => plain '\x0c'
  | 'n' => plain '\n'
  | 'r' => plain '\r'
  | 't' => plain '\t'
  | 'u' => some (.unit multiline text 3 0)
  | 'U' => some (.unit multiline text 7 0)
  | ' ' | '\t' => if multiline then some (.lineEnd false text) else none
  | '\n' => if multiline then some (.lineEnd true text) else none
  | _ => none

def hexValue? (c : Char) : Option Nat :=
  if c.isDigit then some (c.toNat - '0'.toNat)
  else if 'a' ≤ c ∧ c ≤ 'f' then some (c.toNat - 'a'.toNat + 10)
  else if 'A' ≤ c ∧ c ≤ 'F' then some (c.toNat - 'A'.toNat + 10)
  else none

def char? (value : Nat) : Option Char :=
  if value.isValidChar then some (Char.ofNat value) else none

def step? : LexState → Char → Option (LexState × List Token)
  | .between, c => start? c
  | .space text, c =>
    if c = ' ' ∨ c = '\t' then some (.space (c :: text), [])
    else startAfter? (.space (String.ofList text.reverse)) c
  | .comment, c => if isVisible c then some (.comment, []) else startAfter? .comment c
  | .bare text, c => if isBareChar c then some (.bare (c :: text), []) else startAfter? (bareToken text) c
  | .opened quote, c => if c = quote then some (.openedTwice quote, []) else stringChar? quote false false [] c
  | .openedTwice quote, c =>
    if c = quote then some (.string quote true true [], []) else startAfter? (stringToken false []) c
  | .string quote multiline fresh text, c => stringChar? quote multiline fresh text c
  | .closing quote count text, c =>
    if c = quote then
      if count = 4 then some (.between, [stringToken true (quote :: quote :: text)])
      else some (.closing quote (count + 1) text, [])
    else if 3 ≤ count then startAfter? (stringToken true (List.replicate (count - 3) quote ++ text)) c
    else stringChar? quote true false (List.replicate count quote ++ text) c
  | .escape multiline text, c => (unescape? multiline text c).map (·, [])
  | .unit multiline text left value, c => do
    let value := value * 16 + (← hexValue? c)
    match left with
    | 0 => return (.string '\x22' multiline false ((← char? value) :: text), [])
    | left + 1 => return (.unit multiline text left value, [])
  | .lineEnd passed text, c =>
    if c = ' ' ∨ c = '\t' then some (.lineEnd passed text, [])
    else if c = '\n' then some (.lineEnd true text, [])
    else if passed then stringChar? '\x22' true false text c
    else none

def finish? : LexState → Option (List Token)
  | .between => some []
  | .space text => some [.space (String.ofList text.reverse)]
  | .comment => some [.comment]
  | .bare text => some [bareToken text]
  | .openedTwice _ => some [stringToken false []]
  | .closing quote count text =>
    if 3 ≤ count then some [stringToken true (List.replicate (count - 3) quote ++ text)] else none
  | _ => none

end LexState

def tokensFrom? : LexState → List Char → Option (List Token)
  | state, [] => state.finish?
  | state, c :: rest => do
    let (next, tokens) ← state.step? c
    return tokens ++ (← tokensFrom? next rest)

def foldLineEnds : List Char → List Char
  | '\r' :: '\n' :: rest => '\n' :: foldLineEnds rest
  | c :: rest => c :: foldLineEnds rest
  | [] => []

def tokens? (text : List Char) : Option (List Token) :=
  let text := match text with
    | c :: rest => if c = '\ufeff' then rest else text
    | [] => []
  tokensFrom? .between (foldLineEnds text)

end FrontendAtlas.Toml
