import FrontendAtlas.Json.Draft
import FrontendAtlas.Toml.Token

namespace FrontendAtlas.Toml

inductive Value where
  | string (text : String)
  | integer (value : Int)
  | float (value : Float)
  | bool (value : Bool)
  | moment
  | array (items : List Value)
  | inline (fields : List (String × Value))
  | dotted (fields : List (String × Value))

/-- Digits with single underscores between them, and the text after them.  A leading zero stands alone
unless `zeros` are allowed.  `first` and `gap` tell whether no digit, or an underscore, came last. -/
def digitsFrom? (isDigit : Char → Bool) (zeros : Bool) : (first zero gap : Bool) → List Char →
    Option (List Char × List Char)
  | first, _, gap, [] => if first || gap then none else some ([], [])
  | first, zero, gap, c :: rest =>
    if c = '0' ∧ first then (digitsFrom? isDigit zeros false true gap rest).map fun (d, r) => (c :: d, r)
    else if isDigit c then
      if !first && zero && !zeros then none
      else (digitsFrom? isDigit zeros false zero false rest).map fun (d, r) => (c :: d, r)
    else if c = '_' ∧ first then none
    else if c = '_' ∧ ¬gap then digitsFrom? isDigit zeros false zero true rest
    else if first || gap then none
    else some ([], c :: rest)

def signedDigits? (zeros : Bool) : List Char → Option (Bool × List Char × List Char)
  | '-' :: rest => (digitsFrom? Char.isDigit zeros true false false rest).map (true, ·)
  | '+' :: rest => (digitsFrom? Char.isDigit zeros true false false rest).map (false, ·)
  | text => (digitsFrom? Char.isDigit zeros true false false text).map (false, ·)

def digitsNat (base : Nat) (digits : List Char) : Nat :=
  digits.foldl (fun n c => n * base + (LexState.hexValue? c).getD 0) 0

def integer? (negative : Bool) (value : Nat) : Option Value :=
  if negative then (if value ≤ Nat.pow 2 63 then some (.integer (-value)) else none)
  else if value < Nat.pow 2 63 then some (.integer value)
  else none

def basedInteger? (base : Nat) (text : List Char) : Option Value := do
  let isDigit (c : Char) : Bool := (LexState.hexValue? c).any (· < base)
  match ← digitsFrom? isDigit true true false false text with
  | (digits, []) => integer? false (digitsNat base digits)
  | _ => none

def float? (negative : Bool) (whole fraction : List Char) (exponent : Int) : Option Value :=
  let digits := digitsNat 10 (whole ++ fraction)
  let power := exponent - fraction.length
  -- Beyond these bounds a number is zero or not finite whatever its digits are.
  let magnitude :=
    if digits = 0 ∨ power + (whole ++ fraction).length < -400 then 0.0
    else if 400 < power then 1.0 / 0.0
    else Float.ofScientific digits (power < 0) power.natAbs
  if magnitude.isFinite then some (.float (if negative then -magnitude else magnitude)) else none

def exponent? (text : List Char) (tokens : List Token) : Option (Int × List Token) :=
  let signed (negative : Bool) (digits : List Char) : Int :=
    if negative then -(digitsNat 10 digits) else digitsNat 10 digits
  match text with
  | [] => some (0, tokens)
  | c :: rest =>
    if c ≠ 'e' ∧ c ≠ 'E' then none
    else if rest.isEmpty then
      let tokens := match tokens with
        | .plus :: rest => rest
        | tokens => tokens
      match tokens with
      | .bare text :: tokens =>
        match digitsFrom? Char.isDigit true true false false text.toList with
        | some (digits, []) => some (signed false digits, tokens)
        | _ => none
      | _ => none
    else match signedDigits? true rest with
      | some (negative, digits, []) => some (signed negative digits, tokens)
      | _ => none

def number? (text : List Char) (tokens : List Token) : Option (Value × List Token) :=
  match text with
  | '0' :: 'x' :: digits => (basedInteger? 16 digits).map (·, tokens)
  | '0' :: 'o' :: digits => (basedInteger? 8 digits).map (·, tokens)
  | '0' :: 'b' :: digits => (basedInteger? 2 digits).map (·, tokens)
  | text => do
    if text.contains 'e' || text.contains 'E' then
      let (negative, whole, rest) ← signedDigits? false text
      let (exponent, tokens) ← exponent? rest tokens
      return (← float? negative whole [] exponent, tokens)
    match tokens with
    | .period :: .bare after :: tokens =>
      let (negative, whole, rest) ← signedDigits? false text
      guard rest.isEmpty
      let (fraction, rest) ← digitsFrom? Char.isDigit true true false false after.toList
      let (exponent, tokens) ← exponent? rest tokens
      return (← float? negative whole fraction exponent, tokens)
    | .period :: _ => none
    | tokens =>
      match String.ofList text with
      | "inf" => return (.float (1.0 / 0.0), tokens)
      | "-inf" => return (.float (-1.0 / 0.0), tokens)
      | "nan" | "-nan" => return (.float (0.0 / 0.0), tokens)
      | _ =>
        let (negative, digits, rest) ← signedDigits? false text
        guard rest.isEmpty
        return (← integer? negative (digitsNat 10 digits), tokens)

def afterBare? : List Token → Option (List Token)
  | .bare _ :: rest => some rest
  | _ => none

def afterPart? (mark : Token) : List Token → Option (List Token)
  | token :: rest => if token = mark then afterBare? rest else some (token :: rest)
  | [] => some []

def afterTime? (tokens : List Token) : Option (List Token) := do
  match ← afterBare? tokens with
  | .colon :: rest =>
    let rest ← afterBare? rest
    let rest ← afterPart? .period rest
    let rest ← afterPart? .plus rest
    afterPart? .colon rest
  | _ => none

def moment? (tokens : List Token) : Option (Value × List Token) := do
  let tokens := match tokens with
    | .space " " :: .bare _ :: rest => rest
    | tokens => tokens
  match tokens with
  | .colon :: rest => return (.moment, ← afterTime? rest)
  | tokens => return (.moment, tokens)

def isDate (text : List Char) : Bool :=
  let hasExponent (mark : Char) : Bool := (text.zip text.tail).contains (mark, '-')
  text.contains 'T' || text.contains 't' ||
    (text.tail.contains '-' && !hasExponent 'e' && !hasExponent 'E')

def bareValue? (text : String) (tokens : List Token) : Option (Value × List Token) :=
  match text with
  | "true" => some (.bool true, tokens)
  | "false" => some (.bool false, tokens)
  | text =>
    let chars := text.toList
    if text ≠ "inf" ∧ text ≠ "nan" ∧ ¬ chars.head?.any (fun c => c == '-' || c.isDigit) then none
    else if isDate chars then moment? tokens
    else match tokens with
      | .colon :: rest => (afterTime? rest).map (.moment, ·)
      | tokens => number? chars tokens

def skipSpace : List Token → List Token
  | .space _ :: rest => rest
  | tokens => tokens

def skipBlank : List Token → List Token
  | .space _ :: rest => skipBlank rest
  | .newline :: rest => skipBlank rest
  | .comment :: rest => skipBlank rest
  | tokens => tokens

def keyPart? : List Token → Option (String × List Token)
  | .bare text :: rest => some (text, rest)
  | .quoted text false :: rest => some (text, rest)
  | _ => none

def moreKeyParts? : Nat → List Token → Option (List String × List Token)
  | 0, tokens => some ([], tokens)
  | steps + 1, tokens =>
    match skipSpace tokens with
    | .period :: rest => do
      let (part, rest) ← keyPart? (skipSpace rest)
      let (parts, rest) ← moreKeyParts? steps rest
      return (part :: parts, rest)
    | rest => some ([], rest)

def key? (tokens : List Token) : Option (String × List String × List Token) := do
  let (first, rest) ← keyPart? tokens
  let (parts, rest) ← moreKeyParts? rest.length rest
  return (first, parts, rest)

/-- Adds a value under a dotted key.  The parts before the last one are tables made by such keys. -/
def addField? (first : String) (parts : List String) (value : Value) (fields : List (String × Value)) :
    Option (List (String × Value)) :=
  match parts with
  | [] => some (fields ++ [(first, value)])
  | next :: parts => go next parts fields
where
  go (next : String) (parts : List String) : List (String × Value) → Option (List (String × Value))
    | [] => (addField? next parts value []).map fun inner => [(first, .dotted inner)]
    | (name, held) :: rest =>
      if name = first then
        match held with
        | .dotted inner => (addField? next parts value inner).map fun inner => (name, .dotted inner) :: rest
        | _ => none
      else (go next parts rest).map ((name, held) :: ·)

mutual

def value? : (steps : Nat) → List Token → Option (Value × List Token)
  | 0, _ => none
  | steps + 1, tokens =>
    match tokens with
    | .quoted text _ :: rest => some (.string text, rest)
    | .bare text :: rest => bareValue? text rest
    | .plus :: .bare text :: rest => number? text.toList rest
    | .openBrace :: rest =>
      match skipSpace rest with
      | .closeBrace :: rest => some (.inline [], rest)
      | rest => (inlineFields? steps [] rest).map fun (fields, rest) => (.inline fields, rest)
    | .openBracket :: rest => (items? steps rest).map fun (items, rest) => (.array items, rest)
    | _ => none

def items? : (steps : Nat) → List Token → Option (List Value × List Token)
  | 0, _ => none
  | steps + 1, tokens =>
    match skipBlank tokens with
    | .closeBracket :: rest => some ([], rest)
    | tokens => do
      let (item, rest) ← value? steps tokens
      match skipBlank rest with
      | .comma :: rest =>
        let (items, rest) ← items? steps rest
        return (item :: items, rest)
      | .closeBracket :: rest => return ([item], rest)
      | _ => none

def inlineFields? : (steps : Nat) → List (String × Value) → List Token →
    Option (List (String × Value) × List Token)
  | 0, _, _ => none
  | steps + 1, fields, tokens => do
    let (first, parts, rest) ← key? tokens
    match skipSpace rest with
    | .equals :: rest =>
      let (value, rest) ← value? steps (skipSpace rest)
      let fields ← addField? first parts value fields
      match skipSpace rest with
      | .closeBrace :: rest => return (fields, rest)
      | .comma :: rest => inlineFields? steps fields (skipSpace rest)
      | _ => none
    | _ => none

end

mutual

def Value.draft : Value → Json.Draft
  | .string text => .string (some text)
  | .integer value => .number (some (.integer value))
  | .float value => .number (some (.real value.toBits))
  | .bool value => .bool value
  | .moment => .object [(some "", .null)]
  | .array items => .array (drafts items)
  | .inline fields => .object (fieldDrafts fields)
  | .dotted fields => .object (fieldDrafts fields)

def drafts : List Value → List Json.Draft
  | [] => []
  | item :: rest => item.draft :: drafts rest

def fieldDrafts : List (String × Value) → List (Option String × Json.Draft)
  | [] => []
  | (name, value) :: rest => (some name, value.draft) :: fieldDrafts rest

end

end FrontendAtlas.Toml
