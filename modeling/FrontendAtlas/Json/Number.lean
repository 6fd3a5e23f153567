import FrontendAtlas.Json.Decimal

namespace FrontendAtlas.Json

inductive Number where
  | integer (value : Int)
  | real (bits : UInt64)
  deriving DecidableEq

def Number.text : Number → List Char
  | .integer value => (toString value).toList
  | .real bits => realText bits

structure Numeral where
  negative : Bool
  whole : List Char
  fraction : Option (List Char)
  exponent : Option (Bool × List Char)

namespace Numeral

def ofText (text : List Char) : Numeral :=
  let (negative, text) := match text with
    | '-' :: rest => (true, rest)
    | _ => (false, text)
  let whole := text.takeWhile Char.isDigit
  let text := text.dropWhile Char.isDigit
  let (fraction, text) := match text with
    | '.' :: rest => (some (rest.takeWhile Char.isDigit), rest.dropWhile Char.isDigit)
    | _ => (none, text)
  let exponent := match text with
    | _ :: '-' :: digits => some (true, digits)
    | _ :: '+' :: digits => some (false, digits)
    | _ :: digits => some (false, digits)
    | [] => none
  ⟨negative, whole, fraction, exponent⟩

def append (significand : Nat) : List Char → Nat × Nat
  | [] => (significand, 0)
  | c :: rest =>
    let next := significand * 10 + (c.toNat - '0'.toNat)
    if next < Nat.pow 2 64 then
      let (final, taken) := append next rest
      (final, taken + 1)
    else (significand, 0)

def digitsValue (digits : List Char) : Nat :=
  digits.foldl (fun n c => n * 10 + (c.toNat - '0'.toNat)) 0

def powerOfTen (n : Nat) : Float :=
  Float.ofScientific 1 false n

/-- `significand * 10 ^ exponent` as a double, by one or two rounded operations; none if too large.
Two divisions by the largest power leave nothing of a 64-bit significand. -/
def magnitude? (significand : Nat) (exponent : Int) : Option Float :=
  let start := significand.toUInt64.toFloat
  if 0 ≤ exponent then
    if exponent ≤ 308 then
      let scaled := start * powerOfTen exponent.toNat
      if scaled.isInf then none else some scaled
    else if significand = 0 then some 0.0
    else none
  else if -308 ≤ exponent then some (start / powerOfTen (-exponent).toNat)
  else if -616 ≤ exponent then some (start / powerOfTen 308 / powerOfTen (-exponent - 308).toNat)
  else some 0.0

def shift (start : Int) (negative : Bool) (digits : List Char) : Int :=
  let value : Int := digitsValue digits
  if negative then max (start - value) (-0x80000000) else min (start + value) 0x7fffffff

def number? (numeral : Numeral) : Option Number :=
  let (significand, taken) := append 0 numeral.whole
  let dropped := numeral.whole.length - taken
  let double (magnitude : Float) : Number :=
    .real (if numeral.negative then -magnitude else magnitude).toBits
  match numeral.fraction, numeral.exponent with
  | none, none =>
    if dropped = 0 then
      if !numeral.negative then some (.integer significand)
      else if 0 < significand ∧ significand ≤ Nat.pow 2 63 then some (.integer (-significand))
      else some (double significand.toUInt64.toFloat)
    else (magnitude? significand dropped).map double
  | fraction, exponent =>
    let (significand, places) := append significand (fraction.getD [])
    let start : Int := dropped - places
    match exponent with
    | none => (magnitude? significand start).map double
    | some (negative, digits) =>
      if digitsValue digits < Nat.pow 2 31 then
        (magnitude? significand (shift start negative digits)).map double
      else if significand = 0 ∨ negative then some (double 0.0)
      else none

end Numeral

end FrontendAtlas.Json
