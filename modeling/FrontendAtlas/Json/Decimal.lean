namespace FrontendAtlas.Json

structure Dyadic where
  mantissa : Nat
  exponent : Int

namespace Dyadic

def ofBits (bits : UInt64) : Dyadic :=
  let fraction : Nat := bits.toNat % Nat.pow 2 52
  let biased : Nat := bits.toNat / Nat.pow 2 52 % Nat.pow 2 11
  if biased = 0 then ⟨fraction, -1074⟩ else ⟨Nat.pow 2 52 + fraction, (biased : Int) - 1075⟩

def isPowerStep (x : Dyadic) : Bool :=
  x.mantissa == Nat.pow 2 52 && -1074 < x.exponent

end Dyadic

structure Decimal where
  digits : Nat
  power : Int
  deriving DecidableEq

def powerFraction (base : Nat) (power : Int) : Nat × Nat :=
  if 0 ≤ power then (Nat.pow base power.toNat, 1) else (1, Nat.pow base (-power).toNat)

def leadingPower (num den : Nat) : Nat → Int → Int
  | 0, power => power
  | steps + 1, power =>
    let (n, d) := powerFraction 10 power
    if n * den ≤ num * d then power else leadingPower num den steps (power - 1)

/-- The decimals of one grid `10 ^ power` that read back as the number, nearest first.  The number is
`4 * mantissa` quarters; the reals that read back as it lie within half a step on either side, the
ends included if the mantissa is even. -/
def gridCandidate? (x : Dyadic) (power : Int) : Option Decimal :=
  let (n2, d2) := powerFraction 2 (x.exponent - 2)
  let (n10, d10) := powerFraction 10 power
  -- One quarter step is `quarter / scale`, one grid step is `grid / scale`.
  let quarter := n2 * d10
  let grid := n10 * d2
  let value := 4 * x.mantissa * quarter
  let low := value - (if x.isPowerStep then 1 else 2) * quarter
  let high := value + 2 * quarter
  let inside (point : Nat) : Bool :=
    if x.mantissa % 2 = 0 then low ≤ point && point ≤ high else low < point && point < high
  let below := value / grid
  let lower := below * grid
  let upper := (below + 1) * grid
  match inside lower && 0 < below, inside upper with
  | false, false => none
  | true, false => some ⟨below, power⟩
  | false, true => some ⟨below + 1, power⟩
  | true, true =>
    if value - lower < upper - value ∨ (value - lower = upper - value ∧ below % 2 = 0)
    then some ⟨below, power⟩ else some ⟨below + 1, power⟩

def shortestFrom (x : Dyadic) : Nat → Int → Decimal
  | 0, power => ⟨x.mantissa, power⟩
  | steps + 1, power => (gridCandidate? x power).getD (shortestFrom x steps (power - 1))

def shortest (x : Dyadic) : Decimal :=
  let (n, d) := powerFraction 2 x.exponent
  shortestFrom x 18 (leadingPower (x.mantissa * n) d 640 309)

def Decimal.scientific (x : Decimal) : List Char × Int :=
  let digits := Nat.toDigits 10 x.digits
  let kept := (digits.reverse.dropWhile (· == '0')).reverse
  (kept, x.power + digits.length - 1)

/-- Leading powers from -5 to 15 are written positionally, with `.0` on whole numbers; others with an
exponent that carries its sign. -/
def Decimal.text (x : Decimal) : List Char :=
  let (digits, lead) := x.scientific
  if 0 ≤ lead ∧ lead ≤ 15 then
    let whole := lead.toNat + 1
    if digits.length ≤ whole then digits ++ List.replicate (whole - digits.length) '0' ++ ['.', '0']
    else digits.take whole ++ '.' :: digits.drop whole
  else if -5 ≤ lead ∧ lead < 0 then
    '0' :: '.' :: List.replicate ((-lead).toNat - 1) '0' ++ digits
  else
    let mantissa := match digits with
      | [d] => [d]
      | d :: rest => d :: '.' :: rest
      | [] => ['0']
    mantissa ++ 'e' :: (if lead < 0 then '-' else '+') :: Nat.toDigits 10 lead.natAbs

def realText (bits : UInt64) : List Char :=
  let sign := if bits.toNat / Nat.pow 2 63 = 1 then ['-'] else []
  let x := Dyadic.ofBits bits
  sign ++ if x.mantissa = 0 then ['0', '.', '0'] else (shortest x).text

end FrontendAtlas.Json
