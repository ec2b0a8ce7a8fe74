import DocTable.Number.Binary

/-!
The shortest decimal digits that read back as a given binary number. The reals that round to
`m * 2 ^ q` form an interval around it, with its ends when `m` is even. Of the decimal grids with
1, 2, … digits in front the first one with a point in the interval gives the length; of the value's
two neighbours on that grid the nearer one in the interval gives the digits.
-/

namespace DocTable

structure Decimal where
  digits : Nat
  exponent : Int
  deriving DecidableEq, Repr

/-- Which of two equally near neighbours is taken. -/
inductive TieRule where
  | toEven
  | away
  deriving DecidableEq

/-- A value and the ends of the interval of reals that round to it, over one denominator. -/
structure Rounding where
  value : Nat
  low : Nat
  high : Nat
  den : Nat
  closed : Bool

namespace Rounding

/-- The interval around `m * 2 ^ q`: half a unit of the last place on each side, a quarter below a
power of two, where the spacing changes. -/
def around (format : BinaryFormat) (m : Nat) (q : Int) : Rounding :=
  let below := if m = Nat.pow 2 format.fractionBits && format.leastExponent < q then 1 else 2
  let scale := if 2 ≤ q then Nat.pow 2 (q - 2).toNat else 1
  ⟨4 * m * scale, (4 * m - below) * scale, (4 * m + 2) * scale,
    if 2 ≤ q then 1 else Nat.pow 2 (2 - q).toNat, m % 2 = 0⟩

/-- The point `num / (unit * den)` lies in the interval, where all ends are scaled by `unit`. -/
def contains (r : Rounding) (num unit : Nat) : Bool :=
  if r.closed then r.low * unit ≤ num && num ≤ r.high * unit
  else r.low * unit < num && num < r.high * unit

/-- The number of digits in front of the point, zero or less for values below one tenth. -/
def wholeDigits (r : Rounding) : Int :=
  if r.den ≤ r.value then (Nat.toDigits 10 (r.value / r.den)).length
  else
    let places := (Nat.toDigits 10 (r.den / r.value)).length
    if r.value * Nat.pow 10 (places - 1) = r.den then 2 - (places : Int) else 1 - (places : Int)

/-- The nearer of the value's two neighbours on the grid with `count` leading digits, among those
in the interval. -/
def onGrid? (r : Rounding) (tie : TieRule) (count : Nat) : Option Decimal :=
  let exponent := r.wholeDigits - count
  let unit := if 0 ≤ exponent then 1 else Nat.pow 10 (-exponent).toNat
  let step := r.den * if 0 ≤ exponent then Nat.pow 10 exponent.toNat else 1
  let below := r.value * unit / step
  let twice := 2 * (r.value * unit % step)
  let fitsBelow := r.contains (below * step) unit
  let fitsAbove := r.contains ((below + 1) * step) unit
  let prefersBelow := twice < step || twice = step && tie = .toEven && below % 2 = 0
  if fitsBelow && (prefersBelow || !fitsAbove) then some ⟨below, exponent⟩
  else if fitsAbove then some ⟨below + 1, exponent⟩
  else none

end Rounding

/-- The same number with no zero at the end of its digits; `fuel` bounds the zeros taken off. -/
def Decimal.strip : (fuel : Nat) → Decimal → Decimal
  | 0, d => d
  | fuel + 1, d =>
    if d.digits ≠ 0 && d.digits % 10 = 0 then strip fuel ⟨d.digits / 10, d.exponent + 1⟩ else d

def enoughDigits : Nat := 17

/-- The shortest digits for the positive number `m * 2 ^ q` of a format. -/
def Decimal.shortest (format : BinaryFormat) (tie : TieRule) (m : Nat) (q : Int) : Decimal :=
  let r := Rounding.around format m q
  let found := (List.range enoughDigits).findSome? fun k => r.onGrid? tie (k + 1)
  (found.getD ⟨0, 0⟩).strip enoughDigits

end DocTable
