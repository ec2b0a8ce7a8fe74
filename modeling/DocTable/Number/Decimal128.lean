import DocTable.Number.Digits

/-!
Decimal floating point of 128 bits: at most 34 decimal digits and a power of ten between -6176 and
6111. Reading never rounds: a text whose value needs more digits, or an exponent out of reach, is
refused. A number keeps the zeros at its end, so `1.50` and `1.5` are two numbers.
-/

namespace DocTable

inductive Decimal128 where
  | finite (negative : Bool) (coefficient : Nat) (exponent : Int)
  | infinite (negative : Bool)
  | notANumber
  deriving DecidableEq

namespace Decimal128

def maxDigits : Nat := 34

def leastExponent : Int := -6176

def greatestExponent : Int := 6111

/-! ## Reading -/

/-- Drops the digits behind the first `keep` of them; only zeros may be dropped. -/
def dropZeros? (keep : Nat) (digits : List Char) : Option (List Char) :=
  if (digits.drop keep).all (· == '0') then some (digits.take keep) else none

/-- Exponents are read and adjusted in 16 bits. -/
private def within16 (n : Int) : Option Int := if -32768 ≤ n ∧ n ≤ 32767 then some n else none

/-- The digits in front of the exponent mark, joined over the point, and the exponent that belongs
to them. -/
def splitExponent? (s : List Char) : Option (List Char × Int) := do
  let isMark c := c == 'e' || c == 'E'
  let mantissa := s.takeWhile (!isMark ·)
  let exponent ← match s.dropWhile (!isMark ·) with
    | [] => some 0
    | _ :: text => Digits.intWithin? (-32768) 32767 text
  match mantissa.dropWhile (· != '.') with
  | [] => some (mantissa, exponent)
  | _ :: fraction => do
    let exponent ← within16 (exponent - fraction.length)
    some (mantissa.takeWhile (· != '.') ++ fraction, exponent)

def fitDigits? (digits : List Char) (exponent : Int) : Option (List Char × Int) :=
  if digits.length ≤ maxDigits then some (digits, exponent)
  else do
    let kept ← dropZeros? maxDigits digits
    let exponent ← within16 (exponent + (digits.length - maxDigits : Nat))
    some (kept, exponent)

/-- The digits shortened or filled up with zeros so that the exponent comes within its bounds. -/
def fitExponent? (digits : List Char) (exponent : Int) : Option (List Char × Int) :=
  if exponent < leastExponent then
    if digits = ['0'] then some (digits, leastExponent)
    else
      let surplus := (leastExponent - exponent).toNat
      if digits.length < surplus then none
      else (dropZeros? (digits.length - surplus) digits).map (·, leastExponent)
  else if greatestExponent < exponent then
    if digits = ['0'] then some (digits, greatestExponent)
    else
      let missing := (exponent - greatestExponent).toNat
      if maxDigits < digits.length + missing then none
      else some (digits ++ List.replicate missing '0', greatestExponent)
  else some (digits, exponent)

/-- The coefficient of a digit text; a plus sign may precede it. -/
def coefficient? : List Char → Option Nat
  | '+' :: digits => Digits.nat? digits
  | digits => Digits.nat? digits

def finite? (negative : Bool) (s : List Char) : Option Decimal128 := do
  let (digits, exponent) ← splitExponent? s
  let significant := digits.dropWhile (· == '0')
  let (digits, exponent) ← fitDigits? (if significant.isEmpty then ['0'] else significant) exponent
  let (digits, exponent) ← fitExponent? digits exponent
  let coefficient ← coefficient? digits
  some (finite negative coefficient exponent)

def unsigned? (negative : Bool) (s : List Char) : Option Decimal128 :=
  let word := String.ofList (s.map Char.toLower)
  if word = "nan" || word = "snan" then some notANumber
  else if word = "inf" || word = "infinity" then some (infinite negative)
  else finite? negative s

def ofText? : List Char → Option Decimal128
  | '-' :: s => unsigned? true s
  | '+' :: s => unsigned? false s
  | s => unsigned? false s

/-! ## Writing -/

/-- Plain notation when the last digit stands for one or less and the first one is not far behind
the point; the power of ten of the first digit otherwise. -/
def finiteText (coefficient : Nat) (exponent : Int) : List Char :=
  let digits := Nat.toDigits 10 coefficient
  let leading := exponent + digits.length - 1
  if exponent ≤ 0 && -6 ≤ leading then
    let places := (-exponent).toNat
    if places = 0 then digits
    else if digits.length ≤ places then
      '0' :: '.' :: List.replicate (places - digits.length) '0' ++ digits
    else digits.take (digits.length - places) ++ '.' :: digits.drop (digits.length - places)
  else
    let mantissa := match digits with
      | first :: second :: rest => first :: '.' :: second :: rest
      | short => short
    mantissa ++ 'E' :: (if 0 < leading then ['+'] else []) ++ Digits.ofInt leading

def text : Decimal128 → List Char
  | finite negative coefficient exponent =>
    (if negative then ['-'] else []) ++ finiteText coefficient exponent
  | infinite negative => (if negative then ['-'] else []) ++ "Infinity".toList
  | notANumber => "NaN".toList

/-! ## The binary form -/

/-- Reads the sixteen bytes of the binary integer form as one number. An exponent field that begins
with two ones is followed by a coefficient that has too many digits, which counts as zero. -/
def ofBits (bits : Nat) : Decimal128 :=
  let negative := bits / Nat.pow 2 127 % 2 = 1
  let special := bits / Nat.pow 2 122 % 32
  if special = 31 then notANumber
  else if special = 30 then infinite negative
  else if bits / Nat.pow 2 125 % 4 = 3 then
    finite negative 0 (leastExponent + (bits / Nat.pow 2 111 % Nat.pow 2 14 : Nat))
  else
    let coefficient := bits % Nat.pow 2 113
    finite negative (if coefficient < Nat.pow 10 maxDigits then coefficient else 0)
      (leastExponent + (bits / Nat.pow 2 113 % Nat.pow 2 14 : Nat))

end Decimal128

end DocTable
