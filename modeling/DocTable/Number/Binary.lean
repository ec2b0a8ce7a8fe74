/-!
Binary floating point by its bits. A number of a format is a sign, an exponent field and a fraction
field; `magnitude` reads them as `m * 2 ^ q`. `ofRatio` goes the other way and rounds a quotient to
the nearest number of the format, ties to the even one.
-/

namespace DocTable

/-- The widths of the fraction field and of the exponent field. -/
structure BinaryFormat where
  fractionBits : Nat
  exponentBits : Nat

namespace BinaryFormat

def single : BinaryFormat := ⟨23, 8⟩

def double : BinaryFormat := ⟨52, 11⟩

def width (format : BinaryFormat) : Nat := 1 + format.exponentBits + format.fractionBits

/-- The exponent of the last fraction bit of the smallest numbers. -/
def leastExponent (format : BinaryFormat) : Int :=
  2 - Nat.pow 2 (format.exponentBits - 1) - format.fractionBits

/-- The exponent field and the fraction field of infinity, read as one number. -/
def infinityFields (format : BinaryFormat) : Nat :=
  (Nat.pow 2 format.exponentBits - 1) * Nat.pow 2 format.fractionBits

def quietFields (format : BinaryFormat) : Nat :=
  format.infinityFields + Nat.pow 2 (format.fractionBits - 1)

end BinaryFormat

structure BinaryFloat (format : BinaryFormat) where
  bits : BitVec format.width
  deriving DecidableEq

abbrev Binary32 := BinaryFloat .single

abbrev Binary64 := BinaryFloat .double

inductive Magnitude where
  | finite (m : Nat) (q : Int)
  | infinite
  | notANumber
  deriving DecidableEq

namespace BinaryFloat

variable {format : BinaryFormat}

def isNegative (x : BinaryFloat format) : Bool := x.bits.msb

/-- The exponent field and the fraction field as one number; it grows with the magnitude. -/
def fields (x : BinaryFloat format) : Nat :=
  x.bits.toNat % Nat.pow 2 (format.exponentBits + format.fractionBits)

def ofFields (negative : Bool) (fields : Nat) : BinaryFloat format :=
  ⟨BitVec.ofNat format.width
    (fields + if negative then Nat.pow 2 (format.exponentBits + format.fractionBits) else 0)⟩

def exponentField (x : BinaryFloat format) : Nat := x.fields / Nat.pow 2 format.fractionBits

def fractionField (x : BinaryFloat format) : Nat := x.fields % Nat.pow 2 format.fractionBits

/-- An exponent field of zero marks the numbers with no leading one, one of all ones marks what is
not finite. -/
def magnitude (x : BinaryFloat format) : Magnitude :=
  if x.exponentField = Nat.pow 2 format.exponentBits - 1 then
    if x.fractionField = 0 then .infinite else .notANumber
  else if x.exponentField = 0 then .finite x.fractionField format.leastExponent
  else .finite (x.fractionField + Nat.pow 2 format.fractionBits)
    (format.leastExponent + x.exponentField - 1)

def isFinite (x : BinaryFloat format) : Bool :=
  match x.magnitude with
  | .finite .. => true
  | _ => false

/-- Finite, not zero, and with a leading one. -/
def isNormal (x : BinaryFloat format) : Bool := x.isFinite && x.exponentField != 0

def isZero (x : BinaryFloat format) : Bool := x.fields = 0

def isInteger (x : BinaryFloat format) : Bool :=
  match x.magnitude with
  | .finite m q => 0 ≤ q || m % Nat.pow 2 (-q).toNat = 0
  | _ => false

def negate (x : BinaryFloat format) : BinaryFloat format := ofFields (!x.isNegative) x.fields

end BinaryFloat

/-! ## Rounding -/

/-- The integer nearest to a quotient, the even one of two. -/
def divideToEven (num den : Nat) : Nat :=
  let quotient := num / den
  let twice := 2 * (num % den)
  if twice < den || twice = den && quotient % 2 = 0 then quotient else quotient + 1

namespace BinaryFormat

/-- The exponent of the leading binary digit of a positive quotient. -/
def leadingExponent (num den : Nat) : Int :=
  let guess : Int := num.log2 - den.log2
  let reaches := if 0 ≤ guess then den * Nat.pow 2 guess.toNat ≤ num
    else den ≤ num * Nat.pow 2 (-guess).toNat
  if reaches then guess else guess - 1

/-- The fields of the number nearest to a quotient; from the midpoint above the greatest finite
number on, those of infinity. Rounding up to the next power of two carries into the exponent field
by itself. -/
def fieldsOfRatio (format : BinaryFormat) (num den : Nat) : Nat :=
  if num = 0 then 0 else
  let q := max (leadingExponent num den - format.fractionBits) format.leastExponent
  let m := if 0 ≤ q then divideToEven num (den * Nat.pow 2 q.toNat)
    else divideToEven (num * Nat.pow 2 (-q).toNat) den
  min format.infinityFields ((q - format.leastExponent).toNat * Nat.pow 2 format.fractionBits + m)

end BinaryFormat

namespace BinaryFloat

variable {format : BinaryFormat}

def ofRatio (negative : Bool) (num den : Nat) : BinaryFloat format :=
  ofFields negative (format.fieldsOfRatio num den)

/-- The decimal exponents beyond which every number of the formats is infinite or zero. -/
private def decimalReach : Int := 400

/-- The number nearest to `digits * 10 ^ exponent`, with the given sign. -/
def ofDecimal (negative : Bool) (digits : Nat) (exponent : Int) : BinaryFloat format :=
  let magnitude := exponent + (Nat.toDigits 10 digits).length
  if digits = 0 || magnitude < -decimalReach then ofFields negative 0
  else if decimalReach < magnitude then ofFields negative format.infinityFields
  else if 0 ≤ exponent then ofRatio negative (digits * Nat.pow 10 exponent.toNat) 1
  else ofRatio negative digits (Nat.pow 10 (-exponent).toNat)

theorem ofDecimal_integer (negative : Bool) (n : Nat) :
    (ofDecimal negative n 0 : BinaryFloat format) =
      if 400 < (Nat.toDigits 10 n).length then ofFields negative format.infinityFields
      else ofRatio negative n 1 := by
  by_cases zero : n = 0
  · simp [ofDecimal, ofRatio, BinaryFormat.fieldsOfRatio, zero]
  · have short : ¬ 0 + ((Nat.toDigits 10 n).length : Int) < -decimalReach := by
      unfold decimalReach
      omega
    have long : decimalReach < 0 + ((Nat.toDigits 10 n).length : Int) ↔
        400 < (Nat.toDigits 10 n).length := by
      unfold decimalReach
      omega
    have whole : n * Nat.pow 10 (0 : Int).toNat = n := Nat.mul_one n
    simp only [ofDecimal, zero, short, long, whole, decide_false, Bool.or_false,
      Bool.false_eq_true, if_false, Int.le_refl, if_true]

end BinaryFloat

/-- The double with the value of a single; the payload of what is not a number keeps its place
behind the point, and is made quiet. -/
def BinaryFloat.widen (x : Binary32) : Binary64 :=
  match x.magnitude with
  | .finite m q =>
    if 0 ≤ q then .ofRatio x.isNegative (m * Nat.pow 2 q.toNat) 1
    else .ofRatio x.isNegative m (Nat.pow 2 (-q).toNat)
  | .infinite => .ofFields x.isNegative BinaryFormat.double.infinityFields
  | .notANumber =>
    let payload := x.fractionField * Nat.pow 2 29
    let quiet := if payload < Nat.pow 2 51 then payload + Nat.pow 2 51 else payload
    .ofFields x.isNegative (BinaryFormat.double.infinityFields + quiet)

end DocTable
