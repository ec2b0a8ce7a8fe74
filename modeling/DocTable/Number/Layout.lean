import DocTable.Number.Shortest

/-!
How a floating-point number is laid out as text: from its shortest digits, positionally or with an
exponent, as a `Layout` says.
-/

namespace DocTable

structure Layout where
  /-- Positional notation is used when the exponent of the leading digit lies in these bounds. -/
  positional : Int → Bool
  /-- A whole number written positionally ends in `.0`. -/
  keepsPoint : Bool
  tie : TieRule

namespace Layout

def zeros (n : Nat) : List Char := List.replicate n '0'

/-- Digits with the point behind the first `whole` of them, filled up with zeros on either side. -/
def placePoint (layout : Layout) (digits : List Char) (whole : Int) : List Char :=
  if whole ≤ 0 then '0' :: '.' :: zeros (-whole).toNat ++ digits
  else if digits.length ≤ whole.toNat then
    digits ++ zeros (whole.toNat - digits.length) ++ if layout.keepsPoint then ['.', '0'] else []
  else digits.take whole.toNat ++ '.' :: digits.drop whole.toNat

/-- One digit, the point and the others if there are others, and the signed exponent. -/
def scientific (digits : List Char) (exponent : Int) : List Char :=
  let mantissa := match digits with
    | first :: second :: rest => first :: '.' :: second :: rest
    | short => short
  let sign := if exponent < 0 then '-' else '+'
  mantissa ++ 'e' :: sign :: Nat.toDigits 10 exponent.natAbs

def decimal (layout : Layout) (d : Decimal) : List Char :=
  let digits := Nat.toDigits 10 d.digits
  let leading := d.exponent + digits.length - 1
  if layout.positional leading then layout.placePoint digits (leading + 1)
  else scientific digits leading

/-- The text of a finite number; `none` for what is not finite. -/
def render? {format : BinaryFormat} (layout : Layout) (x : BinaryFloat format) :
    Option (List Char) :=
  let sign := if x.isNegative then ['-'] else []
  match x.magnitude with
  | .finite m q =>
    if m = 0 then some (sign ++ layout.placePoint ['0'] 1)
    else some (sign ++ layout.decimal (.shortest format layout.tie m q))
  | _ => none

end Layout

/-- Numbers as plain text: never an exponent, no point behind a whole number. -/
def Layout.plain : Layout := ⟨fun _ => true, false, .away⟩

def BinaryFloat.plainText {format : BinaryFormat} (x : BinaryFloat format) : List Char :=
  match Layout.plain.render? x, x.magnitude with
  | some text, _ => text
  | none, .infinite => if x.isNegative then "-inf".toList else "inf".toList
  | none, _ => "NaN".toList

end DocTable
