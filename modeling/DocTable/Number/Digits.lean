/-!
Decimal digits: reading a run of ASCII digits as a number, and the signed form with an optional
sign in front of at least one digit.
-/

namespace DocTable.Digits

def isDigit (c : Char) : Bool := 48 ≤ c.toNat && c.toNat ≤ 57

def valueOf (c : Char) : Nat := c.toNat - 48

def value (digits : List Char) : Nat := digits.foldl (fun n c => n * 10 + valueOf c) 0

def nat? (s : List Char) : Option Nat :=
  if s.isEmpty || !s.all isDigit then none else some (value s)

def int? : List Char → Option Int
  | '+' :: s => (nat? s).map Int.ofNat
  | '-' :: s => (nat? s).map fun n => -Int.ofNat n
  | s => (nat? s).map Int.ofNat

/-- The number of such a text, when it lies between the bounds. -/
def intWithin? (least greatest : Int) (s : List Char) : Option Int :=
  (int? s).filter fun n => decide (least ≤ n ∧ n ≤ greatest)

def padded (width n : Nat) : List Char :=
  let digits := Nat.toDigits 10 n
  List.replicate (width - digits.length) '0' ++ digits

def ofInt (n : Int) : List Char :=
  if n < 0 then '-' :: Nat.toDigits 10 n.natAbs else Nat.toDigits 10 n.natAbs

end DocTable.Digits
