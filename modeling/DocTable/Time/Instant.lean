import DocTable.Number.Digits
import DocTable.Time.Date

/-!
Instants: milliseconds since the start of 1970 in UTC, within the years -262143 to 262142, and
their text `YYYY-MM-DDTHH:MM:SS[.fff]Z`.
-/

namespace DocTable

structure Instant where
  millis : Int
  least_le : -8334601228800000 ≤ millis
  le_greatest : millis ≤ 8210266876799999
  deriving DecidableEq

namespace Instant

/-- The instant so many milliseconds after the start of 1970, if it is within the years covered. -/
def ofMillis? (millis : Int) : Option Instant :=
  if h : -8334601228800000 ≤ millis ∧ millis ≤ 8210266876799999 then some ⟨millis, h.1, h.2⟩
  else none

end Instant

inductive FractionStyle where
  /-- Always three digits. -/
  | fixed
  /-- Three digits, or nothing for a whole second. -/
  | wholeOmitted
  /-- As many digits as are needed, or nothing for a whole second. -/
  | trimmed

namespace TimeText

def millisPerDay : Int := 86400000

/-- Years from 0 to 9999 take four digits; others a sign and at least four. -/
def year (y : Int) : List Char :=
  if 0 ≤ y && y ≤ 9999 then Digits.padded 4 y.natAbs
  else (if y < 0 then '-' else '+') :: Digits.padded 4 y.natAbs

def date (d : Date) : List Char :=
  year d.year ++ '-' :: Digits.padded 2 d.month ++ '-' :: Digits.padded 2 d.day

def fraction (style : FractionStyle) (millis : Nat) : List Char :=
  let digits := Digits.padded 3 millis
  match style with
  | .fixed => '.' :: digits
  | .wholeOmitted => if millis = 0 then [] else '.' :: digits
  | .trimmed =>
    if millis = 0 then [] else '.' :: (digits.reverse.dropWhile (· == '0')).reverse

/-- The text of a point in time given in milliseconds since the start of 1970; days begin at
midnight before 1970 too. -/
def render (style : FractionStyle) (millis : Int) : List Char :=
  let clock := (millis % millisPerDay).toNat
  date (Date.ofDays (millis / millisPerDay)) ++
    'T' :: Digits.padded 2 (clock / 3600000) ++
    ':' :: Digits.padded 2 (clock / 60000 % 60) ++
    ':' :: Digits.padded 2 (clock / 1000 % 60) ++
    fraction style (clock % 1000) ++ ['Z']

end TimeText

end DocTable
