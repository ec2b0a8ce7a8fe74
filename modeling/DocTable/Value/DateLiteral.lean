import DocTable.Number.Digits
import DocTable.Text.Search
import DocTable.Value.Basic

/-!
Date literals: the texts `${new Date(N)}` that stand for the instant `N` milliseconds after the
start of 1970. `Value.patchDates` puts the instants in their place, everywhere in a tree but in the
target of a pointer.
-/

namespace DocTable

namespace DateLiteral

def opening : List Char := "$\x7bnew Date(".toList

def closing : List Char := ")\x7d".toList

/-- The instant that a text beginning with a date literal stands for, if it is within reach. -/
def instant? (s : List Char) : Option Instant := do
  let rest ← Text.dropMark? opening s
  let digits := rest.takeWhile Digits.isDigit
  let _ ← Text.dropMark? closing (rest.dropWhile Digits.isDigit)
  if digits.isEmpty then none else Instant.ofMillis? (Digits.value digits)

end DateLiteral

namespace Value

mutual

def patchDates : Value → Value
  | .string s =>
    match DateLiteral.instant? s.toList with
    | some t => .dateTime t
    | none => .string s
  | .document entries => .document (patchEntries entries)
  | .map entries => .map (patchEntries entries)
  | .array items => .array (patchItems items)
  | v => v

def patchEntries : List (String × Value) → List (String × Value)
  | [] => []
  | (key, v) :: rest => (key, patchDates v) :: patchEntries rest

def patchItems : List Value → List Value
  | [] => []
  | v :: rest => patchDates v :: patchItems rest

end

end Value

end DocTable
