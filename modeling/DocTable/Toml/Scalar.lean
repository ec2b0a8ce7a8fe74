import DocTable.Number.Binary
import DocTable.Number.Digits
import DocTable.Text.Hex
import DocTable.Time.Date
import DocTable.Toml.Basic

/-!
Strings, numbers and times of TOML. A reader takes something off the front of a text and returns it
with the text that is left.
-/

namespace DocTable.Toml

abbrev Reader (α : Type) := List Char → Option (α × List Char)

namespace Reader

def mark? (c : Char) : List Char → Option (List Char)
  | [] => none
  | d :: rest => if d = c then some rest else none

/-! ## Blanks and line ends -/

def isBlank (c : Char) : Bool := c = ' ' || c = '\t'

def skipBlanks (s : List Char) : List Char := s.dropWhile isBlank

/-- Any character but a control character; the tab is none. -/
def isText (c : Char) : Bool := c = '\t' || (32 ≤ c.toNat && c.toNat ≠ 127)

def lineFeed? : List Char → Option (List Char)
  | '\n' :: rest => some rest
  | '\r' :: '\n' :: rest => some rest
  | _ => none

def skipComment : List Char → List Char
  | '#' :: rest => rest.dropWhile isText
  | s => s

/-! ## Strings -/

/-- Exactly `count` hexadecimal digits that number a character. -/
def codePoint? (count : Nat) : Reader Char := fun s => do
  let digits := s.take count
  let n ← Hex.value? digits
  if digits.length = count ∧ n.isValidChar then some (Char.ofNat n, s.drop count) else none

def escaped? : Reader Char
  | 'b' :: rest => some ('\x08', rest)
  | 't' :: rest => some ('\t', rest)
  | 'n' :: rest => some ('\n', rest)
  | 'f' :: rest => some ('\x0c', rest)
  | 'r' :: rest => some ('\r', rest)
  | '"' :: rest => some ('"', rest)
  | '\\' :: rest => some ('\\', rest)
  | 'u' :: rest => codePoint? 4 rest
  | 'U' :: rest => codePoint? 8 rest
  | _ => none

def basicFrom : (fuel : Nat) → Reader (List Char)
  | 0, _ => none
  | _ + 1, '"' :: rest => some ([], rest)
  | fuel + 1, '\\' :: rest => do
    let (c, rest) ← escaped? rest
    let (cs, rest) ← basicFrom fuel rest
    some (c :: cs, rest)
  | fuel + 1, c :: rest =>
    if isText c then (basicFrom fuel rest).map fun (cs, rest) => (c :: cs, rest) else none
  | _, [] => none

def literalFrom : Reader (List Char)
  | [] => none
  | c :: rest =>
    if c = '\'' then some ([], rest)
    else if isText c then (literalFrom rest).map fun (cs, rest) => (c :: cs, rest)
    else none

/-- Quotes of a string of many lines: one or two belong to the string, and three end it, with up to
two more in front of them that belong to it. Gives the ones that belong to it, whether the string
ends, and the text that is left. -/
def quoteRun (quote : Char) (s : List Char) : List Char × Bool × List Char :=
  let run := (s.takeWhile (· == quote)).length
  let kept := if run < 3 then run else min (run - 3) 2
  (List.replicate kept quote, 3 ≤ run, s.drop (if run < 3 then run else kept + 3))

def skipSpace : List Char → List Char
  | '\r' :: '\n' :: rest => skipSpace rest
  | c :: rest => if isBlank c || c = '\n' then skipSpace rest else c :: rest
  | [] => []

/-- What is left behind a backslash that joins lines: with the rest of its line blank, all blanks
and line ends up to the next character go. -/
def joinedLine? (s : List Char) : Option (List Char) :=
  (lineFeed? (skipBlanks s)).map skipSpace

/-- A line end or a character of a string of many lines; every line end counts as a line feed. -/
def longCharacter? : Reader Char := fun s =>
  match lineFeed? s with
  | some rest => some ('\n', rest)
  | none => match s with
    | [] => none
    | c :: rest => if isText c then some (c, rest) else none

/-- The rest of a string of many lines; escapes count only in double quotes. -/
def longFrom (quote : Char) : (fuel : Nat) → Reader (List Char)
  | 0, _ => none
  | fuel + 1, s =>
    if s.head? = some quote then
      let (quotes, ends, rest) := quoteRun quote s
      if ends then some (quotes, rest)
      else (longFrom quote fuel rest).map fun (cs, rest) => (quotes ++ cs, rest)
    else match (if quote = '"' then mark? '\\' s else none) with
      | some rest => match joinedLine? rest with
        | some rest => longFrom quote fuel rest
        | none => do
          let (c, rest) ← escaped? rest
          let (cs, rest) ← longFrom quote fuel rest
          some (c :: cs, rest)
      | none => do
        let (c, rest) ← longCharacter? s
        let (cs, rest) ← longFrom quote fuel rest
        some (c :: cs, rest)

/-- A string behind its opening quotes; a line end directly behind those does not count. -/
def long? (quote : Char) : Reader String := fun s => do
  let s := (lineFeed? s).getD s
  let (cs, rest) ← longFrom quote (s.length + 1) s
  some (String.ofList cs, rest)

def shortString? : Reader String
  | '"' :: rest => (basicFrom (rest.length + 1) rest).map fun (cs, rest) => (String.ofList cs, rest)
  | '\'' :: rest => (literalFrom rest).map fun (cs, rest) => (String.ofList cs, rest)
  | _ => none

def string? : Reader String
  | '"' :: '"' :: '"' :: rest => long? '"' rest
  | '\'' :: '\'' :: '\'' :: rest => long? '\'' rest
  | s => shortString? s

/-! ## Numbers -/

/-- Digits behind a digit, with single underscores between them that do not count. -/
def moreDigits (accepts : Char → Bool) : List Char → List Char × List Char
  | '_' :: c :: rest =>
    if accepts c then
      let (digits, left) := moreDigits accepts rest
      (c :: digits, left)
    else ([], '_' :: c :: rest)
  | c :: rest =>
    if accepts c then
      let (digits, left) := moreDigits accepts rest
      (c :: digits, left)
    else ([], c :: rest)
  | [] => ([], [])

def digits? (accepts : Char → Bool) : Reader (List Char)
  | [] => none
  | c :: rest =>
    if accepts c then
      let (digits, left) := moreDigits accepts rest
      some (c :: digits, left)
    else none

def wholePart? : Reader (List Char)
  | '0' :: rest => some (['0'], rest)
  | s => digits? Digits.isDigit s

def sign : List Char → Bool × List Char
  | '+' :: rest => (false, rest)
  | '-' :: rest => (true, rest)
  | s => (false, s)

def fraction? : Reader (Option (List Char))
  | '.' :: rest => (digits? Digits.isDigit rest).map fun (ds, rest) => (some ds, rest)
  | s => some (none, s)

def exponent? : Reader (Option Int) := fun s =>
  match s with
  | 'e' :: rest | 'E' :: rest => do
    let (negative, rest) := sign rest
    let (ds, rest) ← digits? Digits.isDigit rest
    let n : Int := Digits.value ds
    some (some (if negative then -n else n), rest)
  | _ => some (none, s)

/-- Integers have 64 bits. -/
def integer? (n : Int) : Option Toml :=
  if Int64.minValue.toInt ≤ n ∧ n ≤ Int64.maxValue.toInt then some (.integer n) else none

/-- A decimal number. One too large for a double is refused, and one too far below zero is negative
infinity. -/
def decimal? : Reader Toml := fun s => do
  let (negative, s) := sign s
  let (whole, s) ← wholePart? s
  let (fraction, s) ← fraction? s
  let (exponent, s) ← exponent? s
  if fraction.isNone ∧ exponent.isNone then
    let n : Int := Digits.value whole
    (integer? (if negative then -n else n)).map (·, s)
  else
    let places := fraction.getD []
    let x : Binary64 :=
      .ofDecimal negative (Digits.value (whole ++ places)) (exponent.getD 0 - places.length)
    if negative || x.isFinite then some (.float x, s) else none

def valueIn (base : Nat) (digits : List Char) : Nat :=
  digits.foldl (fun n c => n * base + (Hex.digitValue? c).getD 0) 0

def based? (base : Nat) : Reader Toml := fun s => do
  let isDigit (c : Char) : Bool := (Hex.digitValue? c).any (· < base)
  let (ds, rest) ← digits? isDigit s
  (integer? (valueIn base ds)).map (·, rest)

def infinity : Binary64 := .ofFields false BinaryFormat.double.infinityFields

def notANumber : Binary64 := .ofFields false BinaryFormat.double.quietFields

/-- The words for numbers that have no digits, with an optional sign in front. -/
def specialFloat? : Reader Toml := fun s =>
  let (negative, s) := sign s
  let signed (x : Binary64) : Toml := .float (if negative then x.negate else x)
  match s with
  | 'i' :: 'n' :: 'f' :: rest => some (signed infinity, rest)
  | 'n' :: 'a' :: 'n' :: rest => some (signed notANumber, rest)
  | _ => none

def number? : Reader Toml
  | '0' :: 'x' :: rest => based? 16 rest
  | '0' :: 'o' :: rest => based? 8 rest
  | '0' :: 'b' :: rest => based? 2 rest
  | s => (decimal? s).or (specialFloat? s)

def boolean? : Reader Toml
  | 't' :: 'r' :: 'u' :: 'e' :: rest => some (.boolean true, rest)
  | 'f' :: 'a' :: 'l' :: 's' :: 'e' :: rest => some (.boolean false, rest)
  | _ => none

/-! ## Times -/

def field? (count greatest : Nat) : Reader Nat := fun s =>
  let run := s.take count
  let n := Digits.value run
  if run.length = count && run.all Digits.isDigit && n ≤ greatest then some (n, s.drop count)
  else none

def afterDate? (s : List Char) : Option (List Char) := do
  let (year, s) ← field? 4 9999 s
  let s ← mark? '-' s
  let (month, s) ← field? 2 12 s
  let s ← mark? '-' s
  let (day, s) ← field? 2 31 s
  if (Date.mk year month day).isReal then some s else none

/-- The text behind a time of day, which may have the second 60 and a fraction of any length. -/
def afterClock? (s : List Char) : Option (List Char) := do
  let (_, s) ← field? 2 23 s
  let s ← mark? ':' s
  let (_, s) ← field? 2 59 s
  let s ← mark? ':' s
  let (_, s) ← field? 2 60 s
  match s with
  | '.' :: c :: rest => if Digits.isDigit c then some (rest.dropWhile Digits.isDigit) else none
  | s => some s

def afterOffset (s : List Char) : List Char :=
  match s with
  | 'Z' :: rest | 'z' :: rest => rest
  | '+' :: rest | '-' :: rest =>
    let minutes := do
      let (_, rest) ← field? 2 23 rest
      field? 2 59 (← mark? ':' rest)
    (minutes.map (·.2)).getD s
  | _ => s

/-- The text behind a time of day with an optional offset, where a date is in front of it. -/
def afterDayTime (s : List Char) : List Char :=
  match s with
  | c :: rest =>
    if c = 'T' || c = 't' || c = ' ' then ((afterClock? rest).map afterOffset).getD s else s
  | [] => s

/-- A date with an optional time of day, or a time of day alone. -/
def time? : Reader Toml := fun s =>
  (((afterDate? s).map afterDayTime).or (afterClock? s)).map fun rest =>
    (.time (s.take (s.length - rest.length)), rest)

end Reader

end DocTable.Toml
