import DocTable.Entries
import DocTable.Json.Basic
import DocTable.Json.Error
import DocTable.Number.Digits
import DocTable.Text.Hex

/-!
Reading JSON. A reader takes something off the front of a text and returns it with the text that is
left. Blanks are space, tab, line feed and carriage return; arrays and objects nest at most
`nestingLimit` deep; of entries with one name the place of the first and the value of the last
count.
-/

namespace DocTable.Json

abbrev Reader (α : Type) := List Char → Except Failure (α × List Char)

def nestingLimit : Nat := 127

namespace Reader

def failAt {α : Type} (cause : Cause) (rest : List Char) : Except Failure α :=
  .error ⟨cause, rest, 0⟩

def failOn {α : Type} (cause : Cause) (rest : List Char) : Except Failure α :=
  .error ⟨cause, rest, 1⟩

def isSpace (c : Char) : Bool := c = ' ' || c = '\n' || c = '\t' || c = '\r'

def skipSpace (s : List Char) : List Char := s.dropWhile isSpace

/-! ## Words -/

def word : (letters : List Char) → Reader Unit
  | [], s => .ok ((), s)
  | _ :: _, [] => failAt .endOfValue []
  | l :: letters, c :: s => if l = c then word letters s else failOn .expectedWord (c :: s)

/-! ## Numbers -/

/-- The parts of a number's text: the digits in front of the point, those behind it, and the
exponent with its sign. -/
structure Numeral where
  negative : Bool
  whole : List Char
  fraction : List Char
  exponent : Int
  /-- Neither point nor exponent was written. -/
  isInteger : Bool

def digitRun : Reader (List Char) := fun s =>
  match s with
  | [] => failAt .endOfValue []
  | c :: _ =>
    if Digits.isDigit c then .ok (s.takeWhile Digits.isDigit, s.dropWhile Digits.isDigit)
    else failOn .invalidNumber s

/-- The digits in front of the point: no zero in front of another digit. -/
def wholePart : Reader (List Char) := fun s =>
  match s with
  | '0' :: c :: rest =>
    if Digits.isDigit c then failOn .invalidNumber (c :: rest) else .ok (['0'], c :: rest)
  | _ => digitRun s

def fractionPart : Reader (Option (List Char)) := fun s =>
  match s with
  | '.' :: rest => do
    let (digits, rest) ← digitRun rest
    .ok (some digits, rest)
  | _ => .ok (none, s)

def greatestExponent : Nat := 2147483647

/-- What is left behind the first digit with which an exponent leaves its range. -/
def overflow? (value : Nat) : List Char → Option (List Char)
  | [] => none
  | c :: rest =>
    if Digits.isDigit c then
      let value := value * 10 + Digits.valueOf c
      if greatestExponent < value then some rest else overflow? value rest
    else none

/-- The exponent, if there is one. For a number that is not zero it must stay in range. -/
def exponentPart (isZero : Bool) : Reader (Option Int) := fun s =>
  match s with
  | 'e' :: rest | 'E' :: rest => do
    let (negative, rest) := match rest with
      | '+' :: rest => (false, rest)
      | '-' :: rest => (true, rest)
      | rest => (false, rest)
    let (digits, left) ← digitRun rest
    let exponent := Digits.value digits
    match overflow? 0 rest with
    | some behind =>
      if !negative && !isZero then failAt .numberOutOfRange behind
      else .ok (some (if negative then -exponent else exponent), left)
    | none => .ok (some (if negative then -exponent else exponent), left)
  | _ => .ok (none, s)

def numeral : Reader Numeral := fun s => do
  let (negative, s) := match s with
    | '-' :: rest => (true, rest)
    | s => (false, s)
  let (whole, s) ← wholePart s
  let (fraction, s) ← fractionPart s
  let isZero := whole.all (· == '0') && (fraction.getD []).all (· == '0')
  let (exponent, s) ← exponentPart isZero s
  .ok (⟨negative, whole, fraction.getD [], exponent.getD 0, fraction.isNone && exponent.isNone⟩, s)

namespace Numeral

/-- The number as an integer, where it is written as one, is not a negative zero, and fits. -/
def integer? (n : Numeral) : Option Int :=
  let magnitude := Digits.value n.whole
  if !n.isInteger then none
  else if n.negative then
    if 0 < magnitude && Int64.minValue.toInt ≤ -magnitude then some (-magnitude) else none
  else if magnitude < UInt64.size then some magnitude else none

def double (n : Numeral) : Binary64 :=
  .ofDecimal n.negative (Digits.value (n.whole ++ n.fraction)) (n.exponent - n.fraction.length)

end Numeral

def number : Reader Json := fun s => do
  let (n, rest) ← numeral s
  match n.integer? with
  | some i => .ok (.integer i, rest)
  | none =>
    if n.double.isFinite then .ok (.float n.double, rest) else failAt .numberOutOfRange rest

/-! ## Strings -/

/-- The four digits behind `\u`; they are four bytes of whatever stands there. -/
def unit : Reader Nat := fun s =>
  match s.take 4, Hex.value? (s.take 4) with
  | [_, _, _, _], some n => .ok (n, s.drop 4)
  | _, _ =>
    if 4 ≤ Utf8.size s then .error ⟨.invalidEscape, s, 4⟩ else failAt .endOfString []

def isHighSurrogate (n : Nat) : Bool := 0xD800 ≤ n && n ≤ 0xDBFF

def isLowSurrogate (n : Nat) : Bool := 0xDC00 ≤ n && n ≤ 0xDFFF

/-- The character whose first half was `high`; the other half must follow. -/
def surrogatePair (high : Nat) : Reader Char := fun s =>
  match s with
  | [] => failAt .endOfString []
  | '\\' :: [] => failAt .endOfString []
  | '\\' :: 'u' :: rest => do
    let (low, rest) ← unit rest
    if isLowSurrogate low then
      .ok (Char.ofNat (0x10000 + (high - 0xD800) * 1024 + (low - 0xDC00)), rest)
    else failAt .loneSurrogate rest
  | '\\' :: rest => failOn .endOfEscape rest
  | s => failOn .endOfEscape s

def escaped : Reader Char := fun s =>
  match s with
  | [] => failAt .endOfString []
  | '"' :: rest => .ok ('"', rest)
  | '\\' :: rest => .ok ('\\', rest)
  | '/' :: rest => .ok ('/', rest)
  | 'b' :: rest => .ok ('\x08', rest)
  | 'f' :: rest => .ok ('\x0c', rest)
  | 'n' :: rest => .ok ('\n', rest)
  | 'r' :: rest => .ok ('\r', rest)
  | 't' :: rest => .ok ('\t', rest)
  | 'u' :: rest => do
    let (n, rest) ← unit rest
    if isLowSurrogate n then failAt .loneSurrogate rest
    else if isHighSurrogate n then surrogatePair n rest
    else .ok (Char.ofNat n, rest)
  | s => failOn .invalidEscape s

/-- The characters of a string up to its closing quote; `fuel` bounds their number. -/
def characters : (fuel : Nat) → Reader (List Char)
  | 0, s => failAt .endOfString s
  | fuel + 1, s =>
    match s with
    | [] => failAt .endOfString []
    | '"' :: rest => .ok ([], rest)
    | '\\' :: rest => do
      let (c, rest) ← escaped rest
      let (cs, rest) ← characters fuel rest
      .ok (c :: cs, rest)
    | c :: rest =>
      if c.toNat < 0x20 then failOn .controlCharacter s
      else do
        let (cs, rest) ← characters fuel rest
        .ok (c :: cs, rest)

def string : Reader String := fun s => do
  let (cs, rest) ← characters (s.length + 1) s
  .ok (String.ofList cs, rest)

/-! ## Arrays and objects -/

/-- The items of an array behind the first one or behind a comma; `fuel` bounds their number. -/
def itemsFrom {α : Type} (item : Reader α) : (fuel : Nat) → Reader (List α)
  | 0, s => failAt .endOfArray s
  | fuel + 1, s => do
    let (first, rest) ← item s
    match skipSpace rest with
    | [] => failAt .endOfArray []
    | ']' :: rest => .ok ([first], rest)
    | ',' :: rest =>
      match skipSpace rest with
      | [] => failAt .endOfValue []
      | ']' :: rest => failOn .trailingComma (']' :: rest)
      | rest => do
        let (others, rest) ← itemsFrom item fuel rest
        .ok (first :: others, rest)
    | rest => failOn .expectedArrayCommaOrEnd rest

def items {α : Type} (item : Reader α) : Reader (List α) := fun s =>
  match skipSpace s with
  | [] => failAt .endOfArray []
  | ']' :: rest => .ok ([], rest)
  | rest => itemsFrom item (rest.length + 1) rest

def colon : Reader Unit := fun s =>
  match skipSpace s with
  | [] => failAt .endOfObject []
  | ':' :: rest => .ok ((), rest)
  | rest => failOn .expectedColon rest

/-- The entries of an object from a name on; `fuel` bounds their number. -/
def entriesFrom {α : Type} (item : Reader α) : (fuel : Nat) → Reader (List (String × α))
  | 0, s => failAt .endOfObject s
  | fuel + 1, s =>
    match s with
    | '"' :: rest => do
      let (name, rest) ← string rest
      let (_, rest) ← colon rest
      let (value, rest) ← item rest
      match skipSpace rest with
      | [] => failAt .endOfObject []
      | '}' :: rest => .ok ([(name, value)], rest)
      | ',' :: rest =>
        match skipSpace rest with
        | [] => failAt .endOfValue []
        | '}' :: rest => failOn .trailingComma ('}' :: rest)
        | rest => do
          let (others, rest) ← entriesFrom item fuel rest
          .ok ((name, value) :: others, rest)
      | rest => failOn .expectedObjectCommaOrEnd rest
    | s => failOn .nameNotString s

def entries {α : Type} (item : Reader α) : Reader (List (String × α)) := fun s =>
  match skipSpace s with
  | [] => failAt .endOfObject []
  | '}' :: rest => .ok ([], rest)
  | rest => entriesFrom item (rest.length + 1) rest

/-- A value with blanks in front of it, in which arrays and objects nest at most `depth` deep. -/
def value (depth : Nat) : Reader Json := fun s =>
  match skipSpace s with
  | [] => failAt .endOfValue []
  | 'n' :: rest => do
    let (_, rest) ← word ['u', 'l', 'l'] rest
    .ok (.null, rest)
  | 't' :: rest => do
    let (_, rest) ← word ['r', 'u', 'e'] rest
    .ok (.bool true, rest)
  | 'f' :: rest => do
    let (_, rest) ← word ['a', 'l', 's', 'e'] rest
    .ok (.bool false, rest)
  | '"' :: rest => do
    let (s, rest) ← string rest
    .ok (.string s, rest)
  | '[' :: rest =>
    match depth with
    | 0 => failOn .tooDeep ('[' :: rest)
    | depth + 1 => do
      let (elements, rest) ← items (value depth) rest
      .ok (.array elements, rest)
  | '{' :: rest =>
    match depth with
    | 0 => failOn .tooDeep ('{' :: rest)
    | depth + 1 => do
      let (members, rest) ← entries (value depth) rest
      .ok (.object (Entries.collapse members), rest)
  | c :: rest =>
    if c = '-' || Digits.isDigit c then number (c :: rest) else failOn .expectedValue (c :: rest)

def finish (s : List Char) : Except Failure Unit :=
  match skipSpace s with
  | [] => .ok ()
  | rest => failOn .trailingCharacters rest

end Reader

def parse (text : List Char) : Except Error Json :=
  let result := do
    let (v, rest) ← Reader.value nestingLimit text
    Reader.finish rest
    pure v
  result.mapError (·.locate text)

end DocTable.Json
