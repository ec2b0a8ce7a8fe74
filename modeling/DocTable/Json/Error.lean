import DocTable.Text.Utf8

/-!
Failures of reading JSON: the cause, and the place where it shows. A reader does not count lines; it
says what text was left when it failed, and `Failure.position` finds line and column from that.
-/

namespace DocTable.Json

inductive Cause where
  | endOfValue
  | endOfString
  | endOfArray
  | endOfObject
  | expectedValue
  | expectedWord
  | expectedColon
  | expectedArrayCommaOrEnd
  | expectedObjectCommaOrEnd
  | nameNotString
  | trailingComma
  | trailingCharacters
  | invalidNumber
  | numberOutOfRange
  | invalidEscape
  | loneSurrogate
  | endOfEscape
  | controlCharacter
  | tooDeep
  deriving DecidableEq, Repr

def Cause.message : Cause → String
  | endOfValue => "EOF while parsing a value"
  | endOfString => "EOF while parsing a string"
  | endOfArray => "EOF while parsing a list"
  | endOfObject => "EOF while parsing an object"
  | expectedValue => "expected value"
  | expectedWord => "expected ident"
  | expectedColon => "expected `:`"
  | expectedArrayCommaOrEnd => "expected `,` or `]`"
  | expectedObjectCommaOrEnd => "expected `,` or `\x7d`"
  | nameNotString => "key must be a string"
  | trailingComma => "trailing comma"
  | trailingCharacters => "trailing characters"
  | invalidNumber => "invalid number"
  | numberOutOfRange => "number out of range"
  | invalidEscape => "invalid escape"
  | loneSurrogate => "lone leading surrogate in hex escape"
  | endOfEscape => "unexpected end of hex escape"
  | controlCharacter => "control character (\\u0000-\\u001F) found while parsing a string"
  | tooDeep => "recursion limit exceeded"

/-- A line, counted from one, and the number of its bytes up to the place. -/
structure Position where
  line : Nat
  column : Nat
  deriving DecidableEq, Repr

def Position.render (p : Position) : String := s!"line {p.line} column {p.column}"

/-- The place after the first `bytes` bytes of a text. A line ends with its line feed. -/
def Position.after (bytes : Nat) (text : List Char) : Position :=
  go bytes 1 0 text
where
  go (bytes line column : Nat) : List Char → Position
    | [] => ⟨line, column⟩
    | c :: rest =>
      if bytes = 0 then ⟨line, column⟩
      else if c = '\n' then go (bytes - 1) (line + 1) 0 rest
      else if c.utf8Size ≤ bytes then go (bytes - c.utf8Size) line (column + c.utf8Size) rest
      else ⟨line, column + bytes⟩

/-- A cause, the text that was left, and how many bytes of that text belong to the place. -/
structure Failure where
  cause : Cause
  rest : List Char
  bytes : Nat

def Failure.position (f : Failure) (text : List Char) : Position :=
  .after (Utf8.size text - Utf8.size f.rest + f.bytes) text

structure Error where
  cause : Cause
  position : Position
  deriving DecidableEq, Repr

def Error.message (e : Error) : String := s!"{e.cause.message} at {e.position.render}"

def Failure.locate (f : Failure) (text : List Char) : Error := ⟨f.cause, f.position text⟩

end DocTable.Json
