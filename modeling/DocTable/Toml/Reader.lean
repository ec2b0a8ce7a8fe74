import DocTable.Toml.Scalar

/-!
Reading TOML documents: lines that are blank, hold a pair of a key and a value, or open a table.
Values and keys nest less than `nestingLimit` deep.
-/

namespace DocTable.Toml

def nestingLimit : Nat := 80

namespace Reader

/-! ## Keys -/

def isBareKey (c : Char) : Bool :=
  let n := c.toNat
  (65 ≤ n && n ≤ 90) || (97 ≤ n && n ≤ 122) || Digits.isDigit c || c = '_' || c = '-'

def keyPart? : Reader String := fun s =>
  let s := skipBlanks s
  let bare := s.takeWhile isBareKey
  let part :=
    if bare.isEmpty then shortString? s else some (String.ofList bare, s.dropWhile isBareKey)
  part.map fun (part, rest) => (part, skipBlanks rest)

/-- The parts of a dotted key; `fuel` bounds their number. -/
def keyFrom : (fuel : Nat) → Reader (List String)
  | 0, _ => none
  | fuel + 1, s => do
    let (part, rest) ← keyPart? s
    match rest with
    | '.' :: rest => (keyFrom fuel rest).map fun (parts, rest) => (part :: parts, rest)
    | rest => some ([part], rest)

def key? : Reader (List String × String) := fun s => do
  let (parts, rest) ← keyFrom (nestingLimit - 1) s
  let last ← parts.getLast?
  some ((parts.dropLast, last), rest)

/-! ## Values -/

/-- The text behind blanks, comments and line ends; `fuel` bounds the number of lines. -/
def skipLines : (fuel : Nat) → List Char → List Char
  | 0, s => s
  | fuel + 1, s =>
    let s := skipBlanks s
    match lineFeed? (skipComment s) with
    | some rest => skipLines fuel rest
    | none => s

/-- The items of an array up to its bracket, which may have a comma in front of it. -/
def itemsFrom (item : Reader Toml) : (fuel : Nat) → Reader (List Toml)
  | 0, _ => none
  | fuel + 1, s =>
    match skipLines s.length s with
    | ']' :: rest => some ([], rest)
    | s => do
      let (v, s) ← item s
      match skipLines s.length s with
      | ']' :: rest => some ([v], rest)
      | ',' :: rest => (itemsFrom item fuel rest).map fun (vs, rest) => (v :: vs, rest)
      | _ => none

def pair? (item : Reader Toml) : Reader ((List String × String) × Toml) := fun s => do
  let (key, s) ← key? s
  let s ← mark? '=' s
  let (v, s) ← item (skipBlanks s)
  some ((key, v), skipBlanks s)

def pairsFrom (item : Reader Toml) : (fuel : Nat) → TomlTable → Reader TomlTable
  | 0, _, _ => none
  | fuel + 1, t, s => do
    let (((path, key), v), s) ← pair? item s
    let t ← t.insert? path key v
    match s with
    | '}' :: rest => some (t, rest)
    | ',' :: rest => pairsFrom item fuel t rest
    | _ => none

/-- A table behind its opening brace; it stands on one line. -/
def braces? (item : Reader Toml) : Reader Toml := fun s =>
  match skipBlanks s with
  | '}' :: rest => some (.table .inline [], rest)
  | s => (pairsFrom item (s.length + 1) [] s).map fun (t, rest) => (.table .inline t, rest)

def value (depth : Nat) : Reader Toml := fun s =>
  match s with
  | '[' :: rest =>
    match depth with
    | 0 => none
    | depth + 1 =>
      (itemsFrom (value depth) (rest.length + 1) rest).map fun (vs, rest) => (.array vs, rest)
  | '{' :: rest =>
    match depth with
    | 0 => none
    | depth + 1 => braces? (value depth) rest
  | '"' :: _ | '\'' :: _ => (string? s).map fun (t, rest) => (.string t, rest)
  | _ => ((boolean? s).or (time? s)).or (number? s)

/-! ## Documents -/

/-- The text behind the end of a line, which a comment may stand in front of. The end of the text
ends its last line. -/
def endLine? (s : List Char) : Option (List Char) :=
  match skipComment (skipBlanks s) with
  | [] => some []
  | s => lineFeed? s

structure State where
  root : TomlTable
  current : List String

def header? (st : State) : Reader State := fun s =>
  match s with
  | '[' :: s => do
    let ((path, key), s) ← key? s
    let s ← mark? ']' s
    let s ← mark? ']' s
    let root ← st.root.openItem? path key
    some (⟨root, path ++ [key]⟩, s)
  | s => do
    let ((path, key), s) ← key? s
    let s ← mark? ']' s
    let root ← st.root.openTable? path key
    some (⟨root, path ++ [key]⟩, s)

def line? (st : State) : Reader State := fun s =>
  match s with
  | '[' :: rest => header? st rest
  | s => do
    let (((path, key), v), s) ← pair? (value (nestingLimit - 1)) s
    let root ← TomlTable.under? (·.insert? path key v) st.current st.root
    some (⟨root, st.current⟩, s)

/-- The lines of a document; `fuel` bounds their number. -/
def linesFrom : (fuel : Nat) → State → List Char → Option TomlTable
  | 0, _, _ => none
  | fuel + 1, st, s =>
    match skipBlanks s with
    | [] => some st.root
    | s => match endLine? s with
      | some rest => linesFrom fuel st rest
      | none => do
        let (st, s) ← line? st s
        linesFrom fuel st (← endLine? s)

end Reader

/-- The document that a text holds; a byte order mark in front of it does not count. -/
def parse? (text : List Char) : Option TomlTable :=
  let s := match text with
    | '\uFEFF' :: rest => rest
    | s => s
  Reader.linesFrom (s.length + 1) ⟨[], []⟩ s

end DocTable.Toml
