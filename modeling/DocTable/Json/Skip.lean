import DocTable.Json.Reader

/-!
Passing over JSON values whose content does not matter. Less is checked than in reading: surrogates
need no partner, numbers no range, and brackets may nest to any depth; some faults show at another
place or have another cause.
-/

namespace DocTable.Json.Reader

/-- A digit at least, or a failure behind what stands there instead. -/
def skipDigits : Reader Unit := fun s =>
  match s with
  | [] => failAt .invalidNumber []
  | c :: _ =>
    if Digits.isDigit c then .ok ((), s.dropWhile Digits.isDigit) else failOn .invalidNumber s

def skipWhole : Reader Unit := fun s =>
  match s with
  | '0' :: c :: rest =>
    if Digits.isDigit c then failOn .invalidNumber (c :: rest) else .ok ((), c :: rest)
  | _ => skipDigits s

def skipFraction : Reader Unit := fun s =>
  match s with
  | '.' :: rest => skipDigits rest
  | _ => .ok ((), s)

def skipExponent : Reader Unit := fun s =>
  match s with
  | 'e' :: rest | 'E' :: rest =>
    match rest with
    | '+' :: rest | '-' :: rest => skipDigits rest
    | rest => skipDigits rest
  | _ => .ok ((), s)

def skipNumber : Reader Unit := fun s => do
  let s := match s with
    | '-' :: rest => rest
    | s => s
  let (_, s) ← skipWhole s
  let (_, s) ← skipFraction s
  skipExponent s

def skipEscaped : Reader Unit := fun s =>
  match s with
  | [] => failAt .endOfString []
  | 'u' :: rest => do
    let (_, rest) ← unit rest
    .ok ((), rest)
  | c :: rest =>
    if c ∈ ['"', '\\', '/', 'b', 'f', 'n', 'r', 't'] then .ok ((), rest)
    else failOn .invalidEscape s

/-- The characters of a string up to its closing quote; `fuel` bounds their number. -/
def skipCharacters : (fuel : Nat) → Reader Unit
  | 0, s => failAt .endOfString s
  | fuel + 1, s =>
    match s with
    | [] => failAt .endOfString []
    | '"' :: rest => .ok ((), rest)
    | '\\' :: rest => do
      let (_, rest) ← skipEscaped rest
      skipCharacters fuel rest
    | c :: rest =>
      if c.toNat < 0x20 then failAt .controlCharacter s else skipCharacters fuel rest

def skipString : Reader Unit := fun s => skipCharacters (s.length + 1) s

/-- The items of an array from one on; `fuel` bounds their number. -/
def skipItemsFrom (item : Reader Unit) : (fuel : Nat) → Reader Unit
  | 0, s => failAt .endOfArray s
  | fuel + 1, s => do
    let (_, rest) ← item s
    match skipSpace rest with
    | [] => failAt .endOfArray []
    | ']' :: rest => .ok ((), rest)
    | ',' :: rest => skipItemsFrom item fuel rest
    | rest => failOn .expectedArrayCommaOrEnd rest

def skipItems (item : Reader Unit) : Reader Unit := fun s =>
  match skipSpace s with
  | [] => failAt .endOfArray []
  | ']' :: rest => .ok ((), rest)
  | rest => skipItemsFrom item (rest.length + 1) rest

/-- The entries of an object from a name on; `fuel` bounds their number. -/
def skipEntriesFrom (item : Reader Unit) : (fuel : Nat) → Reader Unit
  | 0, s => failAt .endOfObject s
  | fuel + 1, s =>
    match skipSpace s with
    | [] => failAt .endOfObject []
    | '"' :: rest => do
      let (_, rest) ← skipString rest
      let (_, rest) ← colon rest
      let (_, rest) ← item rest
      match skipSpace rest with
      | [] => failAt .endOfObject []
      | '}' :: rest => .ok ((), rest)
      | ',' :: rest => skipEntriesFrom item fuel rest
      | rest => failOn .expectedObjectCommaOrEnd rest
    | rest => failOn .nameNotString rest

def skipEntries (item : Reader Unit) : Reader Unit := fun s =>
  match skipSpace s with
  | [] => failAt .endOfObject []
  | '}' :: rest => .ok ((), rest)
  | rest => skipEntriesFrom item (rest.length + 1) rest

/-- A value with blanks in front of it; `fuel` bounds the depth of its brackets. -/
def skipValueWithin (fuel : Nat) : Reader Unit := fun s =>
  match skipSpace s with
  | [] => failAt .endOfValue []
  | 'n' :: rest => word ['u', 'l', 'l'] rest
  | 't' :: rest => word ['r', 'u', 'e'] rest
  | 'f' :: rest => word ['a', 'l', 's', 'e'] rest
  | '"' :: rest => skipString rest
  | '[' :: rest =>
    match fuel with
    | 0 => failOn .tooDeep ('[' :: rest)
    | fuel + 1 => skipItems (skipValueWithin fuel) rest
  | '{' :: rest =>
    match fuel with
    | 0 => failOn .tooDeep ('{' :: rest)
    | fuel + 1 => skipEntries (skipValueWithin fuel) rest
  | c :: rest =>
    if c = '-' || Digits.isDigit c then skipNumber (c :: rest)
    else failOn .expectedValue (c :: rest)

def skipValue : Reader Unit := fun s => skipValueWithin s.length s

end DocTable.Json.Reader
