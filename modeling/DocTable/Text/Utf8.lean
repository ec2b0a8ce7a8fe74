/-!
UTF-8: the number of bytes of a text, the bytes of a character, and the reading of bytes as text.
A failed reading tells where the first ill-formed sequence begins and how much of it is certainly
wrong, so that the caller can say so.
-/

namespace DocTable.Utf8

def size (s : List Char) : Nat := s.foldr (fun c n => c.utf8Size + n) 0

@[simp] theorem size_nil : size [] = 0 := rfl

@[simp] theorem size_cons (c : Char) (s : List Char) : size (c :: s) = c.utf8Size + size s := rfl

@[simp] theorem size_append (s t : List Char) : size (s ++ t) = size s + size t := by
  induction s with
  | nil => simp
  | cons c s ih => simp [ih, Nat.add_assoc]

theorem size_eq_zero_iff {s : List Char} : size s = 0 ↔ s = [] := by
  cases s with
  | nil => simp
  | cons c s => simp [Nat.ne_of_gt c.utf8Size_pos]

def ofChar (c : Char) : List UInt8 :=
  let n := c.toNat
  let continuation (k : Nat) : UInt8 := UInt8.ofNat (0x80 + k % 64)
  if n < 0x80 then [UInt8.ofNat n]
  else if n < 0x800 then [UInt8.ofNat (0xC0 + n / 64), continuation n]
  else if n < 0x10000 then
    [UInt8.ofNat (0xE0 + n / 4096), continuation (n / 64), continuation n]
  else
    [UInt8.ofNat (0xF0 + n / 262144), continuation (n / 4096), continuation (n / 64),
      continuation n]

/-- Why bytes are not text: the sequence that begins at `index` is ill-formed, and `length` of its
bytes are wrong whatever follows; no length means that the bytes end inside the sequence. -/
structure Fault where
  index : Nat
  length : Option Nat
  deriving DecidableEq, Repr

def Fault.message (f : Fault) : String :=
  match f.length with
  | some n => s!"invalid utf-8 sequence of {n} bytes from index {f.index}"
  | none => s!"incomplete utf-8 byte sequence from index {f.index}"

inductive Lead where
  | char (c : Char) (rest : List UInt8)
  | illFormed (length : Option Nat)

private def isContinuation (b : UInt8) : Bool := 0x80 ≤ b && b ≤ 0xBF

/-- The second bytes that may follow a first byte; they keep out overlong forms, surrogates and
numbers beyond the last code point. -/
private def secondBytes (first : UInt8) : UInt8 × UInt8 :=
  if first = 0xE0 then (0xA0, 0xBF)
  else if first = 0xED then (0x80, 0x9F)
  else if first = 0xF0 then (0x90, 0xBF)
  else if first = 0xF4 then (0x80, 0x8F)
  else (0x80, 0xBF)

private def bits (b : UInt8) : Nat := b.toNat % 64

def lead (first : UInt8) (rest : List UInt8) : Lead :=
  let n := first.toNat
  let (least, greatest) := secondBytes first
  if n < 0x80 then .char (Char.ofNat n) rest
  else if n < 0xC2 then .illFormed (some 1)
  else if n < 0xE0 then
    match rest with
    | [] => .illFormed none
    | b :: rest =>
      if isContinuation b then .char (Char.ofNat (n % 32 * 64 + bits b)) rest
      else .illFormed (some 1)
  else if n < 0xF5 then
    match rest with
    | [] => .illFormed none
    | b :: rest =>
      if b < least || greatest < b then .illFormed (some 1) else
      match rest with
      | [] => .illFormed none
      | c :: rest =>
        if !isContinuation c then .illFormed (some 2)
        else if n < 0xF0 then .char (Char.ofNat (n % 16 * 4096 + bits b * 64 + bits c)) rest
        else match rest with
          | [] => .illFormed none
          | d :: rest =>
            if isContinuation d then
              .char (Char.ofNat (n % 8 * 262144 + bits b * 4096 + bits c * 64 + bits d)) rest
            else .illFormed (some 3)
  else .illFormed (some 1)

/-- Reads characters until the bytes end; `fuel` bounds their number. -/
def decodeFrom : (fuel index : Nat) → List UInt8 → Except Fault (List Char)
  | 0, _, _ => .ok []
  | _, _, [] => .ok []
  | fuel + 1, index, first :: rest =>
    match lead first rest with
    | .char c rest => (decodeFrom fuel (index + c.utf8Size) rest).map (c :: ·)
    | .illFormed length => .error ⟨index, length⟩

def decode (bytes : List UInt8) : Except Fault (List Char) := decodeFrom bytes.length 0 bytes

end DocTable.Utf8
