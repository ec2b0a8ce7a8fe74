import DocTable.Text.Search
import DocTable.Text.Utf8
import Mathlib.Data.List.Infix

/-!
Texts by offsets. An offset counts the bytes in front of a place, and a slice between two offsets is
there only when they stand in order at ends of characters. A program that cuts its texts in this way
stops with a `Fault` where a slice or a difference is not there.
-/

namespace DocTable.Text

inductive Fault where
  /-- The ends of the slice are out of order, behind the end of the text or inside a character. -/
  | slice (text : List Char) (start stop : Nat)
  /-- The difference is below zero. -/
  | difference (m n : Nat)
  deriving DecidableEq, Repr

/-! ## Places in a text -/

variable {s front back part : List Char} {offset start stop : Nat}

/-- At the offset a character begins, or the text ends. -/
def IsBoundary (s : List Char) (offset : Nat) : Prop :=
  ∃ front back, s = front ++ back ∧ Utf8.size front = offset

theorem IsBoundary.le_size (h : IsBoundary s offset) : offset ≤ Utf8.size s := by
  obtain ⟨front, back, rfl, rfl⟩ := h
  simp

def splitAt? : (offset : Nat) → (s : List Char) → Option (List Char × List Char)
  | 0, s => some ([], s)
  | _ + 1, [] => none
  | offset + 1, c :: s =>
    if c.utf8Size ≤ offset + 1 then
      (splitAt? (offset + 1 - c.utf8Size) s).map fun (front, back) => (c :: front, back)
    else none

theorem splitAt?_size (front back : List Char) :
    splitAt? (Utf8.size front) (front ++ back) = some (front, back) := by
  induction front with
  | nil => simp [splitAt?]
  | cons c front ih =>
    have bytes : 0 < c.utf8Size := c.utf8Size_pos
    obtain ⟨n, size⟩ : ∃ n, c.utf8Size + Utf8.size front = n + 1 :=
      Nat.exists_eq_add_of_le' (by omega)
    have left : n + 1 - c.utf8Size = Utf8.size front := by omega
    rw [Utf8.size_cons, size, List.cons_append, splitAt?, if_pos (by omega), left, ih]
    rfl

theorem append_of_splitAt? (h : splitAt? offset s = some (front, back)) :
    s = front ++ back ∧ Utf8.size front = offset := by
  induction s generalizing offset front with
  | nil =>
    cases offset with
    | zero =>
      obtain ⟨rfl, rfl⟩ := Prod.mk.inj (Option.some.inj h)
      exact ⟨rfl, rfl⟩
    | succ offset => cases h
  | cons c s ih =>
    cases offset with
    | zero =>
      obtain ⟨rfl, rfl⟩ := Prod.mk.inj (Option.some.inj h)
      exact ⟨rfl, rfl⟩
    | succ offset =>
      rw [splitAt?] at h
      split at h
      · obtain ⟨⟨front, back⟩, cut, same⟩ := Option.map_eq_some_iff.1 h
        obtain ⟨rfl, rfl⟩ := Prod.mk.inj same
        obtain ⟨rfl, size⟩ := ih cut
        refine ⟨rfl, ?_⟩
        rw [Utf8.size_cons]
        omega
      · cases h

/-! ## Slices -/

def slice (s : List Char) (start stop : Nat) : Except Fault (List Char) :=
  match splitAt? stop s with
  | some (front, _) =>
    match splitAt? start front with
    | some (_, part) => .ok part
    | none => .error (.slice s start stop)
  | none => .error (.slice s start stop)

theorem slice_eq_ok_iff :
    slice s start stop = .ok part ↔ ∃ front back, s = front ++ part ++ back ∧
      Utf8.size front = start ∧ Utf8.size (front ++ part) = stop := by
  constructor
  · intro h
    unfold slice at h
    split at h
    · next cut =>
      split at h
      · next cut' =>
        obtain rfl := Except.ok.inj h
        obtain ⟨rfl, rfl⟩ := append_of_splitAt? cut
        obtain ⟨rfl, rfl⟩ := append_of_splitAt? cut'
        exact ⟨_, _, rfl, rfl, rfl⟩
      · cases h
    · cases h
  · rintro ⟨front, back, rfl, rfl, rfl⟩
    simp only [slice, splitAt?_size]

@[simp] theorem slice_append (front part back : List Char) :
    slice (front ++ (part ++ back)) (Utf8.size front) (Utf8.size front + Utf8.size part) =
      .ok part :=
  slice_eq_ok_iff.2 ⟨front, back, by simp, rfl, by simp⟩

@[simp] theorem slice_front (part back : List Char) :
    slice (part ++ back) 0 (Utf8.size part) = .ok part := by
  simpa using slice_append [] part back

/-- A slice is there just when its ends are in order and both of them places in the text. -/
theorem exists_slice_iff :
    (∃ part, slice s start stop = .ok part) ↔
      start ≤ stop ∧ IsBoundary s start ∧ IsBoundary s stop := by
  simp only [slice_eq_ok_iff]
  constructor
  · rintro ⟨part, front, back, rfl, rfl, rfl⟩
    exact ⟨by simp, ⟨front, part ++ back, by simp, rfl⟩, ⟨front ++ part, back, rfl, rfl⟩⟩
  · rintro ⟨order, ⟨front, back, rfl, rfl⟩, front', back', same, rfl⟩
    rcases List.append_eq_append_iff.1 same with ⟨part, rfl, rfl⟩ | ⟨part, rfl, rfl⟩
    · exact ⟨part, front, back', by simp, rfl, rfl⟩
    · -- the start cannot be behind the stop unless no byte lies between
      refine ⟨[], front' ++ part, back, by simp, rfl, ?_⟩
      simp at order ⊢
      omega

def suffix (s : List Char) (start : Nat) : Except Fault (List Char) := slice s start (Utf8.size s)

@[simp] theorem suffix_append (front back : List Char) :
    suffix (front ++ back) (Utf8.size front) = .ok back :=
  slice_eq_ok_iff.2 ⟨front, [], by simp, rfl, rfl⟩

def minus (m n : Nat) : Except Fault Nat :=
  if n ≤ m then .ok (m - n) else .error (.difference m n)

/-! ## Searching -/

def find? (mark s : List Char) : Option Nat :=
  if mark.isPrefixOf s then some 0
  else match s with
    | [] => none
    | c :: rest => (find? mark rest).map (c.utf8Size + ·)

theorem isPrefixOf_eq (mark s : List Char) : mark.isPrefixOf s = (dropMark? mark s).isSome := by
  cases dropped : dropMark? mark s with
  | none =>
    rw [Option.isSome_none, ← Bool.not_eq_true, List.isPrefixOf_iff_prefix]
    exact dropMark?_eq_none_iff.1 dropped
  | some rest => simp [dropMark?_eq_some_iff.1 dropped]

theorem find?_eq (mark s : List Char) :
    find? mark s = (breakOn? mark s).map fun (before, _) => Utf8.size before := by
  induction s with
  | nil =>
    rw [find?, breakOn?, isPrefixOf_eq]
    cases dropMark? mark [] <;> rfl
  | cons c s ih =>
    rw [find?, breakOn?, isPrefixOf_eq, ih]
    cases dropMark? mark (c :: s) with
    | none => cases breakOn? mark s <;> rfl
    | some rest => rfl

def findChar? (kind : Char → Bool) : List Char → Option Nat
  | [] => none
  | c :: rest => if kind c then some 0 else (findChar? kind rest).map (c.utf8Size + ·)

theorem findChar?_not_getD (kind : Char → Bool) (s : List Char) :
    (findChar? (!kind ·) s).getD (Utf8.size s) = Utf8.size (s.takeWhile kind) := by
  induction s with
  | nil => rfl
  | cons c s ih =>
    cases known : kind c with
    | false => simp [findChar?, known]
    | true => cases found : findChar? (!kind ·) s <;> simp_all [findChar?]

end DocTable.Text
