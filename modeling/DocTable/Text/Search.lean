/-!
Searching a text for a mark. `dropMark?` takes a mark off the front of a text, and `breakOn?` cuts
a text at the first place where the mark occurs; both lose nothing but the mark.
-/

namespace DocTable.Text

def dropMark? : (mark s : List Char) → Option (List Char)
  | [], s => some s
  | _ :: _, [] => none
  | m :: mark, c :: s => if m = c then dropMark? mark s else none

theorem dropMark?_eq_some_iff {mark s rest : List Char} :
    dropMark? mark s = some rest ↔ s = mark ++ rest := by
  induction mark generalizing s with
  | nil => simp [dropMark?]
  | cons m mark ih =>
    cases s with
    | nil => simp [dropMark?]
    | cons c s => by_cases h : m = c <;> simp [dropMark?, ih, h, Ne.symm]

theorem dropMark?_eq_none_iff {mark s : List Char} : dropMark? mark s = none ↔ ¬ mark <+: s := by
  rw [Option.eq_none_iff_forall_ne_some]
  simp only [ne_eq, dropMark?_eq_some_iff, ← not_exists]
  exact not_congr (exists_congr fun rest => eq_comm)

/-- What stands before and after the first occurrence of `mark`, if there is one. -/
def breakOn? (mark s : List Char) : Option (List Char × List Char) :=
  match dropMark? mark s with
  | some rest => some ([], rest)
  | none => match s with
    | [] => none
    | c :: rest => (breakOn? mark rest).map fun (before, after) => (c :: before, after)

theorem append_of_breakOn? {mark s before after : List Char}
    (h : breakOn? mark s = some (before, after)) : s = before ++ mark ++ after := by
  induction s generalizing before with
  | nil =>
    rw [breakOn?] at h
    split at h
    · next rest found => simp_all [dropMark?_eq_some_iff]
    · simp at h
  | cons c s ih =>
    rw [breakOn?] at h
    split at h
    · next rest found => simp_all [dropMark?_eq_some_iff]
    · obtain ⟨⟨b, a⟩, hb, he⟩ := Option.map_eq_some_iff.1 h
      obtain ⟨rfl, rfl⟩ := Prod.mk.inj he
      simp [ih hb]

theorem breakOn?_eq_none_iff {mark s : List Char} : breakOn? mark s = none ↔ ¬ mark <:+: s := by
  induction s with
  | nil =>
    rw [breakOn?]
    split
    · next rest found => simp [(List.append_eq_nil_iff.1 (dropMark?_eq_some_iff.1 found).symm).1]
    · next absent => simpa using dropMark?_eq_none_iff.1 absent
  | cons c s ih =>
    rw [breakOn?, List.infix_cons_iff]
    split
    · next rest found => simp [dropMark?_eq_some_iff.1 found]
    · next absent => simp [dropMark?_eq_none_iff.1 absent, ih]

/-- The occurrence at which a text is cut is the first. -/
theorem not_infix_of_breakOn? {m : Char} {mark s before after : List Char}
    (h : breakOn? (m :: mark) s = some (before, after)) : ¬ (m :: mark) <:+: before := by
  induction s generalizing before with
  | nil => simp [breakOn?, dropMark?] at h
  | cons c s ih =>
    rw [breakOn?] at h
    split at h
    · next rest found =>
      obtain ⟨rfl, -⟩ := Prod.mk.inj (Option.some.inj h)
      simp
    · next absent =>
      obtain ⟨⟨b, a⟩, cut, same⟩ := Option.map_eq_some_iff.1 h
      obtain ⟨rfl, rfl⟩ := Prod.mk.inj same
      have front : b <+: s := ⟨_, (append_of_breakOn? cut).trans (List.append_assoc ..) |>.symm⟩
      rw [List.infix_cons_iff, not_or]
      exact ⟨fun early => dropMark?_eq_none_iff.1 absent
        (early.trans (List.cons_prefix_cons.2 ⟨rfl, front⟩)), ih cut⟩

/-- A mark that does not repeat its first character ends before the next place with that
character, so an occurrence in front of such a place lies in front of it as a whole. -/
theorem infix_of_append_eq {m : Char} {mark before rest b a : List Char} (once : m ∉ mark)
    (h : before ++ m :: rest = b ++ m :: mark ++ a) (lt : b.length < before.length) :
    (m :: mark) <:+: before := by
  rw [List.append_assoc] at h
  rcases List.append_eq_append_iff.1 h with ⟨x, rfl, -⟩ | ⟨x, rfl, occurrence⟩
  · rw [List.length_append] at lt
    omega
  · cases x with
    | nil => simp at lt
    | cons c x =>
      obtain ⟨rfl, tail⟩ := List.cons.inj occurrence
      rcases List.append_eq_append_iff.1 tail with ⟨y, rfl, -⟩ | ⟨y, rfl, after⟩
      · exact ⟨b, y, by simp⟩
      · cases y with
        | nil => exact ⟨b, [], by simp⟩
        | cons d y =>
          obtain ⟨rfl, -⟩ := List.cons.inj after
          simp at once

theorem breakOn?_append {m : Char} {mark before after : List Char} (once : m ∉ mark)
    (free : ¬ (m :: mark) <:+: before) :
    breakOn? (m :: mark) (before ++ m :: mark ++ after) = some (before, after) := by
  cases cut : breakOn? (m :: mark) (before ++ m :: mark ++ after) with
  | none => exact absurd (List.infix_append ..) (breakOn?_eq_none_iff.1 cut)
  | some parts =>
    obtain ⟨b, a⟩ := parts
    have same := append_of_breakOn? cut
    rcases Nat.lt_trichotomy b.length before.length with lt | eq | gt
    · exact absurd (infix_of_append_eq once (by simpa using same) lt) free
    · rw [List.append_assoc, List.append_assoc] at same
      obtain ⟨rfl, tail⟩ := List.append_inj same eq.symm
      rw [List.append_cancel_left tail]
    · exact absurd (infix_of_append_eq once (by simpa using same.symm) gt)
        (not_infix_of_breakOn? cut)

theorem breakOn?_eq_some_iff {m : Char} {mark s before after : List Char} (once : m ∉ mark) :
    breakOn? (m :: mark) s = some (before, after) ↔
      s = before ++ m :: mark ++ after ∧ ¬ (m :: mark) <:+: before := by
  constructor
  · exact fun cut => ⟨append_of_breakOn? cut, not_infix_of_breakOn? cut⟩
  · rintro ⟨rfl, free⟩
    exact breakOn?_append once free

end DocTable.Text
