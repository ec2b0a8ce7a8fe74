import DocTable.Proofs.Json.Grammar

/-!
# Literals of any text

What stands behind an open quote, whether or not the text is JSON: the body of a literal up to the
next quote that no backslash takes along, or the rest of the text, if there is none.
-/

namespace DocTable

/-- What stands between the quotes of a literal: a backslash takes the next character along,
whatever that is. -/
inductive Enclosed : List Char → Prop
  | nil : Enclosed []
  | plain {c : Char} {s : List Char} : c ≠ '"' → c ≠ '\\' → Enclosed s → Enclosed (c :: s)
  | escaped {c : Char} {s : List Char} : Enclosed s → Enclosed ('\\' :: c :: s)

/-- What stands behind the quote of a literal that is not closed. -/
def Unclosed (s : List Char) : Prop := Enclosed s ∨ ∃ body, s = body ++ ['\\'] ∧ Enclosed body

variable {s rest rest' body body' : List Char} {c : Char}

theorem enclosed_of_not_mem (quote : '"' ∉ s) (backslash : '\\' ∉ s) : Enclosed s := by
  induction s with
  | nil => exact .nil
  | cons c s ih =>
    rw [List.mem_cons, not_or] at quote backslash
    exact .plain (Ne.symm quote.1) (Ne.symm backslash.1) (ih quote.2 backslash.2)

/-- In JSON a backslash takes along a letter, or a letter and four digits. -/
theorem Json.IsBody.enclosed (h : IsBody body) : Enclosed body := by
  induction h with
  | nil => exact .nil
  | plain quote backslash _ _ ih => exact .plain quote backslash ih
  | escape _ _ ih => exact .escaped ih
  | unit ha hb hc hd _ ih =>
    have digit {c : Char} {s : List Char} (h : IsHexDigit c) (behind : Enclosed s) :
        Enclosed (c :: s) := .plain h.not_special.1 h.not_special.2 behind
    exact .escaped (digit ha (digit hb (digit hc (digit hd ih))))

theorem Unclosed.plain (quote : c ≠ '"') (backslash : c ≠ '\\') (h : Unclosed s) :
    Unclosed (c :: s) := by
  rcases h with h | ⟨body, rfl, h⟩
  · exact .inl (.plain quote backslash h)
  · exact .inr ⟨c :: body, rfl, .plain quote backslash h⟩

theorem Unclosed.escaped (h : Unclosed s) : Unclosed ('\\' :: c :: s) := by
  rcases h with h | ⟨body, rfl, h⟩
  · exact .inl (.escaped h)
  · exact .inr ⟨'\\' :: c :: body, rfl, .escaped h⟩

theorem Enclosed.of_plain (backslash : c ≠ '\\') (h : Enclosed (c :: s)) : Enclosed s := by
  cases h with
  | plain _ _ h => exact h
  | escaped => exact absurd rfl backslash

theorem Enclosed.of_escaped (h : Enclosed ('\\' :: c :: s)) : Enclosed s := by
  cases h with
  | plain _ backslash => exact absurd rfl backslash
  | escaped h => exact h

/-- Behind a quote there is the next one that no backslash takes along, or none. -/
theorem enclosed_or_unclosed (s : List Char) :
    (∃ body rest, Enclosed body ∧ s = body ++ '"' :: rest) ∨ Unclosed s := by
  match s with
  | [] => exact .inr (.inl .nil)
  | c :: s =>
    by_cases quote : c = '"'
    · exact .inl ⟨[], s, .nil, quote ▸ rfl⟩
    by_cases backslash : c = '\\'
    · subst backslash
      match s with
      | [] => exact .inr (.inr ⟨[], rfl, .nil⟩)
      | d :: s =>
        rcases enclosed_or_unclosed s with ⟨body, rest, h, rfl⟩ | h
        · exact .inl ⟨'\\' :: d :: body, rest, .escaped h, rfl⟩
        · exact .inr h.escaped
    · rcases enclosed_or_unclosed s with ⟨body, rest, h, rfl⟩ | h
      · exact .inl ⟨c :: body, rest, .plain quote backslash h, rfl⟩
      · exact .inr (h.plain quote backslash)
termination_by s.length

theorem Enclosed.unique (h : Enclosed body) (h' : Enclosed body')
    (same : body ++ '"' :: rest = body' ++ '"' :: rest') : body = body' ∧ rest = rest' := by
  induction h generalizing body' with
  | nil =>
    cases h' with
    | nil => exact ⟨rfl, (List.cons.inj same).2⟩
    | plain quote => exact absurd (List.cons.inj same).1.symm quote
    | escaped => cases (List.cons.inj same).1
  | plain quote backslash _ ih =>
    cases h' with
    | nil => exact absurd (List.cons.inj same).1 quote
    | plain _ _ h' =>
      obtain ⟨rfl, tail⟩ := List.cons.inj same
      obtain ⟨rfl, rfl⟩ := ih h' tail
      exact ⟨rfl, rfl⟩
    | escaped => exact absurd (List.cons.inj same).1 backslash
  | escaped _ ih =>
    cases h' with
    | nil => cases (List.cons.inj same).1
    | plain _ backslash => exact absurd (List.cons.inj same).1.symm backslash
    | escaped h' =>
      obtain ⟨rfl, tail⟩ := List.cons.inj (List.cons.inj same).2
      obtain ⟨rfl, rfl⟩ := ih h' tail
      exact ⟨rfl, rfl⟩

theorem Enclosed.not_enclosed (h : Enclosed body) : ¬ Enclosed (body ++ '"' :: rest) := by
  induction h with
  | nil =>
    intro longer
    cases longer with
    | plain quote => exact quote rfl
  | plain _ backslash _ ih => exact fun longer => ih (longer.of_plain backslash)
  | escaped _ ih => exact fun longer => ih longer.of_escaped

theorem Enclosed.not_unclosed (h : Enclosed body) : ¬ Unclosed (body ++ '"' :: rest) := by
  rintro (longer | ⟨front, text, longer⟩)
  · exact h.not_enclosed longer
  · rcases List.eq_nil_or_concat rest with rfl | ⟨init, last, rfl⟩
    · exact absurd (List.append_inj' text rfl).2 (by simp)
    · rw [List.concat_eq_append, ← List.cons_append, ← List.append_assoc] at text
      obtain ⟨rfl, -⟩ := List.append_inj' text rfl
      exact h.not_enclosed longer

end DocTable
