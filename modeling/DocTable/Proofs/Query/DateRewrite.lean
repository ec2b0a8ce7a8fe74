import DocTable.Proofs.Query.Quoting

/-!
# Date calls of any text

What quoting does to a text that need not be JSON. A text is cut into pieces, `Splits`: literals,
the last of which may be left open, calls outside of them, and all other characters one by one.
There is one way to do so, quoting wraps just the calls, and what it wraps are literals from then
on, so that quoting again changes nothing, `only_calls_quoted`.
-/

namespace DocTable

open Json (IsDigits)

variable {s rest body digits : List Char} {c : Char}

/-! ## Pieces -/

inductive Piece where
  | plain (c : Char)
  | literal (body : List Char)
  | unclosed (body : List Char)
  | call (digits : List Char)

namespace Piece

def text : Piece → List Char
  | plain c => [c]
  | literal body => '"' :: body ++ ['"']
  | unclosed body => '"' :: body
  | call digits => DateCall.text digits

def quoted : Piece → List Char
  | call digits => ['"', '$', '{'] ++ DateCall.text digits ++ ['}', '"']
  | piece => piece.text

def settled : Piece → Piece
  | call digits => literal ('$' :: '{' :: DateCall.text digits ++ ['}'])
  | piece => piece

theorem quoted_settled (piece : Piece) : piece.settled.quoted = piece.quoted := by
  cases piece <;> simp [settled, text, quoted]

end Piece

/-- The text is cut into these pieces, from its front on: a quote opens a literal, a call in front
of which none is open is a piece, and so is a character with which no call begins. -/
inductive Splits : List Char → List Piece → Prop
  | nil : Splits [] []
  | plain {c : Char} {s : List Char} {pieces : List Piece} : c ≠ '"' →
      (∀ digits, IsDigits digits → ¬ DateCall.text digits <+: c :: s) → Splits s pieces →
      Splits (c :: s) (.plain c :: pieces)
  | literal {body s : List Char} {pieces : List Piece} : Enclosed body → Splits s pieces →
      Splits ('"' :: body ++ '"' :: s) (.literal body :: pieces)
  | unclosed {body : List Char} : Unclosed body → Splits ('"' :: body) [.unclosed body]
  | call {digits s : List Char} {pieces : List Piece} : IsDigits digits → Splits s pieces →
      Splits (DateCall.text digits ++ s) (.call digits :: pieces)

variable {pieces pieces' : List Piece}

theorem Splits.text (h : Splits s pieces) : pieces.flatMap Piece.text = s := by
  induction h with
  | nil => rfl
  | plain _ _ _ ih => simp [Piece.text, ih]
  | literal _ _ ih => simp [Piece.text, ih]
  | unclosed => simp [Piece.text]
  | call _ _ ih => simp [Piece.text, ih]

theorem Splits.unique (h : Splits s pieces) (h' : Splits s pieces') : pieces = pieces' := by
  induction h generalizing pieces' with
  | nil =>
    generalize text : ([] : List Char) = t at h'
    cases h' with
    | nil => rfl
    | plain => cases text
    | literal => cases text
    | unclosed => cases text
    | call => cases text
  | @plain c s pieces quote free _ ih =>
    generalize text : c :: s = t at h'
    cases h' with
    | nil => cases text
    | plain _ _ h' =>
      obtain ⟨rfl, rfl⟩ := List.cons.inj text
      rw [ih h']
    | literal => exact absurd (List.cons.inj text).1 quote
    | unclosed => exact absurd (List.cons.inj text).1 quote
    | call run => exact absurd ⟨_, text.symm⟩ (free _ run)
  | @literal body s pieces enclosed _ ih =>
    generalize text : '"' :: body ++ '"' :: s = t at h'
    cases h' with
    | nil => cases text
    | plain quote => exact absurd (List.cons.inj text).1.symm quote
    | literal enclosed' h' =>
      obtain ⟨rfl, rfl⟩ := enclosed.unique enclosed' (List.cons.inj text).2
      rw [ih h']
    | unclosed open' => exact absurd ((List.cons.inj text).2 ▸ open') enclosed.not_unclosed
    | call => cases text
  | @unclosed body opened =>
    generalize text : '"' :: body = t at h'
    cases h' with
    | nil => cases text
    | plain quote => exact absurd (List.cons.inj text).1.symm quote
    | literal enclosed => exact absurd ((List.cons.inj text).2 ▸ opened) enclosed.not_unclosed
    | unclosed => rw [(List.cons.inj text).2]
    | call => cases text
  | @call digits s pieces run _ ih =>
    generalize text : DateCall.text digits ++ s = t at h'
    cases h' with
    | nil => cases text
    | plain _ free => exact absurd ⟨_, text⟩ (free _ run)
    | literal => cases text
    | unclosed => cases text
    | call run' h' =>
      have found : DateCall.read? (DateCall.text digits ++ s) = some (digits, s) :=
        DateCall.read?_text run
      rw [text, DateCall.read?_text run'] at found
      obtain ⟨rfl, rfl⟩ := Prod.mk.inj (Option.some.inj found)
      rw [ih h']

theorem exists_splits (s : List Char) : ∃ pieces, Splits s pieces := by
  match s with
  | [] => exact ⟨_, .nil⟩
  | c :: s =>
    by_cases quote : c = '"'
    · subst quote
      rcases enclosed_or_unclosed s with ⟨body, rest, enclosed, text⟩ | opened
      · have shorter : rest.length < s.length := by
          rw [text, List.length_append, List.length_cons]
          omega
        obtain ⟨pieces, h⟩ := exists_splits rest
        exact ⟨.literal body :: pieces, text ▸ Splits.literal enclosed h⟩
      · exact ⟨_, .unclosed opened⟩
    · cases found : DateCall.read? (c :: s) with
      | none =>
        obtain ⟨pieces, h⟩ := exists_splits s
        exact ⟨_, .plain quote (DateCall.read?_eq_none_iff.1 found) h⟩
      | some call =>
        obtain ⟨digits, rest⟩ := call
        have shorter := DateCall.length_lt_of_read? found
        obtain ⟨run, text⟩ := DateCall.read?_eq_some_iff.1 found
        obtain ⟨pieces, h⟩ := exists_splits rest
        exact ⟨.call digits :: pieces, text ▸ Splits.call run h⟩
termination_by s.length
decreasing_by
  · exact Nat.lt_succ_of_lt shorter
  · exact Nat.lt_succ_self _
  · exact shorter

/-! ## Quoting -/

theorem Splits.quoted (h : Splits s pieces) :
    quoteDateCallsFrom .outside s = pieces.flatMap Piece.quoted := by
  induction h with
  | nil => rw [quoteDateCallsFrom, List.flatMap_nil]
  | plain quote free _ ih =>
    rw [quoteDateCallsFrom_of_none (DateCall.read?_eq_none_iff.2 free), Quoting.next, if_neg quote,
      ih, List.flatMap_cons]
    rfl
  | literal enclosed _ ih =>
    simp [quoteDateCallsFrom_literal enclosed, ih, Piece.quoted, Piece.text]
  | unclosed opened => simp [quoteDateCallsFrom_unclosed opened, Piece.quoted, Piece.text]
  | call run _ ih => simp [quoteDateCallsFrom_text run, ih, Piece.quoted]

/-- A quote is put in front of each call, so that nothing without a quote begins with other
characters than before. -/
theorem prefix_of_quoted {front : List Char} (quote : '"' ∉ front)
    (h : front <+: pieces.flatMap Piece.quoted) : front <+: pieces.flatMap Piece.text := by
  induction pieces generalizing front with
  | nil => exact h
  | cons piece pieces ih =>
    have kept (same : piece.quoted = piece.text) :
        front <+: (piece :: pieces).flatMap Piece.text := by
      rw [List.flatMap_cons, same] at h
      rw [List.flatMap_cons]
      rcases List.prefix_or_prefix_of_prefix h (List.prefix_append _ _) with short | ⟨more, rfl⟩
      · exact short.trans (List.prefix_append _ _)
      · rw [List.prefix_append_right_inj] at h ⊢
        exact ih (fun mem => quote (List.mem_append_right _ mem)) h
    cases piece with
    | call digits =>
      rcases List.prefix_cons_iff.1 h with rfl | ⟨more, rfl, -⟩
      · exact List.nil_prefix
      · exact absurd (List.mem_cons_self ..) quote
    | _ => exact kept rfl

theorem Splits.settled (h : Splits s pieces) :
    Splits (pieces.flatMap Piece.quoted) (pieces.map Piece.settled) := by
  induction h with
  | nil => exact .nil
  | @plain c s pieces quote free h ih =>
    refine .plain quote (fun digits run front => free digits run ?_) ih
    have same : DateCall.text digits <+: (Piece.plain c :: pieces).flatMap Piece.text :=
      prefix_of_quoted (Quoting.mem_text run).1 front
    simpa [Piece.text, h.text] using same
  | @literal body s pieces enclosed _ ih =>
    have literal := Splits.literal enclosed ih
    simpa [Piece.quoted, Piece.text, Piece.settled] using literal
  | unclosed opened => simpa [Piece.quoted, Piece.text, Piece.settled] using Splits.unclosed opened
  | @call digits s pieces run _ ih =>
    have enclosed : Enclosed ('$' :: '{' :: DateCall.text digits ++ ['}']) := by
      have := Quoting.mem_text run
      exact enclosed_of_not_mem (by simp [this]) (by simp [this])
    have literal := Splits.literal enclosed ih
    simpa [Piece.quoted, Piece.settled] using literal

/-- Whatever the text, there is one way to cut it into literals, calls outside of them and other
characters. Quoting writes its pieces one after the other, the calls between `"${` and `}"` and all
else as it is; the search for the beginning of a call that may spare the work makes no difference;
and quoting a second time changes nothing. -/
theorem only_calls_quoted (s : List Char) :
    (∃ pieces, (∀ other, Splits s other ↔ other = pieces) ∧
      s = pieces.flatMap Piece.text ∧ quoteDateCalls s = pieces.flatMap Piece.quoted) ∧
    (¬ DateCall.opening <:+: s → quoteDateCallsFrom .outside s = s) ∧
    quoteDateCalls s = quoteDateCallsFrom .outside s ∧
    quoteDateCalls (quoteDateCalls s) = quoteDateCalls s := by
  obtain ⟨pieces, h⟩ := exists_splits s
  have quoted : quoteDateCalls s = pieces.flatMap Piece.quoted :=
    (quoteDateCalls_eq s).trans h.quoted
  refine ⟨⟨pieces, fun other => ⟨fun h' => h'.unique h, fun same => same ▸ h⟩, h.text.symm, quoted⟩,
    quoteDateCallsFrom_eq_self, quoteDateCalls_eq s, ?twice⟩
  case twice =>
    rw [quoted, quoteDateCalls_eq, h.settled.quoted, List.flatMap_map]
    exact List.flatMap_congr fun piece _ => piece.quoted_settled

/-- A bare call, and one behind an escaped quote in a literal that is left open. -/
def openText : List Char := "new Date(1),\"\\\"new Date(2)".toList

theorem only_calls_quoted_open :
    quoteDateCalls openText = "\"$\x7bnew Date(1)\x7d\",\"\\\"new Date(2)".toList ∧
    quoteDateCalls (quoteDateCalls openText) = quoteDateCalls openText ∧
    ¬ DateCall.opening <:+: "new Date".toList ∧
    quoteDateCallsFrom .outside "new Date".toList = "new Date".toList := by
  obtain ⟨⟨pieces, only, -, quoted⟩, -, -, twice⟩ := only_calls_quoted openText
  have comma : ∀ digits, IsDigits digits → ¬ DateCall.text digits <+: ',' :: '"' :: '\\' :: '"' ::
      DateCall.text ['2'] := by
    intro digits _ front
    have letter := DateCall.head_of_opening ((DateCall.opening_prefix_text digits).trans front)
    exact absurd letter.1 (by decide)
  have enclosed : Enclosed ('\\' :: '"' :: DateCall.text ['2']) :=
    .escaped (enclosed_of_not_mem (by decide) (by decide))
  have behind : Splits (',' :: '"' :: '\\' :: '"' :: DateCall.text ['2'])
      [.plain ',', .unclosed ('\\' :: '"' :: DateCall.text ['2'])] :=
    .plain (by decide) comma (.unclosed (.inl enclosed))
  have one : IsDigits ['1'] := ⟨by decide, List.all_eq_true.1 rfl⟩
  have cut : Splits openText
      [.call ['1'], .plain ',', .unclosed ('\\' :: '"' :: DateCall.text ['2'])] :=
    Splits.call one behind
  have short : ¬ DateCall.opening <:+: "new Date".toList := fun inside =>
    absurd inside.length_le (by decide)
  rw [← (only _).1 cut] at quoted
  exact ⟨quoted, twice, short, (only_calls_quoted _).2.1 short⟩

end DocTable
