import DocTable.Proofs.Query.DateCalls

/-!
# Open quotes

The state of quoting behind a text, `Quoting.after`. No quote is open behind a sequence of tokens,
and a character in front of which none is open belongs to a token that is no string, or opens one.
Quoting the date calls of a text leaves its state as it was.
-/

namespace DocTable.Quoting

open Json (Token spell IsBody)

def after (state : Quoting) (s : List Char) : Quoting := s.foldl next state

variable {state : Quoting} {s front body digits : List Char} {c : Char} {tokens : List Token}

@[simp] theorem after_nil : state.after [] = state := rfl

@[simp] theorem after_cons : state.after (c :: s) = (state.next c).after s := rfl

@[simp] theorem after_append : state.after (front ++ s) = (state.after front).after s :=
  List.foldl_append

theorem outside_after (h : '"' ∉ s) : outside.after s = outside := by
  induction s with
  | nil => rfl
  | cons c s ih =>
    rw [List.mem_cons, not_or] at h
    rw [after_cons, next, if_neg (Ne.symm h.1), ih h.2]

theorem inside_after (quote : '"' ∉ s) (backslash : '\\' ∉ s) : inside.after s = inside := by
  induction s with
  | nil => rfl
  | cons c s ih =>
    rw [List.mem_cons, not_or] at quote backslash
    rw [after_cons, next, if_neg (Ne.symm backslash.1), if_neg (Ne.symm quote.1),
      ih quote.2 backslash.2]

theorem inside_after_enclosed (h : Enclosed body) : inside.after body = inside := by
  induction h with
  | nil => rfl
  | plain quote backslash _ ih => simp [next, quote, backslash, ih]
  | escaped _ ih => simp [next, ih]

theorem inside_after_ne (h : IsBody body) (prefixed : front <+: body) :
    inside.after front ≠ outside := by
  induction h generalizing front with
  | nil => simp [List.prefix_nil.1 prefixed]
  | plain quote backslash _ _ ih =>
    rcases List.prefix_cons_iff.1 prefixed with rfl | ⟨front, rfl, shorter⟩
    · simp
    · simpa [next, quote, backslash] using ih shorter
  | escape _ _ ih =>
    rcases List.prefix_cons_iff.1 prefixed with rfl | ⟨front, rfl, shorter⟩
    · simp
    · rcases List.prefix_cons_iff.1 shorter with rfl | ⟨front, rfl, shortest⟩
      · simp [next]
      · simpa [next] using ih shortest
  | @unit a b c d s ha hb hc hd _ ih =>
    -- Behind the backslash and the letter there are four digits, none of them a quote.
    have digits {t : List Char} (h : t <+: a :: b :: c :: d :: s) : inside.after t ≠ outside := by
      rcases List.prefix_or_prefix_of_prefix h (List.prefix_append [a, b, c, d] s) with short | long
      · have known : ∀ e ∈ t, e ≠ '"' ∧ e ≠ '\\' := by
          intro e mem
          have four : e = a ∨ e = b ∨ e = c ∨ e = d := by simpa using short.mem mem
          rcases four with rfl | rfl | rfl | rfl
          · exact ha.not_special
          · exact hb.not_special
          · exact hc.not_special
          · exact hd.not_special
        rw [inside_after (fun mem => (known _ mem).1 rfl) (fun mem => (known _ mem).2 rfl)]
        decide
      · obtain ⟨rest, rfl⟩ := long
        have shorter : rest <+: s := (List.prefix_append_right_inj [a, b, c, d]).1 h
        simpa [next, ha.not_special, hb.not_special, hc.not_special, hd.not_special]
          using ih shorter
    rcases List.prefix_cons_iff.1 prefixed with rfl | ⟨front, rfl, shorter⟩
    · simp
    · rcases List.prefix_cons_iff.1 shorter with rfl | ⟨front, rfl, shortest⟩
      · simp [next]
      · simpa [next] using digits shortest

/-! ## Between tokens -/

theorem outside_after_token {t : Token} (h : t.IsLexeme) : outside.after t.text = outside := by
  by_cases quote : '"' ∈ t.text
  · rcases h.eq_mark_of_mem (by decide) (by decide) (by decide) quote with rfl | ⟨body, rfl⟩
    · have known : '"' ∈ Json.marks := h
      exact absurd known (by decide)
    · have valid : IsBody body := h
      simp [Token.text, next, inside_after_enclosed valid.enclosed]
  · exact outside_after quote

theorem outside_after_spell (lexemes : ∀ t ∈ tokens, t.IsLexeme) :
    outside.after (spell tokens) = outside := by
  induction tokens with
  | nil => rfl
  | cons t tokens ih =>
    rw [Json.spell_cons, after_append, outside_after_token (lexemes t (List.mem_cons_self ..)),
      ih fun u mem => lexemes u (List.mem_cons_of_mem t mem)]

/-- In a string only the quote that opens it has no quote open in front of it. -/
theorem eq_quote_of_string {behind : List Char} (valid : IsBody body)
    (cut : '"' :: body ++ ['"'] = front ++ c :: behind) (closed : outside.after front = outside) :
    c = '"' := by
  cases front with
  | nil => exact (List.cons.inj cut).1.symm
  | cons q front =>
    obtain ⟨rfl, inner⟩ := List.cons.inj cut
    have prefixed : front <+: body := by
      rcases List.prefix_concat_iff.1 ⟨_, inner.symm⟩ with whole | short
      · simp [whole] at inner
      · exact short
    exact absurd closed (inside_after_ne valid prefixed)

/-- A character with no quote open in front of it opens one, or is in a token that is no string. -/
theorem exists_token_of_after (lexemes : ∀ t ∈ tokens, t.IsLexeme)
    (text : spell tokens = front ++ c :: s) (closed : outside.after front = outside) :
    c = '"' ∨ ∃ t ∈ tokens, c ∈ t.text ∧ ∀ body, t ≠ .string body := by
  induction tokens generalizing front with
  | nil => simp at text
  | cons t tokens ih =>
    have lexeme := lexemes t (List.mem_cons_self ..)
    have later {before : List Char} (text : spell tokens = before ++ c :: s)
        (closed : outside.after before = outside) :
        c = '"' ∨ ∃ u ∈ t :: tokens, c ∈ u.text ∧ ∀ body, u ≠ .string body := by
      refine (ih (fun u mem => lexemes u (List.mem_cons_of_mem t mem)) text closed).imp_right ?_
      exact fun ⟨u, mem, found⟩ => ⟨u, List.mem_cons_of_mem t mem, found⟩
    rw [Json.spell_cons, List.append_eq_append_iff] at text
    rcases text with ⟨before, rfl, behind⟩ | ⟨behind, here, rest⟩
    · rw [after_append, outside_after_token lexeme] at closed
      exact later behind closed
    · cases behind with
      | nil =>
        have behind : spell tokens = [] ++ c :: s := rest.symm
        exact later behind rfl
      | cons d behind =>
        obtain ⟨rfl, -⟩ := List.cons.inj rest
        by_cases string : ∃ body, t = .string body
        · obtain ⟨body, rfl⟩ := string
          exact .inl (eq_quote_of_string lexeme here closed)
        · exact .inr
            ⟨t, List.mem_cons_self .., by simp [here], fun body same => string ⟨body, same⟩⟩

/-! ## Behind quoted calls -/

theorem mem_text {digits : List Char} (run : Json.IsDigits digits) :
    '"' ∉ DateCall.text digits ∧ '\\' ∉ DateCall.text digits := by
  have digit {c : Char} (h : Digits.isDigit c = false) : c ∉ digits :=
    fun mem => absurd (run.2 c mem) (by simp [h])
  have opening : '"' ∉ DateCall.opening ∧ '\\' ∉ DateCall.opening := by decide
  have quote : '"' ∉ digits := digit rfl
  have backslash : '\\' ∉ digits := digit rfl
  simp [DateCall.text, opening, quote, backslash]

theorem after_quoteDateCallsFrom : state.after (quoteDateCallsFrom state s) = state.after s := by
  fun_induction quoteDateCallsFrom state s with
  | case1 => rfl
  | case2 c rest digits behind found ih =>
    obtain ⟨run, text⟩ := DateCall.read?_eq_some_iff.1 found
    obtain ⟨quote, backslash⟩ := mem_text run
    have call : outside.after (DateCall.text digits ++ behind) = outside.after behind := by
      rw [after_append, outside_after quote]
    rw [text, call, ← ih]
    simp [next, inside_after quote backslash]
  | case3 c rest absent ih => rw [after_cons, after_cons, ih]
  | case4 state c rest within ih => rw [after_cons, after_cons, ih]

theorem after_quoteDateCalls : outside.after (quoteDateCalls s) = outside.after s := by
  rw [quoteDateCalls_eq, after_quoteDateCallsFrom]

end DocTable.Quoting
