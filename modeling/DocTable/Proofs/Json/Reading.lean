import DocTable.Proofs.Json.Grammar
import Mathlib.Data.List.TakeWhile

/-!
# What the readers accept

Each reader takes a phrase of the grammar off the front of a text: what it leaves is what stands
behind that phrase. So a text that is read as a whole is a JSON text, `isText_of_parse`.
-/

namespace DocTable.Json

namespace Reader

variable {s rest : List Char}

theorem ok_of_bind {α β : Type} {x : Except Failure α} {f : α → Except Failure β} {b : β}
    (h : x >>= f = .ok b) : ∃ a, x = .ok a ∧ f a = .ok b := by
  cases x with
  | error e => cases h
  | ok a => exact ⟨a, rfl, h⟩

/-! ## Blanks and words -/

def blanks (s : List Char) : List Token := (s.takeWhile isSpace).map .blank

theorem blanks_blanks (s : List Char) : Blanks (blanks s) := by
  intro t mem
  obtain ⟨c, taken, rfl⟩ := List.mem_map.1 mem
  exact ⟨c, rfl, List.mem_takeWhile_imp taken⟩

theorem spell_blanks_append (h : skipSpace s = rest) : spell (blanks s) ++ rest = s := by
  have text (cs : List Char) : spell (cs.map .blank) = cs := by
    induction cs with
    | nil => rfl
    | cons c cs ih => simp [ih, Token.text]
  rw [blanks, text, ← h, skipSpace, List.takeWhile_append_dropWhile]

theorem word_ok {letters : List Char} (h : word letters s = .ok ((), rest)) :
    s = letters ++ rest := by
  induction letters generalizing s with
  | nil =>
    obtain ⟨-, rfl⟩ := Prod.mk.inj (Except.ok.inj h)
    rfl
  | cons l letters ih =>
    cases s with
    | nil => cases h
    | cons c s =>
      rw [word] at h
      split at h
      · next same => rw [same, ih h, List.cons_append]
      · cases h

/-! ## Numbers -/

theorem digitRun_ok {digits : List Char} (h : digitRun s = .ok (digits, rest)) :
    IsDigits digits ∧ s = digits ++ rest := by
  unfold digitRun at h
  split at h
  · cases h
  · next c s =>
    split at h
    · next first =>
      obtain ⟨rfl, rfl⟩ := Prod.mk.inj (Except.ok.inj h)
      refine ⟨⟨?_, fun d mem => List.mem_takeWhile_imp mem⟩, ?_⟩
      · simp [first]
      · exact List.takeWhile_append_dropWhile.symm
    · cases h

theorem wholePart_ok {digits : List Char} (h : wholePart s = .ok (digits, rest)) :
    IsWhole digits ∧ s = digits ++ rest := by
  unfold wholePart at h
  split at h
  · next c s =>
    split at h
    · cases h
    · obtain ⟨rfl, rfl⟩ := Prod.mk.inj (Except.ok.inj h)
      exact ⟨.inl rfl, rfl⟩
  · next notZero =>
    obtain ⟨digits_ok, rfl⟩ := digitRun_ok h
    refine ⟨?_, rfl⟩
    cases digits with
    | nil => exact absurd rfl digits_ok.1
    | cons d digits =>
      by_cases zero : d = '0'
      · subst zero
        cases digits with
        | nil => exact .inl rfl
        | cons c digits => exact (notZero c (digits ++ rest) rfl).elim
      · exact .inr ⟨digits_ok, by simpa using zero⟩

theorem fractionPart_ok {digits : Option (List Char)} (h : fractionPart s = .ok (digits, rest)) :
    ∃ t, IsFraction t ∧ s = t ++ rest := by
  unfold fractionPart at h
  split at h
  · next s =>
    obtain ⟨⟨digits, left⟩, run, h⟩ := ok_of_bind h
    obtain ⟨-, rfl⟩ := Prod.mk.inj (Except.ok.inj h)
    obtain ⟨digits_ok, rfl⟩ := digitRun_ok run
    exact ⟨'.' :: digits, .inr ⟨digits, rfl, digits_ok⟩, rfl⟩
  · obtain ⟨-, rfl⟩ := Prod.mk.inj (Except.ok.inj h)
    exact ⟨[], .inl rfl, rfl⟩

theorem exponentPart_ok {isZero : Bool} {n : Option Int}
    (h : exponentPart isZero s = .ok (n, rest)) : ∃ t, IsExponent t ∧ s = t ++ rest := by
  unfold exponentPart at h
  split at h
  case h_3 =>
    obtain ⟨-, rfl⟩ := Prod.mk.inj (Except.ok.inj h)
    exact ⟨[], .inl rfl, rfl⟩
  -- Both letters are followed by the same.
  all_goals
    next s =>
    split at h
    next negative unsigned cut =>
    have signed : ∃ t, s = t ++ unsigned ∧ (t = [] ∨ t = ['+'] ∨ t = ['-']) := by
      split at cut
      · obtain ⟨-, rfl⟩ := Prod.mk.inj cut
        exact ⟨['+'], rfl, .inr (.inl rfl)⟩
      · obtain ⟨-, rfl⟩ := Prod.mk.inj cut
        exact ⟨['-'], rfl, .inr (.inr rfl)⟩
      · obtain ⟨-, rfl⟩ := Prod.mk.inj cut
        exact ⟨[], rfl, .inl rfl⟩
    obtain ⟨sign, rfl, sign_ok⟩ := signed
    obtain ⟨⟨digits, left⟩, run, h⟩ := ok_of_bind h
    obtain ⟨digits_ok, rfl⟩ := digitRun_ok run
    have left_eq : left = rest := by
      simp only at h
      split at h
      · split at h
        · cases h
        · exact (Prod.mk.inj (Except.ok.inj h)).2
      · exact (Prod.mk.inj (Except.ok.inj h)).2
    rw [left_eq, ← List.append_assoc]
    exact ⟨_, .inr ⟨_, sign, digits, rfl, by decide, sign_ok, digits_ok⟩, rfl⟩

theorem numeral_ok {n : Numeral} (h : numeral s = .ok (n, rest)) :
    ∃ t, IsNumber t ∧ s = t ++ rest := by
  unfold numeral at h
  split at h
  next negative unsigned sign =>
  have signed : ∃ minus, s = minus ++ unsigned ∧ (minus = [] ∨ minus = ['-']) := by
    split at sign
    · obtain ⟨-, rfl⟩ := Prod.mk.inj sign
      exact ⟨['-'], rfl, .inr rfl⟩
    · obtain ⟨-, rfl⟩ := Prod.mk.inj sign
      exact ⟨[], rfl, .inl rfl⟩
  obtain ⟨minus, rfl, minus_ok⟩ := signed
  obtain ⟨⟨whole, s⟩, whole_read, h⟩ := ok_of_bind h
  obtain ⟨⟨fraction, s'⟩, fraction_read, h⟩ := ok_of_bind h
  obtain ⟨⟨exponent, s''⟩, exponent_read, h⟩ := ok_of_bind h
  obtain ⟨-, rfl⟩ := Prod.mk.inj (Except.ok.inj h)
  obtain ⟨whole_ok, rfl⟩ := wholePart_ok whole_read
  obtain ⟨fraction, fraction_ok, rfl⟩ := fractionPart_ok fraction_read
  obtain ⟨exponent, exponent_ok, rfl⟩ := exponentPart_ok exponent_read
  exact ⟨_, ⟨minus, whole, fraction, exponent, rfl, minus_ok, whole_ok, fraction_ok, exponent_ok⟩,
    by simp⟩

/-! ## Strings -/

theorem isHexDigit_of_value? {n : Nat} (h : Hex.value? s = some n) : ∀ c ∈ s, IsHexDigit c := by
  rw [Hex.value?] at h
  generalize 0 = value at h
  induction s generalizing value with
  | nil => exact fun c mem => absurd mem List.not_mem_nil
  | cons d s ih =>
    rw [List.foldlM_cons, Option.bind_eq_bind, Option.bind_eq_some_iff] at h
    obtain ⟨next, digit, h⟩ := h
    intro c mem
    rcases List.mem_cons.1 mem with rfl | mem
    · rw [IsHexDigit, ← Option.isSome_map, digit]
      rfl
    · exact ih next h c mem

theorem unit_ok {n : Nat} (h : unit s = .ok (n, rest)) :
    ∃ a b c d, s = a :: b :: c :: d :: rest ∧ IsHexDigit a ∧ IsHexDigit b ∧ IsHexDigit c ∧
      IsHexDigit d := by
  unfold unit at h
  split at h
  · next a b c d n four value =>
    obtain ⟨-, rfl⟩ := Prod.mk.inj (Except.ok.inj h)
    have digits := isHexDigit_of_value? value
    rw [four] at digits
    refine ⟨a, b, c, d, ?_, ?_⟩
    · rw [← List.take_append_drop 4 s, four]
      rfl
    · simpa using digits
  · split at h <;> cases h

theorem surrogatePair_ok {n : Nat} {c : Char} (h : surrogatePair n s = .ok (c, rest)) :
    ∃ t, IsBody t ∧ s = t ++ rest := by
  unfold surrogatePair at h
  split at h
  case h_3 s =>
    obtain ⟨⟨low, left⟩, read, found⟩ := ok_of_bind h
    obtain ⟨a, b, c, d, rfl, ha, hb, hc, hd⟩ := unit_ok read
    simp only at found
    split at found
    · obtain ⟨-, rfl⟩ := Prod.mk.inj (Except.ok.inj found)
      exact ⟨_, .unit ha hb hc hd .nil, rfl⟩
    · cases found
  all_goals cases h

theorem escaped_ok {c : Char} (h : escaped s = .ok (c, rest)) :
    ∃ t, IsBody ('\\' :: t) ∧ s = t ++ rest := by
  unfold escaped at h
  split at h
  case h_10 s =>
    obtain ⟨⟨n, left⟩, read, found⟩ := ok_of_bind h
    obtain ⟨a, b, c, d, rfl, ha, hb, hc, hd⟩ := unit_ok read
    simp only at found
    split at found
    · cases found
    · split at found
      · obtain ⟨t, body, rfl⟩ := surrogatePair_ok found
        exact ⟨_, .unit ha hb hc hd body, rfl⟩
      · obtain ⟨-, rfl⟩ := Prod.mk.inj (Except.ok.inj found)
        exact ⟨_, .unit ha hb hc hd .nil, rfl⟩
  case h_1 => cases h
  case h_11 => cases h
  all_goals
    obtain ⟨-, rfl⟩ := Prod.mk.inj (Except.ok.inj h)
    exact ⟨_, .escape (by decide) .nil, rfl⟩

theorem characters_ok {fuel : Nat} {cs : List Char} (h : characters fuel s = .ok (cs, rest)) :
    ∃ body, IsBody body ∧ s = body ++ '"' :: rest := by
  induction fuel generalizing s cs with
  | zero => cases h
  | succ fuel ih =>
    unfold characters at h
    split at h
    · cases h
    · obtain ⟨-, rfl⟩ := Prod.mk.inj (Except.ok.inj h)
      exact ⟨[], .nil, rfl⟩
    · obtain ⟨⟨c, left⟩, read, h⟩ := ok_of_bind h
      obtain ⟨⟨cs, last⟩, more, h⟩ := ok_of_bind h
      obtain ⟨-, rfl⟩ := Prod.mk.inj (Except.ok.inj h)
      obtain ⟨t, escape, rfl⟩ := escaped_ok read
      obtain ⟨body, body_ok, rfl⟩ := ih more
      exact ⟨_, escape.append body_ok, by simp⟩
    · next c s quote backslash =>
      split at h
      · cases h
      · next visible =>
        obtain ⟨⟨cs, last⟩, more, h⟩ := ok_of_bind h
        obtain ⟨-, rfl⟩ := Prod.mk.inj (Except.ok.inj h)
        obtain ⟨body, body_ok, rfl⟩ := ih more
        exact ⟨c :: body, .plain quote backslash (Nat.le_of_not_lt visible) body_ok, rfl⟩

theorem string_ok {text : String} (h : string s = .ok (text, rest)) :
    ∃ body, IsBody body ∧ s = body ++ '"' :: rest := by
  unfold string at h
  obtain ⟨⟨cs, left⟩, read, h⟩ := ok_of_bind h
  obtain ⟨-, rfl⟩ := Prod.mk.inj (Except.ok.inj h)
  exact characters_ok read

/-! ## Phrases -/

/-- The text begins with a phrase, and `rest` is left behind it. -/
def Begins (phrase : Phrase) (s rest : List Char) : Prop :=
  ∃ tokens, Derives phrase tokens ∧ s = spell tokens ++ rest

theorem Begins.skip_front {phrase : Phrase} (h : Begins phrase (skipSpace s) rest) :
    Begins phrase s rest := by
  obtain ⟨tokens, derives, text⟩ := h
  refine ⟨blanks s ++ tokens ++ [], .spaced (blanks_blanks s) derives nofun, ?_⟩
  simpa using (spell_blanks_append text).symm

theorem Begins.skip_back {phrase : Phrase} (h : Begins phrase s rest) :
    Begins phrase s (skipSpace rest) := by
  obtain ⟨tokens, derives, rfl⟩ := h
  refine ⟨[] ++ tokens ++ blanks rest, .spaced nofun derives (blanks_blanks rest), ?_⟩
  simp [spell_blanks_append rfl]

theorem Begins.items_cons (first : Begins .value s (',' :: rest)) {rest' : List Char}
    (more : Begins .items rest rest') : Begins .items s rest' := by
  obtain ⟨ts, derives, rfl⟩ := first
  obtain ⟨us, derives', rfl⟩ := more
  exact ⟨_, .moreItems (.item derives) derives', by simp [Token.text]⟩

theorem Begins.entry {name value : List Char} (name_ok : IsBody name)
    (separated : skipSpace s = ':' :: value) (value_ok : Begins .value value rest) :
    Begins .entries ('"' :: name ++ '"' :: s) rest := by
  obtain ⟨ts, derives, rfl⟩ := value_ok
  refine ⟨_, .entry name_ok (blanks_blanks s) derives, ?_⟩
  simpa [Token.text] using (spell_blanks_append separated).symm

theorem Begins.entries_cons (first : Begins .entries s (',' :: rest)) {rest' : List Char}
    (more : Begins .entries rest rest') : Begins .entries s rest' := by
  obtain ⟨ts, derives, rfl⟩ := first
  obtain ⟨us, derives', rfl⟩ := more
  exact ⟨_, .moreEntries derives derives', by simp [Token.text]⟩

section Lists

variable {α : Type} {item : Reader α} {fuel : Nat}

theorem itemsFrom_ok (item_ok : ∀ {s v rest}, item s = .ok (v, rest) → Begins .value s rest)
    {vs : List α} (h : itemsFrom item fuel s = .ok (vs, rest)) :
    Begins .items s (']' :: rest) := by
  induction fuel generalizing s vs with
  | zero => cases h
  | succ fuel ih =>
    unfold itemsFrom at h
    obtain ⟨⟨v, left⟩, read, h⟩ := ok_of_bind h
    have first := (item_ok read).skip_back
    simp only at h
    split at h
    · cases h
    · next behind =>
      obtain ⟨-, rfl⟩ := Prod.mk.inj (Except.ok.inj h)
      rw [behind] at first
      obtain ⟨ts, derives, text⟩ := first
      exact ⟨ts, .item derives, text⟩
    · next behind =>
      rw [behind] at first
      split at h
      · cases h
      · cases h
      · obtain ⟨⟨others, last⟩, more, h⟩ := ok_of_bind h
        obtain ⟨-, rfl⟩ := Prod.mk.inj (Except.ok.inj h)
        exact first.items_cons (ih more).skip_front
    · cases h

theorem colon_ok (h : colon s = .ok ((), rest)) : skipSpace s = ':' :: rest := by
  unfold colon at h
  split at h
  · cases h
  · next behind =>
    obtain ⟨-, rfl⟩ := Prod.mk.inj (Except.ok.inj h)
    exact behind
  · cases h

theorem entriesFrom_ok (item_ok : ∀ {s v rest}, item s = .ok (v, rest) → Begins .value s rest)
    {es : List (String × α)} (h : entriesFrom item fuel s = .ok (es, rest)) :
    Begins .entries s ('}' :: rest) := by
  induction fuel generalizing s es with
  | zero => cases h
  | succ fuel ih =>
    unfold entriesFrom at h
    split at h
    · next s =>
      obtain ⟨⟨name, afterName⟩, name_read, h⟩ := ok_of_bind h
      obtain ⟨⟨⟨⟩, afterColon⟩, colon_read, h⟩ := ok_of_bind h
      obtain ⟨⟨v, left⟩, read, h⟩ := ok_of_bind h
      obtain ⟨body, body_ok, text⟩ := string_ok name_read
      have first : Begins .entries ('"' :: s) (skipSpace left) := by
        rw [text]
        exact (Begins.entry body_ok (colon_ok colon_read) (item_ok read)).skip_back
      simp only at h
      split at h
      · cases h
      · next behind =>
        obtain ⟨-, rfl⟩ := Prod.mk.inj (Except.ok.inj h)
        rwa [behind] at first
      · next behind =>
        rw [behind] at first
        split at h
        · cases h
        · cases h
        · obtain ⟨⟨others, last⟩, more, h⟩ := ok_of_bind h
          obtain ⟨-, rfl⟩ := Prod.mk.inj (Except.ok.inj h)
          exact first.entries_cons (ih more).skip_front
      · cases h
    · cases h

theorem items_ok (item_ok : ∀ {s v rest}, item s = .ok (v, rest) → Begins .value s rest)
    {vs : List α} (h : items item s = .ok (vs, rest)) : Begins .value ('[' :: s) rest := by
  unfold items at h
  split at h
  · cases h
  · next behind =>
    obtain ⟨-, rfl⟩ := Prod.mk.inj (Except.ok.inj h)
    refine ⟨_, .emptyArray (blanks_blanks s), ?_⟩
    simpa [Token.text] using (spell_blanks_append behind).symm
  · obtain ⟨ts, derives, text⟩ := (itemsFrom_ok item_ok h).skip_front
    exact ⟨_, .array derives, by simp [Token.text, text]⟩

theorem items_nil (h : items item s = .ok ([], rest)) : skipSpace s = ']' :: rest := by
  unfold items at h
  split at h
  · cases h
  · next behind =>
    obtain ⟨-, rfl⟩ := Prod.mk.inj (Except.ok.inj h)
    exact behind
  · unfold itemsFrom at h
    obtain ⟨⟨v, left⟩, -, h⟩ := ok_of_bind h
    simp only at h
    split at h
    · cases h
    · cases h
    · split at h
      · cases h
      · cases h
      · obtain ⟨⟨others, last⟩, -, h⟩ := ok_of_bind h
        cases h
    · cases h

theorem entries_ok (item_ok : ∀ {s v rest}, item s = .ok (v, rest) → Begins .value s rest)
    {es : List (String × α)} (h : entries item s = .ok (es, rest)) :
    Begins .value ('{' :: s) rest := by
  unfold entries at h
  split at h
  · cases h
  · next behind =>
    obtain ⟨-, rfl⟩ := Prod.mk.inj (Except.ok.inj h)
    refine ⟨_, .emptyObject (blanks_blanks s), ?_⟩
    simpa [Token.text] using (spell_blanks_append behind).symm
  · obtain ⟨ts, derives, text⟩ := (entriesFrom_ok item_ok h).skip_front
    exact ⟨_, .object derives, by simp [Token.text, text]⟩

end Lists

theorem number_ok {v : Json} (h : number s = .ok (v, rest)) : Begins .value s rest := by
  unfold number at h
  obtain ⟨⟨n, left⟩, read, found⟩ := ok_of_bind h
  obtain ⟨t, written, rfl⟩ := numeral_ok read
  have left_eq : left = rest := by
    simp only at found
    split at found
    · exact (Prod.mk.inj (Except.ok.inj found)).2
    · split at found
      · exact (Prod.mk.inj (Except.ok.inj found)).2
      · cases found
  exact ⟨_, .number written, by simp [Token.text, left_eq]⟩

theorem known_word_ok {c : Char} {letters : List Char} (known : c :: letters ∈ words) {v w : Json}
    (h : (word letters s >>= fun p => Except.ok (w, p.2)) = .ok (v, rest)) :
    Begins .value (c :: s) rest := by
  obtain ⟨⟨⟨⟩, left⟩, read, found⟩ := ok_of_bind h
  obtain ⟨-, rfl⟩ := Prod.mk.inj (Except.ok.inj found)
  exact ⟨_, .word known, by simp [Token.text, word_ok read]⟩

theorem value_bracket {depth : Nat} {v : Json} (h : value (depth + 1) ('[' :: s) = .ok (v, rest)) :
    ∃ elements, v = .array elements ∧ items (value depth) s = .ok (elements, rest) := by
  unfold value at h
  have front : skipSpace ('[' :: s) = '[' :: s := List.dropWhile_cons_of_neg (by decide)
  rw [front] at h
  obtain ⟨⟨elements, left⟩, read, found⟩ := ok_of_bind h
  obtain ⟨rfl, rfl⟩ := Prod.mk.inj (Except.ok.inj found)
  exact ⟨elements, rfl, read⟩

theorem finish_ok (h : finish s = .ok ()) : skipSpace s = [] := by
  unfold finish at h
  split at h
  · assumption
  · cases h

theorem value_ok {depth : Nat} {v : Json} (h : value depth s = .ok (v, rest)) :
    Begins .value s rest := by
  induction depth using Nat.strongRecOn generalizing s v rest with
  | ind depth ih =>
  unfold value at h
  refine Begins.skip_front ?_
  split at h
  · cases h
  · next behind => rw [behind]; exact known_word_ok (by decide) h
  · next behind => rw [behind]; exact known_word_ok (by decide) h
  · next behind => rw [behind]; exact known_word_ok (by decide) h
  · next behind =>
    obtain ⟨⟨text, left⟩, read, found⟩ := ok_of_bind h
    obtain ⟨-, rfl⟩ := Prod.mk.inj (Except.ok.inj found)
    obtain ⟨body, body_ok, text⟩ := string_ok read
    exact ⟨_, .string body_ok, by simp [Token.text, behind, text]⟩
  · next behind =>
    rw [behind]
    split at h
    · cases h
    · next depth =>
      obtain ⟨⟨elements, left⟩, read, found⟩ := ok_of_bind h
      obtain ⟨-, rfl⟩ := Prod.mk.inj (Except.ok.inj found)
      exact items_ok (ih depth (Nat.lt_succ_self depth)) read
  · next behind =>
    rw [behind]
    split at h
    · cases h
    · next depth =>
      obtain ⟨⟨members, left⟩, read, found⟩ := ok_of_bind h
      obtain ⟨-, rfl⟩ := Prod.mk.inj (Except.ok.inj found)
      exact entries_ok (ih depth (Nat.lt_succ_self depth)) read
  · next behind =>
    split at h
    · rw [behind]; exact number_ok h
    · cases h

end Reader

theorem parse_ok {text : List Char} {v : Json} (h : parse text = .ok v) :
    ∃ rest, Reader.value nestingLimit text = .ok (v, rest) ∧ Reader.skipSpace rest = [] := by
  unfold parse at h
  cases read : Reader.value nestingLimit text with
  | error e => simp [read, bind, Except.bind, Except.mapError] at h
  | ok found =>
    obtain ⟨w, rest⟩ := found
    cases finished : Reader.finish rest with
    | error e => simp [read, finished, bind, Except.bind, Except.mapError] at h
    | ok u =>
      obtain rfl : w = v := by
        simpa [read, finished, bind, Except.bind, Except.mapError, pure, Except.pure] using h
      exact ⟨rest, rfl, Reader.finish_ok finished⟩

theorem isText_of_parse {text : List Char} {v : Json} (h : parse text = .ok v) : IsText text := by
  obtain ⟨rest, read, done⟩ := parse_ok h
  obtain ⟨tokens, derives, spelt⟩ := (Reader.value_ok read).skip_back
  exact ⟨tokens, derives, by rw [spelt, done, List.append_nil]⟩

end DocTable.Json
