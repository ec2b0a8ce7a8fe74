import DocTable.Proofs.Json.Reading

/-!
# What follows does not matter

A reader that succeeds takes a part off the front of the text, and takes the same part as the same
value with anything else behind it, as long as no number goes on there. Here for numbers and
strings; `Items` has arrays, objects and values.
-/

namespace DocTable.Json.Reader

variable {α : Type} {s t rest more gap : List Char} {c : Char}

/-! ## What may follow -/

/-- The text begins with no digit and with none of the given characters. -/
def Avoids (cs s : List Char) : Prop := ∀ c ∈ s.head?, Digits.isDigit c = false ∧ c ∉ cs

/-- A number in front of the text ends there. -/
abbrev Breaks : List Char → Prop := Avoids ['.', 'e', 'E']

def Takes (r : Reader α) (t : List Char) (a : α) : Prop :=
  ∀ more, Breaks more → r (t ++ more) = .ok (a, more)

def Local (r : Reader α) : Prop :=
  ∀ {s a rest}, r s = .ok (a, rest) → ∃ t, s = t ++ rest ∧ Takes r t a

theorem Avoids.mono {cs ds : List Char} (h : Avoids ds s) (sub : cs ⊆ ds) : Avoids cs s :=
  fun c mem => ⟨(h c mem).1, fun known => (h c mem).2 (sub known)⟩

theorem avoids_cons {cs : List Char} (digit : Digits.isDigit c = false) (other : c ∉ cs) :
    Avoids cs (c :: s) := by
  intro d mem
  obtain rfl : c = d := by simpa using mem
  exact ⟨digit, other⟩

theorem isSpace_cases (h : isSpace c = true) :
    c = ' ' ∨ c = '\n' ∨ c = '\t' ∨ c = '\r' := by
  simpa [isSpace, or_assoc] using h

theorem breaks_gap (space : ∀ c ∈ gap, isSpace c = true) (h : Breaks more) :
    Breaks (gap ++ more) := by
  cases gap with
  | nil => exact h
  | cons c gap =>
    have blank := isSpace_cases (space c (List.mem_cons_self ..))
    rcases blank with rfl | rfl | rfl | rfl <;> exact avoids_cons (by decide) (by decide)

/-! ## Blanks -/

theorem skipSpace_append (space : ∀ c ∈ gap, isSpace c = true) :
    skipSpace (gap ++ s) = skipSpace s :=
  List.dropWhile_append_of_pos space

theorem skipSpace_cons (h : isSpace c = false) : skipSpace (c :: s) = c :: s :=
  List.dropWhile_cons_of_neg (by simp [h])

theorem skipSpace_gap (space : ∀ c ∈ gap, isSpace c = true) (h : isSpace c = false) :
    skipSpace (gap ++ c :: s) = c :: s := by
  rw [skipSpace_append space, skipSpace_cons h]

theorem exists_gap (s : List Char) :
    ∃ gap, (∀ c ∈ gap, isSpace c = true) ∧ s = gap ++ skipSpace s :=
  ⟨s.takeWhile isSpace, fun _ mem => List.mem_takeWhile_imp mem,
    List.takeWhile_append_dropWhile.symm⟩

theorem isSpace_of_skipSpace (h : skipSpace s = c :: rest) : isSpace c = false := by
  have first := List.head?_dropWhile_not isSpace s
  rw [show s.dropWhile isSpace = c :: rest from h] at first
  simpa using first

theorem skipSpace_skipSpace (s : List Char) : skipSpace (skipSpace s) = skipSpace s := by
  cases behind : skipSpace s with
  | nil => rfl
  | cons c rest => exact skipSpace_cons (isSpace_of_skipSpace behind)

/-! ## Words and numbers -/

theorem word_append (letters more : List Char) :
    word letters (letters ++ more) = .ok ((), more) := by
  induction letters with
  | nil => rfl
  | cons l letters ih => simpa [word] using ih

theorem digitRun_append {digits : List Char} (run : IsDigits digits) (h : Avoids [] more) :
    digitRun (digits ++ more) = .ok (digits, more) := by
  have stop : more.takeWhile Digits.isDigit = [] ∧ more.dropWhile Digits.isDigit = more := by
    cases more with
    | nil => exact ⟨rfl, rfl⟩
    | cons c more => simp [(h c rfl).1]
  have taken : (digits ++ more).takeWhile Digits.isDigit = digits := by
    rw [List.takeWhile_append_of_pos run.2, stop.1, List.append_nil]
  have left : (digits ++ more).dropWhile Digits.isDigit = more := by
    rw [List.dropWhile_append_of_pos run.2, stop.2]
  cases digits with
  | nil => exact absurd rfl run.1
  | cons d digits =>
    rw [List.cons_append] at taken left ⊢
    rw [digitRun, if_pos (run.2 d (List.mem_cons_self ..)), taken, left]

theorem digitRun_stops {digits : List Char} (h : digitRun s = .ok (digits, rest)) :
    IsDigits digits ∧ Avoids [] rest ∧ s = digits ++ rest := by
  obtain ⟨run, text⟩ := digitRun_ok h
  refine ⟨run, fun c mem => ⟨?_, List.not_mem_nil⟩, text⟩
  unfold digitRun at h
  split at h
  · cases h
  · next d s =>
    split at h
    · obtain ⟨-, rfl⟩ := Prod.mk.inj (Except.ok.inj h)
      have first := List.head?_dropWhile_not Digits.isDigit (d :: s)
      rw [Option.mem_def.1 mem] at first
      exact first
    · cases h

theorem wholePart_append {digits : List Char} (whole : IsWhole digits) (h : Avoids [] more) :
    wholePart (digits ++ more) = .ok (digits, more) := by
  rcases whole with rfl | ⟨run, first⟩
  · cases more with
    | nil => rfl
    | cons c more => simp [wholePart, (h c rfl).1]
  · rw [← digitRun_append run h]
    unfold wholePart
    split
    · next c s same =>
      cases digits with
      | nil => exact absurd rfl run.1
      | cons d digits => exact absurd (by simpa using congrArg List.head? same) first
    · rfl

theorem fractionPart_of_avoids (h : Avoids ['.'] more) : fractionPart more = .ok (none, more) := by
  unfold fractionPart
  split
  · exact absurd (h '.' rfl).2 (by simp)
  · rfl

theorem exponentPart_of_breaks {isZero : Bool} (h : Breaks more) :
    exponentPart isZero more = .ok (none, more) := by
  unfold exponentPart
  split
  · exact absurd (h 'e' rfl).2 (by simp)
  · exact absurd (h 'E' rfl).2 (by simp)
  · rfl

theorem fractionPart_local {digits : Option (List Char)}
    (h : fractionPart s = .ok (digits, rest)) :
    ∃ t, s = t ++ rest ∧ ∀ more, Avoids ['.'] more →
      Avoids [] (t ++ more) ∧ fractionPart (t ++ more) = .ok (digits, more) := by
  unfold fractionPart at h
  split at h
  · next s =>
    obtain ⟨⟨digits, left⟩, read, h⟩ := ok_of_bind h
    obtain ⟨rfl, rfl⟩ := Prod.mk.inj (Except.ok.inj h)
    obtain ⟨run, rfl⟩ := digitRun_ok read
    refine ⟨'.' :: digits, rfl, fun more stop => ⟨avoids_cons (by decide) (by simp), ?_⟩⟩
    simp [fractionPart, digitRun_append run (stop.mono (List.nil_subset _)), bind, Except.bind]
  · obtain ⟨rfl, rfl⟩ := Prod.mk.inj (Except.ok.inj h)
    exact ⟨[], rfl, fun more stop => ⟨stop.mono (List.nil_subset _), fractionPart_of_avoids stop⟩⟩

theorem overflow?_append {digits : List Char} (run : ∀ c ∈ digits, Digits.isDigit c = true)
    (h : Avoids [] more) (n : Nat) :
    overflow? n (digits ++ more) = (overflow? n digits).map (· ++ more) := by
  induction digits generalizing n with
  | nil =>
    cases more with
    | nil => rfl
    | cons c more => simp [overflow?, (h c rfl).1]
  | cons d digits ih =>
    rw [List.forall_mem_cons] at run
    simp only [List.cons_append, overflow?, run.1, if_true]
    split
    · rfl
    · exact ih run.2 _

def exponentDigits (isZero negative : Bool) : Reader (Option Int) := fun s => do
  let (digits, left) ← digitRun s
  let exponent := Digits.value digits
  match overflow? 0 s with
  | some behind =>
    if !negative && !isZero then failAt .numberOutOfRange behind
    else .ok (some (if negative then -exponent else exponent), left)
  | none => .ok (some (if negative then -exponent else exponent), left)

theorem exponentDigits_append {isZero negative : Bool} {digits : List Char} (run : IsDigits digits)
    (h : Avoids [] more) :
    exponentDigits isZero negative (digits ++ more) =
      if (overflow? 0 digits).isSome && !negative && !isZero then
        failAt .numberOutOfRange (((overflow? 0 digits).getD []) ++ more)
      else
        .ok (some (if negative then -(Digits.value digits : Int) else Digits.value digits),
          more) := by
  rw [exponentDigits, digitRun_append run h, overflow?_append run.2 h]
  cases overflow? 0 digits <;> simp [bind, Except.bind]

theorem exponentDigits_local {isZero negative : Bool} {n : Option Int}
    (h : exponentDigits isZero negative s = .ok (n, rest)) :
    ∃ digits, s = digits ++ rest ∧ IsDigits digits ∧ ∀ more, Avoids [] more →
      exponentDigits isZero negative (digits ++ more) = .ok (n, more) := by
  obtain ⟨⟨digits, left⟩, read, -⟩ := ok_of_bind h
  obtain ⟨run, stop, rfl⟩ := digitRun_stops read
  rw [exponentDigits_append run stop] at h
  split at h
  · cases h
  · next fits =>
    obtain ⟨rfl, rfl⟩ := Prod.mk.inj (Except.ok.inj h)
    refine ⟨digits, rfl, run, fun more after => ?_⟩
    rw [exponentDigits_append run after, if_neg fits]

def exponentSign : List Char → Bool × List Char
  | '+' :: rest => (false, rest)
  | '-' :: rest => (true, rest)
  | rest => (false, rest)

theorem exponentSign_local (s : List Char) :
    ∃ sign, s = sign ++ (exponentSign s).2 ∧ ∀ digits more, IsDigits digits →
      exponentSign (sign ++ (digits ++ more)) = ((exponentSign s).1, digits ++ more) := by
  unfold exponentSign
  split
  · exact ⟨['+'], rfl, fun _ _ _ => rfl⟩
  · exact ⟨['-'], rfl, fun _ _ _ => rfl⟩
  · refine ⟨[], rfl, fun digits more run => ?_⟩
    obtain ⟨d, digits, rfl⟩ := List.exists_cons_of_ne_nil run.1
    have digit := run.2 d (List.mem_cons_self ..)
    split
    · next same =>
      obtain ⟨rfl, -⟩ := List.cons.inj same
      cases digit
    · next same =>
      obtain ⟨rfl, -⟩ := List.cons.inj same
      cases digit
    · rfl

theorem exponentPart_letter {isZero : Bool} {e : Char} (letter : e = 'e' ∨ e = 'E') :
    exponentPart isZero (e :: s) =
      exponentDigits isZero (exponentSign s).1 (exponentSign s).2 := by
  rcases letter with rfl | rfl <;> rfl

theorem exponentPart_local {isZero : Bool} {n : Option Int}
    (h : exponentPart isZero s = .ok (n, rest)) :
    ∃ t, s = t ++ rest ∧ ∀ more, Breaks more →
      Avoids ['.'] (t ++ more) ∧ exponentPart isZero (t ++ more) = .ok (n, more) := by
  by_cases letter : ∃ e s', s = e :: s' ∧ (e = 'e' ∨ e = 'E')
  · obtain ⟨e, s, rfl, letter⟩ := letter
    rw [exponentPart_letter letter] at h
    obtain ⟨digits, text, run, reads⟩ := exponentDigits_local h
    obtain ⟨sign, signed, again⟩ := exponentSign_local s
    refine ⟨e :: sign ++ digits, ?_, fun more stop => ⟨?_, ?_⟩⟩
    · rw [signed, text]
      simp
    · rcases letter with rfl | rfl <;> exact avoids_cons (by decide) (by decide)
    · rw [List.append_assoc, List.cons_append, exponentPart_letter letter, again digits more run,
        reads more (stop.mono (List.nil_subset _))]
  · have none : exponentPart isZero s = .ok (none, s) := by
      unfold exponentPart
      split
      · exact absurd ⟨_, _, rfl, .inl rfl⟩ letter
      · exact absurd ⟨_, _, rfl, .inr rfl⟩ letter
      · rfl
    rw [none] at h
    obtain ⟨rfl, rfl⟩ := Prod.mk.inj (Except.ok.inj h)
    exact ⟨[], rfl, fun more stop => ⟨stop.mono (by simp), exponentPart_of_breaks stop⟩⟩

theorem exists_digit_of_isWhole {whole : List Char} (h : IsWhole whole) :
    ∃ d digits, whole = d :: digits ∧ Digits.isDigit d = true := by
  rcases h with rfl | ⟨run, -⟩
  · exact ⟨'0', [], rfl, rfl⟩
  · obtain ⟨d, digits, rfl⟩ := List.exists_cons_of_ne_nil run.1
    exact ⟨d, digits, rfl, run.2 d (List.mem_cons_self ..)⟩

theorem numeral_append {minus whole others others' : List Char} {fraction : Option (List Char)}
    {exponent : Option Int} (minus_ok : minus = [] ∨ minus = ['-']) (whole_ok : IsWhole whole)
    (stop : Avoids [] others) (fraction_read : fractionPart others = .ok (fraction, others'))
    (exponent_read : exponentPart
      (whole.all (· == '0') && (fraction.getD []).all (· == '0')) others' = .ok (exponent, more)) :
    numeral (minus ++ (whole ++ others)) =
      .ok (⟨decide (minus ≠ []), whole, fraction.getD [], exponent.getD 0,
        fraction.isNone && exponent.isNone⟩, more) := by
  have whole_read := wholePart_append whole_ok stop
  rcases minus_ok with rfl | rfl
  · have unsigned : ∀ s, whole ++ others ≠ '-' :: s := by
      obtain ⟨d, digits, rfl, digit⟩ := exists_digit_of_isWhole whole_ok
      intro s same
      obtain ⟨rfl, -⟩ := List.cons.inj same
      cases digit
    rw [List.nil_append, numeral]
    · simp [whole_read, fraction_read, exponent_read, bind, Except.bind]
    · exact unsigned
  · simp [numeral, whole_read, fraction_read, exponent_read, bind, Except.bind]

theorem numeral_local : Local numeral := by
  intro s n rest h
  unfold numeral at h
  split at h
  next negative unsigned sign =>
  have signed : ∃ minus, s = minus ++ unsigned ∧ (minus = [] ∨ minus = ['-']) ∧
      negative = decide (minus ≠ []) := by
    split at sign <;> obtain ⟨rfl, rfl⟩ := Prod.mk.inj sign
    · exact ⟨['-'], rfl, .inr rfl, rfl⟩
    · exact ⟨[], rfl, .inl rfl, rfl⟩
  obtain ⟨minus, rfl, minus_ok, rfl⟩ := signed
  obtain ⟨⟨whole, s₁⟩, whole_read, h⟩ := ok_of_bind h
  obtain ⟨⟨fraction, s₂⟩, fraction_read, h⟩ := ok_of_bind h
  obtain ⟨⟨exponent, s₃⟩, exponent_read, h⟩ := ok_of_bind h
  obtain ⟨rfl, rfl⟩ := Prod.mk.inj (Except.ok.inj h)
  obtain ⟨whole_ok, rfl⟩ := wholePart_ok whole_read
  obtain ⟨t, rfl, fraction_reads⟩ := fractionPart_local fraction_read
  obtain ⟨u, rfl, exponent_reads⟩ := exponentPart_local exponent_read
  refine ⟨minus ++ (whole ++ (t ++ u)), by simp, fun more stop => ?_⟩
  obtain ⟨stop', exponent_read'⟩ := exponent_reads more stop
  obtain ⟨stop'', fraction_read'⟩ := fraction_reads _ stop'
  simpa using numeral_append minus_ok whole_ok stop'' fraction_read' exponent_read'

theorem number_local : Local number := by
  intro s v rest h
  unfold number at h
  obtain ⟨⟨n, left⟩, read, found⟩ := ok_of_bind h
  obtain ⟨t, rfl, takes⟩ := numeral_local read
  cases value : n.integer? with
  | some i =>
    simp only [value, Except.ok.injEq, Prod.mk.injEq] at found
    obtain ⟨rfl, rfl⟩ := found
    refine ⟨t, rfl, fun more stop => ?_⟩
    simp [number, takes more stop, value, bind, Except.bind]
  | none =>
    simp only [value] at found
    split at found
    · next finite =>
      obtain ⟨rfl, rfl⟩ := Prod.mk.inj (Except.ok.inj found)
      refine ⟨t, rfl, fun more stop => ?_⟩
      simp [number, takes more stop, value, finite, bind, Except.bind]
    · cases found

theorem isSpace_of_isDigit (h : Digits.isDigit c = true) : isSpace c = false := by
  cases space : isSpace c with
  | false => rfl
  | true => rcases isSpace_cases space with rfl | rfl | rfl | rfl <;> cases h

theorem value_number {depth : Nat} (head : c = '-' ∨ Digits.isDigit c = true) :
    value depth (c :: s) = number (c :: s) := by
  have space : isSpace c = false := by
    rcases head with rfl | digit
    · rfl
    · exact isSpace_of_isDigit digit
  rw [value.eq_def, skipSpace_cons space]
  split
  case h_8 c' s' _ _ _ _ _ _ same =>
    obtain ⟨rfl, rfl⟩ := List.cons.inj same
    exact if_pos (by simpa using head)
  case h_1 same => cases same
  all_goals
    next same =>
    obtain ⟨rfl, -⟩ := List.cons.inj same
    exact absurd head (by decide)

/-! ## Strings -/

theorem unit_local {n : Nat} (h : unit s = .ok (n, rest)) :
    ∃ t, s = t ++ rest ∧ ∀ more, unit (t ++ more) = .ok (n, more) := by
  obtain ⟨a, b, c, d, rfl, -⟩ := unit_ok h
  refine ⟨[a, b, c, d], rfl, fun more => ?_⟩
  have value : Hex.value? [a, b, c, d] = some n := by
    cases value : Hex.value? [a, b, c, d] with
    | none =>
      simp only [unit, List.take_succ_cons, List.take_zero, value] at h
      split at h <;> cases h
    | some m =>
      simp [unit, value] at h
      rw [h]
  simp [unit, value]

theorem surrogatePair_local {n : Nat} (h : surrogatePair n s = .ok (c, rest)) :
    ∃ t, s = t ++ rest ∧ ∀ more, surrogatePair n (t ++ more) = .ok (c, more) := by
  unfold surrogatePair at h
  split at h
  case h_3 s =>
    obtain ⟨⟨low, left⟩, read, found⟩ := ok_of_bind h
    obtain ⟨t, rfl, reads⟩ := unit_local read
    simp only at found
    split at found
    · next second =>
      obtain ⟨rfl, rfl⟩ := Prod.mk.inj (Except.ok.inj found)
      refine ⟨'\\' :: 'u' :: t, rfl, fun more => ?_⟩
      simp [surrogatePair, reads more, second, bind, Except.bind]
    · cases found
  all_goals cases h

theorem escaped_local (h : escaped s = .ok (c, rest)) :
    ∃ t, s = t ++ rest ∧ ∀ more, escaped (t ++ more) = .ok (c, more) := by
  unfold escaped at h
  split at h
  case h_10 s =>
    obtain ⟨⟨n, left⟩, read, found⟩ := ok_of_bind h
    obtain ⟨t, rfl, reads⟩ := unit_local read
    simp only at found
    split at found
    · cases found
    · next low =>
      split at found
      · next high =>
        obtain ⟨u, rfl, pairs⟩ := surrogatePair_local found
        refine ⟨'u' :: t ++ u, by simp, fun more => ?_⟩
        simp [escaped, reads, low, high, pairs, bind, Except.bind]
      · next high =>
        obtain ⟨rfl, rfl⟩ := Prod.mk.inj (Except.ok.inj found)
        refine ⟨'u' :: t, rfl, fun more => ?_⟩
        simp [escaped, reads, low, high, bind, Except.bind]
  case h_1 => cases h
  case h_11 => cases h
  all_goals
    obtain ⟨rfl, rfl⟩ := Prod.mk.inj (Except.ok.inj h)
    exact ⟨[_], rfl, fun _ => rfl⟩

theorem characters_local {fuel : Nat} {cs : List Char} (h : characters fuel s = .ok (cs, rest)) :
    ∃ t, s = t ++ rest ∧ ∀ more fuel', t.length ≤ fuel' →
      characters fuel' (t ++ more) = .ok (cs, more) := by
  induction fuel generalizing s cs with
  | zero => cases h
  | succ fuel ih =>
    unfold characters at h
    split at h
    · cases h
    · obtain ⟨rfl, rfl⟩ := Prod.mk.inj (Except.ok.inj h)
      refine ⟨['"'], rfl, fun more fuel' enough => ?_⟩
      obtain ⟨fuel', rfl⟩ := Nat.exists_eq_add_of_le' enough
      rfl
    · obtain ⟨⟨c, left⟩, read, h⟩ := ok_of_bind h
      obtain ⟨⟨cs, last⟩, others, h⟩ := ok_of_bind h
      obtain ⟨rfl, rfl⟩ := Prod.mk.inj (Except.ok.inj h)
      obtain ⟨t, rfl, escape⟩ := escaped_local read
      obtain ⟨u, rfl, reads⟩ := ih others
      refine ⟨'\\' :: t ++ u, by simp, fun more fuel' enough => ?_⟩
      cases fuel' with
      | zero => cases enough
      | succ fuel' =>
        have others' := reads more fuel' (by simp at enough; omega)
        simp [characters, escape, others', bind, Except.bind]
    · next c s quote backslash =>
      split at h
      · cases h
      · next visible =>
        obtain ⟨⟨cs, last⟩, others, h⟩ := ok_of_bind h
        obtain ⟨rfl, rfl⟩ := Prod.mk.inj (Except.ok.inj h)
        obtain ⟨t, rfl, reads⟩ := ih others
        refine ⟨c :: t, rfl, fun more fuel' enough => ?_⟩
        cases fuel' with
        | zero => cases enough
        | succ fuel' =>
          have others' := reads more fuel' (by simpa using enough)
          simp [characters, visible, others', bind, Except.bind]

theorem string_local : Local string := by
  intro s text rest h
  unfold string at h
  obtain ⟨⟨cs, left⟩, read, h⟩ := ok_of_bind h
  obtain ⟨rfl, rfl⟩ := Prod.mk.inj (Except.ok.inj h)
  obtain ⟨t, rfl, reads⟩ := characters_local read
  refine ⟨t, rfl, fun more _ => ?_⟩
  have enough : t.length ≤ (t ++ more).length + 1 := by
    rw [List.length_append]
    omega
  rw [string, reads more _ enough]
  rfl

end DocTable.Json.Reader
