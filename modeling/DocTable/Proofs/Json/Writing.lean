import DocTable.Proofs.Json.Depth
import DocTable.Proofs.Json.Locality
import DocTable.Proofs.Number.Digits
import DocTable.Proofs.Text.Codes

/-!
# Reading back what was written

A value without floats whose integers fit and whose names are distinct is read back from its compact
text. Each reader takes exactly what the writer put there and leaves the rest, which begins with a
mark that no number goes on with.
-/

namespace DocTable.Json

/-! ## Values whose text says everything -/

inductive Exact : Json → Prop
  | null : Exact .null
  | bool (b : Bool) : Exact (.bool b)
  | integer {n : Int} : Int64.minValue.toInt ≤ n → n < UInt64.size → Exact (.integer n)
  | string (s : String) : Exact (.string s)
  | array {items : List Json} : (∀ v ∈ items, Exact v) → Exact (.array items)
  | object {entries : List (String × Json)} : (Entries.names entries).Nodup →
      (∀ e ∈ entries, Exact e.2) → Exact (.object entries)

namespace Reader

variable {rest : List Char}

/-- What may follow a value inside an array or an object, or behind the whole text. -/
def Closes (rest : List Char) : Prop := ∀ c ∈ rest.head?, c = ',' ∨ c = ']' ∨ c = '}'

/-! ## Numbers -/

theorem isDigits_toDigits (n : Nat) : IsDigits (Nat.toDigits 10 n) :=
  ⟨Nat.toDigits_ne_nil, fun _ mem => Digits.isDigit_of_mem_toDigits mem⟩

theorem digitChar_ne_zero : ∀ n < 10, 0 < n → n.digitChar ≠ '0' := by decide

theorem head?_toDigits {n : Nat} (h : 0 < n) : (Nat.toDigits 10 n).head? ≠ some '0' := by
  induction n using Nat.strongRecOn with
  | ind n ih =>
    by_cases small : n < 10
    · simp [Nat.toDigits_of_lt_base small, digitChar_ne_zero n small h]
    · rw [Nat.toDigits_of_base_le (by decide) (by omega),
        List.head?_append_of_ne_nil _ Nat.toDigits_ne_nil]
      exact ih (n / 10) (by omega) (by omega)

theorem isWhole_toDigits (n : Nat) : IsWhole (Nat.toDigits 10 n) := by
  cases n with
  | zero => exact .inl rfl
  | succ n => exact .inr ⟨isDigits_toDigits _, head?_toDigits (Nat.succ_pos n)⟩

theorem Closes.breaks (h : Closes rest) : Breaks rest := by
  intro c mem
  rcases h c mem with rfl | rfl | rfl <;> decide

theorem numeral_ofInt (n : Int) (h : Closes rest) :
    numeral (Digits.ofInt n ++ rest) =
      .ok (⟨decide (n < 0), Nat.toDigits 10 n.natAbs, [], 0, true⟩, rest) := by
  have read {minus : List Char} (minus_ok : minus = [] ∨ minus = ['-']) :=
    numeral_append minus_ok (isWhole_toDigits n.natAbs) (h.breaks.mono (List.nil_subset _))
      (fractionPart_of_avoids (h.breaks.mono (by simp))) (exponentPart_of_breaks h.breaks)
  rw [Digits.ofInt]
  split
  · next negative => simpa [negative] using read (.inr rfl)
  · next negative => simpa [negative] using read (.inl rfl)

theorem number_ofInt {n : Int} (least : Int64.minValue.toInt ≤ n) (greatest : n < UInt64.size)
    (h : Closes rest) : number (Digits.ofInt n ++ rest) = .ok (.integer n, rest) := by
  have found :
      Numeral.integer? ⟨decide (n < 0), Nat.toDigits 10 n.natAbs, [], 0, true⟩ = some n := by
    simp only [Numeral.integer?, Digits.value_toDigits, Bool.not_true, Bool.false_eq_true, if_false]
    by_cases negative : n < 0
    · have magnitude : -(n.natAbs : Int) = n := by omega
      have positive : 0 < n.natAbs := by omega
      simp only [negative, magnitude, positive, least, decide_true, Bool.and_self, if_true]
    · have magnitude : (n.natAbs : Int) = n := by omega
      have fits : n.natAbs < UInt64.size := by omega
      simp only [negative, magnitude, fits, decide_false, Bool.false_eq_true, if_false, if_true]
  rw [number, numeral_ofInt n h]
  simp only [bind, Except.bind, found]

/-! ## Strings -/

theorem unit_ofByte (b : UInt8) (rest : List Char) :
    unit ('0' :: '0' :: Hex.ofByte b ++ rest) = .ok (b.toNat, rest) := by
  have value := Hex.value?_ofByte b
  rw [Hex.ofByte] at value
  simp [unit, value, Hex.ofByte]

theorem escaped_ofByte {b : UInt8} (control : b.toNat < 0x20) :
    escaped ('u' :: '0' :: '0' :: Hex.ofByte b ++ rest) = .ok (Char.ofNat b.toNat, rest) := by
  have low : isLowSurrogate b.toNat = false := by
    simp [isLowSurrogate]
    omega
  have high : isHighSurrogate b.toNat = false := by
    simp [isHighSurrogate]
    omega
  have read := unit_ofByte b rest
  simp only [List.cons_append] at read ⊢
  rw [escaped, read]
  simp [bind, Except.bind, low, high]

theorem escape_cases (c : Char) :
    (∃ t, escape c = '\\' :: t ∧ ∀ rest, escaped (t ++ rest) = .ok (c, rest)) ∨
      escape c = [c] ∧ c ≠ '"' ∧ c ≠ '\\' ∧ ¬ c.toNat < 0x20 := by
  unfold escape
  -- the seven characters with a letter of their own
  iterate 7
    split
    · next same => exact .inl ⟨_, rfl, fun rest => by rw [same]; rfl⟩
  split
  · next control =>
    have value : (UInt8.ofNat c.toNat).toNat = c.toNat :=
      UInt8.toNat_ofNat_of_lt' (Nat.lt_trans control (by decide))
    refine .inl ⟨_, rfl, fun rest => ?_⟩
    rw [escaped_ofByte (by omega), value, Char.ofNat_toNat]
  · next quote backslash _ _ _ _ _ visible => exact .inr ⟨rfl, quote, backslash, visible⟩

theorem characters_escape (fuel : Nat) (c : Char) :
    characters (fuel + 1) (escape c ++ rest) =
      (characters fuel rest).map fun (cs, rest) => (c :: cs, rest) := by
  have moved : (characters fuel rest >>= fun (cs, rest) => .ok (c :: cs, rest)) =
      (characters fuel rest).map fun (cs, rest) => (c :: cs, rest) := by
    cases characters fuel rest <;> rfl
  rw [← moved]
  rcases escape_cases c with ⟨t, written, read⟩ | ⟨written, quote, backslash, visible⟩
  · rw [written, List.cons_append, characters, read]
    rfl
  · rw [written, List.singleton_append, characters, if_neg visible]
    · exact quote
    · exact backslash

theorem length_le_escape (cs : List Char) : cs.length ≤ (cs.flatMap escape).length := by
  induction cs with
  | nil => exact Nat.zero_le _
  | cons c cs ih =>
    have one : 1 ≤ (escape c).length := by
      rcases escape_cases c with ⟨t, written, -⟩ | ⟨written, -⟩ <;> simp [written]
    rw [List.flatMap_cons, List.length_append, List.length_cons]
    omega

theorem characters_append {fuel : Nat} {cs : List Char} (enough : cs.length < fuel) :
    characters fuel (cs.flatMap escape ++ '"' :: rest) = .ok (cs, rest) := by
  induction cs generalizing fuel with
  | nil =>
    obtain ⟨fuel, rfl⟩ := Nat.exists_eq_add_of_lt enough
    rfl
  | cons c cs ih =>
    obtain ⟨fuel, rfl⟩ := Nat.exists_eq_add_of_lt enough
    rw [List.flatMap_cons, List.append_assoc, characters_escape, ih (by simp; omega)]
    rfl

theorem string_append (s : String) :
    string (s.toList.flatMap escape ++ '"' :: rest) = .ok (s, rest) := by
  have := length_le_escape s.toList
  have enough : s.toList.length < (s.toList.flatMap escape ++ '"' :: rest).length + 1 := by
    rw [List.length_append]
    omega
  rw [string, characters_append enough]
  simp [bind, Except.bind]

/-! ## Arrays and objects -/

/-- The first character of a value: no blank, and nothing that closes an array. -/
def Opens (s : List Char) : Prop := ∃ c cs, s = c :: cs ∧ isSpace c = false ∧ c ≠ ']'

theorem Opens.append {s : List Char} (h : Opens s) (more : List Char) : Opens (s ++ more) := by
  obtain ⟨c, cs, rfl, space, bracket⟩ := h
  exact ⟨c, cs ++ more, rfl, space, bracket⟩

theorem opens_compactItems {v : Json} (h : Opens v.compact) (items : List Json) :
    Opens (compactItems (v :: items)) := by
  cases items with
  | nil => exact h
  | cons w items => exact h.append _

section Lists

variable {item : Reader Json} {fuel : Nat}

def ReadsBack (item : Reader Json) (v : Json) : Prop :=
  ∀ rest, Closes rest → item (v.compact ++ rest) = .ok (v, rest)

theorem itemsFrom_compactItems {items : List Json} (some : items ≠ [])
    (enough : items.length ≤ fuel) (opens : ∀ v ∈ items, Opens v.compact)
    (reads : ∀ v ∈ items, ReadsBack item v) (rest : List Char) :
    itemsFrom item fuel (compactItems items ++ ']' :: rest) = .ok (items, rest) := by
  induction items generalizing fuel with
  | nil => exact absurd rfl some
  | cons v items ih =>
    cases fuel with
    | zero => cases enough
    | succ fuel =>
    rw [List.forall_mem_cons] at opens reads
    cases items with
    | nil =>
      rw [compactItems, itemsFrom, reads.1 _ (by simp [Closes])]
      simp [bind, Except.bind, skipSpace_cons, isSpace]
    | cons w items =>
      have others := ih (by simp) (Nat.le_of_succ_le_succ enough) opens.2 reads.2
      obtain ⟨c, cs, text, space, bracket⟩ :=
        (opens_compactItems (opens.2 w (List.mem_cons_self ..)) items).append (']' :: rest)
      rw [compactItems, List.append_assoc, itemsFrom, reads.1 _ (by simp [Closes]),
        List.cons_append]
      · rw [text] at others ⊢
        simp [bind, Except.bind, skipSpace_cons, isSpace, skipSpace_cons space, bracket, others]
      · simp

theorem entriesFrom_compactEntries {entries : List (String × Json)} (some : entries ≠ [])
    (enough : entries.length ≤ fuel) (reads : ∀ e ∈ entries, ReadsBack item e.2)
    (rest : List Char) :
    entriesFrom item fuel (compactEntries entries ++ '}' :: rest) = .ok (entries, rest) := by
  induction entries generalizing fuel with
  | nil => exact absurd rfl some
  | cons e entries ih =>
    obtain ⟨name, v⟩ := e
    cases fuel with
    | zero => cases enough
    | succ fuel =>
    rw [List.forall_mem_cons] at reads
    cases entries with
    | nil =>
      have read := reads.1 ('}' :: rest) (by simp [Closes])
      simp [compactEntries, quote, entriesFrom, string_append, colon, read, bind, Except.bind,
        skipSpace_cons, isSpace]
    | cons f entries =>
      have others := ih (by simp) (Nat.le_of_succ_le_succ enough) reads.2
      have read :=
        reads.1 (',' :: (compactEntries (f :: entries) ++ '}' :: rest)) (by simp [Closes])
      obtain ⟨cs, text⟩ : ∃ cs, compactEntries (f :: entries) ++ '}' :: rest = '"' :: cs := by
        cases entries <;> exact ⟨_, rfl⟩
      rw [text] at others read
      rw [compactEntries]
      · simp [quote, entriesFrom, string_append, colon, read, text, others, bind, Except.bind,
          skipSpace_cons, isSpace]
      · simp

theorem length_le_compactItems (items : List Json) :
    items.length ≤ (compactItems items).length + 1 := by
  induction items with
  | nil => exact Nat.zero_le _
  | cons v items ih =>
    cases items with
    | nil => simp
    | cons w items =>
      rw [compactItems]
      · simp only [List.length_append, List.length_cons] at ih ⊢
        omega
      · simp

theorem length_le_compactEntries (entries : List (String × Json)) :
    entries.length ≤ (compactEntries entries).length + 1 := by
  induction entries with
  | nil => exact Nat.zero_le _
  | cons e entries ih =>
    cases entries with
    | nil => simp
    | cons f entries =>
      rw [compactEntries]
      · simp only [List.length_append, List.length_cons] at ih ⊢
        omega
      · simp

theorem items_compactItems {vs : List Json} (opens : ∀ v ∈ vs, Opens v.compact)
    (reads : ∀ v ∈ vs, ReadsBack item v) (rest : List Char) :
    items item (compactItems vs ++ ']' :: rest) = .ok (vs, rest) := by
  cases vs with
  | nil => rfl
  | cons v vs =>
    have enough : (v :: vs).length ≤ (compactItems (v :: vs) ++ ']' :: rest).length + 1 := by
      have := length_le_compactItems (v :: vs)
      rw [List.length_append]
      omega
    have all := itemsFrom_compactItems (List.cons_ne_nil v vs) enough opens reads rest
    obtain ⟨c, cs, text, space, bracket⟩ :=
      (opens_compactItems (opens v (List.mem_cons_self ..)) vs).append (']' :: rest)
    rw [text] at all ⊢
    rw [items, skipSpace_cons space]
    simpa [bracket] using all

theorem entries_compactEntries {es : List (String × Json)}
    (reads : ∀ e ∈ es, ReadsBack item e.2) (rest : List Char) :
    entries item (compactEntries es ++ '}' :: rest) = .ok (es, rest) := by
  cases es with
  | nil => rfl
  | cons e es =>
    have enough : (e :: es).length ≤ (compactEntries (e :: es) ++ '}' :: rest).length + 1 := by
      have := length_le_compactEntries (e :: es)
      rw [List.length_append]
      omega
    have all := entriesFrom_compactEntries (List.cons_ne_nil e es) enough reads rest
    obtain ⟨cs, text⟩ : ∃ cs, compactEntries (e :: es) ++ '}' :: rest = '"' :: cs := by
      cases es <;> exact ⟨_, rfl⟩
    rw [text] at all ⊢
    rw [entries, skipSpace_cons (by decide)]
    exact all

end Lists

/-! ## Values -/

theorem ofInt_head (n : Int) :
    ∃ c cs, Digits.ofInt n = c :: cs ∧ (c = '-' ∨ Digits.isDigit c = true) := by
  unfold Digits.ofInt
  split
  · exact ⟨_, _, rfl, .inl rfl⟩
  · obtain ⟨c, cs, digits⟩ := List.exists_cons_of_ne_nil (isDigits_toDigits n.natAbs).1
    refine ⟨c, cs, digits, .inr ((isDigits_toDigits n.natAbs).2 c ?_)⟩
    rw [digits]
    exact List.mem_cons_self ..

theorem opens_compact {v : Json} (h : Exact v) : Opens v.compact := by
  cases h with
  | null => exact ⟨_, _, rfl, by decide, by decide⟩
  | bool b => cases b <;> exact ⟨_, _, rfl, by decide, by decide⟩
  | @integer n =>
    obtain ⟨c, cs, text, head⟩ := ofInt_head n
    refine ⟨c, cs, text, ?_⟩
    rcases head with rfl | digit
    · decide
    · refine ⟨isSpace_of_isDigit digit, ?_⟩
      rintro rfl
      cases digit
  | string s => exact ⟨_, _, rfl, by decide, by decide⟩
  | array => exact ⟨_, _, rfl, by decide, by decide⟩
  | object => exact ⟨_, _, rfl, by decide, by decide⟩

/-- By induction on the depth that is left: the parts of what may nest `limit + 1` deep may nest
`limit` deep. -/
theorem value_compact {limit : Nat} {v : Json} (h : Exact v) (shallow : v.depth ≤ limit) :
    ReadsBack (value limit) v := by
  induction limit using Nat.strongRecOn generalizing v with
  | ind limit ih =>
  intro rest closes
  cases h with
  | null => rw [value.eq_def]; rfl
  | bool b => rw [value.eq_def]; cases b <;> rfl
  | @integer n least greatest =>
    obtain ⟨c, cs, text, head⟩ := ofInt_head n
    have read := number_ofInt least greatest closes
    rw [text, List.cons_append] at read
    rw [compact, text, List.cons_append, value_number head, read]
  | string s =>
    rw [compact, quote, List.append_assoc, List.cons_append, value.eq_def,
      skipSpace_cons (by decide)]
    simp [string_append, bind, Except.bind]
  | @array items parts =>
    rw [depth] at shallow
    obtain ⟨limit, rfl⟩ := Nat.exists_eq_add_of_le' (Nat.le_of_add_left_le shallow)
    have inner : ∀ v ∈ items, ReadsBack (value limit) v := by
      intro v mem
      refine ih limit (Nat.lt_succ_self limit) (parts v mem) ?_
      exact depthItems_le_iff.1 (Nat.le_of_succ_le_succ shallow) v mem
    have read := items_compactItems (fun v mem => opens_compact (parts v mem)) inner rest
    rw [compact, List.append_assoc, List.cons_append, value.eq_def, skipSpace_cons (by decide)]
    simp [read, bind, Except.bind]
  | @object entries distinct parts =>
    rw [depth] at shallow
    obtain ⟨limit, rfl⟩ := Nat.exists_eq_add_of_le' (Nat.le_of_add_left_le shallow)
    have inner : ∀ e ∈ entries, ReadsBack (value limit) e.2 := by
      intro e mem
      refine ih limit (Nat.lt_succ_self limit) (parts e mem) ?_
      exact depthEntries_le_iff.1 (Nat.le_of_succ_le_succ shallow) e mem
    have read := entries_compactEntries inner rest
    rw [compact, List.append_assoc, List.cons_append, value.eq_def, skipSpace_cons (by decide)]
    simp [read, bind, Except.bind, Entries.collapse_eq_self distinct]

end Reader

theorem parse_compact_iff {v : Json} (h : Exact v) :
    parse v.compact = .ok v ↔ v.depth ≤ nestingLimit := by
  refine ⟨depth_le_of_parse, fun shallow => ?_⟩
  have read := Reader.value_compact h shallow [] (by simp [Reader.Closes])
  rw [List.append_nil] at read
  simp [parse, read, bind, Except.bind, Except.mapError, pure, Except.pure, Reader.finish,
    Reader.skipSpace]

end DocTable.Json
