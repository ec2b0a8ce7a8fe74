import DocTable.Proofs.Json.Locality
import Mathlib.Data.List.Forall2

/-!
# Item by item

Each item of an array is read as it would be alone, and the array ends at the bracket behind the
last one: what is read as an array is the list of its items with commas between them,
`items_eq_ok_cons_iff`. That values do not depend on what follows goes by induction on how deep
they may nest.
-/

namespace DocTable.Json.Reader

variable {α : Type} {s t rest more gap : List Char} {c : Char}

/-! ## Arrays and objects -/

/-- What the reader of an array needs of the reader of its items. -/
structure ReadsItems (item : Reader α) : Prop where
  isLocal : Local item
  skips : ∀ s, item (skipSpace s) = item s
  opens : ∀ {s p}, item s = .ok p → ∃ c cs, skipSpace s = c :: cs ∧ c ≠ ']'

def Spells (item : Reader α) (piece : List Char) (v : α) : Prop :=
  ∃ t gap, piece = t ++ gap ∧ Takes item t v ∧ ∀ c ∈ gap, isSpace c = true

def commas (pieces : List (List Char)) : List Char := [','].intercalate pieces

section Lists

variable {item : Reader α} {fuel : Nat} {piece : List Char} {pieces : List (List Char)}
  {v : α} {vs : List α}

theorem breaks_mark (mark : c ∈ [',', ']', '}']) : Breaks (c :: more) := by
  have known : c = ',' ∨ c = ']' ∨ c = '}' := by simpa using mark
  rcases known with rfl | rfl | rfl <;> exact avoids_cons (by decide) (by decide)

theorem isSpace_mark (mark : c ∈ [',', ']', '}']) : isSpace c = false := by
  have known : c = ',' ∨ c = ']' ∨ c = '}' := by simpa using mark
  rcases known with rfl | rfl | rfl <;> rfl

theorem Spells.reads (h : Spells item piece v) (mark : c ∈ [',', ']', '}']) (more : List Char) :
    ∃ left, item (piece ++ c :: more) = .ok (v, left) ∧ skipSpace left = c :: more := by
  obtain ⟨t, gap, rfl, takes, space⟩ := h
  refine ⟨gap ++ c :: more, ?_, skipSpace_gap space (isSpace_mark mark)⟩
  rw [List.append_assoc]
  exact takes _ (breaks_gap space (breaks_mark mark))

theorem ReadsItems.spells (h : ReadsItems item) {left : List Char}
    (read : item s = .ok (v, left)) (behind : skipSpace left = c :: more) :
    ∃ piece, s = piece ++ c :: more ∧ Spells item piece v := by
  obtain ⟨t, rfl, takes⟩ := h.isLocal read
  obtain ⟨gap, space, text⟩ := exists_gap left
  refine ⟨t ++ gap, ?_, t, gap, rfl, takes, space⟩
  rw [List.append_assoc, ← behind, ← text]

theorem itemsFrom_skipSpace (h : ReadsItems item) :
    itemsFrom item (fuel + 1) (skipSpace s) = itemsFrom item (fuel + 1) s := by
  rw [itemsFrom, itemsFrom, h.skips]

theorem spells_of_itemsFrom (h : ReadsItems item) (read : itemsFrom item fuel s = .ok (vs, rest)) :
    ∃ pieces, s = commas pieces ++ ']' :: rest ∧ pieces ≠ [] ∧
      List.Forall₂ (Spells item) pieces vs := by
  induction fuel generalizing s vs with
  | zero => cases read
  | succ fuel ih =>
    unfold itemsFrom at read
    obtain ⟨⟨v, left⟩, first, read⟩ := ok_of_bind read
    simp only at read
    split at read
    · cases read
    · next behind =>
      obtain ⟨rfl, rfl⟩ := Prod.mk.inj (Except.ok.inj read)
      obtain ⟨piece, rfl, spells⟩ := h.spells first behind
      exact ⟨[piece], by simp [commas], by simp, .cons spells .nil⟩
    · next more behind =>
      split at read
      · cases read
      · cases read
      · obtain ⟨⟨others, last⟩, again, read⟩ := ok_of_bind read
        obtain ⟨rfl, rfl⟩ := Prod.mk.inj (Except.ok.inj read)
        obtain ⟨piece, rfl, spells⟩ := h.spells first behind
        cases fuel with
        | zero => cases again
        | succ fuel =>
          rw [itemsFrom_skipSpace h] at again
          obtain ⟨pieces, rfl, some, all⟩ := ih again
          refine ⟨piece :: pieces, ?_, by simp, .cons spells all⟩
          simp [commas, List.intercalate_cons_of_ne_nil some]
    · cases read

theorem commas_cons (piece second : List Char) (pieces : List (List Char)) :
    commas (piece :: second :: pieces) = piece ++ ',' :: commas (second :: pieces) := by
  simp [commas, List.intercalate_cons_cons]

theorem ReadsItems.opens_commas (h : ReadsItems item) (spells : Spells item piece v)
    (pieces : List (List Char)) (rest : List Char) :
    ∃ c cs, skipSpace (commas (piece :: pieces) ++ ']' :: rest) = c :: cs ∧ c ≠ ']' := by
  cases pieces with
  | nil =>
    obtain ⟨left, read, -⟩ := spells.reads (c := ']') (by decide) rest
    simpa [commas] using h.opens read
  | cons second pieces =>
    obtain ⟨left, read, -⟩ := spells.reads (c := ',') (by decide)
      (commas (second :: pieces) ++ ']' :: rest)
    simpa [commas_cons] using h.opens read

theorem itemsFrom_commas (h : ReadsItems item) (all : List.Forall₂ (Spells item) pieces vs)
    (some : pieces ≠ []) (enough : pieces.length ≤ fuel) (rest : List Char) :
    itemsFrom item fuel (commas pieces ++ ']' :: rest) = .ok (vs, rest) := by
  induction all generalizing fuel with
  | nil => exact absurd rfl some
  | @cons piece v pieces vs spells all ih =>
    cases fuel with
    | zero => cases enough
    | succ fuel =>
    cases all with
    | nil =>
      obtain ⟨left, read, behind⟩ := spells.reads (c := ']') (by decide) rest
      simp [commas, itemsFrom, read, behind, bind, Except.bind]
    | @cons second w pieces vs spells' all =>
      have others := ih (by simp) (by simpa using enough)
      obtain ⟨left, read, behind⟩ := spells.reads (c := ',') (by decide)
        (commas (second :: pieces) ++ ']' :: rest)
      obtain ⟨c, cs, front, bracket⟩ := h.opens_commas spells' pieces rest
      cases fuel with
      | zero => cases others
      | succ fuel =>
      rw [← itemsFrom_skipSpace h, front] at others
      rw [commas_cons, List.append_assoc, List.cons_append, itemsFrom, read]
      simp [behind, front, bracket, others, bind, Except.bind]

theorem length_le_commas (pieces : List (List Char)) :
    pieces.length ≤ (commas pieces).length + 1 := by
  induction pieces with
  | nil => exact Nat.zero_le _
  | cons piece pieces ih =>
    cases pieces with
    | nil => simp
    | cons second pieces =>
      simp only [commas_cons, List.length_append, List.length_cons] at ih ⊢
      omega

theorem length_lt_skipSpace (front more : List Char) (mark : c ∈ [',', ']', '}']) :
    more.length < (skipSpace (front ++ c :: more)).length := by
  rw [skipSpace, List.dropWhile_append]
  split
  · rw [List.dropWhile_cons_of_neg (by simp [isSpace_mark mark])]
    simp
  · simp
    omega

theorem length_le_skipSpace_commas (pieces : List (List Char)) (rest : List Char) :
    pieces.length ≤ (skipSpace (commas pieces ++ ']' :: rest)).length + 1 := by
  cases pieces with
  | nil => simp
  | cons piece pieces =>
    cases pieces with
    | nil => simp
    | cons second pieces =>
      have longer := length_lt_skipSpace (c := ',') piece
        (commas (second :: pieces) ++ ']' :: rest) (by decide)
      have shorter := length_le_commas (second :: pieces)
      rw [commas_cons, List.append_assoc, List.cons_append]
      simp only [List.length_append, List.length_cons] at longer shorter ⊢
      omega

theorem items_eq_itemsFrom (h : ReadsItems item) {cs : List Char} (front : skipSpace s = c :: cs)
    (bracket : c ≠ ']') : items item s = itemsFrom item ((skipSpace s).length + 1) s := by
  rw [← itemsFrom_skipSpace h, items, front]
  simp [bracket]

theorem items_eq_ok_cons_iff (h : ReadsItems item) :
    items item s = .ok (v :: vs, rest) ↔
      ∃ pieces, s = commas pieces ++ ']' :: rest ∧ List.Forall₂ (Spells item) pieces (v :: vs) := by
  constructor
  · intro read
    have front : ∃ c cs, skipSpace s = c :: cs ∧ c ≠ ']' := by
      cases front : skipSpace s with
      | nil => simp [items, front, failAt] at read
      | cons c cs =>
        refine ⟨c, cs, rfl, ?_⟩
        rintro rfl
        simp [items, front] at read
    obtain ⟨c, cs, front, bracket⟩ := front
    rw [items_eq_itemsFrom h front bracket] at read
    obtain ⟨pieces, text, -, all⟩ := spells_of_itemsFrom h read
    exact ⟨pieces, text, all⟩
  · rintro ⟨pieces, rfl, all⟩
    cases all with
    | cons spells others =>
    obtain ⟨c, cs, front, bracket⟩ := h.opens_commas spells _ rest
    rw [items_eq_itemsFrom h front bracket]
    exact itemsFrom_commas h (.cons spells others) (by simp)
      (length_le_skipSpace_commas _ rest) rest

theorem items_eq_ok_nil_iff :
    items item s = .ok ([], rest) ↔
      ∃ gap, (∀ c ∈ gap, isSpace c = true) ∧ s = gap ++ ']' :: rest := by
  constructor
  · intro read
    obtain ⟨gap, space, text⟩ := exists_gap s
    exact ⟨gap, space, items_nil read ▸ text⟩
  · rintro ⟨gap, space, rfl⟩
    have front : skipSpace (gap ++ ']' :: rest) = ']' :: rest := skipSpace_gap space rfl
    simp [items, front]

theorem items_local (h : ReadsItems item) (read : items item s = .ok (vs, rest)) :
    ∃ t, s = t ++ ']' :: rest ∧ ∀ more, items item (t ++ ']' :: more) = .ok (vs, more) := by
  cases vs with
  | nil =>
    obtain ⟨gap, space, rfl⟩ := items_eq_ok_nil_iff.1 read
    exact ⟨gap, rfl, fun more => items_eq_ok_nil_iff.2 ⟨gap, space, rfl⟩⟩
  | cons v vs =>
    obtain ⟨pieces, rfl, all⟩ := (items_eq_ok_cons_iff h).1 read
    exact ⟨commas pieces, rfl, fun more => (items_eq_ok_cons_iff h).2 ⟨pieces, rfl, all⟩⟩

theorem colon_append (space : ∀ c ∈ gap, isSpace c = true) (more : List Char) :
    colon (gap ++ ':' :: more) = .ok ((), more) := by
  have front : skipSpace (gap ++ ':' :: more) = ':' :: more := skipSpace_gap space rfl
  simp [colon, front]

theorem entry_local (h : ReadsItems item) {name : String} {s₁ s₂ s₃ : List Char}
    (name_read : string s = .ok (name, s₁)) (colon_read : colon s₁ = .ok ((), s₂))
    (read : item s₂ = .ok (v, s₃)) (behind : skipSpace s₃ = c :: rest)
    (mark : c ∈ [',', ']', '}']) :
    ∃ t, s = t ++ c :: rest ∧ ∀ more, ∃ s₁ s₂ s₃, string (t ++ c :: more) = .ok (name, s₁) ∧
      colon s₁ = .ok ((), s₂) ∧ item s₂ = .ok (v, s₃) ∧ skipSpace s₃ = c :: more := by
  obtain ⟨t, rfl, takes⟩ := string_local name_read
  obtain ⟨gap, space, text⟩ := exists_gap s₁
  rw [colon_ok colon_read] at text
  obtain ⟨piece, rfl, spells⟩ := h.spells read behind
  refine ⟨t ++ gap ++ ':' :: piece, by simp [text], fun more => ?_⟩
  obtain ⟨left, read', behind'⟩ := spells.reads mark more
  have stop : Breaks (gap ++ ':' :: (piece ++ c :: more)) :=
    breaks_gap space (avoids_cons (by decide) (by decide))
  refine ⟨_, _, _, ?_, colon_append space (piece ++ c :: more), read', behind'⟩
  simpa using takes _ stop

theorem entriesFrom_local (h : ReadsItems item) {es : List (String × α)}
    (read : entriesFrom item fuel s = .ok (es, rest)) :
    ∃ t, s = '"' :: (t ++ '}' :: rest) ∧ ∀ more fuel', t.length < fuel' →
      entriesFrom item fuel' ('"' :: (t ++ '}' :: more)) = .ok (es, more) := by
  induction fuel generalizing s es with
  | zero => cases read
  | succ fuel ih =>
    unfold entriesFrom at read
    split at read
    · next s =>
      obtain ⟨⟨name, s₁⟩, name_read, read⟩ := ok_of_bind read
      obtain ⟨⟨⟨⟩, s₂⟩, colon_read, read⟩ := ok_of_bind read
      obtain ⟨⟨v, s₃⟩, value_read, read⟩ := ok_of_bind read
      simp only at read
      split at read
      · cases read
      · next behind =>
        obtain ⟨rfl, rfl⟩ := Prod.mk.inj (Except.ok.inj read)
        obtain ⟨t, rfl, reads⟩ := entry_local h name_read colon_read value_read behind (by decide)
        refine ⟨t, rfl, fun more fuel' enough => ?_⟩
        obtain ⟨fuel', rfl⟩ := Nat.exists_eq_add_of_lt enough
        obtain ⟨s₁, s₂, s₃, name_read, colon_read, value_read, behind⟩ := reads more
        simp [entriesFrom, name_read, colon_read, value_read, behind, bind, Except.bind]
      · next afterComma behind =>
        split at read
        · cases read
        · cases read
        · obtain ⟨⟨others, last⟩, again, read⟩ := ok_of_bind read
          obtain ⟨rfl, rfl⟩ := Prod.mk.inj (Except.ok.inj read)
          obtain ⟨t, rfl, reads⟩ :=
            entry_local h name_read colon_read value_read behind (by decide)
          obtain ⟨gap, space, text⟩ := exists_gap afterComma
          obtain ⟨u, front, reads'⟩ := ih again
          refine ⟨t ++ ',' :: (gap ++ '"' :: u), ?_, fun more fuel' enough => ?_⟩
          · rw [text, front]
            simp
          · cases fuel' with
            | zero => cases enough
            | succ fuel' =>
              obtain ⟨s₁, s₂, s₃, name_read, colon_read, value_read, behind⟩ :=
                reads (gap ++ '"' :: (u ++ '}' :: more))
              have front : skipSpace (gap ++ '"' :: (u ++ '}' :: more)) =
                  '"' :: (u ++ '}' :: more) := skipSpace_gap space rfl
              have others_read := reads' more fuel' (by simp at enough; omega)
              simp [entriesFrom, name_read, colon_read, value_read, behind, front, others_read,
                bind, Except.bind]
      · cases read
    · cases read

theorem entries_local (h : ReadsItems item) {es : List (String × α)}
    (read : entries item s = .ok (es, rest)) :
    ∃ t, s = t ++ '}' :: rest ∧ ∀ more, entries item (t ++ '}' :: more) = .ok (es, more) := by
  obtain ⟨gap, space, text⟩ := exists_gap s
  unfold entries at read
  split at read
  · cases read
  · next behind =>
    obtain ⟨rfl, rfl⟩ := Prod.mk.inj (Except.ok.inj read)
    refine ⟨gap, behind ▸ text, fun more => ?_⟩
    have front : skipSpace (gap ++ '}' :: more) = '}' :: more := skipSpace_gap space rfl
    simp [entries, front]
  · obtain ⟨t, front, reads⟩ := entriesFrom_local h read
    refine ⟨gap ++ '"' :: t, ?_, fun more => ?_⟩
    · rw [text, front]
      simp
    · have front : skipSpace (gap ++ '"' :: (t ++ '}' :: more)) = '"' :: (t ++ '}' :: more) :=
        skipSpace_gap space rfl
      have read := reads more (('"' :: (t ++ '}' :: more)).length + 1) (by simp; omega)
      simpa [entries, front] using read

end Lists

/-! ## Values -/

variable {depth : Nat}

theorem value_skipSpace (s : List Char) : value depth (skipSpace s) = value depth s := by
  rw [value.eq_def, value.eq_def, skipSpace_skipSpace]

theorem value_opens {p : Json × List Char} (read : value depth s = .ok p) :
    ∃ c cs, skipSpace s = c :: cs ∧ c ≠ ']' := by
  rw [value.eq_def] at read
  cases front : skipSpace s with
  | nil => simp [front, failAt] at read
  | cons c cs =>
    refine ⟨c, cs, rfl, ?_⟩
    rintro rfl
    simp [front, failOn, Digits.isDigit] at read

/-- What is taken behind the blanks is taken with them. -/
theorem takes_gap (space : ∀ c ∈ gap, isSpace c = true) {v : Json} (h : Takes (value depth) t v) :
    Takes (value depth) (gap ++ t) v := by
  intro more stop
  rw [List.append_assoc, ← value_skipSpace, skipSpace_append space, value_skipSpace]
  exact h more stop

theorem value_string {text : String} (read : string s = .ok (text, rest)) :
    value depth ('"' :: s) = .ok (.string text, rest) := by
  rw [value.eq_def, skipSpace_cons (by decide)]
  simp [read, bind, Except.bind]

theorem value_array {elements : List Json} (read : items (value depth) s = .ok (elements, rest)) :
    value (depth + 1) ('[' :: s) = .ok (.array elements, rest) := by
  rw [value.eq_def, skipSpace_cons (by decide)]
  simp [read, bind, Except.bind]

theorem value_word {letters : List Char} {v w : Json}
    (taken : ∀ s, value depth (c :: s) = word letters s >>= fun p => .ok (w, p.2))
    (read : (word letters s >>= fun p => Except.ok (w, p.2)) = .ok (v, rest)) :
    ∃ t, c :: s = t ++ rest ∧ Takes (value depth) t v := by
  obtain ⟨⟨⟨⟩, left⟩, same, found⟩ := ok_of_bind read
  obtain ⟨rfl, rfl⟩ := Prod.mk.inj (Except.ok.inj found)
  refine ⟨c :: letters, by rw [word_ok same, List.cons_append], fun more _ => ?_⟩
  rw [List.cons_append, taken, word_append]
  rfl

theorem value_of_number {v : Json} (head : c = '-' ∨ Digits.isDigit c = true)
    (read : number (c :: s) = .ok (v, rest)) :
    ∃ t, c :: s = t ++ rest ∧ Takes (value depth) t v := by
  obtain ⟨t, same, takes⟩ := number_local read
  refine ⟨t, same, fun more stop => ?_⟩
  cases t with
  | nil => cases takes [] nofun
  | cons d t =>
    obtain ⟨rfl, rfl⟩ := List.cons.inj same
    rw [List.cons_append, value_number head]
    exact takes more stop

theorem value_local : Local (value depth) := by
  induction depth using Nat.strongRecOn with
  | ind depth ih =>
  have inner (limit : Nat) (lt : limit < depth) : ReadsItems (value limit) :=
    ⟨ih limit lt, value_skipSpace, value_opens⟩
  intro s v rest read
  obtain ⟨gap, space, text⟩ := exists_gap s
  suffices front : ∃ t, skipSpace s = t ++ rest ∧ Takes (value depth) t v by
    obtain ⟨t, front, takes⟩ := front
    exact ⟨gap ++ t, by rw [text, front, List.append_assoc], takes_gap space takes⟩
  rw [value.eq_def] at read
  split at read
  · cases read
  · next behind =>
    rw [behind]
    exact value_word (fun s => by rw [value.eq_def]; rfl) read
  · next behind =>
    rw [behind]
    exact value_word (fun s => by rw [value.eq_def]; rfl) read
  · next behind =>
    rw [behind]
    exact value_word (fun s => by rw [value.eq_def]; rfl) read
  · next behind =>
    obtain ⟨⟨text, left⟩, inside, found⟩ := ok_of_bind read
    obtain ⟨rfl, rfl⟩ := Prod.mk.inj (Except.ok.inj found)
    obtain ⟨t, rfl, takes⟩ := string_local inside
    exact ⟨'"' :: t, behind, fun more stop => value_string (takes more stop)⟩
  · next behind =>
    split at read
    · cases read
    · next depth =>
      obtain ⟨⟨elements, left⟩, inside, found⟩ := ok_of_bind read
      obtain ⟨rfl, rfl⟩ := Prod.mk.inj (Except.ok.inj found)
      obtain ⟨t, rfl, reads⟩ := items_local (inner depth (Nat.lt_succ_self depth)) inside
      refine ⟨'[' :: t ++ [']'], by simp [behind], fun more _ => ?_⟩
      simpa using value_array (reads more)
  · next behind =>
    split at read
    · cases read
    · next depth =>
      obtain ⟨⟨members, left⟩, inside, found⟩ := ok_of_bind read
      obtain ⟨rfl, rfl⟩ := Prod.mk.inj (Except.ok.inj found)
      obtain ⟨t, rfl, reads⟩ := entries_local (inner depth (Nat.lt_succ_self depth)) inside
      refine ⟨'{' :: t ++ ['}'], by simp [behind], fun more _ => ?_⟩
      rw [List.append_assoc, List.cons_append, value.eq_def, skipSpace_cons (by decide)]
      simp [reads more, bind, Except.bind]
  · next behind =>
    rw [behind]
    split at read
    · next head => exact value_of_number (by simpa using head) read
    · cases read

theorem readsItems_value : ReadsItems (value depth) := ⟨value_local, value_skipSpace, value_opens⟩

end DocTable.Json.Reader
