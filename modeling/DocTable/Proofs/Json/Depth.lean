import DocTable.Proofs.Entries
import DocTable.Proofs.Json.Reading

/-!
# How deep values nest

The reader refuses what nests too deep, so whatever it returns is as shallow as its limit says.
-/

namespace DocTable.Json

mutual

def depth : Json → Nat
  | array items => depthItems items + 1
  | object entries => depthEntries entries + 1
  | _ => 0

def depthItems : List Json → Nat
  | [] => 0
  | v :: rest => max (depth v) (depthItems rest)

def depthEntries : List (String × Json) → Nat
  | [] => 0
  | (_, v) :: rest => max (depth v) (depthEntries rest)

end

variable {limit : Nat}

theorem depthItems_le_iff {vs : List Json} : depthItems vs ≤ limit ↔ ∀ v ∈ vs, v.depth ≤ limit := by
  induction vs with
  | nil => simp [depthItems]
  | cons v vs ih => rw [depthItems, Nat.max_le, ih, List.forall_mem_cons]

theorem depthEntries_le_iff {es : List (String × Json)} :
    depthEntries es ≤ limit ↔ ∀ e ∈ es, e.2.depth ≤ limit := by
  induction es with
  | nil => simp [depthEntries]
  | cons e es ih => rw [depthEntries, Nat.max_le, ih, List.forall_mem_cons]

namespace Reader

variable {s rest : List Char}

section Lists

variable {α : Type} {item : Reader α} {P : α → Prop} {fuel : Nat}

theorem forall_of_itemsFrom (h : ∀ s v rest, item s = .ok (v, rest) → P v) {vs : List α}
    (read : itemsFrom item fuel s = .ok (vs, rest)) : ∀ v ∈ vs, P v := by
  induction fuel generalizing s rest vs with
  | zero => cases read
  | succ fuel ih =>
    unfold itemsFrom at read
    obtain ⟨⟨v, left⟩, first, read⟩ := ok_of_bind read
    simp only at read
    split at read
    · cases read
    · obtain ⟨rfl, -⟩ := Prod.mk.inj (Except.ok.inj read)
      simpa using h _ _ _ first
    · split at read
      · cases read
      · cases read
      · obtain ⟨⟨others, last⟩, more, read⟩ := ok_of_bind read
        obtain ⟨rfl, -⟩ := Prod.mk.inj (Except.ok.inj read)
        rw [List.forall_mem_cons]
        exact ⟨h _ _ _ first, ih more⟩
    · cases read

theorem forall_of_items (h : ∀ s v rest, item s = .ok (v, rest) → P v) {vs : List α}
    (read : items item s = .ok (vs, rest)) : ∀ v ∈ vs, P v := by
  unfold items at read
  split at read
  · cases read
  · obtain ⟨rfl, -⟩ := Prod.mk.inj (Except.ok.inj read)
    simp
  · exact forall_of_itemsFrom h read

theorem forall_of_entriesFrom (h : ∀ s v rest, item s = .ok (v, rest) → P v)
    {es : List (String × α)} (read : entriesFrom item fuel s = .ok (es, rest)) :
    ∀ e ∈ es, P e.2 := by
  induction fuel generalizing s rest es with
  | zero => cases read
  | succ fuel ih =>
    unfold entriesFrom at read
    split at read
    · obtain ⟨⟨name, afterName⟩, -, read⟩ := ok_of_bind read
      obtain ⟨⟨⟨⟩, afterColon⟩, -, read⟩ := ok_of_bind read
      obtain ⟨⟨v, left⟩, first, read⟩ := ok_of_bind read
      simp only at read
      split at read
      · cases read
      · obtain ⟨rfl, -⟩ := Prod.mk.inj (Except.ok.inj read)
        simpa using h _ _ _ first
      · split at read
        · cases read
        · cases read
        · obtain ⟨⟨others, last⟩, more, read⟩ := ok_of_bind read
          obtain ⟨rfl, -⟩ := Prod.mk.inj (Except.ok.inj read)
          rw [List.forall_mem_cons]
          exact ⟨h _ _ _ first, ih more⟩
      · cases read
    · cases read

theorem forall_of_entries (h : ∀ s v rest, item s = .ok (v, rest) → P v)
    {es : List (String × α)} (read : entries item s = .ok (es, rest)) : ∀ e ∈ es, P e.2 := by
  unfold entries at read
  split at read
  · cases read
  · obtain ⟨rfl, -⟩ := Prod.mk.inj (Except.ok.inj read)
    simp
  · exact forall_of_entriesFrom h read

end Lists

theorem depth_of_number {v : Json} (read : number s = .ok (v, rest)) : v.depth = 0 := by
  unfold number at read
  obtain ⟨⟨n, left⟩, -, read⟩ := ok_of_bind read
  simp only at read
  split at read
  · obtain ⟨rfl, -⟩ := Prod.mk.inj (Except.ok.inj read)
    rfl
  · split at read
    · obtain ⟨rfl, -⟩ := Prod.mk.inj (Except.ok.inj read)
      rfl
    · cases read

theorem depth_of_word {letters : List Char} {v w : Json} (scalar : w.depth = 0)
    (read : (word letters s >>= fun p => Except.ok (w, p.2)) = .ok (v, rest)) : v.depth = 0 := by
  obtain ⟨⟨u, left⟩, -, read⟩ := ok_of_bind read
  obtain ⟨rfl, -⟩ := Prod.mk.inj (Except.ok.inj read)
  exact scalar

theorem depth_le_of_value {v : Json} (read : value limit s = .ok (v, rest)) : v.depth ≤ limit := by
  induction limit using Nat.strongRecOn generalizing s v rest with
  | ind limit ih =>
  unfold value at read
  split at read
  · cases read
  · exact (Nat.le_of_eq (depth_of_word rfl read)).trans (Nat.zero_le limit)
  · exact (Nat.le_of_eq (depth_of_word rfl read)).trans (Nat.zero_le limit)
  · exact (Nat.le_of_eq (depth_of_word rfl read)).trans (Nat.zero_le limit)
  · obtain ⟨⟨text, left⟩, -, read⟩ := ok_of_bind read
    obtain ⟨rfl, -⟩ := Prod.mk.inj (Except.ok.inj read)
    exact Nat.zero_le _
  · split at read
    · cases read
    · next limit =>
      obtain ⟨⟨elements, left⟩, inside, read⟩ := ok_of_bind read
      obtain ⟨rfl, -⟩ := Prod.mk.inj (Except.ok.inj read)
      have shallow := forall_of_items (fun _ _ _ => ih limit (Nat.lt_succ_self limit)) inside
      exact Nat.succ_le_succ (depthItems_le_iff.2 shallow)
  · split at read
    · cases read
    · next limit =>
      obtain ⟨⟨members, left⟩, inside, read⟩ := ok_of_bind read
      obtain ⟨rfl, -⟩ := Prod.mk.inj (Except.ok.inj read)
      have shallow := forall_of_entries (fun _ _ _ => ih limit (Nat.lt_succ_self limit)) inside
      refine Nat.succ_le_succ (depthEntries_le_iff.2 fun e mem => ?_)
      exact shallow e (Entries.mem_of_mem_collapse mem)
  · split at read
    · exact (Nat.le_of_eq (depth_of_number read)).trans (Nat.zero_le limit)
    · cases read

end Reader

theorem depth_le_of_parse {text : List Char} {v : Json} (h : parse text = .ok v) :
    v.depth ≤ nestingLimit := by
  obtain ⟨rest, read, -⟩ := parse_ok h
  exact Reader.depth_le_of_value read

end DocTable.Json
