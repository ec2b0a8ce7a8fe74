import DocTable.Value.DateLiteral

/-!
# Dates put in their places

The places of a tree are reached through entries and items, by their indices. Patching the dates of
a tree patches each place by itself, `at?_patchDates`, and patching one place changes it only if it
is a date literal within reach. So every literal becomes its instant and all else stays,
`dates_patched_in_place`.
-/

namespace DocTable.Value

/-- What stands directly below a value; the target of a pointer does not. -/
def children : Value → List Value
  | .document entries => entries.map (·.2)
  | .map entries => entries.map (·.2)
  | .array items => items
  | _ => []

/-- The value at a place, which is given by the indices on the way from the root. -/
def at? : Value → List Nat → Option Value
  | v, [] => some v
  | v, i :: path =>
    match v.children[i]? with
    | some child => child.at? path
    | none => none

/-- A value without those below it: its kind, its content as a scalar or pointer, its keys in their
order, or the number of its items. -/
def outline : Value → Value
  | .document entries => .document (entries.map fun e => (e.1, .null))
  | .map entries => .map (entries.map fun e => (e.1, .null))
  | .array items => .array (items.map fun _ => .null)
  | v => v

def date? : Value → Option Instant
  | .string s => DateLiteral.instant? s.toList
  | _ => none

/-- At no place of the tree is there a date literal within reach. -/
def Undated (v : Value) : Prop :=
  ∀ path s, v.at? path = some (.string s) → DateLiteral.instant? s.toList = none

variable {v w : Value} {path : List Nat}

/-! ## One place -/

theorem patchItems_eq_map (items : List Value) : patchItems items = items.map patchDates := by
  induction items with
  | nil => rfl
  | cons v items ih => simp [patchItems, ih]

theorem patchEntries_eq_map (entries : List (String × Value)) :
    patchEntries entries = entries.map fun e => (e.1, e.2.patchDates) := by
  induction entries with
  | nil => rfl
  | cons e entries ih => simp [patchEntries, ih]

theorem patchDates_of_date? {t : Instant} (h : v.date? = some t) : v.patchDates = .dateTime t := by
  cases v <;> simp [date?] at h
  simp [patchDates, h]

theorem children_patchDates (v : Value) : v.patchDates.children = v.children.map patchDates := by
  cases v with
  | string s =>
    rw [patchDates]
    split <;> rfl
  | document entries => simp [patchDates, children, patchEntries_eq_map]
  | map entries => simp [patchDates, children, patchEntries_eq_map]
  | array items => simp [patchDates, children, patchItems_eq_map]
  | _ => rfl

theorem outline_patchDates (h : v.date? = none) : v.patchDates.outline = v.outline := by
  cases v with
  | string s => simp_all [date?, patchDates]
  | document entries => simp [patchDates, outline, patchEntries_eq_map]
  | map entries => simp [patchDates, outline, patchEntries_eq_map]
  | array items => rw [patchDates, patchItems_eq_map, outline, outline, List.map_map]; rfl
  | _ => rfl

theorem date?_patchDates (v : Value) : v.patchDates.date? = none := by
  cases v with
  | string s =>
    rw [patchDates]
    split
    · rfl
    · next absent => exact absent
  | _ => rfl

/-! ## Every place -/

theorem at?_patchDates (v : Value) (path : List Nat) :
    v.patchDates.at? path = (v.at? path).map patchDates := by
  induction path generalizing v with
  | nil => rfl
  | cons i path ih =>
    simp only [at?, children_patchDates, List.getElem?_map]
    cases v.children[i]? with
    | none => rfl
    | some child => exact ih child

theorem undated_patchDates (v : Value) : v.patchDates.Undated := by
  intro path s found
  rw [at?_patchDates, Option.map_eq_some_iff] at found
  obtain ⟨original, -, patched⟩ := found
  have undated := date?_patchDates original
  rwa [patched] at undated

theorem Undated.child (h : v.Undated) (mem : w ∈ v.children) : w.Undated := by
  obtain ⟨i, found⟩ := List.getElem?_of_mem mem
  intro path s inside
  apply h (i :: path) s
  simpa only [at?, found] using inside

theorem undated_of_leaf (leaf : v.children = []) (h : v.date? = none) : v.Undated := by
  intro path s found
  cases path with
  | nil =>
    obtain rfl : v = .string s := Option.some.inj found
    exact h
  | cons i path => simp [at?, leaf] at found

mutual

theorem patchDates_of_undated : (v : Value) → v.Undated → v.patchDates = v
  | .string s, h => by
    have absent : DateLiteral.instant? s.toList = none := h [] s rfl
    simp [patchDates, absent]
  | .document entries, h => by
    rw [patchDates, patchEntries_of_undated entries fun e mem =>
      h.child (List.mem_map.2 ⟨e, mem, rfl⟩)]
  | .map entries, h => by
    rw [patchDates, patchEntries_of_undated entries fun e mem =>
      h.child (List.mem_map.2 ⟨e, mem, rfl⟩)]
  | .array items, h => by
    rw [patchDates, patchItems_of_undated items fun v mem => h.child mem]
  | .null, _ | .undefined, _ | .bool _, _ | .int8 _, _ | .int16 _, _ | .int32 _, _ | .int64 _, _
  | .uint8 _, _ | .uint16 _, _ | .uint32 _, _ | .uint64 _, _ | .float32 _, _ | .float64 _, _
  | .dateTime _, _ | .decimal _, _ | .binary _ _, _ | .regex _ _, _ | .objectId _, _
  | .dbPointer _ _, _ => rfl

theorem patchEntries_of_undated : (entries : List (String × Value)) →
    (∀ e ∈ entries, e.2.Undated) → patchEntries entries = entries
  | [], _ => rfl
  | (key, v) :: entries, h => by
    rw [List.forall_mem_cons] at h
    rw [patchEntries, patchDates_of_undated v h.1, patchEntries_of_undated entries h.2]

theorem patchItems_of_undated : (items : List Value) →
    (∀ v ∈ items, v.Undated) → patchItems items = items
  | [], _ => rfl
  | v :: items, h => by
    rw [List.forall_mem_cons] at h
    rw [patchItems, patchDates_of_undated v h.1, patchItems_of_undated items h.2]

end

/-- Patching leaves the places of a tree as they are. Where a date literal within reach stands, its
instant does afterwards; everywhere else the same stands as before, down to what is below. No date
literal is left, so patching again changes nothing, as it does a tree without any. -/
theorem dates_patched_in_place (v : Value) :
    (∀ path, v.patchDates.at? path = none ↔ v.at? path = none) ∧
    (∀ path s t, v.at? path = some (.string s) → DateLiteral.instant? s.toList = some t →
      v.patchDates.at? path = some (.dateTime t)) ∧
    (∀ path w, v.at? path = some w → w.date? = none → ∃ w', v.patchDates.at? path = some w' ∧
      w'.outline = w.outline ∧ (w.children = [] → w' = w)) ∧
    v.patchDates.Undated ∧ v.patchDates.patchDates = v.patchDates ∧
    (v.Undated → v.patchDates = v) := by
  refine ⟨fun path => ?same, fun path s t found literal => ?dated,
    fun path w found other => ?others, undated_patchDates v,
    patchDates_of_undated _ (undated_patchDates v), patchDates_of_undated v⟩
  case same => rw [at?_patchDates, Option.map_eq_none_iff]
  case dated =>
    have instant : (string s).date? = some t := literal
    rw [at?_patchDates, found, Option.map_some, patchDates_of_date? instant]
  case others =>
    exact ⟨w.patchDates, by rw [at?_patchDates, found, Option.map_some],
      outline_patchDates other, fun leaf => patchDates_of_undated w (undated_of_leaf leaf other)⟩

/-- Literals below a repeated key, in a map and in a pointer's target, and one out of reach. -/
def datedTree : Value :=
  .document [("a", .string "$\x7bnew Date(5)\x7d"),
    ("a", .array [.string "$\x7bnew Date(007)\x7d!"]),
    ("m", .map [("k", .string "$\x7bnew Date(8210266876800000)\x7d")]),
    ("p", .dbPointer "c" (.string "$\x7bnew Date(5)\x7d"))]

theorem dates_patched_in_place_nested :
    datedTree.patchDates.at? [0] = some (.dateTime ⟨5, by decide, by decide⟩) ∧
    datedTree.patchDates.at? [1, 0] = some (.dateTime ⟨7, by decide, by decide⟩) ∧
    datedTree.patchDates.at? [2, 0] = some (.string "$\x7bnew Date(8210266876800000)\x7d") ∧
    datedTree.patchDates.at? [3] = some (.dbPointer "c" (.string "$\x7bnew Date(5)\x7d")) ∧
    datedTree.patchDates.at? [3, 0] = none ∧
    datedTree.patchDates.patchDates = datedTree.patchDates := by
  obtain ⟨places, dated, others, undated, again, -⟩ := dates_patched_in_place datedTree
  obtain ⟨far, found, -, kept⟩ :=
    others [2, 0] (.string "$\x7bnew Date(8210266876800000)\x7d") rfl rfl
  obtain ⟨pointer, found', -, kept'⟩ :=
    others [3] (.dbPointer "c" (.string "$\x7bnew Date(5)\x7d")) rfl rfl
  rw [kept rfl] at found
  rw [kept' rfl] at found'
  exact ⟨dated [0] _ _ rfl rfl, dated [1, 0] _ _ rfl rfl, found, found', (places [3, 0]).2 rfl,
    again⟩

end DocTable.Value
