import DocTable.Query.Clauses

/-!
# The grammar of the clauses

Searching for marks finds the clauses of exactly those texts that are written as
`<database>.<collection>.<method>(<arguments>)`, with `.sort(<arguments>)` behind or without. The
texts are described by `Clauses.Spells`, and `clauses_spelled` says that the search and the
description agree. Both marks of a method, and that of the sort, have their first character only
once; so an occurrence that begins in front of a place where a mark stands ends there, too.
-/

namespace DocTable

def Clauses.call (c : Clauses) : List Char :=
  c.database ++ '.' :: c.collection ++ '.' :: c.method.name.toList ++ '(' :: c.arguments

/-- The text is written with these clauses. Names have no point in them, the collection does not
begin like a call, the arguments go up to the first mark of a sort, and without a sort the text
ends with them. -/
structure Clauses.Spells (c : Clauses) (s : List Char) : Prop where
  database_ne : c.database ≠ []
  database_plain : '.' ∉ c.database
  collection_ne : c.collection ≠ []
  collection_plain : '.' ∉ c.collection
  no_call : ∀ m : Method, ¬ m.name.toList ++ ['('] <+: c.collection
  no_sort : ¬ sortMark <:+: c.arguments
  text : s = c.call ++ sortMark ++ c.sortArguments ++ [')'] ∨
    c.sortArguments = [] ∧ s = c.call ++ [')']

namespace Method

theorem mark_eq (m : Method) : m.mark = '.' :: (m.name.toList ++ ['(']) := by
  cases m <;> rfl

theorem not_mem_name (m : Method) : '.' ∉ m.name.toList ++ ['('] := by
  cases m <;> decide

theorem eq_of_mark_append_eq {m m' : Method} {s s' : List Char}
    (h : m.mark ++ s = m'.mark ++ s') : m = m' := by
  have apart : ∀ m m' : Method, m.mark <+: m'.mark → m = m' := by
    intro m m'
    cases m <;> cases m' <;> decide
  rcases List.prefix_or_prefix_of_prefix (List.prefix_append m.mark s)
    (h ▸ List.prefix_append m'.mark s') with front | front
  · exact apart m m' front
  · exact (apart m' m front).symm

end Method

namespace MethodSplit

variable {m m' : Method} {s before after : List Char} {cut other : MethodSplit}

theorem of?_eq_some_iff :
    of? m s = some cut ↔
      cut.method = m ∧ s = cut.before ++ m.mark ++ cut.after ∧ ¬ m.mark <:+: cut.before := by
  obtain ⟨method, before, after⟩ := cut
  simp only [of?, Option.map_eq_some_iff, Prod.exists, mk.injEq, m.mark_eq,
    Text.breakOn?_eq_some_iff m.not_mem_name]
  constructor
  · rintro ⟨b, a, ⟨text, free⟩, rfl, rfl, rfl⟩
    exact ⟨rfl, text, free⟩
  · rintro ⟨rfl, text, free⟩
    exact ⟨before, after, ⟨text, free⟩, rfl, rfl, rfl⟩

theorem of?_eq_none_iff : of? m s = none ↔ ¬ m.mark <:+: s := by
  rw [of?, Option.map_eq_none_iff, Text.breakOn?_eq_none_iff]

theorem not_infix_of_le (h : of? m s = some other) (front : before <+: s)
    (le : before.length ≤ other.before.length) : ¬ m.mark <:+: before := by
  obtain ⟨-, text, free⟩ := of?_eq_some_iff.1 h
  have found : other.before <+: s := ⟨m.mark ++ other.after, by rw [text, List.append_assoc]⟩
  exact fun inside => free (inside.trans (List.prefix_of_prefix_length_le front found le).isInfix)

/-- Where another method's mark stands, with this one not in front, this one comes later. -/
theorem length_lt_of_ne (h : of? m s = some other) (ne : m ≠ m')
    (text : s = before ++ m'.mark ++ after) (free : ¬ m.mark <:+: before) :
    before.length < other.before.length := by
  obtain ⟨-, text', -⟩ := of?_eq_some_iff.1 h
  have same : before ++ m'.mark ++ after = other.before ++ m.mark ++ other.after := text ▸ text'
  rcases Nat.lt_trichotomy before.length other.before.length with lt | eq | gt
  · exact lt
  · rw [List.append_assoc, List.append_assoc] at same
    exact absurd (Method.eq_of_mark_append_eq (List.append_inj_right same eq)).symm ne
  · refine absurd ?_ free
    rw [m.mark_eq] at same ⊢
    rw [m'.mark_eq, List.append_assoc, List.cons_append] at same
    exact Text.infix_of_append_eq m.not_mem_name same gt

/-- At the cut a mark stands, and in front of it none does. -/
def Earliest (s : List Char) (cut : MethodSplit) : Prop :=
  s = cut.before ++ cut.method.mark ++ cut.after ∧ ∀ m : Method, ¬ m.mark <:+: cut.before

theorem earliest_of_le (h : of? m s = some cut)
    (le : ∀ m' ≠ m, ∀ other, of? m' s = some other → cut.before.length ≤ other.before.length) :
    Earliest s cut := by
  obtain ⟨rfl, text, own⟩ := of?_eq_some_iff.1 h
  have front : cut.before <+: s :=
    ⟨cut.method.mark ++ cut.after, by rw [← List.append_assoc, ← text]⟩
  refine ⟨text, fun m' => ?_⟩
  by_cases same : m' = cut.method
  · exact same ▸ own
  · cases found : of? m' s with
    | none => exact fun inside => of?_eq_none_iff.1 found (inside.trans front.isInfix)
    | some other => exact not_infix_of_le found front (le m' same other found)

theorem Earliest.of? (h : Earliest s cut) : of? cut.method s = some cut :=
  of?_eq_some_iff.2 ⟨rfl, h.1, h.2 _⟩

theorem Earliest.length_lt (h : Earliest s cut) (ne : m ≠ cut.method)
    (found : MethodSplit.of? m s = some other) : cut.before.length < other.before.length :=
  length_lt_of_ne found ne h.1 (h.2 m)

theorem earlier?_eq_some_iff :
    earlier? (of? .find s) (of? .aggregate s) = some cut ↔ Earliest s cut := by
  constructor
  · intro h
    cases find : of? .find s with
    | none =>
      rw [find, earlier?] at h
      refine earliest_of_le h fun m' ne other found => ?_
      cases m' with
      | find => rw [find] at found; cases found
      | aggregate => exact absurd rfl ne
    | some first =>
      cases aggregate : of? .aggregate s with
      | none =>
        rw [find, aggregate, earlier?, Option.some.injEq] at h
        subst h
        refine earliest_of_le find fun m' ne other found => ?_
        cases m' with
        | find => exact absurd rfl ne
        | aggregate => rw [aggregate] at found; cases found
      | some second =>
        rw [find, aggregate, earlier?] at h
        split at h
        · next le =>
          obtain rfl := Option.some.inj h
          refine earliest_of_le find fun m' ne other found => ?_
          cases m' with
          | find => exact absurd rfl ne
          | aggregate => rwa [← Option.some.inj (aggregate.symm.trans found)]
        · next gt =>
          obtain rfl := Option.some.inj h
          refine earliest_of_le aggregate fun m' ne other found => ?_
          cases m' with
          | find => rw [← Option.some.inj (find.symm.trans found)]; omega
          | aggregate => exact absurd rfl ne
  · intro h
    have found := h.of?
    cases method : cut.method with
    | find =>
      rw [method] at found
      cases aggregate : of? .aggregate s with
      | none => rw [found, earlier?]
      | some other =>
        have later := h.length_lt (by simp [method]) aggregate
        rw [found, earlier?, if_pos (Nat.le_of_lt later)]
    | aggregate =>
      rw [method] at found
      cases find : of? .find s with
      | none => rw [found, earlier?]
      | some other =>
        have later := h.length_lt (by simp [method]) find
        rw [found, earlier?, if_neg (Nat.not_le_of_lt later)]

end MethodSplit

namespace Clauses

variable {s arguments sortArguments database collection : List Char} {m : Method}

theorem splitSort_eq_iff :
    s.getLast? = some ')' ∧ splitSort s = (arguments, sortArguments) ↔
      ¬ sortMark <:+: arguments ∧
        (s = arguments ++ sortMark ++ sortArguments ++ [')'] ∨
          sortArguments = [] ∧ s = arguments ++ [')']) := by
  have mark : sortMark = ')' :: ".sort(".toList := rfl
  constructor
  · rintro ⟨closed, split⟩
    obtain ⟨body, rfl⟩ := List.getLast?_eq_some_iff.1 closed
    cases cut : Text.breakOn? sortMark (body ++ [')']) with
    | none =>
      simp only [splitSort, cut, List.dropLast_concat, Prod.mk.injEq] at split
      obtain ⟨rfl, rfl⟩ := split
      refine ⟨fun inside => Text.breakOn?_eq_none_iff.1 cut ?_, .inr ⟨rfl, rfl⟩⟩
      exact List.infix_append_of_infix_left inside
    | some parts =>
      obtain ⟨before, after⟩ := parts
      simp only [splitSort, cut, Prod.mk.injEq] at split
      obtain ⟨rfl, rfl⟩ := split
      rw [mark, Text.breakOn?_eq_some_iff (by decide), ← mark] at cut
      obtain ⟨text, free⟩ := cut
      -- The sort's mark ends with an opening parenthesis, so the closing one is behind it.
      rcases List.eq_nil_or_concat after with rfl | ⟨init, last, rfl⟩
      · simp [text, mark] at closed
      · rw [text, List.concat_eq_append, ← List.append_assoc, List.getLast?_concat] at closed
        obtain rfl := Option.some.inj closed
        exact ⟨free, .inl (by simpa using text)⟩
  · rintro ⟨free, rfl | ⟨rfl, rfl⟩⟩
    · have cut : Text.breakOn? sortMark (arguments ++ sortMark ++ (sortArguments ++ [')'])) =
          some (arguments, sortArguments ++ [')']) := Text.breakOn?_append (by decide) free
      rw [List.append_assoc _ sortArguments, splitSort, cut]
      exact ⟨by simp, by simp⟩
    · have cut : Text.breakOn? sortMark (arguments ++ [')']) = none := by
        rw [Text.breakOn?_eq_none_iff, List.infix_concat_iff, or_iff_left free]
        rintro ⟨front, ends⟩
        exact absurd (congrArg List.getLast? ends) (by simp [mark])
      rw [splitSort, cut]
      exact ⟨by simp, by simp⟩

theorem splitOn_eq_singleton_iff {a : Char} : s.splitOn a = [s] ↔ a ∉ s := by
  refine ⟨fun whole mem => ?_, List.splitOn_eq_singleton⟩
  obtain ⟨front, back, rfl⟩ := List.append_of_mem mem
  rw [List.splitOn_append_cons_self] at whole
  have := List.length_pos_iff.2 (List.splitOn_ne_nil a front)
  have := List.length_pos_iff.2 (List.splitOn_ne_nil a back)
  have pieces := congrArg List.length whole
  rw [List.length_append, List.length_singleton] at pieces
  omega

theorem splitOn_eq_pair_iff {a : Char} {x y : List Char} :
    s.splitOn a = [x, y] ↔ s = x ++ a :: y ∧ a ∉ x ∧ a ∉ y := by
  constructor
  · intro pieces
    have text : s = x ++ a :: y := by
      have joined : List.intercalate [a] (s.splitOn a) = s := List.intercalate_splitOn a
      rw [← joined, pieces]
      simp [List.intercalate]
    rw [text, List.splitOn_append_cons_self] at pieces
    obtain ⟨first, more, left⟩ := List.exists_cons_of_ne_nil (List.splitOn_ne_nil a x)
    obtain ⟨second, more', right⟩ := List.exists_cons_of_ne_nil (List.splitOn_ne_nil a y)
    have none : more = [] := by
      cases more with
      | nil => rfl
      | cons => simp [left, right] at pieces
    subst none
    obtain ⟨rfl, rfl, rfl⟩ : first = x ∧ second = y ∧ more' = [] := by
      simpa [left, right] using pieces
    exact ⟨text, splitOn_eq_singleton_iff.1 left, splitOn_eq_singleton_iff.1 right⟩
  · rintro ⟨rfl, left, right⟩
    rw [List.splitOn_append_cons_self, List.splitOn_eq_singleton left,
      List.splitOn_eq_singleton right]
    rfl

/-- A method's mark in front of the arguments could only begin with the point between the names. -/
theorem mark_infix_iff (plain : '.' ∉ database) (plain' : '.' ∉ collection) :
    m.mark <:+: database ++ '.' :: collection ↔ m.name.toList ++ ['('] <+: collection := by
  rw [m.mark_eq, List.infix_append_iff_ne_nil, List.infix_cons_iff, List.cons_prefix_cons]
  constructor
  · rintro (inside | (⟨-, front⟩ | inside) | ⟨l, l', ne, -, same, ends, -⟩)
    · exact absurd (inside.mem (List.mem_cons_self ..)) plain
    · exact front
    · exact absurd (inside.mem (List.mem_cons_self ..)) plain'
    · cases l with
      | nil => exact absurd rfl ne
      | cons c l =>
        obtain ⟨rfl, -⟩ := List.cons.inj same
        exact absurd (ends.mem (List.mem_cons_self ..)) plain
  · exact fun front => .inr (.inl (.inl ⟨rfl, front⟩))

theorem split?_eq_some_iff {c : Clauses} :
    split? s = some c ↔ ∃ cut : MethodSplit,
      MethodSplit.earlier? (MethodSplit.of? .find s) (MethodSplit.of? .aggregate s) = some cut ∧
      cut.before.splitOn '.' = [c.database, c.collection] ∧ c.database ≠ [] ∧ c.collection ≠ [] ∧
      c.method = cut.method ∧ cut.after.getLast? = some ')' ∧
      splitSort cut.after = (c.arguments, c.sortArguments) := by
  rw [split?, Option.bind_eq_bind, Option.bind_eq_some_iff]
  refine exists_congr fun cut => and_congr_right fun _ => ?_
  split
  · next database collection pieces =>
    obtain ⟨database', collection', method, arguments, sortArguments⟩ := c
    have kept : (database.isEmpty || collection.isEmpty || cut.after.getLast? != some ')') = false ↔
        database ≠ [] ∧ collection ≠ [] ∧ cut.after.getLast? = some ')' := by
      simp [and_assoc]
    cases refused : database.isEmpty || collection.isEmpty || cut.after.getLast? != some ')' with
    | true =>
      refine ⟨nofun, ?_⟩
      rintro ⟨same, database_ne, collection_ne, -, closed, -⟩
      obtain ⟨rfl, rfl⟩ : database = database' ∧ collection = collection' := by
        simpa [pieces] using same
      rw [kept.2 ⟨database_ne, collection_ne, closed⟩] at refused
      cases refused
    | false =>
      obtain ⟨database_ne, collection_ne, closed⟩ := kept.1 refused
      simp only [Bool.false_eq_true, if_false, Option.some.injEq, mk.injEq, pieces, closed]
      constructor
      · rintro ⟨rfl, rfl, rfl, rfl, rfl⟩
        exact ⟨rfl, database_ne, collection_ne, rfl, trivial, rfl⟩
      · rintro ⟨same, -, -, rfl, -, sort⟩
        obtain ⟨rfl, rfl⟩ : database = database' ∧ collection = collection' := by simpa using same
        exact ⟨rfl, rfl, rfl, by rw [sort], by rw [sort]⟩
  · next other => exact ⟨nofun, fun ⟨pieces, _⟩ => (other _ _ pieces).elim⟩

theorem split?_eq_some_iff_spells {c : Clauses} : split? s = some c ↔ c.Spells s := by
  rw [split?_eq_some_iff]
  constructor
  · rintro ⟨cut, earliest, pieces, database_ne, collection_ne, method, closed, sort⟩
    obtain ⟨text, free⟩ := MethodSplit.earlier?_eq_some_iff.1 earliest
    obtain ⟨names, plain, plain'⟩ := splitOn_eq_pair_iff.1 pieces
    obtain ⟨no_sort, written⟩ := splitSort_eq_iff.1 ⟨closed, sort⟩
    refine ⟨database_ne, plain, collection_ne, plain', fun m front => ?_, no_sort, ?_⟩
    · exact free m (names ▸ (mark_infix_iff plain plain').2 front)
    · rw [text, names, ← method, Method.mark_eq]
      rcases written with after | ⟨none, after⟩
      · exact .inl (by simp [after, call])
      · exact .inr ⟨none, by simp [after, call]⟩
  · intro h
    obtain ⟨after, text, written⟩ : ∃ after, s = c.database ++ '.' :: c.collection ++
        c.method.mark ++ after ∧ (after = c.arguments ++ sortMark ++ c.sortArguments ++ [')'] ∨
          c.sortArguments = [] ∧ after = c.arguments ++ [')']) := by
      rw [Method.mark_eq]
      rcases h.text with text | ⟨none, text⟩
      · exact ⟨_, by simp [text, call], .inl rfl⟩
      · exact ⟨_, by simp [text, call], .inr ⟨none, rfl⟩⟩
    obtain ⟨closed, sort⟩ := splitSort_eq_iff.2 ⟨h.no_sort, written⟩
    refine ⟨⟨c.method, c.database ++ '.' :: c.collection, after⟩,
      MethodSplit.earlier?_eq_some_iff.2 ⟨text, fun m inside => ?_⟩,
      splitOn_eq_pair_iff.2 ⟨rfl, h.database_plain, h.collection_plain⟩, h.database_ne,
      h.collection_ne, rfl, closed, sort⟩
    exact h.no_call m ((mark_infix_iff h.database_plain h.collection_plain).1 inside)

end Clauses

/-- The clauses found in a text are those that it is written with. A text that is written with no
clauses has none, and no text is written with two. -/
theorem clauses_spelled (s : List Char) :
    (∀ c, Clauses.split? s = some c ↔ c.Spells s) ∧
    (Clauses.split? s = none ↔ ¬ ∃ c : Clauses, c.Spells s) ∧
    ∀ c c' : Clauses, c.Spells s → c'.Spells s → c = c' := by
  refine ⟨fun c => Clauses.split?_eq_some_iff_spells, ?none, fun c c' h h' => ?unique⟩
  case none =>
    simp only [Option.eq_none_iff_forall_ne_some, ne_eq, Clauses.split?_eq_some_iff_spells,
      not_exists]
  case unique =>
    rw [← Clauses.split?_eq_some_iff_spells] at h h'
    exact Option.some.inj (h.symm.trans h')

/-- A collection named like a method, and marks inside of the arguments. -/
def nestedMarks : List Char := "a.find.aggregate([\")\"]).sort(.find().sort(2))".toList

theorem clauses_spelled_nested :
    ∃ c : Clauses, c.Spells nestedMarks ∧ c.collection = "find".toList ∧
      c.sortArguments = ".find().sort(2)".toList ∧
      ∀ c' : Clauses, c'.Spells nestedMarks → c' = c := by
  obtain ⟨found, -, unique⟩ := clauses_spelled nestedMarks
  have cut : Clauses.split? nestedMarks = some ⟨['a'], "find".toList, .aggregate,
      "[\")\"]".toList, ".find().sort(2)".toList⟩ := by decide
  have spelt := (found _).1 cut
  exact ⟨_, spelt, rfl, rfl, fun c' h => unique c' _ h spelt⟩

end DocTable
