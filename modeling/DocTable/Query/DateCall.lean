import DocTable.Number.Digits
import DocTable.Text.Search

/-!
Date calls: the bare `new Date(N)` of the shell, which JSON does not have. `quoteDateCalls` turns
each one outside a string into the string of a date literal, and leaves everything else as it is.
-/

namespace DocTable

namespace DateCall

def opening : List Char := "new Date(".toList

/-- The digits of the date call at the front of a text, and what is left behind the call. -/
def read? (s : List Char) : Option (List Char × List Char) := do
  let rest ← Text.dropMark? opening s
  let after ← Text.dropMark? [')'] (rest.dropWhile Digits.isDigit)
  if (rest.takeWhile Digits.isDigit).isEmpty then none
  else some (rest.takeWhile Digits.isDigit, after)

def text (digits : List Char) : List Char := opening ++ digits ++ [')']

theorem eq_text_append_of_read? {s digits rest : List Char} (h : read? s = some (digits, rest)) :
    s = text digits ++ rest := by
  simp only [read?, Option.bind_eq_bind, Option.bind_eq_some_iff] at h
  obtain ⟨r, dropped, after, closed, h⟩ := h
  split at h
  · simp at h
  · obtain ⟨rfl, rfl⟩ : r.takeWhile Digits.isDigit = digits ∧ after = rest := by simpa using h
    have cut : r = r.takeWhile Digits.isDigit ++ ([')'] ++ after) := by
      rw [← Text.dropMark?_eq_some_iff.1 closed, List.takeWhile_append_dropWhile]
    calc s = opening ++ r := Text.dropMark?_eq_some_iff.1 dropped
      _ = opening ++ (r.takeWhile Digits.isDigit ++ ([')'] ++ after)) := congrArg _ cut
      _ = text (r.takeWhile Digits.isDigit) ++ after := by simp [text]

theorem length_lt_of_read? {s digits rest : List Char} (h : read? s = some (digits, rest)) :
    rest.length < s.length := by
  rw [eq_text_append_of_read? h]
  simp [text]
  omega

end DateCall

inductive Quoting where
  | outside
  | inside
  /-- Behind a backslash inside. -/
  | escaped
  deriving DecidableEq, Repr

def Quoting.next : Quoting → Char → Quoting
  | outside, c => if c = '"' then inside else outside
  | inside, c => if c = '\\' then escaped else if c = '"' then outside else inside
  | escaped, _ => inside

/-- Quotes the date calls of a text that is read from the given state on. -/
def quoteDateCallsFrom (state : Quoting) (s : List Char) : List Char :=
  match s with
  | [] => []
  | c :: rest =>
    if state = .outside then
      match _h : DateCall.read? (c :: rest) with
      | some (digits, after) =>
        '"' :: '$' :: '\x7b' :: DateCall.text digits ++ '\x7d' :: '"' ::
          quoteDateCallsFrom .outside after
      | none => c :: quoteDateCallsFrom (state.next c) rest
    else c :: quoteDateCallsFrom (state.next c) rest
termination_by s.length
decreasing_by
  · exact DateCall.length_lt_of_read? _h
  · simp
  · simp

def quoteDateCalls (s : List Char) : List Char :=
  if (Text.breakOn? DateCall.opening s).isNone then s else quoteDateCallsFrom .outside s

end DocTable
