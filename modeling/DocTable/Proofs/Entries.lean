import DocTable.Entries
import Mathlib.Data.List.Induction
import Mathlib.Data.List.Nodup

/-!
# Repeated names

Collapsed entries have each name once, and entries that have each name once are collapsed already.
-/

namespace DocTable.Entries

variable {α : Type} {entries : List (String × α)} {name : String} {value : α} {entry : String × α}

def names (entries : List (String × α)) : List String := entries.map (·.1)

theorem put_of_not_mem (h : name ∉ names entries) :
    put entries name value = entries ++ [(name, value)] := by
  induction entries with
  | nil => rfl
  | cons e entries ih =>
    rw [names, List.map_cons, List.mem_cons, not_or] at h
    rw [put, if_neg (Ne.symm h.1), ih h.2, List.cons_append]

theorem names_put_of_mem (h : name ∈ names entries) :
    names (put entries name value) = names entries := by
  induction entries with
  | nil => cases h
  | cons e entries ih =>
    rw [put]
    split
    · rfl
    · next other =>
      rw [names, List.map_cons, List.mem_cons] at h
      rw [names, List.map_cons, ← names, ih (h.resolve_left (Ne.symm other))]
      rfl

theorem mem_of_mem_put (h : entry ∈ put entries name value) :
    entry = (name, value) ∨ entry ∈ entries := by
  induction entries with
  | nil => exact .inl (List.mem_singleton.1 h)
  | cons e entries ih =>
    rw [put] at h
    split at h
    · next same =>
      rcases List.mem_cons.1 h with rfl | others
      · exact .inl (by rw [same])
      · exact .inr (List.mem_cons_of_mem e others)
    · rcases List.mem_cons.1 h with rfl | others
      · exact .inr (List.mem_cons_self ..)
      · exact (ih others).imp_right (List.mem_cons_of_mem e)

theorem nodup_put (h : (names entries).Nodup) (name : String) (value : α) :
    (names (put entries name value)).Nodup := by
  by_cases known : name ∈ names entries
  · rwa [names_put_of_mem known]
  · rw [put_of_not_mem known, names, List.map_append]
    exact List.concat_eq_append ▸ h.concat known

theorem collapse_concat :
    collapse (entries ++ [entry]) = put (collapse entries) entry.1 entry.2 := by
  rw [collapse, List.foldl_append]
  rfl

theorem nodup_collapse (entries : List (String × α)) : (names (collapse entries)).Nodup := by
  induction entries using List.reverseRecOn with
  | nil => exact List.nodup_nil
  | append_singleton entries entry ih =>
    rw [collapse_concat]
    exact nodup_put ih entry.1 entry.2

theorem mem_of_mem_collapse (h : entry ∈ collapse entries) : entry ∈ entries := by
  induction entries using List.reverseRecOn with
  | nil => cases h
  | append_singleton entries last ih =>
    rw [collapse_concat] at h
    rcases mem_of_mem_put h with rfl | earlier
    · exact List.mem_append_right entries (List.mem_singleton.2 rfl)
    · exact List.mem_append_left _ (ih earlier)

theorem collapse_eq_self (h : (names entries).Nodup) : collapse entries = entries := by
  induction entries using List.reverseRecOn with
  | nil => rfl
  | append_singleton entries last ih =>
    rw [names, List.map_append, List.nodup_append'] at h
    obtain ⟨init, -, apart⟩ := h
    rw [collapse_concat, ih init, put_of_not_mem fun mem => apart mem (List.mem_singleton.2 rfl)]

end DocTable.Entries
