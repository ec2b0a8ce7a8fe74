/-!
Lists of named entries, in the order in which their names first came up. `put` replaces the value
of a name that is there and appends one that is not, and `collapse` puts the entries of a list one
after another, so a repeated name keeps its first place and its last value.
-/

namespace DocTable.Entries

variable {α : Type}

def get? (entries : List (String × α)) (name : String) : Option α :=
  (entries.find? (·.1 == name)).map (·.2)

def put (entries : List (String × α)) (name : String) (value : α) : List (String × α) :=
  match entries with
  | [] => [(name, value)]
  | (n, v) :: rest => if n = name then (n, value) :: rest else (n, v) :: put rest name value

def collapse (entries : List (String × α)) : List (String × α) :=
  entries.foldl (fun done (name, value) => put done name value) []

/-- The entries in the order of their names, which is the order of the names' bytes. -/
def sorted (entries : List (String × α)) : List (String × α) :=
  entries.mergeSort fun a b => decide (a.1 ≤ b.1)

end DocTable.Entries
