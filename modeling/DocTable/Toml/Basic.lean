import DocTable.Entries
import DocTable.Number.Binary

/-!
TOML documents as nested tables. A table remembers what defined it, because that decides what may
still be added to it: a key-value pair or a header that would reach into a finished table, or define
a name twice, is refused.
-/

namespace DocTable

inductive TableOrigin where
  /-- The table's own header; the document itself counts as such a table. -/
  | header
  /-- A longer header only. -/
  | implied
  /-- The dotted key of a pair. -/
  | dotted
  /-- A value between braces. -/
  | inline
  deriving DecidableEq, Repr

inductive Toml where
  | string (s : String)
  | integer (n : Int)
  | float (x : Binary64)
  | boolean (b : Bool)
  | time (text : List Char)
  | array (items : List Toml)
  | table (origin : TableOrigin) (entries : List (String × Toml))
  /-- The tables of a header in double brackets; the last one is open. -/
  | tables (items : List (List (String × Toml)))

abbrev TomlTable := List (String × Toml)

namespace TomlTable

/-- Adds a pair whose key has the parts `path` in front of its last part `key`. Tables on the way
are taken as they are unless they are finished, and the one that the pair goes into must come from
dotted keys. -/
def insert? (t : TomlTable) : (path : List String) → (key : String) → Toml → Option TomlTable
  | [], key, v => if (Entries.get? t key).isSome then none else some (t ++ [(key, v)])
  | part :: path, key, v =>
    match Entries.get? t part with
    | none => (insert? [] path key v).map fun es => t ++ [(part, .table .dotted es)]
    | some (.table .dotted es) =>
      (insert? es path key v).map fun es => Entries.put t part (.table .dotted es)
    | some (.table .implied es) =>
      if path.isEmpty then none
      else (insert? es path key v).map fun es => Entries.put t part (.table .implied es)
    | some (.tables items) =>
      if path.isEmpty then none
      else
        (insert? (items.getLast?.getD []) path key v).map fun es =>
          Entries.put t part (.tables (items.dropLast ++ [es]))
    | some _ => none

/-- Changes the table that a header's path leads to. Tables on the way that are not there come from
this header, and of the tables of double brackets the last one is meant. -/
def under? (change : TomlTable → Option TomlTable) :
    (path : List String) → TomlTable → Option TomlTable
  | [], t => change t
  | part :: path, t =>
    match Entries.get? t part with
    | none => (under? change path []).map fun es => t ++ [(part, .table .implied es)]
    | some (.table .inline _) => none
    | some (.table origin es) =>
      (under? change path es).map fun es => Entries.put t part (.table origin es)
    | some (.tables items) =>
      (under? change path (items.getLast?.getD [])).map fun es =>
        Entries.put t part (.tables (items.dropLast ++ [es]))
    | some _ => none

/-- Opens the table of a header. It may be there already only because of longer headers. -/
def openTable? (t : TomlTable) (path : List String) (key : String) : Option TomlTable :=
  under? (fun t => match Entries.get? t key with
    | none => some (t ++ [(key, .table .header [])])
    | some (.table .implied es) => some (Entries.put t key (.table .header es))
    | some _ => none) path t

def openItem? (t : TomlTable) (path : List String) (key : String) : Option TomlTable :=
  under? (fun t => match Entries.get? t key with
    | none => some (t ++ [(key, .tables [[]])])
    | some (.tables items) => some (Entries.put t key (.tables (items ++ [[]])))
    | some _ => none) path t

end TomlTable

end DocTable
