import DocTable.Number.Binary

/-!
JSON values. Objects keep the order of their names; a number is an integer where its text is one
and 64 bits hold it, and a double otherwise. Singles are written, never read: their text has the
digits that tell them from other singles.
-/

namespace DocTable

inductive Json where
  | null
  | bool (b : Bool)
  | integer (n : Int)
  | float (x : Binary64)
  | single (x : Binary32)
  | string (s : String)
  | array (items : List Json)
  | object (entries : List (String × Json))

end DocTable
