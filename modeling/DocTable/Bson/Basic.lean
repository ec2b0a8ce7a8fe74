import DocTable.Number.Binary
import DocTable.Number.Decimal128
import DocTable.ObjectId

/-!
BSON values, the kinds in which the document store keeps and sends data.
-/

namespace DocTable

inductive Bson where
  | null
  | undefined
  | boolean (b : Bool)
  | int32 (n : Int32)
  | int64 (n : Int64)
  | double (x : Binary64)
  | decimal128 (d : Decimal128)
  | string (s : String)
  /-- Milliseconds since the start of 1970, of any size that 64 bits hold. -/
  | dateTime (millis : Int64)
  | binary (subtype : UInt8) (bytes : List UInt8)
  | regex (pattern options : String)
  | objectId (id : ObjectId)
  | dbPointer (collection : String) (id : ObjectId)
  | code (text : String)
  | codeWithScope (text : String) (scope : List (String × Bson))
  | symbol (s : String)
  | timestamp (time increment : UInt32)
  | minKey
  | maxKey
  | array (items : List Bson)
  | document (entries : List (String × Bson))

/-- The options of a regular expression are kept in the order of their code points. -/
def Bson.sortOptions (options : String) : String :=
  String.ofList (options.toList.mergeSort fun a b => decide (a ≤ b))

end DocTable
