import DocTable.Text.Hex

/-!
Object identifiers: twelve bytes, written as twenty-four hexadecimal digits.
-/

namespace DocTable

structure ObjectId where
  bytes : List UInt8
  length_eq : bytes.length = 12
  deriving DecidableEq

namespace ObjectId

def ofBytes? (bytes : List UInt8) : Option ObjectId :=
  if h : bytes.length = 12 then some ⟨bytes, h⟩ else none

def hex (id : ObjectId) : String := String.ofList (Hex.encode id.bytes)

end ObjectId

end DocTable
