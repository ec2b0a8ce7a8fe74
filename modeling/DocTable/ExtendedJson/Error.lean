import DocTable.Json.Shape

/-!
Failures of reading extended JSON: a wrapper object whose body has the wrong shape or content.
-/

namespace DocTable.ExtendedJson

inductive Error where
  | shape (e : Json.ShapeError)
  /-- An object identifier without exactly twenty-four digits. -/
  | objectIdLength (text : String) (bytes : Nat)
  /-- A byte of an object identifier that is no digit. -/
  | objectIdDigit (text : String) (byte : UInt8) (index : Nat)

def Error.message : Error → String
  | shape e => e.message
  | objectIdLength text bytes =>
    s!"provided hex string representation must be exactly 12 bytes, instead got: \"{text}\", " ++
      s!"length {bytes}"
  | objectIdDigit text byte index =>
    s!"invalid character '{Char.ofNat byte.toNat}' was found at index {index} in the provided " ++
      s!"hex string: \"{text}\""

def Error.content (text expected : String) : Error :=
  .shape (.invalidValue (.string text) expected)

end DocTable.ExtendedJson
