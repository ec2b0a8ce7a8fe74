import DocTable.ExtendedJson.Reader
import DocTable.Value.Bson

/-!
Argument lists: values in extended JSON with commas between them.
-/

namespace DocTable

inductive DecodeError where
  | json (e : Json.Error)
  | extendedJson (e : ExtendedJson.Error)

def DecodeError.message : DecodeError → String
  | json e => e.message
  | extendedJson e => e.message

def Json.argumentValues : Json → Except ExtendedJson.Error (List Value)
  | .array items => (ExtendedJson.toItems items).map Value.ofItems
  | v => (ExtendedJson.toBson v).map fun b => [Value.ofBson b]

/-- Reads a list as the array that it is between brackets; places in messages count the opening
bracket. -/
def decodeArguments (text : List Char) : Except DecodeError (List Value) := do
  let json ← (Json.parse ('[' :: text ++ [']'])).mapError .json
  json.argumentValues.mapError .extendedJson

end DocTable
