import DocTable.Json.Reader
import DocTable.Json.Shape
import DocTable.Run
import DocTable.Store.Settings

/-!
Settings of a data source, as a dashboard keeps them, and what they amount to: where to connect and
how many rows to keep of a query.
-/

namespace DocTable

/-- The settings of one data source, with their free part decoded. -/
structure InstanceSettings where
  uid : String
  url : String
  user : String
  database : String
  jsonData : Json
  secure : List (String × String)

structure SettingsError where
  text : String
  error : Json.Error

def SettingsError.message (e : SettingsError) : String :=
  s!"unexpected plugin JSON data (got {e.text}): {e.error.message}"

/-- The free part of settings; an empty text stands for an empty object. -/
def InstanceSettings.decodeData (text : String) : Except SettingsError Json :=
  if text.isEmpty then .ok (.object []) else (Json.parse text.toList).mapError (⟨text, ·⟩)

structure DatasourceConfig where
  uid : String
  store : StoreSettings
  maxResults : Nat
  deriving DecidableEq, Repr

inductive ConfigError where
  | missing
  | emptyUrl
  | jsonData (e : Json.ShapeError)

def ConfigError.message : ConfigError → String
  | missing => "datasource instance settings are missing"
  | emptyUrl => "datasource url is empty"
  | jsonData e => s!"invalid jsonData: {e.message}"

namespace DatasourceConfig

def rowCount : Json.Shape Nat := .below UInt64.size "usize"

/-- The row cap in the free part of the settings: an object, of which other fields are ignored, an
array of the one field, or nothing. -/
def maxResults? : Json.Shape (Option Nat)
  | .null => .ok none
  | .object entries => (Entries.get? entries "maxResults").mapM rowCount
  | .array [] => .ok none
  | .array (v :: rest) => do
    let n ← rowCount v
    if rest.isEmpty then .ok (some n)
    else .error (.invalidLength (rest.length + 1) "fewer elements in array")
  | v => .error (.invalidType v.found "struct JsonData")

def ofSettings (settings : Option InstanceSettings) : Except ConfigError DatasourceConfig := do
  let some s := settings | .error .missing
  if s.url.isEmpty then .error .emptyUrl
  else
    let cap ← (maxResults? s.jsonData).mapError .jsonData
    .ok {
      uid := s.uid
      store := {
        url := s.url
        user := s.user
        password := (Entries.get? s.secure "password").getD ""
        database := s.database }
      maxResults := cap.getD RunSettings.defaultMaxRows }

def runSettings (c : DatasourceConfig) : RunSettings := ⟨c.store.database, c.maxResults⟩

end DatasourceConfig

end DocTable
