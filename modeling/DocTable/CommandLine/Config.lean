import DocTable.Run
import DocTable.Store.Settings
import DocTable.Toml.Reader

/-!
The configuration of the command line: a TOML file with texts `url`, `user`, `password` and
`database` and a row count `max_results`, all of them optional. Whatever else it holds is ignored.
-/

namespace DocTable.CommandLine

structure Config where
  store : StoreSettings
  maxResults : Nat
  deriving DecidableEq, Repr

inductive ConfigFileError where
  | unreadable (path : String)
  | invalid (path : String)
  deriving DecidableEq, Repr

def ConfigFileError.message : ConfigFileError → String
  | unreadable path => s!"config (read): '{path}'"
  | invalid path => s!"config (parse): '{path}'"

namespace Config

def defaultUrl : String := "mongodb://localhost:27017"

def text? (t : TomlTable) (name absent : String) : Option String :=
  match Entries.get? t name with
  | none => some absent
  | some (.string s) => some s
  | some _ => none

def count? (t : TomlTable) (name : String) (absent : Nat) : Option Nat :=
  match Entries.get? t name with
  | none => some absent
  | some (.integer n) => if 0 ≤ n then some n.toNat else none
  | some _ => none

def ofToml? (t : TomlTable) : Option Config := do
  let url ← text? t "url" defaultUrl
  let user ← text? t "user" ""
  let password ← text? t "password" ""
  let database ← text? t "database" ""
  let maxResults ← count? t "max_results" RunSettings.defaultMaxRows
  some ⟨⟨url, user, password, database⟩, maxResults⟩

def load (path : String) (content : Option String) : Except ConfigFileError Config :=
  match content with
  | none => .error (.unreadable path)
  | some text =>
    match (Toml.parse? text.toList).bind ofToml? with
    | some config => .ok config
    | none => .error (.invalid path)

def runSettings (c : Config) : RunSettings := ⟨c.store.database, c.maxResults⟩

end Config

end DocTable.CommandLine
