import DocTable.Bson.Binary
import DocTable.Run
import DocTable.Store.Command
import DocTable.Store.Settings

/-!
A store whose replies are known beforehand: who can be its client and log in, what its collections
hold, in batches, and which of its commands fail. `Server.openCursor` gives the reply to a command
that opens a cursor, with the pulls of that cursor and the commands that each of them sends.
-/

namespace DocTable

structure ServerError where
  code : Int
  codeName : String
  message : String
  deriving DecidableEq, Repr

def ServerError.commandText (e : ServerError) : String :=
  s!"Kind: Command failed: Error code {e.code} ({e.codeName}): {e.message}"

def ServerError.loginText (e : ServerError) : String := s!"Kind: SCRAM failure: {e.message}"

/-- A document as the store holds it, or the fault that shows when a client reads it. -/
abbrev StoredDocument := Except Bson.Binary.Fault BsonDocument

/-- What a collection answers: an error at once, or batch after batch, and then perhaps an error in
place of the end. -/
structure Collection where
  batches : List (List StoredDocument)
  error : Option ServerError
  moreError : Option ServerError

def Collection.empty : Collection := ⟨[], none, none⟩

/-- How a user comes to send a command. -/
inductive Login where
  /-- The connection is logged in from before. -/
  | before
  | accepted
  | refused (e : ServerError)
  deriving DecidableEq, Repr

structure Server where
  /-- What is wrong with a url. -/
  urlFault : String → Option String
  /-- What else is wrong with settings. -/
  clientFault : StoreSettings → Option String
  login : StoreSettings → Login
  /-- Collections by name, the same in every database. -/
  collections : List (String × Collection)
  pingError : Option ServerError

namespace Server

def collection (s : Server) (name : String) : Collection :=
  (Entries.get? s.collections name).getD .empty

structure Fetch where
  commands : List Command
  pull : Pull

def readStored : StoredDocument → Pull
  | .ok entries => .record (.ofBson entries)
  | .error f => .failed (.record s!"Kind: {f.message}")

/-- The pulls of a batch; the first one sends the commands that it took to get there. -/
def batchFetches (sent : List Command) : List StoredDocument → List Fetch
  | [] => []
  | d :: rest => ⟨sent, readStored d⟩ :: rest.map fun d => ⟨[], readStored d⟩

/-- The pulls of what follows a batch: each further batch is asked for when a record of it is
wanted, and an empty one is passed over. -/
def fetches (more : Command) (moreError : Option ServerError) (sent : List Command) :
    (first : List StoredDocument) → (others : List (List StoredDocument)) → List Fetch
  | first, next :: others =>
    batchFetches sent first ++
      fetches more moreError (if first.isEmpty then sent ++ [more] else [more]) next others
  | first, [] =>
    let left := if first.isEmpty then sent else []
    batchFetches sent first ++
      [match moreError with
        | some e => ⟨left ++ [more], .failed (.record e.commandText)⟩
        | none => ⟨left, .finish⟩]

def openCursor (s : Server) (database name : String) : Except ServerError (List Fetch) :=
  let c := s.collection name
  match c.error with
  | some e => .error e
  | none =>
    let (first, others) := match c.batches with
      | [] => ([], [])
      | first :: others => (first, others)
    .ok (fetches (.getMore database name) c.moreError [] first others)

/-- The reply to a command, with the pulls of the cursor, if it opens one. -/
def reply (s : Server) : Command → Except ServerError (List Fetch)
  | .find database name .. => s.openCursor database name
  | .aggregate database name _ => s.openCursor database name
  | .ping => s.pingError.elim (.ok []) .error
  | .getMore .. => .ok []
  | .login => .ok []

end Server

end DocTable
