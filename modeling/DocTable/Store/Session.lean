import DocTable.Store.Server

/-!
A client's dealings with a store: connecting, asking whether the store answers, and running queries,
each with the commands that the store gets to see.
-/

namespace DocTable

inductive ConnectError where
  | badUrl (url detail : String)
  | failed (detail : String)
  deriving DecidableEq, Repr

def ConnectError.message : ConnectError → String
  | badUrl url detail => s!"connection url '{url}': {detail}"
  | failed detail => s!"client: {detail}"

structure Sent (α : Type) where
  value : α
  commands : List Command

/-- What takes the commands of a client to a store and brings the replies, or why there are none. -/
abbrev Driver := Command → Sent (Except String (List Server.Fetch))

/-- Opens the cursor of a query. A query without a command leaves the driver alone. -/
def Query.send (q : Query) (driver : Driver) : Sent (Except QueryError (List Server.Fetch)) :=
  match q.command with
  | .error e => ⟨.error e, []⟩
  | .ok command =>
    let sent := driver command
    ⟨sent.value.mapError fun e => .execution s!"client: {e}", sent.commands⟩

namespace Server

/-- Makes a client. Nothing is sent yet. -/
def connect (s : Server) (settings : StoreSettings) : Except ConnectError Unit :=
  match s.urlFault settings.url, s.clientFault settings with
  | some detail, _ => .error (.badUrl settings.url detail)
  | none, some detail => .error (.failed detail)
  | none, none => .ok ()

/-- The driver of a client. The commands of a user wait for a login. -/
def driver (s : Server) (settings : StoreSettings) : Driver := fun command =>
  let replied := (s.reply command).mapError ServerError.commandText
  if settings.user.isEmpty then ⟨replied, [command]⟩
  else match s.login settings with
    | .before => ⟨replied, [command]⟩
    | .accepted => ⟨replied, [.login, command]⟩
    | .refused e => ⟨.error e.loginText, [.login]⟩

def ping (s : Server) (settings : StoreSettings) : Sent (Except QueryError Unit) :=
  let sent := s.driver settings .ping
  ⟨(sent.value.map fun _ => ()).mapError .execution, sent.commands⟩

def execute (s : Server) (settings : StoreSettings) (q : Query) :
    Sent (Except QueryError (List Fetch)) :=
  q.send (s.driver settings)

def executor (s : Server) (settings : StoreSettings) : Executor := fun q =>
  .returns ((s.execute settings q).value.map fun fetches =>
    .ofList (fetches.map fun f => .returns f.pull false)) false

def commandsOf (s : Server) (settings : StoreSettings) (events : List Event) : List Command :=
  let query? := events.findSome? fun | .execute q => some q | _ => none
  match query? with
  | none => []
  | some q =>
    let opening := s.execute settings q
    let fetches := opening.value.toOption.getD []
    opening.commands ++ events.flatMap fun
      | .pull n => (fetches[n]?.map (·.commands)).getD []
      | _ => []

def enoughPulls (s : Server) : Nat :=
  (s.collections.flatMap fun (_, c) => c.batches.flatten).length + 1

def run (s : Server) (settings : StoreSettings) (runSettings : RunSettings) (text : String) :
    Sent (Except QueryError Table) :=
  let r := Run.ofText (s.executor settings) runSettings text false s.enoughPulls
  ⟨r.result.getD (.error .cancelled), s.commandsOf settings r.events⟩

end Server

end DocTable
