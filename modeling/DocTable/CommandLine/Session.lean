import DocTable.CommandLine.Arguments
import DocTable.CommandLine.Config
import DocTable.Store.Session
import DocTable.Table.Json

/-!
What the command line does: it reads its configuration, connects, and prints the table of a query as
JSON, or that the store answers.
-/

namespace DocTable.CommandLine

inductive Failure where
  | config (e : ConfigFileError)
  | connect (e : ConnectError)
  | query (e : QueryError)

def Failure.message : Failure → String
  | config e => e.message
  | connect e => s!"store: {e.message}"
  | query e => e.message

namespace Invocation

def config : Invocation → String
  | .run _ config => config
  | .ping config => config

def answers : String := "Data source is working"

def ask (inv : Invocation) (server : Server) (config : Config) : Sent (Except QueryError String) :=
  match inv with
  | .run query _ =>
    let sent := server.run config.store config.runSettings query
    ⟨sent.value.map fun table => table.toJson.prettyText, sent.commands⟩
  | .ping _ =>
    let sent := server.ping config.store
    ⟨sent.value.map fun () => answers, sent.commands⟩

def perform (inv : Invocation) (server : Server) (content : Option String) :
    Sent (Except Failure String) :=
  match Config.load inv.config content with
  | .error e => ⟨.error (.config e), []⟩
  | .ok config => match server.connect config.store with
    | .error e => ⟨.error (.connect e), []⟩
    | .ok () =>
      let sent := inv.ask server config
      ⟨sent.value.mapError .query, sent.commands⟩

end Invocation

end DocTable.CommandLine
