import DocTable.Datasource.Clients
import DocTable.Datasource.QueryModel
import DocTable.Frame

/-!
What a plugin answers: whether a data source works, and a frame or an error for each query of a
request. Each answer comes with the commands that it took.
-/

namespace DocTable

structure Health where
  ok : Bool
  message : String
  deriving DecidableEq, Repr

def Health.working : String := "Data source is working"

def Health.ofSettingsError (e : SettingsError) : Health :=
  ⟨false, s!"error converting check health request: {e.message}"⟩

structure DataQuery where
  refId : String
  model : QueryModel

structure DataResponse where
  refId : String
  frame : Except String Frame

structure QueryModelError where
  text : String
  error : QueryModel.Error

def QueryModelError.message (e : QueryModelError) : String :=
  s!"unexpected query JSON (got {e.text}): {e.error.message}"

namespace DataQuery

def decode (refId text : String) : Except QueryModelError DataQuery :=
  ((QueryModel.parse text.toList).map (⟨refId, ·⟩)).mapError (⟨text, ·⟩)

/-- What a query answers when its run has a result: the table as a frame. -/
def respond (q : DataQuery) (result : Except QueryError Table) : DataResponse :=
  let frame := do
    let table ← result.mapError QueryError.message
    (Frame.ofTable table).check.mapError fun e => s!"frame error: {e.message}"
  ⟨q.refId, frame⟩

def refuse (q : DataQuery) (e : ClientError) : DataResponse := ⟨q.refId, .error e.message⟩

end DataQuery

namespace Clients

def checkHealth (c : Clients) (server : Server) (settings : Option InstanceSettings) :
    Sent Health × Clients :=
  match c.obtain? server settings with
  | (.error e, c) => (⟨⟨false, e.message⟩, []⟩, c)
  | (.ok (_, client), c) =>
    let sent := server.ping client.settings
    match sent.value with
    | .ok () => (⟨⟨true, Health.working⟩, sent.commands⟩, c)
    | .error e => (⟨⟨false, e.message⟩, sent.commands⟩, c)

def answerQuery (server : Server) (config : DatasourceConfig) (client : Client) (q : DataQuery) :
    Sent DataResponse :=
  let sent := server.run client.settings config.runSettings q.model.queryText
  ⟨q.respond sent.value, sent.commands⟩

/-- The answers to the queries of a request, one for each and in their order. Without a client all
of them are the same error. -/
def answerQueries (c : Clients) (server : Server) (settings : Option InstanceSettings)
    (queries : List DataQuery) : List (Sent DataResponse) × Clients :=
  match c.obtain? server settings with
  | (.error e, c) => (queries.map fun q => ⟨q.refuse e, []⟩, c)
  | (.ok (config, client), c) => (queries.map (answerQuery server config client), c)

end Clients

/-- The answers as a dashboard keeps them: one for each reference, the last, in the order of the
references. -/
def DataResponse.byRefId (responses : List DataResponse) : List DataResponse :=
  (Entries.sorted (Entries.collapse (responses.map fun r => (r.refId, r)))).map (·.2)

end DocTable
