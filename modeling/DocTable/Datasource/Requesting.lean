import DocTable.Datasource.Service

/-!
Requests to a plugin one after another. Whatever a request asks for, it obtains a client, and the
clients that are kept then are those that the next request finds.
-/

namespace DocTable

inductive Demand where
  | health
  | data (queries : List DataQuery)

structure PluginRequest where
  demand : Demand
  settings : Option InstanceSettings
  /-- The store as the request finds it. -/
  server : Server

inductive Reply where
  | health (sent : Sent Health)
  | data (sent : List (Sent DataResponse))

namespace Clients

def reply (c : Clients) (r : PluginRequest) : Reply × Clients :=
  match r.demand with
  | .health =>
    let (sent, c) := c.checkHealth r.server r.settings
    (.health sent, c)
  | .data queries =>
    let (sent, c) := c.answerQueries r.server r.settings queries
    (.data sent, c)

/-- The clients that are kept when all requests have their replies. -/
def after (requests : List PluginRequest) : Clients :=
  requests.foldl (fun c r => (c.reply r).2) .empty

end Clients

namespace PluginRequest

/-- The client that a request obtains behind the given ones, or why it obtains none. -/
def outcome (before : List PluginRequest) (r : PluginRequest) :
    Except ClientError (DatasourceConfig × Client) :=
  ((Clients.after before).obtain? r.server r.settings).1

end PluginRequest

end DocTable
