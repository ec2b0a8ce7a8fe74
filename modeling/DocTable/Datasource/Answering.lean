import DocTable.Datasource.Service

/-!
Requests for data on their way. The queries of a request run side by side, with one client and one
token, and come to their answers in any order. The stream of the answers sends them in the order of
the queries, so that an answer waits for those in front of it.
-/

namespace DocTable

abbrev Resolved := Except ClientError (DatasourceConfig × Client)

/-- The answers so far, by the place of their query, the items that the stream has sent, and the
token. -/
structure Answering where
  answers : List (Option DataResponse)
  sent : List DataResponse
  cancelled : Bool

namespace Answering

inductive Turn where
  /-- The query at a place is given the time for so many pulls in all. -/
  | poll (place pulls : Nat)
  /-- The stream is asked for its next item. -/
  | next

def start (queries : List DataQuery) : Answering := ⟨queries.map fun _ => none, [], false⟩

/-- How far a query comes in its time, and the token behind that. -/
def pollQuery (executorOf : Client → Executor) (resolved : Resolved) (cancelled : Bool)
    (pulls : Nat) (q : DataQuery) : Option DataResponse × Bool :=
  match resolved with
  | .error e => (some (q.refuse e), cancelled)
  | .ok (config, client) =>
    let run :=
      Run.ofText (executorOf client) config.runSettings q.model.queryText cancelled pulls
    (run.result.map q.respond, run.cancelled)

/-- An answered query is not polled again. -/
def poll (executorOf : Client → Executor) (resolved : Resolved) (queries : List DataQuery)
    (s : Answering) (place pulls : Nat) : Answering :=
  match queries[place]?, s.answers[place]? with
  | some q, some none =>
    let (answer, cancelled) := pollQuery executorOf resolved s.cancelled pulls q
    { s with answers := s.answers.set place answer, cancelled := cancelled }
  | _, _ => s

def next (s : Answering) : Answering :=
  match s.answers[s.sent.length]? with
  | some (some response) => { s with sent := s.sent ++ [response] }
  | _ => s

def step (executorOf : Client → Executor) (resolved : Resolved) (queries : List DataQuery)
    (s : Answering) : Turn → Answering
  | .poll place pulls => s.poll executorOf resolved queries place pulls
  | .next => s.next

def run (executorOf : Client → Executor) (resolved : Resolved) (queries : List DataQuery)
    (turns : List Turn) : Answering :=
  turns.foldl (step executorOf resolved queries) (start queries)

end Answering

end DocTable
