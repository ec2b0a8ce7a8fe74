import DocTable.Json.Reader
import DocTable.Store.Server

/-!
Recorded stores: a JSON object with the `address` that urls name the store by, what is said of other
urls, as `url_error`, the answers of each collection by name, under `collections`, and the errors of
`ping_error` and `auth_error`. A collection has `batches`, lists of documents, and may have `error`
and `getmore_error`. A document is a text of extended JSON, or an object with its bytes as `hex`.
Whatever is absent is empty.
-/

namespace DocTable

structure Recording where
  address : String
  urlError : String
  collections : List (String × Collection)
  pingError : Option ServerError
  loginError : Option ServerError

namespace Recording

def empty (address : String) : Recording := ⟨address, "", [], none, none⟩

/-- The store as recorded: nobody may log in. -/
def server (r : Recording) : Server where
  urlFault url := if (Text.breakOn? r.address.toList url.toList).isSome then none
    else some r.urlError
  clientFault _ := none
  login _ := .refused (r.loginError.getD ⟨18, "AuthenticationFailed", "Authentication failed."⟩)
  collections := r.collections
  pingError := r.pingError

variable {α : Type}

def optional? (entries : List (String × Json)) (name : String) (read : Json → Option α) :
    Option (Option α) :=
  match Entries.get? entries name with
  | none | some .null => some none
  | some v => (read v).map some

def fields? : Json → Option (List (String × Json))
  | .object entries => some entries
  | _ => none

def items? (read : Json → Option α) : Json → Option (List α)
  | .array items => items.mapM read
  | _ => none

def text? : Json → Option String
  | .string s => some s
  | _ => none

def error? (j : Json) : Option ServerError := do
  let entries ← fields? j
  let .integer code ← Entries.get? entries "code" | none
  let codeName ← (Entries.get? entries "codeName").bind text?
  let message ← (Entries.get? entries "errmsg").bind text?
  some ⟨code, codeName, message⟩

def document? : Json → Option StoredDocument
  | .string text => (ExtendedJson.document? text.toList).map .ok
  | .object entries => do
    let hex ← (Entries.get? entries "hex").bind text?
    some (Bson.Binary.decode (← Hex.decode? hex.toList))
  | _ => none

def collection? (j : Json) : Option Collection := do
  let entries ← fields? j
  let batches ← optional? entries "batches" (items? (items? document?))
  let error ← optional? entries "error" error?
  let moreError ← optional? entries "getmore_error" error?
  some ⟨batches.getD [], error, moreError⟩

def ofJson? (j : Json) : Option Recording := do
  let entries ← fields? j
  let address ← optional? entries "address" text?
  let urlError ← optional? entries "url_error" text?
  let collections ← optional? entries "collections" fun j => do
    (← fields? j).mapM fun (name, c) => (collection? c).map (name, ·)
  let pingError ← optional? entries "ping_error" error?
  let loginError ← optional? entries "auth_error" error?
  some ⟨address.getD "", urlError.getD "", collections.getD [], pingError, loginError⟩

def parse? (text : List Char) : Option Recording := (Json.parse text).toOption.bind ofJson?

end Recording

end DocTable
