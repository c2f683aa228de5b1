import RestDispatch.Http.Query
import RestDispatch.Text.Case
import RestDispatch.Text.Blank

set_option autoImplicit false

/-!
Requests. The body comes in messages through a channel; it is received when it is first asked for, up
to the first message that announces no other, and kept from then on.
-/
namespace RestDispatch

structure Chunk where
  body : Bytes := []
  more : Bool := false
deriving DecidableEq, Repr

-- Messages that have not been received, and how often receiving was tried.
structure Channel where
  pending : List Chunk := []
  receives : Nat := 0
deriving DecidableEq, Repr

def noMoreMessages : Fault := .of "RuntimeError" "no more messages"

namespace Channel

def receiveBody (receives : Nat) : List Chunk → Except Fault Bytes × Channel
  | [] => (.error noMoreMessages, ⟨[], receives + 1⟩)
  | chunk :: rest =>
    if chunk.more then
      let (body, channel) := receiveBody (receives + 1) rest
      (body.map (chunk.body ++ ·), channel)
    else (.ok chunk.body, ⟨rest, receives + 1⟩)

end Channel

structure Scope where
  kind : String := "http"
  method : Option String := none
  path : Option String := none
  query : Bytes := []
  headers : List (Bytes × Bytes) := []
deriving DecidableEq, Repr

structure Request where
  method : String
  path : String
  captures : Entries := []
  rawQuery : Bytes := []
  rawHeaders : List (Bytes × Bytes) := []
  channel : Channel := {}
  kept : Option Bytes := none

def missingKey (key : String) : Fault := .of "KeyError" (Text.quoted key)

namespace Request

def ofScope (scope : Scope) (channel : Channel) (captures : Entries) : Except Fault Request :=
  match scope.method, scope.path with
  | none, _ => .error (missingKey "method")
  | _, none => .error (missingKey "path")
  | some method, some path =>
    .ok
      { method := Text.upper method, path, captures, rawQuery := scope.query,
        rawHeaders := scope.headers, channel }

def queryValues (request : Request) : Query := .ofBytes request.rawQuery

def query (request : Request) : List (String × String) := request.queryValues.firsts

def headers (request : Request) : List (String × String) :=
  putAll [] (request.rawHeaders.map fun (name, value) => (Text.lower (Text.latinText name), Text.latinText value))

def contentType (request : Request) : String :=
  let whole := (request.headers.lookup "content-type").getD ""
  Text.lower (Text.strip (String.ofList (whole.toList.takeWhile (· ≠ ';'))))

-- The whole body. It is received once; a failed attempt keeps nothing.
def body (request : Request) : Except Fault Bytes × Request :=
  match request.kept with
  | some bytes => (.ok bytes, request)
  | none =>
    match Channel.receiveBody request.channel.receives request.channel.pending with
    | (.ok bytes, channel) => (.ok bytes, { request with channel, kept := some bytes })
    | (.error fault, channel) => (.error fault, { request with channel })

def json (request : Request) : Except Fault Value × Request :=
  match request.body with
  | (.error fault, request) => (.error fault, request)
  | (.ok bytes, request) =>
    match Json.decodeBytes .ofBody bytes with
    | .ok value => (.ok value, request)
    | .error e => (.error e.fault, request)

end Request

structure RequestView where
  method : String
  path : String
  captures : Entries
  queryValues : Query
  query : List (String × String)
  headers : List (String × String)
  contentType : String
  body : Except Fault Bytes
  json : Except Fault Value

def Request.view (request : Request) : RequestView :=
  { method := request.method
    path := request.path
    captures := request.captures
    queryValues := request.queryValues
    query := request.query
    headers := request.headers
    contentType := request.contentType
    body := request.body.1
    json := request.json.1 }

end RestDispatch
