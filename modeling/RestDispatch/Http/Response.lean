import RestDispatch.Content
import RestDispatch.Text.Case
import RestDispatch.Text.Utf8
import RestDispatch.Value.Basic

set_option autoImplicit false

/-!
Responses and the two messages that send one: the start with status and headers, then the body. The
media type and the length of the body stand before the caller's headers.
-/
namespace RestDispatch

structure Response where
  body : Bytes := []
  status : Int := 200
  headers : List (String × String) := []
  mediaType : String := "text/plain; charset=utf-8"
deriving DecidableEq, Repr

inductive Message where
  | start (status : Int) (headers : List (Bytes × Bytes))
  | body (bytes : Bytes)
deriving DecidableEq, Repr

def encodingFault (e : Text.LatinError) : Fault := .of "UnicodeEncodeError" e.message

def latinBytes (text : String) : Except Fault Bytes :=
  match Text.latinBytes? text with
  | .ok bytes => .ok bytes
  | .error e => .error (encodingFault e)

namespace Response

def decimalBytes (n : Nat) : Bytes := (Nat.toDigits 10 n).map fun c => UInt8.ofNat c.toNat

def contentTypeName : Bytes := Text.Utf8.bytes "content-type"

def contentLengthName : Bytes := Text.Utf8.bytes "content-length"

def ownHeaders : List (String × String) → Except Fault (List (Bytes × Bytes))
  | [] => .ok []
  | (name, value) :: rest => do
    let name ← latinBytes (Text.lower name)
    let value ← latinBytes value
    let others ← ownHeaders rest
    .ok ((name, value) :: others)

-- The messages that send a response; a header that cannot be encoded makes sending fail before the first of them.
def messages (response : Response) : Except Fault (List Message) := do
  let mediaType ← latinBytes response.mediaType
  let own ← ownHeaders response.headers
  let framing := [(contentTypeName, mediaType), (contentLengthName, decimalBytes response.body.length)]
  .ok [.start response.status (framing ++ own), .body response.body]

def json (content : Content) (status : Int) (headers : List (String × String)) : Except Fault Response := do
  let body ← content.jsonBytes
  .ok { body, status, headers, mediaType := "application/json" }

end Response
end RestDispatch
