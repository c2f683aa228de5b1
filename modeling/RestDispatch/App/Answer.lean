import RestDispatch.Http.Response
import RestDispatch.Handler.Basic

set_option autoImplicit false

/-!
The answers to requests. All but a handler's own response are JSON envelopes whose code is the status
of the response. A text that holds half a surrogate pair has no bytes, and an envelope around it cannot be made.
-/
namespace RestDispatch

inductive Answer where
  | notFound
  | undefinedMethod (method : String)
  | unsupportedBody
  | badParameter (code : Nat) (message : String)
  | badModel (report : String)
  | failed (fault : Fault)
  | success (body : Bytes)
  | custom (response : Response)

namespace Answer

def jsonResponse (status : Int) (body : Bytes) : Response := { body, status, mediaType := "application/json" }

def envelope (code : Int) (entries : Entries) : Except Fault Response :=
  Response.json (.data (.ofEntries (("code", .int code) :: entries))) code []

def errorEntries (entries : Entries) : Entries := [("error", .ofEntries entries)]

def successBody (content : Content) : Except Fault Bytes :=
  Content.jsonBytes
    (.dict
      [(.data (.text "code"), .data (.int 200)), (.data (.text "message"), .data (.text "success")),
       (.data (.text "data"), content)])

-- The answer that the end of a handler makes; content that cannot be written is a failure. A fault that asks the
-- program to stop is not answered, nor is a handler that does not end.
def ofResult : Except Silence Reply → Except Silence Answer
  | .error .endless => .error .endless
  | .error (.raised fault) => if fault.stops then .error (.raised fault) else .ok (.failed fault)
  | .ok (.response response) => .ok (.custom response)
  | .ok (.content content) =>
    match successBody content with
    | .ok body => .ok (.success body)
    | .error fault => .ok (.failed fault)

-- The response that carries an answer. Failures are explained only in debug mode.
def response (debug : Bool) : Answer → Except Fault Response
  | .notFound =>
    envelope 404 [("message", .text "This url does not have a corresponding resource")]
  | .undefinedMethod method =>
    envelope 400 (errorEntries [("message", .text (Text.lower method ++ " method is undefined."))])
  | .unsupportedBody =>
    envelope 403 (errorEntries [("message", .text "This request method is not supported")])
  | .badParameter code message =>
    envelope 400 (errorEntries [("type", .int code), ("message", .text message)])
  | .badModel report => envelope 400 (errorEntries [("type", .int 2), ("message", .text report)])
  | .failed fault =>
    envelope 500
      ([("message", .text "Internal Server Error")] ++
        (if debug then [("traceback", .text fault.traceback)] else []))
  | .success body => .ok (jsonResponse 200 body)
  | .custom response => .ok response

end Answer
end RestDispatch
