import RestDispatch.Handler.Signature
import RestDispatch.Http.Request
import RestDispatch.Http.Response

set_option autoImplicit false

/-!
Handlers: functions that answer requests for a resource. A handler may keep things in the list of the
object that it belongs to; what it keeps stays there when it fails.
-/
namespace RestDispatch

-- What a handler finds when it is called: the object that it belongs to with its attributes and the names of its
-- methods, the arguments, and the request if the handler asked for it.
structure Situation where
  owner : String
  serial : Nat
  attributes : Entries := []
  methods : List String := []
  items : List Content := []
  arguments : Arguments := {}
  request : Option RequestView := none

-- What a handler returns: content to be sent in an envelope, or a response to be sent as it is.
inductive Reply where
  | content (c : Content)
  | response (r : Response)

-- How a handler ends, if it does, and what its object keeps then.
structure Outcome where
  result : Except Silence Reply
  items : List Content

-- A handler. `misfit` is what calls of it say whose arguments do not bind.
structure Handler where
  label : String
  async : Bool := false
  signature : Signature
  misfit : BindError → String := BindError.message label
  run : Situation → Outcome

namespace Handler

-- The faults that are made anew where they are handed over from a thread, and what they come out as.
def handedOver : List (String × String × String) :=
  [("TimeoutError", "", "TimeoutError"),
   ("concurrent.futures._base.CancelledError", "asyncio.exceptions.", "CancelledError"),
   ("concurrent.futures._base.InvalidStateError", "asyncio.exceptions.", "InvalidStateError")]

-- A fault of the thread in which a handler runs. The end of an iteration cannot be handed over, and who waits for it
-- waits for ever. A cancellation comes out as one that nothing catches.
def threadFault (fault : Fault) : Silence :=
  if fault.fullKind = "StopIteration" then .endless
  else
    match handedOver.lookup fault.fullKind with
    | some (origin, kind) => .raised { fault with origin, kind, text := fault.remade.getD fault.text, calls := noCalls }
    | none => .raised fault

-- A fault of a coroutine. The end of an iteration is the cause of another fault there.
def coroutineFault (fault : Fault) : Silence :=
  .raised
    (if fault.fullKind = "StopIteration" then (Fault.of "RuntimeError" "coroutine raised StopIteration").raisedFor fault else fault)

def surfaced (handler : Handler) : Silence → Silence
  | .raised fault => if handler.async then coroutineFault fault else threadFault fault
  | .endless => .endless

-- Calls a handler with keyword arguments. Arguments that do not bind are a fault of the call.
def call (handler : Handler) (arguments : List (String × Content)) (situation : Situation) : Outcome :=
  match handler.signature.bind arguments with
  | .error e => ⟨.error (.raised (.typeError (handler.misfit e))), situation.items⟩
  | .ok bound =>
    let outcome := handler.run { situation with arguments := bound }
    { outcome with result := outcome.result.mapError handler.surfaced }

-- The handler as it is seen without an object: the object is its first parameter.
def unbound (handler : Handler) : Handler := { handler with signature := handler.signature.withSelf }

end Handler
end RestDispatch
