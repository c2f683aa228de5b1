import RestDispatch.App.Dispatch

set_option autoImplicit false

/-!
Middleware. Each wraps the service that answers calls; the first that was added is the outermost. The
wrapped service is made at the first call after something was added, and kept from then on.
-/
namespace RestDispatch

abbrev Service := Dispatcher → Scope → Channel → Dispatcher × Delivery

structure Middleware where
  tag : String
  wrap : Service → Except Fault Service

namespace Middleware

def isStart : Message → Bool
  | .start _ _ => true
  | .body _ => false

def addHeader (name value : Bytes) : Message → Message
  | .start status headers => .start status (headers ++ [(name, value)])
  | message => message

-- The messages of a response with a header more. A value that cannot be encoded is a fault as soon as a response is
-- started.
def withHeader (name value : String) (messages : List Message) : Delivery :=
  if messages.any isStart then
    match latinBytes name, latinBytes value with
    | .ok name, .ok value => .ok (messages.map (addHeader name value))
    | .error fault, _ => .error (.raised fault)
    | .ok _, .error fault => .error (.raised fault)
  else .ok messages

def header (tag : String) : Middleware :=
  { tag
    wrap := fun service => .ok fun dispatcher scope channel =>
      let (dispatcher, delivery) := service dispatcher scope channel
      (dispatcher, delivery.bind (withHeader "x-tag" tag)) }

def dropStart (start text : String) : String :=
  match Json.after? start.toList text.toList with
  | some rest => String.ofList rest
  | none => text

def strip (tag start : String) : Middleware :=
  { tag
    wrap := fun service => .ok fun dispatcher scope channel =>
      match scope.path with
      | some path => service dispatcher { scope with path := some (dropStart start path) } channel
      | none => (dispatcher, .error (.raised (missingKey "path"))) }

def stop (tag : String) : Middleware :=
  { tag
    wrap := fun _ => .ok fun dispatcher _ _ =>
      (dispatcher, ((latinBytes tag).bind fun body => Response.messages { body, status := 418 }).mapError .raised) }

-- Wraps a service in middleware, that which is listed first being applied first. Tells the tags of what was
-- applied.
def wrapAll (service : Service) : List Middleware → Except Fault Service × List String
  | [] => (.ok service, [])
  | middleware :: rest =>
    match middleware.wrap service with
    | .error fault => (.error fault, [middleware.tag])
    | .ok wrapped =>
      let (result, tags) := wrapAll wrapped rest
      (result, middleware.tag :: tags)

end Middleware
end RestDispatch
