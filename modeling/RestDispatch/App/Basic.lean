import RestDispatch.App.Middleware
import RestDispatch.Http.Request

set_option autoImplicit false

/-!
Applications: a dispatcher in its middleware. Startups of an application are acknowledged, and a shutdown, which ends it;
other messages about its life are passed over.
-/
namespace RestDispatch

inductive LifeEvent where
  | startup
  | shutdown
  | other (name : String)
deriving DecidableEq, Repr

inductive LifeReply where
  | startupComplete
  | shutdownComplete
deriving DecidableEq, Repr

inductive LifeAct where
  | received (event : LifeEvent)
  | sent (reply : LifeReply)
deriving DecidableEq, Repr

-- How a call about the life of an application goes: what it receives and sends, in this order, and the messages that it
-- leaves when it returns. It fails when it asks for a message and there is none.
structure LifeCall where
  acts : List LifeAct
  result : Except Fault (List LifeEvent)

namespace LifeCall

def after (acts : List LifeAct) (call : LifeCall) : LifeCall := { call with acts := acts ++ call.acts }

def run : List LifeEvent → LifeCall
  | [] => ⟨[], .error noMoreMessages⟩
  | .startup :: events => (run events).after [.received .startup, .sent .startupComplete]
  | .shutdown :: events => ⟨[.received .shutdown, .sent .shutdownComplete], .ok events⟩
  | .other name :: events => (run events).after [.received (.other name)]

def sent (call : LifeCall) : List LifeReply :=
  call.acts.filterMap fun
    | .sent reply => some reply
    | .received _ => none

def received (call : LifeCall) : List LifeEvent :=
  call.acts.filterMap fun
    | .received event => some event
    | .sent _ => none

end LifeCall

-- What is told of a call that has returned.
structure Lifespan where
  sent : List LifeReply
  left : List LifeEvent
deriving DecidableEq, Repr

def LifeCall.lifespan (call : LifeCall) : Except Fault Lifespan := call.result.map fun left => ⟨call.sent, left⟩

-- An application. `chain` is the dispatcher in its middleware once that has been made; `builds` tells the tags of
-- all middleware that was applied so far.
structure App where
  dispatcher : Dispatcher := {}
  middleware : List Middleware := []
  chain : Option Service := none
  builds : List String := []

namespace App

def new (strict debug : Bool) : App := { dispatcher := { registry := { strict }, debug } }

def registry (app : App) : Registry := app.dispatcher.registry

def withRegistry (app : App) (registry : Registry) : App :=
  { app with dispatcher := { app.dispatcher with registry } }

def add (app : App) (text : String) (target : Target) (attachments : List (String × ParserId)) :
    Except RegisterError (Route Resource) × App :=
  let (result, registry) := app.registry.register text target attachments
  (result, app.withRegistry registry)

def addAll (app : App) (entries : List (String × Target)) :
    Except RegisterError (List (Route Resource)) × App :=
  let (result, registry) := app.registry.registerAll entries
  (result, app.withRegistry registry)

def addMiddleware (app : App) (middleware : Middleware) : App :=
  { app with middleware := app.middleware ++ [middleware], chain := none }

def service (app : App) : Except Fault Service × App :=
  match app.chain with
  | some chain => (.ok chain, app)
  | none =>
    match Middleware.wrapAll Dispatcher.handle app.middleware.reverse with
    | (.error fault, tags) => (.error fault, { app with builds := app.builds ++ tags })
    | (.ok chain, tags) => (.ok chain, { app with chain := some chain, builds := app.builds ++ tags })

-- A call about the life of the application. It does not reach the middleware, and nothing is set up or taken down.
def live (app : App) (events : List LifeEvent) : App × LifeCall := (app, LifeCall.run events)

-- Answers a call. Calls about the life of the application do not reach the middleware; no message of a body ends
-- them.
def call (app : App) (scope : Scope) (channel : Channel) : App × Delivery :=
  if scope.kind = "lifespan" then (app, .error (.raised noMoreMessages))
  else
    match app.service with
    | (.error fault, app) => (app, .error (.raised fault))
    | (.ok service, app) =>
      let (dispatcher, delivery) := service app.dispatcher scope channel
      ({ app with dispatcher }, delivery)

end App
end RestDispatch
