import RestDispatch.App.Registry
import RestDispatch.App.Collection
import RestDispatch.App.Answer

set_option autoImplicit false

/-!
Dispatching a call. The path decides on the resource, then the method on the handler, then the
arguments are collected, and only then the handler is called. Handlers may change what their own object
keeps and nothing else.
-/
namespace RestDispatch

structure Dispatcher where
  registry : Registry := {}
  debug : Bool := false

-- The messages that a call sends, unless it is not answered.
abbrev Delivery := Except Silence (List Message)

def Registry.keep (registry : Registry) (identity : Identity) (items : List Content) : Registry :=
  let objects := registry.router.objects.keep identity items
  { registry with router := { registry.router with objects } }

def Registry.items (registry : Registry) (identity : Identity) : List Content :=
  registry.router.objects.items identity

def Registry.situation (registry : Registry) (resource : Resource) (view : Option RequestView) : Situation :=
  match resource with
  | .object cls serial =>
    { owner := cls.name
      serial
      attributes := cls.attributes
      methods := cls.methods.map (·.1)
      items := registry.items resource.identity
      request := view }
  | .plain _ v => { owner := v.kindName, serial := 0, items := registry.items resource.identity, request := view }

-- Answers a request for which no arguments could be collected; a fault leaves the call.
def Refusal.answer : Refusal → Except Silence Answer
  | .unsupportedBody => .ok .unsupportedBody
  | .badParameter rejection message => .ok (.badParameter rejection.code message)
  | .badModel model errors => .ok (.badModel (model.report errors))
  | .fault raised => .error (.raised raised)

namespace Registry

def perform (registry : Registry) (resource : Resource) (handler : Handler) (parser : Option Parser)
    (request : Request) : Except Silence Answer × Registry :=
  let signature := handler.signature
  match signature.collect signature.models parser request with
  | (.error refusal, _) => (refusal.answer, registry)
  | (.ok arguments, request) =>
    let view := if signature.wantsRequest then some request.view else none
    let outcome := handler.call arguments (registry.situation resource view)
    (Answer.ofResult outcome.result, registry.keep resource.identity outcome.items)

-- The resource that a path leads to, with what the path captured. A resource that is nothing is never found.
def find? (registry : Registry) (path : String) : Option (Captures × Resource) :=
  (registry.router.resolve path).filter fun (_, resource) => !resource.isNothing

def serve (registry : Registry) (captures : Captures) (resource : Resource) (scope : Scope)
    (channel : Channel) : Except Silence Answer × Registry :=
  match registry.endpoint? resource with
  | none => (.error (.raised (.of "KeyError" "no endpoint")), registry)
  | some endpoint =>
    match Request.ofScope scope channel (captures.map fun (name, text) => (name, .text text)) with
    | .error fault => (.error (.raised fault), registry)
    | .ok request =>
      match Verb.named? request.method with
      | none => (.ok (.undefinedMethod request.method), registry)
      | some verb =>
        match endpoint.methods.lookup verb with
        | none => (.ok (.undefinedMethod request.method), registry)
        | some handler => registry.perform resource handler (registry.parserFor endpoint verb) request

-- Answers a call. The path is looked at before the method.
def answer (registry : Registry) (scope : Scope) (channel : Channel) : Except Silence Answer × Registry :=
  match scope.path with
  | none => (.error (.raised (missingKey "path")), registry)
  | some path =>
    match registry.find? path with
    | none => (.ok .notFound, registry)
    | some (captures, resource) => registry.serve captures resource scope channel

end Registry

namespace Dispatcher

def send (debug : Bool) : Except Silence Answer → Delivery
  | .error silence => .error silence
  | .ok answer => ((answer.response debug).bind Response.messages).mapError .raised

def handle (dispatcher : Dispatcher) (scope : Scope) (channel : Channel) : Dispatcher × Delivery :=
  if scope.kind ≠ "http" then (dispatcher, .ok [])
  else
    let (answer, registry) := dispatcher.registry.answer scope channel
    ({ dispatcher with registry }, send dispatcher.debug answer)

end Dispatcher
end RestDispatch
