import RestDispatch.Route.Router
import RestDispatch.Handler.Strict

set_option autoImplicit false

/-!
Registration. Every registered resource has one endpoint, which says how its verbs are served and with
which parsers; routes to the same resource share it. A registration that fails changes no endpoint.
-/
namespace RestDispatch

-- The place of a parser in the registry. Verbs refer to parsers by it, so a parameter that is declared later is in
-- force wherever its parser is attached.
abbrev ParserId := Nat

structure Endpoint where
  methods : List (Verb × Handler)
  parsers : List (Verb × ParserId) := []

inductive RegisterError where
  | route (e : RouteError)
  | undefinedVerb (method rule : String)
  | signature (handler method rule : String) (problem : SignatureProblem)
  | inspection (fault : Fault)
deriving DecidableEq, Repr

def RegisterError.message : RegisterError → String
  | .route e => e.message
  | .undefinedVerb method rule =>
    let shown := Text.quoted rule
    let name := Text.lower method
    s!"Cannot attach a parser to {method} {shown}: {name} method is undefined."
  | .signature handler method rule problem => problem.message handler method rule
  | .inspection fault => fault.text

structure Registry where
  strict : Bool := false
  router : Router := {}
  parsers : List Parser := []
  endpoints : List (Identity × Endpoint) := []

namespace Endpoint

-- The endpoint of a resource that was not registered before. All its handlers are inspected.
def ofResource (resource : Resource) : Except RegisterError Endpoint :=
  match inspected resource.methodTable with
  | .error fault => .error (.inspection fault)
  | .ok methods => .ok { methods }

def served? (endpoint : Endpoint) (method : String) : Option Verb :=
  (Verb.named? (Text.upper method)).filter fun verb => (endpoint.methods.lookup verb).isSome

def attach (rule : String) (endpoint : Endpoint) : List (String × ParserId) → Except RegisterError Endpoint
  | [] => .ok endpoint
  | (method, parser) :: rest =>
    match endpoint.served? method with
    | none => .error (.undefinedVerb (Text.upper method) rule)
    | some verb => attach rule { endpoint with parsers := put verb parser endpoint.parsers } rest

end Endpoint

namespace Registry

def addParser (registry : Registry) (parser : Parser) : ParserId × Registry :=
  (registry.parsers.length, { registry with parsers := registry.parsers ++ [parser] })

def amendParser (registry : Registry) (id : ParserId) (change : Parser → Parser) : Registry :=
  { registry with parsers := registry.parsers.modify id change }

def endpoint? (registry : Registry) (resource : Resource) : Option Endpoint :=
  registry.endpoints.lookup resource.identity

def allowed (registry : Registry) (resource : Resource) : List Verb :=
  match registry.endpoint? resource with
  | some endpoint => endpoint.methods.map (·.1)
  | none => []

def parserFor (registry : Registry) (endpoint : Endpoint) (verb : Verb) : Option Parser :=
  (endpoint.parsers.lookup verb).bind fun id => registry.parsers[id]?

def checkHandlers (registry : Registry) (rule : Rule) (endpoint : Endpoint) :
    List (Verb × Handler) → Except RegisterError Unit
  | [] => .ok ()
  | (verb, handler) :: rest =>
    match handler.signature.check rule (registry.parserFor endpoint verb) with
    | .error problem => .error (.signature handler.label verb.name rule.text problem)
    | .ok () => registry.checkHandlers rule endpoint rest

def prepareEndpoint (registry : Registry) (route : Route Resource) (attachments : List (String × ParserId)) :
    Except RegisterError Endpoint := do
  let before ← match registry.endpoint? route.resource with
    | some endpoint => .ok endpoint
    | none => Endpoint.ofResource route.resource
  let endpoint ← before.attach route.rule.text attachments
  if registry.strict then registry.checkHandlers route.rule endpoint endpoint.methods
  .ok endpoint

def register (registry : Registry) (text : String) (target : Target) (attachments : List (String × ParserId)) :
    Except RegisterError (Route Resource) × Registry :=
  match registry.router.prepare text target with
  | (.error e, router) => (.error (.route e), { registry with router })
  | (.ok route, router) =>
    match registry.prepareEndpoint route attachments with
    | .error e => (.error e, { registry with router })
    | .ok endpoint =>
      match router.insert route with
      | (.error e, router) => (.error (.route e), { registry with router })
      | (.ok placed, router) =>
        let endpoints := put placed.resource.identity endpoint registry.endpoints
        (.ok placed, { registry with router, endpoints })

-- Registers routes in order up to the first that fails; those before it stay.
def registerAll (registry : Registry) :
    List (String × Target) → Except RegisterError (List (Route Resource)) × Registry
  | [] => (.ok [], registry)
  | (text, target) :: rest =>
    match registry.register text target [] with
    | (.error e, registry) => (.error e, registry)
    | (.ok route, registry) =>
      match registry.registerAll rest with
      | (.error e, registry) => (.error e, registry)
      | (.ok routes, registry) => (.ok (route :: routes), registry)

end Registry
end RestDispatch
