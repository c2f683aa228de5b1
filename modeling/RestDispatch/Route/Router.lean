import RestDispatch.Route.Table
import RestDispatch.Resource.Objects

set_option autoImplicit false

/-!
Routers. A route is prepared, which constructs its object, and then inserted. A step that fails leaves
the stored routes as they were.
-/
namespace RestDispatch

structure Router where
  table : Table Resource := []
  objects : Objects := {}

namespace Router

-- Makes a route without storing it. An object is constructed only if the rule can be registered.
def prepare (router : Router) (text : String) (target : Target) :
    Except RouteError (Route Resource) × Router :=
  match Rule.compile text with
  | .error e => (.error e, router)
  | .ok rule =>
    if router.table.contains text then (.error (.duplicatePath text), router)
    else
      match router.objects.realize target with
      | (.error e, objects) => (.error e, { router with objects })
      | (.ok resource, objects) => (.ok ⟨rule, resource, router.table.length⟩, { router with objects })

def insert (router : Router) (route : Route Resource) : Except RouteError (Route Resource) × Router :=
  match router.table.insert route with
  | .error e => (.error e, router)
  | .ok (placed, table) => (.ok placed, { router with table })

def add (router : Router) (text : String) (target : Target) : Except RouteError (Route Resource) × Router :=
  match router.prepare text target with
  | (.error e, router) => (.error e, router)
  | (.ok route, router) => router.insert route

-- Adds routes in order up to the first that fails; those before it stay.
def addAll (router : Router) : List (String × Target) → Except RouteError (List (Route Resource)) × Router
  | [] => (.ok [], router)
  | (text, target) :: rest =>
    match router.add text target with
    | (.error e, router) => (.error e, router)
    | (.ok route, router) =>
      match router.addAll rest with
      | (.error e, router) => (.error e, router)
      | (.ok routes, router) => (.ok (route :: routes), router)

def resolve (router : Router) (path : String) : Option (Captures × Resource) := router.table.resolve path

end Router
end RestDispatch
