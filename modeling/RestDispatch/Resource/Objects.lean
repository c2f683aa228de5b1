import RestDispatch.Resource.Basic
import RestDispatch.Route.Rule

set_option autoImplicit false

/-!
The objects that have been constructed, and what each of them keeps. Constructions are numbered class
by class, those that failed included, so no two objects are the same.
-/
namespace RestDispatch

structure Objects where
  started : List (String × Nat) := []
  kept : List (Identity × List Content) := []

namespace Objects

def count (objects : Objects) (cls : String) : Nat := (objects.started.lookup cls).getD 0

def items (objects : Objects) (identity : Identity) : List Content :=
  (objects.kept.lookup identity).getD []

def keep (objects : Objects) (identity : Identity) (items : List Content) : Objects :=
  { objects with kept := put identity items objects.kept }

-- Starts a construction; it is counted whether it fails or not.
def construct (objects : Objects) (cls : ResourceClass) : Except Fault Resource × Objects :=
  let serial := objects.count cls.name
  let objects := { objects with started := put cls.name (serial + 1) objects.started }
  match cls.refusal with
  | some fault => (.error fault, objects)
  | none => (.ok (.object cls serial), objects)

end Objects

inductive Target where
  | fresh (cls : ResourceClass)
  | existing (resource : Resource)

-- What a construction that fails comes to. A fault whose text cannot be told gives way to that which telling it raises.
def RouteError.ofConstruction (cls : ResourceClass) (fault : Fault) : RouteError :=
  if fault.stops then .stopped fault
  else
    match fault.told with
    | .ok _ => .construction cls.name fault
    | .error raised => .stopped raised

def Objects.realize (objects : Objects) : Target → Except RouteError Resource × Objects
  | .existing resource => (.ok resource, objects)
  | .fresh cls =>
    match objects.construct cls with
    | (.ok resource, objects) => (.ok resource, objects)
    | (.error fault, objects) => (.error (.ofConstruction cls fault), objects)

end RestDispatch
