import RestDispatch.Route.Rule

set_option autoImplicit false

/-!
Which paths a rule matches, and what its placeholders capture. Registered routes stand in the order in which they are tried:
the first route that matches a path answers for it, so a later registration never takes a path away from an earlier one.
-/
namespace RestDispatch

abbrev Captures := List (String × String)

-- The parts without one empty part at either end.
def trimParts (parts : List String) : List String :=
  let parts := if parts.head? = some "" then parts.tail else parts
  if parts.getLast? = some "" then parts.dropLast else parts

def splitPath (path : String) : List String := trimParts (Text.splitText '/' path)

def align : List Segment → List String → Option Captures
  | [], [] => some []
  | .literal text :: segments, part :: parts => if part = text then align segments parts else none
  | .placeholder name converter :: segments, part :: parts =>
    if converter.multiSegment then
      let rest := Text.joinText '/' (part :: parts)
      if converter.accepts rest then (align segments []).map ((name, rest) :: ·) else none
    else if converter.accepts part then (align segments parts).map ((name, part) :: ·)
    else none
  | _, _ => none

def Rule.match? (rule : Rule) (parts : List String) : Option Captures := align rule.segments parts

structure Route (ρ : Type) where
  rule : Rule
  resource : ρ
  index : Nat

abbrev Table (ρ : Type) := List (Route ρ)

namespace Table

variable {ρ : Type}

def get? (table : Table ρ) (text : String) : Option (Route ρ) := table.find? (·.rule.text = text)

def contains (table : Table ρ) (text : String) : Bool := (table.get? text).isSome

-- Stores a route at the end of the table, unless its rule text is taken.
def insert (table : Table ρ) (route : Route ρ) : Except RouteError (Route ρ × Table ρ) :=
  if table.contains route.rule.text then .error (.duplicatePath route.rule.text)
  else
    let placed := { route with index := table.length }
    .ok (placed, table ++ [placed])

def resolve (table : Table ρ) (path : String) : Option (Captures × ρ) :=
  table.findSome? fun route => (route.rule.match? (splitPath path)).map fun captures => (captures, route.resource)

end Table
end RestDispatch
