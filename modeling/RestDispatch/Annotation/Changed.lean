import RestDispatch.Annotation.Method
import RestDispatch.Annotation.Names

set_option autoImplicit false

/-!
What methods leave things as that they change. Whether their arguments will do has been found out before; parts of
things stay shared, and a part that a method gives back is the one that has been there.
-/
namespace RestDispatch

-- What a thing is left as, and what is given back if that is a part of it or the thing itself.
structure Change where
  left : Meaning
  given : Option Meaning := none

namespace Names

def elementsOf (scope : Names) (m : Meaning) : List Meaning := ((scope.content m).elements.toOption).getD []

def placeOf? (scope : Names) (items : List Meaning) (m : Meaning) : Option Nat :=
  items.findIdx? fun item => (scope.whole m).same (scope.whole item)

end Names

namespace Meaning

/-! Lists and bytes. -/

-- A place in something with so many places, counted from its end if the number is negative.
def counted? (length : Nat) (m : Meaning) : Option Nat :=
  m.integer?.map fun n => (min (length : Int) (max 0 (if n < 0 then n + length else n))).toNat

-- Elements with others in place of those of a slice: as many as there are if the slice skips some.
def spliced {α : Type} (items : List α) (start stop step : Meaning) (news : List α) : List α :=
  match sliceLimits items.length start stop step with
  | .error _ => items
  | .ok (first, last, by_) =>
    if by_ = 1 then items.take first.toNat ++ news ++ items.drop (max first last).toNat
    else
      let places := (List.range (rangeLength first last by_)).map fun (i : Nat) => (first + by_ * i).toNat
      (places.zip news).foldl (fun items entry => items.set entry.1 entry.2) items

def spliceOut {α : Type} (items : List α) (start stop step : Meaning) : List α :=
  match sliced (List.range items.length) start stop step with
  | .error _ => items
  | .ok places => items.zipIdx.filterMap fun (item, place) => if place ∈ places then none else some item

def without {α : Type} (items : List α) (index : Meaning) : List α :=
  (counted? items.length index).elim items items.eraseIdx

def elementsAfter? (scope : Names) (items : List Meaning) (name : String) (given : List Meaning) :
    Option (List Meaning) :=
  match name, given with
  | "append", [m] => some (items ++ [m])
  | "extend", [m] => some (items ++ scope.elementsOf m)
  | "__iadd__", [m] => some (items ++ scope.elementsOf m)
  | "__imul__", [m] => some (List.replicate ((m.integer?.getD 1).toNat) items).flatten
  | "insert", [index, m] => (counted? items.length index).map fun place => items.take place ++ m :: items.drop place
  | "remove", [m] => (scope.placeOf? items m).map items.eraseIdx
  | "pop", [] => some items.dropLast
  | "pop", [index] => some (without items index)
  | "clear", [] => some []
  | "reverse", [] => some items.reverse
  | "__setitem__", [.slice start stop step, m] => some (spliced items start stop step (scope.elementsOf m))
  | "__setitem__", [index, m] => (counted? items.length index).map fun place => items.set place m
  | "__delitem__", [.slice start stop step] => some (spliceOut items start stop step)
  | "__delitem__", [index] => some (without items index)
  | "__init__", [] => some []
  | "__init__", m :: _ => some (scope.elementsOf m)
  | _, _ => none

def listChange? (scope : Names) (items : List Meaning) (name : String) (given : List Meaning) : Option Change :=
  (elementsAfter? scope items name given).map fun left =>
    let part := if name = "pop" then atPlace? items ((given.head?.bind integer?).getD (-1)) else none
    { left := .list left, given := part }

def bytesChange? (scope : Names) (content : Bytes) (name : String) (given : List Meaning) : Option Change :=
  let items := content.map fun byte => Meaning.int byte.toNat
  (elementsAfter? scope items name given).map fun left =>
    { left := .bytes false (left.filterMap fun m => m.integer?.map fun n => UInt8.ofNat n.toNat) }

/-! Dictionaries. -/

def entriesGiven (scope : Names) (arguments : CallArguments) : List (Meaning × Meaning) :=
  let own := match arguments.byPosition.head?.map scope.content with
    | some (.dict entries) => entries
    | some m => ((scope.whole m).entriesOf.toOption).getD []
    | none => []
  own ++ arguments.byName.map fun (name, m) => (ofString name, m)

def withoutKey (entries : List (Meaning × Meaning)) (key : Meaning) : List (Meaning × Meaning) :=
  entries.filter fun entry => !key.same entry.1

def dictChange? (scope : Names) (entries : List (Meaning × Meaning)) (name : String) (arguments : CallArguments) :
    Option Change :=
  let putAll := fun (news : List (Meaning × Meaning)) =>
    Meaning.dict (news.foldl (fun table entry => putEntry table (scope.whole entry.1) entry.2) entries)
  match name, arguments.byPosition with
  | "update", _ => some { left := putAll (entriesGiven scope arguments) }
  | "__ior__", _ => some { left := putAll (entriesGiven scope arguments) }
  | "__init__", _ => some { left := putAll (entriesGiven scope arguments) }
  | "__setitem__", [key, m] => some { left := putAll [(key, m)] }
  | "__delitem__", [key] => some { left := .dict (withoutKey entries (scope.whole key)) }
  | "setdefault", key :: default =>
    match lookUp? entries (scope.whole key) with
    | some m => some { left := .dict entries, given := some m }
    | none =>
      let m := default.head?.getD .nothing
      some { left := putAll [(key, m)], given := some m }
  | "pop", key :: _ =>
    some { left := .dict (withoutKey entries (scope.whole key)), given := lookUp? entries (scope.whole key) }
  | "popitem", _ =>
    some { left := .dict entries.dropLast, given := entries.getLast?.map fun (key, m) => .tuple [key, m] }
  | "clear", _ => some { left := .dict [] }
  | _, _ => none

/-! Sets. -/

def setChanges : List (String × String) :=
  [("update", "union"), ("intersection_update", "intersection"), ("difference_update", "difference"),
   ("symmetric_difference_update", "symmetric_difference"), ("__ior__", "union"), ("__iand__", "intersection"),
   ("__isub__", "difference"), ("__ixor__", "symmetric_difference")]

def setChange? (items : List Meaning) (name : String) (given : List Meaning) : Option Change :=
  let made := fun (items : List Meaning) => ((setOf false items).toOption).map fun left => Change.mk left none
  match setChanges.lookup name with
  | some maker =>
    ((setMethod? false items maker given).bind Except.toOption).map fun left => { left }
  | none =>
    let rest := fun (m : Meaning) => Change.mk (.set false (items.filter fun item => !m.same item)) none
    match name, given with
    | "add", [m] => made (items ++ [m])
    | "discard", [m] => some (rest m)
    | "remove", [m] => some (rest m)
    | "pop", [] => some { left := .set false (items.drop 1) }
    | "clear", [] => some { left := .set false [] }
    | "__init__", m :: _ => m.elements.toOption.bind made
    | _, _ => none

/-! Streams and records. -/

def streamChange? (kind : String) (items : List Meaning) (failure : Option Fault) (name : String) : Option Change :=
  match name, items with
  | "__next__", m :: rest => some { left := .stream kind rest failure, given := some m }
  | "send", m :: rest => some { left := .stream kind rest failure, given := some m }
  | "close", _ => some { left := .stream kind [] none }
  | _, _ => none

def recordChange? (m : Model) (given : List String) (fields : Bindings) (name : String) (arguments : List Meaning) :
    Option Change :=
  match name, arguments with
  | "__setattr__", [.text t, value] =>
    let field := Text.held t
    let own := fields.map fun (name, old) => (name, if name = field then value else old)
    some { left := .record m (if field ∈ given then given else given ++ [field]) own }
  | "__delattr__", [.text t] => some { left := .record m given (fields.filter fun (name, _) => name ≠ Text.held t) }
  | _, _ => none

def change? (scope : Names) (m : Meaning) (name : String) (arguments : CallArguments) : Option Change :=
  let given := arguments.byPosition
  match m with
  | .list items => listChange? scope items name given
  | .bytes false content => bytesChange? scope content name given
  | .dict entries => dictChange? scope entries name arguments
  | .set false items => setChange? items name (given.map scope.whole)
  | .stream kind items failure => streamChange? kind items failure name
  | .record data names fields => recordChange? data names fields name given
  | _ => none

def givesItself (name : String) : Bool :=
  name ∈ ["__iadd__", "__imul__", "__ior__", "__iand__", "__isub__", "__ixor__"]

-- Methods that look only at how many parts a thing has and where, or hand them out.
def handlesParts (m : Meaning) (name : String) : Bool :=
  match m with
  | .list _ => name ∈ ["copy", "__getitem__", "__iter__", "__reversed__", "__len__"]
  | .dict _ => name ∈ ["get", "copy", "values", "items", "keys", "__getitem__", "__iter__", "__len__", "__contains__"]
  | _ => false

/-! Streams that are used up. -/

def exhausting : List String :=
  ["list", "tuple", "set", "frozenset", "dict", "enumerate", "map", "filter", "zip", "bytes", "bytearray", "sum", "min",
   "max", "sorted", "all", "any"]

def askedFor (callee : Meaning) (items : List Meaning) : Nat :=
  let upTo := fun (test : Meaning → Bool) => ((items.findIdx? test).map (· + 1)).getD items.length
  match callee with
  | .function "any" => upTo truthy
  | .function "all" => upTo (!truthy ·)
  | .function name => if name ∈ exhausting then items.length else 0
  | .cls path => if path ∈ exhausting then items.length else 0
  | .method _ _ => items.length
  | .member _ _ _ => items.length
  | _ => 0

def after (count : Nat) (m : Meaning) : Meaning :=
  match m with
  | .stream kind items failure => .stream kind (items.drop count) (if items.length ≤ count then none else failure)
  | m => m

-- Takes one element of each of several streams in turn until one of them is empty; the same stream may stand at
-- several places.
def drawRounds : Nat → List Nat → List (Nat × List Meaning) → List (List Meaning) × List (Nat × List Meaning)
  | 0, _, queues => ([], queues)
  | fuel + 1, order, queues =>
    let draw := fun (found : Option (List Meaning) × List (Nat × List Meaning)) (key : Nat) =>
      match found.1, found.2.lookup key with
      | some drawn, some (m :: rest) =>
        (some (drawn ++ [m]), found.2.map fun entry => if entry.1 = key then (key, rest) else entry)
      | _, _ => (none, found.2)
    match order.foldl draw (some [], queues) with
    | (some round, queues) =>
      let (rounds, queues) := drawRounds fuel order queues
      (round :: rounds, queues)
    | (none, queues) => ([], queues)

end Meaning
end RestDispatch
