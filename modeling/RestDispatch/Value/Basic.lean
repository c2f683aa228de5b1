import RestDispatch.Decimal.Dyadic
import RestDispatch.Text.Letter
import RestDispatch.Fault

set_option autoImplicit false

/-!
Request data: what a JSON text stands for, and functions that stand in its place. Objects keep the order
in which their keys came.
-/
namespace RestDispatch

inductive Value where
  | null
  | bool (b : Bool)
  | int (i : Int)
  | float (x : Float)
  | text (t : List Letter)
  | list (items : List Value)
  | object (fields : List (List Letter × Value))
  | function (name kind : String)
deriving Inhabited

abbrev Fields := List (List Letter × Value)

def put {κ α : Type} [DecidableEq κ] (key : κ) (value : α) : List (κ × α) → List (κ × α)
  | [] => [(key, value)]
  | (k, v) :: rest => if k = key then (k, value) :: rest else (k, v) :: put key value rest

def putAll {κ α : Type} [DecidableEq κ] (table entries : List (κ × α)) : List (κ × α) :=
  entries.foldl (fun table entry => put entry.1 entry.2 table) table

def Fields.named? (fields : Fields) (name : String) : Option Value := fields.lookup (Text.lettersOf name)

abbrev Entries := List (String × Value)

def Value.ofEntries (entries : Entries) : Value :=
  .object (entries.map fun (name, value) => (Text.lettersOf name, value))

namespace Value

def kindName : Value → String
  | .null => "NoneType"
  | .bool _ => "bool"
  | .int _ => "int"
  | .float _ => "float"
  | .text _ => "str"
  | .list _ => "list"
  | .object _ => "dict"
  | .function _ kind => kind

def integer? : Value → Option Int
  | .bool b => some (if b then 1 else 0)
  | .int i => some i
  | _ => none

def truthy : Value → Bool
  | .null => false
  | .bool b => b
  | .int i => i ≠ 0
  | .float x => x != 0.0
  | .text t => !t.isEmpty
  | .list items => !items.isEmpty
  | .object fields => !fields.isEmpty
  | .function _ _ => true

-- Equality of two values that hold no others: numbers and truth values are compared by what they amount to,
-- whatever their kind. The undefined number is the same wherever it is read.
def sameScalar : Value → Value → Bool
  | .null, .null => true
  | .text s, .text t => s = t
  | .function f _, .function g _ => f = g
  | .float x, .float y => x == y || (x.isNaN && y.isNaN)
  | .float x, other => other.integer?.any (Decimal.equalsInt x)
  | other, .float x => other.integer?.any (Decimal.equalsInt x)
  | a, b =>
    match a.integer?, b.integer? with
    | some i, some j => i = j
    | _, _ => false

-- How many nests may lie inside each other in a value that is shown or compared.
def nestLimit : Nat := 980

mutual

-- Whether two values are the same, if `room` nests may lie inside each other where they are, the values themselves
-- being the first. Lists of as many items are compared item by item, objects of as many fields field by field.
def sameWithin : Nat → Value → Value → Except Fault Bool
  | 0, _, _ => .error .deepComparison
  | room + 1, .list xs, .list ys => if xs.length = ys.length then sameItems room xs ys else .ok false
  | room + 1, .object xs, .object ys => if xs.length = ys.length then sameFields room xs ys else .ok false
  | _ + 1, a, b => .ok (sameScalar a b)

def sameItems : Nat → List Value → List Value → Except Fault Bool
  | room, x :: xs, y :: ys => do if ← sameWithin room x y then sameItems room xs ys else .ok false
  | _, _, _ => .ok true

def sameFields : Nat → Fields → Fields → Except Fault Bool
  | _, [], _ => .ok true
  | room, (k, v) :: xs, ys =>
    match ys.lookup k with
    | some w => do if ← sameWithin room v w then sameFields room xs ys else .ok false
    | none => .ok false

end

def same (a b : Value) : Except Fault Bool := sameWithin nestLimit a b

-- Whether one of the items is the same as a value. They are compared one after the other, up to the first that is.
def isIn (value : Value) : List Value → Except Fault Bool
  | [] => .ok false
  | item :: items => do if ← item.same value then .ok true else value.isIn items

end Value
end RestDispatch
