import RestDispatch.Value.Printed
import RestDispatch.Decimal.Numeral
import RestDispatch.Fault
import RestDispatch.Text.Split

set_option autoImplicit false

/-!
Functions of one value that a parameter may be checked or converted with, and a catalog of them by
name.
-/
namespace RestDispatch

-- A function of one value that may raise a fault. `keeps` says that the result is the very value that was given, so
-- that lists inside it stay shared. Its name and the word for its kind are what is seen of it where it stands as a
-- value.
structure Function where
  run : Value → Except Fault Value
  keeps : Bool := false
  name : String := ""
  kind : String := "function"

namespace Function

open Value

def value (f : Function) : Value := .function f.name f.kind

-- A text that is no integer; long ones are not shown as a whole.
def badInt (text : List Letter) : Fault :=
  let shown := String.ofList ((Text.quotedLetters text).toList.take 200)
  .valueError s!"invalid literal for int() with base 10: {shown}"

def toInt : Value → Except Fault Value
  | .bool b => .ok (.int (if b then 1 else 0))
  | .int i => .ok (.int i)
  | .float x =>
    if Decimal.isFinite x then .ok (.int (Decimal.truncate x))
    else if x.isNaN then .error (.valueError "cannot convert float NaN to integer")
    else .error (.of "OverflowError" "cannot convert float infinity to integer")
  | .text t =>
    match Decimal.readInt t with
    | .ok i => .ok (.int i)
    | .error .malformed => .error (badInt t)
    | .error (.overlong digits) => .error (.overlongInput digits)
  | v =>
    .error (.typeError
      s!"int() argument must be a string, a bytes-like object or a real number, not '{v.kindName}'")

def intToFloat (i : Int) : Except Fault Value :=
  let x := Decimal.toFloat (i < 0) i.natAbs 0
  if Decimal.isFinite x then .ok (.float x)
  else .error (.of "OverflowError" "int too large to convert to float")

def toFloat : Value → Except Fault Value
  | .bool b => .ok (.float (if b then 1.0 else 0.0))
  | .int i => intToFloat i
  | .float x => .ok (.float x)
  | .text t =>
    match Decimal.readFloat? t with
    | some x => .ok (.float x)
    | none => .error (.valueError s!"could not convert string to float: {Text.quotedLetters t}")
  | v => .error (.typeError s!"float() argument must be a string or a real number, not '{v.kindName}'")

def toText (v : Value) : Except Fault Value := v.plain.map .text

def length : Value → Except Fault Value
  | .text t => .ok (.int t.length)
  | .list items => .ok (.int items.length)
  | .object fields => .ok (.int fields.length)
  | v => .error (.typeError s!"object of type '{v.kindName}' has no len()")

def splitCommas : Value → Except Fault Value
  | .text t => .ok (.list ((Text.split (.char ',') t).map .text))
  | .function "str" "type" => .ok (.list [.text ","])
  | .function name "type" => .error (.of "AttributeError" s!"type object '{name}' has no attribute 'split'")
  | v => .error (.of "AttributeError" s!"'{v.kindName}' object has no attribute 'split'")

def joinHyphens : Value → Except Fault Value
  | .text t => .ok (.text (Text.join (.char '-') (t.map fun letter => [letter])))
  | .list items => (items.mapM plain).map fun parts => .text (Text.join (.char '-') parts)
  | .object fields => .ok (.text (Text.join (.char '-') (fields.map (·.1))))
  | v => .error (.typeError s!"'{v.kindName}' object is not iterable")

def negate : Value → Except Fault Value
  | .bool b => .ok (.int (if b then -1 else 0))
  | .int i => .ok (.int (-i))
  | .float x => .ok (.float (-x))
  | v => .error (.typeError s!"bad operand type for unary -: '{v.kindName}'")

def positive : Value → Except Fault Value
  | .bool b => .ok (.bool b)
  | .int i => .ok (.bool (0 < i))
  | .float x => .ok (.bool (0.0 < x))
  | v => .error (.typeError s!"'>' not supported between instances of '{v.kindName}' and 'int'")

def constant (name : String) (v : Value) : Function := { run := fun _ => .ok v, name }

def raising (name kind text : String) : Function := { run := fun _ => .error (.of kind text), name }

def catalog : List Function :=
  [{ run := toInt, name := "int", kind := "type" }, { run := toFloat, name := "float", kind := "type" },
   { run := toText, name := "str", kind := "type" },
   { run := length, name := "len", kind := "builtin_function_or_method" },
   { run := fun v => .ok (.bool v.truthy), name := "bool", kind := "type" },
   { run := splitCommas, name := "split" }, { run := joinHyphens, name := "join" },
   { run := negate, name := "negate" }, constant "null" .null, raising "boom" "ValueError" "boom",
   raising "boom_empty" "ValueError" "", raising "keyerror" "KeyError" "'missing key'",
   { run := positive, name := "positive" }, constant "always" (.bool true), constant "never" (.bool false),
   { run := .ok, keeps := true, name := "identity" }, constant "zero" (.int 0), constant "one" (.int 1)]

def named? (name : String) : Option Function := catalog.find? (·.name = name)

end Function
end RestDispatch
