import RestDispatch.Param.Options
import RestDispatch.Decimal.Lenient
import RestDispatch.Content

set_option autoImplicit false

/-!
Reading the fields of models that hold no other instances, and what can be wrong with them, and where. Reading is lenient:
numbers and truth values may be given as text, and text as the bytes that stand for it.
-/
namespace RestDispatch

inductive FieldProblem where
  | missing
  | notText
  | notNumber
  | unreadableNumber
  | notInteger
  | fraction
  | unreadableInteger
  | oversizedInteger
  | notFinite
  | notFlag
  | unreadableFlag
  | notList
  | notUnicode
  | notInstance (model : String)
  | tooDeep
  | notJson
  | invalidJson
deriving DecidableEq, Repr

structure FieldError where
  path : List String
  problem : FieldProblem
deriving DecidableEq, Repr

namespace FieldProblem

def kind : FieldProblem → String
  | .missing => "missing"
  | .notText => "string_type"
  | .notNumber => "float_type"
  | .unreadableNumber => "float_parsing"
  | .notInteger => "int_type"
  | .fraction => "int_from_float"
  | .unreadableInteger => "int_parsing"
  | .oversizedInteger => "int_parsing_size"
  | .notFinite => "finite_number"
  | .notFlag => "bool_type"
  | .unreadableFlag => "bool_parsing"
  | .notList => "list_type"
  | .notUnicode => "string_unicode"
  | .notInstance _ => "model_type"
  | .tooDeep => "recursion_depth_exceeded"
  | .notJson => "json_type"
  | .invalidJson => "json_invalid"

def message : FieldProblem → String
  | .missing => "Field required"
  | .notText => "Input should be a valid string"
  | .notNumber => "Input should be a valid number"
  | .unreadableNumber => "Input should be a valid number, unable to parse string as a number"
  | .notInteger => "Input should be a valid integer"
  | .fraction => "Input should be a valid integer, got a number with a fractional part"
  | .unreadableInteger => "Input should be a valid integer, unable to parse string as an integer"
  | .oversizedInteger => "Unable to parse input string as an integer, exceeded maximum size"
  | .notFinite => "Input should be a finite number"
  | .notFlag => "Input should be a valid boolean"
  | .unreadableFlag => "Input should be a valid boolean, unable to interpret input"
  | .notList => "Input should be a valid list"
  | .notUnicode => "Input should be a valid string, unable to parse raw data as a unicode string"
  | .notInstance model => s!"Input should be a valid dictionary or instance of {model}"
  | .tooDeep => "Recursion error - maximum validation depth exceeded"
  | .notJson => "JSON input should be string, bytes or bytearray"
  | .invalidJson => "Invalid JSON"

end FieldProblem

def FieldError.location (e : FieldError) : String := ".".intercalate e.path

def FieldError.below (step : String) (e : FieldError) : FieldError := { e with path := step :: e.path }

def FieldError.report (e : FieldError) : String :=
  "\n" ++ e.location ++ "\n  " ++ e.problem.message ++ " [type=" ++ e.problem.kind ++ "]"

abbrev Reading (α : Type) := Except (List FieldError) α

namespace Reading

def refuse {α : Type} (problem : FieldProblem) : Reading α := .error [⟨[], problem⟩]

def within {α : Type} (step : String) (reading : Reading α) : Reading α :=
  reading.mapError fun errors => errors.map (·.below step)

-- The text that a scalar is read from, if it is given as text. `unreadable` is the problem of bytes that stand for
-- no text.
def textOf? (unreadable : FieldProblem) : Content → Option (Reading (List Char))
  | .data (.text t) =>
    match Text.chars? t with
    | some cs => some (.ok cs)
    | none => some (refuse .notUnicode)
  | .bytes content =>
    match Text.Utf8.decodeStrict? content with
    | some cs => some (.ok cs)
    | none => some (refuse unreadable)
  | _ => none

-- The number that a text stands for; only basic digits count.
def numberText (cs : List Char) : Reading Value :=
  match (Decimal.readFloatText? (Text.trimBy Text.isWhiteSpace cs)).or
      (Decimal.readFloatText? (Decimal.withoutUnderscores cs)) with
  | some x => .ok (.float x)
  | none => refuse .unreadableNumber

def number (content : Content) : Reading Value :=
  match textOf? .unreadableNumber content with
  | some text => text.bind numberText
  | none =>
    match content with
    | .data (.bool b) => .ok (.float (if b then 1.0 else 0.0))
    | .data (.int i) =>
      let x := Decimal.toFloat (i < 0) i.natAbs 0
      if Decimal.isFinite x then .ok (.float x) else refuse .notNumber
    | .data (.float x) => .ok (.float x)
    | _ => refuse .notNumber

def integerText (cs : List Char) : Reading Value :=
  match Decimal.readLenientInt cs with
  | .ok i => .ok (.int i)
  | .error .malformed => refuse .unreadableInteger
  | .error (.overlong _) => refuse .oversizedInteger

-- The integer that a float is. One that does not fit into a word is too large.
def integerFloat (x : Float) : Reading Value :=
  if !Decimal.isFinite x then refuse .notFinite
  else if !Decimal.isWhole x then refuse .fraction
  else if Decimal.isWordFloat x then .ok (.int (Decimal.truncate x))
  else refuse .oversizedInteger

def integer (content : Content) : Reading Value :=
  match textOf? .unreadableInteger content with
  | some text => text.bind integerText
  | none =>
    match content with
    | .data (.bool b) => .ok (.int (if b then 1 else 0))
    | .data (.int i) => .ok (.int i)
    | .data (.float x) => integerFloat x
    | _ => refuse .notInteger

def flagOf (v : Value) : Reading Value :=
  match v.truth with
  | .read b => .ok (.bool b)
  | .unreadable => refuse .unreadableFlag
  | .notUnicode => refuse .notUnicode
  | .noTruth => refuse .notFlag

def flag (content : Content) : Reading Value :=
  match textOf? .unreadableFlag content with
  | some text => text.bind fun cs => flagOf (.text (Text.letters cs))
  | none =>
    match content with
    | .data v => flagOf v
    | _ => refuse .notFlag

def text : Content → Reading Value
  | .data (.text t) => .ok (.text t)
  | .bytes content =>
    match Text.Utf8.decodeStrict? content with
    | some cs => .ok (.text (Text.letters cs))
    | none => refuse .notUnicode
  | _ => refuse .notText

end Reading
end RestDispatch
