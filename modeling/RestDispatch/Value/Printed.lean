import RestDispatch.Value.Basic
import RestDispatch.Decimal.Shortest
import RestDispatch.Decimal.Numeral
import RestDispatch.Text.Quoted
import RestDispatch.Fault

set_option autoImplicit false

/-!
Values as messages show them: text in quotes, the words None, True and False, brackets around lists
and braces around objects. An integer of more digits than the limit cannot be shown, nor can a value
that holds one, or that is nested too deep.
-/
namespace RestDispatch.Value

def intChars (i : Int) : List Char :=
  let digits := Nat.toDigits 10 i.natAbs
  if i < 0 then '-' :: digits else digits

def intText? (i : Int) : Option (List Char) :=
  if (Nat.toDigits 10 i.natAbs).length > Decimal.digitLimit then none else some (intChars i)

def floatText (x : Float) : String :=
  if Decimal.isFinite x then String.ofList (Decimal.finiteText x)
  else if x.isNaN then "nan"
  else if x < 0.0 then "-inf"
  else "inf"

def functionText (name kind : String) : String :=
  if kind = "type" then s!"<class '{name}'>"
  else if kind = "builtin_function_or_method" then s!"<built-in function {name}>"
  else s!"<{kind} {name}>"

mutual

-- The text of a value, or what keeps it from being shown, if `room` nests may lie inside each other, the value itself
-- being the first.
def printedWithin : Nat → Value → Except Fault String
  | 0, _ => .error .deepOutput
  | _ + 1, .null => .ok "None"
  | _ + 1, .bool b => .ok (if b then "True" else "False")
  | _ + 1, .int i =>
    match intText? i with
    | some digits => .ok (String.ofList digits)
    | none => .error .overlongOutput
  | _ + 1, .float x => .ok (floatText x)
  | _ + 1, .text t => .ok (Text.quotedLetters t)
  | room + 1, .list items => (printedItems room items).map fun parts => "[" ++ ", ".intercalate parts ++ "]"
  | room + 1, .object fields => (printedFields room fields).map fun parts => "\x7b" ++ ", ".intercalate parts ++ "\x7d"
  | _ + 1, .function name kind => .ok (functionText name kind)

def printedItems (room : Nat) : List Value → Except Fault (List String)
  | [] => .ok []
  | v :: vs => do
    let first ← printedWithin room v
    let rest ← printedItems room vs
    .ok (first :: rest)

def printedFields (room : Nat) : Fields → Except Fault (List String)
  | [] => .ok []
  | (k, v) :: fs => do
    let first ← printedWithin room v
    let rest ← printedFields room fs
    .ok ((Text.quotedLetters k ++ ": " ++ first) :: rest)

end

def printed (v : Value) : Except Fault String := printedWithin nestLimit v

def printed? (v : Value) : Option String := v.printed.toOption

def plain : Value → Except Fault (List Letter)
  | .text t => .ok t
  | other => other.printed.map Text.lettersOf

def plainText? (v : Value) : Option String := (v.plain.map Text.held).toOption

end RestDispatch.Value
