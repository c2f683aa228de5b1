import RestDispatch.Json.Bounds
import RestDispatch.Value.Printed
import RestDispatch.Text.Split
import RestDispatch.Fault

set_option autoImplicit false

/-!
Values as compact JSON text. Only the quote, the backslash and the control characters are escaped; the
special floats are written as the words NaN, Infinity and -Infinity. A function cannot be written. A writer may bound
the digits of integers and the depth of brackets and braces inside each other.
-/
namespace RestDispatch.Json

def escapeLetter? (c : Char) : Option Char :=
  if c = '"' || c = '\\' then some c
  else if c = '\n' then some 'n'
  else if c = '\r' then some 'r'
  else if c = '\t' then some 't'
  else if c = '\x08' then some 'b'
  else if c = '\x0c' then some 'f'
  else none

def stringChar (c : Char) : List Char :=
  match escapeLetter? c with
  | some letter => ['\\', letter]
  | none => if c.toNat < 0x20 then '\\' :: 'u' :: Text.hex 4 c.toNat else [c]

def stringLetter : Letter → List Letter
  | .char c => Text.letters (stringChar c)
  | .half unit => [.half unit]

def stringText (text : List Letter) : List Letter :=
  .char '"' :: text.flatMap stringLetter ++ [.char '"']

def floatText (x : Float) : List Char :=
  if Decimal.isFinite x then Decimal.finiteText x
  else if x.isNaN then "NaN".toList
  else if x < 0.0 then "-Infinity".toList
  else "Infinity".toList

def bracketed (start stop : Char) (parts : List (List Letter)) : List Letter :=
  .char start :: Text.join (.char ',') parts ++ [.char stop]

def notSerializable (kind : String) : Fault := .typeError s!"Object of type {kind} is not JSON serializable"

def intText (bounds : Bounds) (i : Int) : Except Fault (List Letter) :=
  if bounds.digits.any (· < (Nat.toDigits 10 i.natAbs).length) then .error .overlongOutput
  else .ok (Text.letters (Value.intChars i))

-- The text of a nest from that of what lies in it, unless too many nests lie inside each other.
def nested (bounds : Bounds) (start stop : Char) (inner : Except Fault (List (List Letter))) : Except Fault (List Letter) :=
  if bounds.exhausted then .error .deepEncoding else inner.map (bracketed start stop)

mutual

def encode (bounds : Bounds) : Value → Except Fault (List Letter)
  | .null => .ok (Text.lettersOf "null")
  | .bool b => .ok (Text.lettersOf (if b then "true" else "false"))
  | .int i => intText bounds i
  | .float x => .ok (Text.letters (floatText x))
  | .text t => .ok (stringText t)
  | .list items => nested bounds '[' ']' (encodeItems bounds.inside items)
  | .object fields => nested bounds '\x7b' '\x7d' (encodeFields bounds.inside fields)
  | .function _ kind => .error (notSerializable kind)

def encodeItems (bounds : Bounds) : List Value → Except Fault (List (List Letter))
  | [] => .ok []
  | v :: vs => do
    let first ← encode bounds v
    let rest ← encodeItems bounds vs
    .ok (first :: rest)

def encodeFields (bounds : Bounds) : Fields → Except Fault (List (List Letter))
  | [] => .ok []
  | (k, v) :: fs => do
    let first ← encode bounds v
    let rest ← encodeFields bounds fs
    .ok ((stringText k ++ .char ':' :: first) :: rest)

end

end RestDispatch.Json
