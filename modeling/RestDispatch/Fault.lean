set_option autoImplicit false

/-!
Faults raised by code that the library is given: constructors, handlers, conversions, the channel a
request body comes through, modules that are imported. A call that is not answered is left by a fault, or never ends.
-/
namespace RestDispatch

inductive ExitRequest where
  | silent
  | code (i : Int)
  | flag (b : Bool)
  | saying (text : String)
deriving DecidableEq, Repr

-- How a traceback starts.
def noCalls : String := "Traceback (most recent call last):\n"

-- A fault has a kind and a text; `origin` is what stands before the kind in a traceback, and `shown` what stands
-- there in place of the text. `calls` is what a traceback tells before the fault itself: the calls that it went
-- through, and the faults that it was raised for. One that reports problems of data has their places and kinds as its
-- details, one that refuses a parameter the name of the parameter and the number of the check. `remade` is the text
-- that is left when the fault is made anew from what it was made of, `mute` the kind and the text of what is raised
-- where the text is asked for and cannot be told. `isBase` says that its class stands outside of the exceptions that
-- programs handle.
structure Fault where
  kind : String
  text : String
  origin : String := ""
  shown : Option String := none
  calls : String := noCalls
  details : List (String × String) := []
  parameter : Option (String × Int) := none
  remade : Option String := none
  mute : Option (String × String) := none
  exit : Option ExitRequest := none
  isBase : Bool := false
deriving DecidableEq, Repr, Inhabited

namespace Fault

def fullKind (fault : Fault) : String := fault.origin ++ fault.kind

def closing (fault : Fault) : String :=
  let text := fault.shown.getD fault.text
  fault.fullKind ++ (if text = "" then "" else ": " ++ text)

def traceback (fault : Fault) : String := fault.calls ++ fault.closing ++ "\n"

-- A fault that is raised for another. A traceback tells that one first.
def raisedFor (fault cause : Fault) : Fault :=
  { fault with
    calls := cause.traceback ++ "\nThe above exception was the direct cause of the following exception:\n\n" ++ fault.calls }

-- The last line of a text; line feeds at the end make no lines.
def lastLineOf (text : String) : String :=
  String.ofList ((text.toList.reverse.dropWhile (· = '\n')).takeWhile (· ≠ '\n')).reverse

def lastLine (fault : Fault) : String := lastLineOf fault.closing

def stoppingKinds : List String :=
  ["SystemExit", "KeyboardInterrupt", "GeneratorExit", "BaseException", "BaseExceptionGroup",
   "asyncio.exceptions.CancelledError"]

-- Whether the fault asks the program to stop. Such faults are never answered, they go all the way up.
def stops (fault : Fault) : Bool := fault.isBase || fault.fullKind ∈ stoppingKinds

def of (kind text : String) : Fault := { kind, text }

-- The text of the fault, or what is raised where it is asked for.
def told (fault : Fault) : Except Fault String :=
  match fault.mute with
  | none => .ok fault.text
  | some (kind, text) => .error (.of kind text)

def typeError (text : String) : Fault := .of "TypeError" text

def valueError (text : String) : Fault := .of "ValueError" text

def overlongOutput : Fault :=
  valueError "Exceeds the limit (4300 digits) for integer string conversion; use sys.set_int_max_str_digits() to increase the limit"

def deepOutput : Fault := .of "RecursionError" "maximum recursion depth exceeded while getting the repr of an object"

def deepComparison : Fault := .of "RecursionError" "maximum recursion depth exceeded in comparison"

def deepEncoding : Fault := .of "RecursionError" "maximum recursion depth exceeded while encoding a JSON object"

def overlongInput (digits : Nat) : Fault :=
  valueError s!"Exceeds the limit (4300 digits) for integer string conversion: value has {digits} digits; use sys.set_int_max_str_digits() to increase the limit"

end Fault

-- What becomes of a call that is not answered: a fault leaves it, or it waits for ever.
inductive Silence where
  | raised (fault : Fault)
  | endless
deriving DecidableEq, Repr

end RestDispatch
