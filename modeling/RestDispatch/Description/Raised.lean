import RestDispatch.Description.Reading
import RestDispatch.Value.Printed
import RestDispatch.Fault
import RestDispatch.Text.Split

set_option autoImplicit false

/-!
Faults that are described by a kind and by what they are made of. A fault of one thing has its text, a
fault of several the texts of all in parentheses; system faults, faults of wording and faults of encoding
have rules of their own. Making one out of the wrong things raises another fault.
-/
namespace RestDispatch.Fault

def shownValue (v : Value) : String := v.printed?.getD ""

def plainValue (v : Value) : String := v.plainText?.getD ""

def textOf : List Value → Except Fault String
  | [] => .ok ""
  | [v] => v.plain.map Text.held
  | arguments => (arguments.mapM Value.printed).map fun parts => "(" ++ ", ".intercalate parts ++ ")"

-- A fault of a text, or one that has none since telling it raises another one.
def saying (kind : String) : Except Fault String → Fault
  | .ok text => .of kind text
  | .error raised =>
    { kind, text := "", shown := some "<exception str() failed>", mute := some (raised.kind, raised.text) }

/-! System faults. -/

def systemKinds : List (Int × String) :=
  [(1, "PermissionError"), (2, "FileNotFoundError"), (3, "ProcessLookupError"), (4, "InterruptedError"),
   (10, "ChildProcessError"), (11, "BlockingIOError"), (13, "PermissionError"), (17, "FileExistsError"),
   (20, "NotADirectoryError"), (21, "IsADirectoryError"), (32, "BrokenPipeError"),
   (103, "ConnectionAbortedError"), (104, "ConnectionResetError"), (108, "BrokenPipeError"),
   (110, "TimeoutError"), (111, "ConnectionRefusedError"), (114, "BlockingIOError"),
   (115, "BlockingIOError")]

def systemName : String := "OSError"

def systemAliases : List String := ["IOError", "EnvironmentError"]

def kindNamed (name : String) : String := if name ∈ systemAliases then systemName else name

def isSystemKind (kind : String) : Bool :=
  kind = systemName || kind = "ConnectionError" || (systemKinds.map (·.2)).contains kind

def systemKind (kind : String) (number : Value) : String :=
  if kind = systemName then ((number.integer?.bind fun i => systemKinds.lookup i).getD systemName) else kind

def writtenCount (v : Value) (fault : Fault) : Fault :=
  match v with
  | .float _ => .typeError "'float' object cannot be interpreted as an integer"
  | .int i => if Decimal.fitsWord i then fault else .valueError "cannot fit 'int' into an index-sized integer"
  | _ => fault

def isNumber : Value → Bool
  | .bool _ => true
  | .int _ => true
  | .float _ => true
  | _ => false

def otherFile : Value → String
  | .null => ""
  | file => " -> " ++ shownValue file

-- A system fault of a number and a reason. What follows them is a file, something that does not matter here, and
-- another file.
def ofSystem (kind : String) (number reason : Value) (others : List Value) : Fault :=
  let head := "[Errno " ++ plainValue number ++ "] " ++ plainValue reason
  match others.headD .null with
  | .null => .of kind head
  | file =>
    if kind = "BlockingIOError" && isNumber file then writtenCount file (.of kind head)
    else
      let text := head ++ ": " ++ shownValue file ++ otherFile (others.getD 2 .null)
      { kind, text, remade := some head }

def systemFault (kind : String) : List Value → Fault
  | number :: reason :: others =>
    if others.length ≤ 3 then ofSystem (systemKind kind number) number reason others
    else saying kind (textOf (number :: reason :: others))
  | arguments => saying kind (textOf arguments)

/-! Faults of wording. -/

def wordingKinds : List String := ["SyntaxError", "IndentationError", "TabError"]

def noDetail : String := "<no detail available>"

def placeParts (place : Value) : Except Fault (List Value) := do
  let parts ← match place with
    | .list items => .ok items
    | .text t => .ok (t.map fun letter => .text [letter])
    | .object fields => .ok (fields.map fun field => .text field.1)
    | v => .error (.typeError s!"'{v.kindName}' object is not iterable")
  if parts.length < 4 then .error (.typeError s!"function takes at least 4 arguments ({parts.length} given)")
  else if 6 < parts.length then
    .error (.typeError s!"function takes at most 6 arguments ({parts.length} given)")
  else if parts.length = 5 then .error (.typeError "end_offset must be provided when end_lineno is provided")
  else .ok parts

def baseName (path : String) : String := (Text.splitText '/' path).getLastD path

-- A line number as it is written; those that do not fit into a word become minus one.
def lineText (i : Int) : String := toString (if Decimal.fitsWord i then i else -1)

def placeText (file line : Value) : String :=
  match file, line with
  | .text t, .int i => s!" ({baseName (Text.held t)}, line {lineText i})"
  | .text t, _ => s!" ({baseName (Text.held t)})"
  | _, .int i => s!" (line {lineText i})"
  | _, _ => ""

-- What a traceback shows of a fault of wording: the line is not repeated after the text.
def shownWording (message file line : Value) : String :=
  let text := if message.truthy then plainValue message else noDetail
  match file, line with
  | .null, _ => text
  | file, .null => text ++ " (" ++ plainValue file ++ ")"
  | _, _ => text

def wordingFault (kind : String) : List Value → Fault
  | [] => { kind, text := "None", shown := some noDetail }
  | [message, place] =>
    match placeParts place with
    | .error fault => fault
    | .ok parts =>
      let file := parts.getD 0 .null
      let line := parts.getD 1 .null
      { kind, text := plainValue message ++ placeText file line, shown := some (shownWording message file line) }
  | message :: _ => { kind, text := plainValue message, shown := some (shownWording message .null .null) }

/-! Faults of encoding. -/

def demandedKind : Value → String
  | .null => "None"
  | v => v.kindName

def textArgument (place : Nat) (v : Value) : Except Fault (List Letter) :=
  match v with
  | .text t => .ok t
  | v => .error (.typeError s!"argument {place} must be str, not {demandedKind v}")

def indexArgument (v : Value) : Except Fault Int :=
  match v.integer? with
  | some i =>
    if Decimal.fitsWord i then .ok i else .error (.of "OverflowError" "Python int too large to convert to C ssize_t")
  | none => .error (.typeError s!"'{v.kindName}' object cannot be interpreted as an integer")

def stretchText (text : List Letter) (start stop : Int) : String :=
  match text[start.toNat]? with
  | some letter =>
    if 0 ≤ start && stop = start + 1 then
      let code := match letter with
        | .char c => String.ofList (Text.codeEscape c)
        | .half unit => "\\u" ++ String.ofList (Text.hex 4 unit)
      s!"character '{code}' in position {start}"
    else s!"characters in position {start}-{stop - 1}"
  | none => s!"characters in position {start}-{stop - 1}"

def wrongCount (expected : Nat) (arguments : List Value) : Fault :=
  .typeError s!"function takes exactly {expected} arguments ({arguments.length} given)"

def encodeFault : List Value → Except Fault Fault
  | [encoding, object, start, stop, reason] => do
    let encoding ← textArgument 1 encoding
    let object ← textArgument 2 object
    let start ← indexArgument start
    let stop ← indexArgument stop
    let reason ← textArgument 5 reason
    .ok (.of "UnicodeEncodeError"
      s!"'{Text.held encoding}' codec can't encode {stretchText object start stop}: {Text.held reason}")
  | arguments => .error (wrongCount 5 arguments)

def decodeFault : List Value → Except Fault Fault
  | [encoding, object, start, stop, reason] => do
    let _ ← textArgument 1 encoding
    let _ ← indexArgument start
    let _ ← indexArgument stop
    let _ ← textArgument 5 reason
    .error (.typeError s!"a bytes-like object is required, not '{object.kindName}'")
  | arguments => .error (wrongCount 5 arguments)

def mappingFault : List Value → Except Fault Fault
  | [object, start, stop, reason] => do
    let object ← textArgument 1 object
    let start ← indexArgument start
    let stop ← indexArgument stop
    let reason ← textArgument 4 reason
    .ok (.of "UnicodeTranslateError"
      s!"can't translate {stretchText object start stop}: {Text.held reason}")
  | arguments => .error (wrongCount 4 arguments)

def settled : Except Fault Fault → Fault
  | .ok fault => fault
  | .error fault => fault

/-! Groups of faults, which nothing that is data can be made of. -/

def groupKinds : List String := ["ExceptionGroup", "BaseExceptionGroup"]

def groupFault : List Value → Fault
  | [message, members] =>
    match message, members with
    | .text _, .list [] => .valueError "second argument (exceptions) must be a non-empty sequence"
    | .text _, .text [] => .valueError "second argument (exceptions) must be a non-empty sequence"
    | .text _, .list _ => .valueError "Item 0 of second argument (exceptions) is not an exception"
    | .text _, .text _ => .valueError "Item 0 of second argument (exceptions) is not an exception"
    | .text _, _ => .typeError "second argument (exceptions) must be a sequence"
    | message, _ =>
      .typeError s!"BaseExceptionGroup.__new__() argument 1 must be str, not {demandedKind message}"
  | arguments =>
    .typeError s!"BaseExceptionGroup.__new__() takes exactly 2 arguments ({arguments.length} given)"

/-! All kinds. -/

def exitRequest : List Value → ExitRequest
  | [] => .silent
  | [.null] => .silent
  | [.int i] => .code i
  | [.bool b] => .flag b
  | arguments => .saying ((textOf arguments).toOption.getD "")

def checkNumbers : List Int := [1, 2, 3, 4]

def refusal (code key message : Value) : Fault :=
  match checkNumbers.find? fun number => code.sameScalar (.int number) with
  | some number =>
    { kind := "ParamError"
      text := plainValue message
      origin := "restly.parser."
      parameter := some (plainValue key, number) }
  | none => .valueError (shownValue code ++ " is not a valid ParamErrorCode")

def ofArguments (name : String) (arguments : List Value) : Fault :=
  let kind := kindNamed name
  match kind, arguments with
  | "ParamError", [code, key, message] => refusal code key message
  | "KeyError", [v] => saying kind v.printed
  | "SystemExit", _ => { saying kind (textOf arguments) with exit := some (exitRequest arguments) }
  | "UnicodeEncodeError", _ => settled (encodeFault arguments)
  | "UnicodeDecodeError", _ => settled (decodeFault arguments)
  | "UnicodeTranslateError", _ => settled (mappingFault arguments)
  | _, _ =>
    if kind ∈ wordingKinds then wordingFault kind arguments
    else if kind ∈ groupKinds then groupFault arguments
    else if isSystemKind kind then systemFault kind arguments
    else saying kind (textOf arguments)

def ofValue (v : Value) : Fault :=
  match v.asList with
  | [] => .of "" ""
  | kind :: arguments => ofArguments kind.asText arguments

end RestDispatch.Fault
