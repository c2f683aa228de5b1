import RestDispatch.Decimal.Lenient
import RestDispatch.Text.Split

set_option autoImplicit false

/-!
Command lines. Options and a path may come in any order; of a repeated option the last one counts, and
after two hyphens everything is a path.
-/
namespace RestDispatch

inductive Command where
  | dev (path host : String) (port : Int) (reload : Option Bool)
  | run (path host : String) (port workers : Int)
  | routes (path : String)
deriving DecidableEq, Repr

inductive Usage where
  | wrong
  | help
deriving DecidableEq, Repr

inductive OptionKind where
  | value
  | flag
deriving DecidableEq, Repr

structure Given where
  options : List (String × String) := []
  paths : List String := []
deriving DecidableEq, Repr

namespace Command

def isOption (argument : String) : Bool :=
  match argument.toList with
  | '-' :: _ :: _ => true
  | _ => false

def nameAndValue (argument : String) : String × Option String :=
  match Text.cut? '=' argument.toList with
  | some (name, value) => (String.ofList name, some (String.ofList value))
  | none => (argument, none)

def withOption (name value : String) (rest : Except Usage Given) : Except Usage Given :=
  rest.map fun given => { given with options := (name, value) :: given.options }

def scan (kinds : List (String × OptionKind)) : List String → Except Usage Given
  | [] => .ok {}
  | argument :: rest =>
    if argument = "--" then .ok { paths := rest }
    else if !isOption argument then
      (scan kinds rest).map fun given => { given with paths := argument :: given.paths }
    else
      let (name, attached) := nameAndValue argument
      match kinds.lookup name, attached, rest with
      | none, _, _ => .error .wrong
      | some .flag, some _, _ => .error .wrong
      | some .flag, none, rest => withOption name "" (scan kinds rest)
      | some .value, some value, rest => withOption name value (scan kinds rest)
      | some .value, none, [] => .error .wrong
      | some .value, none, value :: rest => withOption name value (scan kinds rest)

def last? (given : Given) (name : String) : Option String := given.options.reverse.lookup name

def integer (given : Given) (name : String) (absent : Int) : Except Usage Int :=
  match last? given name with
  | none => .ok absent
  | some text =>
    match Decimal.readLenientInt text.toList with
    | .ok i => .ok i
    | .error _ => .error .wrong

-- The path that is given, `main.py` if there is none.
def path (given : Given) : Except Usage String :=
  match given.paths with
  | [] => .ok "main.py"
  | [path] => .ok path
  | _ => .error .wrong

def host (given : Given) : String := (last? given "--host").getD "127.0.0.1"

def reload (given : Given) : Option Bool :=
  (given.options.reverse.find? fun (name, _) => name = "--reload" || name = "--no-reload").map fun (name, _) =>
    decide (name = "--reload")

structure Form where
  options : List (String × OptionKind)
  make : Given → Except Usage Command

def devForm : Form :=
  { options := [("--host", .value), ("--port", .value), ("--reload", .flag), ("--no-reload", .flag), ("--help", .flag)]
    make := fun given => do
      let port ← integer given "--port" 8000
      .ok (.dev (← path given) (host given) port (reload given)) }

def runForm : Form :=
  { options := [("--host", .value), ("--port", .value), ("--workers", .value), ("--help", .flag)]
    make := fun given => do
      let port ← integer given "--port" 8000
      let workers ← integer given "--workers" 1
      .ok (.run (← path given) (host given) port workers) }

def routesForm : Form :=
  { options := [("--help", .flag)], make := fun given => do .ok (.routes (← path given)) }

def forms : List (String × Form) := [("dev", devForm), ("run", runForm), ("routes", routesForm)]

-- Reads the arguments of a command. Help is given before values are looked at.
def Form.read (form : Form) (arguments : List String) : Except Usage Command := do
  let given ← scan form.options arguments
  if (last? given "--help").isSome then .error .help
  form.make given

def readFrom (help : Bool) : List String → Except Usage Command
  | [] => .error (if help then .help else .wrong)
  | name :: rest =>
    if name = "--help" then readFrom true rest
    else if name = "--" then
      match help, rest with
      | true, _ => .error .help
      | false, [] => .error .wrong
      | false, name :: rest =>
        match forms.lookup name with
        | some form => form.read rest
        | none => .error .wrong
    else if isOption name then .error .wrong
    else if help then .error .help
    else
      match forms.lookup name with
      | some form => form.read rest
      | none => .error .wrong

def read (arguments : List String) : Except Usage Command := readFrom false arguments

end Command
end RestDispatch
