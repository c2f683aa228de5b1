import RestDispatch.Text.Split
import RestDispatch.Value.Basic
import RestDispatch.Fault

set_option autoImplicit false

/-!
The name under which worker processes import an application: a module and a variable of it, with a
colon in between.
-/
namespace RestDispatch

-- What a variable of the main module is bound to: the application, what tells the name that a module was started
-- under, or a value.
inductive Binding where
  | thisApp
  | spec (name : String)
  | value (v : Value)

structure MainModule where
  bindings : List (String × Binding) := []

def pathNames (path : String) : List String :=
  (Text.splitText '/' path).filter fun name => name ≠ "" && name ≠ "."

def fileName (path : String) : String := (pathNames path).getLast?.getD ""

-- A name without what follows its last dot. A dot at either end is part of the name.
def withoutExtension (name : String) : String :=
  match Text.cut? '.' name.toList.reverse with
  | some (extension, stem) =>
    if extension.isEmpty || stem.isEmpty then name else String.ofList stem.reverse
  | none => name

def stem (path : String) : String := withoutExtension (fileName path)

inductive TargetError where
  | noMainModule
  | noVariable
  | nameless (kind : String)
  | noPath (kind : String)
deriving DecidableEq, Repr

namespace TargetError

def message : TargetError → String
  | .noMainModule =>
    "Cannot auto-detect Granian target: __main__ module not found. " ++
      "Run it through the CLI instead, e.g. restly run myapp:app."
  | .noVariable =>
    "Cannot auto-detect Granian target: no module-level variable in __main__ references this Restly instance. " ++
      "Run it through the CLI instead, e.g. restly run myapp:app."
  | .nameless kind => s!"'{kind}' object has no attribute 'name'"
  | .noPath kind => s!"expected str, bytes or os.PathLike object, not {kind}"

def fault (e : TargetError) : Fault :=
  match e with
  | .nameless _ => .of "AttributeError" e.message
  | .noPath _ => .typeError e.message
  | _ => .of "RuntimeError" e.message

end TargetError

namespace Binding

def kindName : Binding → String
  | .thisApp => "Restly"
  | .spec _ => "ModuleSpec"
  | .value v => v.kindName

def truthy : Binding → Bool
  | .value v => v.truthy
  | _ => true

def isThisApp : Binding → Bool
  | .thisApp => true
  | _ => false

end Binding

namespace MainModule

-- The variables that the main module has before its own: its name, what tells the name that it was started under,
-- and that of its file if it has one.
def start (spec file : Option String) : List (String × Binding) :=
  [("__name__", .value (.text "__main__")), ("__spec__", (spec.map .spec).getD (.value .null))] ++
    (file.map fun file => [("__file__", .value (.text file))]).getD []

def bound? (main : MainModule) (name : String) : Option Binding := (main.bindings.lookup name).filter (·.truthy)

def variableOfApp? (main : MainModule) : Option String :=
  (main.bindings.find? (·.2.isThisApp)).map (·.1)

def fileStem (main : MainModule) : Except TargetError String :=
  match main.bound? "__file__" with
  | none => .ok "None"
  | some (.value (.text file)) => .ok (stem (Text.held file))
  | some binding => .error (.noPath binding.kindName)

-- The name under which the main module can be imported: the one it was started under, else that of its file.
def moduleName (main : MainModule) : Except TargetError String :=
  match main.bound? "__spec__" with
  | none => main.fileStem
  | some (.spec name) => if name = "" then main.fileStem else .ok name
  | some binding => .error (.nameless binding.kindName)

def target (main : Option MainModule) : Except TargetError String :=
  match main with
  | none => .error .noMainModule
  | some main =>
    match main.variableOfApp? with
    | none => .error .noVariable
    | some name => main.moduleName.map fun moduleName => moduleName ++ ":" ++ name

end MainModule
end RestDispatch
