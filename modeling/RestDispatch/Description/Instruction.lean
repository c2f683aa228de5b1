import RestDispatch.Launch.Server
import RestDispatch.Description.Resource
import RestDispatch.Resource.Objects

set_option autoImplicit false

/-!
Instructions to an application, and their descriptions. They refer to resources: a class stands for a new object at
every registration; an instance is constructed when it is first referred to by its class and key, and is the same from
then on.
-/
namespace RestDispatch

inductive Reference where
  | fresh (cls : String)
  | shared (cls key : String)
  | plain (v : Value)

def Reference.ofValue (v : Value) : Reference :=
  match v.textField? "class", v.textField? "instance" with
  | some cls, _ => .fresh cls
  | none, some cls => .shared cls (v.textField "key")
  | none, none => .plain ((v.field? "value").getD .null)

-- The classes that can be referred to, the instances that have been, and a token for the next plain value.
structure Workshop where
  classes : List ResourceClass := []
  shared : List ((String × String) × Resource) := []
  nextToken : Nat := 0

namespace Workshop

def class? (workshop : Workshop) (name : String) : Except Fault ResourceClass :=
  match workshop.classes.find? (·.name = name) with
  | some cls => .ok cls
  | none => .error (missingKey name)

def instance? (workshop : Workshop) (objects : Objects) (cls key : String) :
    Except Fault Resource × Objects × Workshop :=
  match workshop.shared.lookup (cls, key) with
  | some resource => (.ok resource, objects, workshop)
  | none =>
    match workshop.class? cls with
    | .error fault => (.error fault, objects, workshop)
    | .ok found =>
      match objects.construct found with
      | (.error fault, objects) => (.error fault, objects, workshop)
      | (.ok resource, objects) =>
        (.ok resource, objects, { workshop with shared := ((cls, key), resource) :: workshop.shared })

def target (workshop : Workshop) (objects : Objects) : Reference → Except Fault Target × Objects × Workshop
  | .fresh cls => ((workshop.class? cls).map .fresh, objects, workshop)
  | .shared cls key =>
    let (resource, objects, workshop) := workshop.instance? objects cls key
    (resource.map .existing, objects, workshop)
  | .plain v =>
    let resource := Resource.plain workshop.nextToken v
    (.ok (.existing resource), objects, { workshop with nextToken := workshop.nextToken + 1 })

def targets (workshop : Workshop) (objects : Objects) :
    List (String × Reference) → Except Fault (List (String × Target)) × Objects × Workshop
  | [] => (.ok [], objects, workshop)
  | (text, reference) :: rest =>
    match workshop.target objects reference with
    | (.error fault, objects, workshop) => (.error fault, objects, workshop)
    | (.ok target, objects, workshop) =>
      let (others, objects, workshop) := workshop.targets objects rest
      (others.map ((text, target) :: ·), objects, workshop)

end Workshop

def mapEntries (v : Value) : List (String × Reference) :=
  (v.entriesField "entries").map fun (text, reference) => (text, .ofValue reference)

inductive Instruction where
  | makeParser (name : String) (defaults : Settings) (parameters : List (String × Settings))
  | addParameter (parser name : String) (settings : Settings)
  | add (rule : String) (resource : Reference) (parsers : List (String × String))
  | addAll (entries : List (String × Reference))
  | listRoutes
  | listVerbs (resource : Reference)
  | addMiddleware (middleware : Middleware)
  | listBuilds
  | call (scope : Scope) (chunks : List Chunk)
  | lifespan (events : List LifeEvent)
  | launch (keywords : Entries) (terminal : Bool) (main : Option MainModule)
  | unknown (name : String)

def Chunk.ofValue (v : Value) : Chunk :=
  { body := ((v.field? "body").map Value.asBytes).getD [], more := v.flagField "more" }

def chunksOf (v : Value) : List Chunk :=
  match v.field? "chunks" with
  | some chunks => chunks.asList.map .ofValue
  | none => [{}]

def Scope.ofValue (v : Value) : Scope :=
  { kind := (v.textField? "type").getD "http"
    method := v.textField? "method"
    path := v.textField? "path"
    query := ((v.field? "query").map Value.asBytes).getD []
    headers := (v.listField "headers").map fun entry => (entry.asPair.1.asBytes, entry.asPair.2.asBytes) }

def LifeEvent.ofText : String → LifeEvent
  | "lifespan.startup" => .startup
  | "lifespan.shutdown" => .shutdown
  | name => .other name

def Middleware.ofValue (v : Value) : Middleware :=
  match v.textField "kind" with
  | "strip" => .strip (v.textField "tag") (v.textField "prefix")
  | "stop" => .stop (v.textField "tag")
  | _ => .header (v.textField "tag")

def Binding.ofValue (v : Value) : Binding := if v.flagField "$app" then .thisApp else .value v

def MainModule.ofValue (v : Value) : MainModule :=
  { bindings :=
      putAll (MainModule.start (v.textField? "spec") (v.textField? "file"))
        ((v.entriesField "vars").map fun (name, v) => (name, .ofValue v)) }

-- The main module of a description; it is there unless the description says that there is none.
def mainModuleOf (v : Value) : Option MainModule :=
  match v.field? "main" with
  | none => some (.ofValue (.object []))
  | some .null => none
  | some main => some (.ofValue main)

def parametersOf (v : Value) : List (String × Settings) :=
  (v.entriesField "params").map fun (name, options) => (name, .ofEntries options.asEntries)

def Instruction.ofValue (v : Value) : Instruction :=
  match v.textField "do" with
  | "parser" => .makeParser (v.textField "name") (.ofEntries (v.entriesOf "defaults")) (parametersOf v)
  | "add_param" =>
    .addParameter (v.textField "parser") (v.textField "name") (.ofEntries (v.entriesOf "options"))
  | "add" =>
    .add (v.textField "rule") (.ofValue ((v.field? "resource").getD .null))
      ((v.entriesField "parsers").map fun (verb, name) => (verb, name.asText))
  | "add_map" => .addAll (mapEntries v)
  | "routes" => .listRoutes
  | "allowed" => .listVerbs (.ofValue ((v.field? "resource").getD .null))
  | "middleware" => .addMiddleware (.ofValue v)
  | "builds" => .listBuilds
  | "call" => .call (.ofValue v) (chunksOf v)
  | "lifespan" => .lifespan ((v.listField "messages").map fun name => .ofText name.asText)
  | "run" => .launch (v.entriesOf "kwargs") (v.flagField "tty") (mainModuleOf v)
  | name => .unknown name

end RestDispatch
