import RestDispatch.CommandLine.Arguments
import RestDispatch.CommandLine.Modules
import RestDispatch.Launch.Server
import RestDispatch.Text.Styled

set_option autoImplicit false

/-!
The program: it loads an application by a path and starts a server for it or lists its routes.
-/
namespace RestDispatch

inductive LoadError where
  | noFile (path : String)
  | longPath (path : String)
  | importing (name : String) (fault : Fault)
  | noApp (path : String)
  | notAnApp (path : String)
deriving DecidableEq, Repr

def LoadError.message : LoadError → String
  | .noFile path => s!"Error: file {Text.quoted path} not found."
  | .longPath path => s!"[Errno 36] File name too long: {Text.quoted path}"
  | .importing name fault => s!"Error importing {Text.quoted name}: {fault.text}"
  | .noApp path =>
    s!"Error: no Restly instance found in {Text.quoted path}. Provide an explicit target, e.g. main:app"
  | .notAnApp path => s!"Error: {Text.quoted path} is not a Restly instance."

inductive ExitCode where
  | number (i : Int)
  | flag (b : Bool)
deriving DecidableEq, Repr

structure Ending where
  exit : ExitCode
  stdout : String := ""
  stderr : String := ""
  served : List Entries := []

def Ending.withLineFeeds : List Char → List Char
  | '\r' :: '\n' :: cs => '\n' :: withLineFeeds cs
  | c :: cs => c :: withLineFeeds cs
  | [] => []

def Ending.inLines (ending : Ending) : Ending :=
  let read := fun (text : String) => String.ofList (withLineFeeds text.toList)
  { ending with stdout := read ending.stdout, stderr := read ending.stderr }

structure Loading where
  result : Except LoadError (String × App)
  served : List Entries := []

namespace Workplace

def loadFrom (workplace : Workplace) (directory : List String) (name : String)
    (look : Namespace → Except LoadError (String × App)) : Loading :=
  let file := workplace.disk.importModule directory name
  { result := (file.result.mapError (.importing name)).bind look, served := file.served }

def inTarget (path appName : String) (bindings : Namespace) : Except LoadError (String × App) :=
  match bindings.app? appName with
  | some app => .ok (path, app)
  | none => .error (.notAnApp path)

def inFile (path name : String) (bindings : Namespace) : Except LoadError (String × App) :=
  match bindings.appName?.bind fun appName => (bindings.app? appName).map fun app => (appName, app) with
  | some (appName, app) => .ok (name ++ ":" ++ appName, app)
  | none => .error (.noApp path)

def loadFile (workplace : Workplace) (path : String) : Loading :=
  match workplace.locate path with
  | .error .absent => { result := .error (.noFile path) }
  | .error .tooLong => { result := .error (.longPath path) }
  | .ok place => workplace.loadFrom place.dropLast (stem path) (inFile path (stem path))

-- Loads an application by a path: a target is looked for from the current directory, a file from the one it lies in.
def load (workplace : Workplace) (path : String) : Loading :=
  match Text.cut? ':' path.toList with
  | some (name, appName) =>
    workplace.loadFrom workplace.current (String.ofList name) (inTarget path (String.ofList appName))
  | none => workplace.loadFile path

end Workplace

def verbsText (app : App) (route : Route Resource) : String :=
  let names := (app.registry.allowed route.resource).map Verb.name
  if names.isEmpty then "-" else ", ".intercalate (names.mergeSort fun a b => decide (a ≤ b))

def App.listing (app : App) : List String :=
  let table := app.registry.router.table
  let width := (table.map fun route => route.rule.text.length).foldl max 0
  if table.isEmpty then ["No resources registered.\n"]
  else table.map fun route => Launch.padded width route.rule.text ++ "  " ++ verbsText app route ++ "\n"

namespace Command

def target : Command → String
  | .dev path _ _ _ => path
  | .run path _ _ _ => path
  | .routes path => path

def settings : Command → LaunchSettings
  | .dev _ host port reload =>
    { host := .text host, port := .int port, dev := .bool true, reload := (reload.map .bool).getD .null }
  | .run _ host port workers => { host := .text host, port := .int port, workers := .int workers }
  | .routes _ => {}

-- A text as it is echoed: without styles where there is no terminal.
def echoed (terminal : Bool) (text : String) : String := if terminal then text else Text.unstyled text

-- A text as it is echoed where errors are told: half a surrogate pair is written by its code there.
def reported (terminal : Bool) (text : String) : String :=
  String.ofList ((echoed terminal text).toList.flatMap fun c => if (Text.half? c).isSome then Text.codeEscape c else [c])

-- Echoes texts one after the other. Half a surrogate pair cannot be written, and its text ends the program.
def echoAll (terminal : Bool) : List String → Ending
  | [] => { exit := .number 0 }
  | text :: rest =>
    if Text.holdsHalf text then { exit := .number 1 }
    else
      let ending := echoAll terminal rest
      { ending with stdout := echoed terminal text ++ ending.stdout }

def perform (terminal : Bool) (target : String) (app : App) : Command → Ending
  | .routes _ => echoAll terminal app.listing
  | command =>
    match Launch.start terminal target command.settings with
    | .ok launch => { exit := .number 0, stdout := launch.banner, served := [launch.arguments] }
    | .error _ => { exit := .number 1 }

def stopped (fault : Fault) : Except Fault Ending :=
  match fault.exit with
  | some .silent => .ok { exit := .number 0 }
  | some (.code i) => .ok { exit := .number i }
  | some (.flag b) => .ok { exit := .flag b }
  | some (.saying text) => .ok { exit := .number 1, stdout := text ++ "\n" }
  | none => if fault.kind = "KeyboardInterrupt" then .ok { exit := .number 130 } else .error fault

-- The end that loading no application makes. A path that cannot be looked for ends it without a word, and so does a
-- fault whose text cannot be told.
def failed (terminal : Bool) (e : LoadError) : Except Fault Ending :=
  let report : Ending := { exit := .number 1, stderr := reported terminal (e.message ++ "\n") }
  match e with
  | .longPath _ => .ok { exit := .number 1 }
  | .importing _ fault =>
    if fault.stops then stopped fault
    else
      match fault.told with
      | .ok _ => .ok report
      | .error raised => if raised.stops then stopped raised else .ok { exit := .number 1 }
  | _ => .ok report

def execute (workplace : Workplace) (terminal : Bool) (command : Command) : Except Fault Ending :=
  let loading := workplace.load command.target
  let ending := match loading.result with
    | .error e => failed terminal e
    | .ok (target, app) => .ok (command.perform terminal target app)
  ending.map fun ending => { ending with served := loading.served ++ ending.served }

end Command

def runProgram (workplace : Workplace) (terminal : Bool) (arguments : List String) : Except Fault Ending :=
  match Command.read arguments with
  | .error .wrong => .ok { exit := .number 2 }
  | .error .help => .ok { exit := .number 0 }
  | .ok command => command.execute workplace terminal

end RestDispatch
