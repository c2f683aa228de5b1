import RestDispatch.Launch.Target
import RestDispatch.App.Basic

set_option autoImplicit false

/-!
Starting a server. A banner is printed first, then the server is started with named arguments.
-/
namespace RestDispatch

-- How a server is to be started. What is not known here is handed on to it.
structure LaunchSettings where
  host : Value := .text "127.0.0.1"
  port : Value := .int 8000
  dev : Value := .bool false
  reload : Value := .null
  workers : Value := .int 1
  logLevel : Value := .text "info"
  extras : Entries := []

structure Launch where
  banner : String
  arguments : Entries

inductive LaunchError where
  | noRoutes
  | target (e : TargetError)
  | givenTwice (callee name : String)
  | unprintable

namespace LaunchError

def fault : LaunchError → Fault
  | .noRoutes =>
    .of "ConfigurationError" "No resource has been registered; call add_resource() before run()."
  | .target e => e.fault
  | .givenTwice callee "self" => .typeError s!"{callee} got multiple values for argument 'self'"
  | .givenTwice callee name => .typeError s!"{callee} got multiple values for keyword argument '{name}'"
  | .unprintable => .overlongOutput

end LaunchError

namespace LaunchSettings

def set (settings : LaunchSettings) (name : String) (v : Value) : LaunchSettings :=
  match name with
  | "host" => { settings with host := v }
  | "port" => { settings with port := v }
  | "dev" => { settings with dev := v }
  | "reload" => { settings with reload := v }
  | "workers" => { settings with workers := v }
  | "log_level" => { settings with logLevel := v }
  | name => { settings with extras := settings.extras ++ [(name, v)] }

def ofEntries (entries : Entries) : LaunchSettings :=
  entries.foldl (fun settings (name, v) => settings.set name v) {}

-- Whether changes of the code restart the server; unless it is said, development decides.
def reloads (settings : LaunchSettings) : Value :=
  match settings.reload with
  | .null => settings.dev
  | v => v

def arguments (settings : LaunchSettings) (target : String) : Entries :=
  [("target", .text target), ("address", settings.host), ("port", settings.port),
   ("interface", .text "asgi"), ("workers", settings.workers), ("reload", settings.reloads),
   ("log_level", if settings.dev.truthy then .text "debug" else settings.logLevel),
   ("log_access", .bool settings.dev.truthy)]

end LaunchSettings

namespace Launch

def styled (terminal : Bool) (code text : String) : String :=
  if terminal then "\x1b[" ++ code ++ "m" ++ text ++ "\x1b[0m" else text

def padded (width : Nat) (text : String) : String :=
  text ++ String.ofList (List.replicate (width - text.length) ' ')

def row (terminal : Bool) (name text : String) : String :=
  "  " ++ styled terminal "2" (padded 8 name) ++ text ++ "\n"

def banner? (terminal : Bool) (target : String) (settings : LaunchSettings) : Option String := do
  let host ← settings.host.plainText?
  let port ← settings.port.plainText?
  let workers ← settings.workers.plainText?
  some
    (styled terminal "1" "restly" ++ "\n" ++
      row terminal "app" target ++
      row terminal "listen" ("http://" ++ host ++ ":" ++ port) ++
      row terminal "mode" (if settings.dev.truthy then "development" else "production") ++
      row terminal "workers" workers ++
      row terminal "reload" (if settings.reloads.truthy then "on" else "off") ++ "\n")

def start (terminal : Bool) (target : String) (settings : LaunchSettings) : Except LaunchError Launch :=
  let known := settings.arguments target
  match banner? terminal target settings with
  | none => .error .unprintable
  | some banner =>
    match settings.extras.find? fun extra => (known.lookup extra.1).isSome with
    | some (name, _) => .error (.givenTwice "granian.Granian()" name)
    | none => .ok { banner, arguments := known ++ settings.extras }

end Launch

def App.launch (app : App) (terminal : Bool) (main : Option MainModule) (keywords : Entries) :
    Except LaunchError Launch :=
  if (keywords.lookup "self").isSome then .error (.givenTwice "Restly.run()" "self")
  else if app.registry.router.table.isEmpty then .error .noRoutes
  else
    match MainModule.target main with
    | .error e => .error (.target e)
    | .ok target => Launch.start terminal target (.ofEntries keywords)

end RestDispatch
