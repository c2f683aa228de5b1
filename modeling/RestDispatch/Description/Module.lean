import RestDispatch.Description.Session
import RestDispatch.CommandLine.Basic

set_option autoImplicit false

/-!
Descriptions of modules: their variables in order, and what importing raises in the end.
-/
namespace RestDispatch

def App.ofValue (v : Value) : Except Fault App × List Entries :=
  match classesFault? v with
  | some fault => (.error fault, [])
  | none =>
    let (result, session) := (Session.ofValue v).runAll ((v.listField "steps").map .ofValue)
    ((result.map fun () => session.app).mapError InstructionError.asFault, session.served)

def ModuleFile.ofEntries (bindings : Namespace) : Entries → ModuleFile
  | [] => { result := .ok bindings }
  | (name, v) :: rest =>
    match v.field? "app" with
    | none => ModuleFile.ofEntries (put name none bindings) rest
    | some description =>
      match App.ofValue description with
      | (.error fault, served) => { result := .error fault, served }
      | (.ok app, served) => (ModuleFile.ofEntries (put name (some app) bindings) rest).after served

def ModuleFile.ofValue (v : Value) : ModuleFile :=
  let file := ModuleFile.ofEntries [] (v.entriesField "vars")
  match v.field? "raise" with
  | none => file
  | some .null => file
  | some raised => { file with result := file.result.bind fun _ => .error (.ofValue raised) }

-- The described files lie in a directory of their own, which is the current one.
def Workplace.ofEntries (entries : Entries) : Workplace :=
  let current := ["work"]
  let files := entries.map fun (path, v) => (current ++ pathNames path, ModuleFile.ofValue v)
  { disk := { files, directories := [current] }, current }

end RestDispatch
