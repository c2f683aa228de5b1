import RestDispatch.Description.Module

set_option autoImplicit false

/-!
The program on the files that its path may name. A module file holds the description of its variables.
-/
namespace RestDispatch

def moduleFiles (directory : List String) : List String → List (List String)
  | [] => []
  | name :: rest =>
    [directory ++ [name ++ ".py"], directory ++ [name, "__init__.py"]] ++ moduleFiles (directory ++ [name]) rest

-- Where names lead to from a directory if all is there that they name.
def placeOf (start names : List String) : List String :=
  names.foldl (fun place name => if name = ".." then place.dropLast else place ++ [name]) start

def filesFor (current : List String) (path : String) : List (List String) :=
  match Text.cut? ':' path.toList with
  | some (name, _) => moduleFiles current (Text.splitText '.' (String.ofList name))
  | none =>
    let place := placeOf (if Workplace.isAbsolute path then [] else current) (pathNames path)
    place :: moduleFiles place.dropLast (Text.splitText '.' (stem path))

def ModuleFile.ofText (text : String) : ModuleFile :=
  match Json.decode .unbounded (Text.lettersOf text) with
  | .ok v => .ofValue v
  | .error e => { result := .error e.fault }

def readFiles : List (List String) → IO (List (List String × ModuleFile))
  | [] => return []
  | place :: rest => do
    let others ← readFiles rest
    try
      let text ← IO.FS.readFile ("/" ++ "/".intercalate place)
      return (place, .ofText text) :: others
    catch _ => return others

def pathOf (current : List String) (arguments : List String) : List (List String) :=
  match Command.read arguments with
  | .ok command => filesFor current command.target
  | .error _ => []

def ExitCode.word : ExitCode → UInt32
  | .number i => UInt32.ofNat (i % 256).toNat
  | .flag b => if b then 1 else 0

def runHere (arguments : List String) : IO UInt32 := do
  let current := pathNames ((← IO.getEnv "PWD").getD "/")
  let disk : Disk := { files := ← readFiles (pathOf current arguments), directories := [current] }
  let stdout ← IO.getStdout
  let stderr ← IO.getStderr
  match runProgram ⟨disk, current⟩ (← stdout.isTty) arguments with
  | .ok ending =>
    stdout.putStr ending.stdout
    stderr.putStr ending.stderr
    return ending.exit.word
  | .error fault =>
    stderr.putStr (fault.lastLine ++ "\n")
    return 1

end RestDispatch

def main (arguments : List String) : IO UInt32 := RestDispatch.runHere arguments
