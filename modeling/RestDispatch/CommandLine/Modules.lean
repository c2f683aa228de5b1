import RestDispatch.App.Basic
import RestDispatch.CommandLine.Standard
import RestDispatch.Launch.Target

set_option autoImplicit false

/-!
Modules in files. A directory with an `__init__.py` is a package, a file a module, and a directory without
one still holds others, unless a standard module has its name. A dotted name is looked up step by step. A program runs in
a directory of the disk; paths start there, or where all directories are if they start with a slash.
-/
namespace RestDispatch

-- The variables of a module; those that are no application have no value here.
abbrev Namespace := List (String × Option App)

-- What importing a file gives: its variables or what was raised, and the servers that were started meanwhile.
structure ModuleFile where
  result : Except Fault Namespace := .ok []
  served : List Entries := []

def ModuleFile.after (served : List Entries) (file : ModuleFile) : ModuleFile :=
  { file with served := served ++ file.served }

-- The files of a disk by the names of the directories that lead to them and by their own, and the directories that are
-- there although no file lies in them.
structure Disk where
  files : List (List String × ModuleFile)
  directories : List (List String) := []

-- Where a program runs: a disk, and the directory on it that is the current one.
structure Workplace where
  disk : Disk
  current : List String := []

inductive Found where
  | file (content : ModuleFile)
  | package (place : List String) (content : ModuleFile)
  | standard

def Found.content : Found → ModuleFile
  | .file content => content
  | .package _ content => content
  | .standard => {}

inductive PathError where
  | absent
  | tooLong
deriving DecidableEq, Repr

def nameLimit : Nat := 255

def pathLimit : Nat := 4095

namespace Disk

def file? (disk : Disk) (place : List String) : Option ModuleFile := disk.files.lookup place

def isDirectory (disk : Disk) (place : List String) : Bool :=
  place.isEmpty || disk.directories.any place.isPrefixOf ||
    disk.files.any fun (names, _) => names ≠ place && place.isPrefixOf names

def contains (disk : Disk) (place : List String) : Bool :=
  (disk.file? place).isSome || disk.isDirectory place

-- The place that names lead to from a directory. Two dots lead to the directory above, if there is one.
def walk (disk : Disk) (place : List String) : List String → Except PathError (List String)
  | [] => if disk.contains place then .ok place else .error .absent
  | name :: rest =>
    if !disk.isDirectory place then .error .absent
    else if name = ".." then disk.walk place.dropLast rest
    else if nameLimit < name.utf8ByteSize then .error .tooLong
    else disk.walk (place ++ [name]) rest

def findFile? (disk : Disk) (directory : List String) (name : String) : Option Found :=
  let place := directory ++ [name]
  match disk.file? (place ++ ["__init__.py"]), disk.file? (directory ++ [name ++ ".py"]) with
  | some result, _ => some (.package place result)
  | none, some result => some (.file result)
  | none, none => none

def findDirectory? (disk : Disk) (directory : List String) (name : String) : Option Found :=
  let place := directory ++ [name]
  if disk.isDirectory place then some (.package place {}) else none

def find? (disk : Disk) (directory : List String) (name : String) : Option Found :=
  (disk.findFile? directory name).or (disk.findDirectory? directory name)

def standard? (names : List String) (name : String) : Option Found :=
  if name ∈ names then some .standard else none

def findFirst? (disk : Disk) (directory : List String) (name : String) : Option Found :=
  (standard? StandardModule.loaded name).or ((disk.findFile? directory name).or
    ((standard? StandardModule.others name).or (disk.findDirectory? directory name)))

def notFound (full : String) : Fault := .of "ModuleNotFoundError" ("No module named " ++ Text.quoted full)

-- There is no module of a name, as what stands before its last dot holds none.
def notPackage (full parent : String) : Fault :=
  .of "ModuleNotFoundError"
    ("No module named " ++ Text.quoted full ++ "; " ++ Text.quoted parent ++ " is not a package")

def inside (disk : Disk) (parent full name : String) : Found → Except Fault Found
  | .file _ => .error (notPackage full parent)
  | .package place _ =>
    match disk.find? place name with
    | some inner => .ok inner
    | none => .error (notFound full)
  | .standard =>
    match StandardModule.find parent full with
    | .ok () => .ok .standard
    | .error .noModule => .error (notFound full)
    | .error .notPackage => .error (notPackage full parent)

def importParts (disk : Disk) (parent : String) (found : Found) : List String → ModuleFile
  | [] => found.content
  | name :: rest =>
    let full := parent ++ "." ++ name
    let content := found.content
    match content.result, disk.inside parent full name found with
    | .error _, _ => content
    | .ok _, .error fault => { content with result := .error fault }
    | .ok _, .ok inner => (disk.importParts full inner rest).after content.served

def failing (fault : Fault) : ModuleFile := { result := .error fault }

def importModule (disk : Disk) (directory : List String) (name : String) : ModuleFile :=
  if name = "" then failing (.valueError "Empty module name")
  else if name.toList.head? = some '.' then
    failing (.typeError
      ("the 'package' argument is required to perform a relative import for " ++ Text.quoted name))
  else
    match Text.splitText '.' name with
    | [] => failing (notFound name)
    | first :: rest =>
      match disk.findFirst? directory first with
      | none => failing (notFound first)
      | some found => disk.importParts first found rest

end Disk

namespace Workplace

-- The slashes at the start of a path that are kept. Two of them stay two, more are one.
def rootSlashes : List Char → Nat
  | '/' :: '/' :: '/' :: _ => 1
  | '/' :: '/' :: _ => 2
  | '/' :: _ => 1
  | _ => 0

def isAbsolute (path : String) : Bool := rootSlashes path.toList ≠ 0

-- The place of a path on the disk.
def locate (workplace : Workplace) (path : String) : Except PathError (List String) :=
  let names := pathNames path
  let start := if isAbsolute path then [] else workplace.current
  if pathLimit < rootSlashes path.toList + ("/".intercalate names).utf8ByteSize then .error .tooLong
  else workplace.disk.walk start names

end Workplace

def Namespace.app? (bindings : Namespace) (name : String) : Option App := (bindings.lookup name).join

namespace Namespace

def isPublic (name : String) : Bool := name.toList.head? ≠ some '_'

def publicNames (bindings : Namespace) : List String :=
  ((bindings.map (·.1)).filter isPublic).mergeSort fun a b => decide (a ≤ b)

-- The variable that is taken for the application: `app`, else `api`, else the first public one that is bound to
-- one.
def appName? (bindings : Namespace) : Option String :=
  (["app", "api"] ++ bindings.publicNames).find? fun name => (bindings.app? name).isSome

end Namespace
end RestDispatch
