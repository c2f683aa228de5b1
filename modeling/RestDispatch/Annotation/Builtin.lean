import RestDispatch.Annotation.Method
import RestDispatch.Annotation.Names

set_option autoImplicit false

/-!
Functions that are known everywhere. Some call what they are given, and one looks into a text; how that is done is
left open.
-/
namespace RestDispatch

-- How things are called, and what expressions stand for, while a function runs. Names of its own may be given to an
-- expression; it knows no others then but those that are known everywhere.
structure Surroundings where
  call : Meaning → List Meaning → Meaning.Evaluation Meaning
  evaluate : Option Bindings → Expression → Meaning.Evaluation Meaning

namespace Meaning

/-! Elements. -/

def sumOf (arguments : CallArguments) : Except Fault Meaning := do
  Places.check { call := "sum", unnamed := 1, names := ["start"], required := 1 } arguments
  let items ← ((arguments.byPosition.head?).getD .nothing).elements
  let refuse := fun (kind instead : String) => Except.error (Fault.typeError s!"sum() can't sum {kind} [use {instead}.join(seq) instead]")
  match (arguments.at? 1 "start").getD (.int 0) with
  | .text _ => refuse "strings" "''"
  | .bytes true _ => refuse "bytes" "b''"
  | .bytes false _ => refuse "bytearray" "b''"
  | start => items.foldlM (binary .add) start

def keyed (surroundings : Surroundings) (arguments : CallArguments) (items : List Meaning) :
    Evaluation (List (Meaning × Meaning)) :=
  match (arguments.byName.lookup "key").getD .nothing with
  | .nothing => items.mapM fun m => do return (← m.seen, m)
  | key => items.mapM fun m => do return (← (← surroundings.call key [m]).seen, m)

def insertKeyed (test : OrderTest) (entry : Meaning × Meaning) :
    List (Meaning × Meaning) → Except Fault (List (Meaning × Meaning))
  | [] => .ok [entry]
  | other :: rest => do
    if ← ordered test entry.1 other.1 then .ok (other :: (← insertKeyed test entry rest))
    else .ok (entry :: other :: rest)

def inOrder (surroundings : Surroundings) (arguments : CallArguments) (items : List Meaning) :
    Evaluation (List Meaning) := do
  Places.check { call := "sort", nameOnly := ["key", "reverse"] } { arguments with byPosition := [] }
  let backwards := (← ((arguments.byName.lookup "reverse").getD (.int 0)).smallIndex) ≠ 0
  let entries ← keyed surroundings arguments (if backwards then items.reverse else items)
  let found ← (entries.foldlM (fun kept entry => insertKeyed .less entry kept) [] : Except Fault _)
  return (if backwards then found else found.reverse).map (·.2)

def sortedOf (surroundings : Surroundings) (arguments : CallArguments) : Evaluation Meaning := do
  let own ← { arguments with byName := [] }.between "sorted" 1 1
  let items ← ((own.head?).getD .nothing).elements
  return .list (← inOrder surroundings arguments items)

def sortOf (surroundings : Surroundings) (items : List Meaning) (arguments : CallArguments) :
    Evaluation (List Meaning) :=
  let given := arguments.count + arguments.byName.length
  if 2 < given then
    let kind := if arguments.count = 0 then "keyword " else ""
    throw (.typeError s!"sort() takes at most 2 {kind}arguments ({given} given)")
  else if arguments.count ≠ 0 then throw (.typeError "sort() takes no positional arguments")
  else inOrder surroundings arguments items

def extreme (surroundings : Surroundings) (call : String) (test : OrderTest) (arguments : CallArguments) :
    Evaluation Meaning := do
  if arguments.count ≠ 0 then arguments.allowNames call ["key", "default"]
  let items ← match arguments.byPosition with
    | [] => throw (.typeError s!"{call} expected at least 1 argument, got 0")
    | [m] => m.elements
    | ms =>
      if (arguments.byName.lookup "default").isSome then
        throw (.typeError s!"Cannot specify a default for {call}() with multiple positional arguments")
      else pure ms
  let entries ← keyed surroundings arguments items
  match entries, arguments.byName.lookup "default" with
  | [], some default => return default
  | [], none => throw (.valueError s!"{call}() arg is an empty sequence")
  | first :: rest, _ =>
    let better := fun (best entry : Meaning × Meaning) => do
      Except.ok (if ← ordered test entry.1 best.1 then entry else best)
    return (← (rest.foldlM better first : Except Fault _)).2

-- The elements up to the first one that decides. A stream is not asked for more.
def anyElement (test : Meaning → Bool) (m : Meaning) : Except Fault Bool :=
  match m with
  | .stream _ items failure =>
    if items.any test then .ok true
    else
      match failure with
      | some failure => .error failure
      | none => .ok false
  | m => do .ok ((← m.elements).any test)

def streamOf (kind : String) (makers : List (Evaluation (Option Meaning))) : Evaluation Meaning := do
  let (made, failure) ← makers.foldlM (fun (made, failure) maker => do
    if failure.isSome then return (made, failure)
    match maker.run (← get) with
    | .ok (found, names) =>
      modify fun _ => names
      return (found.toList ++ made, none)
    | .error failure => return (made, some failure)) (([], none) : List Meaning × Option Fault)
  return .stream kind made.reverse failure

def mapOf (surroundings : Surroundings) (arguments : CallArguments) : Evaluation Meaning := do
  arguments.refuseNames "map"
  match arguments.byPosition with
  | run :: first :: rest =>
    let lists ← ((first :: rest).mapM elements : Except Fault _)
    streamOf "map" ((transposed lists).map fun items => do return some (← surroundings.call run items))
  | _ => throw (.typeError "map() must have at least two arguments.")

def filterOf (surroundings : Surroundings) (arguments : CallArguments) : Evaluation Meaning := do
  match ← arguments.between "filter" 2 2 with
  | [run, m] =>
    streamOf "filter" ((← m.elements).map fun item => do
      let found ← if run matches .nothing then pure item else surroundings.call run [item]
      return if (← found.contentOf).truthy then some item else none)
  | _ => return .nothing

def repetitionLimit : Nat := 10000

def repeated (surroundings : Surroundings) (run last : Meaning) : Nat → List Meaning → Evaluation Meaning
  | 0, found => return .stream "callable_iterator" found.reverse none
  | fuel + 1, found => do
    match (surroundings.call run []).run (← get) with
    | .error failure =>
      return .stream "callable_iterator" found.reverse
        (if failure.kind = "StopIteration" then none else some failure)
    | .ok (m, names) =>
      modify fun _ => names
      if (← m.seen).same last then return .stream "callable_iterator" found.reverse none
      repeated surroundings run last fuel (m :: found)

def iterOf (surroundings : Surroundings) (arguments : CallArguments) : Evaluation Meaning := do
  match ← arguments.between "iter" 1 2 with
  | [m] => m.streamFrom
  | run :: last :: _ =>
    if run.isCallable then repeated surroundings run last repetitionLimit []
    else throw (.typeError "iter(v, w): v must be callable")
  | [] => return .nothing

/-! Texts and attributes. -/

def chrOf (m : Meaning) : Except Fault Meaning := do
  let n ← m.smallIndex
  if n < 0 || 0x10FFFF < n then .error (.valueError "chr() arg not in range(0x110000)")
  else .ok (.text [Text.letterOf n.toNat])

def ordOf (m : Meaning) : Except Fault Meaning :=
  match m with
  | .text [letter] => .ok (.int (codeOf letter))
  | .bytes _ [byte] => .ok (.int byte.toNat)
  | .text t => wrongLength t.length
  | .bytes _ content => wrongLength content.length
  | m => .error (.typeError s!"ord() expected string of length 1, but {m.kindName} found")
where
  wrongLength (n : Nat) : Except Fault Meaning :=
    .error (.typeError s!"ord() expected a character, but string of length {n} found")

def attributeIfAny (m : Meaning) (name : String) : Except Fault (Option Meaning) :=
  match m.attributeOf name with
  | .ok found => .ok (some found)
  | .error failure => if failure.kind = "AttributeError" then .ok none else .error failure

def getattrOf (arguments : CallArguments) : Except Fault Meaning := do
  match ← arguments.between "getattr" 2 3 with
  | [m, name] => do m.attributeOf (← attributeName name)
  | m :: name :: default => do
    .ok ((← attributeIfAny m (← attributeName name)).getD (default.head?.getD .nothing))
  | _ => .ok .nothing

def hasattrOf (arguments : CallArguments) : Except Fault Meaning := do
  match ← arguments.between "hasattr" 2 2 with
  | [m, name] => do .ok (.truth (← attributeIfAny m (← attributeName name)).isSome)
  | _ => .ok .nothing

def formatOf (arguments : CallArguments) : Except Fault Meaning := do
  match ← arguments.between "format" 1 2 with
  | [m] => do .ok (.text (← m.formatted []))
  | [m, .text specification] => do .ok (.text (← m.formatted specification))
  | [_, m] => .error (.typeError s!"format() argument 2 must be str, not {m.kindName}")
  | _ => .ok .nothing

def wrongSyntax (text : String) : Fault := .of "SyntaxError" text

def sourcePart : String := "co_source"

-- The characters of a text or of bytes that are looked into, or of the text that code has been made from. Blanks at
-- the start do not count.
def sourceGiven (call : String) (m : Meaning) : Except Fault (List Char) := do
  let t ← match (m.parts.lookup sourcePart).getD m, m.bytesIn? with
    | .text t, _ => .ok t
    | _, some content =>
      match Text.Utf8.decodeStrict? content with
      | some cs => .ok (Text.letters cs)
      | none => .error (wrongSyntax "(unicode error) 'utf-8' codec can't decode bytes")
    | _, none => .error (.typeError s!"{call}() arg 1 must be a string, bytes or code object")
  let cs ← (sourceOf t).mapError fun failure =>
    if failure.kind = "ValueError" then wrongSyntax failure.text else failure
  .ok (cs.dropWhile (· ∈ [' ', '\t']))

def parsed (file : String) (cs : List Char) : Except Fault Expression :=
  let line := if cs.isEmpty then 0 else 1
  match Grammar.read? cs with
  | some e => .ok e
  | none => .error (wrongSyntax s!"invalid syntax ({file}, line {line})")

def evalOf (surroundings : Surroundings) (arguments : CallArguments) : Evaluation Meaning := do
  let given ← arguments.between "eval" 1 3
  let own ← match (given[2]? : Option Meaning) with
    | none => pure []
    | some .nothing => pure []
    | some (.dict entries) => pure (bindingsOf entries)
    | some _ => throw (.typeError "locals must be a mapping")
  let names ← match (given[1]? : Option Meaning) with
    | none => pure none
    | some .nothing => pure none
    | some (.dict entries) => pure (some (bindingsOf entries))
    | some _ =>
      throw (.typeError (
        if own.isEmpty then "globals must be a dict" else "globals must be a real dict; try eval(expr, {}, mapping)"))
  let e ← parsed "<string>" (← sourceGiven "eval" ((given.head?).getD .nothing))
  surroundings.evaluate (if own.isEmpty then names else some (own ++ names.getD [])) e

def execOf (surroundings : Surroundings) (arguments : CallArguments) : Evaluation Meaning := do
  Places.check { call := "exec", unnamed := 3, nameOnly := ["closure"], required := 1 } arguments
  let names := (arguments.byPosition[1]?).getD .nothing
  let own := (arguments.byPosition[2]?).getD .nothing
  if !(names matches .nothing || names matches .dict _) then
    throw (.typeError s!"exec() globals must be a dict, not {names.kindName}")
  if !(own matches .nothing || own matches .dict _) then
    throw (.typeError s!"locals must be a mapping or None, not {own.kindName}")
  let cs ← sourceGiven "exec" ((arguments.byPosition.head?).getD .nothing)
  if (arguments.byName.lookup "closure").any (! · matches .nothing) then
    throw (.typeError "closure can only be used when source is a code object")
  let known := fun (m : Meaning) =>
    match m with
    | .dict entries => some (bindingsOf entries)
    | _ => none
  if let some e := Grammar.read? cs then
    let _ ← surroundings.evaluate (((known own).or (known names))) e
  return .nothing

def printOf (arguments : CallArguments) : Except Fault Meaning := do
  arguments.allowNames "print" ["sep", "end", "file", "flush"]
  ["sep", "end"].forM fun name =>
    match (arguments.byName.lookup name).getD .nothing with
    | .nothing => .ok ()
    | .text _ => .ok ()
    | m => .error (.typeError s!"{name} must be None or a string, not {m.kindName}")
  match (arguments.byName.lookup "file").getD .nothing with
  | .nothing => .ok .nothing
  | m => .error (m.noAttribute "write")

def importOf (arguments : CallArguments) : Except Fault Meaning := do
  Places.check { call := "__import__", names := ["name", "globals", "locals", "fromlist", "level"], required := 1 } arguments
  match (arguments.at? 0 "name").getD .nothing with
  | .text [] => .error (.valueError "Empty module name")
  | .text t =>
    let home := t.takeWhile (· ≠ .char '.')
    .error (.of "ModuleNotFoundError" ("No module named " ++ Text.quotedLetters home))
  | _ => .error (.typeError "module name must be a string")

def compileOf (arguments : CallArguments) : Except Fault Meaning := do
  Places.check { call := "compile", names := ["source", "filename", "mode", "flags", "dont_inherit", "optimize"], nameOnly := ["_feature_version"], required := 3 } arguments
  let file ← match (arguments.at? 1 "filename").getD .nothing with
    | .text t => .ok t
    | m => .error (.typeError s!"expected str, bytes or os.PathLike object, not {m.kindName}")
  let mode ← textGiven "compile" "argument 'mode'" ((arguments.at? 2 "mode").getD .nothing)
  if Text.held mode ∉ ["exec", "eval", "single"] then
    .error (.valueError "compile() mode must be 'exec', 'eval' or 'single'")
  let m := (arguments.at? 0 "source").getD .nothing
  if !(m matches .text _) && m.bytesIn?.isNone then
    .error (.typeError "compile() arg 1 must be a string, bytes or AST object")
  let source ← sourceGiven "compile" m
  if Text.held mode = "eval" then
    let _ ← parsed (Text.held file) source
  let label := s!"<code object <module> {somewhere}, file " ++ Text.quoted (Text.held file) ++ ", line 1>"
  .ok (.thing label "code"
    [(sourcePart, .text (Text.letters source)), ("co_filename", .text file), ("co_name", ofString "<module>")])

-- What opening a file gives. There are no files.
def openOf (arguments : CallArguments) : Except Fault Meaning := do
  let names := ["file", "mode", "buffering", "encoding", "errors", "newline", "closefd", "opener"]
  Places.check { call := "open", names, required := 1 } arguments
  let mode ← match (arguments.at? 1 "mode").getD (ofString "r") with
    | .text t => .ok t
    | m => .error (badArgument "open" "argument 'mode'" "str" m)
  let _ ← ((arguments.at? 2 "buffering").getD (.int (-1))).smallIndex
  ["encoding", "errors", "newline"].zipIdx.forM fun (name, place) =>
    match (arguments.at? (place + 3) name).getD .nothing with
    | .nothing => .ok ()
    | .text _ => .ok ()
    | m => .error (badArgument "open" s!"argument '{name}'" "str or None" m)
  let m := (arguments.at? 0 "file").getD .nothing
  if !(m matches .text _) && m.bytesIn?.isNone && m.integer?.isNone then
    .error (.typeError s!"expected str, bytes or os.PathLike object, not {m.kindName}")
  if mode.any fun letter => letter ∉ Text.letters "rwxabt+".toList then
    .error (.valueError ("invalid mode: " ++ Text.quotedLetters mode))
  match m, m.integer? with
  | .text t, _ =>
    if t.contains (.char (Char.ofNat 0)) then .error (.valueError "embedded null byte")
    else .error (.of "FileNotFoundError" ("[Errno 2] No such file or directory: " ++ Text.quotedLetters t))
  | _, some n =>
    if n < 0 then .error (.valueError "negative file descriptor")
    else .error (.of "OSError" "[Errno 9] Bad file descriptor")
  | m, none => do .error (.of "FileNotFoundError" ("[Errno 2] No such file or directory: " ++ (← m.printed)))

def varsOf (arguments : CallArguments) : Except Fault Meaning := do
  match ← arguments.between "vars" 0 1 with
  | [.record _ _ fields] => .ok (.dict (fields.map fun (name, value) => (ofString name, value)))
  | [m] =>
    if m.isClass || m matches .container _ _ then .ok .nothing
    else if m.keepsAttributes then .ok (.dict [])
    else .error (.typeError "vars() argument must have __dict__ attribute")
  | _ => .ok .nothing

def dirOf (arguments : CallArguments) : Except Fault Meaning := do
  match ← arguments.between "dir" 0 1 with
  | [m] =>
    let (home, own) := match m with
      | .cls path => (lastName path, [])
      | .container name _ => (name, containerNames)
      | .unpacked name _ => (name, containerNames)
      | m => (lastName m.kindName, [])
    let names := (WellKnown.lineage home).flatMap MemberKind.ownNames ++ own ++ ["__doc__"]
    .ok (.list ((names.eraseDups.mergeSort fun a b => a ≤ b).map ofString))
  | _ => .ok (.list [])

/-! Calls. -/

def simple? (name : String) : Option (Meaning → Except Fault Meaning) :=
  match name with
  | "abs" => some absOf
  | "all" => some fun m => (anyElement (!truthy ·) m).map fun found => .truth !found
  | "any" => some fun m => (anyElement truthy m).map .truth
  | "ascii" => some fun m => m.basicLabel.map .text
  | "bin" => some (basedText 'b')
  | "oct" => some (basedText 'o')
  | "hex" => some (basedText 'x')
  | "callable" => some fun m => .ok (.truth m.isCallable)
  | "chr" => some chrOf
  | "ord" => some ordOf
  | "hash" => some hashOf
  | "id" => some fun _ => .ok (.int 0)
  | "len" => some lengthOf
  | "repr" => some fun m => m.printed.map ofString
  | "aiter" => some fun m => .error (.typeError s!"'{m.kindName}' object is not an async iterable")
  | "anext" => some fun m => .error (.typeError s!"'{m.kindName}' object is not an async iterator")
  | _ => none

def callFunction (surroundings : Surroundings) (name : String) (arguments : CallArguments) :
    Evaluation Meaning :=
  match simple? name with
  | some run => do run (← arguments.one name)
  | none =>
    match name with
    | "divmod" => divmodOf arguments
    | "eval" => evalOf surroundings arguments
    | "format" => formatOf arguments
    | "getattr" => getattrOf arguments
    | "hasattr" => hasattrOf arguments
    | "isinstance" => do
      match ← arguments.between name 2 2 with
      | [m, wanted] => return .truth (← isMeant instanceTest m.classNames wanted)
      | _ => return .nothing
    | "issubclass" => do
      match ← arguments.between name 2 2 with
      | [m, wanted] =>
        if m.isClass then return .truth (← isMeant subclassTest m.ownNames wanted)
        else throw (.typeError "issubclass() arg 1 must be a class")
      | _ => return .nothing
    | "iter" => iterOf surroundings arguments
    | "max" => extreme surroundings name .greater arguments
    | "min" => extreme surroundings name .less arguments
    | "next" => nextOf arguments
    | "pow" => powOf arguments
    | "round" => roundOf arguments
    | "sorted" => sortedOf surroundings arguments
    | "sum" => sumOf arguments
    | "print" => printOf arguments
    | "setattr" => do
      match ← arguments.between name 3 3 with
      | m :: key :: _ => changeAttribute false m (← attributeName key)
      | _ => return .nothing
    | "delattr" => do
      match ← arguments.between name 2 2 with
      | m :: key :: _ => changeAttribute true m (← attributeName key)
      | _ => return .nothing
    | "open" => openOf arguments
    | "vars" => varsOf arguments
    | "dir" => dirOf arguments
    | "input" => do
      let _ ← arguments.between name 0 1
      return .nothing
    | "compile" => compileOf arguments
    | "exec" => execOf surroundings arguments
    | "__import__" => importOf arguments
    | name =>
      if name ∈ ["globals", "locals"] && arguments.count ≠ 0 then
        throw (.typeError s!"{name}() takes no arguments ({arguments.count} given)")
      else return .nothing

end Meaning
end RestDispatch
