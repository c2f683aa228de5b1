import RestDispatch.Annotation.Builtin
import RestDispatch.Annotation.Sharing

set_option autoImplicit false

/-!
What things make of arguments. A method of a shared thing gives back what it gives back of the thing as it is, and
leaves it changed.
-/
namespace RestDispatch.Meaning

def notCallable (m : Meaning) : Fault := .typeError s!"'{m.kindName}' object is not callable"

def checkDirect (callee : Meaning) (arguments : CallArguments) : Except Fault Unit :=
  match callee with
  | .method (.choice _ _) _ => .ok ()
  | .method (.form _) _ => .ok ()
  | .method self name => checkArity false self name arguments
  | _ => .ok ()

def leave (arguments : CallArguments) : Except Fault Meaning := do
  let form : FunctionForm := { normal := ["self", "code"] }
  let given := { arguments with byPosition := Meaning.nothing :: arguments.byPosition }
  let own ← bindArguments "Quitter.__call__" form [("code", .nothing)] given
  let code := (own.lookup "code").getD .nothing
  let text := Text.held (← code.plain)
  let exit := match code with
    | .nothing => ExitRequest.silent
    | .int n => .code n
    | .truth b => .flag b
    | _ => .saying text
  .error { Fault.of "SystemExit" text with exit := some exit }

def callPlain (surroundings : Surroundings) (callee : Meaning) (arguments : CallArguments) : Evaluation Meaning :=
  match callee with
  | .model m => recordOf m arguments
  | .cls "map" => mapOf surroundings arguments
  | .cls "filter" => filterOf surroundings arguments
  | .cls path => construct path arguments
  | .function name => callFunction surroundings name arguments
  | .method (.list items) "sort" => do
    let _ ← sortOf surroundings items arguments
    return .nothing
  | .method self name => callMethod self name arguments
  | .member kind "list" "sort" => do
    match arguments.byPosition with
    | .list items :: rest =>
      let _ ← sortOf surroundings items { arguments with byPosition := rest }
      return .nothing
    | _ => callMember kind "list" "sort" arguments
  | .member kind owner name => callMember kind owner name arguments
  | .container name _ => construct name arguments
  | .unpacked name _ => construct name arguments
  | .form _ => throw (notInstantiated callee)
  | .choice false _ => throw (notInstantiated callee)
  | .constant _ "Quitter" => leave arguments
  | .constant _ "_Helper" => return .nothing
  | callee => throw (notCallable callee)

/-! Calls that see shared things. -/

def callOfShared (surroundings : Surroundings) (place : Nat) (name : String) (arguments : CallArguments)
    (plainly : Meaning → CallArguments → Evaluation Meaning) : Evaluation Meaning := do
  let self := Meaning.shared place
  match ← self.contentOf, name with
  | .list items, "sort" =>
    let items ← sortOf surroundings items arguments
    modify (·.put place (.list items))
    return .nothing
  | content, name =>
    let arguments ← keptArguments arguments
    let whole ← self.seen
    let found ← plainly (if handlesParts content name then content else whole)
      (← seenArguments (.method whole name) arguments)
    let scope ← get
    match if found matches .notImplemented then none else change? scope content name arguments with
    | some change =>
      modify (·.put place change.left)
      arguments.byPosition.forM (useUp elementLimit)
      return if givesItself name then self else change.given.getD found
    | none =>
      arguments.byPosition.forM (useUp elementLimit)
      return found

def callShared (surroundings : Surroundings) (callee : Meaning) (arguments : CallArguments) : Evaluation Meaning := do
  let plainly := fun (callee : Meaning) (arguments : CallArguments) => do
    callPlain surroundings callee (← seenArguments callee arguments)
  let setting := fun (place : Nat) (name : String) (rest : List Meaning) =>
    callOfShared surroundings place name { byPosition := rest } fun whole seen =>
      callPlain surroundings callee { byPosition := whole :: seen.byPosition }
  match callee, arguments.byPosition with
  | .method (.shared place) name, _ =>
    callOfShared surroundings place name arguments fun self seen => callPlain surroundings (.method self name) seen
  | .member kind owner name, .shared place :: rest =>
    callOfShared surroundings place name { arguments with byPosition := rest } fun self seen =>
      callPlain surroundings (.member kind owner name) { seen with byPosition := self :: seen.byPosition }
  | .method (.cls "dict") "fromkeys", [keys, m] => do
    callPlain surroundings callee { arguments with byPosition := [← keys.seen, ← m.kept] }
  | .function "setattr", .shared place :: rest => setting place "__setattr__" rest
  | .function "delattr", .shared place :: rest => setting place "__delattr__" rest
  | .function "getattr", [m, .text name] => attributeFound m (Text.held name)
  | .function "next", .shared place :: _ =>
    let self := Meaning.shared place
    let found ← plainly callee arguments
    match ← self.contentOf with
    | .stream kind (m :: rest) failure =>
      modify (·.put place (.stream kind rest failure))
      return m
    | _ => return found
  | .function "iter", [m] => if isSharedStream (← get) m then return m else plainly callee arguments
  | .cls "zip", given =>
    let found ← plainly callee arguments
    if given.any (isSharedStream (← get)) then
      return .stream "zip" ((← sharedRounds given).map .tuple) none
    else return found
  | .cls "map", run :: given =>
    if given.any (isSharedStream (← get)) && !given.isEmpty then
      let lists := (← sharedRounds given)
      streamOf "map" (lists.map fun items => do return some (← surroundings.call run items))
    else plainly callee arguments
  | callee, given =>
    let found ← plainly (← callee.seen) arguments
    let scope ← get
    given.forM fun m => useUp (askedFor callee (scope.elementsOf m)) m
    return found

end RestDispatch.Meaning
