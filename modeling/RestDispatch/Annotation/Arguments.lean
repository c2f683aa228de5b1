import RestDispatch.Annotation.Data

set_option autoImplicit false

/-!
Arguments of calls, and how the names of a function are bound to them.
-/
namespace RestDispatch

structure CallArguments where
  byPosition : List Meaning := []
  byName : Bindings := []

namespace CallArguments

def count (arguments : CallArguments) : Nat := arguments.byPosition.length

def refuseNames (arguments : CallArguments) (call : String) : Except Fault Unit :=
  if arguments.byName.isEmpty then .ok () else .error (.typeError s!"{call}() takes no keyword arguments")

def allowNames (arguments : CallArguments) (call : String) (names : List String) : Except Fault Unit :=
  match arguments.byName.find? fun (name, _) => name ∉ names with
  | some (name, _) => .error (.typeError s!"'{name}' is an invalid keyword argument for {call}()")
  | none => .ok ()

def counted (n : Nat) : String := if n = 1 then "1 argument" else s!"{n} arguments"

def between (arguments : CallArguments) (call : String) (low high : Nat) : Except Fault (List Meaning) := do
  arguments.refuseNames call
  let n := arguments.count
  if n < low then
    let least := if low = high then counted low else "at least " ++ counted low
    .error (.typeError s!"{call} expected {least}, got {n}")
  else if high < n then
    let most := if low = high then counted high else "at most " ++ counted high
    .error (.typeError s!"{call} expected {most}, got {n}")
  else .ok arguments.byPosition

def one (arguments : CallArguments) (call : String) : Except Fault Meaning := do
  arguments.refuseNames call
  match arguments.byPosition with
  | [m] => .ok m
  | ms => .error (.typeError s!"{call}() takes exactly one argument ({ms.length} given)")

def optional (arguments : CallArguments) (call : String) : Except Fault (Option Meaning) :=
  (arguments.between call 0 1).map List.head?

def at? (arguments : CallArguments) (place : Nat) (name : String) : Option Meaning :=
  arguments.byPosition[place]?.or (arguments.byName.lookup name)

end CallArguments

-- The arguments of a function by their places: first those without names, then those that have names too, and last
-- those that have no places. The first `required` of them have to be given.
structure Places where
  call : String
  unnamed : Nat := 0
  names : List String := []
  nameOnly : List String := []
  required : Nat := 0

namespace Places

def wrongCount (places : Places) (wanted given : String) : Fault :=
  .typeError s!"{places.call}() takes {wanted} ({given} given)"

def checkCount (places : Places) (arguments : CallArguments) : Except Fault Unit := do
  let positional := places.unnamed + places.names.length
  let total := positional + places.nameOnly.length
  let plural := fun (n : Nat) => if n = 1 then "" else "s"
  let bound := fun (word : String) (isOpen : Bool) (n : Nat) =>
    (if isOpen then word else "exactly") ++ s!" {n} positional argument{plural n}"
  let given := arguments.count
  let all := given + arguments.byName.length
  if total < all then
    let kind := if given = 0 then "keyword " else ""
    .error (places.wrongCount s!"at most {total} {kind}argument{plural total}" (toString all))
  if positional < given then
    if positional = 0 then .error (.typeError s!"{places.call}() takes no positional arguments")
    else .error (places.wrongCount (bound "at most" (places.required < positional) positional) (toString given))
  let least := min places.required places.unnamed
  if given < least then .error (places.wrongCount (bound "at least" (least < positional) least) (toString given))
  places.names.zipIdx.forM fun (name, index) =>
    let place := places.unnamed + index
    if place < places.required && (arguments.at? place name).isNone then
      .error (.typeError s!"{places.call}() missing required argument '{name}' (pos {place + 1})")
    else .ok ()

def checkNames (places : Places) (arguments : CallArguments) : Except Fault Unit := do
  places.names.zipIdx.forM fun (name, index) =>
    let place := places.unnamed + index
    if place < arguments.count && (arguments.byName.lookup name).isSome then
      .error (.typeError s!"argument for {places.call}() given by name ('{name}') and position ({place + 1})")
    else .ok ()
  arguments.allowNames places.call (places.names ++ places.nameOnly)

def check (places : Places) (arguments : CallArguments) : Except Fault Unit := do
  places.checkCount arguments
  places.checkNames arguments

end Places

namespace Meaning

def refusedKind (m : Meaning) : String := if m matches .nothing then "None" else m.kindName

def badArgument (call label wanted : String) (m : Meaning) : Fault :=
  .typeError s!"{call}() {label} must be {wanted}, not {m.refusedKind}"

def textGiven (call label : String) (m : Meaning) : Except Fault (List Letter) :=
  match m with
  | .text t => .ok t
  | m => .error (badArgument call label "str" m)

def positionals (n : Nat) (exact : Bool) : String :=
  s!"{n} positional argument" ++ (if n = 1 && exact then "" else "s")

def listed (names : List String) : String :=
  match names.map fun name => "'" ++ name ++ "'" with
  | [] => ""
  | [one] => one
  | [one, two] => one ++ " and " ++ two
  | quoted => ", ".intercalate quoted.dropLast ++ ", and " ++ (quoted.getLast?).getD ""

def missingArguments (call kind : String) (names : List String) : Fault :=
  let plural := if names.length = 1 then "" else "s"
  .typeError s!"{call}() missing {names.length} required {kind} argument{plural}: {listed names}"

def tooManyArguments (call : String) (form : FunctionForm) (defaults : Bindings) (arguments : CallArguments) : Fault :=
  let names := form.byPosition ++ form.normal
  let optional := (names.filter fun name => (defaults.lookup name).isSome).length
  let taken := if optional = 0 then positionals names.length true
    else s!"from {names.length - optional} to " ++ positionals names.length false
  let keyword := (form.byName.filter fun name => (arguments.byName.lookup name).isSome).length
  let given := arguments.count
  let plural := fun (n : Nat) => if n = 1 then "" else "s"
  let shown :=
    if keyword = 0 then toString given
    else s!"{given} positional argument{plural given} (and {keyword} keyword-only argument{plural keyword})"
  let verb := if given = 1 && keyword = 0 then "was" else "were"
  .typeError s!"{call}() takes {taken} but {shown} {verb} given"

def refusedName (call : String) (form : FunctionForm) (bound : List String) (arguments : CallArguments) :
    Except Fault Unit :=
  arguments.byName.forM fun (name, _) =>
    if name ∈ form.normal ++ form.byName then
      if name ∈ bound then .error (.typeError s!"{call}() got multiple values for argument '{name}'") else .ok ()
    else if form.keywords.isSome then .ok ()
    else
      match form.byPosition.filter fun taken => (arguments.byName.lookup taken).isSome with
      | [] => .error (.typeError s!"{call}() got an unexpected keyword argument '{name}'")
      | names =>
        let joined := ", ".intercalate names
        .error (.typeError
          s!"{call}() got some positional-only arguments passed as keyword arguments: '{joined}'")

def bindArguments (call : String) (form : FunctionForm) (defaults : Bindings) (arguments : CallArguments) :
    Except Fault Bindings := do
  let names := form.byPosition ++ form.normal
  let placed := names.zip arguments.byPosition
  refusedName call form (placed.map (·.1)) arguments
  if names.length < arguments.count && form.rest.isNone then .error (tooManyArguments call form defaults arguments)
  let value? := fun (name : String) =>
    (placed.lookup name).or
      ((if name ∈ form.byPosition then none else arguments.byName.lookup name).or (defaults.lookup name))
  let missing := fun (names : List String) => names.filter fun name => (value? name).isNone
  if !(missing names).isEmpty then .error (missingArguments call "positional" (missing names))
  if !(missing form.byName).isEmpty then .error (missingArguments call "keyword-only" (missing form.byName))
  let own := (names ++ form.byName).filterMap fun name => (value? name).map (name, ·)
  let rest := form.rest.toList.map fun name => (name, Meaning.tuple (arguments.byPosition.drop names.length))
  let others := arguments.byName.filter fun (name, _) => name ∉ form.normal ++ form.byName
  let keywords := form.keywords.toList.map fun name =>
    (name, Meaning.dict (others.map fun (name, value) => (ofString name, value)))
  .ok (own ++ rest ++ keywords)

def bindPrototype (owner : String) (prototype : Prototype) (arguments : CallArguments) : Except Fault Bindings :=
  bindArguments s!"{owner}.{prototype.name}" prototype.form
    (prototype.defaults.map fun (name, e) => (name, ofConstant e)) arguments

end Meaning
end RestDispatch
