import RestDispatch.Annotation.Arity
import RestDispatch.Annotation.NamedFunction

set_option autoImplicit false

/-!
Calling the methods of things and of classes: what they give back. Their arguments are counted before anything is done
with them.
-/
namespace RestDispatch.Meaning

/-! Functions that belong to classes. -/

-- A thing of a class as it is before it is filled; the class that is asked for has to come from the one whose
-- function it is.
def madeNew (path : String) (arguments : CallArguments) : Except Fault Meaning :=
  let call := s!"{path}.__new__"
  match arguments.byPosition with
  | [] => .error (.typeError s!"{call}(): not enough arguments")
  | m :: rest =>
    match m with
    | .cls found =>
      let maker := fun (path : String) => (memberOf? path "__new__").map (·.2)
      if path ∉ WellKnown.lineage found then
        .error (.typeError s!"{call}({found}): {found} is not a subtype of {path}")
      else if maker found ≠ maker path && "BaseException" ∉ WellKnown.lineage path then
        .error (.typeError s!"{call}({found}) is not safe, use {(maker found).getD found}.__new__()")
      else if found ∈ ["list", "dict", "set", "bytearray"] then construct found {}
      else construct found { arguments with byPosition := rest }
    | m =>
      if m.isClass then .error (.typeError s!"{call}({m.labelText}): {m.labelText} is not a subtype of {path}")
      else .error (.typeError s!"{call}(X): X is not a type object ({m.kindName})")

def floatStorage (m : Meaning) : Except Fault Meaning :=
  match m with
  | .text t =>
    if Text.held t ∈ ["double", "float"] then .ok (ofString "IEEE, little-endian")
    else .error (.valueError "__getformat__() argument 1 must be 'double' or 'float'")
  | m => .error (.typeError s!"__getformat__() argument must be str, not {m.refusedKind}")

def classFunction? (path name : String) (arguments : CallArguments) : Option (Except Fault Meaning) :=
  match path, name, arguments.byPosition with
  | path, "__new__", _ => some (madeNew path arguments)
  | path, "__call__", _ => some (construct path arguments)
  | "dict", "fromkeys", m :: value =>
    some do dictOf ((← m.elements).map fun key => (key, value.head?.getD .nothing))
  | "int", "from_bytes", _ => some (intFromBytes arguments)
  | "bool", "from_bytes", _ => some do .ok (.truth (← intFromBytes arguments).truthy)
  | "float", "fromhex", m :: _ => some (floatFromHex m)
  | "float", "__getformat__", m :: _ => some (floatStorage m)
  | path, "fromhex", m :: _ =>
    some (match m with
      | .text t => (bytesOfHex 0 t).map (.bytes (path = "bytes"))
      | m => .error (.typeError s!"fromhex() argument must be str, not {m.refusedKind}"))
  | "str", "maketrans", given => some (tableOf given)
  | "bytes", "maketrans", given => some (byteTable given)
  | "bytearray", "maketrans", given => some (byteTable given)
  | path, "mro", _ => some (.ok (.list ((WellKnown.lineage path).map .cls)))
  | _, "__prepare__", _ => some (.ok (.dict []))
  | path, "__subclasses__", _ =>
    some (.ok (.list (((WellKnown.families.lookup path).getD []).map .cls)))
  | _, _, _ => none

/-! Methods. -/

def indicesOf (start stop step length : Meaning) : Except Fault Meaning := do
  let length ← length.index
  if length < 0 then .error (.valueError "length should not be negative")
  let (start, stop, step) ← sliceLimits length start stop step
  .ok (.tuple [.int start, .int stop, .int step])

def faultMethod? (m : Meaning) (name : String) (given : List Meaning) : Option (Except Fault Meaning) :=
  match name, given with
  | "with_traceback", .nothing :: _ => some (.ok m)
  | "with_traceback", _ => some (.error (.typeError "__traceback__ must be a traceback or None"))
  | "add_note", .text _ :: _ => some (.ok .nothing)
  | "add_note", note :: _ => some (.error (.typeError s!"note must be a str, not '{note.kindName}'"))
  | "__setstate__", state :: _ =>
    some (if state matches .dict _ || state matches .nothing then .ok .nothing
      else .error (.typeError "state is not a dictionary"))
  | _, _ => none

def thrown (m : Meaning) (rest : List Meaning) : Fault :=
  let isFault := fun (kind : String) => "BaseException" ∈ WellKnown.lineage kind
  let raised := fun (kind : String) (arguments : List Meaning) =>
    match (Meaning.fault kind arguments).plain with
    | .ok t => Fault.of kind (Text.held t)
    | .error failure => failure
  match m, rest with
  | .fault kind arguments, _ => raised kind arguments
  | .cls kind, rest =>
    if isFault kind then raised kind ((rest.take 1).filter (! · matches .nothing)) else notThrown (.cls "type")
  | m, _ => notThrown m.classOf
where
  notThrown (cls : Meaning) : Fault :=
    .typeError ("exceptions must be classes or instances deriving from BaseException, not " ++ cls.label?.getD WellKnown.root)

def streamMethod? (kind : String) (items : List Meaning) (name : String) (given : List Meaning) :
    Option (Except Fault Meaning) :=
  match name, given with
  | "isdisjoint", m :: _ => some do
    let others ← m.elements
    others.forM checkKey
    .ok (.truth (!others.any fun m => m.isAmong items))
  | "send", m :: _ =>
    some (if m matches .nothing then nextOf { byPosition := [.stream kind items none] }
      else .error (.typeError "can't send non-None value to a just-started generator"))
  | "close", _ => some (.ok .nothing)
  | "throw", m :: rest => some (.error (thrown m rest))
  | _, _ => none

def ownMethod? (m : Meaning) (name : String) (arguments : CallArguments) : Option (Except Fault Meaning) :=
  let given := arguments.byPosition
  match m with
  | .text t => textMethod? t name arguments
  | .bytes fixed content => bytesMethod? fixed content name arguments
  | .view fixed content => viewMethod? fixed content name arguments
  | .list items => listMethod? items name given
  | .tuple items => tupleMethod? items name given
  | .dict entries => dictMethod? entries name arguments
  | .set fixed items => setMethod? fixed items name given
  | .stream kind items none => streamMethod? kind items name given
  | .float x => floatMethod? x name
  | .complex re im => if name = "conjugate" then some (.ok (.complex re (-im))) else none
  | .slice start stop step =>
    if name = "indices" then given.head?.map (indicesOf start stop step) else none
  | .range start stop step => rangeMethod? start stop step name given
  | .fault _ _ => faultMethod? m name given
  | .cls path => classFunction? path name arguments
  | .model data =>
    if name = "mro" then some (.ok (.list [.model data, .model modelBase, .cls WellKnown.root])) else none
  | m => m.integer?.bind fun n => intMethod? n name arguments

-- Filling a thing anew. What is made at once takes anything.
def refilled (m : Meaning) (arguments : CallArguments) : Except Fault Meaning :=
  let fill := fun (path : String) => (construct path arguments).map fun _ => Meaning.nothing
  match m with
  | .list _ => fill "list"
  | .dict _ => fill "dict"
  | .set false _ => fill "set"
  | .bytes false _ => fill "bytearray"
  | .fault kind _ => (arguments.refuseNames kind).map fun _ => .nothing
  | .cls _ =>
    if arguments.count = 1 || arguments.count = 3 then .ok .nothing
    else .error (.typeError "type.__init__() takes 1 or 3 arguments")
  | _ => .ok .nothing

def methodMember? (m : Meaning) (name : String) : Option (MemberKind × String × String) :=
  match m with
  | .cls path =>
    match memberOf? path name with
    | some (.function, owner) => some (.function, owner, path)
    | _ => (memberOf? "type" name).map fun (kind, owner) => (kind, owner, lastName path)
  | m => (memberOf? ((m.classOf.label?).getD m.kindName) name).map fun (kind, owner) => (kind, owner, m.kindName)

-- Checks how many arguments a method is given. One that is called at once is named by the class that defines it.
def checkArity (isBound : Bool) (m : Meaning) (name : String) (arguments : CallArguments) : Except Fault Unit :=
  match if (m.prototype? name).isSome then none else methodMember? m name with
  | none => .ok ()
  | some (kind, owner, label) =>
    let label := if isBound || m.isClass then label else owner
    match Arity.of? kind owner name with
    | some arity => arity.check label name isBound arguments
    | none => .ok ()

def callMethod (m : Meaning) (name : String) (arguments : CallArguments) : Except Fault Meaning := do
  if let some (owner, prototype) := m.prototype? name then
    return ← callNamed owner prototype { arguments with byPosition := m :: arguments.byPosition }
  checkArity true m name arguments
  if name = "__init__" then refilled m arguments
  else
    let own := ownMethod? m name arguments
    let operator := (specialWord? name).bind fun word => special? m word arguments.byPosition
    (own.or operator).getD (.ok (.constant s!"<{m.kindName}.{name} {somewhere}>" "object"))

def rootMethod? (m : Meaning) (name : String) (given : List Meaning) : Option (Except Fault Meaning) :=
  match name, given with
  | "__eq__", [other] => some (.ok (if m.isIdentical other then .truth true else .notImplemented))
  | "__ne__", [other] => some do
    match ← compared .equal m other with
    | .truth b => .ok (.truth !b)
    | found => .ok found
  | "__hash__", [] => some (.ok (.int 0))
  | "__repr__", [] => some (.ok (ofString (placeLabel m.kindName)))
  | "__str__", [] => some (m.printed.map ofString)
  | "__format__", [specification] => some do
    if (← formatText specification).isEmpty then .ok (.text (← m.plain))
    else .error (.typeError s!"unsupported format string passed to {m.kindName}.__format__")
  | "__init__", [] => some (.ok .nothing)
  | "__init__", _ =>
    let owner := fun (name : String) => ((memberOf? m.kindName name).map (·.2)).getD WellKnown.root
    let refuse := fun (label : String) =>
      Except.error (Fault.typeError s!"{label}.__init__() takes exactly one argument (the instance to initialize)")
    some (if owner "__init__" ≠ WellKnown.root then refuse WellKnown.root
      else if owner "__new__" = WellKnown.root then refuse m.kindName
      else .ok .nothing)
  | name, [_] => if name ∈ ["__lt__", "__le__", "__gt__", "__ge__"] then some (.ok .notImplemented) else none
  | _, _ => none

def callMember (kind : MemberKind) (owner name : String) (arguments : CallArguments) : Except Fault Meaning :=
  match kind, arguments.byPosition with
  | .named, _ =>
    match Prototype.find? owner name with
    | some (home, prototype) => callNamed home prototype arguments
    | none => .ok .nothing
  | .stored, _ => .error (.typeError "'member_descriptor' object is not callable")
  | .attribute, _ => .error (.typeError "'getset_descriptor' object is not callable")
  | _, [] =>
    .error (.typeError (
      if kind = .slot then s!"descriptor '{name}' of '{owner}' object needs an argument"
      else s!"unbound method {owner}.{name}() needs an argument"))
  | _, m :: rest =>
    let cls := (m.classOf.label?).getD m.kindName
    if owner ∈ WellKnown.lineage cls || (owner = "type" && m.isClass) then do
      let rest := { arguments with byPosition := rest }
      if let some arity := Arity.of? kind owner name then arity.check owner name false rest
      let root := if owner = WellKnown.root then rootMethod? m name rest.byPosition else none
      root.getD (callMethod m name rest)
    else if kind = .slot then
      .error (.typeError s!"descriptor '{name}' requires a '{owner}' object but received a '{m.kindName}'")
    else .error (.typeError s!"descriptor '{name}' for '{owner}' objects doesn't apply to a '{m.kindName}' object")

end RestDispatch.Meaning
