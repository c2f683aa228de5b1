import RestDispatch.Annotation.ByteMethod

set_option autoImplicit false

/-!
What methods of lists, tuples, ranges, dictionaries and sets give back.
-/
namespace RestDispatch.Meaning

/-! Places. -/

def placeOf? (m : Meaning) (items : List Meaning) : Option Nat := items.findIdx? m.same

-- A limit of a search for a place, counted from the end if it is negative.
def searchLimit (length : Nat) (default : Nat) (m : Option Meaning) : Except Fault Nat :=
  match m with
  | none => .ok default
  | some m =>
    match m.integer? with
    | some n => .ok (min length (if n < 0 then n + length else n).toNat)
    | none => .error (.typeError "slice indices must be integers or have an __index__ method")

def sequenceMethod? (items : List Meaning) (name : String) (missing : Meaning → Except Fault String)
    (given : List Meaning) : Option (Except Fault Meaning) :=
  match name, given with
  | "count", m :: _ => some (.ok (.int (items.filter m.same).length))
  | "index", m :: limits => some do
    let start ← searchLimit items.length 0 limits[0]?
    let stop ← searchLimit items.length items.length limits[1]?
    match placeOf? m ((items.take stop).drop start) with
    | some place => .ok (.int (start + place : Nat))
    | none => .error (.valueError (← missing m))
  | _, _ => none

def tupleMethod? (items : List Meaning) (name : String) (given : List Meaning) : Option (Except Fault Meaning) :=
  sequenceMethod? items name (fun _ => .ok "tuple.index(x): x not in tuple") given

def rangeMethod? (start stop step : Int) (name : String) (given : List Meaning) : Option (Except Fault Meaning) :=
  let self := Meaning.range start stop step
  let placed := fun (m : Meaning) => do
    match m.integer? with
    | some n => .ok (if ← isIn m self then some ((n - start) / step) else none)
    | none => .ok ((placeOf? m (← self.elements)).map Int.ofNat)
  match name, given with
  | "count", m :: _ => some do .ok (.int (if (← placed m).isSome then 1 else 0))
  | "index", m :: _ => some do
    match ← placed m with
    | some place => .ok (.int place)
    | none => do
      let missing ←
        if m.integer?.isSome then (m.printed).map (· ++ " is not in range")
        else .ok "sequence.index(x): x not in sequence"
      .error (.valueError missing)
  | _, _ => none

/-! Lists. -/

def listMethod? (items : List Meaning) (name : String) (given : List Meaning) : Option (Except Fault Meaning) :=
  match name, given with
  | "append", _ => some (.ok .nothing)
  | "extend", m :: _ => some ((m.elements).map fun _ => .nothing)
  | "insert", place :: _ => some ((place.sizeIndex).map fun _ => .nothing)
  | "remove", m :: _ =>
    some (if m.isAmong items then .ok .nothing else .error (.valueError "list.remove(x): x not in list"))
  | "pop", given => some do
    let place ← ((given.head?).getD (.int (-1))).sizeIndex
    if items.isEmpty then .error (.of "IndexError" "pop from empty list")
    match atPlace? items place with
    | some m => .ok m
    | none => .error (.of "IndexError" "pop index out of range")
  | "copy", _ => some (.ok (.list items))
  | "clear", _ => some (.ok .nothing)
  | "reverse", _ => some (.ok .nothing)
  | name, given => sequenceMethod? items name (fun m => m.printed.map (· ++ " is not in list")) given

/-! Dictionaries. -/

def valueUnder (entries : List (Meaning × Meaning)) (key : Meaning) (default : Option Meaning) :
    Except Fault Meaning := do
  checkKey key
  match (lookUp? entries key).or default with
  | some m => .ok m
  | none => .error (.of "KeyError" (← key.printed))

def dictMethod? (entries : List (Meaning × Meaning)) (name : String) (arguments : CallArguments) :
    Option (Except Fault Meaning) :=
  match name, arguments.byPosition with
  | "keys", _ => some (.ok (.stream "dict_keys" (entries.map (·.1)) none))
  | "values", _ => some (.ok (.stream "dict_values" (entries.map (·.2)) none))
  | "items", _ => some (.ok (.stream "dict_items" (entries.map fun (key, value) => .tuple [key, value]) none))
  | "get", key :: default => some (valueUnder entries key (some (default.head?.getD .nothing)))
  | "setdefault", key :: default => some (valueUnder entries key (some (default.head?.getD .nothing)))
  | "pop", key :: default =>
    some (
      if entries.isEmpty then
        match default.head? with
        | some m => .ok m
        | none => do .error (.of "KeyError" (← key.printed))
      else valueUnder entries key default.head?)
  | "popitem", _ =>
    some (match entries.getLast? with
      | some (key, value) => .ok (.tuple [key, value])
      | none => .error (.of "KeyError" "'popitem(): dictionary is empty'"))
  | "copy", _ => some (.ok (.dict entries))
  | "clear", _ => some (.ok .nothing)
  | "update", _ => some ((dictGiven "update" arguments).map fun _ => .nothing)
  | _, _ => none

/-! Sets. -/

def setOperators : List (String × BinaryOperator) :=
  [("union", .or), ("intersection", .and), ("difference", .subtract), ("symmetric_difference", .xor)]

def asSet (m : Meaning) : Except Fault Meaning := do setOf false (← m.elements)

def setMethod? (fixed : Bool) (items : List Meaning) (name : String) (given : List Meaning) :
    Option (Except Fault Meaning) :=
  let self := Meaning.set fixed items
  match setOperators.lookup name with
  | some operator => some do (← given.mapM asSet).foldlM (binary operator) self
  | none =>
    match name, given with
    | "issubset", m :: _ => some do (ordered .lessOrEqual self (← m.asSet)).map .truth
    | "issuperset", m :: _ => some do (ordered .greaterOrEqual self (← m.asSet)).map .truth
    | "isdisjoint", m :: _ => some do
      let others ← m.elements
      others.forM checkKey
      .ok (.truth (!others.any fun m => m.isAmong items))
    | "copy", _ => some (.ok self)
    | "pop", _ =>
      some (match items with
        | m :: _ => .ok m
        | [] => .error (.of "KeyError" "'pop from an empty set'"))
    | "add", m :: _ => some ((checkKey m).map fun _ => .nothing)
    | "discard", m :: _ => some ((checkMember m).map fun _ => .nothing)
    | "remove", m :: _ => some do
      checkMember m
      if m.isAmong items then .ok .nothing else .error (.of "KeyError" (← m.printed))
    | "clear", _ => some (.ok .nothing)
    | name, given =>
      if name = "update" || name = "symmetric_difference_update" || name = "difference_update" ||
          name = "intersection_update" then
        some ((given.mapM asSet).map fun _ => .nothing)
      else none

/-! Bytes that are looked at. -/

def viewedBytes (content : Bytes) (arguments : CallArguments) : Except Fault Meaning := do
  Places.check { call := "tobytes", names := ["order"] } arguments
  match (arguments.at? 0 "order").getD .nothing with
  | .nothing => .ok (.bytes true content)
  | .text t =>
    if Text.held t ∈ ["C", "F", "A"] then .ok (.bytes true content)
    else .error (.valueError "order must be 'C', 'F' or 'A'")
  | m => .error (badArgument "tobytes" "argument 'order'" "str or None" m)

def itemSizes : List (Char × Nat) :=
  [('c', 1), ('b', 1), ('B', 1), ('?', 1), ('h', 2), ('H', 2), ('e', 2), ('i', 4), ('I', 4), ('f', 4), ('l', 8),
   ('L', 8), ('q', 8), ('Q', 8), ('n', 8), ('N', 8), ('d', 8), ('P', 8)]

def recast (fixed : Bool) (content : Bytes) (arguments : CallArguments) : Except Fault Meaning := do
  Places.check { call := "cast", names := ["format", "shape"], required := 1 } arguments
  let format ← textGiven "cast" "argument 'format'" ((arguments.at? 0 "format").getD .nothing)
  match (arguments.at? 1 "shape").getD (.list []) with
  | .list _ => pure ()
  | .tuple _ => pure ()
  | _ => .error (.typeError "shape must be a list or a tuple")
  let code := match format with
    | [.char c] => itemSizes.lookup c
    | [.char '@', .char c] => itemSizes.lookup c
    | _ => none
  match code with
  | none =>
    .error (.valueError
      "memoryview: destination format must be a native single character format prefixed with an optional '@'")
  | some size =>
    if content.length % size = 0 then .ok (.view fixed content)
    else .error (.typeError "memoryview: length is not a multiple of itemsize")

def viewMethod? (fixed : Bool) (content : Bytes) (name : String) (arguments : CallArguments) :
    Option (Except Fault Meaning) :=
  match name with
  | "tolist" => some (.ok (.list (content.map fun byte => .int byte.toNat)))
  | "tobytes" => some (viewedBytes content arguments)
  | "hex" => some (hexOf arguments content)
  | "toreadonly" => some (.ok (.view true content))
  | "release" => some (.ok .nothing)
  | "cast" => some (recast fixed content arguments)
  | "__enter__" => some (.ok (.view fixed content))
  | "__exit__" => some (.ok .nothing)
  | _ => none

end RestDispatch.Meaning
