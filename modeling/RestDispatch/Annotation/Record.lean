import RestDispatch.Annotation.Arguments
import RestDispatch.Annotation.Change
import RestDispatch.Json.Decode

set_option autoImplicit false

/-!
Records: making them from arguments, from data and from JSON text, and copying them. What has been read remembers which
fields were given.
-/
namespace RestDispatch.Meaning

/-! What was given. -/

def entryNamed? (source : Option Meaning) (name : String) : Option Meaning :=
  match source with
  | some (.dict entries) => lookUp? entries (ofString name)
  | _ => none

def sourceItems (source : Option Meaning) : List Meaning :=
  (source.bind fun m => m.elements.toOption).getD []

mutual

def recalled (m : Model) (source : Option Meaning) : Value → Meaning
  | .object fields =>
    match source with
    | some (.record data given own) => .record data given own
    | source =>
      let given := (m.fields.map (·.name)).filter fun name => (entryNamed? source name).isSome
      .record m given (recalledFields m source fields)
  | .list items => .list (recalledItems m (sourceItems source) items)
  | v => ofValue m v

def recalledFields (m : Model) (source : Option Meaning) : Fields → List (String × Meaning)
  | [] => []
  | (key, v) :: rest =>
    (Text.held key, recalled m (entryNamed? source (Text.held key)) v) :: recalledFields m source rest

def recalledItems (m : Model) (sources : List Meaning) : List Value → List Meaning
  | [] => []
  | v :: vs => recalled m sources.head? v :: recalledItems m (sources.drop 1) vs

end

/-! Reading. -/

def recordFrom (m : Model) (source : Meaning) : Except Fault Meaning := do
  let v ← m.instanceOf source.content
  match source with
  | .record _ _ _ => .ok source
  | source => .ok (recalled m (some source) v)

def recordOf (m : Model) (arguments : CallArguments) : Except Fault Meaning := do
  if arguments.count ≠ 0 then
    .error (.typeError s!"BaseModel.__init__() takes 1 positional argument but {arguments.count + 1} were given")
  recordFrom m (.dict (arguments.byName.map fun (name, value) => (ofString name, value)))

-- Whether a thing is of the type of a field as it is, integers being numbers too.
def isStrictly (type : FieldType) (m : Meaning) : Bool :=
  match type, m with
  | .text, .text _ => true
  | .number, .float _ => true
  | .number, .int _ => true
  | .integer, .int _ => true
  | .flag, .truth _ => true
  | .instances, .list _ => true
  | _, _ => false

mutual

-- The data with what is not of the type of its field replaced by what can be read as nothing.
def strictly (m : Model) : Meaning → Meaning
  | .dict entries => .dict (strictEntries m entries)
  | .list items => .list (strictItems m items)
  | other => other

def strictEntries (m : Model) : List (Meaning × Meaning) → List (Meaning × Meaning)
  | [] => []
  | (key, value) :: rest =>
    let field? := m.fields.find? fun field => key.same (ofString field.name)
    let fits := field?.all fun field => value.isStrictly field.type
    (key, if fits then strictly m value else .ellipsis) :: strictEntries m rest

def strictItems (m : Model) : List Meaning → List Meaning
  | [] => []
  | item :: rest => strictly m item :: strictItems m rest

end

mutual

def ofData : Value → Meaning
  | .list items => .list (ofDataItems items)
  | .object fields => .dict (ofDataFields fields)
  | v => ofValue ⟨"", []⟩ v

def ofDataItems : List Value → List Meaning
  | [] => []
  | v :: vs => ofData v :: ofDataItems vs

def ofDataFields : Fields → List (Meaning × Meaning)
  | [] => []
  | (key, v) :: rest => (.text key, ofData v) :: ofDataFields rest

end

def recordBounds : Json.Bounds := { digits := some Decimal.digitLimit, depth := some 200 }

-- The value that JSON text stands for. It holds whole characters only.
def jsonValue? (t : List Letter) : Option Value := do
  let v ← (Json.decode recordBounds t).toOption
  let written ← (Json.encode recordBounds v).toOption
  let _ ← Text.chars? written
  some v

def refusedData (m : Model) (problem : FieldProblem) : Fault := m.invalid [⟨[], problem⟩]

def jsonGiven (m : Model) (source : Meaning) : Except Fault Meaning := do
  let t ← match source with
    | .text t => .ok t
    | .bytes _ content =>
      match Text.Utf8.decodeStrict? content with
      | some cs => .ok (Text.letters cs)
      | none => .error (refusedData m .invalidJson)
    | _ => .error (refusedData m .notJson)
  match jsonValue? t with
  | some v => .ok (ofData v)
  | none => .error (refusedData m .invalidJson)

def attributesOf (m : Meaning) : Meaning :=
  match m with
  | .record _ _ fields => .dict (fields.map fun (name, value) => (ofString name, value))
  | m => m

def validated (m : Model) (source : Meaning) (own : Bindings) : Except Fault Meaning :=
  let isTrue := fun (name : String) => ((own.lookup name).getD .nothing).truthy
  let isOther := match source with
    | .record data _ _ => data.name ≠ m.name
    | _ => false
  let source := if isTrue "from_attributes" && isOther then source.attributesOf else source
  recordFrom m (if isTrue "strict" then strictly m source else source)

/-! Making records of what is given, and copying them. -/

def namesIn (m : Meaning) : List String :=
  ((m.elements.toOption).getD []).filterMap fun
    | .text t => some (Text.held t)
    | _ => none

def assembled (m : Model) (given : Meaning) (values : Bindings) : Meaning :=
  let own := m.fields.filterMap fun field =>
    ((values.lookup field.name).or (field.absent.map (ofValue m))).map (field.name, ·)
  let names := (m.own values).map (·.1)
  .record m (if given matches .nothing then names else namesIn given) own

def updated (self change : Meaning) : Except Fault Meaning :=
  match self with
  | .record m given fields =>
    if !change.truthy then .ok self
    else
      match change with
      | .dict entries =>
        let news := entries.filterMap fun
          | (.text t, value) => some (Text.held t, value)
          | _ => none
        let names := (news.map (·.1)).filter (· ∉ given)
        .ok (.record m (given ++ names) (putAll fields news))
      | change => do
        let _ ← change.elements
        .error (change.noAttribute "keys")
  | self => .ok self

end RestDispatch.Meaning
