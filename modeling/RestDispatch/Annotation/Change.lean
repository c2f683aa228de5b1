import RestDispatch.Annotation.Construct

set_option autoImplicit false

/-!
What setting and removing attributes and items gives back, and what is wrong with it.
-/
namespace RestDispatch.Meaning

def attributeName (m : Meaning) : Except Fault String :=
  match m with
  | .text t => .ok (Text.held t)
  | m => .error (.typeError s!"attribute name must be string, not '{m.kindName}'")

def keepsAttributes : Meaning → Bool
  | .fault _ _ => true
  | .closure _ _ _ _ => true
  | .constant _ kind => kind ∉ ["property", "method"]
  | _ => false

def changeAttribute (removed : Bool) (m : Meaning) (name : String) : Except Fault Meaning :=
  let refuse := fun text => Except.error (Fault.of "AttributeError" text)
  let owner := (m.classOf.label?).getD m.kindName
  match m with
  | .cls path =>
    if (ExchangeClass.named? path).isSome && !removed then .ok .nothing
    else .error (.typeError s!"cannot set '{name}' attribute of immutable type '{shortName path}'")
  | .model _ => if removed then .error (m.noAttribute name) else .ok .nothing
  | .record data _ fields =>
    if (fields.lookup name).isSome then .ok .nothing
    else if removed then refuse name
    else .error (.valueError s!"\"{data.name}\" object has no field \"{name}\"")
  | .thing _ _ parts =>
    if (parts.lookup name).isSome then .ok .nothing
    else refuse s!"'{m.kindName}' object has no attribute '{name}'"
  | m =>
    match memberOf? owner name with
    | some (.stored, _) => if m.keepsAttributes then .ok .nothing else refuse "readonly attribute"
    | some (.attribute, home) =>
      if m.keepsAttributes then .ok .nothing
      else refuse s!"attribute '{name}' of '{home}' objects is not writable"
    | found =>
      if m.keepsAttributes then if removed then refuse name else .ok .nothing
      else if found.isSome then refuse s!"'{m.kindName}' object attribute '{name}' is read-only"
      else refuse s!"'{m.kindName}' object has no attribute '{name}'"

def assigned (places : Nat) (step value : Meaning) (wrong : String) : Except Fault Unit :=
  match value.elements with
  | .error _ => .error (.typeError wrong)
  | .ok items =>
    if step.integer?.all (· = 1) || items.length = places then .ok ()
    else .error (.valueError
      s!"attempt to assign sequence of size {items.length} to extended slice of size {places}")

def checkPlace {α : Type} (items : List α) (index : Meaning) (kind missing : String) : Except Fault Unit :=
  match index.integer? with
  | some place =>
    if (atPlace? items place).isSome then .ok ()
    else .error (if fitsIndex place then .of "IndexError" s!"{missing} out of range"
      else { notIndexSized with kind := "IndexError" })
  | none => .error (.typeError (wrongIndex kind index))

def setItem (m index value : Meaning) : Except Fault Meaning := do
  match m, index with
  | .list items, .slice start stop step => do
    let places ← sliced items start stop step
    assigned places.length step value
      (if step.integer?.all (· = 1) then "can only assign an iterable"
        else "must assign iterable to extended slice")
  | .list items, index => checkPlace items index "list" "list assignment index"
  | .bytes _ content, .slice start stop step => do
    let places ← sliced content start stop step
    assigned places.length step value "can assign only bytes, buffers, or iterables of ints in range(0, 256)"
  | .bytes _ content, index => do
    checkPlace content index "bytearray" "bytearray index"
    let _ ← byteOf "byte" value
  | .view true _, _ => .error (.typeError "cannot modify read-only memory")
  | .view false content, .slice start stop step => do
    let places ← sliced content start stop step
    match value.bytesIn? with
    | none => .error (.typeError s!"a bytes-like object is required, not '{value.kindName}'")
    | some found =>
      if found.length ≠ places.length then
        .error (.valueError "memoryview assignment: lvalue and rvalue have different structures")
  | .view false content, index => do
    let _ ← viewItem false content index
    match value.integer? with
    | none => .error (.typeError "memoryview: invalid type for format 'B'")
    | some n => if n < 0 || 255 < n then .error (.valueError "memoryview: invalid value for format 'B'")
  | .dict _, key => checkKey key
  | _, _ => .ok ()
  .ok .nothing

def removeItem (m index : Meaning) : Except Fault Meaning := do
  match m, index with
  | .list items, .slice start stop step => let _ ← sliced items start stop step
  | .list items, index => checkPlace items index "list" "list assignment index"
  | .bytes _ content, .slice start stop step => let _ ← sliced content start stop step
  | .bytes _ content, index => checkPlace content index "bytearray" "bytearray index"
  | .view true _, _ => .error (.typeError "cannot modify read-only memory")
  | .view false _, _ => .error (.typeError "cannot delete memory")
  | .dict _, key => let _ ← m.item key
  | _, _ => .ok ()
  .ok .nothing

end RestDispatch.Meaning
