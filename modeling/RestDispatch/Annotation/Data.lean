import RestDispatch.Annotation.Meaning
import RestDispatch.Content

set_option autoImplicit false

/-!
Things and data: what values stand for, and the values and the content that things are.
-/
namespace RestDispatch.Meaning

def bindingsOf (entries : List (Meaning × Meaning)) : Bindings :=
  entries.filterMap fun (key, value) =>
    match key with
    | .text t => some (Text.held t, value)
    | _ => none

def ofLiteral : Literal → Meaning
  | .int n => .int n
  | .float x => .float x
  | .imaginary x => .complex 0.0 x
  | .text t => .text t
  | .bytes content => .bytes true content

def ofConstant : Expression → Meaning
  | .truth b => .truth b
  | .literal value => ofLiteral value
  | _ => .nothing

mutual

def ofValue (m : Model) : Value → Meaning
  | .null => .nothing
  | .bool b => .truth b
  | .int n => .int n
  | .float x => .float x
  | .text t => .text t
  | .list items => .list (ofValues m items)
  | .object fields => .record m (fields.map fun (key, _) => Text.held key) (ofFields m fields)
  | .function name kind => if kind = "type" then .cls name else .function name

def ofValues (m : Model) : List Value → List Meaning
  | [] => []
  | v :: vs => ofValue m v :: ofValues m vs

def ofFields (m : Model) : Fields → List (String × Meaning)
  | [] => []
  | (key, v) :: rest => (Text.held key, ofValue m v) :: ofFields m rest

end

mutual

def toValue? : Meaning → Option Value
  | .nothing => some .null
  | .truth b => some (.bool b)
  | .int n => some (.int n)
  | .float x => some (.float x)
  | .text t => some (.text t)
  | .list items => (toValues? items).map .list
  | .record _ _ fields => (toFields? fields).map .object
  | _ => none

def toValues? : List Meaning → Option (List Value)
  | [] => some []
  | m :: ms => do some ((← toValue? m) :: (← toValues? ms))

def toFields? : List (String × Meaning) → Option Fields
  | [] => some []
  | (name, m) :: rest => do some ((Text.lettersOf name, ← toValue? m) :: (← toFields? rest))

end

mutual

def content : Meaning → Content
  | .bytes _ own => .bytes own
  | .tuple items => .tuple (contents items)
  | .list items => .list (contents items)
  | .set _ items => .set (contents items)
  | .dict entries => .dict (contentEntries entries)
  | .record m given fields => .model m.name (((Meaning.record m given fields).toValue?).getD .null)
  | m => (m.toValue?.map Content.data).getD (.method m.kindName)

def contents : List Meaning → List Content
  | [] => []
  | m :: ms => content m :: contents ms

def contentEntries : List (Meaning × Meaning) → List (Content × Content)
  | [] => []
  | (key, m) :: rest => (content key, content m) :: contentEntries rest

end

end RestDispatch.Meaning
