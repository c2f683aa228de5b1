import RestDispatch.Value.Basic
import RestDispatch.Text.Latin

set_option autoImplicit false

/-!
Descriptions are request data that stand for parts of an application. Absent fields stand for nothing,
and so do fields of another kind than the one expected. Their texts are texts of characters; halves of
surrogate pairs are replaced.
-/
namespace RestDispatch.Value

def field? : Value → String → Option Value
  | .object fields, name => Fields.named? fields name
  | _, _ => none

def asText : Value → String
  | .text t => Text.held t
  | _ => ""

def asList : Value → List Value
  | .list items => items
  | _ => []

def asEntries : Value → Entries
  | .object fields => fields.map fun (name, v) => (Text.held name, v)
  | _ => []

def asBytes (v : Value) : Bytes := v.asText.toList.map fun c => UInt8.ofNat c.toNat

def textField (v : Value) (name : String) : String := ((v.field? name).map asText).getD ""

def textField? (v : Value) (name : String) : Option String :=
  match v.field? name with
  | some (.text t) => some (Text.held t)
  | _ => none

def listField (v : Value) (name : String) : List Value := ((v.field? name).map asList).getD []

def entriesOf (v : Value) (name : String) : Entries := ((v.field? name).map asEntries).getD []

def flagField (v : Value) (name : String) : Bool := (v.field? name).any truthy

def asPair (v : Value) : Value × Value :=
  match v with
  | .list [a, b] => (a, b)
  | _ => (.null, .null)

def entriesField (v : Value) (name : String) : Entries :=
  (v.listField name).map fun entry => (entry.asPair.1.asText, entry.asPair.2)

def single? : Value → Option (String × Value)
  | .object [(name, v)] => some (Text.held name, v)
  | _ => none

end RestDispatch.Value
