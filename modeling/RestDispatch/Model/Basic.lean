import RestDispatch.Value.Basic

set_option autoImplicit false

/-!
Models: named shapes of data with a type for every field, and a catalog of them.
-/
namespace RestDispatch

inductive FieldType where
  | text
  | number
  | integer
  | flag
  | instances
deriving DecidableEq, Repr

structure ModelField where
  name : String
  type : FieldType
  absent : Option Value := none

structure Model where
  name : String
  fields : List ModelField

namespace Model

def hasField (m : Model) (name : String) : Bool := m.fields.any (·.name = name)

def own {α : Type} (m : Model) (table : List (String × α)) : List (String × α) :=
  table.filter fun entry => m.hasField entry.1

def item : Model := ⟨"Item", [⟨"name", .text, none⟩, ⟨"price", .number, none⟩]⟩

def note : Model := ⟨"Note", [⟨"text", .text, none⟩]⟩

def user : Model :=
  ⟨"User", [⟨"name", .text, none⟩, ⟨"age", .integer, none⟩, ⟨"admin", .flag, some (.bool false)⟩]⟩

def tree : Model := ⟨"Tree", [⟨"label", .text, none⟩, ⟨"children", .instances, some (.list [])⟩]⟩

def catalog : List Model := [item, note, user, tree]

def named? (name : String) : Option Model := catalog.find? (·.name = name)

end Model
end RestDispatch
