import RestDispatch.Handler.Basic
import RestDispatch.Model.Instance
import RestDispatch.Param.Function

set_option autoImplicit false

/-!
Templates: how a handler makes what it returns out of its arguments and of what its object holds.
-/
namespace RestDispatch

inductive Template where
  | data (v : Value)
  | list (items : List Template)
  | object (fields : List (String × Template))
  | given (name : String)
  | held (name : String)
  | model (name : String) (fields : Template)
  | number (v : Value)
  | date (iso : List Letter)
  | bytes (text : String)
  | failing (fault : Fault)
  | tuple (items : List Template)
  | set (items : List Value)
  | pairs (entries : List (Template × Template))
deriving Inhabited

namespace Content

mutual

-- Whether two keys are the same. Data that may be a key holds no other data.
def sameKey : Content → Content → Bool
  | .data a, .data b => a.sameScalar b
  | .date a, .date b => a = b
  | .bytes a, .bytes b => a = b
  | .tuple a, .tuple b => sameKeys a b
  | .request, .request => true
  | .method a, .method b => a = b
  | _, _ => false

def sameKeys : List Content → List Content → Bool
  | [], [] => true
  | a :: as, b :: bs => sameKey a b && sameKeys as bs
  | _, _ => false

end

mutual

def mutableKind? : Content → Option String
  | .data (.list _) => some "list"
  | .data (.object _) => some "dict"
  | .model name _ => some name
  | .set _ => some "set"
  | .list _ => some "list"
  | .dict _ => some "dict"
  | .tuple items => mutableItemKind? items
  | _ => none

def mutableItemKind? : List Content → Option String
  | [] => none
  | c :: cs => (mutableKind? c).or (mutableItemKind? cs)

end

def checkKey (key : Content) : Except Fault Unit :=
  match key.mutableKind? with
  | some kind => .error (.typeError s!"unhashable type: '{kind}'")
  | none => .ok ()

def instance? (model : String) (fields : Content) : Except Fault Content :=
  match Model.named? model with
  | none => .error (.of "KeyError" (Text.quoted model))
  | some m => (m.instanceOf fields).map (.model m.name)

def distinct (elements : List Content) : List Content :=
  elements.foldl (fun kept element => if kept.any (·.sameKey element) then kept else kept ++ [element]) []

end Content

-- A key of a dictionary that is being made. The undefined number equals itself wherever it is read, but one that is
-- made anew equals no other key.
structure FreshKey where
  key : Content
  isAlone : Bool

abbrev FreshEntries := List (FreshKey × Content)

def FreshEntries.put (key : FreshKey) (value : Content) : FreshEntries → FreshEntries
  | [] => [(key, value)]
  | (k, v) :: rest =>
    if !k.isAlone && !key.isAlone && k.key.sameKey key.key then (k, value) :: rest
    else (k, v) :: FreshEntries.put key value rest

structure Sources where
  given? : String → Option Content
  held? : String → Option Content
  owner : String

-- The sources of a handler that has been called. What the object itself keeps hides what its class has under the
-- same name, and a method hides an attribute.
def Situation.sources (situation : Situation) : Sources :=
  { given? := fun name => situation.arguments.all.lookup name
    held? := fun name =>
      if name = "items" then some (.list situation.items)
      else if name = "n" then some (.data (.int situation.serial))
      else if name ∈ situation.methods then some (.method name)
      else (situation.attributes.lookup name).map Content.data
    owner := situation.owner }

namespace Sources

def empty : Sources := ⟨fun _ => none, fun _ => none, "object"⟩

def given (sources : Sources) (name : String) : Except Fault Content :=
  match sources.given? name with
  | some content => .ok content
  | none => .error (missingKey name)

def held (sources : Sources) (name : String) : Except Fault Content :=
  match sources.held? name with
  | some content => .ok content
  | none => .error (.of "AttributeError" s!"'{sources.owner}' object has no attribute '{name}'")

end Sources

namespace Template

def dateOf (iso : List Letter) : Except Fault Content :=
  match CalendarDate.read iso with
  | .ok day => .ok (.date day)
  | .error e => .error (.valueError (e.message iso))

def keyOf (template : Template) (key : Content) : FreshKey :=
  match template, key with
  | .number (.text _), .data (.float x) => ⟨key, x.isNaN⟩
  | _, _ => ⟨key, false⟩

mutual

def build (sources : Sources) : Template → Except Fault Content
  | .data v => .ok (.data v)
  | .list items => (buildItems sources items).map .list
  | .object fields => (buildFields sources fields).map .dict
  | .given name => sources.given name
  | .held name => sources.held name
  | .model name fields => do Content.instance? name (← build sources fields)
  | .number v => (Function.toFloat v).map .data
  | .failing fault => .error fault
  | .date iso => dateOf iso
  | .bytes text => (latinBytes text).map .bytes
  | .tuple items => (buildItems sources items).map .tuple
  | .set items => do
    let elements := items.map Content.data
    elements.forM Content.checkKey
    .ok (.set (Content.distinct elements))
  | .pairs entries => do
    let built ← buildEntries sources [] entries
    .ok (.dict (built.map fun (key, value) => (key.key, value)))

def buildItems (sources : Sources) : List Template → Except Fault (List Content)
  | [] => .ok []
  | t :: ts => do
    let first ← build sources t
    let rest ← buildItems sources ts
    .ok (first :: rest)

def buildFields (sources : Sources) : List (String × Template) → Except Fault (List (Content × Content))
  | [] => .ok []
  | (name, t) :: fields => do
    let first ← build sources t
    let rest ← buildFields sources fields
    .ok ((.data (.text name), first) :: rest)

def buildEntries (sources : Sources) (built : FreshEntries) : List (Template × Template) → Except Fault FreshEntries
  | [] => .ok built
  | (k, v) :: entries => do
    let key ← build sources k
    let value ← build sources v
    key.checkKey
    buildEntries sources (built.put (keyOf k key) value) entries

end

end Template
end RestDispatch
