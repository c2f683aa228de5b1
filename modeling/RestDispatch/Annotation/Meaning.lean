import RestDispatch.Annotation.Expression
import RestDispatch.Annotation.Members
import RestDispatch.Annotation.Prototype
import RestDispatch.Annotation.WellKnown
import RestDispatch.Fault
import RestDispatch.Model.Basic

set_option autoImplicit false

/-!
What expressions stand for: plain data, models and other classes, functions, containers of things, and choices
between things.
-/
namespace RestDispatch

-- The names that a function or a comprehension binds while it runs. Frames are numbered in the order in which they
-- are opened, and remember whether they belong to a call.
structure Frame (α : Type) where
  number : Nat
  ofCall : Bool
  names : List (String × α)

-- What an expression stands for. A class is known by its full name. A choice is written with strokes or with names,
-- and has at least two members. A view looks at the bytes of something else. A stream gives out its items one after
-- the other, and may end in a fault. A record knows which of its fields have been given. A thing of a class that
-- little else is known of has a label and parts. A function without a name remembers the frames around it, the
-- innermost first. A thing that can change is shared: it is kept at a place, where all that hold it find it.
inductive Meaning where
  | nothing
  | ellipsis
  | notImplemented
  | truth (b : Bool)
  | int (n : Int)
  | float (x : Float)
  | complex (re im : Float)
  | text (t : List Letter)
  | bytes (fixed : Bool) (content : Bytes)
  | view (fixed : Bool) (content : Bytes)
  | tuple (items : List Meaning)
  | list (items : List Meaning)
  | set (fixed : Bool) (items : List Meaning)
  | dict (entries : List (Meaning × Meaning))
  | range (start stop step : Int)
  | slice (start stop step : Meaning)
  | model (m : Model)
  | cls (path : String)
  | record (m : Model) (given : List String) (fields : List (String × Meaning))
  | thing (label path : String) (parts : List (String × Meaning))
  | fault (kind : String) (arguments : List Meaning)
  | function (name : String)
  | member (kind : MemberKind) (owner name : String)
  | method (self : Meaning) (name : String)
  | closure (form : FunctionForm) (defaults : List (String × Meaning)) (body : Expression)
      (around : List (Frame Meaning))
  | stream (kind : String) (items : List Meaning) (failure : Option Fault)
  | constant (label kind : String)
  | form (name : String)
  | container (name : String) (items : List Meaning)
  | unpacked (name : String) (items : List Meaning)
  | choice (strokes : Bool) (members : List Meaning)
  | reference (target : List Letter)
  | shared (place : Nat)
deriving Inhabited

abbrev Bindings := List (String × Meaning)

namespace Meaning

def ofString (s : String) : Meaning := .text (Text.lettersOf s)

def lastName (path : String) : String := ((Text.splitText '.' path).getLast?).getD path

-- What stands before the name at the end of a full name; a class without it is known everywhere.
def homeOf (path : String) : String :=
  match (Text.splitText '.' path).dropLast with
  | [] => "builtins"
  | home => ".".intercalate home

-- The name of a class in messages. Few are named with what stands before the name.
def shortName (path : String) : String :=
  if path ∈ ["types.GenericAlias", "types.UnionType"] then path else lastName path

def modelPath (m : Model) : String := (if m.name = "BaseModel" then "pydantic.main." else "models.") ++ m.name

def emptyLabel : String := "NoneType"

def anyPath : String := "typing.Any"

def choiceForm : String := "Union"

def optionalForm : String := "Optional"

def somewhere : String := "at 0x7f0000000000"

-- The label of a thing that is known by its place only.
def placeLabel (path : String) : String := s!"<{path} object {somewhere}>"

def memberKindName : MemberKind → String
  | .method => "method_descriptor"
  | .slot => "wrapper_descriptor"
  | .attribute => "getset_descriptor"
  | .stored => "member_descriptor"
  | .function => "builtin_function_or_method"
  | .named => "function"

def memberOf? (cls name : String) : Option (MemberKind × String) :=
  (WellKnown.lineage (lastName cls)).findSome? fun owner => (MemberKind.ofOwn? owner name).map (·, owner)

-- The function that a thing of a kind has and that takes arguments by names, with the class that defines it. A
-- model has functions of its own, its records have others.
def prototypeIn? (m : Meaning) (kind name : String) : Option (String × Prototype) :=
  match m with
  | .model _ => (Prototype.find? Prototype.modelClass name).filter (·.2.ofClass)
  | .record _ _ _ => (Prototype.find? Prototype.modelClass name).filter (!·.2.ofClass)
  | _ => Prototype.find? kind name

def methodKindName (m : Meaning) (kind name : String) : String :=
  if (prototypeIn? m kind name).isSome then "method"
  else
    match memberOf? kind name with
    | some (.slot, _) => "method-wrapper"
    | _ => "builtin_function_or_method"

def kindName : Meaning → String
  | .nothing => emptyLabel
  | .ellipsis => "ellipsis"
  | .notImplemented => "NotImplementedType"
  | .truth _ => "bool"
  | .int _ => "int"
  | .float _ => "float"
  | .complex _ _ => "complex"
  | .text _ => "str"
  | .bytes true _ => "bytes"
  | .bytes false _ => "bytearray"
  | .view _ _ => "memoryview"
  | .tuple _ => "tuple"
  | .list _ => "list"
  | .set true _ => "frozenset"
  | .set false _ => "set"
  | .dict _ => "dict"
  | .range _ _ _ => "range"
  | .slice _ _ _ => "slice"
  | .model _ => "ModelMetaclass"
  | .cls path => if path = anyPath then "_AnyMeta" else "type"
  | .record m _ _ => m.name
  | .thing _ path _ => lastName path
  | .fault kind _ => kind
  | .function _ => "builtin_function_or_method"
  | .member kind _ _ => memberKindName kind
  | .method self name => methodKindName self (kindName self) name
  | .closure _ _ _ _ => "function"
  | .stream kind _ _ => kind
  | .constant _ kind => kind
  | .form _ => "_SpecialForm"
  | .container _ _ => "types.GenericAlias"
  | .unpacked _ _ => "types.GenericAlias"
  | .choice true _ => "types.UnionType"
  | .choice false _ => "_UnionGenericAlias"
  | .reference _ => "ForwardRef"
  | .shared _ => WellKnown.root

def classPaths : List (String × String) :=
  [("_UnionGenericAlias", "typing._UnionGenericAlias"), ("_SpecialForm", "typing._SpecialForm"),
   ("_AnyMeta", "typing._AnyMeta"), ("ForwardRef", "typing.ForwardRef"),
   ("ModelMetaclass", "pydantic._internal._model_construction.ModelMetaclass"),
   ("Quitter", "_sitebuiltins.Quitter"), ("_Helper", "_sitebuiltins._Helper"),
   ("ModuleSpec", "_frozen_importlib.ModuleSpec")]

def prototype? (m : Meaning) (name : String) : Option (String × Prototype) := prototypeIn? m m.kindName name

def classOf (m : Meaning) : Meaning :=
  match m with
  | .record data _ _ => .model data
  | .thing _ path _ => .cls path
  | m => .cls ((classPaths.lookup m.kindName).getD m.kindName)

def integer? : Meaning → Option Int
  | .truth b => some (if b then 1 else 0)
  | .int n => some n
  | _ => none

def bytesIn? : Meaning → Option Bytes
  | .bytes _ content => some content
  | .view _ content => some content
  | _ => none

def rangeLength (start stop step : Int) : Nat :=
  if 0 < step then ((stop - start + step - 1).fdiv step).toNat else ((start - stop - step - 1).fdiv (-step)).toNat

-- Whether a stream shows the keys, the values or the entries of a dictionary, all of which are there at once.
def isDictView (kind : String) : Bool := kind ∈ ["dict_keys", "dict_values", "dict_items"]

def truthy : Meaning → Bool
  | .nothing => false
  | .truth b => b
  | .int n => n ≠ 0
  | .float x => x != 0.0
  | .complex re im => re != 0.0 || im != 0.0
  | .text t => !t.isEmpty
  | .bytes _ content => !content.isEmpty
  | .view _ content => !content.isEmpty
  | .tuple items => !items.isEmpty
  | .list items => !items.isEmpty
  | .set _ items => !items.isEmpty
  | .dict entries => !entries.isEmpty
  | .range start stop step => rangeLength start stop step ≠ 0
  | .stream kind items _ => !items.isEmpty || !isDictView kind
  | _ => true

def elementLimit : Nat := 1000000

def noRoom : Fault := .of "MemoryError" ""

def notIterable (m : Meaning) : Fault := .typeError s!"'{m.kindName}' object is not iterable"

def elements (m : Meaning) : Except Fault (List Meaning) :=
  match m with
  | .text t => .ok (t.map fun letter => .text [letter])
  | .bytes _ content => .ok (content.map fun byte => .int byte.toNat)
  | .view _ content => .ok (content.map fun byte => .int byte.toNat)
  | .tuple items => .ok items
  | .list items => .ok items
  | .set _ items => .ok items
  | .dict entries => .ok (entries.map (·.1))
  | .range start stop step =>
    let count := rangeLength start stop step
    if elementLimit < count then .error noRoom
    else .ok ((List.range count).map fun (i : Nat) => .int (start + step * i))
  | .record _ _ fields => .ok (fields.map fun (name, value) => .tuple [ofString name, value])
  | .stream _ items none => .ok items
  | .stream _ _ (some failure) => .error failure
  | .container name items => .ok [.unpacked name items]
  | m => .error (notIterable m)

def isClass : Meaning → Bool
  | .model _ => true
  | .cls _ => true
  | _ => false

def isEmptyClass : Meaning → Bool
  | .cls path => path = emptyLabel
  | _ => false

def isCallable : Meaning → Bool
  | .model _ => true
  | .cls _ => true
  | .function _ => true
  | .member kind _ _ => kind = .method || kind = .slot || kind = .function || kind = .named
  | .method _ _ => true
  | .closure _ _ _ _ => true
  | .form _ => true
  | .container _ _ => true
  | .unpacked _ _ => true
  | .choice strokes _ => !strokes
  | .constant _ kind => kind ∈ ["Quitter", "_Helper", "function", "method"]
  | .thing _ path _ => path = "staticmethod"
  | .reference _ => false
  | _ => false

-- What a name stands for everywhere. The words for constants are names too when they are written with letters that
-- are only compatible with theirs.
def knownEverywhere? (name : String) : Option Meaning :=
  if name ∈ WellKnown.classes then some (.cls name)
  else if name ∈ WellKnown.functions then some (.function name)
  else
    match name with
    | "Ellipsis" => some .ellipsis
    | "NotImplemented" => some .notImplemented
    | "__debug__" => some (.truth true)
    | "None" => some .nothing
    | "True" => some (.truth true)
    | "False" => some (.truth false)
    | name =>
      ((WellKnown.aliases.lookup name).map Meaning.cls).or
        (((WellKnown.texts.lookup name).map ofString).or
          ((WellKnown.constants.lookup name).map fun (label, kind) => .constant label kind))

def known? (name : String) : Option Meaning :=
  match Model.named? name with
  | some m => some (.model m)
  | none =>
    match name with
    | "Optional" => some (.form optionalForm)
    | "Any" => some (.cls anyPath)
    | "Request" => some (.cls "restly.request.Request")
    | "Response" => some (.cls "restly.response.Response")
    | name => knownEverywhere? name

end Meaning
end RestDispatch
