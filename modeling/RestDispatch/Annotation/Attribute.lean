import RestDispatch.Annotation.CallForm
import RestDispatch.Annotation.Data
import RestDispatch.Annotation.Exchange
import RestDispatch.Annotation.Shown
import RestDispatch.Annotation.Summary

set_option autoImplicit false

/-!
Attributes: names of classes, what they are made from, what they define, and the parts of things. Which classes things are
of, and which classes are made from others.
-/
namespace RestDispatch.Meaning

def noAttribute (m : Meaning) (name : String) : Fault :=
  let text := match m with
    | .model _ => name
    | .form _ => name
    | .choice false _ => name
    | .cls path => s!"type object '{shortName path}' has no attribute '{name}'"
    | m => s!"'{m.kindName}' object has no attribute '{name}'"
  .of "AttributeError" text

def changeableClasses : List String := ["bytearray", "dict", "list", "set", "slice"]

def named? (path name : String) : Option Meaning :=
  match name with
  | "__name__" => some (ofString (lastName path))
  | "__qualname__" => some (ofString (lastName path))
  | "__module__" => some (ofString (homeOf path))
  | _ => none

def orNothing (t : Option String) : Meaning := (t.map ofString).getD .nothing

def classSummary? (path name : String) : Option Meaning :=
  let own := lastName path
  match name with
  | "__doc__" =>
    match Summary.ofClass? own, MemberKind.ofOwn? own name with
    | none, some kind => some (.member kind own name)
    | found, _ => some (orNothing found)
  | "__text_signature__" => some (orNothing (CallForm.ofClass? own))
  | _ => none

def descent? (bases lineage : List Meaning) (name : String) : Option Meaning :=
  match name with
  | "__bases__" => some (.tuple bases)
  | "__base__" => some (bases.head?.getD .nothing)
  | "__mro__" => some (.tuple lineage)
  | _ => none

def classTable : Meaning := .constant "mappingproxy({})" "mappingproxy"

def classAttribute? (path name : String) : Option Meaning :=
  (((named? path name).or
    (descent? ((WellKnown.parents path).map .cls) ((WellKnown.lineage path).map .cls) name)).or
    (((ExchangeClass.named? path).bind (·.attribute? name)).or (classSummary? path name))).or <|
    if let some (owner, _) := Prototype.find? (lastName path) name then some (.member .named owner name)
    else if name = "__dict__" then some classTable
    else if name = "__hash__" && path ∈ changeableClasses then some .nothing
    else
      match memberOf? path name with
      | some (.function, _) => some (.method (.cls path) name)
      | some (kind, owner) => some (.member kind owner name)
      | none => (memberOf? "type" name).map fun _ => .method (.cls path) name

def modelBase : Model := ⟨"BaseModel", []⟩

def fieldTypeName (m : Model) : FieldType → String
  | .text => "str"
  | .number => "float"
  | .integer => "int"
  | .flag => "bool"
  | .instances => s!"list[{m.name}]"

def fieldType (m : Model) : FieldType → Meaning
  | .instances => .container "list" [ofString m.name]
  | type => .cls (fieldTypeName m type)

def fieldPath : String := "pydantic.fields." ++ Prototype.fieldClass

def noDefault : Meaning := .constant "PydanticUndefined" "PydanticUndefinedType"

def unsaid : List String :=
  ["default_factory", "alias", "alias_priority", "validation_alias", "serialization_alias", "title",
   "field_title_generator", "description", "examples", "exclude", "exclude_if", "discriminator", "deprecated",
   "json_schema_extra", "frozen", "validate_default", "init", "init_var", "kw_only", "deprecation_message",
   "default_factory_takes_validated_data"]

def fieldInfo (m : Model) (field : ModelField) : Meaning :=
  let default := field.absent.map (ofValue m)
  let type := match field.type with
    | .instances => .container "list" [.model m]
    | type => fieldType m type
  let shown := (default.bind printed?).elim "required=True" ("required=False, default=" ++ ·)
  .thing s!"FieldInfo(annotation={fieldTypeName m field.type}, {shown})" fieldPath
    ([("annotation", type), ("default", default.getD noDefault), ("metadata", .list []), ("repr", .truth true)] ++
      unsaid.map fun name => (name, .nothing))

def modelData? (m : Model) (name : String) : Option Meaning :=
  if name ∈ ["model_fields", "__fields__", "__pydantic_fields__"] then
    some (.dict (m.fields.map fun field => (ofString field.name, fieldInfo m field)))
  else if name = "__annotations__" then
    some (.dict (m.fields.map fun field => (ofString field.name, fieldType m field.type)))
  else if name ∈ ["model_config", "model_computed_fields", "__private_attributes__"] then some (.dict [])
  else if name = "__class_vars__" then some (.set false [])
  else if name = "__abstractmethods__" then some (.set true [])
  else if name ∈ ["__doc__", "__hash__"] then some .nothing
  else none

def modelAttribute? (m : Model) (name : String) : Option Meaning :=
  let root := Meaning.cls WellKnown.root
  let base := if m.name = modelBase.name then root else .model modelBase
  let lineage := if m.name = modelBase.name then [.model m, root] else [.model m, .model modelBase, root]
  ((named? (modelPath m) name).or (descent? [base] lineage name)).or <|
    if (modelData? m name).isSome then modelData? m name
    else if (Meaning.model m |>.prototype? name).isSome then some (.method (.model m) name)
    else if (Prototype.find? Prototype.modelClass name).isSome then some (.member .named Prototype.modelClass name)
    else if name = "__dict__" then some classTable
    else
      match memberOf? WellKnown.root name with
      | some (.function, _) => some (.method (.model m) name)
      | some (kind, owner) => some (.member kind owner name)
      | none => (memberOf? "type" name).map fun _ => .method (.model m) name

def givenNames (names : List String) : Meaning := .set false (names.map ofString)

def recordAttribute? (m : Model) (given : List String) (fields : Bindings) (name : String) : Option Meaning :=
  if name ∈ ["model_extra", "__pydantic_extra__", "__pydantic_private__"] then some .nothing
  else if name ∈ ["model_fields_set", "__fields_set__", "__pydantic_fields_set__"] then some (givenNames given)
  else if name = "__dict__" then some (.dict (fields.map fun (name, value) => (ofString name, value)))
  else if name = "__module__" then named? (modelPath m) name
  else
    ((fields.lookup name).or (modelData? m name)).or
      (((Meaning.model m).prototype? name).map fun _ => .method (.model m) name)

def faultParts : List (String × List (String × Nat)) :=
  [("StopIteration", [("value", 0)]), ("SyntaxError", [("msg", 0)]), ("ImportError", [("msg", 0)]),
   ("OSError", [("errno", 0), ("strerror", 1), ("filename", 2)]),
   ("UnicodeDecodeError", [("encoding", 0), ("object", 1), ("start", 2), ("end", 3), ("reason", 4)]),
   ("UnicodeEncodeError", [("encoding", 0), ("object", 1), ("start", 2), ("end", 3), ("reason", 4)]),
   ("UnicodeTranslateError", [("object", 0), ("start", 1), ("end", 2), ("reason", 3)]),
   ("BaseExceptionGroup", [("message", 0)])]

def faultPart? (kind : String) (arguments : List Meaning) (name : String) : Option Meaning :=
  match name, memberOf? kind name with
  | "args", _ => some (.tuple (faultArguments kind arguments))
  | "__dict__", _ => some (.dict [])
  | "__cause__", _ => some .nothing
  | "__context__", _ => some .nothing
  | "__traceback__", _ => some .nothing
  | "__suppress_context__", _ => some (.truth false)
  | "code", some (.stored, _) =>
    match arguments with
    | [] => some .nothing
    | [m] => some m
    | ms => some (.tuple ms)
  | "exceptions", some (.stored, _) =>
    (arguments[1]?).bind fun m => (m.elements.toOption).map .tuple
  | name, some (.stored, owner) =>
    let place := (faultParts.lookup owner).bind (·.lookup name)
    if owner = "OSError" && arguments.length < 2 then some .nothing
    else some ((place.bind (arguments[·]?)).getD .nothing)
  | _, _ => none

def viewPart? (fixed : Bool) (content : Bytes) (name : String) : Option Meaning :=
  match name with
  | "obj" => some (.bytes fixed content)
  | "nbytes" => some (.int content.length)
  | "itemsize" => some (.int 1)
  | "ndim" => some (.int 1)
  | "format" => some (ofString "B")
  | "shape" => some (.tuple [.int content.length])
  | "strides" => some (.tuple [.int 1])
  | "suboffsets" => some (.tuple [])
  | "readonly" => some (.truth fixed)
  | name => if name ∈ ["contiguous", "c_contiguous", "f_contiguous"] then some (.truth true) else none

def generatorPart? (name : String) : Option Meaning :=
  match name with
  | "gi_running" => some (.truth false)
  | "gi_suspended" => some (.truth false)
  | "gi_yieldfrom" => some .nothing
  | "gi_frame" => some (.constant s!"<frame {somewhere}>" "frame")
  | "gi_code" => some (.constant s!"<code object <genexpr> {somewhere}>" "code")
  | name => if name ∈ ["__name__", "__qualname__"] then some (ofString "<genexpr>") else none

def part? (m : Meaning) (name : String) : Option Meaning :=
  match m, name with
  | .float x, "real" => some (.float x)
  | .float _, "imag" => some (.float 0.0)
  | .complex re _, "real" => some (.float re)
  | .complex _ im, "imag" => some (.float im)
  | .slice start _ _, "start" => some start
  | .slice _ stop _, "stop" => some stop
  | .slice _ _ step, "step" => some step
  | .range start _ _, "start" => some (.int start)
  | .range _ stop _, "stop" => some (.int stop)
  | .range _ _ step, "step" => some (.int step)
  | .fault kind arguments, name => faultPart? kind arguments name
  | .stream "generator" _ _, name => generatorPart? name
  | .stream kind _ _, "mapping" => if isDictView kind then some classTable else none
  | .view fixed content, name => viewPart? fixed content name
  | .record m given fields, name => recordAttribute? m given fields name
  | .thing _ path parts, name => (parts.lookup name).or ((ExchangeClass.named? path).bind (·.remark? name))
  | m, name =>
    m.integer?.bind fun n =>
      match name with
      | "real" => some (.int n)
      | "imag" => some (.int 0)
      | "numerator" => some (.int n)
      | "denominator" => some (.int 1)
      | _ => none

def functionAttribute? (name asked : String) : Option Meaning :=
  match asked with
  | "__self__" => some (.constant "<module 'builtins' (built-in)>" "module")
  | "__doc__" => some (orNothing (Summary.ofFunction? name))
  | "__text_signature__" => some (orNothing (CallForm.ofFunction? name))
  | asked => named? name asked

def memberAttribute? (kind : MemberKind) (owner name asked : String) : Option Meaning :=
  match asked with
  | "__name__" => some (ofString name)
  | "__qualname__" => some (ofString (lastName owner ++ "." ++ name))
  | "__objclass__" => some (.cls owner)
  | "__doc__" => some (orNothing (Summary.ofMember? (lastName owner) name))
  | "__text_signature__" =>
    if kind = .method || kind = .slot then some (orNothing (CallForm.ofMember? (lastName owner) name)) else none
  | _ => none

def methodAttribute? (self : Meaning) (name asked : String) : Option Meaning :=
  let cls := (self.classOf.label?).getD self.kindName
  let member := match self with
    | .cls path =>
      match memberOf? path name with
      | some (.function, owner) => some (MemberKind.function, owner)
      | _ => memberOf? "type" name
    | _ => memberOf? cls name
  match member, asked with
  | _, "__self__" => some self
  | _, "__name__" => some (ofString name)
  | some (.slot, owner), "__qualname__" => some (ofString (owner ++ "." ++ name))
  | some (.slot, owner), "__objclass__" => some (.cls owner)
  | some (.slot, _), "__module__" => none
  | _, "__qualname__" => some (ofString ((if self.isClass then (self.label?).getD cls else cls) ++ "." ++ name))
  | _, "__module__" => some .nothing
  | some (_, owner), "__doc__" => some (orNothing (Summary.ofMember? owner name))
  | some (_, owner), "__text_signature__" => some (orNothing (CallForm.ofMember? owner name))
  | _, _ => none

def containerNames : List String :=
  ["__class__", "__origin__", "__args__", "__parameters__", "__unpacked__", "__typing_unpacked_tuple_args__",
   "__mro_entries__", "__reduce__", "__reduce_ex__", "__copy__", "__deepcopy__"]

def containerAttribute? (name : String) (items : List Meaning) (isUnpacked : Bool) (asked : String) :
    Option Meaning :=
  match asked with
  | "__origin__" => some (.cls name)
  | "__args__" => some (.tuple items)
  | "__parameters__" => some (.tuple [])
  | "__unpacked__" => some (.truth isUnpacked)
  | "__typing_unpacked_tuple_args__" =>
    some (if isUnpacked && name = "tuple" then .tuple items else .nothing)
  | asked =>
    if asked ∈ containerNames then
      some (.method (if isUnpacked then .unpacked name items else .container name items) asked)
    else classAttribute? name asked

def isOptional (members : List Meaning) : Bool := members.length = 2 && members.any isEmptyClass

def choiceAttribute? (strokes : Bool) (members : List Meaning) (asked : String) : Option Meaning :=
  match strokes, asked with
  | _, "__args__" => some (.tuple members)
  | _, "__parameters__" => some (.tuple [])
  | true, "__module__" => some (ofString "types")
  | true, "__doc__" => some (orNothing (Summary.ofClass? "UnionType"))
  | true, _ => none
  | false, "__origin__" => some (.form choiceForm)
  | false, "__module__" => some (ofString "typing")
  | false, "__iter__" => some .nothing
  | false, "__doc__" => some .nothing
  | false, "__slots__" => some .nothing
  | false, "__weakref__" => some .nothing
  | false, "_inst" => some (.truth true)
  | false, "_name" => some (if isOptional members then ofString optionalForm else .nothing)
  | false, "_paramspec_tvars" => some (.truth false)
  | false, "_getitem" => some (.constant s!"<function {choiceForm} {somewhere}>" "function")
  | false, "__dict__" =>
    let isNamed := isOptional members
    some (.dict ([("_inst", .truth true), ("_name", if isNamed then ofString optionalForm else .nothing),
      ("__origin__", .form choiceForm), ("__slots__", .nothing), ("__args__", .tuple members),
      ("__parameters__", .tuple []), ("_paramspec_tvars", .truth false)].map fun (name, m) => (ofString name, m)))
  | false, asked =>
    if asked ∈ ["__name__", "__qualname__"] then
      some (ofString (if isOptional members then optionalForm else choiceForm))
    else none

def formAttribute? (name asked : String) : Option Meaning :=
  match asked with
  | "__module__" => some (ofString "typing")
  | "__slots__" => some (.tuple (["_name", "__doc__", "_getitem"].map ofString))
  | "__iter__" => some .nothing
  | "__weakref__" => some .nothing
  | "_getitem" => some (.constant s!"<function {name} {somewhere}>" "function")
  | asked =>
    if asked ∈ ["__name__", "__qualname__", "_name"] then some (ofString name)
    else if asked = "__doc__" && name = optionalForm then some (ofString "Optional[X] is equivalent to Union[X, None].")
    else none

def codeOfFunction (form : FunctionForm) : Meaning :=
  let names := form.byPosition ++ form.normal
  let all := names ++ form.byName ++ form.rest.toList ++ form.keywords.toList
  .thing s!"<code object <lambda> {somewhere}, file \"<string>\", line 1>" "code"
    [("co_name", ofString "<lambda>"), ("co_qualname", ofString "<lambda>"), ("co_argcount", .int names.length),
     ("co_posonlyargcount", .int form.byPosition.length), ("co_kwonlyargcount", .int form.byName.length),
     ("co_varnames", .tuple (all.map ofString)), ("co_nlocals", .int all.length), ("co_filename", ofString "<string>"),
     ("co_firstlineno", .int 1), ("co_cellvars", .tuple [])]

def closureAttribute? (form : FunctionForm) (defaults : Bindings) (asked : String) : Option Meaning :=
  let (byName, byPlace) := defaults.partition fun (name, _) => name ∈ form.byName
  match asked with
  | "__name__" => some (ofString "<lambda>")
  | "__qualname__" => some (ofString "<lambda>")
  | "__module__" => some .nothing
  | "__doc__" => some .nothing
  | "__defaults__" => some (if byPlace.isEmpty then .nothing else .tuple (byPlace.map (·.2)))
  | "__kwdefaults__" =>
    some (if byName.isEmpty then .nothing else .dict (byName.map fun (name, m) => (ofString name, m)))
  | "__annotations__" => some (.dict [])
  | "__dict__" => some (.dict [])
  | "__globals__" => some (.dict [])
  | "__builtins__" => some (.dict [])
  | "__code__" => some (codeOfFunction form)
  | "__closure__" => some .nothing
  | _ => none

def ownAttribute? (m : Meaning) (name : String) : Option Meaning :=
  match m with
  | .model data => modelAttribute? data name
  | .cls path => classAttribute? path name
  | .function own => functionAttribute? own name
  | .member kind owner own => memberAttribute? kind owner own name
  | .method self own => methodAttribute? self own name
  | .form own => formAttribute? own name
  | .container origin items => containerAttribute? origin items false name
  | .unpacked origin items => containerAttribute? origin items true name
  | .choice strokes members => choiceAttribute? strokes members name
  | .closure shape defaults _ _ => closureAttribute? shape defaults name
  | m => part? m name

def isClosed : Meaning → Bool
  | .model _ => true
  | .cls _ => true
  | .container _ _ => true
  | .unpacked _ _ => true
  | _ => false

def parts : Meaning → Bindings
  | .thing _ _ parts => parts
  | _ => []

def isComputed (m : Meaning) (name : String) : Bool :=
  match m with
  | .thing _ path _ => (ExchangeClass.named? path).any (name ∈ ·.computed)
  | _ => false

def attributeOf (m : Meaning) (name : String) : Except Fault Meaning :=
  if name = "__class__" then .ok m.classOf
  else if m.isComputed name then ExchangeClass.computedOf m.parts name
  else
    match ownAttribute? m name with
    | some found => .ok found
    | none =>
      match m with
      | .container origin _ => .error (noAttribute (.cls origin) name)
      | .unpacked origin _ => .error (noAttribute (.cls origin) name)
      | m =>
        let owner := (m.classOf.label?).getD m.kindName
        if m.isClosed then .error (noAttribute m name)
        else if name = "__doc__" then .ok (orNothing (Summary.ofClass? owner))
        else if (m.prototype? name).isSome then .ok (.method m name)
        else if name = "__hash__" && owner ∈ changeableClasses then .ok .nothing
        else
          match memberOf? owner name with
          | some (.function, home) => .ok (.method (.cls (if name = "__new__" then home else owner)) name)
          | some _ => .ok (.method m name)
          | none => .error (noAttribute m name)

/-! Tests for classes. -/

def classNames (m : Meaning) : List String :=
  match m with
  | .model _ => ["ModelMetaclass", "ABCMeta", "type", WellKnown.root]
  | .record data _ _ => [data.name, modelBase.name, WellKnown.root]
  | m => if m.kindName = "_AnyMeta" then ["_AnyMeta", "type", WellKnown.root] else WellKnown.lineage m.kindName

def ownNames : Meaning → List String
  | .model data => [data.name, modelBase.name, WellKnown.root]
  | .cls path => WellKnown.lineage (lastName path)
  | _ => []

structure ClassTest where
  call : String
  wanted : String

def instanceTest : ClassTest := ⟨"isinstance", "a type, a tuple of types, or a union"⟩

def subclassTest : ClassTest := ⟨"issubclass", "a class, a tuple of classes, or a union"⟩

mutual

def isMeant (test : ClassTest) (names : List String) : Meaning → Except Fault Bool
  | .model data => .ok (data.name ∈ names)
  | .cls path =>
    if path = anyPath then .error (.typeError s!"typing.Any cannot be used with {test.call}()")
    else .ok (lastName path ∈ names)
  | .tuple items => isOneMeant test names items
  | .choice _ members => isOneMeant test names members
  | .container _ _ => .error (.typeError s!"{test.call}() argument 2 cannot be a parameterized generic")
  | .unpacked _ _ => .error (.typeError s!"{test.call}() argument 2 cannot be a parameterized generic")
  | .form name => .error (.typeError s!"typing.{name} cannot be used with {test.call}()")
  | _ => .error (.typeError s!"{test.call}() arg 2 must be {test.wanted}")

def isOneMeant (test : ClassTest) (names : List String) : List Meaning → Except Fault Bool
  | [] => .ok false
  | m :: ms => do if ← isMeant test names m then .ok true else isOneMeant test names ms

end

end RestDispatch.Meaning
