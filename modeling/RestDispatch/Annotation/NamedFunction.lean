import RestDispatch.Annotation.Dump
import RestDispatch.Annotation.Special

set_option autoImplicit false

/-!
Calling the functions that take arguments by names: those of models and records, of what models say of their fields, of
forms and choices, of requests and responses.
-/
namespace RestDispatch.Meaning

def givenAs (own : Bindings) (name : String) : Meaning := (own.lookup name).getD .nothing

/-! Models and records. -/

def dumpingOf (own : Bindings) : Dumping :=
  let isTrue := fun (name : String) => (givenAs own name).truthy
  { isJson := (givenAs own "mode").same (ofString "json")
    skipsUnset := isTrue "exclude_unset"
    skipsDefaults := isTrue "exclude_defaults"
    skipsNothing := isTrue "exclude_none" }

def selectionOf (own : Bindings) : Selection := ⟨givenAs own "include", givenAs own "exclude"⟩

def recordText (self : Meaning) (own : Bindings) : Except Fault Meaning := do
  let indent ← match givenAs own "indent" with
    | .nothing => .ok none
    | m =>
      match m.integer? with
      | some n =>
        if n < 0 then .error (.of "OverflowError" "can't convert negative int to unsigned") else .ok (some n.toNat)
      | none =>
        .error (.typeError
          s!"argument 'indent': '{m.kindName}' object cannot be interpreted as an integer")
  let layout : JsonLayout :=
    { indent, colon := if indent.isSome then ": " else ":", isBasic := (givenAs own "ensure_ascii").truthy }
  writtenRecord layout (dumpingOf own) (selectionOf own) self

-- A copy of a record with some of its fields only, and other values under some names.
def chosenCopy (self : Meaning) (own : Bindings) : Except Fault Meaning := do
  match self with
  | .record m given fields =>
    let kept ← fields.filterM fun (name, _) => do .ok ((← (selectionOf own).at? (ofString name)).isSome)
    let excluded := namesIn (givenAs own "exclude")
    let news ← match givenAs own "update" with
      | .dict entries => .ok (bindingsOf entries)
      | .nothing => .ok []
      | change => .error (.typeError s!"'{change.kindName}' object is not a mapping")
    let names := given ++ (news.map (·.1)).filter (· ∉ given)
    .ok (.record m (names.filter (· ∉ excluded)) (putAll kept news))
  | self => .ok self

def userFault (text : String) : Fault := .of "PydanticUserError" text

def callRecord (self : Meaning) (name : String) (own : Bindings) : Except Fault Meaning := do
  match name with
  | "model_dump" => dumped (dumpingOf own) (selectionOf own) self
  | "dict" => dumped (dumpingOf own) (selectionOf own) self
  | "model_dump_json" => recordText self own
  | "json" =>
    if (givenAs own "dumps_kwargs").truthy then
      .error (.typeError "`dumps_kwargs` keyword arguments are no longer supported.")
    else recordText self own
  | "model_copy" => updated self (givenAs own "update")
  | "__replace__" => updated self (givenAs own "changes")
  | "copy" => chosenCopy self own
  | "__copy__" => .ok self
  | "__deepcopy__" => .ok self
  | "__eq__" => compared .equal self (givenAs own "other")
  | "__iter__" => streamFrom self
  | "__repr__" => self.printed.map ofString
  | "__str__" => self.plain.map .text
  | "__repr_name__" => .ok (ofString self.kindName)
  | "__repr_args__" => streamFrom self
  | "__getattr__" => do self.attributeOf (← attributeName (givenAs own "item"))
  | "__setattr__" => do changeAttribute false self (← attributeName (givenAs own "name"))
  | "__delattr__" => do changeAttribute true self (← attributeName (givenAs own "item"))
  | "__getstate__" =>
    let parts ← ["__dict__", "__pydantic_extra__", "__pydantic_fields_set__", "__pydantic_private__"].mapM fun part => do
      .ok (part, ← self.attributeOf part)
    .ok (textEntries parts)
  | "__init__" =>
    match self, givenAs own "data" with
    | .record m _ _, data => (recordFrom m data).map fun _ => .nothing
    | _, _ => .ok .nothing
  | _ => .ok .nothing

def callModel (m : Model) (name : String) (own : Bindings) : Except Fault Meaning := do
  let form := match givenAs own "ref_template" with
    | .text t => Text.held t
    | _ => ""
  let read := fun (source : Meaning) => validated m source own
  match name with
  | "model_validate" => read (givenAs own "obj")
  | "model_validate_strings" => read (givenAs own "obj")
  | "parse_obj" => read (givenAs own "obj")
  | "validate" => read (givenAs own "value")
  | "model_validate_json" => do read (← jsonGiven m (givenAs own "json_data"))
  | "parse_raw" =>
    match jsonGiven m (givenAs own "b") with
    | .ok source => read source
    | .error _ => .error { refusedData m .invalidJson with details := [("__root__", "value_error.jsondecode")] }
  | "parse_file" => do
    .error (.of "FileNotFoundError" ("[Errno 2] No such file or directory: " ++ (← (givenAs own "path").printed)))
  | "model_construct" => .ok (assembled m (givenAs own "_fields_set") (bindingsIn (givenAs own "values")))
  | "construct" => .ok (assembled m (givenAs own "_fields_set") (bindingsIn (givenAs own "values")))
  | "model_json_schema" => .ok (schemeOf form m)
  | "schema" => .ok (schemeOf form m)
  | "schema_json" => .ok (.text (jsonText { comma := ", ", colon := ": ", isBasic := true } 0 (schemeOf form m)))
  | "model_parametrized_name" => .error (.typeError "Concrete names should only be generated for generic models.")
  | "model_rebuild" => .ok (if (givenAs own "force").truthy then .truth true else .nothing)
  | "from_orm" => .error (userFault "You must set the config attribute `from_attributes=True` to use from_orm")
  | "update_forward_refs" =>
    if (givenAs own "localns").truthy then .error (.typeError "`localns` arguments are not longer accepted.")
    else .ok .nothing
  | "__class_getitem__" => .error (notSubscriptable (.model m))
  | _ => .ok .nothing
where
  bindingsIn : Meaning → Bindings
    | .dict entries => bindingsOf entries
    | _ => []

def callField (self : Meaning) (name : String) : Except Fault Meaning :=
  let default := (self.parts.lookup "default").getD noDefault
  match name with
  | "is_required" => .ok (.truth (default.same noDefault))
  | "get_default" => .ok default
  | "rebuild_annotation" => .ok ((self.parts.lookup "annotation").getD .nothing)
  | "__repr_args__" => .ok (.stream "generator" [] none)
  | _ => self.printed.map ofString

/-! Forms and choices. -/

def notInstantiated (m : Meaning) : Fault :=
  .typeError ("Cannot instantiate typing." ++ (match m with
    | .form name => name
    | _ => choiceForm))

def isMemberMeant (m cls : Meaning) : Except Fault Meaning := do
  if !cls.isClass then .error (.typeError "issubclass() arg 1 must be a class")
  let members := match m with
    | .choice _ members => members
    | _ => []
  .ok (if ← isOneMeant subclassTest cls.ownNames members then .truth true else .nothing)

def callForm (self : Meaning) (name : String) (own : Bindings) : Except Fault Meaning := do
  let shown ← self.printed
  let isForm := self matches .form _
  let first := ((own.drop 1).head?.map (·.2)).getD .nothing
  match name with
  | "__or__" => namedChoiceOf [self, first]
  | "__ror__" => namedChoiceOf [first, self]
  | "__getitem__" => self.item first
  | "__call__" => .error (notInstantiated self)
  | "__repr__" => .ok (ofString shown)
  | "__mro_entries__" => .error (.typeError ("Cannot subclass " ++ shown))
  | "__getattr__" =>
    match first with
    | .text t =>
      if isForm && t ∈ ["__name__", "__qualname__"].map Text.lettersOf then self.attributeOf "__name__"
      else .error (.of "AttributeError" (Text.held t))
    | m =>
      if isForm then do
        checkKey m
        .error (.of "AttributeError" (Text.held (← m.plain)))
      else .error (m.noAttribute "startswith")
  | "copy_with" => namedChoiceOf first.arguments
  | "__eq__" => .ok (if first matches .choice _ _ then .truth (self.same first) else .notImplemented)
  | "__hash__" => .ok (.int 0)
  | "__reduce__" =>
    match self with
    | .choice _ members =>
      .ok (.tuple [.function "getitem", .tuple [.form choiceForm, .tuple members]])
    | self => self.attributeOf "__name__"
  | "__instancecheck__" =>
    if isForm then .error (.typeError (shown ++ " cannot be used with isinstance()"))
    else isMemberMeant self first.classOf
  | "__subclasscheck__" =>
    if isForm then .error (.typeError (shown ++ " cannot be used with issubclass()"))
    else isMemberMeant self first
  | _ => .ok .nothing

/-! Calls. -/

def waiting (owner name : String) : Meaning := .constant s!"<coroutine object {owner}.{name} {somewhere}>" "coroutine"

def callNamed (owner : String) (prototype : Prototype) (arguments : CallArguments) : Except Fault Meaning := do
  let own ← bindPrototype owner prototype arguments
  let self := (own.head?.map (·.2)).getD .nothing
  let name := prototype.name
  if owner = Prototype.modelClass then
    match self with
    | .record _ _ _ => callRecord self name own
    | .model m => callModel m name own
    | self => .error (self.noAttribute "__dict__")
  else if owner = Prototype.fieldClass then callField self name
  else if (Prototype.ofExchanges.lookup owner).isSome then
    if name = "__init__" then .ok .nothing else .ok (waiting owner name)
  else callForm self name own

end RestDispatch.Meaning
