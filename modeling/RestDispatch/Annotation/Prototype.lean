import RestDispatch.Annotation.Expression

set_option autoImplicit false

/-!
What the functions of some classes take by names. Their arguments are bound as those of functions without names are.
-/
namespace RestDispatch

-- A function of a class: its name, the names that it takes arguments by, and what stands for those that are not
-- given. Some belong to the class itself and not to its things.
structure Prototype where
  name : String
  form : FunctionForm
  defaults : List (String × Expression) := []
  ofClass : Bool := false

namespace Prototype

def plain (name : String) (names : List String := []) (defaults : List (String × Expression) := []) :
    Prototype :=
  ⟨name, { normal := "self" :: names }, defaults, false⟩

def named (name : String) (defaults : List (String × Expression)) : Prototype :=
  ⟨name, { normal := ["self"], byName := defaults.map (·.1) }, defaults, false⟩

-- A function of a thing that takes no arguments by names but any by position, or none.
def placed (name : String) (names : List String := []) : Prototype :=
  ⟨name, { byPosition := "self" :: names }, [], false⟩

def ofClasses (name : String) (names : List String) (byName : List (String × Expression))
    (defaults : List (String × Expression) := []) : Prototype :=
  ⟨name, { normal := "cls" :: names, byName := byName.map (·.1) }, byName ++ defaults, true⟩

def word (s : String) : Expression := .literal (.text (Text.lettersOf s))

def absent (names : List String) : List (String × Expression) := names.map fun name => (name, .nothing)

def untrue (names : List String) : List (String × Expression) := names.map fun name => (name, .truth false)

def dumping : List (String × Expression) :=
  absent ["include", "exclude", "context", "by_alias"] ++
  untrue ["exclude_unset", "exclude_defaults", "exclude_none", "exclude_computed_fields", "round_trip"] ++
  [("warnings", .truth true)] ++ absent ["fallback"] ++ untrue ["serialize_as_any"] ++
  absent ["polymorphic_serialization"]

def formerDumping : List (String × Expression) :=
  absent ["include", "exclude"] ++ untrue ["by_alias", "exclude_unset", "exclude_defaults", "exclude_none"]

def reading : List (String × Expression) := absent ["strict", "extra", "context", "by_alias", "by_name"]

def referenceForm : Expression := word "#/$defs/\x7bmodel\x7d"

def scheming : List (String × Expression) := [("by_alias", .truth true), ("ref_template", referenceForm)]

def ofModels : List Prototype :=
  [⟨"__init__", { byPosition := ["self"], keywords := some "data" }, [], false⟩,
   plain "__copy__", plain "__deepcopy__" ["memo"] (absent ["memo"]), plain "__getattr__" ["item"],
   plain "__setattr__" ["name", "value"], plain "__delattr__" ["item"], plain "__getstate__",
   plain "__setstate__" ["state"], plain "__eq__" ["other"], plain "__iter__", plain "__repr__", plain "__repr_args__",
   plain "__str__", plain "__repr_name__", plain "__repr_str__" ["join_str"], plain "__rich_repr__",
   ⟨"__replace__", { normal := ["self"], keywords := some "changes" }, [], false⟩,
   placed "model_post_init" ["context"],
   named "model_copy" (absent ["update"] ++ untrue ["deep"]),
   named "model_dump" (("mode", word "python") :: dumping),
   named "model_dump_json" (absent ["indent"] ++ untrue ["ensure_ascii"] ++ dumping),
   named "dict" formerDumping,
   ⟨"json",
    { normal := ["self"], byName := formerDumping.map (·.1) ++ ["encoder", "models_as_dict"],
      keywords := some "dumps_kwargs" },
    formerDumping ++ absent ["encoder", "models_as_dict"], false⟩,
   named "copy" (absent ["include", "exclude", "update"] ++ untrue ["deep"]),
   ⟨"model_construct", { normal := ["cls", "_fields_set"], keywords := some "values" }, absent ["_fields_set"], true⟩,
   ⟨"construct", { normal := ["cls", "_fields_set"], keywords := some "values" }, absent ["_fields_set"], true⟩,
   ofClasses "model_json_schema" ["by_alias", "ref_template", "schema_generator", "mode"]
     [("union_format", word "any_of")] (scheming ++ [("schema_generator", .nothing), ("mode", word "validation")]),
   ofClasses "schema" ["by_alias", "ref_template"] [] scheming,
   ⟨"schema_json",
    { normal := ["cls"], byName := scheming.map (·.1), keywords := some "dumps_kwargs" }, scheming, true⟩,
   ofClasses "model_parametrized_name" ["params"] [],
   ofClasses "model_rebuild" []
     [("force", .truth false), ("raise_errors", .truth true), ("_parent_namespace_depth", .literal (.int 2)),
      ("_types_namespace", .nothing)],
   ofClasses "model_validate" ["obj"] (("from_attributes", .nothing) :: reading),
   ofClasses "model_validate_json" ["json_data"] reading,
   ofClasses "model_validate_strings" ["obj"] reading,
   ofClasses "validate" ["value"] [], ofClasses "parse_obj" ["obj"] [], ofClasses "from_orm" ["obj"] [],
   ofClasses "parse_raw" ["b"]
     (absent ["content_type", "proto"] ++ [("encoding", word "utf8"), ("allow_pickle", .truth false)]),
   ofClasses "parse_file" ["path"]
     (absent ["content_type", "proto"] ++ [("encoding", word "utf8"), ("allow_pickle", .truth false)]),
   ⟨"update_forward_refs", { normal := ["cls"], keywords := some "localns" }, [], true⟩,
   ⟨"__pydantic_init_subclass__", { normal := ["cls"], keywords := some "kwargs" }, [], true⟩,
   ofClasses "__class_getitem__" ["typevar_values"] []]

def ofFields : List Prototype :=
  [plain "is_required", plain "rebuild_annotation", plain "__repr_args__", plain "__repr__", plain "__str__",
   ⟨"get_default", { normal := ["self"], byName := ["call_default_factory", "validated_data"] },
    [("call_default_factory", .truth false), ("validated_data", .nothing)], false⟩]

def ofForms : List (String × List Prototype) :=
  let calls : Prototype := ⟨"__call__", { normal := ["self"], rest := some "args", keywords := some "kwds" }, [], false⟩
  [("_SpecialForm",
    [plain "__init__" ["getitem"], plain "__getattr__" ["item"], plain "__mro_entries__" ["bases"], plain "__repr__",
     plain "__reduce__", calls, plain "__or__" ["other"], plain "__ror__" ["other"], plain "__instancecheck__" ["obj"],
     plain "__subclasscheck__" ["cls"], plain "__getitem__" ["parameters"]]),
   ("_UnionGenericAlias",
    [plain "copy_with" ["params"], plain "__eq__" ["other"], plain "__hash__", plain "__repr__",
     plain "__instancecheck__" ["obj"], plain "__subclasscheck__" ["cls"], plain "__reduce__"]),
   ("_GenericAlias",
    [⟨"__init__", { normal := ["self", "origin", "args"], byName := ["inst", "name"] },
      [("inst", .truth true), ("name", .nothing)], false⟩,
     plain "__getitem__" ["args"], plain "__mro_entries__" ["bases"], plain "__or__" ["right"],
     plain "__ror__" ["left"], plain "_determine_new_args" ["args"],
     plain "_make_substitution" ["args", "new_arg_by_param"]]),
   ("_BaseGenericAlias",
    [calls, plain "__dir__", plain "__getattr__" ["attr"], plain "__setattr__" ["attr", "val"]])]

def ofExchanges : List (String × List Prototype) :=
  [("Request",
    [plain "__init__" ["scope", "receive", "path_params"] (absent ["path_params"]), plain "body", plain "json"]),
   ("Response",
    [plain "__init__" ["body", "status_code", "headers", "media_type"]
       [("body", .literal (.bytes [])), ("status_code", .literal (.int 200)), ("headers", .nothing),
        ("media_type", word "text/plain; charset=utf-8")],
     plain "send" ["send"]])]

def modelClass : String := "BaseModel"

def fieldClass : String := "FieldInfo"

def table : List (String × List Prototype) :=
  [(modelClass, ofModels), (fieldClass, ofFields)] ++ ofForms ++ ofExchanges

def sources (cls : String) : List String :=
  if cls = "_UnionGenericAlias" then [cls, "_GenericAlias", "_BaseGenericAlias"] else [cls]

def find? (cls name : String) : Option (String × Prototype) :=
  (sources cls).findSome? fun owner =>
    ((table.lookup owner).bind fun found => found.find? (·.name = name)).map (owner, ·)

end Prototype
end RestDispatch
