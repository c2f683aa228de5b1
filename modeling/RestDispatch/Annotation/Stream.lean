import RestDispatch.Annotation.Construct

set_option autoImplicit false

/-!
How many elements things have, and how they give them out one after the other.
-/
namespace RestDispatch.Meaning

def lengthOf (m : Meaning) : Except Fault Meaning :=
  match m with
  | .stream kind items _ =>
    if isDictView kind then .ok (.int items.length) else refuse m
  | .record _ _ _ => refuse m
  | .container _ _ => refuse m
  | .range start stop step => do .ok (.int (← (Meaning.int (rangeLength start stop step)).sizeIndex))
  | m =>
    match m.elements with
    | .ok items => .ok (.int items.length)
    | .error _ => refuse m
where
  refuse (m : Meaning) : Except Fault Meaning := .error (.typeError s!"object of type '{m.kindName}' has no len()")

def streamKinds : List (String × String) :=
  [("dict", "dict_keyiterator"), ("dict_keys", "dict_keyiterator"), ("dict_values", "dict_valueiterator"),
   ("dict_items", "dict_itemiterator"), ("frozenset", "set_iterator"), ("memoryview", "memory_iterator"),
   ("types.GenericAlias", "generic_alias_iterator")]

def streamFrom (m : Meaning) : Except Fault Meaning :=
  match m with
  | .stream kind items failure => .ok (.stream ((streamKinds.lookup kind).getD kind) items failure)
  | .text t =>
    let isBasic := t.all fun letter => codeOf letter < 128
    .ok (.stream (if isBasic then "str_ascii_iterator" else "str_iterator") (t.map fun letter => .text [letter]) none)
  | .record _ _ _ => do .ok (.stream "generator" (← m.elements) none)
  | m => do
    .ok (.stream ((streamKinds.lookup m.kindName).getD (m.kindName ++ "_iterator")) (← m.elements) none)

def nextOf (arguments : CallArguments) : Except Fault Meaning := do
  match ← arguments.between "next" 1 2 with
  | .stream kind items failure :: default =>
    if isDictView kind then
      .error (.typeError s!"'{kind}' object is not an iterator")
    else
      match items, failure, default with
      | m :: _, _, _ => .ok m
      | [], some failure, _ => .error failure
      | [], none, m :: _ => .ok m
      | [], none, [] => .error (.of "StopIteration" "")
  | m :: _ => .error (.typeError s!"'{m.kindName}' object is not an iterator")
  | [] => .ok .nothing

end RestDispatch.Meaning
