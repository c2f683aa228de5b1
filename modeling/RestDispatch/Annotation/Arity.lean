import RestDispatch.Annotation.Arguments

set_option autoImplicit false

/-!
How many arguments the methods of well-known classes take, and what is said when there are too few or too many.
Methods that take arguments by name check them themselves.
-/
namespace RestDispatch

inductive Arity where
  | nothing
  | one
  | between (low high : Nat)
  | counted (low high : Nat)
  | any
  | slot (low high : Nat)
  | unpacked (low high : Nat)
deriving DecidableEq, Repr

namespace Arity

def rows : List (Arity × List String) :=
  [(.nothing,
    ["__dir__", "__getnewargs__", "__getstate__", "__sizeof__", "capitalize", "casefold", "isalnum", "isalpha",
     "isascii", "isdecimal", "isdigit", "isidentifier", "islower", "isnumeric", "isprintable", "isspace", "istitle",
     "isupper", "lower", "swapcase", "title", "upper", "__bytes__", "__alloc__", "clear", "copy", "reverse",
     "__ceil__", "__floor__", "__trunc__", "as_integer_ratio", "bit_count", "bit_length", "conjugate", "is_integer",
     "__complex__", "__reversed__", "items", "keys", "popitem", "values", "__enter__", "release", "tolist",
     "toreadonly", "close", "__reduce__", "__length_hint__", "mro", "__init_subclass__"]),
   (.one,
    ["__format__", "format_map", "join", "partition", "removeprefix", "removesuffix", "rpartition", "zfill", "fromhex",
     "append", "extend", "remove", "__getformat__", "__class_getitem__", "add", "discard", "isdisjoint", "issubset",
     "issuperset", "symmetric_difference", "symmetric_difference_update", "indices", "__setstate__", "add_note",
     "with_traceback", "send", "__mro_entries__", "__instancecheck__", "__subclasscheck__"]),
   (.between 0 1, ["strip", "lstrip", "rstrip", "__round__"]),
   (.between 1 2, ["center", "ljust", "rjust", "fromkeys", "get", "setdefault"]),
   (.between 1 3, ["throw"]),
   (.between 2 2, ["insert"]),
   (.between 2 3, ["replace"]),
   (.counted 1 3, ["find", "rfind", "rindex", "startswith", "endswith"]),
   (.any,
    ["difference", "difference_update", "intersection", "intersection_update", "union", "__exit__"])]

def ownRows : List (String × List (String × Arity)) :=
  [("str",
    [("count", .counted 1 3), ("index", .counted 1 3), ("maketrans", .between 1 3), ("translate", .one)]),
   ("bytes", [("count", .counted 1 3), ("index", .counted 1 3), ("maketrans", .between 2 2)]),
   ("bytearray",
    [("count", .counted 1 3), ("index", .counted 1 3), ("maketrans", .between 2 2), ("pop", .between 0 1)]),
   ("tuple", [("count", .one), ("index", .between 1 3)]),
   ("list", [("count", .one), ("index", .between 1 3), ("pop", .between 0 1), ("__getitem__", .one)]),
   ("range", [("count", .one), ("index", .one)]),
   ("dict", [("pop", .between 1 2), ("__contains__", .one), ("__getitem__", .one)]),
   ("set", [("pop", .nothing), ("update", .any), ("__contains__", .one)]),
   ("frozenset", [("__contains__", .one)]),
   ("float", [("hex", .nothing)])]

def slotRows : List (Arity × List String) :=
  [(.slot 0 0,
    ["__hash__", "__iter__", "__len__", "__repr__", "__str__", "__abs__", "__bool__", "__float__", "__index__",
     "__int__", "__invert__", "__neg__", "__pos__", "__del__", "__next__"]),
   (.unpacked 1 2, ["__pow__", "__rpow__", "__get__"]),
   (.unpacked 2 2, ["__setattr__", "__setitem__", "__set__"])]

def repetitions : List String := ["__mul__", "__rmul__", "__imul__"]

def freeSlots : List String := ["__call__", "__init__"]

def find? (table : List (Arity × List String)) (name : String) : Option Arity :=
  (table.find? fun (_, names) => name ∈ names).map (·.1)

def of? (kind : MemberKind) (owner name : String) : Option Arity :=
  match (ownRows.lookup owner).bind (·.lookup name) with
  | some own => some own
  | none =>
    match kind with
    | .slot =>
      if name ∈ freeSlots then none
      else if name ∈ repetitions && owner ∉ ["int", "float", "complex"] then some (.unpacked 1 1)
      else (find? slotRows name).or (some (.slot 1 1))
    | .attribute => none
    | .stored => none
    | _ => if owner ∈ ["bytes", "bytearray", "memoryview"] && name = "hex" then none else find? rows name

def expected (label : String) (low high given : Nat) : String :=
  let counted := CallArguments.counted
  let wanted :=
    if low = high then counted low
    else if given < low then "at least " ++ counted low
    else "at most " ++ counted high
  s!"{label} expected {wanted}, got {given}"

-- Checks the number of arguments of a method. `owner` stands before its name in messages; a method that has not
-- been taken from a thing is named with its class even where others are not.
def check (arity : Arity) (owner name : String) (isBound : Bool) (arguments : CallArguments) : Except Fault Unit := do
  let full := s!"{owner}.{name}"
  let given := arguments.count
  let isBare := match arity with
    | .counted _ _ => isBound
    | .any => isBound
    | _ => false
  let isSlot := match arity with
    | .slot _ _ => true
    | .unpacked _ _ => true
    | _ => false
  if !arguments.byName.isEmpty then
    let label := if isSlot then s!"wrapper {name}" else if isBare then name else full
    .error (.typeError s!"{label}() takes no keyword arguments")
  match arity with
  | .nothing => if given = 0 then .ok () else .error (.typeError s!"{full}() takes no arguments ({given} given)")
  | .one => if given = 1 then .ok () else .error (.typeError s!"{full}() takes exactly one argument ({given} given)")
  | .between low high =>
    if low ≤ given && given ≤ high then .ok () else .error (.typeError (expected name low high given))
  | .slot low high =>
    if low ≤ given && given ≤ high then .ok ()
    else .error (.typeError ((expected "" low high given).drop 1).toString)
  | .unpacked low high =>
    if low ≤ given && given ≤ high then .ok () else .error (.typeError (expected "" low high given))
  | .counted low high =>
    if given < low then .error (.typeError s!"{name}() takes at least {CallArguments.counted low} ({given} given)")
    else if high < given then .error (.typeError s!"{name}() takes at most {CallArguments.counted high} ({given} given)")
    else .ok ()
  | .any => .ok ()

end Arity
end RestDispatch
