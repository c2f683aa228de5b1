set_option autoImplicit false

/-!
Names that annotations may use although nobody has defined them: classes, functions and constants, with the
labels that they have in messages.
-/
namespace RestDispatch.WellKnown

def classes : List String :=
  ["ArithmeticError", "AssertionError", "AttributeError", "BaseException", "BaseExceptionGroup",
   "BlockingIOError", "BrokenPipeError", "BufferError", "BytesWarning", "ChildProcessError",
   "ConnectionAbortedError", "ConnectionError", "ConnectionRefusedError", "ConnectionResetError",
   "DeprecationWarning", "EOFError", "EncodingWarning", "Exception", "ExceptionGroup",
   "FileExistsError", "FileNotFoundError", "FloatingPointError", "FutureWarning", "GeneratorExit",
   "ImportError", "ImportWarning", "IndentationError", "IndexError", "InterruptedError",
   "IsADirectoryError", "KeyError", "KeyboardInterrupt", "LookupError", "MemoryError",
   "ModuleNotFoundError", "NameError", "NotADirectoryError", "NotImplementedError", "OSError",
   "OverflowError", "PendingDeprecationWarning", "PermissionError", "ProcessLookupError",
   "RecursionError", "ReferenceError", "ResourceWarning", "RuntimeError", "RuntimeWarning",
   "StopAsyncIteration", "StopIteration", "SyntaxError", "SyntaxWarning", "SystemError", "SystemExit",
   "TabError", "TimeoutError", "TypeError", "UnboundLocalError", "UnicodeDecodeError",
   "UnicodeEncodeError", "UnicodeError", "UnicodeTranslateError", "UnicodeWarning", "UserWarning",
   "ValueError", "Warning", "ZeroDivisionError", "bool", "bytearray", "bytes", "classmethod",
   "complex", "dict", "enumerate", "filter", "float", "frozenset", "int", "list", "map", "memoryview",
   "object", "property", "range", "reversed", "set", "slice", "staticmethod", "str", "super", "tuple",
   "type", "zip"]

def functions : List String :=
  ["__build_class__", "__import__", "abs", "aiter", "all", "anext", "any", "ascii", "bin",
   "breakpoint", "callable", "chr", "compile", "delattr", "dir", "divmod", "eval", "exec", "format",
   "getattr", "globals", "hasattr", "hash", "hex", "id", "input", "isinstance", "issubclass", "iter",
   "len", "locals", "max", "min", "next", "oct", "open", "ord", "pow", "print", "repr", "round",
   "setattr", "sorted", "sum", "vars"]

def aliases : List (String × String) :=
  [("EnvironmentError", "OSError"), ("IOError", "OSError"), ("__loader__", "_frozen_importlib.BuiltinImporter")]

def constants : List (String × String × String) :=
  [("exit", "Use exit() or Ctrl-D (i.e. EOF) to exit", "Quitter"),
   ("quit", "Use quit() or Ctrl-D (i.e. EOF) to exit", "Quitter"),
   ("help", "Type help() for interactive help, or help(object) for help about object.", "_Helper"),
   ("__spec__",
    "ModuleSpec(name='builtins', loader=<class '_frozen_importlib.BuiltinImporter'>, origin='built-in')", "ModuleSpec")]

def texts : List (String × String) :=
  [("__name__", "builtins"), ("__package__", ""),
   ("__doc__",
    "Built-in functions, exceptions, and other objects.\n\nNoteworthy: None is the `nil' object; Ellipsis represents " ++
    "`...' in slices.")]

def families : List (String × List String) :=
  [("int", ["bool"]),
   ("BaseException", ["BaseExceptionGroup", "Exception", "GeneratorExit", "KeyboardInterrupt", "SystemExit"]),
   ("Exception",
    ["ArithmeticError", "AssertionError", "AttributeError", "BufferError", "EOFError", "OSError", "ImportError",
     "LookupError", "MemoryError", "NameError", "ReferenceError", "RuntimeError", "StopAsyncIteration",
     "StopIteration", "SyntaxError", "SystemError", "TypeError", "ValueError", "Warning"]),
   ("OSError",
    ["BlockingIOError", "ChildProcessError", "ConnectionError", "FileExistsError", "FileNotFoundError",
     "InterruptedError", "IsADirectoryError", "NotADirectoryError", "PermissionError", "ProcessLookupError",
     "TimeoutError"]),
   ("ConnectionError",
    ["BrokenPipeError", "ConnectionAbortedError", "ConnectionRefusedError", "ConnectionResetError"]),
   ("Warning",
    ["BytesWarning", "DeprecationWarning", "EncodingWarning", "FutureWarning", "ImportWarning",
     "PendingDeprecationWarning", "ResourceWarning", "RuntimeWarning", "SyntaxWarning", "UnicodeWarning",
     "UserWarning"]),
   ("BaseExceptionGroup", ["ExceptionGroup"]),
   ("ArithmeticError", ["FloatingPointError", "OverflowError", "ZeroDivisionError"]),
   ("LookupError", ["IndexError", "KeyError"]), ("ImportError", ["ModuleNotFoundError"]),
   ("RuntimeError", ["NotImplementedError", "RecursionError"]), ("SyntaxError", ["IndentationError"]),
   ("IndentationError", ["TabError"]), ("NameError", ["UnboundLocalError"]), ("ValueError", ["UnicodeError"]),
   ("UnicodeError", ["UnicodeDecodeError", "UnicodeEncodeError", "UnicodeTranslateError"])]

def root : String := "object"

def parents (cls : String) : List String :=
  if cls = root then []
  else if cls = "ExceptionGroup" then ["BaseExceptionGroup", "Exception"]
  else
    match families.find? fun (_, members) => cls ∈ members with
    | some (parent, _) => [parent]
    | none => [root]

def ancestorsWithin : Nat → String → List String
  | 0, _ => []
  | steps + 1, cls => (parents cls).head?.elim [] fun parent => parent :: ancestorsWithin steps parent

def lineage (cls : String) : List String :=
  if cls = "ExceptionGroup" then
    ["ExceptionGroup", "BaseExceptionGroup", "Exception", "BaseException", root]
  else cls :: ancestorsWithin 8 cls

def containers : List String :=
  ["BaseExceptionGroup", "ExceptionGroup", "dict", "enumerate", "frozenset", "list", "set", "tuple", "type"]

end RestDispatch.WellKnown
