set_option autoImplicit false

/-!
The members that well-known classes define themselves, by their names and by what they are: methods, slots behind
operators, computed attributes, stored attributes, and functions that belong to the class. Some classes define functions
that take arguments by names.
-/
namespace RestDispatch

inductive MemberKind where
  | method
  | slot
  | attribute
  | stored
  | function
  | named
deriving DecidableEq, Repr

namespace MemberKind

abbrev Row := String × MemberKind × String

def dataRows : List Row :=
  [("bool", .slot,
    "__and__ __or__ __rand__ __repr__ __ror__ __rxor__ __xor__"),
   ("bool", .function,
    "__new__"),
   ("bytearray", .method,
    "__alloc__ __reduce__ __reduce_ex__ __sizeof__ append capitalize center clear copy count decode endswith " ++
    "expandtabs extend find hex index insert isalnum isalpha isascii isdigit islower isspace istitle isupper join " ++
    "ljust lower lstrip partition pop remove removeprefix removesuffix replace reverse rfind rindex rjust " ++
    "rpartition rsplit rstrip split splitlines startswith strip swapcase title translate upper zfill"),
   ("bytearray", .slot,
    "__add__ __contains__ __delitem__ __eq__ __ge__ __getattribute__ __getitem__ __gt__ __iadd__ __imul__ " ++
    "__init__ __iter__ __le__ __len__ __lt__ __mod__ __mul__ __ne__ __repr__ __rmod__ __rmul__ __setitem__ " ++
    "__str__"),
   ("bytearray", .function,
    "__new__ fromhex maketrans"),
   ("bytes", .method,
    "__bytes__ __getnewargs__ capitalize center count decode endswith expandtabs find hex index isalnum isalpha " ++
    "isascii isdigit islower isspace istitle isupper join ljust lower lstrip partition removeprefix removesuffix " ++
    "replace rfind rindex rjust rpartition rsplit rstrip split splitlines startswith strip swapcase title " ++
    "translate upper zfill"),
   ("bytes", .slot,
    "__add__ __contains__ __eq__ __ge__ __getattribute__ __getitem__ __gt__ __hash__ __iter__ __le__ __len__ " ++
    "__lt__ __mod__ __mul__ __ne__ __repr__ __rmod__ __rmul__ __str__"),
   ("bytes", .function,
    "__new__ fromhex maketrans"),
   ("complex", .method,
    "__complex__ __format__ __getnewargs__ conjugate"),
   ("complex", .slot,
    "__abs__ __add__ __bool__ __eq__ __ge__ __getattribute__ __gt__ __hash__ __le__ __lt__ __mul__ __ne__ __neg__ " ++
    "__pos__ __pow__ __radd__ __repr__ __rmul__ __rpow__ __rsub__ __rtruediv__ __sub__ __truediv__"),
   ("complex", .stored,
    "imag real"),
   ("complex", .function,
    "__new__"),
   ("float", .method,
    "__ceil__ __floor__ __format__ __getnewargs__ __round__ __trunc__ as_integer_ratio conjugate hex is_integer"),
   ("float", .slot,
    "__abs__ __add__ __bool__ __divmod__ __eq__ __float__ __floordiv__ __ge__ __getattribute__ __gt__ __hash__ " ++
    "__int__ __le__ __lt__ __mod__ __mul__ __ne__ __neg__ __pos__ __pow__ __radd__ __rdivmod__ __repr__ " ++
    "__rfloordiv__ __rmod__ __rmul__ __rpow__ __rsub__ __rtruediv__ __sub__ __truediv__"),
   ("float", .attribute,
    "imag real"),
   ("float", .function,
    "__getformat__ __new__ fromhex"),
   ("int", .method,
    "__ceil__ __floor__ __format__ __getnewargs__ __round__ __sizeof__ __trunc__ as_integer_ratio bit_count " ++
    "bit_length conjugate to_bytes"),
   ("int", .slot,
    "__abs__ __add__ __and__ __bool__ __divmod__ __eq__ __float__ __floordiv__ __ge__ __getattribute__ __gt__ " ++
    "__hash__ __index__ __int__ __invert__ __le__ __lshift__ __lt__ __mod__ __mul__ __ne__ __neg__ __or__ __pos__ " ++
    "__pow__ __radd__ __rand__ __rdivmod__ __repr__ __rfloordiv__ __rlshift__ __rmod__ __rmul__ __ror__ __rpow__ " ++
    "__rrshift__ __rshift__ __rsub__ __rtruediv__ __rxor__ __sub__ __truediv__ __xor__"),
   ("int", .attribute,
    "denominator imag numerator real"),
   ("int", .function,
    "__new__ from_bytes"),
   ("memoryview", .method,
    "__enter__ __exit__ cast hex release tobytes tolist toreadonly"),
   ("memoryview", .slot,
    "__delitem__ __eq__ __ge__ __getattribute__ __getitem__ __gt__ __hash__ __iter__ __le__ __len__ __lt__ __ne__ " ++
    "__repr__ __setitem__"),
   ("memoryview", .attribute,
    "c_contiguous contiguous f_contiguous format itemsize nbytes ndim obj readonly shape strides suboffsets"),
   ("memoryview", .function,
    "__new__"),
   ("str", .method,
    "__format__ __getnewargs__ __sizeof__ capitalize casefold center count encode endswith expandtabs find format " ++
    "format_map index isalnum isalpha isascii isdecimal isdigit isidentifier islower isnumeric isprintable " ++
    "isspace istitle isupper join ljust lower lstrip partition removeprefix removesuffix replace rfind rindex " ++
    "rjust rpartition rsplit rstrip split splitlines startswith strip swapcase title translate upper zfill"),
   ("str", .slot,
    "__add__ __contains__ __eq__ __ge__ __getattribute__ __getitem__ __gt__ __hash__ __iter__ __le__ __len__ " ++
    "__lt__ __mod__ __mul__ __ne__ __repr__ __rmod__ __rmul__ __str__"),
   ("str", .function,
    "__new__ maketrans"),
   ("NoneType", .slot,
    "__bool__ __repr__"),
   ("NoneType", .function,
    "__new__"),
   ("ellipsis", .method,
    "__reduce__"),
   ("ellipsis", .slot,
    "__getattribute__ __repr__"),
   ("ellipsis", .function,
    "__new__"),
   ("NotImplementedType", .method,
    "__reduce__"),
   ("NotImplementedType", .slot,
    "__bool__ __repr__"),
   ("NotImplementedType", .function,
    "__new__")]

def collectionRows : List Row :=
  [("dict", .method,
    "__contains__ __getitem__ __reversed__ __sizeof__ clear copy get items keys pop popitem setdefault update " ++
    "values"),
   ("dict", .slot,
    "__delitem__ __eq__ __ge__ __getattribute__ __gt__ __init__ __ior__ __iter__ __le__ __len__ __lt__ __ne__ " ++
    "__or__ __repr__ __ror__ __setitem__"),
   ("dict", .function,
    "__class_getitem__ __new__ fromkeys"),
   ("enumerate", .method,
    "__reduce__"),
   ("enumerate", .slot,
    "__getattribute__ __iter__ __next__"),
   ("enumerate", .function,
    "__class_getitem__ __new__"),
   ("filter", .method,
    "__reduce__"),
   ("filter", .slot,
    "__getattribute__ __iter__ __next__"),
   ("filter", .function,
    "__new__"),
   ("frozenset", .method,
    "__contains__ __reduce__ __sizeof__ copy difference intersection isdisjoint issubset issuperset " ++
    "symmetric_difference union"),
   ("frozenset", .slot,
    "__and__ __eq__ __ge__ __getattribute__ __gt__ __hash__ __iter__ __le__ __len__ __lt__ __ne__ __or__ __rand__ " ++
    "__repr__ __ror__ __rsub__ __rxor__ __sub__ __xor__"),
   ("frozenset", .function,
    "__class_getitem__ __new__"),
   ("list", .method,
    "__getitem__ __reversed__ __sizeof__ append clear copy count extend index insert pop remove reverse sort"),
   ("list", .slot,
    "__add__ __contains__ __delitem__ __eq__ __ge__ __getattribute__ __gt__ __iadd__ __imul__ __init__ __iter__ " ++
    "__le__ __len__ __lt__ __mul__ __ne__ __repr__ __rmul__ __setitem__"),
   ("list", .function,
    "__class_getitem__ __new__"),
   ("map", .method,
    "__reduce__"),
   ("map", .slot,
    "__getattribute__ __iter__ __next__"),
   ("map", .function,
    "__new__"),
   ("range", .method,
    "__reduce__ __reversed__ count index"),
   ("range", .slot,
    "__bool__ __contains__ __eq__ __ge__ __getattribute__ __getitem__ __gt__ __hash__ __iter__ __le__ __len__ " ++
    "__lt__ __ne__ __repr__"),
   ("range", .stored,
    "start step stop"),
   ("range", .function,
    "__new__"),
   ("reversed", .method,
    "__length_hint__ __reduce__ __setstate__"),
   ("reversed", .slot,
    "__getattribute__ __iter__ __next__"),
   ("reversed", .function,
    "__new__"),
   ("set", .method,
    "__contains__ __reduce__ __sizeof__ add clear copy difference difference_update discard intersection " ++
    "intersection_update isdisjoint issubset issuperset pop remove symmetric_difference " ++
    "symmetric_difference_update union update"),
   ("set", .slot,
    "__and__ __eq__ __ge__ __getattribute__ __gt__ __iand__ __init__ __ior__ __isub__ __iter__ __ixor__ __le__ " ++
    "__len__ __lt__ __ne__ __or__ __rand__ __repr__ __ror__ __rsub__ __rxor__ __sub__ __xor__"),
   ("set", .function,
    "__class_getitem__ __new__"),
   ("slice", .method,
    "__reduce__ indices"),
   ("slice", .slot,
    "__eq__ __ge__ __getattribute__ __gt__ __le__ __lt__ __ne__ __repr__"),
   ("slice", .stored,
    "start step stop"),
   ("slice", .function,
    "__new__"),
   ("tuple", .method,
    "__getnewargs__ count index"),
   ("tuple", .slot,
    "__add__ __contains__ __eq__ __ge__ __getattribute__ __getitem__ __gt__ __hash__ __iter__ __le__ __len__ " ++
    "__lt__ __mul__ __ne__ __repr__ __rmul__"),
   ("tuple", .function,
    "__class_getitem__ __new__"),
   ("zip", .method,
    "__reduce__ __setstate__"),
   ("zip", .slot,
    "__getattribute__ __iter__ __next__"),
   ("zip", .function,
    "__new__"),
   ("generator", .method,
    "__sizeof__ close send throw"),
   ("generator", .slot,
    "__del__ __getattribute__ __iter__ __next__ __repr__"),
   ("generator", .attribute,
    "__name__ __qualname__ gi_frame gi_running gi_suspended gi_yieldfrom"),
   ("generator", .stored,
    "gi_code")]

def streamRows : List Row :=
  [("dict_keys", .method,
    "__reversed__ isdisjoint"),
   ("dict_keys", .slot,
    "__and__ __contains__ __eq__ __ge__ __getattribute__ __gt__ __iter__ __le__ __len__ __lt__ __ne__ __or__ " ++
    "__rand__ __repr__ __ror__ __rsub__ __rxor__ __sub__ __xor__"),
   ("dict_keys", .attribute,
    "mapping"),
   ("dict_values", .method,
    "__reversed__"),
   ("dict_values", .slot,
    "__getattribute__ __iter__ __len__ __repr__"),
   ("dict_values", .attribute,
    "mapping"),
   ("dict_items", .method,
    "__reversed__ isdisjoint"),
   ("dict_items", .slot,
    "__and__ __contains__ __eq__ __ge__ __getattribute__ __gt__ __iter__ __le__ __len__ __lt__ __ne__ __or__ " ++
    "__rand__ __repr__ __ror__ __rsub__ __rxor__ __sub__ __xor__"),
   ("dict_items", .attribute,
    "mapping"),
   ("dict_keyiterator", .method,
    "__length_hint__ __reduce__"),
   ("dict_keyiterator", .slot,
    "__getattribute__ __iter__ __next__"),
   ("dict_valueiterator", .method,
    "__length_hint__ __reduce__"),
   ("dict_valueiterator", .slot,
    "__getattribute__ __iter__ __next__"),
   ("dict_itemiterator", .method,
    "__length_hint__ __reduce__"),
   ("dict_itemiterator", .slot,
    "__getattribute__ __iter__ __next__"),
   ("dict_reversekeyiterator", .method,
    "__length_hint__ __reduce__"),
   ("dict_reversekeyiterator", .slot,
    "__iter__ __next__"),
   ("dict_reversevalueiterator", .method,
    "__length_hint__ __reduce__"),
   ("dict_reversevalueiterator", .slot,
    "__iter__ __next__"),
   ("dict_reverseitemiterator", .method,
    "__length_hint__ __reduce__"),
   ("dict_reverseitemiterator", .slot,
    "__iter__ __next__"),
   ("list_iterator", .method,
    "__length_hint__ __reduce__ __setstate__"),
   ("list_iterator", .slot,
    "__getattribute__ __iter__ __next__"),
   ("list_reverseiterator", .method,
    "__length_hint__ __reduce__ __setstate__"),
   ("list_reverseiterator", .slot,
    "__getattribute__ __iter__ __next__"),
   ("tuple_iterator", .method,
    "__length_hint__ __reduce__ __setstate__"),
   ("tuple_iterator", .slot,
    "__getattribute__ __iter__ __next__"),
   ("str_ascii_iterator", .method,
    "__length_hint__ __reduce__ __setstate__"),
   ("str_ascii_iterator", .slot,
    "__getattribute__ __iter__ __next__"),
   ("str_iterator", .method,
    "__length_hint__ __reduce__ __setstate__"),
   ("str_iterator", .slot,
    "__getattribute__ __iter__ __next__"),
   ("bytes_iterator", .method,
    "__length_hint__ __reduce__ __setstate__"),
   ("bytes_iterator", .slot,
    "__getattribute__ __iter__ __next__"),
   ("bytearray_iterator", .method,
    "__length_hint__ __reduce__ __setstate__"),
   ("bytearray_iterator", .slot,
    "__getattribute__ __iter__ __next__"),
   ("range_iterator", .method,
    "__length_hint__ __reduce__ __setstate__"),
   ("range_iterator", .slot,
    "__getattribute__ __iter__ __next__"),
   ("longrange_iterator", .method,
    "__length_hint__ __reduce__ __setstate__"),
   ("longrange_iterator", .slot,
    "__getattribute__ __iter__ __next__"),
   ("set_iterator", .method,
    "__length_hint__ __reduce__"),
   ("set_iterator", .slot,
    "__getattribute__ __iter__ __next__"),
   ("memory_iterator", .slot,
    "__getattribute__ __iter__ __next__"),
   ("callable_iterator", .method,
    "__reduce__"),
   ("callable_iterator", .slot,
    "__getattribute__ __iter__ __next__"),
   ("generic_alias_iterator", .method,
    "__reduce__"),
   ("generic_alias_iterator", .slot,
    "__iter__ __next__")]

def classRows : List Row :=
  [("object", .method,
    "__dir__ __format__ __getstate__ __reduce__ __reduce_ex__ __sizeof__"),
   ("object", .slot,
    "__delattr__ __eq__ __ge__ __getattribute__ __gt__ __hash__ __init__ __le__ __lt__ __ne__ __repr__ " ++
    "__setattr__ __str__"),
   ("object", .attribute,
    "__class__"),
   ("object", .function,
    "__init_subclass__ __new__ __subclasshook__"),
   ("type", .method,
    "__dir__ __instancecheck__ __sizeof__ __subclasscheck__ __subclasses__ mro"),
   ("type", .slot,
    "__call__ __delattr__ __getattribute__ __init__ __or__ __repr__ __ror__ __setattr__"),
   ("type", .attribute,
    "__abstractmethods__ __annotations__ __bases__ __dict__ __doc__ __module__ __name__ __qualname__ " ++
    "__text_signature__"),
   ("type", .stored,
    "__base__ __basicsize__ __dictoffset__ __flags__ __itemsize__ __mro__ __weakrefoffset__"),
   ("type", .function,
    "__new__ __prepare__"),
   ("super", .slot,
    "__get__ __getattribute__ __init__ __repr__"),
   ("super", .stored,
    "__self__ __self_class__ __thisclass__"),
   ("super", .function,
    "__new__"),
   ("property", .method,
    "__set_name__ deleter getter setter"),
   ("property", .slot,
    "__delete__ __get__ __getattribute__ __init__ __set__"),
   ("property", .attribute,
    "__isabstractmethod__"),
   ("property", .stored,
    "__doc__ fdel fget fset"),
   ("property", .function,
    "__new__"),
   ("classmethod", .slot,
    "__get__ __init__ __repr__"),
   ("classmethod", .attribute,
    "__dict__ __isabstractmethod__"),
   ("classmethod", .stored,
    "__func__ __wrapped__"),
   ("classmethod", .function,
    "__new__"),
   ("staticmethod", .slot,
    "__call__ __get__ __init__ __repr__"),
   ("staticmethod", .attribute,
    "__dict__ __isabstractmethod__"),
   ("staticmethod", .stored,
    "__func__ __wrapped__"),
   ("staticmethod", .function,
    "__new__"),
   ("function", .slot,
    "__call__ __get__ __repr__"),
   ("function", .attribute,
    "__annotations__ __code__ __defaults__ __dict__ __kwdefaults__ __name__ __qualname__"),
   ("function", .stored,
    "__builtins__ __closure__ __doc__ __globals__ __module__"),
   ("function", .function,
    "__new__"),
   ("builtin_function_or_method", .method,
    "__reduce__"),
   ("builtin_function_or_method", .slot,
    "__call__ __eq__ __ge__ __getattribute__ __gt__ __hash__ __le__ __lt__ __ne__ __repr__"),
   ("builtin_function_or_method", .attribute,
    "__doc__ __name__ __qualname__ __self__ __text_signature__"),
   ("builtin_function_or_method", .stored,
    "__module__"),
   ("GenericAlias", .method,
    "__dir__ __instancecheck__ __mro_entries__ __reduce__ __subclasscheck__"),
   ("GenericAlias", .slot,
    "__call__ __eq__ __ge__ __getattribute__ __getitem__ __gt__ __hash__ __iter__ __le__ __lt__ __ne__ __or__ " ++
    "__repr__ __ror__"),
   ("GenericAlias", .attribute,
    "__parameters__ __typing_unpacked_tuple_args__"),
   ("GenericAlias", .stored,
    "__args__ __origin__ __unpacked__"),
   ("GenericAlias", .function,
    "__new__"),
   ("UnionType", .slot,
    "__eq__ __ge__ __getattribute__ __getitem__ __gt__ __hash__ __le__ __lt__ __ne__ __or__ __repr__ __ror__"),
   ("UnionType", .attribute,
    "__parameters__"),
   ("UnionType", .stored,
    "__args__"),
   ("method_descriptor", .method,
    "__reduce__"),
   ("method_descriptor", .slot,
    "__call__ __get__ __getattribute__ __repr__"),
   ("method_descriptor", .attribute,
    "__doc__ __qualname__ __text_signature__"),
   ("method_descriptor", .stored,
    "__name__ __objclass__"),
   ("wrapper_descriptor", .method,
    "__reduce__"),
   ("wrapper_descriptor", .slot,
    "__call__ __get__ __getattribute__ __repr__"),
   ("wrapper_descriptor", .attribute,
    "__doc__ __qualname__ __text_signature__"),
   ("wrapper_descriptor", .stored,
    "__name__ __objclass__"),
   ("getset_descriptor", .slot,
    "__delete__ __get__ __getattribute__ __repr__ __set__"),
   ("getset_descriptor", .attribute,
    "__doc__ __qualname__"),
   ("getset_descriptor", .stored,
    "__name__ __objclass__"),
   ("member_descriptor", .method,
    "__reduce__"),
   ("member_descriptor", .slot,
    "__delete__ __get__ __getattribute__ __repr__ __set__"),
   ("member_descriptor", .attribute,
    "__doc__ __qualname__"),
   ("member_descriptor", .stored,
    "__name__ __objclass__"),
   ("method-wrapper", .method,
    "__reduce__"),
   ("method-wrapper", .slot,
    "__call__ __eq__ __ge__ __getattribute__ __gt__ __hash__ __le__ __lt__ __ne__ __repr__"),
   ("method-wrapper", .attribute,
    "__doc__ __name__ __objclass__ __qualname__ __text_signature__"),
   ("method-wrapper", .stored,
    "__self__"),
   ("mappingproxy", .method,
    "__reversed__ copy get items keys values"),
   ("mappingproxy", .slot,
    "__contains__ __eq__ __ge__ __getattribute__ __getitem__ __gt__ __ior__ __iter__ __le__ __len__ __lt__ __ne__ " ++
    "__or__ __repr__ __ror__ __str__"),
   ("mappingproxy", .function,
    "__class_getitem__ __new__"),
   ("module", .method,
    "__dir__"),
   ("module", .slot,
    "__delattr__ __getattribute__ __init__ __repr__ __setattr__"),
   ("module", .attribute,
    "__annotations__"),
   ("module", .stored,
    "__dict__"),
   ("module", .function,
    "__new__"),
   ("code", .method,
    "__sizeof__ _varname_from_oparg co_lines co_positions replace"),
   ("code", .slot,
    "__eq__ __ge__ __getattribute__ __gt__ __hash__ __le__ __lt__ __ne__ __repr__"),
   ("code", .attribute,
    "_co_code_adaptive co_cellvars co_code co_freevars co_lnotab co_varnames"),
   ("code", .stored,
    "co_argcount co_consts co_exceptiontable co_filename co_firstlineno co_flags co_kwonlyargcount co_linetable " ++
    "co_name co_names co_nlocals co_posonlyargcount co_qualname co_stacksize"),
   ("code", .function,
    "__new__"),
   ("method", .method,
    "__reduce__"),
   ("method", .slot,
    "__call__ __delattr__ __eq__ __ge__ __getattribute__ __gt__ __hash__ __le__ __lt__ __ne__ __repr__ " ++
    "__setattr__"),
   ("method", .attribute,
    "__doc__"),
   ("method", .stored,
    "__func__ __self__"),
   ("method", .function,
    "__new__")]

def faultRows : List Row :=
  [("AttributeError", .slot,
    "__init__ __str__"),
   ("AttributeError", .stored,
    "name obj"),
   ("BaseException", .method,
    "__reduce__ __setstate__ add_note with_traceback"),
   ("BaseException", .slot,
    "__delattr__ __getattribute__ __init__ __repr__ __setattr__ __str__"),
   ("BaseException", .attribute,
    "__cause__ __context__ __dict__ __traceback__ args"),
   ("BaseException", .stored,
    "__suppress_context__"),
   ("BaseException", .function,
    "__new__"),
   ("BaseExceptionGroup", .method,
    "derive split subgroup"),
   ("BaseExceptionGroup", .slot,
    "__init__ __str__"),
   ("BaseExceptionGroup", .stored,
    "exceptions message"),
   ("BaseExceptionGroup", .function,
    "__class_getitem__ __new__"),
   ("OSError", .method,
    "__reduce__"),
   ("OSError", .slot,
    "__init__ __str__"),
   ("OSError", .attribute,
    "characters_written"),
   ("OSError", .stored,
    "errno filename filename2 strerror"),
   ("OSError", .function,
    "__new__"),
   ("ExceptionGroup", .attribute,
    "__weakref__"),
   ("ImportError", .method,
    "__reduce__"),
   ("ImportError", .slot,
    "__init__ __str__"),
   ("ImportError", .stored,
    "msg name path"),
   ("KeyError", .slot,
    "__init__ __str__"),
   ("NameError", .slot,
    "__init__ __str__"),
   ("NameError", .stored,
    "name"),
   ("StopIteration", .slot,
    "__init__"),
   ("StopIteration", .stored,
    "value"),
   ("SyntaxError", .slot,
    "__init__ __str__"),
   ("SyntaxError", .stored,
    "end_lineno end_offset filename lineno msg offset print_file_and_line text"),
   ("SystemExit", .slot,
    "__init__"),
   ("SystemExit", .stored,
    "code"),
   ("UnicodeDecodeError", .slot,
    "__init__ __str__"),
   ("UnicodeDecodeError", .stored,
    "encoding end object reason start"),
   ("UnicodeDecodeError", .function,
    "__new__"),
   ("UnicodeEncodeError", .slot,
    "__init__ __str__"),
   ("UnicodeEncodeError", .stored,
    "encoding end object reason start"),
   ("UnicodeEncodeError", .function,
    "__new__"),
   ("UnicodeTranslateError", .slot,
    "__init__ __str__"),
   ("UnicodeTranslateError", .stored,
    "encoding end object reason start"),
   ("UnicodeTranslateError", .function,
    "__new__")]

def plainFaults : List String :=
  ("ArithmeticError AssertionError BlockingIOError BrokenPipeError BufferError BytesWarning ChildProcessError " ++
   "ConnectionAbortedError ConnectionError ConnectionRefusedError ConnectionResetError DeprecationWarning " ++
   "EOFError EncodingWarning Exception FileExistsError FileNotFoundError FloatingPointError FutureWarning " ++
   "GeneratorExit ImportWarning IndentationError IndexError InterruptedError IsADirectoryError KeyboardInterrupt " ++
   "LookupError MemoryError ModuleNotFoundError NotADirectoryError NotImplementedError OverflowError " ++
   "PendingDeprecationWarning PermissionError ProcessLookupError RecursionError ReferenceError ResourceWarning " ++
   "RuntimeError RuntimeWarning StopAsyncIteration SyntaxWarning SystemError TabError TimeoutError TypeError " ++
   "UnboundLocalError UnicodeError UnicodeWarning UserWarning ValueError Warning ZeroDivisionError").splitOn " "

def rows : List Row := dataRows ++ collectionRows ++ streamRows ++ classRows ++ faultRows

def ofOwn? (owner name : String) : Option MemberKind :=
  if owner ∈ plainFaults then if name = "__init__" then some .slot else none
  else
    rows.findSome? fun (cls, kind, names) =>
      if cls = owner && name ∈ names.splitOn " " then some kind else none

def ownNames (owner : String) : List String :=
  if owner ∈ plainFaults then ["__init__"]
  else rows.flatMap fun (cls, _, names) => if cls = owner then names.splitOn " " else []

end MemberKind
end RestDispatch
