set_option autoImplicit false

/-!
The forms of the arguments of well-known functions, classes and members of classes, as these write them themselves.
-/
namespace RestDispatch.CallForm

-- A form, behind everything that has it. Members stand behind the names of their classes and a point; a star stands
-- for any class, and nothing for none.
abbrev Row := String × String

def first : List Row :=
  [("*.__abs__ *.__bool__ *.__dir__ *.__float__ *.__getnewargs__ *.__int__ *.__iter__ *.__len__ *.__neg__ " ++
    "*.__next__ *.__pos__ *.__repr__ *.__sizeof__ *.__str__ *.as_integer_ratio *.clear *.conjugate *.reverse " ++
    "bytearray.__reduce__ bytearray.copy bytes.__bytes__ complex.__complex__ dict.__reversed__ dict.popitem " ++
    "float.__ceil__ float.__floor__ float.__trunc__ float.hex float.is_integer int.__index__ int.__invert__ " ++
    "int.bit_count int.bit_length list.__reversed__ list.copy memoryview.release memoryview.tolist " ++
    "memoryview.toreadonly object.__getstate__ object.__reduce__ str.capitalize str.casefold str.isalnum " ++
    "str.isalpha str.isascii str.isdecimal str.isdigit str.isidentifier str.islower str.isnumeric " ++
    "str.isprintable str.isspace str.istitle str.isupper str.lower str.swapcase str.title str.upper " ++
    "type.__subclasses__ type.mro bytearray_iterator.__reduce__ method.__reduce__",
    "($self, /)"),
   ("*.__add__ *.__and__ *.__divmod__ *.__eq__ *.__floordiv__ *.__ge__ *.__gt__ *.__iadd__ *.__imul__ " ++
    "*.__ior__ *.__le__ *.__lt__ *.__mod__ *.__mul__ *.__ne__ *.__or__ *.__radd__ *.__rand__ *.__rdivmod__ " ++
    "*.__rfloordiv__ *.__rmod__ *.__rmul__ *.__ror__ *.__rsub__ *.__rtruediv__ *.__rxor__ *.__sub__ " ++
    "*.__truediv__ *.__xor__ *.remove int.__lshift__ int.__rlshift__ int.__rrshift__ int.__rshift__ " ++
    "list.count set.__iand__ set.__isub__ set.__ixor__ tuple.count",
    "($self, value, /)"),
   ("*.__call__ *.__init__",
    "($self, /, *args, **kwargs)"),
   ("*.__contains__ *.__delitem__ *.__getitem__",
    "($self, key, /)"),
   ("*.__delattr__ *.__getattribute__",
    "($self, name, /)"),
   ("*.__delete__ type.__instancecheck__",
    "($self, instance, /)"),
   ("*.__format__",
    "($self, format_spec, /)"),
   ("*.__get__",
    "($self, instance, owner=None, /)"),
   ("*.__new__",
    "($type, *args, **kwargs)"),
   ("*.__pow__ *.__rpow__",
    "($self, value, mod=None, /)"),
   ("*.__set__",
    "($self, instance, value, /)"),
   ("*.__setattr__",
    "($self, name, value, /)"),
   ("*.__setitem__",
    "($self, key, value, /)"),
   ("*.center *.ljust *.rjust",
    "($self, width, fillchar=b' ', /)"),
   ("*.decode str.encode",
    "($self, /, encoding='utf-8', errors='strict')"),
   ("*.expandtabs",
    "($self, /, tabsize=8)"),
   ("*.fromhex",
    "($type, string, /)"),
   ("*.hex",
    "($self, /, sep=<unrepresentable>, bytes_per_sep=1)"),
   ("*.issubset *.issuperset",
    "($self, other, /)"),
   ("*.join",
    "($self, iterable_of_bytes, /)"),
   ("*.lstrip *.rstrip *.strip",
    "($self, bytes=None, /)"),
   ("*.maketrans",
    "(frm, to, /)"),
   ("*.partition *.rpartition",
    "($self, sep, /)"),
   ("*.pop",
    "($self, index=-1, /)"),
   ("*.removeprefix",
    "($self, prefix, /)"),
   ("*.removesuffix",
    "($self, suffix, /)"),
   ("*.replace",
    "($self, old, new, count=-1, /)"),
   ("*.rsplit *.split",
    "($self, /, sep=None, maxsplit=-1)"),
   ("*.splitlines",
    "($self, /, keepends=False)"),
   ("*.translate",
    "($self, table, /, delete=b'')"),
   ("*.zfill",
    "($self, width, /)"),
   (".__import__",
    "($module, /, name, globals=None, locals=None, fromlist=(),\n           level=0)"),
   (".abs",
    "($module, x, /)"),
   (".aiter",
    "($module, async_iterable, /)"),
   (".all .any",
    "($module, iterable, /)"),
   (".anext",
    "($module, aiterator, default=<unrepresentable>, /)"),
   (".ascii .callable .hash .id .len .repr",
    "($module, obj, /)"),
   (".bin .hex .oct",
    "($module, number, /)"),
   (".chr",
    "($module, i, /)"),
   (".compile",
    "($module, /, source, filename, mode, flags=0,\n        dont_inherit=False, optimize=-1, *, _feature_versio" ++
    "n=-1)"),
   (".delattr .hasattr",
    "($module, obj, name, /)"),
   (".divmod",
    "($module, x, y, /)"),
   (".eval",
    "($module, source, globals=None, locals=None, /)"),
   (".exec",
    "($module, source, globals=None, locals=None, /, *, closure=None)"),
   (".format",
    "($module, value, format_spec='', /)"),
   (".globals .locals",
    "($module, /)"),
   (".input",
    "($module, prompt='', /)"),
   (".isinstance",
    "($module, obj, class_or_tuple, /)"),
   (".issubclass",
    "($module, cls, class_or_tuple, /)"),
   (".open",
    "($module, /, file, mode='r', buffering=-1, encoding=None,\n     errors=None, newline=None, closefd=True, o" ++
    "pener=None)"),
   (".ord",
    "($module, c, /)"),
   (".pow",
    "($module, /, base, exp, mod=None)"),
   (".print",
    "($module, /, *args, sep=' ', end='\\n', file=None, flush=False)"),
   (".round",
    "($module, /, number, ndigits=None)"),
   (".setattr",
    "($module, obj, name, value, /)"),
   (".sorted",
    "($module, iterable, /, *, key=None, reverse=False)"),
   (".sum",
    "($module, iterable, /, start=0)"),
   ("BaseExceptionGroup.split bytes.__getnewargs__ dict.__getitem__ dict.__sizeof__ dict.clear " ++
    "frozenset.__contains__ frozenset.__sizeof__ int.conjugate list.__getitem__ set.__contains__ " ++
    "set.__sizeof__ set.clear set.pop set.remove str.__getnewargs__ GenericAlias.__dir__ generator.__sizeof__ " ++
    "module.__dir__ code.__sizeof__",
    ""),
   ("bytearray.__reduce_ex__",
    "($self, proto=0, /)"),
   ("bytearray.append",
    "($self, item, /)"),
   ("bytearray.extend",
    "($self, iterable_of_ints, /)"),
   ("bytearray.insert",
    "($self, index, item, /)"),
   ("complex",
    "(real=0, imag=0)"),
   ("dict.fromkeys",
    "($type, iterable, value=None, /)"),
   ("dict.get dict.setdefault",
    "($self, key, default=None, /)"),
   ("dict.pop",
    "($self, key, default=<unrepresentable>, /)"),
   ("enumerate",
    "(iterable, start=0)"),
   ("float",
    "(x=0, /)"),
   ("float.__getformat__",
    "($type, typestr, /)"),
   ("float.__round__",
    "($self, ndigits=None, /)"),
   ("int.__round__",
    "($self, ndigits=<unrepresentable>, /)"),
   ("int.from_bytes",
    "($type, /, bytes, byteorder='big', *, signed=False)"),
   ("int.to_bytes",
    "($self, /, length=1, byteorder='big', *, signed=False)"),
   ("list tuple",
    "(iterable=(), /)"),
   ("list.append",
    "($self, object, /)"),
   ("list.extend str.join",
    "($self, iterable, /)"),
   ("list.index tuple.index",
    "($self, value, start=0, stop=sys.maxsize, /)"),
   ("list.insert",
    "($self, index, object, /)"),
   ("list.sort",
    "($self, /, *, key=None, reverse=False)"),
   ("memoryview",
    "(object)"),
   ("memoryview.cast",
    "($self, /, format, shape=<unrepresentable>)"),
   ("memoryview.tobytes",
    "($self, /, order='C')"),
   ("object type.__base__",
    "()"),
   ("object.__reduce_ex__",
    "($self, protocol, /)"),
   ("property",
    "(fget=None, fset=None, fdel=None, doc=None)"),
   ("reversed",
    "(sequence, /)"),
   ("str.center str.ljust str.rjust",
    "($self, width, fillchar=' ', /)"),
   ("str.lstrip str.rstrip str.strip",
    "($self, chars=None, /)"),
   ("str.maketrans",
    "(x, y=<unrepresentable>, z=<unrepresentable>, /)"),
   ("str.translate",
    "($self, table, /)"),
   ("type.__subclasscheck__",
    "($self, subclass, /)"),
   ("function",
    "(code, globals, name=None, argdefs=None, closure=None)"),
   ("module",
    "(name, doc=None)"),
   ("code",
    "(argcount, posonlyargcount, kwonlyargcount, nlocals, stacksize,\n     flags, codestring, constants, names," ++
    " varnames, filename, name,\n     qualname, firstlineno, linetable, exceptiontable, freevars=(),\n     cell" ++
    "vars=(), /)"),
   ("code._varname_from_oparg",
    "($self, /, oparg)"),
   ("code.replace",
    "($self, /, **changes)"),
   ("method",
    "(function, instance, /)")]

def said? (key : String) : Option String :=
  (first).findSome? fun (keys, text) =>
    if key ∈ keys.splitOn " " then some text else none

def ofFunction? (name : String) : Option String := said? ("." ++ name)

def ofClass? (name : String) : Option String := said? name

def ofMember? (owner name : String) : Option String :=
  ((said? (owner ++ "." ++ name)).or (said? ("*." ++ name))).bind fun text => if text = "" then none else some text

end RestDispatch.CallForm
