set_option autoImplicit false

/-!
What well-known functions, classes and members of classes say about themselves.
-/
namespace RestDispatch.Summary

-- What is said, behind everything of which it is said. Members stand behind the names of their classes and a point;
-- a star stands for any class, and nothing for none.
abbrev Row := String × String

def first : List Row :=
  [("*.__abs__",
    "abs(self)"),
   ("*.__add__",
    "Return self+value."),
   ("*.__and__",
    "Return self&value."),
   ("*.__bool__",
    "True if self else False"),
   ("*.__call__",
    "Call self as a function."),
   ("*.__class_getitem__",
    "See PEP 585"),
   ("*.__contains__",
    "Return key in self."),
   ("*.__delattr__",
    "Implement delattr(self, name)."),
   ("*.__delete__",
    "Delete an attribute of instance."),
   ("*.__delitem__",
    "Delete self[key]."),
   ("*.__divmod__",
    "Return divmod(self, value)."),
   ("*.__eq__",
    "Return self==value."),
   ("*.__float__",
    "float(self)"),
   ("*.__floordiv__",
    "Return self//value."),
   ("*.__ge__",
    "Return self>=value."),
   ("*.__get__",
    "Return an attribute of instance, which is of type owner."),
   ("*.__getattribute__",
    "Return getattr(self, name)."),
   ("*.__getitem__",
    "Return self[key]."),
   ("*.__gt__",
    "Return self>value."),
   ("*.__iadd__",
    "Implement self+=value."),
   ("*.__imul__",
    "Implement self*=value."),
   ("*.__init__",
    "Initialize self.  See help(type(self)) for accurate signature."),
   ("*.__int__",
    "int(self)"),
   ("*.__ior__",
    "Return self|=value."),
   ("*.__iter__",
    "Implement iter(self)."),
   ("*.__le__",
    "Return self<=value."),
   ("*.__len__",
    "Return len(self)."),
   ("*.__length_hint__",
    "Private method returning an estimate of len(list(it))."),
   ("*.__lt__",
    "Return self<value."),
   ("*.__mod__",
    "Return self%value."),
   ("*.__mul__",
    "Return self*value."),
   ("*.__ne__",
    "Return self!=value."),
   ("*.__neg__",
    "-self"),
   ("*.__new__",
    "Create and return a new object.  See help(type) for accurate signature."),
   ("*.__next__",
    "Implement next(self)."),
   ("*.__or__",
    "Return self|value."),
   ("*.__pos__",
    "+self"),
   ("*.__pow__",
    "Return pow(self, value, mod)."),
   ("*.__radd__",
    "Return value+self."),
   ("*.__rand__",
    "Return value&self."),
   ("*.__rdivmod__",
    "Return divmod(value, self)."),
   ("*.__reduce__ bytearray.__reduce_ex__",
    "Return state information for pickling."),
   ("*.__repr__",
    "Return repr(self)."),
   ("*.__reversed__",
    "Return a reverse iterator over the dict keys."),
   ("*.__rfloordiv__",
    "Return value//self."),
   ("*.__rmod__",
    "Return value%self."),
   ("*.__rmul__",
    "Return value*self."),
   ("*.__ror__",
    "Return value|self."),
   ("*.__rpow__",
    "Return pow(value, self, mod)."),
   ("*.__rsub__",
    "Return value-self."),
   ("*.__rtruediv__",
    "Return value/self."),
   ("*.__rxor__",
    "Return value^self."),
   ("*.__set__",
    "Set an attribute of instance to value."),
   ("*.__setattr__",
    "Implement setattr(self, name, value)."),
   ("*.__setitem__",
    "Set self[key] to value."),
   ("*.__setstate__",
    "Set state information for unpickling."),
   ("*.__sizeof__",
    "S.__sizeof__() -> size of S in memory, in bytes"),
   ("*.__str__",
    "Return str(self)."),
   ("*.__sub__",
    "Return self-value."),
   ("*.__truediv__",
    "Return self/value."),
   ("*.__xor__",
    "Return self^value."),
   ("*.capitalize",
    "B.capitalize() -> copy of B\n\nReturn a copy of B with only its first character capitalized (ASCII)\nand t" ++
    "he rest lower-cased."),
   ("*.center",
    "Return a centered string of length width.\n\nPadding is done using the specified fill character."),
   ("*.copy",
    "D.copy() -> a shallow copy of D"),
   ("*.count",
    "B.count(sub[, start[, end]]) -> int\n\nReturn the number of non-overlapping occurrences of subsection sub " ++
    "in\nbytes B[start:end].  Optional arguments start and end are interpreted\nas in slice notation."),
   ("*.difference",
    "Return the difference of two or more sets as a new set.\n\n(i.e. all elements that are in this set but not" ++
    " the others.)"),
   ("*.encoding",
    "exception encoding"),
   ("*.end",
    "exception end"),
   ("*.endswith",
    "B.endswith(suffix[, start[, end]]) -> bool\n\nReturn True if B ends with the specified suffix, False other" ++
    "wise.\nWith optional start, test B beginning at that position.\nWith optional end, stop comparing B at tha" ++
    "t position.\nsuffix can also be a tuple of bytes to try."),
   ("*.expandtabs",
    "Return a copy where all tab characters are expanded using spaces.\n\nIf tabsize is not given, a tab size o" ++
    "f 8 characters is assumed."),
   ("*.filename",
    "exception filename"),
   ("*.find",
    "B.find(sub[, start[, end]]) -> int\n\nReturn the lowest index in B where subsection sub is found,\nsuch th" ++
    "at sub is contained within B[start,end].  Optional\narguments start and end are interpreted as in slice no" ++
    "tation.\n\nReturn -1 on failure."),
   ("*.imag",
    "the imaginary part of a complex number"),
   ("*.index",
    "B.index(sub[, start[, end]]) -> int\n\nReturn the lowest index in B where subsection sub is found,\nsuch t" ++
    "hat sub is contained within B[start,end].  Optional\narguments start and end are interpreted as in slice n" ++
    "otation.\n\nRaises ValueError when the subsection is not found."),
   ("*.intersection",
    "Return the intersection of two sets as a new set.\n\n(i.e. all elements that are in both sets.)"),
   ("*.isalnum",
    "B.isalnum() -> bool\n\nReturn True if all characters in B are alphanumeric\nand there is at least one char" ++
    "acter in B, False otherwise."),
   ("*.isalpha",
    "B.isalpha() -> bool\n\nReturn True if all characters in B are alphabetic\nand there is at least one charac" ++
    "ter in B, False otherwise."),
   ("*.isascii",
    "B.isascii() -> bool\n\nReturn True if B is empty or all characters in B are ASCII,\nFalse otherwise."),
   ("*.isdigit",
    "B.isdigit() -> bool\n\nReturn True if all characters in B are digits\nand there is at least one character " ++
    "in B, False otherwise."),
   ("*.isdisjoint",
    "Return True if two sets have a null intersection."),
   ("*.islower",
    "B.islower() -> bool\n\nReturn True if all cased characters in B are lowercase and there is\nat least one c" ++
    "ased character in B, False otherwise."),
   ("*.isspace",
    "B.isspace() -> bool\n\nReturn True if all characters in B are whitespace\nand there is at least one charac" ++
    "ter in B, False otherwise."),
   ("*.issubset",
    "Test whether every element in the set is in other."),
   ("*.issuperset",
    "Test whether every element in other is in the set."),
   ("*.istitle",
    "B.istitle() -> bool\n\nReturn True if B is a titlecased string and there is at least one\ncharacter in B, " ++
    "i.e. uppercase characters may only follow uncased\ncharacters and lowercase characters only cased ones. Re" ++
    "turn False\notherwise."),
   ("*.isupper",
    "B.isupper() -> bool\n\nReturn True if all cased characters in B are uppercase and there is\nat least one c" ++
    "ased character in B, False otherwise."),
   ("*.items",
    "D.items() -> a set-like object providing a view on D's items"),
   ("*.keys",
    "D.keys() -> a set-like object providing a view on D's keys"),
   ("*.ljust",
    "Return a left-justified string of length width.\n\nPadding is done using the specified fill character."),
   ("*.lower",
    "B.lower() -> copy of B\n\nReturn a copy of B with all ASCII characters converted to lowercase.")]

def second : List Row :=
  [("*.maketrans",
    "Return a translation table useable for the bytes or bytearray translate method.\n\nThe returned table will" ++
    " be one where each byte in frm is mapped to the byte at\nthe same position in to.\n\nThe bytes objects frm" ++
    " and to must be of the same length."),
   ("*.mapping",
    "dictionary that this view refers to"),
   ("*.object",
    "exception object"),
   ("*.real",
    "the real part of a complex number"),
   ("*.reason",
    "exception reason"),
   ("*.replace",
    "Return a copy with all occurrences of substring old replaced by new.\n\n  count\n    Maximum number of occ" ++
    "urrences to replace.\n    -1 (the default value) means replace all occurrences.\n\nIf the optional argumen" ++
    "t count is given, only the first count occurrences are\nreplaced."),
   ("*.rfind",
    "B.rfind(sub[, start[, end]]) -> int\n\nReturn the highest index in B where subsection sub is found,\nsuch " ++
    "that sub is contained within B[start,end].  Optional\narguments start and end are interpreted as in slice " ++
    "notation.\n\nReturn -1 on failure."),
   ("*.rindex",
    "B.rindex(sub[, start[, end]]) -> int\n\nReturn the highest index in B where subsection sub is found,\nsuch" ++
    " that sub is contained within B[start,end].  Optional\narguments start and end are interpreted as in slice" ++
    " notation.\n\nRaise ValueError when the subsection is not found."),
   ("*.rjust",
    "Return a right-justified string of length width.\n\nPadding is done using the specified fill character."),
   ("*.rstrip",
    "Strip trailing bytes contained in the argument.\n\nIf the argument is omitted or None, strip trailing ASCI" ++
    "I whitespace."),
   ("*.start",
    "exception start"),
   ("*.startswith",
    "B.startswith(prefix[, start[, end]]) -> bool\n\nReturn True if B starts with the specified prefix, False o" ++
    "therwise.\nWith optional start, test B beginning at that position.\nWith optional end, stop comparing B at" ++
    " that position.\nprefix can also be a tuple of bytes to try."),
   ("*.strip",
    "Strip leading and trailing bytes contained in the argument.\n\nIf the argument is omitted or None, strip l" ++
    "eading and trailing ASCII whitespace."),
   ("*.swapcase",
    "B.swapcase() -> copy of B\n\nReturn a copy of B with uppercase ASCII characters converted\nto lowercase AS" ++
    "CII and vice versa."),
   ("*.symmetric_difference",
    "Return the symmetric difference of two sets as a new set.\n\n(i.e. all elements that are in exactly one of" ++
    " the sets.)"),
   ("*.title",
    "B.title() -> copy of B\n\nReturn a titlecased version of B, i.e. ASCII words start with uppercase\ncharact" ++
    "ers, all remaining cased characters have lowercase."),
   ("*.translate",
    "Return a copy with each character mapped by the given translation table.\n\n  table\n    Translation table" ++
    ", which must be a bytes object of length 256.\n\nAll characters occurring in the optional argument delete " ++
    "are removed.\nThe remaining characters are mapped through the given translation table."),
   ("*.union",
    "Return the union of sets as a new set.\n\n(i.e. all elements that are in either set.)"),
   ("*.upper",
    "B.upper() -> copy of B\n\nReturn a copy of B with all ASCII characters converted to uppercase."),
   ("*.values",
    "D.values() -> an object providing a view on D's values"),
   ("*.zfill",
    "Pad a numeric string with zeros on the left, to fill a field of the given width.\n\nThe original string is" ++
    " never truncated."),
   (".__build_class__",
    "__build_class__(func, name, /, *bases, [metaclass], **kwds) -> class\n\nInternal helper function used by t" ++
    "he class statement."),
   (".__import__",
    "Import a module.\n\nBecause this function is meant for use by the Python\ninterpreter and not for general " ++
    "use, it is better to use\nimportlib.import_module() to programmatically import a module.\n\nThe globals ar" ++
    "gument is only used to determine the context;\nthey are not modified.  The locals argument is unused.  The" ++
    " fromlist\nshould be a list of names to emulate ``from name import ...``, or an\nempty list to emulate ``i" ++
    "mport name``.\nWhen importing a module from a package, note that __import__('A.B', ...)\nreturns package A" ++
    " when fromlist is empty, but its submodule B when\nfromlist is not empty.  The level argument is used to d" ++
    "etermine whether to\nperform absolute or relative imports: 0 is absolute, while a positive number\nis the " ++
    "number of parent directories to search relative to the current module."),
   (".abs",
    "Return the absolute value of the argument."),
   (".aiter",
    "Return an AsyncIterator for an AsyncIterable object."),
   (".all",
    "Return True if bool(x) is True for all values x in the iterable.\n\nIf the iterable is empty, return True."),
   (".anext",
    "async anext(aiterator[, default])\n\nReturn the next item from the async iterator.  If default is given an" ++
    "d the async\niterator is exhausted, it is returned instead of raising StopAsyncIteration."),
   (".any",
    "Return True if bool(x) is True for any x in the iterable.\n\nIf the iterable is empty, return False."),
   (".ascii",
    "Return an ASCII-only representation of an object.\n\nAs repr(), return a string containing a printable rep" ++
    "resentation of an\nobject, but escape the non-ASCII characters in the string returned by\nrepr() using \\" ++
    "\\x, \\\\u or \\\\U escapes. This generates a string similar\nto that returned by repr() in Python 2."),
   (".bin",
    "Return the binary representation of an integer.\n\n   >>> bin(2796202)\n   '0b1010101010101010101010'"),
   (".breakpoint",
    "breakpoint(*args, **kws)\n\nCall sys.breakpointhook(*args, **kws).  sys.breakpointhook() must accept\nwhat" ++
    "ever arguments are passed.\n\nBy default, this drops you into the pdb debugger."),
   (".callable",
    "Return whether the object is callable (i.e., some kind of function).\n\nNote that classes are callable, as" ++
    " are instances of classes with a\n__call__() method."),
   (".chr",
    "Return a Unicode string of one character with ordinal i; 0 <= i <= 0x10ffff."),
   (".compile",
    "Compile source into a code object that can be executed by exec() or eval().\n\nThe source code may represe" ++
    "nt a Python module, statement or expression.\nThe filename will be used for run-time error messages.\nThe " ++
    "mode must be 'exec' to compile a module, 'single' to compile a\nsingle (interactive) statement, or 'eval' " ++
    "to compile an expression.\nThe flags argument, if present, controls which future statements influence\nthe" ++
    " compilation of the code.\nThe dont_inherit argument, if true, stops the compilation inheriting\nthe effec" ++
    "ts of any future statements in effect in the code calling\ncompile; if absent or false these statements do" ++
    " influence the compilation,\nin addition to any features explicitly specified."),
   (".delattr",
    "Deletes the named attribute from the given object.\n\ndelattr(x, 'y') is equivalent to ``del x.y``"),
   (".dir",
    "dir([object]) -> list of strings\n\nIf called without an argument, return the names in the current scope." ++
    "\nElse, return an alphabetized list of names comprising (some of) the attributes\nof the given object, and" ++
    " of attributes reachable from it.\nIf the object supplies a method named __dir__, it will be used; otherwi" ++
    "se\nthe default dir() logic is used and returns:\n  for a module object: the module's attributes.\n  for a" ++
    " class object:  its attributes, and recursively the attributes\n    of its bases.\n  for any other object:" ++
    " its attributes, its class's attributes, and\n    recursively the attributes of its class's base classes."),
   (".divmod",
    "Return the tuple (x//y, x%y).  Invariant: div*y + mod == x."),
   (".eval",
    "Evaluate the given source in the context of globals and locals.\n\nThe source may be a string representing" ++
    " a Python expression\nor a code object as returned by compile().\nThe globals must be a dictionary and loc" ++
    "als can be any mapping,\ndefaulting to the current globals and locals.\nIf only globals is given, locals d" ++
    "efaults to it."),
   (".exec",
    "Execute the given source in the context of globals and locals.\n\nThe source may be a string representing " ++
    "one or more Python statements\nor a code object as returned by compile().\nThe globals must be a dictionar" ++
    "y and locals can be any mapping,\ndefaulting to the current globals and locals.\nIf only globals is given," ++
    " locals defaults to it.\nThe closure must be a tuple of cellvars, and can only be used\nwhen source is a c" ++
    "ode object requiring exactly that many cellvars."),
   (".format",
    "Return value.__format__(format_spec)\n\nformat_spec defaults to the empty string.\nSee the Format Specific" ++
    "ation Mini-Language section of help('FORMATTING') for\ndetails."),
   (".getattr",
    "getattr(object, name[, default]) -> value\n\nGet a named attribute from an object; getattr(x, 'y') is equi" ++
    "valent to x.y.\nWhen a default argument is given, it is returned when the attribute doesn't\nexist; withou" ++
    "t it, an exception is raised in that case."),
   (".globals",
    "Return the dictionary containing the current scope's global variables.\n\nNOTE: Updates to this dictionary" ++
    " *will* affect name lookups in the current\nglobal scope and vice-versa."),
   (".hasattr",
    "Return whether the object has an attribute with the given name.\n\nThis is done by calling getattr(obj, na" ++
    "me) and catching AttributeError."),
   (".hash",
    "Return the hash value for the given object.\n\nTwo objects that compare equal must also have the same hash" ++
    " value, but the\nreverse is not necessarily true."),
   (".hex",
    "Return the hexadecimal representation of an integer.\n\n   >>> hex(12648430)\n   '0xc0ffee'"),
   (".id",
    "Return the identity of an object.\n\nThis is guaranteed to be unique among simultaneously existing objects" ++
    ".\n(CPython uses the object's memory address.)"),
   (".input",
    "Read a string from standard input.  The trailing newline is stripped.\n\nThe prompt string, if given, is p" ++
    "rinted to standard output without a\ntrailing newline before reading input.\n\nIf the user hits EOF (*nix:" ++
    " Ctrl-D, Windows: Ctrl-Z+Return), raise EOFError.\nOn *nix systems, readline is used if available."),
   (".isinstance",
    "Return whether an object is an instance of a class or of a subclass thereof.\n\nA tuple, as in ``isinstanc" ++
    "e(x, (A, B, ...))``, may be given as the target to\ncheck against. This is equivalent to ``isinstance(x, A" ++
    ") or isinstance(x, B)\nor ...`` etc."),
   (".issubclass",
    "Return whether 'cls' is derived from another class or is the same class.\n\nA tuple, as in ``issubclass(x," ++
    " (A, B, ...))``, may be given as the target to\ncheck against. This is equivalent to ``issubclass(x, A) or" ++
    " issubclass(x, B)\nor ...``."),
   (".iter",
    "iter(iterable) -> iterator\niter(callable, sentinel) -> iterator\n\nGet an iterator from an object.  In th" ++
    "e first form, the argument must\nsupply its own iterator, or be a sequence.\nIn the second form, the calla" ++
    "ble is called until it returns the sentinel."),
   (".len",
    "Return the number of items in a container."),
   (".locals",
    "Return a dictionary containing the current scope's local variables.\n\nNOTE: Whether or not updates to thi" ++
    "s dictionary will affect name lookups in\nthe local scope and vice-versa is *implementation dependent* and" ++
    " not\ncovered by any backwards compatibility guarantees."),
   (".max",
    "max(iterable, *[, default=obj, key=func]) -> value\nmax(arg1, arg2, *args, *[, key=func]) -> value\n\nWith" ++
    " a single iterable argument, return its biggest item. The\ndefault keyword-only argument specifies an obje" ++
    "ct to return if\nthe provided iterable is empty.\nWith two or more arguments, return the largest argument."),
   (".min",
    "min(iterable, *[, default=obj, key=func]) -> value\nmin(arg1, arg2, *args, *[, key=func]) -> value\n\nWith" ++
    " a single iterable argument, return its smallest item. The\ndefault keyword-only argument specifies an obj" ++
    "ect to return if\nthe provided iterable is empty.\nWith two or more arguments, return the smallest argumen" ++
    "t."),
   (".next",
    "next(iterator[, default])\n\nReturn the next item from the iterator. If default is given and the iterator" ++
    "\nis exhausted, it is returned instead of raising StopIteration."),
   (".oct",
    "Return the octal representation of an integer.\n\n   >>> oct(342391)\n   '0o1234567'"),
   (".open",
    "Open file and return a stream.  Raise OSError upon failure.\n\nfile is either a text or byte string giving" ++
    " the name (and the path\nif the file isn't in the current working directory) of the file to\nbe opened or " ++
    "an integer file descriptor of the file to be\nwrapped. (If a file descriptor is given, it is closed when t" ++
    "he\nreturned I/O object is closed, unless closefd is set to False.)\n\nmode is an optional string that spe" ++
    "cifies the mode in which the file\nis opened. It defaults to 'r' which means open for reading in text\nmod" ++
    "e.  Other common values are 'w' for writing (truncating the file if\nit already exists), 'x' for creating " ++
    "and writing to a new file, and\n'a' for appending (which on some Unix systems, means that all writes\nappe" ++
    "nd to the end of the file regardless of the current seek position).\nIn text mode, if encoding is not spec" ++
    "ified the encoding used is platform\ndependent: locale.getencoding() is called to get the current locale e" ++
    "ncoding.\n(For reading and writing raw bytes use binary mode and leave encoding\nunspecified.) The availab" ++
    "le modes are:\n\n========= ===============================================================\nCharacter Mean" ++
    "ing\n--------- ---------------------------------------------------------------\n'r'       open for reading" ++
    " (default)\n'w'       open for writing, truncating the file first\n'x'       create a new file and open it" ++
    " for writing\n'a'       open for writing, appending to the end of the file if it exists\n'b'       binary " ++
    "mode\n't'       text mode (default)\n'+'       open a disk file for updating (reading and writing)\n======" ++
    "=== ===============================================================\n\nThe default mode is 'rt' (open for " ++
    "reading text). For binary random\naccess, the mode 'w+b' opens and truncates the file to 0 bytes, while\n'" ++
    "r+b' opens the file without truncation. The 'x' mode implies 'w' and\nraises an `FileExistsError` if the f" ++
    "ile already exists.\n\nPython distinguishes between files opened in binary and text modes,\neven when the " ++
    "underlying operating system doesn't. Files opened in\nbinary mode (appending 'b' to the mode argument) ret" ++
    "urn contents as\nbytes objects without any decoding. In text mode (the default, or when\n't' is appended t" ++
    "o the mode argument), the contents of the file are\nreturned as strings, the bytes having been first decod" ++
    "ed using a\nplatform-dependent encoding or using the specified encoding if given.\n\nbuffering is an optio" ++
    "nal integer used to set the buffering policy.\nPass 0 to switch buffering off (only allowed in binary mode" ++
    "), 1 to select\nline buffering (only usable in text mode), and an integer > 1 to indicate\nthe size of a f" ++
    "ixed-size chunk buffer.  When no buffering argument is\ngiven, the default buffering policy works as follo" ++
    "ws:\n\n* Binary files are buffered in fixed-size chunks; the size of the buffer\n  is chosen using a heuri" ++
    "stic trying to determine the underlying device's\n  \"block size\" and falling back on `io.DEFAULT_BUFFER_" ++
    "SIZE`.\n  On many systems, the buffer will typically be 4096 or 8192 bytes long.\n\n* \"Interactive\" text" ++
    " files (files for which isatty() returns True)\n  use line buffering.  Other text files use the policy des" ++
    "cribed above\n  for binary files.\n\nencoding is the name of the encoding used to decode or encode the\nfi" ++
    "le. This should only be used in text mode. The default encoding is\nplatform dependent, but any encoding s" ++
    "upported by Python can be\npassed.  See the codecs module for the list of supported encodings.\n\nerrors i" ++
    "s an optional string that specifies how encoding errors are to\nbe handled---this argument should not be u" ++
    "sed in binary mode. Pass\n'strict' to raise a ValueError exception if there is an encoding error\n(the def" ++
    "ault of None has the same effect), or pass 'ignore' to ignore\nerrors. (Note that ignoring encoding errors" ++
    " can lead to data loss.)\nSee the documentation for codecs.register or run 'help(codecs.Codec)'\nfor a lis" ++
    "t of the permitted encoding error strings.\n\nnewline controls how universal newlines works (it only appli" ++
    "es to text\nmode). It can be None, '', '\\n', '\\r', and '\\r\\n'.  It works as\nfollows:\n\n* On input, i" ++
    "f newline is None, universal newlines mode is\n  enabled. Lines in the input can end in '\\n', '\\r', or '" ++
    "\\r\\n', and\n  these are translated into '\\n' before being returned to the\n  caller. If it is '', unive" ++
    "rsal newline mode is enabled, but line\n  endings are returned to the caller untranslated. If it has any o" ++
    "f\n  the other legal values, input lines are only terminated by the given\n  string, and the line ending i" ++
    "s returned to the caller untranslated.\n\n* On output, if newline is None, any '\\n' characters written ar" ++
    "e\n  translated to the system default line separator, os.linesep. If\n  newline is '' or '\\n', no transla" ++
    "tion takes place. If newline is any\n  of the other legal values, any '\\n' characters written are transla" ++
    "ted\n  to the given string.\n\nIf closefd is False, the underlying file descriptor will be kept open\nwhen" ++
    " the file is closed. This does not work when a file name is given\nand must be True in that case.\n\nA cus" ++
    "tom opener can be used by passing a callable as *opener*. The\nunderlying file descriptor for the file obj" ++
    "ect is then obtained by\ncalling *opener* with (*file*, *flags*). *opener* must return an open\nfile descr" ++
    "iptor (passing os.open as *opener* results in functionality\nsimilar to passing None).\n\nopen() returns a" ++
    " file object whose type depends on the mode, and\nthrough which the standard file operations such as readi" ++
    "ng and writing\nare performed. When open() is used to open a file in a text mode ('w',\n'r', 'wt', 'rt', e" ++
    "tc.), it returns a TextIOWrapper. When used to open\na file in a binary mode, the returned class varies: i" ++
    "n read binary\nmode, it returns a BufferedReader; in write binary and append binary\nmodes, it returns a B" ++
    "ufferedWriter, and in read/write mode, it returns\na BufferedRandom.\n\nIt is also possible to use a strin" ++
    "g or bytearray as a file for both\nreading and writing. For strings StringIO can be used like a file\nopen" ++
    "ed in a text mode, and for bytes a BytesIO can be used like a file\nopened in a binary mode."),
   (".ord",
    "Return the Unicode code point for a one-character string."),
   (".pow",
    "Equivalent to base**exp with 2 arguments or base**exp % mod with 3 arguments\n\nSome types, such as ints, " ++
    "are able to use a more efficient algorithm when\ninvoked using the three argument form."),
   (".print",
    "Prints the values to a stream, or to sys.stdout by default.\n\n  sep\n    string inserted between values, " ++
    "default a space.\n  end\n    string appended after the last value, default a newline.\n  file\n    a file-" ++
    "like object (stream); defaults to the current sys.stdout.\n  flush\n    whether to forcibly flush the stre" ++
    "am."),
   (".repr",
    "Return the canonical string representation of the object.\n\nFor many object types, including most builtin" ++
    "s, eval(repr(obj)) == obj."),
   (".round",
    "Round a number to a given precision in decimal digits.\n\nThe return value is an integer if ndigits is omi" ++
    "tted or None.  Otherwise\nthe return value has the same type as the number.  ndigits may be negative."),
   (".setattr",
    "Sets the named attribute on the given object to the specified value.\n\nsetattr(x, 'y', v) is equivalent t" ++
    "o ``x.y = v``"),
   (".sorted",
    "Return a new list containing all items from the iterable in ascending order.\n\nA custom key function can " ++
    "be supplied to customize the sort order, and the\nreverse flag can be set to request the result in descend" ++
    "ing order."),
   (".sum",
    "Return the sum of a 'start' value (default: 0) plus an iterable of numbers\n\nWhen the iterable is empty, " ++
    "return the start value.\nThis function is intended specifically for use with numeric values and may\nrejec" ++
    "t non-numeric types."),
   (".vars",
    "vars([object]) -> dictionary\n\nWithout arguments, equivalent to locals().\nWith an argument, equivalent t" ++
    "o object.__dict__."),
   ("ArithmeticError",
    "Base class for arithmetic errors."),
   ("AssertionError",
    "Assertion failed."),
   ("AttributeError",
    "Attribute not found."),
   ("AttributeError.name",
    "attribute name"),
   ("AttributeError.obj",
    "object"),
   ("BaseException",
    "Common base class for all exceptions"),
   ("BaseException.__cause__",
    "exception cause"),
   ("BaseException.__context__",
    "exception context"),
   ("BaseException.__reduce__ BaseException.__setstate__ OSError.__reduce__ ImportError.__reduce__ " ++
    "range.__reduce__ range.start slice.start ellipsis.__reduce__ NotImplementedType.__reduce__ " ++
    "builtin_function_or_method.__reduce__ GenericAlias.__reduce__ generic_alias_iterator.__reduce__ " ++
    "method_descriptor.__reduce__ wrapper_descriptor.__reduce__ member_descriptor.__reduce__ " ++
    "method-wrapper.__reduce__ code.__sizeof__ method.__reduce__",
    ""),
   ("BaseException.add_note",
    "Exception.add_note(note) --\n    add a note to the exception"),
   ("BaseException.with_traceback",
    "Exception.with_traceback(tb) --\n    set self.__traceback__ to tb and return self."),
   ("BaseExceptionGroup",
    "A combination of multiple unrelated exceptions."),
   ("BaseExceptionGroup.exceptions",
    "nested exceptions"),
   ("BaseExceptionGroup.message ImportError.msg",
    "exception message"),
   ("BlockingIOError",
    "I/O operation would block."),
   ("BrokenPipeError",
    "Broken pipe."),
   ("BufferError",
    "Buffer error."),
   ("BytesWarning",
    "Base class for warnings about bytes and buffer related problems, mostly\nrelated to conversion from str or" ++
    " comparing to str."),
   ("ChildProcessError",
    "Child process error."),
   ("ConnectionAbortedError",
    "Connection aborted."),
   ("ConnectionError",
    "Connection error."),
   ("ConnectionRefusedError",
    "Connection refused."),
   ("ConnectionResetError",
    "Connection reset."),
   ("DeprecationWarning",
    "Base class for warnings about deprecated features.")]

def third : List Row :=
  [("EOFError",
    "Read beyond end of file."),
   ("EncodingWarning",
    "Base class for warnings about encodings."),
   ("OSError",
    "Base class for I/O related errors."),
   ("OSError.errno",
    "POSIX exception code"),
   ("OSError.filename2",
    "second exception filename"),
   ("OSError.strerror",
    "exception strerror"),
   ("Exception",
    "Common base class for all non-exit exceptions."),
   ("ExceptionGroup.__weakref__",
    "list of weak references to the object"),
   ("FileExistsError",
    "File already exists."),
   ("FileNotFoundError",
    "File not found."),
   ("FloatingPointError",
    "Floating point operation failed."),
   ("FutureWarning",
    "Base class for warnings about constructs that will change semantically\nin the future."),
   ("GeneratorExit",
    "Request that a generator exit."),
   ("ImportError",
    "Import can't find module, or can't find name in module."),
   ("ImportError.name",
    "module name"),
   ("ImportError.path",
    "module path"),
   ("ImportWarning",
    "Base class for warnings about probable mistakes in module imports"),
   ("IndentationError",
    "Improper indentation."),
   ("IndexError",
    "Sequence index out of range."),
   ("InterruptedError",
    "Interrupted by signal."),
   ("IsADirectoryError",
    "Operation doesn't work on directories."),
   ("KeyError",
    "Mapping key not found."),
   ("KeyboardInterrupt",
    "Program interrupted by user."),
   ("LookupError",
    "Base class for lookup errors."),
   ("MemoryError",
    "Out of memory."),
   ("ModuleNotFoundError",
    "Module not found."),
   ("NameError",
    "Name not found globally."),
   ("NameError.name",
    "name"),
   ("NotADirectoryError",
    "Operation only works on directories."),
   ("NotImplementedError",
    "Method or function hasn't been implemented yet."),
   ("OverflowError",
    "Result too large to be represented."),
   ("PendingDeprecationWarning",
    "Base class for warnings about features which will be deprecated\nin the future."),
   ("PermissionError",
    "Not enough permissions."),
   ("ProcessLookupError",
    "Process not found."),
   ("RecursionError",
    "Recursion limit exceeded."),
   ("ReferenceError",
    "Weak ref proxy used after referent went away."),
   ("ResourceWarning",
    "Base class for warnings about resource usage."),
   ("RuntimeError",
    "Unspecified run-time error."),
   ("RuntimeWarning",
    "Base class for warnings about dubious runtime behavior."),
   ("StopAsyncIteration",
    "Signal the end from iterator.__anext__()."),
   ("StopIteration",
    "Signal the end from iterator.__next__()."),
   ("StopIteration.value",
    "generator return value"),
   ("SyntaxError",
    "Invalid syntax."),
   ("SyntaxError.end_lineno",
    "exception end lineno"),
   ("SyntaxError.end_offset",
    "exception end offset"),
   ("SyntaxError.lineno",
    "exception lineno"),
   ("SyntaxError.msg",
    "exception msg"),
   ("SyntaxError.offset",
    "exception offset"),
   ("SyntaxError.print_file_and_line",
    "exception print_file_and_line"),
   ("SyntaxError.text",
    "exception text"),
   ("SyntaxWarning",
    "Base class for warnings about dubious syntax."),
   ("SystemError",
    "Internal error in the Python interpreter.\n\nPlease report this to the Python maintainer, along with the t" ++
    "raceback,\nthe Python version, and the hardware/OS platform and version."),
   ("SystemExit",
    "Request to exit from the interpreter."),
   ("SystemExit.code",
    "exception code"),
   ("TabError",
    "Improper mixture of spaces and tabs."),
   ("TimeoutError",
    "Timeout expired."),
   ("TypeError",
    "Inappropriate argument type."),
   ("UnboundLocalError",
    "Local name referenced but not bound to a value."),
   ("UnicodeDecodeError",
    "Unicode decoding error."),
   ("UnicodeEncodeError",
    "Unicode encoding error."),
   ("UnicodeError",
    "Unicode related error."),
   ("UnicodeTranslateError",
    "Unicode translation error."),
   ("UnicodeWarning",
    "Base class for warnings about Unicode related problems, mostly\nrelated to conversion problems."),
   ("UserWarning",
    "Base class for warnings generated by user code."),
   ("ValueError",
    "Inappropriate argument value (of correct type)."),
   ("Warning",
    "Base class for warning categories."),
   ("ZeroDivisionError",
    "Second argument to a division or modulo operation was zero."),
   ("bool",
    "bool(x) -> bool\n\nReturns True when the argument x is true, False otherwise.\nThe builtins True and False" ++
    " are the only two instances of the class bool.\nThe class bool is a subclass of the class int, and cannot " ++
    "be subclassed."),
   ("bytearray",
    "bytearray(iterable_of_ints) -> bytearray\nbytearray(string, encoding[, errors]) -> bytearray\nbytearray(by" ++
    "tes_or_buffer) -> mutable copy of bytes_or_buffer\nbytearray(int) -> bytes array of size given by the para" ++
    "meter initialized with null bytes\nbytearray() -> empty bytes array\n\nConstruct a mutable bytearray objec" ++
    "t from:\n  - an iterable yielding integers in range(256)\n  - a text string encoded using the specified en" ++
    "coding\n  - a bytes or a buffer object\n  - any object implementing the buffer API.\n  - an integer"),
   ("bytearray.__alloc__",
    "B.__alloc__() -> int\n\nReturn the number of bytes actually allocated."),
   ("bytearray.__sizeof__",
    "Returns the size of the bytearray object in memory, in bytes."),
   ("bytearray.append",
    "Append a single item to the end of the bytearray.\n\n  item\n    The item to be appended."),
   ("bytearray.clear",
    "Remove all items from the bytearray."),
   ("bytearray.copy",
    "Return a copy of B."),
   ("bytearray.decode",
    "Decode the bytearray using the codec registered for encoding.\n\n  encoding\n    The encoding with which t" ++
    "o decode the bytearray.\n  errors\n    The error handling scheme to use for the handling of decoding error" ++
    "s.\n    The default is 'strict' meaning that decoding errors raise a\n    UnicodeDecodeError. Other possib" ++
    "le values are 'ignore' and 'replace'\n    as well as any other name registered with codecs.register_error " ++
    "that\n    can handle UnicodeDecodeErrors."),
   ("bytearray.extend",
    "Append all the items from the iterator or sequence to the end of the bytearray.\n\n  iterable_of_ints\n   " ++
    " The iterable of items to append."),
   ("bytearray.fromhex",
    "Create a bytearray object from a string of hexadecimal numbers.\n\nSpaces between two numbers are accepted" ++
    ".\nExample: bytearray.fromhex('B9 01EF') -> bytearray(b'\\\\xb9\\\\x01\\\\xef')"),
   ("bytearray.hex",
    "Create a string of hexadecimal numbers from a bytearray object.\n\n  sep\n    An optional single character" ++
    " or byte to separate hex bytes.\n  bytes_per_sep\n    How many bytes between separators.  Positive values " ++
    "count from the\n    right, negative values count from the left.\n\nExample:\n>>> value = bytearray([0xb9, " ++
    "0x01, 0xef])\n>>> value.hex()\n'b901ef'\n>>> value.hex(':')\n'b9:01:ef'\n>>> value.hex(':', 2)\n'b9:01ef'" ++
    "\n>>> value.hex(':', -2)\n'b901:ef'"),
   ("bytearray.insert",
    "Insert a single item into the bytearray before the given index.\n\n  index\n    The index where the value " ++
    "is to be inserted.\n  item\n    The item to be inserted."),
   ("bytearray.join",
    "Concatenate any number of bytes/bytearray objects.\n\nThe bytearray whose method is called is inserted in " ++
    "between each pair.\n\nThe result is returned as a new bytearray object."),
   ("bytearray.lstrip",
    "Strip leading bytes contained in the argument.\n\nIf the argument is omitted or None, strip leading ASCII " ++
    "whitespace."),
   ("bytearray.partition",
    "Partition the bytearray into three parts using the given separator.\n\nThis will search for the separator " ++
    "sep in the bytearray. If the separator is\nfound, returns a 3-tuple containing the part before the separat" ++
    "or, the\nseparator itself, and the part after it as new bytearray objects.\n\nIf the separator is not foun" ++
    "d, returns a 3-tuple containing the copy of the\noriginal bytearray object and two empty bytearray objects" ++
    "."),
   ("bytearray.pop",
    "Remove and return a single item from B.\n\n  index\n    The index from where to remove the item.\n    -1 (" ++
    "the default value) means remove the last item.\n\nIf no index argument is given, will pop the last item."),
   ("bytearray.remove",
    "Remove the first occurrence of a value in the bytearray.\n\n  value\n    The value to remove."),
   ("bytearray.removeprefix",
    "Return a bytearray with the given prefix string removed if present.\n\nIf the bytearray starts with the pr" ++
    "efix string, return\nbytearray[len(prefix):].  Otherwise, return a copy of the original\nbytearray."),
   ("bytearray.removesuffix",
    "Return a bytearray with the given suffix string removed if present.\n\nIf the bytearray ends with the suff" ++
    "ix string and that suffix is not\nempty, return bytearray[:-len(suffix)].  Otherwise, return a copy of\nth" ++
    "e original bytearray."),
   ("bytearray.reverse",
    "Reverse the order of the values in B in place."),
   ("bytearray.rpartition",
    "Partition the bytearray into three parts using the given separator.\n\nThis will search for the separator " ++
    "sep in the bytearray, starting at the end.\nIf the separator is found, returns a 3-tuple containing the pa" ++
    "rt before the\nseparator, the separator itself, and the part after it as new bytearray\nobjects.\n\nIf the" ++
    " separator is not found, returns a 3-tuple containing two empty bytearray\nobjects and the copy of the ori" ++
    "ginal bytearray object."),
   ("bytearray.rsplit",
    "Return a list of the sections in the bytearray, using sep as the delimiter.\n\n  sep\n    The delimiter ac" ++
    "cording which to split the bytearray.\n    None (the default value) means split on ASCII whitespace charac" ++
    "ters\n    (space, tab, return, newline, formfeed, vertical tab).\n  maxsplit\n    Maximum number of splits" ++
    " to do.\n    -1 (the default value) means no limit.\n\nSplitting is done starting at the end of the bytear" ++
    "ray and working to the front."),
   ("bytearray.split",
    "Return a list of the sections in the bytearray, using sep as the delimiter.\n\n  sep\n    The delimiter ac" ++
    "cording which to split the bytearray.\n    None (the default value) means split on ASCII whitespace charac" ++
    "ters\n    (space, tab, return, newline, formfeed, vertical tab).\n  maxsplit\n    Maximum number of splits" ++
    " to do.\n    -1 (the default value) means no limit.")]

def fourth : List Row :=
  [("bytearray.splitlines",
    "Return a list of the lines in the bytearray, breaking at line boundaries.\n\nLine breaks are not included " ++
    "in the resulting list unless keepends is given and\ntrue."),
   ("bytes",
    "bytes(iterable_of_ints) -> bytes\nbytes(string, encoding[, errors]) -> bytes\nbytes(bytes_or_buffer) -> im" ++
    "mutable copy of bytes_or_buffer\nbytes(int) -> bytes object of size given by the parameter initialized wit" ++
    "h null bytes\nbytes() -> empty bytes object\n\nConstruct an immutable array of bytes from:\n  - an iterabl" ++
    "e yielding integers in range(256)\n  - a text string encoded using the specified encoding\n  - any object " ++
    "implementing the buffer API.\n  - an integer"),
   ("bytes.__bytes__",
    "Convert this value to exact type bytes."),
   ("bytes.decode",
    "Decode the bytes using the codec registered for encoding.\n\n  encoding\n    The encoding with which to de" ++
    "code the bytes.\n  errors\n    The error handling scheme to use for the handling of decoding errors.\n    " ++
    "The default is 'strict' meaning that decoding errors raise a\n    UnicodeDecodeError. Other possible value" ++
    "s are 'ignore' and 'replace'\n    as well as any other name registered with codecs.register_error that\n  " ++
    "  can handle UnicodeDecodeErrors."),
   ("bytes.fromhex",
    "Create a bytes object from a string of hexadecimal numbers.\n\nSpaces between two numbers are accepted.\nE" ++
    "xample: bytes.fromhex('B9 01EF') -> b'\\\\xb9\\\\x01\\\\xef'."),
   ("bytes.hex",
    "Create a string of hexadecimal numbers from a bytes object.\n\n  sep\n    An optional single character or " ++
    "byte to separate hex bytes.\n  bytes_per_sep\n    How many bytes between separators.  Positive values coun" ++
    "t from the\n    right, negative values count from the left.\n\nExample:\n>>> value = b'\\xb9\\x01\\xef'\n>" ++
    ">> value.hex()\n'b901ef'\n>>> value.hex(':')\n'b9:01:ef'\n>>> value.hex(':', 2)\n'b9:01ef'\n>>> value.hex(" ++
    "':', -2)\n'b901:ef'"),
   ("bytes.join",
    "Concatenate any number of bytes objects.\n\nThe bytes whose method is called is inserted in between each p" ++
    "air.\n\nThe result is returned as a new bytes object.\n\nExample: b'.'.join([b'ab', b'pq', b'rs']) -> b'ab" ++
    ".pq.rs'."),
   ("bytes.lstrip",
    "Strip leading bytes contained in the argument.\n\nIf the argument is omitted or None, strip leading  ASCII" ++
    " whitespace."),
   ("bytes.partition",
    "Partition the bytes into three parts using the given separator.\n\nThis will search for the separator sep " ++
    "in the bytes. If the separator is found,\nreturns a 3-tuple containing the part before the separator, the " ++
    "separator\nitself, and the part after it.\n\nIf the separator is not found, returns a 3-tuple containing t" ++
    "he original bytes\nobject and two empty bytes objects."),
   ("bytes.removeprefix",
    "Return a bytes object with the given prefix string removed if present.\n\nIf the bytes starts with the pre" ++
    "fix string, return bytes[len(prefix):].\nOtherwise, return a copy of the original bytes."),
   ("bytes.removesuffix",
    "Return a bytes object with the given suffix string removed if present.\n\nIf the bytes ends with the suffi" ++
    "x string and that suffix is not empty,\nreturn bytes[:-len(prefix)].  Otherwise, return a copy of the orig" ++
    "inal\nbytes."),
   ("bytes.rpartition",
    "Partition the bytes into three parts using the given separator.\n\nThis will search for the separator sep " ++
    "in the bytes, starting at the end. If\nthe separator is found, returns a 3-tuple containing the part befor" ++
    "e the\nseparator, the separator itself, and the part after it.\n\nIf the separator is not found, returns a" ++
    " 3-tuple containing two empty bytes\nobjects and the original bytes object."),
   ("bytes.rsplit",
    "Return a list of the sections in the bytes, using sep as the delimiter.\n\n  sep\n    The delimiter accord" ++
    "ing which to split the bytes.\n    None (the default value) means split on ASCII whitespace characters\n  " ++
    "  (space, tab, return, newline, formfeed, vertical tab).\n  maxsplit\n    Maximum number of splits to do." ++
    "\n    -1 (the default value) means no limit.\n\nSplitting is done starting at the end of the bytes and wor" ++
    "king to the front."),
   ("bytes.split",
    "Return a list of the sections in the bytes, using sep as the delimiter.\n\n  sep\n    The delimiter accord" ++
    "ing which to split the bytes.\n    None (the default value) means split on ASCII whitespace characters\n  " ++
    "  (space, tab, return, newline, formfeed, vertical tab).\n  maxsplit\n    Maximum number of splits to do." ++
    "\n    -1 (the default value) means no limit."),
   ("bytes.splitlines",
    "Return a list of the lines in the bytes, breaking at line boundaries.\n\nLine breaks are not included in t" ++
    "he resulting list unless keepends is given and\ntrue."),
   ("classmethod",
    "classmethod(function) -> method\n\nConvert a function to be a class method.\n\nA class method receives the" ++
    " class as implicit first argument,\njust like an instance method receives the instance.\nTo declare a clas" ++
    "s method, use this idiom:\n\n  class C:\n      @classmethod\n      def f(cls, arg1, arg2, argN):\n        " ++
    "  ...\n\nIt can be called either on the class (e.g. C.f()) or on an instance\n(e.g. C().f()).  The instanc" ++
    "e is ignored except for its class.\nIf a class method is called for a derived class, the derived class\nob" ++
    "ject is passed as the implied first argument.\n\nClass methods are different than C++ or Java static metho" ++
    "ds.\nIf you want those, see the staticmethod builtin."),
   ("complex",
    "Create a complex number from a real part and an optional imaginary part.\n\nThis is equivalent to (real + " ++
    "imag*1j) where imag defaults to 0."),
   ("complex.__complex__",
    "Convert this value to exact type complex."),
   ("complex.__format__",
    "Convert to a string according to format_spec."),
   ("complex.conjugate",
    "Return the complex conjugate of its argument. (3-4j).conjugate() == 3+4j."),
   ("dict",
    "dict() -> new empty dictionary\ndict(mapping) -> new dictionary initialized from a mapping object's\n    (" ++
    "key, value) pairs\ndict(iterable) -> new dictionary initialized as if via:\n    d = \x7b\x7d\n    for k, v" ++
    " in iterable:\n        d[k] = v\ndict(**kwargs) -> new dictionary initialized with the name=value pairs\n " ++
    "   in the keyword argument list.  For example:  dict(one=1, two=2)"),
   ("dict.__contains__",
    "True if the dictionary has the specified key, else False."),
   ("dict.__getitem__ list.__getitem__",
    "x.__getitem__(y) <==> x[y]"),
   ("dict.__sizeof__",
    "D.__sizeof__() -> size of D in memory, in bytes"),
   ("dict.clear",
    "D.clear() -> None.  Remove all items from D."),
   ("dict.fromkeys",
    "Create a new dictionary with keys from iterable and values set to value."),
   ("dict.get",
    "Return the value for key if key is in the dictionary, else default."),
   ("dict.pop",
    "D.pop(k[,d]) -> v, remove specified key and return the corresponding value.\n\nIf the key is not found, re" ++
    "turn the default if given; otherwise,\nraise a KeyError."),
   ("dict.popitem",
    "Remove and return a (key, value) pair as a 2-tuple.\n\nPairs are returned in LIFO (last-in, first-out) ord" ++
    "er.\nRaises KeyError if the dict is empty."),
   ("dict.setdefault",
    "Insert key with a value of default if key is not in the dictionary.\n\nReturn the value for key if key is " ++
    "in the dictionary, else default."),
   ("dict.update",
    "D.update([E, ]**F) -> None.  Update D from dict/iterable E and F.\nIf E is present and has a .keys() metho" ++
    "d, then does:  for k in E: D[k] = E[k]\nIf E is present and lacks a .keys() method, then does:  for k, v i" ++
    "n E: D[k] = v\nIn either case, this is followed by: for k in F:  D[k] = F[k]"),
   ("enumerate",
    "Return an enumerate object.\n\n  iterable\n    an object supporting iteration\n\nThe enumerate object yiel" ++
    "ds pairs containing a count (from start, which\ndefaults to zero) and a value yielded by the iterable argu" ++
    "ment.\n\nenumerate is useful for obtaining an indexed list:\n    (0, seq[0]), (1, seq[1]), (2, seq[2]), .." ++
    "."),
   ("filter",
    "filter(function or None, iterable) --> filter object\n\nReturn an iterator yielding those items of iterabl" ++
    "e for which function(item)\nis true. If function is None, return the items that are true."),
   ("float",
    "Convert a string or number to a floating point number, if possible."),
   ("float.__ceil__",
    "Return the ceiling as an Integral."),
   ("float.__floor__",
    "Return the floor as an Integral."),
   ("float.__format__",
    "Formats the float according to format_spec."),
   ("float.__getformat__",
    "You probably don't want to use this function.\n\n  typestr\n    Must be 'double' or 'float'.\n\nIt exists " ++
    "mainly to be used in Python's test suite.\n\nThis function returns whichever of 'unknown', 'IEEE, big-endi" ++
    "an' or 'IEEE,\nlittle-endian' best describes the format of floating point numbers used by the\nC type name" ++
    "d by typestr."),
   ("float.__round__",
    "Return the Integral closest to x, rounding half toward even.\n\nWhen an argument is passed, work like buil" ++
    "t-in round(x, ndigits)."),
   ("float.__trunc__",
    "Return the Integral closest to x between 0 and x."),
   ("float.as_integer_ratio",
    "Return integer ratio.\n\nReturn a pair of integers, whose ratio is exactly equal to the original float\nan" ++
    "d with a positive denominator.\n\nRaise OverflowError on infinities and a ValueError on NaNs.\n\n>>> (10.0" ++
    ").as_integer_ratio()\n(10, 1)\n>>> (0.0).as_integer_ratio()\n(0, 1)\n>>> (-.25).as_integer_ratio()\n(-1, 4" ++
    ")"),
   ("float.conjugate",
    "Return self, the complex conjugate of any float."),
   ("float.fromhex",
    "Create a floating-point number from a hexadecimal string.\n\n>>> float.fromhex('0x1.ffffp10')\n2047.984375" ++
    "\n>>> float.fromhex('-0x1p-1074')\n-5e-324"),
   ("float.hex",
    "Return a hexadecimal representation of a floating-point number.\n\n>>> (-0.1).hex()\n'-0x1.999999999999ap-" ++
    "4'\n>>> 3.14159.hex()\n'0x1.921f9f01b866ep+1'"),
   ("float.is_integer",
    "Return True if the float is an integer."),
   ("frozenset",
    "frozenset() -> empty frozenset object\nfrozenset(iterable) -> frozenset object\n\nBuild an immutable unord" ++
    "ered collection of unique elements."),
   ("frozenset.__contains__ set.__contains__",
    "x.__contains__(y) <==> y in x."),
   ("frozenset.copy set.copy",
    "Return a shallow copy of a set."),
   ("int",
    "int([x]) -> integer\nint(x, base=10) -> integer\n\nConvert a number or string to an integer, or return 0 i" ++
    "f no arguments\nare given.  If x is a number, return x.__int__().  For floating point\nnumbers, this trunc" ++
    "ates towards zero.\n\nIf x is not a number or if base is given, then x must be a string,\nbytes, or bytear" ++
    "ray instance representing an integer literal in the\ngiven base.  The literal can be preceded by '+' or '-" ++
    "' and be surrounded\nby whitespace.  The base defaults to 10.  Valid bases are 0 and 2-36.\nBase 0 means t" ++
    "o interpret the base from the string as an integer literal.\n>>> int('0b100', base=0)\n4"),
   ("int.__ceil__",
    "Ceiling of an Integral returns itself."),
   ("int.__floor__",
    "Flooring an Integral returns itself."),
   ("int.__index__",
    "Return self converted to an integer, if self is suitable for use as an index into a list."),
   ("int.__invert__",
    "~self"),
   ("int.__lshift__",
    "Return self<<value."),
   ("int.__rlshift__",
    "Return value<<self."),
   ("int.__round__",
    "Rounding an Integral returns itself.\n\nRounding with an ndigits argument also returns an integer."),
   ("int.__rrshift__",
    "Return value>>self."),
   ("int.__rshift__",
    "Return self>>value."),
   ("int.__sizeof__",
    "Returns size in memory, in bytes."),
   ("int.__trunc__",
    "Truncating an Integral returns itself."),
   ("int.as_integer_ratio",
    "Return integer ratio.\n\nReturn a pair of integers, whose ratio is exactly equal to the original int\nand " ++
    "with a positive denominator.\n\n>>> (10).as_integer_ratio()\n(10, 1)\n>>> (-10).as_integer_ratio()\n(-10, " ++
    "1)\n>>> (0).as_integer_ratio()\n(0, 1)"),
   ("int.bit_count",
    "Number of ones in the binary representation of the absolute value of self.\n\nAlso known as the population" ++
    " count.\n\n>>> bin(13)\n'0b1101'\n>>> (13).bit_count()\n3"),
   ("int.bit_length",
    "Number of bits necessary to represent self in binary.\n\n>>> bin(37)\n'0b100101'\n>>> (37).bit_length()\n6"),
   ("int.conjugate",
    "Returns self, the complex conjugate of any int."),
   ("int.denominator",
    "the denominator of a rational number in lowest terms"),
   ("int.from_bytes",
    "Return the integer represented by the given array of bytes.\n\n  bytes\n    Holds the array of bytes to co" ++
    "nvert.  The argument must either\n    support the buffer protocol or be an iterable object producing bytes" ++
    ".\n    Bytes and bytearray are examples of built-in objects that support the\n    buffer protocol.\n  byte" ++
    "order\n    The byte order used to represent the integer.  If byteorder is 'big',\n    the most significant" ++
    " byte is at the beginning of the byte array.  If\n    byteorder is 'little', the most significant byte is " ++
    "at the end of the\n    byte array.  To request the native byte order of the host system, use\n    `sys.byt" ++
    "eorder' as the byte order value.  Default is to use 'big'.\n  signed\n    Indicates whether two's compleme" ++
    "nt is used to represent the integer."),
   ("int.numerator",
    "the numerator of a rational number in lowest terms"),
   ("int.to_bytes",
    "Return an array of bytes representing an integer.\n\n  length\n    Length of bytes object to use.  An Over" ++
    "flowError is raised if the\n    integer is not representable with the given number of bytes.  Default\n   " ++
    " is length 1.\n  byteorder\n    The byte order used to represent the integer.  If byteorder is 'big',\n   " ++
    " the most significant byte is at the beginning of the byte array.  If\n    byteorder is 'little', the most" ++
    " significant byte is at the end of the\n    byte array.  To request the native byte order of the host syst" ++
    "em, use\n    `sys.byteorder' as the byte order value.  Default is to use 'big'.\n  signed\n    Determines " ++
    "whether two's complement is used to represent the integer.\n    If signed is False and a negative integer " ++
    "is given, an OverflowError\n    is raised."),
   ("list",
    "Built-in mutable sequence.\n\nIf no argument is given, the constructor creates a new empty list.\nThe argu" ++
    "ment must be an iterable if specified."),
   ("list.__reversed__",
    "Return a reverse iterator over the list."),
   ("list.__sizeof__",
    "Return the size of the list in memory, in bytes."),
   ("list.append",
    "Append object to the end of the list."),
   ("list.clear",
    "Remove all items from list."),
   ("list.copy",
    "Return a shallow copy of the list."),
   ("list.count tuple.count",
    "Return number of occurrences of value."),
   ("list.extend",
    "Extend list by appending elements from the iterable."),
   ("list.index tuple.index",
    "Return first index of value.\n\nRaises ValueError if the value is not present."),
   ("list.insert",
    "Insert object before index."),
   ("list.pop",
    "Remove and return item at index (default last).\n\nRaises IndexError if list is empty or index is out of r" ++
    "ange."),
   ("list.remove",
    "Remove first occurrence of value.\n\nRaises ValueError if the value is not present."),
   ("list.reverse",
    "Reverse *IN PLACE*."),
   ("list.sort",
    "Sort the list in ascending order and return None.\n\nThe sort is in-place (i.e. the list itself is modifie" ++
    "d) and stable (i.e. the\norder of two equal elements is maintained).\n\nIf a key function is given, apply " ++
    "it once to each list item and sort them,\nascending or descending, according to their function values.\n\n" ++
    "The reverse flag can be set to sort in descending order."),
   ("map",
    "map(func, *iterables) --> map object\n\nMake an iterator that computes the function using arguments from\n" ++
    "each of the iterables.  Stops when the shortest iterable is exhausted."),
   ("memoryview",
    "Create a new memoryview object which references the given object."),
   ("memoryview.c_contiguous",
    "A bool indicating whether the memory is C contiguous."),
   ("memoryview.cast",
    "Cast a memoryview to a new format or shape."),
   ("memoryview.contiguous",
    "A bool indicating whether the memory is contiguous."),
   ("memoryview.f_contiguous",
    "A bool indicating whether the memory is Fortran contiguous."),
   ("memoryview.format",
    "A string containing the format (in struct module style)\n for each element in the view."),
   ("memoryview.hex",
    "Return the data in the buffer as a str of hexadecimal numbers.\n\n  sep\n    An optional single character " ++
    "or byte to separate hex bytes.\n  bytes_per_sep\n    How many bytes between separators.  Positive values c" ++
    "ount from the\n    right, negative values count from the left.\n\nExample:\n>>> value = memoryview(b'\\xb9" ++
    "\\x01\\xef')\n>>> value.hex()\n'b901ef'\n>>> value.hex(':')\n'b9:01:ef'\n>>> value.hex(':', 2)\n'b9:01ef'" ++
    "\n>>> value.hex(':', -2)\n'b901:ef'")]

def fifth : List Row :=
  [("memoryview.itemsize",
    "The size in bytes of each element of the memoryview."),
   ("memoryview.nbytes",
    "The amount of space in bytes that the array would use in\n a contiguous representation."),
   ("memoryview.ndim",
    "An integer indicating how many dimensions of a multi-dimensional\n array the memory represents."),
   ("memoryview.obj",
    "The underlying object of the memoryview."),
   ("memoryview.readonly",
    "A bool indicating whether the memory is read only."),
   ("memoryview.release",
    "Release the underlying buffer exposed by the memoryview object."),
   ("memoryview.shape",
    "A tuple of ndim integers giving the shape of the memory\n as an N-dimensional array."),
   ("memoryview.strides",
    "A tuple of ndim integers giving the size in bytes to access\n each element for each dimension of the array" ++
    "."),
   ("memoryview.suboffsets",
    "A tuple of integers used internally for PIL-style arrays."),
   ("memoryview.tobytes",
    "Return the data in the buffer as a byte string.\n\nOrder can be \x7b'C', 'F', 'A'\x7d. When order is 'C' o" ++
    "r 'F', the data of the\noriginal array is converted to C or Fortran order. For contiguous views,\n'A' retu" ++
    "rns an exact copy of the physical memory. In particular, in-memory\nFortran order is preserved. For non-co" ++
    "ntiguous views, the data is converted\nto C first. order=None is the same as order='C'."),
   ("memoryview.tolist",
    "Return the data in the buffer as a list of elements."),
   ("memoryview.toreadonly",
    "Return a readonly version of the memoryview."),
   ("object",
    "The base class of the class hierarchy.\n\nWhen called, it accepts no arguments and returns a new featurele" ++
    "ss\ninstance that has no instance attributes and cannot be given any.\n"),
   ("object.__class__",
    "the object's class"),
   ("object.__dir__",
    "Default dir() implementation."),
   ("object.__format__",
    "Default object formatter."),
   ("object.__getstate__ object.__reduce__ object.__reduce_ex__",
    "Helper for pickle."),
   ("object.__init_subclass__",
    "This method is called when a class is subclassed.\n\nThe default implementation does nothing. It may be\no" ++
    "verridden to extend subclasses.\n"),
   ("object.__sizeof__",
    "Size of object in memory, in bytes."),
   ("object.__subclasshook__",
    "Abstract classes can override this to customize issubclass().\n\nThis is invoked early on by abc.ABCMeta._" ++
    "_subclasscheck__().\nIt should return True, False or NotImplemented.  If it returns\nNotImplemented, the n" ++
    "ormal algorithm is used.  Otherwise, it\noverrides the normal algorithm (and the outcome is cached).\n"),
   ("property",
    "Property attribute.\n\n  fget\n    function to be used for getting an attribute value\n  fset\n    functio" ++
    "n to be used for setting an attribute value\n  fdel\n    function to be used for del'ing an attribute\n  d" ++
    "oc\n    docstring\n\nTypical use is to define a managed attribute x:\n\nclass C(object):\n    def getx(sel" ++
    "f): return self._x\n    def setx(self, value): self._x = value\n    def delx(self): del self._x\n    x = p" ++
    "roperty(getx, setx, delx, \"I'm the 'x' property.\")\n\nDecorators make defining new properties or modifyi" ++
    "ng existing ones easy:\n\nclass C(object):\n    @property\n    def x(self):\n        \"I am the 'x' proper" ++
    "ty.\"\n        return self._x\n    @x.setter\n    def x(self, value):\n        self._x = value\n    @x.del" ++
    "eter\n    def x(self):\n        del self._x"),
   ("property.__set_name__",
    "Method to set name of a property."),
   ("property.deleter",
    "Descriptor to obtain a copy of the property with a different deleter."),
   ("property.getter",
    "Descriptor to obtain a copy of the property with a different getter."),
   ("property.setter",
    "Descriptor to obtain a copy of the property with a different setter."),
   ("range",
    "range(stop) -> range object\nrange(start, stop[, step]) -> range object\n\nReturn an object that produces " ++
    "a sequence of integers from start (inclusive)\nto stop (exclusive) by step.  range(i, j) produces i, i+1, " ++
    "i+2, ..., j-1.\nstart defaults to 0, and stop is omitted!  range(4) produces 0, 1, 2, 3.\nThese are exactl" ++
    "y the valid indices for a list of 4 elements.\nWhen step is given, it specifies the increment (or decremen" ++
    "t)."),
   ("range.__reversed__",
    "Return a reverse iterator."),
   ("range.count",
    "rangeobject.count(value) -> integer -- return number of occurrences of value"),
   ("range.index",
    "rangeobject.index(value) -> integer -- return index of value.\nRaise ValueError if the value is not presen" ++
    "t."),
   ("reversed",
    "Return a reverse iterator over the values of the given sequence."),
   ("set",
    "set() -> new empty set object\nset(iterable) -> new set object\n\nBuild an unordered collection of unique " ++
    "elements."),
   ("set.__iand__",
    "Return self&=value."),
   ("set.__isub__",
    "Return self-=value."),
   ("set.__ixor__",
    "Return self^=value."),
   ("set.add",
    "Add an element to a set.\n\nThis has no effect if the element is already present."),
   ("set.clear",
    "Remove all elements from this set."),
   ("set.difference_update",
    "Remove all elements of another set from this set."),
   ("set.discard",
    "Remove an element from a set if it is a member.\n\nUnlike set.remove(), the discard() method does not rais" ++
    "e\nan exception when an element is missing from the set."),
   ("set.intersection_update",
    "Update a set with the intersection of itself and another."),
   ("set.pop",
    "Remove and return an arbitrary set element.\nRaises KeyError if the set is empty."),
   ("set.remove",
    "Remove an element from a set; it must be a member.\n\nIf the element is not a member, raise a KeyError."),
   ("set.symmetric_difference_update",
    "Update a set with the symmetric difference of itself and another."),
   ("set.update",
    "Update a set with the union of itself and others."),
   ("slice",
    "slice(stop)\nslice(start, stop[, step])\n\nCreate a slice object.  This is used for extended slicing (e.g." ++
    " a[0:10:2])."),
   ("slice.indices",
    "S.indices(len) -> (start, stop, stride)\n\nAssuming a sequence of length len, calculate the start and stop" ++
    "\nindices, and the stride length of the extended slice described by\nS. Out of bounds indices are clipped " ++
    "in a manner consistent with the\nhandling of normal slices."),
   ("staticmethod",
    "staticmethod(function) -> method\n\nConvert a function to be a static method.\n\nA static method does not " ++
    "receive an implicit first argument.\nTo declare a static method, use this idiom:\n\n     class C:\n       " ++
    "  @staticmethod\n         def f(arg1, arg2, argN):\n             ...\n\nIt can be called either on the cla" ++
    "ss (e.g. C.f()) or on an instance\n(e.g. C().f()). Both the class and the instance are ignored, and\nneith" ++
    "er is passed implicitly as the first argument to the method.\n\nStatic methods in Python are similar to th" ++
    "ose found in Java or C++.\nFor a more advanced concept, see the classmethod builtin."),
   ("str",
    "str(object='') -> str\nstr(bytes_or_buffer[, encoding[, errors]]) -> str\n\nCreate a new string object fro" ++
    "m the given object. If encoding or\nerrors is specified, then the object must expose a data buffer\nthat w" ++
    "ill be decoded using the given encoding and error handler.\nOtherwise, returns the result of object.__str_" ++
    "_() (if defined)\nor repr(object).\nencoding defaults to sys.getdefaultencoding().\nerrors defaults to 'st" ++
    "rict'."),
   ("str.__format__",
    "Return a formatted version of the string as described by format_spec."),
   ("str.__sizeof__",
    "Return the size of the string in memory, in bytes."),
   ("str.capitalize",
    "Return a capitalized version of the string.\n\nMore specifically, make the first character have upper case" ++
    " and the rest lower\ncase."),
   ("str.casefold",
    "Return a version of the string suitable for caseless comparisons."),
   ("str.center",
    "Return a centered string of length width.\n\nPadding is done using the specified fill character (default i" ++
    "s a space)."),
   ("str.count",
    "S.count(sub[, start[, end]]) -> int\n\nReturn the number of non-overlapping occurrences of substring sub i" ++
    "n\nstring S[start:end].  Optional arguments start and end are\ninterpreted as in slice notation."),
   ("str.encode",
    "Encode the string using the codec registered for encoding.\n\n  encoding\n    The encoding in which to enc" ++
    "ode the string.\n  errors\n    The error handling scheme to use for encoding errors.\n    The default is '" ++
    "strict' meaning that encoding errors raise a\n    UnicodeEncodeError.  Other possible values are 'ignore'," ++
    " 'replace' and\n    'xmlcharrefreplace' as well as any other name registered with\n    codecs.register_err" ++
    "or that can handle UnicodeEncodeErrors."),
   ("str.endswith",
    "S.endswith(suffix[, start[, end]]) -> bool\n\nReturn True if S ends with the specified suffix, False other" ++
    "wise.\nWith optional start, test S beginning at that position.\nWith optional end, stop comparing S at tha" ++
    "t position.\nsuffix can also be a tuple of strings to try."),
   ("str.find",
    "S.find(sub[, start[, end]]) -> int\n\nReturn the lowest index in S where substring sub is found,\nsuch tha" ++
    "t sub is contained within S[start:end].  Optional\narguments start and end are interpreted as in slice not" ++
    "ation.\n\nReturn -1 on failure."),
   ("str.format",
    "S.format(*args, **kwargs) -> str\n\nReturn a formatted version of S, using substitutions from args and kwa" ++
    "rgs.\nThe substitutions are identified by braces ('\x7b' and '\x7d')."),
   ("str.format_map",
    "S.format_map(mapping) -> str\n\nReturn a formatted version of S, using substitutions from mapping.\nThe su" ++
    "bstitutions are identified by braces ('\x7b' and '\x7d')."),
   ("str.index",
    "S.index(sub[, start[, end]]) -> int\n\nReturn the lowest index in S where substring sub is found,\nsuch th" ++
    "at sub is contained within S[start:end].  Optional\narguments start and end are interpreted as in slice no" ++
    "tation.\n\nRaises ValueError when the substring is not found."),
   ("str.isalnum",
    "Return True if the string is an alpha-numeric string, False otherwise.\n\nA string is alpha-numeric if all" ++
    " characters in the string are alpha-numeric and\nthere is at least one character in the string."),
   ("str.isalpha",
    "Return True if the string is an alphabetic string, False otherwise.\n\nA string is alphabetic if all chara" ++
    "cters in the string are alphabetic and there\nis at least one character in the string."),
   ("str.isascii",
    "Return True if all characters in the string are ASCII, False otherwise.\n\nASCII characters have code poin" ++
    "ts in the range U+0000-U+007F.\nEmpty string is ASCII too."),
   ("str.isdecimal",
    "Return True if the string is a decimal string, False otherwise.\n\nA string is a decimal string if all cha" ++
    "racters in the string are decimal and\nthere is at least one character in the string."),
   ("str.isdigit",
    "Return True if the string is a digit string, False otherwise.\n\nA string is a digit string if all charact" ++
    "ers in the string are digits and there\nis at least one character in the string."),
   ("str.isidentifier",
    "Return True if the string is a valid Python identifier, False otherwise.\n\nCall keyword.iskeyword(s) to t" ++
    "est whether string s is a reserved identifier,\nsuch as \"def\" or \"class\"."),
   ("str.islower",
    "Return True if the string is a lowercase string, False otherwise.\n\nA string is lowercase if all cased ch" ++
    "aracters in the string are lowercase and\nthere is at least one cased character in the string."),
   ("str.isnumeric",
    "Return True if the string is a numeric string, False otherwise.\n\nA string is numeric if all characters i" ++
    "n the string are numeric and there is at\nleast one character in the string."),
   ("str.isprintable",
    "Return True if the string is printable, False otherwise.\n\nA string is printable if all of its characters" ++
    " are considered printable in\nrepr() or if it is empty."),
   ("str.isspace",
    "Return True if the string is a whitespace string, False otherwise.\n\nA string is whitespace if all charac" ++
    "ters in the string are whitespace and there\nis at least one character in the string."),
   ("str.istitle",
    "Return True if the string is a title-cased string, False otherwise.\n\nIn a title-cased string, upper- and" ++
    " title-case characters may only\nfollow uncased characters and lowercase characters only cased ones."),
   ("str.isupper",
    "Return True if the string is an uppercase string, False otherwise.\n\nA string is uppercase if all cased c" ++
    "haracters in the string are uppercase and\nthere is at least one cased character in the string."),
   ("str.join",
    "Concatenate any number of strings.\n\nThe string whose method is called is inserted in between each given " ++
    "string.\nThe result is returned as a new string.\n\nExample: '.'.join(['ab', 'pq', 'rs']) -> 'ab.pq.rs'"),
   ("str.ljust",
    "Return a left-justified string of length width.\n\nPadding is done using the specified fill character (def" ++
    "ault is a space)."),
   ("str.lower",
    "Return a copy of the string converted to lowercase."),
   ("str.lstrip",
    "Return a copy of the string with leading whitespace removed.\n\nIf chars is given and not None, remove cha" ++
    "racters in chars instead."),
   ("str.maketrans",
    "Return a translation table usable for str.translate().\n\nIf there is only one argument, it must be a dict" ++
    "ionary mapping Unicode\nordinals (integers) or characters to Unicode ordinals, strings or None.\nCharacter" ++
    " keys will be then converted to ordinals.\nIf there are two arguments, they must be strings of equal lengt" ++
    "h, and\nin the resulting dictionary, each character in x will be mapped to the\ncharacter at the same posi" ++
    "tion in y. If there is a third argument, it\nmust be a string, whose characters will be mapped to None in " ++
    "the result."),
   ("str.partition",
    "Partition the string into three parts using the given separator.\n\nThis will search for the separator in " ++
    "the string.  If the separator is found,\nreturns a 3-tuple containing the part before the separator, the s" ++
    "eparator\nitself, and the part after it.\n\nIf the separator is not found, returns a 3-tuple containing th" ++
    "e original string\nand two empty strings."),
   ("str.removeprefix",
    "Return a str with the given prefix string removed if present.\n\nIf the string starts with the prefix stri" ++
    "ng, return string[len(prefix):].\nOtherwise, return a copy of the original string."),
   ("str.removesuffix",
    "Return a str with the given suffix string removed if present.\n\nIf the string ends with the suffix string" ++
    " and that suffix is not empty,\nreturn string[:-len(suffix)]. Otherwise, return a copy of the original\nst" ++
    "ring."),
   ("str.rfind",
    "S.rfind(sub[, start[, end]]) -> int\n\nReturn the highest index in S where substring sub is found,\nsuch t" ++
    "hat sub is contained within S[start:end].  Optional\narguments start and end are interpreted as in slice n" ++
    "otation.\n\nReturn -1 on failure."),
   ("str.rindex",
    "S.rindex(sub[, start[, end]]) -> int\n\nReturn the highest index in S where substring sub is found,\nsuch " ++
    "that sub is contained within S[start:end].  Optional\narguments start and end are interpreted as in slice " ++
    "notation.\n\nRaises ValueError when the substring is not found."),
   ("str.rjust",
    "Return a right-justified string of length width.\n\nPadding is done using the specified fill character (de" ++
    "fault is a space)."),
   ("str.rpartition",
    "Partition the string into three parts using the given separator.\n\nThis will search for the separator in " ++
    "the string, starting at the end. If\nthe separator is found, returns a 3-tuple containing the part before " ++
    "the\nseparator, the separator itself, and the part after it.\n\nIf the separator is not found, returns a 3" ++
    "-tuple containing two empty strings\nand the original string."),
   ("str.rsplit",
    "Return a list of the substrings in the string, using sep as the separator string.\n\n  sep\n    The separa" ++
    "tor used to split the string.\n\n    When set to None (the default value), will split on any whitespace\n " ++
    "   character (including \\n \\r \\t \\f and spaces) and will discard\n    empty strings from the result.\n" ++
    "  maxsplit\n    Maximum number of splits.\n    -1 (the default value) means no limit.\n\nSplitting starts " ++
    "at the end of the string and works to the front."),
   ("str.rstrip",
    "Return a copy of the string with trailing whitespace removed.\n\nIf chars is given and not None, remove ch" ++
    "aracters in chars instead."),
   ("str.split",
    "Return a list of the substrings in the string, using sep as the separator string.\n\n  sep\n    The separa" ++
    "tor used to split the string.\n\n    When set to None (the default value), will split on any whitespace\n " ++
    "   character (including \\n \\r \\t \\f and spaces) and will discard\n    empty strings from the result.\n" ++
    "  maxsplit\n    Maximum number of splits.\n    -1 (the default value) means no limit.\n\nSplitting starts " ++
    "at the front of the string and works to the end.\n\nNote, str.split() is mainly useful for data that has b" ++
    "een intentionally\ndelimited.  With natural text that includes punctuation, consider using\nthe regular ex" ++
    "pression module."),
   ("str.splitlines",
    "Return a list of the lines in the string, breaking at line boundaries.\n\nLine breaks are not included in " ++
    "the resulting list unless keepends is given and\ntrue."),
   ("str.startswith",
    "S.startswith(prefix[, start[, end]]) -> bool\n\nReturn True if S starts with the specified prefix, False o" ++
    "therwise.\nWith optional start, test S beginning at that position.\nWith optional end, stop comparing S at" ++
    " that position.\nprefix can also be a tuple of strings to try."),
   ("str.strip",
    "Return a copy of the string with leading and trailing whitespace removed.\n\nIf chars is given and not Non" ++
    "e, remove characters in chars instead."),
   ("str.swapcase",
    "Convert uppercase characters to lowercase and lowercase characters to uppercase.")]

def sixth : List Row :=
  [("str.title",
    "Return a version of the string where each word is titlecased.\n\nMore specifically, words start with upper" ++
    "cased characters and all remaining\ncased characters have lower case."),
   ("str.translate",
    "Replace each character in the string using the given translation table.\n\n  table\n    Translation table," ++
    " which must be a mapping of Unicode ordinals to\n    Unicode ordinals, strings, or None.\n\nThe table must" ++
    " implement lookup/indexing via __getitem__, for instance a\ndictionary or list.  If this operation raises " ++
    "LookupError, the character is\nleft untouched.  Characters mapped to None are deleted."),
   ("str.upper",
    "Return a copy of the string converted to uppercase."),
   ("str.zfill",
    "Pad a numeric string with zeros on the left, to fill a field of the given width.\n\nThe string is never tr" ++
    "uncated."),
   ("super",
    "super() -> same as super(__class__, <first argument>)\nsuper(type) -> unbound super object\nsuper(type, ob" ++
    "j) -> bound super object; requires isinstance(obj, type)\nsuper(type, type2) -> bound super object; requir" ++
    "es issubclass(type2, type)\nTypical use to call a cooperative superclass method:\nclass C(B):\n    def met" ++
    "h(self, arg):\n        super().meth(arg)\nThis works for class methods too:\nclass C(B):\n    @classmethod" ++
    "\n    def cmeth(cls, arg):\n        super().cmeth(arg)\n"),
   ("super.__self__",
    "the instance invoking super(); may be None"),
   ("super.__self_class__",
    "the type of the instance invoking super(); may be None"),
   ("super.__thisclass__",
    "the class invoking super()"),
   ("tuple",
    "Built-in immutable sequence.\n\nIf no argument is given, the constructor returns an empty tuple.\nIf itera" ++
    "ble is specified the tuple is initialized from iterable's items.\n\nIf the argument is a tuple, the return" ++
    " value is the same object."),
   ("type",
    "type(object) -> the object's type\ntype(name, bases, dict, **kwds) -> a new type"),
   ("type.__dir__",
    "Specialized __dir__ implementation for types."),
   ("type.__instancecheck__",
    "Check if an object is an instance."),
   ("type.__prepare__",
    "__prepare__() -> dict\nused to create the namespace for the class statement"),
   ("type.__sizeof__",
    "Return memory consumption of the type object."),
   ("type.__subclasscheck__",
    "Check if a class is a subclass."),
   ("type.__subclasses__",
    "Return a list of immediate subclasses."),
   ("type.mro",
    "Return a type's method resolution order."),
   ("zip",
    "zip(*iterables, strict=False) --> Yield tuples until an input is exhausted.\n\n   >>> list(zip('abcdefg', " ++
    "range(3), range(4)))\n   [('a', 0, 0), ('b', 1, 1), ('c', 2, 2)]\n\nThe zip object yields n-length tuples," ++
    " where n is the number of iterables\npassed as positional arguments to zip().  The i-th element in every t" ++
    "uple\ncomes from the i-th iterable argument to zip().  This continues until the\nshortest argument is exha" ++
    "usted.\n\nIf strict is true and one of the arguments is exhausted before the others,\nraise a ValueError."),
   ("function",
    "Create a function object.\n\n  code\n    a code object\n  globals\n    the globals dictionary\n  name\n   " ++
    " a string that overrides the name from the code object\n  argdefs\n    a tuple that specifies the default " ++
    "argument values\n  closure\n    a tuple that supplies the bindings for free variables"),
   ("GenericAlias",
    "Represent a PEP 585 generic type\n\nE.g. for t = list[int], t.__origin__ is list and t.__args__ is (int,)."),
   ("GenericAlias.__parameters__",
    "Type variables in the GenericAlias."),
   ("UnionType",
    "Represent a PEP 604 union type\n\nE.g. for int | str"),
   ("UnionType.__parameters__",
    "Type variables in the types.UnionType."),
   ("generator.__name__",
    "name of the generator"),
   ("generator.__qualname__",
    "qualified name of the generator"),
   ("generator.__sizeof__",
    "gen.__sizeof__() -> size of gen in memory, in bytes"),
   ("generator.close",
    "close() -> raise GeneratorExit inside generator."),
   ("generator.gi_yieldfrom",
    "object being iterated by yield from, or None"),
   ("generator.send",
    "send(arg) -> send 'arg' into generator,\nreturn next yielded value or raise StopIteration."),
   ("generator.throw",
    "throw(value)\nthrow(type[,value[,tb]])\n\nRaise exception in generator, return next yielded value or raise" ++
    "\nStopIteration."),
   ("dict_keys.isdisjoint dict_items.isdisjoint",
    "Return True if the view and the given iterable have a null intersection."),
   ("dict_values.__reversed__",
    "Return a reverse iterator over the dict values."),
   ("dict_items.__reversed__",
    "Return a reverse iterator over the dict items."),
   ("mappingproxy.__reversed__",
    "D.__reversed__() -> reverse iterator"),
   ("mappingproxy.get",
    "D.get(k[,d]) -> D[k] if k in D, else d.  d defaults to None."),
   ("module",
    "Create a module object.\n\nThe name must be a string; the optional doc argument can have any type."),
   ("module.__dir__",
    "__dir__() -> list\nspecialized dir() implementation"),
   ("code",
    "Create a code object.  Not for the faint of heart."),
   ("code._varname_from_oparg",
    "(internal-only) Return the local variable name for the given oparg.\n\nWARNING: this method is for interna" ++
    "l use only and may change or go away."),
   ("code.replace",
    "Return a copy of the code object with new values for the specified fields."),
   ("method",
    "Create a bound instance method object."),
   ("method.__func__",
    "the function (or other callable) implementing a method"),
   ("method.__self__",
    "the instance to which a method is bound"),
   ("Any",
    "Special type indicating an unconstrained type.\n\n    - Any is compatible with every type.\n    - Any assu" ++
    "med to have all methods.\n    - All values assumed to be instances of Any.\n\n    Note that all the above " ++
    "statements are true from the point of view of\n    static type checkers. At runtime, Any should not be use" ++
    "d with instance\n    checks.\n    "),
   ("_Helper",
    "Define the builtin 'help'.\n\n    This is a wrapper around pydoc.help that provides a helpful message\n   " ++
    " when 'help' is typed at the Python interactive prompt.\n\n    Calling help() at the Python prompt starts " ++
    "an interactive help session.\n    Calling help(thing) prints help for the python object 'thing'.\n    ")]

def said? (key : String) : Option String :=
  (first ++ second ++ third ++ fourth ++ fifth ++ sixth).findSome? fun (keys, text) =>
    if key ∈ keys.splitOn " " then some text else none

def ofFunction? (name : String) : Option String := said? ("." ++ name)

def ofClass? (name : String) : Option String := said? name

def ofMember? (owner name : String) : Option String :=
  ((said? (owner ++ "." ++ name)).or (said? ("*." ++ name))).bind fun text => if text = "" then none else some text

end RestDispatch.Summary
