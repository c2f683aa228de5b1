set_option autoImplicit false

/-!
Modules that can be imported although no file of the disk holds them. None of them is bound to an
application.
-/
namespace RestDispatch.StandardModule

-- Modules that are in use before the program starts or come before all files. A file of the same name is never
-- looked for.
def loaded : List String :=
  ["__future__", "__main__", "_abc", "_ast", "_asyncio", "_bisect", "_bz2", "_codecs", "_collections",
   "_collections_abc", "_compression", "_contextvars", "_csv", "_datetime", "_decimal",
   "_frozen_importlib", "_frozen_importlib_external", "_functools", "_heapq", "_imp", "_io", "_json",
   "_locale", "_lzma", "_opcode", "_operator", "_posixsubprocess", "_random", "_sha512", "_signal",
   "_sitebuiltins", "_socket", "_sre", "_ssl", "_stat", "_string", "_struct", "_symtable", "_thread",
   "_tracemalloc", "_typing", "_uuid", "_warnings", "_weakref", "_weakrefset", "_zoneinfo", "abc",
   "annotated_types", "array", "ast", "asyncio", "atexit", "base64", "binascii", "bisect", "builtins",
   "bz2", "calendar", "click", "codecs", "collections", "concurrent", "contextlib", "contextvars",
   "copy", "copyreg", "csv", "dataclasses", "datetime", "decimal", "dis", "email", "encodings",
   "enum", "errno", "faulthandler", "fcntl", "fnmatch", "fractions", "functools", "gc", "genericpath",
   "gettext", "heapq", "importlib", "inspect", "io", "ipaddress", "itertools", "json",
   "keyword", "linecache", "locale", "logging", "lzma", "marshal", "math", "ntpath", "numbers",
   "opcode", "operator", "os", "pathlib", "platform", "posix", "posixpath", "pwd", "pydantic",
   "pydantic_core", "quopri", "random", "re", "reprlib", "restly", "runpy", "select", "selectors",
   "shlex", "shutil", "signal", "site", "socket", "ssl", "stat", "string", "struct", "subprocess",
   "sys", "sysconfig", "tempfile", "textwrap", "threading", "time", "token", "tokenize", "traceback",
   "typer", "types", "typing", "typing_extensions", "typing_inspection", "urllib", "uuid", "warnings",
   "weakref", "zipfile", "zipimport", "zlib", "zoneinfo"]

-- Modules that are imported where the disk has no file of the same name.
def others : List String :=
  ["aifc", "argparse", "asynchat", "asyncore", "audioop", "bdb", "cProfile", "cgi", "cgitb", "chunk",
   "cmath", "cmd", "code", "codeop", "colorsys", "compileall", "configparser", "crypt", "ctypes",
   "curses", "dbm", "difflib", "distutils", "doctest", "ensurepip", "filecmp", "fileinput", "ftplib",
   "getopt", "getpass", "glob", "granian", "graphlib", "grp", "gzip", "hashlib", "hmac", "html", "http",
   "imaplib", "imghdr", "imp", "mailbox", "mailcap", "markdown_it", "mdurl", "mimetypes", "mmap",
   "modulefinder", "multiprocessing", "netrc", "nntplib", "nturl2path", "optparse", "ossaudiodev",
   "pdb", "pickle", "pickletools", "pipes", "pkgutil", "plistlib", "poplib", "pprint", "profile",
   "pstats", "pty", "py_compile", "pyclbr", "pydoc", "pydoc_data", "pyexpat", "pygments", "queue",
   "readline", "resource", "rich", "rlcompleter", "sched", "secrets", "shellingham", "shelve",
   "smtpd", "smtplib", "sndhdr", "socketserver", "spwd", "sqlite3", "sre_compile", "sre_constants",
   "sre_parse", "statistics", "stringprep", "sunau", "symtable", "syslog", "tabnanny", "tarfile",
   "telnetlib", "termios", "timeit", "tomllib", "trace", "tracemalloc", "tty", "unicodedata",
   "unittest", "uu", "venv", "wave", "webbrowser", "wsgiref", "xdrlib", "xml", "xmlrpc", "zipapp"]

def packages : List String :=
  ["annotated_types", "asyncio", "click", "collections", "concurrent", "concurrent.futures", "ctypes",
   "ctypes.macholib", "curses", "dbm", "email", "email.mime", "encodings", "html", "http",
   "importlib", "importlib.metadata", "importlib.resources", "json", "logging", "markdown_it",
   "mdurl", "multiprocessing", "multiprocessing.dummy", "pydantic", "pydantic.deprecated",
   "pydantic.experimental", "pydantic.plugin", "pydantic.v1", "pydantic_core", "pydoc_data",
   "pygments", "re", "restly", "rich", "shellingham", "sqlite3", "tomllib", "typer",
   "typing_inspection", "unittest", "urllib", "venv", "wsgiref", "xml", "xml.dom", "xml.etree",
   "xml.parsers", "xml.sax", "xmlrpc", "zoneinfo"]

def inner : List String :=
  ["asyncio.base_events", "asyncio.base_futures", "asyncio.base_subprocess", "asyncio.base_tasks",
   "asyncio.constants", "asyncio.coroutines", "asyncio.events", "asyncio.exceptions",
   "asyncio.format_helpers", "asyncio.futures", "asyncio.locks", "asyncio.log", "asyncio.mixins",
   "asyncio.proactor_events", "asyncio.protocols", "asyncio.queues", "asyncio.runners",
   "asyncio.selector_events", "asyncio.sslproto", "asyncio.staggered", "asyncio.streams",
   "asyncio.subprocess", "asyncio.taskgroups", "asyncio.tasks", "asyncio.threads", "asyncio.timeouts",
   "asyncio.transports", "asyncio.trsock", "asyncio.unix_events", "click.core", "click.decorators",
   "click.exceptions", "click.formatting", "click.globals", "click.parser", "click.shell_completion",
   "click.termui", "click.testing", "click.types", "click.utils", "collections.abc",
   "concurrent.futures", "concurrent.futures.process", "concurrent.futures.thread", "ctypes.macholib",
   "ctypes.macholib.dyld", "ctypes.macholib.dylib", "ctypes.macholib.framework", "ctypes.util",
   "curses.ascii", "curses.panel", "curses.textpad", "dbm.dumb", "dbm.gnu", "dbm.ndbm",
   "email.base64mime", "email.charset", "email.contentmanager", "email.encoders", "email.errors",
   "email.feedparser", "email.generator", "email.header", "email.headerregistry", "email.iterators",
   "email.message", "email.mime", "email.mime.application", "email.mime.audio", "email.mime.base",
   "email.mime.image", "email.mime.message", "email.mime.multipart", "email.mime.nonmultipart",
   "email.mime.text", "email.parser", "email.policy", "email.quoprimime", "email.utils",
   "html.entities", "html.parser", "http.client", "http.cookiejar", "http.cookies", "http.server",
   "importlib.abc", "importlib.machinery", "importlib.metadata", "importlib.readers",
   "importlib.resources", "importlib.resources.abc", "importlib.resources.readers",
   "importlib.resources.simple", "importlib.simple", "importlib.util", "json.decoder", "json.encoder",
   "json.scanner", "json.tool", "logging.config", "logging.handlers", "multiprocessing.connection",
   "multiprocessing.context", "multiprocessing.dummy", "multiprocessing.dummy.connection",
   "multiprocessing.forkserver", "multiprocessing.heap", "multiprocessing.managers",
   "multiprocessing.pool", "multiprocessing.popen_fork", "multiprocessing.popen_forkserver",
   "multiprocessing.popen_spawn_posix", "multiprocessing.process", "multiprocessing.queues",
   "multiprocessing.reduction", "multiprocessing.resource_sharer", "multiprocessing.resource_tracker",
   "multiprocessing.shared_memory", "multiprocessing.sharedctypes", "multiprocessing.spawn",
   "multiprocessing.synchronize", "multiprocessing.util", "os.path", "pydantic.alias_generators",
   "pydantic.aliases", "pydantic.annotated_handlers", "pydantic.color", "pydantic.config",
   "pydantic.dataclasses", "pydantic.deprecated", "pydantic.errors", "pydantic.experimental",
   "pydantic.fields", "pydantic.functional_serializers", "pydantic.functional_validators",
   "pydantic.json_schema", "pydantic.main", "pydantic.networks", "pydantic.plugin",
   "pydantic.root_model", "pydantic.type_adapter", "pydantic.types", "pydantic.v1",
   "pydantic.validate_call_decorator", "pydantic.version", "pydantic.warnings",
   "pydantic_core.core_schema", "pydoc_data.topics", "restly._server", "restly._types", "restly.app",
   "restly.cli", "restly.converters", "restly.errors", "restly.parser", "restly.request",
   "restly.resource", "restly.response", "restly.routing", "restly.validation", "sqlite3.dbapi2",
   "sqlite3.dump", "typer.cli", "typer.colors", "typer.completion", "typer.core", "typer.main",
   "typer.models", "typer.params", "typer.rich_utils", "typer.testing", "typer.utils",
   "typing_inspection.introspection", "typing_inspection.typing_objects", "unittest.async_case",
   "unittest.case", "unittest.loader", "unittest.main", "unittest.mock", "unittest.result",
   "unittest.runner", "unittest.signals", "unittest.suite", "unittest.util", "urllib.error",
   "urllib.parse", "urllib.request", "urllib.response", "urllib.robotparser", "wsgiref.handlers",
   "wsgiref.headers", "wsgiref.simple_server", "wsgiref.types", "wsgiref.util", "wsgiref.validate",
   "xml.dom", "xml.dom.NodeFilter", "xml.dom.domreg", "xml.dom.expatbuilder", "xml.dom.minicompat",
   "xml.dom.minidom", "xml.dom.pulldom", "xml.dom.xmlbuilder", "xml.etree",
   "xml.etree.ElementInclude", "xml.etree.ElementPath", "xml.etree.ElementTree",
   "xml.etree.cElementTree", "xml.parsers", "xml.parsers.expat", "xml.sax", "xml.sax.expatreader",
   "xml.sax.handler", "xml.sax.saxutils", "xml.sax.xmlreader", "xmlrpc.client", "xmlrpc.server"]

inductive Missing where
  | noModule
  | notPackage
deriving DecidableEq, Repr

def find (parent full : String) : Except Missing Unit :=
  if full ∈ inner || (parent ∈ packages && full = parent ++ ".__init__") then .ok ()
  else if parent ∈ packages then .error .noModule
  else .error .notPackage

end RestDispatch.StandardModule
