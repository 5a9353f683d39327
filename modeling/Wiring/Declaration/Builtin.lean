/-!
# Built-in names

The names that every module knows without an import, and those that stand for the kinds of types
that hold others.
-/

namespace Wiring

/-- The names that need no declaration. -/
def builtinNames : List String :=
  ["ArithmeticError", "AssertionError", "AttributeError", "BaseException", "BaseExceptionGroup",
   "BlockingIOError", "BrokenPipeError", "BufferError", "BytesWarning", "ChildProcessError",
   "ConnectionAbortedError", "ConnectionError", "ConnectionRefusedError", "ConnectionResetError",
   "DeprecationWarning", "EOFError", "Ellipsis", "EncodingWarning", "EnvironmentError",
   "Exception", "ExceptionGroup", "False", "FileExistsError", "FileNotFoundError",
   "FloatingPointError", "FutureWarning", "GeneratorExit", "IOError", "ImportError",
   "ImportWarning", "IndentationError", "IndexError", "InterruptedError", "IsADirectoryError",
   "KeyError", "KeyboardInterrupt", "LookupError", "MemoryError", "ModuleNotFoundError",
   "NameError", "None", "NotADirectoryError", "NotImplemented", "NotImplementedError", "OSError",
   "OverflowError", "PendingDeprecationWarning", "PermissionError", "ProcessLookupError",
   "RecursionError", "ReferenceError", "ResourceWarning", "RuntimeError", "RuntimeWarning",
   "StopAsyncIteration", "StopIteration", "SyntaxError", "SyntaxWarning", "SystemError",
   "SystemExit", "TabError", "TimeoutError", "True", "TypeError", "UnboundLocalError",
   "UnicodeDecodeError", "UnicodeEncodeError", "UnicodeError", "UnicodeTranslateError",
   "UnicodeWarning", "UserWarning", "ValueError", "Warning", "ZeroDivisionError",
   "__annotations__", "__build_class__", "__class__", "__debug__", "__delattr__", "__dict__",
   "__dir__", "__doc__", "__eq__", "__format__", "__ge__", "__getattribute__", "__getstate__",
   "__gt__", "__hash__", "__import__", "__init__", "__init_subclass__", "__le__", "__loader__",
   "__lt__", "__name__", "__ne__", "__new__", "__package__", "__reduce__", "__reduce_ex__",
   "__repr__", "__setattr__", "__sizeof__", "__spec__", "__str__", "__subclasshook__", "abs",
   "aiter", "all", "anext", "any", "ascii", "bin", "bool", "breakpoint", "bytearray", "bytes",
   "callable", "chr", "classmethod", "compile", "complex", "copyright", "credits", "delattr",
   "dict", "dir", "divmod", "enumerate", "eval", "exec", "exit", "filter", "float", "format",
   "frozenset", "getattr", "globals", "hasattr", "hash", "help", "hex", "id", "input", "int",
   "isinstance", "issubclass", "iter", "len", "license", "list", "locals", "map", "max",
   "memoryview", "min", "next", "object", "oct", "open", "ord", "pow", "print", "property", "quit",
   "range", "repr", "reversed", "round", "set", "setattr", "slice", "sorted", "staticmethod",
   "str", "sum", "super", "tuple", "type", "vars", "zip"]

/-- The names of the error channel: `ERROR_NAMES`. -/
def errorNames : List String := ["Exception", "BaseException"]

/-- The names that hold elements of one type, each with the wrapper that it stands for:
`ELEMENT_WRAPPERS`. -/
def elementNames : List (String × String) :=
  [("list", "list"), ("List", "list"), ("set", "set"), ("Set", "set"), ("frozenset", "frozenset"),
   ("FrozenSet", "frozenset"), ("Sequence", "sequence"), ("Collection", "collection"),
   ("Iterable", "iterable"), ("Iterator", "iterator"), ("deque", "deque"), ("Deque", "deque"),
   ("Optional", "optional"), ("type", "type"), ("Type", "type")]

/-- The names that map keys to values: `MAP_WRAPPERS`. -/
def mapNames : List String :=
  ["dict", "Dict", "Mapping", "MutableMapping", "defaultdict", "OrderedDict"]

/-- The names of records: `TUPLE_NAMES`. -/
def recordNames : List String := ["tuple", "Tuple"]

/-- The name that joins alternatives. -/
def unionName : String := "Union"

/-- The name is known without a declaration. -/
def isBuiltin (name : String) : Bool :=
  name == "None" || name == "Any" || builtinNames.contains name

end Wiring
