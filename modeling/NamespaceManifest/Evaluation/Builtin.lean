import NamespaceManifest.Value.Basic

/-!
# Names known in every environment

Besides what a module binds, a fragment can use the names that every environment knows.  Of what most
of them stand for only the kind matters, because a fragment has to denote texts.
-/

namespace NamespaceManifest

/-- The names that a module binds. -/
abbrev Bindings := List (String × Value)

namespace Builtin

/-- The words that are no names: a fragment cannot use them. -/
def reservedWords : List String :=
  ["and", "as", "assert", "async", "await", "break", "class", "continue", "def", "del", "elif",
   "else", "except", "finally", "for", "from", "global", "if", "import", "in", "is", "lambda",
   "nonlocal", "not", "or", "pass", "raise", "return", "try", "while", "with", "yield"]

/-- The words that denote the same in every environment. -/
def constants : Bindings :=
  [("None", .null), ("True", .bool true), ("False", .bool false)]

/-- Names of types. -/
def typeNames : List String :=
  ["ArithmeticError", "AssertionError", "AttributeError", "BaseException", "BaseExceptionGroup",
   "BlockingIOError", "BrokenPipeError", "BufferError", "BytesWarning", "ChildProcessError",
   "ConnectionAbortedError", "ConnectionError", "ConnectionRefusedError", "ConnectionResetError",
   "DeprecationWarning", "EOFError", "EncodingWarning", "EnvironmentError", "Exception",
   "ExceptionGroup", "FileExistsError", "FileNotFoundError", "FloatingPointError", "FutureWarning",
   "GeneratorExit", "IOError", "ImportError", "ImportWarning", "IndentationError", "IndexError",
   "InterruptedError", "IsADirectoryError", "KeyError", "KeyboardInterrupt", "LookupError",
   "MemoryError", "ModuleNotFoundError", "NameError", "NotADirectoryError", "NotImplementedError",
   "OSError", "OverflowError", "PendingDeprecationWarning", "PermissionError", "ProcessLookupError",
   "RecursionError", "ReferenceError", "ResourceWarning", "RuntimeError", "RuntimeWarning",
   "StopAsyncIteration", "StopIteration", "SyntaxError", "SyntaxWarning", "SystemError",
   "SystemExit", "TabError", "TimeoutError", "TypeError", "UnboundLocalError", "UnicodeDecodeError",
   "UnicodeEncodeError", "UnicodeError", "UnicodeTranslateError", "UnicodeWarning", "UserWarning",
   "ValueError", "Warning", "ZeroDivisionError", "__loader__", "bool", "bytearray", "bytes",
   "classmethod", "complex", "dict", "enumerate", "filter", "float", "frozenset", "int", "list",
   "map", "memoryview", "object", "property", "range", "reversed", "set", "slice", "staticmethod",
   "str", "super", "tuple", "type", "zip"]

/-- Names of functions. -/
def functionNames : List String :=
  ["__build_class__", "__import__", "abs", "aiter", "all", "anext", "any", "ascii", "bin",
   "breakpoint", "callable", "chr", "compile", "delattr", "dir", "divmod", "eval", "exec", "format",
   "getattr", "globals", "hasattr", "hash", "hex", "id", "input", "isinstance", "issubclass",
   "iter", "len", "locals", "max", "min", "next", "oct", "open", "ord", "pow", "print", "repr",
   "round", "setattr", "sorted", "sum", "vars"]

/-- Names of other things, by kind. -/
def otherNames : List (String × String) :=
  [("Ellipsis", "ellipsis"), ("NotImplemented", "NotImplementedType"), ("__spec__", "ModuleSpec"),
   ("copyright", "_Printer"), ("credits", "_Printer"), ("exit", "Quitter"), ("help", "_Helper"),
   ("license", "_Printer"), ("quit", "Quitter")]

/-- Names of texts. -/
def textNames : List (String × String) :=
  [("__name__", "builtins"), ("__package__", ""),
   ("__doc__",
    "Built-in functions, exceptions, and other objects.\n\nNoteworthy: None is the \x60nil' object; "
      ++ "Ellipsis represents \x60...' in slices.")]

/-- What every environment binds. -/
def bindings : Bindings :=
  constants ++ textNames.map (fun entry => (entry.1, .text entry.2))
    ++ typeNames.map (fun name => (name, .foreign "type"))
    ++ functionNames.map (fun name => (name, .foreign "builtin_function_or_method"))
    ++ otherNames.map (fun entry => (entry.1, .foreign entry.2))

end Builtin
end NamespaceManifest
