/-
The names that formulas may use without giving them a value: constants, functions, classes of values
and classes of errors. Functions and classes are known by their literals.
-/
import SolidityWire.Codec.Misuse
import SolidityWire.Value.Basic

namespace SolidityWire.Formula

/-! ## Functions and classes -/

/-- The names of functions. -/
def functionNames : List String :=
  ["__build_class__", "__import__", "abs", "aiter", "all", "anext", "any", "ascii", "bin",
    "breakpoint", "callable", "chr", "compile", "delattr", "dir", "divmod", "eval", "exec",
    "format", "getattr", "globals", "hasattr", "hash", "hex", "id", "input", "isinstance",
    "issubclass", "iter", "len", "locals", "max", "min", "next", "oct", "open", "ord", "pow",
    "print", "repr", "round", "setattr", "sorted", "sum", "vars"]

/-- The names of classes. -/
def classNames : List String :=
  ["bool", "bytearray", "bytes", "classmethod", "complex", "dict", "enumerate", "filter", "float",
    "frozenset", "int", "list", "map", "memoryview", "object", "property", "range", "reversed",
    "set", "slice", "staticmethod", "str", "super", "tuple", "type", "zip"]

/-- The names of classes of errors. -/
def errorClassNames : List String :=
  ["ArithmeticError", "AssertionError", "AttributeError", "BaseException", "BaseExceptionGroup",
    "BlockingIOError", "BrokenPipeError", "BufferError", "BytesWarning", "ChildProcessError",
    "ConnectionAbortedError", "ConnectionError", "ConnectionRefusedError", "ConnectionResetError",
    "DeprecationWarning", "EOFError", "EncodingWarning", "Exception", "ExceptionGroup",
    "FileExistsError", "FileNotFoundError", "FloatingPointError", "FutureWarning", "GeneratorExit",
    "ImportError", "ImportWarning", "IndentationError", "IndexError", "InterruptedError",
    "IsADirectoryError", "KeyError", "KeyboardInterrupt", "LookupError", "MemoryError",
    "ModuleNotFoundError", "NameError", "NotADirectoryError", "NotImplementedError", "OSError",
    "OverflowError", "PendingDeprecationWarning", "PermissionError", "ProcessLookupError",
    "RecursionError", "ReferenceError", "ResourceWarning", "RuntimeError", "RuntimeWarning",
    "StopAsyncIteration", "StopIteration", "SyntaxError", "SyntaxWarning", "SystemError",
    "SystemExit", "TabError", "TimeoutError", "TypeError", "UnboundLocalError",
    "UnicodeDecodeError", "UnicodeEncodeError", "UnicodeError", "UnicodeTranslateError",
    "UnicodeWarning", "UserWarning", "ValueError", "Warning", "ZeroDivisionError"]

/-- Whether the name is that of a class of errors, be it a known one or one that says so. -/
def isErrorName (name : String) : Bool :=
  errorClassNames.contains name || name.endsWith "Error"

/-! ## Values of names -/

/-- A function as a value. -/
def functionValue (name : String) : Value :=
  .foreign ("<built-in function " ++ name ++ ">") "builtin_function_or_method"

/-- A class as a value. -/
def classValue (name : String) : Value :=
  .foreign ("<class '" ++ name ++ "'>") "type"

/-- What stands between a front and an end of a literal. -/
def between? (front tail literal : String) : Option String :=
  if literal.startsWith front && literal.endsWith tail then
    some (String.ofList ((literal.toList.drop front.length).take
      (literal.length - front.length - tail.length)))
  else none

/-- The name of the function that a value is. -/
def functionName? : Value → Option String
  | .foreign literal "builtin_function_or_method" => between? "<built-in function " ">" literal
  | _ => none

/-- The name of the class that a value is. -/
def className? : Value → Option String
  | .foreign literal "type" => between? "<class '" "'>" literal
  | .foreign literal "enum.EnumType" => between? "<enum '" "'>" literal
  | _ => none

/-- The last part of a name between points. -/
def lastPart (name : String) : String :=
  String.ofList (name.toList.reverse.takeWhile (· ≠ '.')).reverse

/-- Whether the value is an error. -/
def isErrorValue (v : Value) : Bool :=
  match v with
  | .foreign _ c => (className? v).isNone && isErrorName (lastPart c)
  | _ => false

/-- What a name stands for where nothing has been given to it. -/
def standing? (name : String) : Option Value :=
  if functionNames.contains name then some (functionValue name)
  else if classNames.contains name || errorClassNames.contains name then some (classValue name)
  else
    match name with
    | "EnvironmentError" | "IOError" => some (classValue "OSError")
    | "Ellipsis" => some (.foreign "Ellipsis" "ellipsis")
    | "NotImplemented" => some (.foreign "NotImplemented" "NotImplementedType")
    | "__debug__" => some (.boolean true)
    | "__name__" => some (.text "builtins")
    | "__package__" => some (.text "")
    | "__loader__" => some (classValue "_frozen_importlib.BuiltinImporter")
    | "__spec__" =>
      some (.foreign ("ModuleSpec(name='builtins', loader=<class " ++
        "'_frozen_importlib.BuiltinImporter'>, origin='built-in')")
        "_frozen_importlib.ModuleSpec")
    | "exit" | "quit" =>
      some (.foreign ("Use " ++ name ++ "() or Ctrl-D (i.e. EOF) to exit") "_sitebuiltins.Quitter")
    | "help" =>
      some (.foreign "Type help() for interactive help, or help(object) for help about object."
        "_sitebuiltins._Helper")
    | _ => none

end SolidityWire.Formula
