import GuardedSteps.ErrorType.Basic

/-!
The standard error types. They form a tree under `baseException`; ordinary errors lie under
`exception`, and what lies outside is a signal to leave the program. The types of this library lie
under `guardError`.
-/

namespace GuardedSteps

namespace ErrorType

/-! ## The trunk -/

def baseException : ErrorType := under [] "builtins" "BaseException"

def child (parent : ErrorType) (name : String) : ErrorType := under [parent] "builtins" name

def exception : ErrorType := baseException.child "Exception"
def arithmeticError : ErrorType := exception.child "ArithmeticError"
def assertionError : ErrorType := exception.child "AssertionError"
def importError : ErrorType := exception.child "ImportError"
def lookupError : ErrorType := exception.child "LookupError"
def nameError : ErrorType := exception.child "NameError"
def osError : ErrorType := exception.child "OSError"
def runtimeError : ErrorType := exception.child "RuntimeError"
def syntaxError : ErrorType := exception.child "SyntaxError"
def systemError : ErrorType := exception.child "SystemError"
def typeError : ErrorType := exception.child "TypeError"
def valueError : ErrorType := exception.child "ValueError"
def warning : ErrorType := exception.child "Warning"
def attributeError : ErrorType := exception.child "AttributeError"
def connectionError : ErrorType := osError.child "ConnectionError"
def unicodeError : ErrorType := valueError.child "UnicodeError"
def indentationError : ErrorType := syntaxError.child "IndentationError"
def keyError : ErrorType := lookupError.child "KeyError"
def overflowError : ErrorType := arithmeticError.child "OverflowError"
def moduleNotFoundError : ErrorType := importError.child "ModuleNotFoundError"
def exceptionGroupBase : ErrorType := baseException.child "BaseExceptionGroup"

/-! ## The types of guards -/

def guardError : ErrorType := under [exception] "stepguard.errors" "GuardError"

def guardChild (name : String) : ErrorType := under [guardError] "stepguard.errors" name

def parseError : ErrorType := guardChild "ParseError"
def typeResolutionError : ErrorType := guardChild "TypeResolutionError"

def skipStep : ErrorType := guardChild "SkipStep"

def guardAssertionError : ErrorType :=
  under [guardError, assertionError] "stepguard.errors" "GuardAssertionError"

def guardTimeoutError : ErrorType := under [guardAssertionError] "stepguard.errors" "GuardTimeoutError"

example : skipStep.isA exception = true ∧ skipStep.isA assertionError = false ∧
    guardTimeoutError.isA exception = true ∧ guardTimeoutError.isA assertionError = true := by decide

/-! ## Types of other modules -/

def jsonDecodeError : ErrorType := under [valueError] "json.decoder" "JSONDecodeError"
def patternError : ErrorType := under [exception] "re" "error"
def validationError : ErrorType := under [valueError] "validation" "ValidationError"
def futureError : ErrorType := under [exception] "concurrent.futures._base" "Error"
def cancelledError : ErrorType := under [futureError] "concurrent.futures._base" "CancelledError"
def invalidStateError : ErrorType := under [futureError] "concurrent.futures._base" "InvalidStateError"
def brokenExecutor : ErrorType := under [runtimeError] "concurrent.futures._base" "BrokenExecutor"

/-! ## The names that need no module -/

/-- The standard types by the names under which they are found. Two names are further names of the
type of system errors. -/
def standardNames : List (String × ErrorType) :=
  let named (types : List ErrorType) := types.map fun type => (type.name, type)
  named [baseException, exception, arithmeticError, assertionError, importError, lookupError,
    nameError, osError, runtimeError, syntaxError, systemError, typeError, valueError, warning,
    attributeError, connectionError, unicodeError, indentationError, keyError, overflowError,
    moduleNotFoundError, exceptionGroupBase] ++
  named (["GeneratorExit", "KeyboardInterrupt", "SystemExit"].map baseException.child) ++
  named (["BufferError", "EOFError", "MemoryError", "ReferenceError", "StopAsyncIteration",
    "StopIteration"].map exception.child) ++
  named (["FloatingPointError", "ZeroDivisionError"].map arithmeticError.child) ++
  named [lookupError.child "IndexError", nameError.child "UnboundLocalError", indentationError.child "TabError"] ++
  named (["BlockingIOError", "ChildProcessError", "FileExistsError", "FileNotFoundError",
    "InterruptedError", "IsADirectoryError", "NotADirectoryError", "PermissionError",
    "ProcessLookupError", "TimeoutError"].map osError.child) ++
  named (["BrokenPipeError", "ConnectionAbortedError", "ConnectionRefusedError",
    "ConnectionResetError"].map connectionError.child) ++
  named (["NotImplementedError", "RecursionError"].map runtimeError.child) ++
  named (["UnicodeDecodeError", "UnicodeEncodeError", "UnicodeTranslateError"].map unicodeError.child) ++
  named (["BytesWarning", "DeprecationWarning", "EncodingWarning", "FutureWarning",
    "ImportWarning", "PendingDeprecationWarning", "ResourceWarning", "RuntimeWarning",
    "SyntaxWarning", "UnicodeWarning", "UserWarning"].map warning.child) ++
  [("ExceptionGroup", under [exceptionGroupBase, exception] "builtins" "ExceptionGroup"),
    ("EnvironmentError", osError), ("IOError", osError)]

example : standardNames.length = 69 := by decide

def standardOthers : List String := [
  "Ellipsis", "False", "NotImplemented", "True", "__build_class__", "__debug__", "__doc__",
  "__import__", "abs", "aiter", "all", "anext", "any", "ascii", "bin", "bool", "breakpoint",
  "bytearray", "bytes", "callable", "chr", "classmethod", "compile", "complex", "copyright",
  "credits", "delattr", "dict", "dir", "divmod", "enumerate", "eval", "exec", "exit", "filter",
  "float", "format", "frozenset", "getattr", "globals", "hasattr", "hash", "help", "hex", "id",
  "input", "int", "isinstance", "issubclass", "iter", "len", "license", "list", "locals", "map",
  "max", "memoryview", "min", "next", "object", "oct", "open", "ord", "pow", "print", "property",
  "quit", "range", "repr", "reversed", "round", "set", "setattr", "slice", "sorted",
  "staticmethod", "str", "sum", "super", "tuple", "type", "vars", "zip"]

def everyModule : List String := [
  "__annotations__", "__class__", "__delattr__", "__dict__", "__dir__", "__doc__", "__eq__",
  "__format__", "__ge__", "__getattribute__", "__getstate__", "__gt__", "__hash__", "__init__",
  "__init_subclass__", "__le__", "__loader__", "__lt__", "__name__", "__ne__", "__new__",
  "__package__", "__reduce__", "__reduce_ex__", "__repr__", "__setattr__", "__sizeof__",
  "__spec__", "__str__", "__subclasshook__"]

end ErrorType

end GuardedSteps
