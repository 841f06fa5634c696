import GuardedSteps.ErrorType.Standard

/-!
The modules in which error types are looked up by dotted names. A module binds names to error types,
to nothing, or to other things, which are of no interest here beyond being no error types.
-/

namespace GuardedSteps

inductive Candidate
  | errorType (type : ErrorType)
  | valueType (name : String)
  | other
  | nothing
  deriving DecidableEq, Repr

/-- A module by its dotted name. -/
structure ModuleEntry where
  name : String
  types : List (String × ErrorType)
  others : List String
  empty : List String := []
  isPackage : Bool := false

namespace ModuleEntry

def find? (entry : ModuleEntry) (name : String) : Option Candidate :=
  if entry.empty.contains name then some .nothing
  else match entry.types.lookup name with
    | some type => some (.errorType type)
    | none =>
      if entry.others.contains name || ErrorType.everyModule.contains name then some .other else none

end ModuleEntry

/-- What names are looked up in: the names that need no module, and modules by their own names. -/
structure Library where
  standard : ModuleEntry
  modules : List ModuleEntry

namespace Library

def moduleNamed? (library : Library) (name : String) : Option ModuleEntry :=
  library.modules.find? (·.name == name)

end Library

namespace Catalog

open ErrorType

def named (types : List ErrorType) : List (String × ErrorType) :=
  types.map fun type => (type.name, type)

def fileNames : List String := ["__builtins__", "__cached__", "__file__"]

/-! ## Modules of general use -/

def standard : ModuleEntry where
  name := "builtins"
  types := standardNames
  others := standardOthers
  empty := ["None"]

def jsonModule : ModuleEntry where
  name := "json"
  types := named [jsonDecodeError]
  others := fileNames ++ ["JSONDecoder", "JSONEncoder", "__all__", "__author__", "__path__",
    "__version__", "_default_decoder", "_default_encoder", "codecs", "decoder", "detect_encoding",
    "dump", "dumps", "encoder", "load", "loads", "scanner"]
  isPackage := true

def jsonDecoderModule : ModuleEntry where
  name := "json.decoder"
  types := named [jsonDecodeError]
  others := fileNames ++ ["BACKSLASH", "FLAGS", "JSONArray", "JSONDecoder", "JSONObject", "NaN",
    "NegInf", "PosInf", "STRINGCHUNK", "WHITESPACE", "WHITESPACE_STR", "_CONSTANTS", "__all__",
    "_decode_uXXXX", "c_scanstring", "py_scanstring", "re", "scanner", "scanstring"]

def tasks : ModuleEntry where
  name := "concurrent"
  types := []
  others := fileNames ++ ["__path__", "futures"]
  empty := ["__doc__"]
  isPackage := true

def taskFutures : ModuleEntry where
  name := "concurrent.futures"
  types := named [brokenExecutor, cancelledError, invalidStateError, osError.child "TimeoutError"]
  others := fileNames ++ ["ALL_COMPLETED", "Executor", "FIRST_COMPLETED", "FIRST_EXCEPTION",
    "Future", "ProcessPoolExecutor", "ThreadPoolExecutor", "__all__", "__author__", "__getattr__",
    "__path__", "_base", "as_completed", "wait"]
  isPackage := true

def system : ModuleEntry where
  name := "os"
  types := [("error", osError)]
  others := fileNames ++ ["path"]

def systemPaths : ModuleEntry where
  name := "os.path"
  types := []
  others := "__all__" :: fileNames ++ ["_get_sep", "_joinrealpath", "_path_normpath", "abspath",
    "basename", "commonpath", "commonprefix", "curdir", "defpath", "devnull", "dirname", "exists",
    "expanduser", "expandvars", "extsep", "genericpath", "getatime", "getctime", "getmtime",
    "getsize", "isabs", "isdir", "isfile", "islink", "ismount", "join", "lexists", "normcase",
    "normpath", "os", "pardir", "pathsep", "realpath", "relpath", "samefile", "sameopenfile",
    "samestat", "sep", "split", "splitdrive", "splitext", "stat", "supports_unicode_filenames",
    "sys"]
  empty := ["altsep", "_varprog", "_varprogb"]

/-! ## The modules of guards -/

def guardTypes : List ErrorType :=
  [guardAssertionError, guardError, guardTimeoutError, parseError, skipStep, typeResolutionError]

def guards : ModuleEntry where
  name := "stepguard"
  types := named guardTypes
  others := fileNames ++ ["GUARD_PATTERN", "GUARD_PREFIX", "Guard", "GuardKind", "GuardSettings",
    "StepContext", "StepResult", "StepStatus", "__all__", "__path__", "asserts", "cli", "config",
    "context", "errors", "extract_guards", "logger", "parse", "parse_guards", "parse_phrase",
    "parser", "runtime", "typeresolver", "types"]
  empty := ["__doc__"]
  isPackage := true

def guardPart (name : String) (types : List ErrorType) (others : List String) : ModuleEntry where
  name := "stepguard." ++ name
  types := named types
  others := fileNames ++ others

def guardParts : List ModuleEntry := [
  guardPart "errors" guardTypes [],
  guardPart "asserts" [guardAssertionError, guardTimeoutError] [],
  guardPart "cli" [guardError] ["extract_guards", "main", "parse_guards"],
  guardPart "config" [] ["GuardSettings"],
  guardPart "context" [] ["GuardSettings", "StepContext"],
  guardPart "parser" [parseError, validationError]
    ["GUARD_PATTERN", "GUARD_PREFIX", "Guard", "GuardKind", "extract_guards", "parse",
      "parse_guards", "parse_phrase"],
  guardPart "runtime" [guardAssertionError, skipStep] ["Guard", "GuardKind", "StepResult", "StepStatus"],
  guardPart "typeresolver" [typeResolutionError] [],
  guardPart "types" [skipStep] ["Guard", "GuardKind", "StepResult", "StepStatus"]]

/-! ## The library -/

def entries : List ModuleEntry :=
  [standard, jsonModule, jsonDecoderModule, tasks, taskFutures, system, systemPaths, guards] ++ guardParts

def library : Library := ⟨standard, entries⟩

end Catalog

end GuardedSteps
