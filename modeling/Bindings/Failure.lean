/-!
# Failures

Why a run stops. A `Cause` says what went wrong, a `Failure` also where: the header and the function at hand, each kept
as it was first set. Every cause breaks one of the generator's `Invariant`s, whose code it carries.
-/

namespace Bindings

/-- What the generator promises, and needs. -/
inductive Invariant where
  | naming
  | drainedDefaults
  | drainedOverrides
  | noEarlyReturn
  | knownTypes
  | files
  | headers
  | configs
deriving DecidableEq, Repr

namespace Invariant

def all : List Invariant :=
  [.naming, .drainedDefaults, .drainedOverrides, .noEarlyReturn, .knownTypes, .files, .headers, .configs]

def code : Invariant → String
  | .naming => "BG-ERR-NAMING"
  | .drainedDefaults => "BG-ERR-UNDRAINED-DEFAULT"
  | .drainedOverrides => "BG-ERR-UNDRAINED-OVERRIDE"
  | .noEarlyReturn => "BG-ERR-EARLY-RETURN"
  | .knownTypes => "BG-ERR-UNKNOWN-TYPE"
  | .files => "BG-ERR-IO"
  | .headers => "BG-ERR-IR-PARSE"
  | .configs => "BG-ERR-CONFIG-PARSE"

def guarantee : Invariant → String
  | .naming => "Every native function is named c_<module>_<name>."
  | .drainedDefaults => "Every configured default corresponds to a parameter of its function."
  | .drainedOverrides => "Every configured parameter override corresponds to a parameter of its function."
  | .noEarlyReturn =>
    "Injected code assigns to retval and never returns; the wrapper owns the return statement."
  | .knownTypes => "Every exposed native type has a host-language annotation."
  | .files => "Input and output files are readable and writable."
  | .headers => "Header metadata is well-formed parser output."
  | .configs => "Generator configuration is well-formed TOML."

def ofCode? (code : String) : Option Invariant :=
  all.find? (·.code == code)

end Invariant

/-- What went wrong. -/
inductive Cause where
  /-- A function is not named as its module asks. -/
  | misnamed (function module : String)
  /-- A type that would be exposed has no host type. -/
  | unknownType (raw : String)
  /-- Defaults are configured for names that are no parameters of the function. -/
  | strayDefaults (function : String) (names : List String)
  /-- Overrides are configured for names that are no parameters of the function. -/
  | strayOverrides (function : String) (names : List String)
  /-- The configured code of a function returns. -/
  | earlyReturn (function : String)
  | noInputDirectory (directory : String)
  | unreadableHeader (path : String)
  | malformedHeader (origin : String)
  | unreadableConfig (path : String)
  | malformedConfig (origin : String)
  | directoryNotCreated (directory : String)
  | fileNotWritten (path : String)
  /-- A cause from elsewhere, by its code and message. -/
  | reported (code message : String)
deriving DecidableEq, Repr

namespace Cause

/-- The invariant that is broken, if it is one of the generator's own. -/
def invariant? : Cause → Option Invariant
  | .misnamed .. => some .naming
  | .unknownType _ => some .knownTypes
  | .strayDefaults .. => some .drainedDefaults
  | .strayOverrides .. => some .drainedOverrides
  | .earlyReturn _ => some .noEarlyReturn
  | .noInputDirectory _ | .unreadableHeader _ | .unreadableConfig _ | .directoryNotCreated _ | .fileNotWritten _ =>
    some .files
  | .malformedHeader _ => some .headers
  | .malformedConfig _ => some .configs
  | .reported code _ => Invariant.ofCode? code

def code : Cause → String
  | .reported code _ => code
  | cause => (cause.invariant?.map Invariant.code).getD ""

def guarantee (cause : Cause) : String :=
  (cause.invariant?.map Invariant.guarantee).getD "Unknown invariant."

def message : Cause → String
  | .misnamed function module => "Unexpected fn " ++ function ++ ": expected c_" ++ module ++ "_<name>"
  | .unknownType raw => "No host annotation for native type '" ++ raw ++ "'"
  | .strayDefaults function names =>
    function ++ ": defaults configured for unknown parameters: " ++ ", ".intercalate names
  | .strayOverrides function names =>
    function ++ ": param_override configured for unknown parameters: " ++ ", ".intercalate names
  | .earlyReturn function => function ++ ": Do not use return, assign to retval instead"
  | .noInputDirectory directory => "Input directory " ++ directory ++ " does not exist"
  | .unreadableHeader path => "Failed to read " ++ path
  | .malformedHeader origin => "Invalid header metadata " ++ origin
  | .unreadableConfig path => "Failed to read config " ++ path
  | .malformedConfig origin => "Invalid generator config " ++ origin
  | .directoryNotCreated directory => "Failed to create " ++ directory
  | .fileNotWritten path => "Failed to write " ++ path
  | .reported _ message => message

/-- What to do about it. -/
def hints : Cause → List String
  | .unknownType _ => ["Add the type to the native type table in annotations.rs"]
  | _ => []

/-- Whether the reader or the file system adds wording of its own, which ends a log. -/
def isOpen : Cause → Bool
  | .unreadableHeader _ | .malformedHeader _ | .unreadableConfig _ | .malformedConfig _ | .directoryNotCreated _
  | .fileNotWritten _ => true
  | _ => false

end Cause

/-- A cause and its place. -/
structure Failure where
  cause : Cause
  header : Option String
  function : Option String
  hints : List String
deriving DecidableEq, Repr

namespace Failure

def ofCause (cause : Cause) : Failure :=
  ⟨cause, none, none, cause.hints⟩

/-- Name the function at hand, unless one is named already. -/
def inFunction (function : String) (f : Failure) : Failure :=
  { f with function := f.function <|> some function }

/-- Name the header at hand, unless one is named already. -/
def inHeader (header : String) (f : Failure) : Failure :=
  { f with header := f.header <|> some header }

def withHint (hint : String) (f : Failure) : Failure :=
  { f with hints := f.hints ++ [hint] }

/-- One line that tells the failure: its code and message. -/
def summary (f : Failure) : String :=
  "[" ++ f.cause.code ++ "] " ++ f.cause.message

end Failure

end Bindings
