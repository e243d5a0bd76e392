import Bindings.Failure
import Bindings.Text.Cut
import Bindings.Text.Quoted

/-!
# The log

What a run reports as it goes. An `Event` is data; `Event.lines` is how the log shows it, given what the reader or the
file system says of a failure. `Traced` is a computation that reports events and may fail: what it reported before it
failed is kept.
-/

namespace Bindings

inductive Event where
  /-- A header has been discovered. -/
  | found (path : String) (hasConfig : Bool)
  /-- A function is about to be bound without configuration of its own. -/
  | unconfigured (function : String)
  | transformed (function exposed : String) (inputs returns : Nat)
  | wrote (header : String) (functions enums : Nat) (path : String)
  | complete (headers functions written : Nat)
  | failed (failure : Failure)
deriving DecidableEq, Repr

inductive Level where
  | debug
  | info
  | warn
  | error
deriving DecidableEq, Repr

def Level.text : Level → String
  | .debug => "DEBUG"
  | .info => "INFO"
  | .warn => "WARN"
  | .error => "ERROR"

/-- What the reader or the file system says itself of what went wrong, where that is known. -/
abbrev Wording := Cause → Option String

namespace Event

def level : Event → Level
  | .found .. | .transformed .. => .debug
  | .unconfigured _ => .warn
  | .wrote .. | .complete .. => .info
  | .failed _ => .error

/-- A failure is told with its place and its hints. An open message whose rest is not known has nothing after it. -/
def failureMessages (wording : Wording) (f : Failure) : List String :=
  let placed (message : String) :=
    (message ++ " header=" ++ Text.quoted (f.header.getD "-") ++ " function="
      ++ Text.quoted (f.function.getD "-")) :: f.hints.map ("hint: " ++ ·)
  if f.cause.isOpen then
    match wording f.cause with
    | some rest => placed (f.summary ++ ": " ++ rest)
    | none => [f.summary]
  else placed f.summary

/-- What an event says, one message for each line that it starts. -/
def messages (wording : Wording) : Event → List String
  | .found path hasConfig => ["found header path=" ++ path ++ " has_config=" ++ toString hasConfig]
  | .unconfigured function => ["no generator config for function function=" ++ function]
  | .transformed function exposed inputs returns =>
    ["transformed function function=" ++ function ++ " exposed=" ++ exposed ++ " inputs=" ++ toString inputs
      ++ " returns=" ++ toString returns]
  | .wrote header functions enums path =>
    ["wrote generated header header=" ++ header ++ " functions=" ++ toString functions ++ " enums=" ++ toString enums
      ++ " path=" ++ path]
  | .complete headers functions written =>
    ["generation complete headers=" ++ toString headers ++ " functions=" ++ toString functions ++ " written="
      ++ toString written]
  | .failed f => failureMessages wording f

/-- The lines of the log for an event. -/
def lines (wording : Wording) (e : Event) : List String :=
  (e.messages wording).flatMap fun message =>
    (Text.split '\n' (e.level.text ++ " " ++ message).toList).map String.ofList

/-- Whether an event is shown; only a verbose log has debug lines. -/
def isShown (verbose : Bool) (e : Event) : Bool :=
  verbose || e.level != .debug

end Event

/-- The log of a run that reported the given events. -/
def logWith (wording : Wording) (verbose : Bool) (events : List Event) : List String :=
  (events.filter (Event.isShown verbose)).flatMap (Event.lines wording)

/-- The log as far as it is known: an open message ends it. -/
def logLines (verbose : Bool) (events : List Event) : List String :=
  logWith (fun _ => none) verbose events

/-- The outcome of a computation and what it reported. -/
structure Traced (α : Type) where
  events : List Event
  outcome : Except Failure α

namespace Traced
variable {α β : Type}

def ofExcept (outcome : Except Failure α) : Traced α :=
  ⟨[], outcome⟩

def report (e : Event) : Traced Unit :=
  ⟨[e], .ok ()⟩

/-- Go on with a result; a failure ends the computation. -/
protected def bind (t : Traced α) (next : α → Traced β) : Traced β :=
  match t.outcome with
  | .ok a => ⟨t.events ++ (next a).events, (next a).outcome⟩
  | .error f => ⟨t.events, .error f⟩

instance : Monad Traced where
  pure a := ofExcept (.ok a)
  bind := Traced.bind

def mapFailure (place : Failure → Failure) (t : Traced α) : Traced α :=
  ⟨t.events, t.outcome.mapError place⟩

end Traced

end Bindings
