import Bindings.Config.Basic
import Bindings.Failure
import Bindings.Native.Type
import Bindings.Text.Lowercase

/-!
# Binding parameters

How one parameter of a native function appears in the wrapper: its direction, the type and name it is passed by, and
its part of the exposed signature. A parameter takes the override and the default configured under its name; each is
used up by the first parameter of that name (`bindAll`).
-/

namespace Bindings

/-- Where the value of a parameter goes. -/
inductive Direction where
  | input
  /-- Passed by address and returned. -/
  | pointer
  /-- A buffer of fixed size that is returned. -/
  | array
  /-- A collection of any size that is returned. -/
  | vector
deriving DecidableEq, Repr

namespace Direction

def isOutput (d : Direction) : Bool :=
  d != .input

def text : Direction → String
  | .input => "input"
  | .pointer => "out-pointer"
  | .array => "out-array"
  | .vector => "out-vector"

end Direction

structure BoundParameter where
  name : String
  rawType : String
  direction : Direction
  pointer : Bool
  array : Bool
  arraySize : Option ArraySize
  default : Option String
  /-- The type in the wrapper. -/
  type : String
  /-- What is passed in the native call. -/
  callName : String
  hostType : String
  /-- Its part of the annotated signature. -/
  signature : String
  /-- Its argument declaration. -/
  argument : String
  /-- Its declaration as a variable. -/
  declaration : String
deriving DecidableEq

/-- The host type of a type that is to be exposed. -/
def hostTypeOf (raw : String) : Except Failure String :=
  match HostType.ofSpelling? raw with
  | some a => .ok a.text
  | none => .error (.ofCause (.unknownType raw))

namespace NativeParameter

/-- The name of the parameter at the given position among those exposed; one without a name is numbered. -/
def nameAt (position : Nat) (p : NativeParameter) : String :=
  if p.name = "" then "param" ++ toString position else p.name

/-- A parameter with its override applied. -/
structure Overridden where
  pointer : Bool
  array : Bool
  arraySize : Option ArraySize
  type : String
  hostType : String

/-- Any override decides whether the parameter is a pointer; other parts keep what it leaves out. -/
def override (p : NativeParameter) (hostType : String) : Option ParameterOverride → Overridden
  | none => ⟨p.pointer, p.array, p.arraySize, p.rawType, hostType⟩
  | some o =>
    ⟨o.pointer.getD false, o.array.getD p.array, o.arraySize <|> p.arraySize, o.type.getD p.rawType,
      o.hostType.getD hostType⟩

/-- The length of an array that has one. -/
def Overridden.fixedSize? (o : Overridden) : Option ArraySize :=
  o.arraySize.filter ArraySize.isFixed

def Overridden.direction (o : Overridden) : Direction :=
  if o.pointer then .pointer
  else if o.array then if o.fixedSize?.isSome then .array else .vector
  else .input

/-- Parameters of this name, in any case, have a default of zero. -/
def timeoutName : List Char := "timeoutms".toList

/-- The default of a parameter: the configured one, or zero for a timeout. -/
def defaultText? (name : String) (configured : Option DefaultValue) : Option String :=
  match configured with
  | some value => some value.literal
  | none => if Text.lowercase name.toList = timeoutName then some "0" else none

/-- Bind the parameter at the given position, with what is configured for it. -/
def bind (position : Nat) (p : NativeParameter) (configured : Option ParameterOverride)
    (default : Option DefaultValue) : Except Failure BoundParameter := do
  let hostType ← hostTypeOf p.rawType
  let name := p.nameAt position
  let o := p.override hostType configured
  let default := defaultText? name default
  let type := match o.direction, o.fixedSize? with
    | .array, some size => "std::array<" ++ o.type ++ ", " ++ size.text ++ ">"
    | _, _ => o.type
  return {
    name
    rawType := p.rawType
    direction := o.direction
    pointer := o.pointer
    array := o.array
    arraySize := o.arraySize
    default
    type
    callName := match o.direction with
      | .pointer => "&" ++ name
      | .array => name ++ ".data()"
      | .vector | .input => name
    hostType := match o.direction with
      | .array => "typing.List[" ++ hostType ++ "]"
      | _ => o.hostType
    signature := name ++ ": " ++ o.hostType ++ (default.elim "" (" = " ++ ·))
    argument := "py::arg(\"" ++ name ++ "\")" ++ (default.elim "" ("=" ++ ·))
    declaration := type ++ " " ++ name
  }

end NativeParameter

/-- What is configured and not yet used. -/
structure Pending where
  defaults : Table DefaultValue
  overrides : Table ParameterOverride

namespace Pending

def erase (pending : Pending) (name : String) : Pending :=
  ⟨pending.defaults.erase name, pending.overrides.erase name⟩

/-- Everything configured has been used. -/
def drained (function : String) (pending : Pending) : Except Failure Unit :=
  if !pending.defaults.isEmpty then .error (.ofCause (.strayDefaults function pending.defaults.names))
  else if !pending.overrides.isEmpty then .error (.ofCause (.strayOverrides function pending.overrides.names))
  else .ok ()

end Pending

/-- Bind parameters from the given position on, using up what is configured for them. -/
def bindAll (position : Nat) (pending : Pending) : List NativeParameter → Except Failure (List BoundParameter × Pending)
  | [] => .ok ([], pending)
  | p :: ps => do
    let name := p.nameAt position
    let bound ← p.bind position (pending.overrides.get? name) (pending.defaults.get? name)
    let (rest, pending) ← bindAll (position + 1) (pending.erase name) ps
    return (bound :: rest, pending)

end Bindings
