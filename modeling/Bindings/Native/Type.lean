/-!
# Native types

The closed table of native types: how each is spelled, and which host type it has. A type without a host type may be
checked but never exposed.

* `ofSpelling?_eq_some_iff`: a text names a type exactly when it is that type's spelling.
-/

namespace Bindings

inductive NativeType where
  | bool
  | char
  | short
  | int
  | long
  | int16
  | int32
  | int64
  | uint8
  | uint16
  | uint32
  | uint64
  | sizeT
  | float
  | double
  | controlMode
  | errorCode
  | void
  | voidPointer
deriving DecidableEq, Repr

/-- The host's word for a type of value. -/
inductive HostType where
  | int
  | float
  | str
  | bool
  | controlMode
  | errorCode
  | none
deriving DecidableEq, Repr

def HostType.text : HostType → String
  | .int => "int"
  | .float => "float"
  | .str => "str"
  | .bool => "bool"
  | .controlMode => "ControlMode"
  | .errorCode => "ErrorCode"
  | .none => "None"

namespace NativeType

/-- All native types, in the order of the table. -/
def all : List NativeType :=
  [.bool, .char, .short, .int, .long, .int16, .int32, .int64, .uint8, .uint16, .uint32, .uint64, .sizeT, .float,
    .double, .controlMode, .errorCode, .void, .voidPointer]

def spelling : NativeType → String
  | .bool => "bool"
  | .char => "char"
  | .short => "short"
  | .int => "int"
  | .long => "long"
  | .int16 => "int16_t"
  | .int32 => "int32_t"
  | .int64 => "int64_t"
  | .uint8 => "uint8_t"
  | .uint16 => "uint16_t"
  | .uint32 => "uint32_t"
  | .uint64 => "uint64_t"
  | .sizeT => "size_t"
  | .float => "float"
  | .double => "double"
  | .controlMode => "ctre::phoenix::motorcontrol::ControlMode"
  | .errorCode => "ctre::phoenix::ErrorCode"
  | .void => "void"
  | .voidPointer => "void *"

/-- The type with the given spelling; spelling is exact. -/
def ofSpelling? (raw : String) : Option NativeType :=
  all.find? (·.spelling == raw)

theorem mem_all (t : NativeType) : t ∈ all := by
  cases t <;> decide

theorem spelling_injective {s t : NativeType} (h : s.spelling = t.spelling) : s = t := by
  revert h
  cases s <;> cases t <;> decide

theorem ofSpelling?_eq_some_iff {raw : String} {t : NativeType} : ofSpelling? raw = some t ↔ t.spelling = raw := by
  constructor
  · intro h
    simpa using List.find?_some h
  · rintro rfl
    match h : ofSpelling? t.spelling with
    | some s =>
      have hs : s.spelling = t.spelling := by simpa using List.find?_some h
      rw [spelling_injective hs]
    | none => exact absurd (List.find?_eq_none.1 h t (mem_all t)) (by simp)

def hostType? : NativeType → Option HostType
  | .short | .int | .uint8 | .uint16 | .int32 | .uint32 | .sizeT => some .int
  | .double => some .float
  | .char => some .str
  | .bool => some .bool
  | .controlMode => some .controlMode
  | .errorCode => some .errorCode
  | .void => some .none
  | .long | .int16 | .int64 | .uint64 | .float | .voidPointer => none

end NativeType

/-- The host type of the type with the given spelling. -/
def HostType.ofSpelling? (raw : String) : Option HostType :=
  (NativeType.ofSpelling? raw).bind NativeType.hostType?

/-- Return types that carry no value. -/
def carriesNothing (raw : String) : Bool :=
  raw == NativeType.void.spelling || raw == NativeType.voidPointer.spelling

/-- The return type by which a function reports success or failure. -/
def isErrorCode (raw : String) : Bool :=
  raw == NativeType.errorCode.spelling

end Bindings
