import Bindings.Native.Type

/-!
# Value checks

What the simulation asserts about a value of a native type. A type outside the table, and some types in it, have no
check.
-/

namespace Bindings

/-- The shape of a check. A range is given by its width in bits. -/
inductive CheckKind where
  | bool
  | float
  | int
  | signedRange (bits : Nat)
  | unsignedRange (bits : Nat)
  | errorCode
  | unchecked
deriving DecidableEq, Repr

def NativeType.checkKind : NativeType → CheckKind
  | .bool => .bool
  | .float | .double => .float
  | .int | .long | .sizeT => .int
  | .short | .int16 => .signedRange 16
  | .int32 => .signedRange 32
  | .int64 => .signedRange 64
  | .uint8 => .unsignedRange 8
  | .uint16 => .unsignedRange 16
  | .uint32 => .unsignedRange 32
  | .uint64 => .unsignedRange 64
  | .errorCode => .errorCode
  | .char | .controlMode | .void | .voidPointer => .unchecked

/-- The condition on the value called `name`; a strict check refuses integers where a float is expected. -/
def CheckKind.condition? (strict : Bool) (name : String) : CheckKind → Option String
  | .bool => some ("isinstance(" ++ name ++ ", bool)")
  | .float => some ("isinstance(" ++ name ++ if strict then ", (float))" else ", (int, float))")
  | .int => some ("isinstance(" ++ name ++ ", int)")
  | .signedRange bits =>
    let bound := "1<<" ++ toString (bits - 1)
    some ("isinstance(" ++ name ++ ", int) and -" ++ bound ++ " <= " ++ name ++ " < " ++ bound)
  | .unsignedRange bits =>
    some ("isinstance(" ++ name ++ ", int) and 0 <= " ++ name ++ " < 1<<" ++ toString bits)
  | .errorCode => some ("isinstance(" ++ name ++ ", ErrorCode)")
  | .unchecked => none

/-- The kind of check that a spelled type has. -/
def CheckKind.ofSpelling (raw : String) : CheckKind :=
  ((NativeType.ofSpelling? raw).map NativeType.checkKind).getD .unchecked

/-- The condition on a value of a spelled type; without a type the value has to be null. -/
def condition? (strict : Bool) (name : String) : Option String → Option String
  | none => some (name ++ " is None")
  | some raw => (CheckKind.ofSpelling raw).condition? strict name

end Bindings
