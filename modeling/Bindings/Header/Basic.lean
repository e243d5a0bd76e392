import Bindings.Data
import Bindings.Text.Blank

/-!
# Header metadata

What the header parser reports of one header: its enums and its functions.
-/

namespace Bindings

/-- The length of an array: a count, or the name of a constant. -/
inductive ArraySize where
  | count (n : UInt64)
  | symbol (name : String)
deriving DecidableEq

namespace ArraySize

/-- A count of zero and a blank name stand for an array without a given length. -/
def isFixed : ArraySize → Bool
  | .count n => n != 0
  | .symbol name => !Text.allBlank name

def text : ArraySize → String
  | .count n => toString n.toNat
  | .symbol name => name

end ArraySize

/-- A value of an enum, with whatever the parser knows of its number. -/
structure NativeEnumValue where
  name : String
  value : Option Data
deriving Inhabited

structure NativeEnum where
  name : String
  values : List NativeEnumValue
deriving Inhabited

structure NativeParameter where
  name : String
  rawType : String
  pointer : Bool
  array : Bool
  arraySize : Option ArraySize
deriving DecidableEq, Inhabited

structure NativeFunction where
  name : String
  returnType : String
  parameters : List NativeParameter
deriving DecidableEq, Inhabited

/-- The metadata of one header. -/
structure Header where
  name : String
  enums : List NativeEnum
  functions : List NativeFunction
deriving Inhabited

end Bindings
