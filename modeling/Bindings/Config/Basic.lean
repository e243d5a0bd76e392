import Bindings.Header.Basic
import Bindings.Number.Decimal

/-!
# Generator configuration

What a header's configuration says: the module it belongs to and, function by function, defaults, overrides and names.
-/

namespace Bindings

/-- A literal that becomes a default in generated signatures. -/
inductive DefaultValue where
  | bool (value : Bool)
  | int (value : Int64)
  | float (value : Binary64)
  | text (value : String)
deriving DecidableEq

/-- Shortest digits without an exponent. -/
def DefaultValue.floatLayout : Binary64.Layout := ⟨.up, none, 0⟩

/-- The text of a floating-point literal; a number without fractional part keeps one decimal. -/
def DefaultValue.floatText (x : Binary64) : String :=
  if x.isNaN then "NaN"
  else if !x.isFinite then if x.isNegative then "-inf" else "inf"
  else String.ofList (if x.isIntegral then x.integralText else floatLayout.writes x)

/-- The literal as it stands in a signature. -/
def DefaultValue.literal : DefaultValue → String
  | .bool true => "True"
  | .bool false => "False"
  | .int i => toString i.toInt
  | .float x => floatText x
  | .text s => s

/-- What replaces parts of a parser's report on a parameter. -/
structure ParameterOverride where
  pointer : Option Bool
  array : Option Bool
  arraySize : Option ArraySize
  type : Option String
  hostType : Option String
deriving DecidableEq, Inhabited

structure FunctionConfig where
  defaults : Table DefaultValue
  overrides : Table ParameterOverride
  internal : Bool
  rename : Option String
  code : Option String
  getter : Option Data
  setter : Option Data
deriving Inhabited

/-- The configuration of a function that none is given for. -/
def FunctionConfig.empty : FunctionConfig :=
  ⟨.empty, .empty, false, none, none, none, none⟩

/-- Whether some of the function's code is written by hand. -/
def FunctionConfig.hasCode (c : FunctionConfig) : Bool :=
  c.code.isSome || c.getter.isSome || c.setter.isSome

/-- Functions are generated only for a header that names its module. -/
structure HeaderConfig where
  moduleName : Option String
  functions : Table FunctionConfig
deriving Inhabited

/-- The configuration of a header without a configuration document. -/
def HeaderConfig.empty : HeaderConfig :=
  ⟨none, .empty⟩

end Bindings
