import Bindings.Header.Basic
import Bindings.Text.Cut

/-!
# Host names of enum values

A value's native name usually starts with the name of its enum, up to the first underscore. The host name drops that
start and underscores at the end, and is mended where the host would not take it: `None` is reserved, and no identifier
starts with a digit.
-/

namespace Bindings

structure HostEnumValue where
  name : String
  hostName : String
  value : Option Data
deriving Inhabited

structure HostEnum where
  name : String
  values : List HostEnumValue
deriving Inhabited

namespace HostEnum

/-- What the values of an enum usually start with: `ControlMode_` for `ControlMode`, `Foo_` for `Foo_Bar`. -/
def lead (enumName : List Char) : List Char :=
  enumName.takeWhile (· != '_') ++ ['_']

/-- A native name without the lead and without underscores at its end, or with the lead if nothing else is left. -/
def core (lead native : List Char) : List Char :=
  match Text.dropEnd '_' ((Text.after? lead native).getD native) with
  | [] => Text.dropEnd '_' native
  | cs => cs

/-- The word that the host keeps to itself. -/
def reserved : List Char := ['N', 'o', 'n', 'e']

/-- A core as an identifier: the reserved word gets an underscore, a leading digit the first character of `native`. -/
def mend (native core : List Char) : List Char :=
  if core = reserved then reserved ++ ['_']
  else match core with
    | [] => []
    | c :: cs => if c.isDigit then native.headD '_' :: c :: cs else c :: cs

def hostName (enumName native : String) : String :=
  String.ofList (mend native.toList (core (lead enumName.toList) native.toList))

/-- An enum with the host names of its values. -/
def ofNative (e : NativeEnum) : HostEnum :=
  ⟨e.name, e.values.map fun v => ⟨v.name, hostName e.name v.name, v.value⟩⟩

end HostEnum

end Bindings
