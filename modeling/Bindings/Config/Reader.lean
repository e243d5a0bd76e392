import Bindings.Config.Basic
import Bindings.Failure
import Bindings.Record
import Bindings.Toml.Document

/-!
# Reading configuration

The records of a configuration from a tree of tables. Unknown names are passed over at the top and in a function's
table, and make an override unreadable. A function's table and an override may also be the list of their fields, in
order.
-/

namespace Bindings

open Record

namespace Data

def text? : Data → Option String
  | .text s => some s
  | _ => none

def bool? : Data → Option Bool
  | .bool b => some b
  | _ => none

/-- A flag is a truth value or a signed 64-bit integer, of which zero alone is false. -/
def flag? : Data → Option Bool
  | .bool b => some b
  | .int i => if FitsSigned i then some (i != 0) else none
  | _ => none

/-- A value that may be `null` to say that it is absent. -/
def nullable? {α : Type} (read : Data → Option α) : Data → Option (Option α)
  | .null => some none
  | d => (read d).map some

/-- The members of a record: those of a table, or the items of a list for its fields, in order. -/
def record? (fields : List String) : Data → Option (List (String × Data))
  | .table members => some members
  | .list items => some (fields.zip items)
  | _ => none

/-- A table of any names, each value read by `read`. -/
def table? {α : Type} (read : Data → Option α) : Data → Option (Table α)
  | .table members => (members.mapM fun m => (read m.2).map (m.1, ·)).map Table.ofList
  | _ => none

mutual

/-- The value with `null` for every number that is not finite. -/
def finite : Data → Data
  | .float x => if x.isFinite then .float x else .null
  | .list items => .list (finiteItems items)
  | .table members => .table (finiteMembers members)
  | d => d

def finiteItems : List Data → List Data
  | [] => []
  | d :: ds => finite d :: finiteItems ds

def finiteMembers : List (String × Data) → List (String × Data)
  | [] => []
  | (name, d) :: ms => (name, finite d) :: finiteMembers ms

end

end Data

/-- A length is an unsigned 64-bit integer or a name. -/
def ArraySize.ofData? : Data → Option ArraySize
  | .int (.ofNat n) => if n < unsignedLimit then some (.count (UInt64.ofNat n)) else none
  | .text s => some (.symbol s)
  | _ => none

/-- An integer outside the signed 64-bit range is a floating-point literal. -/
def DefaultValue.ofData? : Data → Option DefaultValue
  | .bool b => some (.bool b)
  | .int i => some (if FitsSigned i then .int (Int64.ofInt i) else .float (.ofInt i))
  | .float x => some (.float x)
  | .text s => some (.text s)
  | _ => none

def ParameterOverride.fields : List String :=
  ["pointer", "array", "array_size", "x_type", "annotation"]

def ParameterOverride.ofData? (d : Data) : Option ParameterOverride := do
  let members ← d.record? fields
  guard (members.all (fields.contains ·.1))
  let pointer ← optional ["pointer"] none (Data.nullable? Data.flag?) members
  let array ← optional ["array"] none (Data.nullable? Data.flag?) members
  let arraySize ← optional ["array_size"] none (Data.nullable? ArraySize.ofData?) members
  let type ← optional ["x_type"] none (Data.nullable? Data.text?) members
  let hostType ← optional ["annotation"] none (Data.nullable? Data.text?) members
  return ⟨pointer, array, arraySize, type, hostType⟩

def FunctionConfig.fields : List String :=
  ["defaults", "param_override", "internal", "rename", "code", "get", "set"]

def FunctionConfig.ofData? (d : Data) : Option FunctionConfig := do
  let members ← d.record? fields
  let defaults ← optional ["defaults"] .empty (Data.table? DefaultValue.ofData?) members
  let overrides ← optional ["param_override"] .empty (Data.table? ParameterOverride.ofData?) members
  let internal ← optional ["internal"] false Data.bool? members
  let rename ← optional ["rename"] none (Data.nullable? Data.text?) members
  let code ← optional ["code"] none (Data.nullable? Data.text?) members
  let getter ← optional ["get"] none (Data.nullable? (some ·.finite)) members
  let setter ← optional ["set"] none (Data.nullable? (some ·.finite)) members
  return ⟨defaults, overrides, internal, rename, code, getter, setter⟩

def HeaderConfig.ofData? (d : Data) : Option HeaderConfig := do
  let members ← d.record? ["module_name", "functions"]
  let moduleName ← optional ["module_name"] none (Data.nullable? Data.text?) members
  let functions ← optional ["functions", "data"] .empty (Data.table? FunctionConfig.ofData?) members
  return ⟨moduleName, functions⟩

/-- The configuration that a text describes; `origin` says where the text is from. -/
def HeaderConfig.parse (text origin : String) : Except Failure HeaderConfig :=
  match (Toml.ofText? text).bind HeaderConfig.ofData? with
  | some c => .ok c
  | none => .error (.ofCause (.malformedConfig origin))

end Bindings
