import Bindings.Failure
import Bindings.Header.Basic
import Bindings.Json.Document
import Bindings.Record

/-!
# Reading header metadata

Each record is an object or the list of its fields in order. Fields with a default may be missing, members with
unknown names are passed over, and a return type has two spellings.
-/

namespace Bindings

open Json Record

/-- The containers that may stand inside the value of an enum: a header nests at most 127, of which five enclose it. -/
def valueDepth : Nat := 122

/-- A flag is a truth value or a signed 64-bit integer, of which zero alone is false. -/
def Json.Document.flag? : Document → Option Bool
  | .bool b => some b
  | .numeral n =>
    match n.toData? with
    | some (.int i) => if i < signedLimit then some (i != 0) else none
    | _ => none
  | _ => none

/-- A length is an unsigned 64-bit integer or a name. -/
def ArraySize.ofDocument? : Document → Option ArraySize
  | .numeral n =>
    match n.toData? with
    | some (.int (.ofNat k)) => some (.count (UInt64.ofNat k))
    | _ => none
  | .text s => s.map .symbol
  | _ => none

/-- A value that may be `null` to say that it is absent. -/
def Json.Document.nullable? {α : Type} (read : Document → Option α) : Document → Option (Option α)
  | .null => some none
  | d => (read d).map some

def NativeEnumValue.ofDocument? (d : Document) : Option NativeEnumValue := do
  let members ← d.record? ["name", "value"]
  let name ← required ["name"] Document.text? members
  let value ← optional ["value"] none (Document.nullable? (Document.toData? valueDepth)) members
  return ⟨name, value⟩

def NativeEnum.ofDocument? (d : Document) : Option NativeEnum := do
  let members ← d.record? ["name", "values"]
  let name ← required ["name"] Document.text? members
  let values ← optional ["values"] [] (Document.list? NativeEnumValue.ofDocument?) members
  return ⟨name, values⟩

def NativeParameter.ofDocument? (d : Document) : Option NativeParameter := do
  let members ← d.record? ["name", "raw_type", "pointer", "array", "array_size"]
  let name ← optional ["name"] "" Document.text? members
  let rawType ← required ["raw_type"] Document.text? members
  let pointer ← optional ["pointer"] false Document.flag? members
  let array ← optional ["array"] false Document.flag? members
  let arraySize ← optional ["array_size"] none (Document.nullable? ArraySize.ofDocument?) members
  return ⟨name, rawType, pointer, array, arraySize⟩

def NativeFunction.ofDocument? (d : Document) : Option NativeFunction := do
  let members ← d.record? ["name", "rtnType", "parameters"]
  let name ← required ["name"] Document.text? members
  let returnType ← required ["rtnType", "rtn_type"] Document.text? members
  let parameters ← optional ["parameters"] [] (Document.list? NativeParameter.ofDocument?) members
  return ⟨name, returnType, parameters⟩

def Header.ofDocument? (d : Document) : Option Header := do
  let members ← d.record? ["name", "enums", "functions"]
  let name ← optional ["name"] "" Document.text? members
  let enums ← optional ["enums"] [] (Document.list? NativeEnum.ofDocument?) members
  let functions ← optional ["functions"] [] (Document.list? NativeFunction.ofDocument?) members
  return ⟨name, enums, functions⟩

/-- The header that a text describes; `origin` says where the text is from. -/
def Header.parse (text origin : String) : Except Failure Header :=
  match (Document.ofText? text).bind Header.ofDocument? with
  | some h => .ok h
  | none => .error (.ofCause (.malformedHeader origin))

end Bindings
