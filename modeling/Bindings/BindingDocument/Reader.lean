import Bindings.BindingDocument.Basic
import Bindings.Header.Reader

/-!
# Reading binding documents

The records of a binding document from the text of its file. Each record is an object or the complete list of its
fields in order; in an object, what is optional may be missing, and members with unknown names are passed over.
-/

namespace Bindings

open Json Record

/-- The containers that may stand inside a getter or a setter: three of at most 127 enclose it. -/
def hookDepth : Nat := 124

def Json.Document.bool? : Document → Option Bool
  | .bool b => some b
  | _ => none

/-- The members of a record none of whose fields a list may leave out. -/
def Json.Document.complete? (fields : List String) : Document → Option (List (String × Document))
  | .list items => if items.length = fields.length then some (fields.zip items) else none
  | d => d.record? fields

/-- Read a field that may be `null` or missing to say that it is absent. -/
def Record.nullable {α : Type} (name : String) (read : Document → Option α) (members : List (String × Document)) :
    Option (Option α) :=
  optional [name] none (Document.nullable? read) members

def HostEnumValue.ofDocument? (d : Document) : Option HostEnumValue := do
  let members ← d.complete? ["name", "x_name", "value"]
  let name ← required ["name"] Document.text? members
  let hostName ← required ["x_name"] Document.text? members
  let value ← nullable "value" (Document.toData? valueDepth) members
  return ⟨name, hostName, value⟩

def HostEnum.ofDocument? (d : Document) : Option HostEnum := do
  let members ← d.complete? ["name", "values"]
  let name ← required ["name"] Document.text? members
  let values ← required ["values"] (Document.list? HostEnumValue.ofDocument?) members
  return ⟨name, values⟩

def Direction.ofText? (s : String) : Option Direction :=
  [input, pointer, array, vector].find? (·.text == s)

/-- A direction is a text, or an object that has it as the name of its one member, which is `null`. -/
def Direction.ofDocument? : Document → Option Direction
  | .text s => s.bind ofText?
  | .object [(name, .null)] => name.bind ofText?
  | _ => none

def BoundParameter.ofDocument? (d : Document) : Option BoundParameter := do
  let members ← d.complete? ["name", "raw_type", "kind", "pointer", "array", "array_size", "default", "x_type",
    "x_callname", "x_pyann_type", "x_pyann", "x_pyarg", "x_decl"]
  let name ← required ["name"] Document.text? members
  let rawType ← required ["raw_type"] Document.text? members
  let direction ← required ["kind"] Direction.ofDocument? members
  let pointer ← required ["pointer"] Document.bool? members
  let array ← required ["array"] Document.bool? members
  let arraySize ← nullable "array_size" ArraySize.ofDocument? members
  let default ← nullable "default" Document.text? members
  let type ← required ["x_type"] Document.text? members
  let callName ← required ["x_callname"] Document.text? members
  let hostType ← required ["x_pyann_type"] Document.text? members
  let signature ← required ["x_pyann"] Document.text? members
  let argument ← required ["x_pyarg"] Document.text? members
  let declaration ← required ["x_decl"] Document.text? members
  return ⟨name, rawType, direction, pointer, array, arraySize, default, type, callName, hostType, signature, argument,
    declaration⟩

def ReturnValue.ofDocument? (d : Document) : Option ReturnValue := do
  let members ← d.complete? ["name", "raw_type", "x_type", "x_pyann_type"]
  let name ← required ["name"] Document.text? members
  let rawType ← required ["raw_type"] Document.text? members
  let type ← required ["x_type"] Document.text? members
  let hostType ← required ["x_pyann_type"] Document.text? members
  return ⟨name, rawType, type, hostType⟩

def BoundFunction.ofDocument? (d : Document) : Option BoundFunction := do
  let members ← d.complete? ["name", "x_name", "rtn_type", "instance_param", "params", "x_in_params", "x_out_params",
    "x_rets", "x_param_checks", "x_return_checks", "x_callstart", "x_wrap_return", "x_wrap_return_type",
    "x_pyann_ret", "x_temprefs", "args_comma", "internal", "rename", "has_code", "code", "get", "set"]
  let name ← required ["name"] Document.text? members
  let exposedName ← required ["x_name"] Document.text? members
  let returnType ← required ["rtn_type"] Document.text? members
  let instanceParameter ← nullable "instance_param" NativeParameter.ofDocument? members
  let parameters ← required ["params"] (Document.list? BoundParameter.ofDocument?) members
  let inputs ← required ["x_in_params"] (Document.list? BoundParameter.ofDocument?) members
  let outputs ← required ["x_out_params"] (Document.list? BoundParameter.ofDocument?) members
  let returns ← required ["x_rets"] (Document.list? ReturnValue.ofDocument?) members
  let inputChecks ← required ["x_param_checks"] (Document.list? Document.text?) members
  let returnChecks ← required ["x_return_checks"] (Document.list? Document.text?) members
  let callStart ← required ["x_callstart"] Document.text? members
  let returnStatement ← required ["x_wrap_return"] Document.text? members
  let wrapperType ← required ["x_wrap_return_type"] Document.text? members
  let returnHostType ← required ["x_pyann_ret"] Document.text? members
  let temporaries ← required ["x_temprefs"] Document.text? members
  let comma ← required ["args_comma"] Document.text? members
  let internal ← required ["internal"] Document.bool? members
  let rename ← nullable "rename" Document.text? members
  let hasCode ← required ["has_code"] Document.bool? members
  let code ← nullable "code" Document.text? members
  let getter ← nullable "get" (Document.toData? hookDepth) members
  let setter ← nullable "set" (Document.toData? hookDepth) members
  return ⟨name, exposedName, returnType, instanceParameter, parameters, inputs, outputs, returns, inputChecks,
    returnChecks, callStart, returnStatement, wrapperType, returnHostType, temporaries, comma, internal, rename,
    hasCode, code, getter, setter⟩

def BindingDocument.ofDocument? (d : Document) : Option BindingDocument := do
  let members ← d.complete? ["header", "module_name", "enums", "functions"]
  let header ← required ["header"] Document.text? members
  let moduleName ← nullable "module_name" Document.text? members
  let enums ← required ["enums"] (Document.list? HostEnum.ofDocument?) members
  let functions ← required ["functions"] (Document.list? BoundFunction.ofDocument?) members
  return ⟨header, moduleName, enums, functions⟩

/-- The binding document that a text describes. -/
def BindingDocument.ofText? (text : String) : Option BindingDocument :=
  (Document.ofText? text).bind BindingDocument.ofDocument?

end Bindings
