import Bindings.Function.Binding
import Bindings.HostEnum
import Bindings.Log

/-!
# Binding documents

The bindings of one header: its enums with host names and its bound functions. `Header.generate` makes them in the order
of declaration, stops at the first function that cannot be bound, and says in which header that was.
-/

namespace Bindings

structure BindingDocument where
  header : String
  moduleName : Option String
  enums : List HostEnum
  functions : List BoundFunction

/-- The configuration of a function; going without one is reported. -/
def HeaderConfig.functionConfig (c : HeaderConfig) (function : String) : Traced FunctionConfig :=
  match c.functions.get? function with
  | some config => pure config
  | none => do
    Traced.report (.unconfigured function)
    return .empty

/-- Bind a function; without a module there is nothing to bind it to. -/
def NativeFunction.transform (f : NativeFunction) (c : HeaderConfig) : Traced (Option BoundFunction) :=
  match c.moduleName with
  | none => pure none
  | some module => do
    let exposed ← Traced.ofExcept (exposedName module f.name)
    let config ← c.functionConfig f.name
    let bound ← Traced.ofExcept ((f.bindAs exposed config).mapError (·.inFunction f.name))
    Traced.report (.transformed f.name bound.exposedName bound.inputs.length bound.returns.length)
    return some bound

/-- Bind functions in their order. -/
def transformAll (c : HeaderConfig) : List NativeFunction → Traced (List BoundFunction)
  | [] => pure []
  | f :: fs => do
    let bound ← f.transform c
    let rest ← transformAll c fs
    return bound.toList ++ rest

/-- The bindings of a header. -/
def Header.generate (h : Header) (c : HeaderConfig) : Traced BindingDocument := do
  let functions ← (transformAll c h.functions).mapFailure (·.inHeader h.name)
  return ⟨h.name, c.moduleName, h.enums.map HostEnum.ofNative, functions⟩

end Bindings
