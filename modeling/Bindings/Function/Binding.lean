import Bindings.Function.Name
import Bindings.Function.Return
import Bindings.Text.Cut

/-!
# Binding functions

`NativeFunction.bindAs` turns a native function into what a template needs to write its wrapper. The first native
parameter is the handle of the instance and is not exposed, except for functions that create one.
-/

namespace Bindings

structure BoundFunction where
  name : String
  exposedName : String
  returnType : String
  instanceParameter : Option NativeParameter
  parameters : List BoundParameter
  inputs : List BoundParameter
  outputs : List BoundParameter
  returns : List ReturnValue
  inputChecks : List String
  returnChecks : List String
  callStart : String
  returnStatement : String
  wrapperType : String
  returnHostType : String
  /-- Declarations of the variables that take the outputs. -/
  temporaries : String
  /-- What separates the handle from the inputs. -/
  comma : String
  internal : Bool
  rename : Option String
  hasCode : Bool
  code : Option String
  getter : Option Data
  setter : Option Data

namespace NativeFunction

/-- Whether a function of the given exposed name makes an instance and so takes no handle. -/
def creates (exposed : String) : Bool :=
  "create".toList.isPrefixOf exposed.toList

/-- The handle of a function, if it takes one. -/
def handle? (f : NativeFunction) (exposed : String) : Option NativeParameter :=
  if creates exposed then none else f.parameters.head?

/-- The parameters after the handle. -/
def exposedParameters (f : NativeFunction) (exposed : String) : List NativeParameter :=
  if creates exposed then f.parameters else f.parameters.tail

/-- The assertions on the inputs, each by its type in the wrapper, and the result that a simulation starts from. -/
def inputChecks (returnType : String) (inputs : List BoundParameter) : List String :=
  (inputs.flatMap fun p => ((condition? false p.name (some p.type)).map ("assert " ++ ·)).toList)
    ++ if isErrorCode returnType then ["retval = ErrorCode.OK"] else []

def temporaries (outputs : List BoundParameter) : String :=
  if outputs.isEmpty then ""
  else ";".intercalate (outputs.map fun p => p.type ++ " " ++ p.name) ++ ";"

/-- Code that is put into a wrapper must not return. -/
def returnsEarly (code : String) : Bool :=
  Text.occursIn "return".toList code.toList

/-- An internal function gets an underscore; a new name replaces all of the old one. -/
def finalName (exposed : String) (c : FunctionConfig) : String :=
  match c.rename with
  | some name => if name = "" then if c.internal then "_" ++ exposed else exposed else name
  | none => if c.internal then "_" ++ exposed else exposed

/-- Bind a function that is exposed under the given name. -/
def bindAs (f : NativeFunction) (exposed : String) (c : FunctionConfig) : Except Failure BoundFunction := do
  let (parameters, pending) ← bindAll 0 ⟨c.defaults, c.overrides⟩ (f.exposedParameters exposed)
  pending.drained f.name
  let inputs := parameters.filter (!·.direction.isOutput)
  let outputs := parameters.filter (·.direction.isOutput)
  let shape ← ReturnShape.ofOutputs f.returnType outputs
  if c.code.any returnsEarly then throw (.ofCause (.earlyReturn f.name))
  return {
    name := f.name
    exposedName := finalName exposed c
    returnType := f.returnType
    instanceParameter := f.handle? exposed
    parameters, inputs, outputs
    returns := shape.values
    inputChecks := inputChecks f.returnType inputs
    returnChecks := shape.checks
    callStart := shape.callStart
    returnStatement := shape.statement
    wrapperType := shape.type
    returnHostType := shape.hostType
    temporaries := temporaries outputs
    comma := if inputs.isEmpty then "" else ", "
    internal := c.internal
    rename := c.rename
    hasCode := c.hasCode
    code := c.code
    getter := c.getter
    setter := c.setter
  }

end NativeFunction

end Bindings
