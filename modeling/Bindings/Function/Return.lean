import Bindings.Function.Parameter
import Bindings.Native.Check

/-!
# What a wrapper returns

The values a wrapper returns are the native return value, unless it carries none, and the outputs in the order of their
parameters. One value is returned as it is, several as a tuple; a lone error code is dropped, for callers ask for the
last error.
-/

namespace Bindings

structure ReturnValue where
  name : String
  rawType : String
  type : String
  hostType : String
deriving DecidableEq

namespace ReturnValue

def ofParameter (p : BoundParameter) : ReturnValue :=
  ⟨p.name, p.rawType, p.type, p.hostType⟩

/-- The native return value. -/
def ofNative (returnType hostType : String) : ReturnValue :=
  ⟨"__ret", returnType, returnType, hostType⟩

end ReturnValue

/-- How the wrapper returns its values. -/
structure ReturnShape where
  values : List ReturnValue
  checks : List String
  callStart : String
  statement : String
  type : String
  hostType : String
deriving DecidableEq

namespace ReturnShape

/-- Whether the native return value is among the returned ones. -/
def keepsNative (returnType : String) (outputs : List BoundParameter) : Bool :=
  !(outputs.isEmpty && isErrorCode returnType) && !carriesNothing returnType

/-- The assertions on a value, if its type has a check. -/
def assertion (target type : String) : List String :=
  ((condition? true target (some type)).map ("assert " ++ ·)).toList

/-- The assertions on a tuple of values: its length, and what each raw type has to be. -/
def tupleChecks (values : List ReturnValue) : List String :=
  ("assert isinstance(retval, tuple) and len(retval) == " ++ toString values.length)
    :: values.zipIdx.flatMap fun (v, i) => assertion ("retval[" ++ toString i ++ "]") v.rawType

def ofValues (callStart : String) (values : List ReturnValue) : ReturnShape :=
  match values with
  | [] => ⟨values, [], callStart, "", "void", "None"⟩
  | [v] =>
    if v.type = "void" then ⟨values, [], callStart, "", "void", "None"⟩
    else ⟨values, assertion "retval" v.type, callStart, "return " ++ v.name ++ ";", v.type, v.hostType⟩
  | values => {
      values
      checks := tupleChecks values
      callStart
      statement := "return std::make_tuple(" ++ ",".intercalate (values.map (·.name)) ++ ");"
      type := "std::tuple<" ++ ", ".intercalate (values.map (·.type)) ++ ">"
      hostType := "typing.Tuple[" ++ ", ".intercalate (values.map (·.hostType)) ++ "]"
    }

/-- The shape for a native return type and the given outputs. -/
def ofOutputs (returnType : String) (outputs : List BoundParameter) : Except Failure ReturnShape :=
  let values := outputs.map ReturnValue.ofParameter
  if keepsNative returnType outputs then do
    let hostType ← hostTypeOf returnType
    return ofValues "auto __ret =" (.ofNative returnType hostType :: values)
  else .ok (ofValues "" values)

end ReturnShape

end Bindings
