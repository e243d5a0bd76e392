import Bindings.Failure
import Bindings.Text.Cut
import Bindings.Text.Lowercase

/-!
# Exposed names

A native function is named `c_<module>_<name>` and is exposed as `<name>` with its first character in lower case. A
name ends with its line.
-/

namespace Bindings

/-- The name under which `function` of `module` is exposed, if it is named as it should be. -/
def exposedName? (module function : List Char) : Option (List Char) :=
  match Text.after? (['c', '_'] ++ module ++ ['_']) function with
  | some (c :: rest) => if c = '\n' then none else some (Text.lower c ++ rest.takeWhile (· != '\n'))
  | _ => none

def exposedName (module function : String) : Except Failure String :=
  match exposedName? module.toList function.toList with
  | some name => .ok (String.ofList name)
  | none => .error ((Failure.ofCause (.misnamed function module)).inFunction function)

end Bindings
