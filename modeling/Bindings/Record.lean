/-!
# Records by field name

A record is read from a list of members. Each field is found by any of its spellings, wherever it stands; members with
other names play no part, and a field that occurs twice makes the record unreadable.

* `member?_perm`: the order of the members does not matter.
-/

namespace Bindings.Record
variable {σ α : Type}

/-- The value of the one member with any of the given names: `some none` if there is none, `none` if there are two. -/
def member? (names : List String) (members : List (String × σ)) : Option (Option σ) :=
  match members.filter (names.contains ·.1) with
  | [] => some none
  | [m] => some (some m.2)
  | _ => none

/-- Read a field that must be there. -/
def required (names : List String) (read : σ → Option α) (members : List (String × σ)) : Option α :=
  match member? names members with
  | some (some s) => read s
  | _ => none

/-- Read a field that has a default. -/
def optional (names : List String) (default : α) (read : σ → Option α) (members : List (String × σ)) : Option α :=
  match member? names members with
  | some (some s) => read s
  | some none => some default
  | none => none

theorem member?_perm (names : List String) {ms ns : List (String × σ)} (h : ms.Perm ns) :
    member? names ms = member? names ns := by
  have hf := h.filter (names.contains ·.1)
  rw [member?, member?]
  generalize ms.filter (names.contains ·.1) = as at hf
  generalize ns.filter (names.contains ·.1) = bs at hf
  match as, bs, hf with
  | [], bs, hf => rw [List.nil_perm.1 hf]
  | [a], bs, hf => rw [List.singleton_perm.1 hf]
  | _ :: _ :: _, [], hf => exact absurd hf.length_eq (by simp)
  | _ :: _ :: _, [_], hf => exact absurd hf.length_eq (by simp)
  | _ :: _ :: _, _ :: _ :: _, _ => rfl

end Bindings.Record
