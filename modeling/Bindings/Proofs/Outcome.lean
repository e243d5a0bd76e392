import Bindings.Log

/-!
# Outcomes

What a computation that may fail comes to, and one that also reports.

* `bind_eq_ok_iff`, `bind_eq_error_iff`: a composition succeeds when both of its parts do, and fails as the first part
  that fails.
* `Traced.outcome_bind`: the outcome of a composition, whatever is reported.
* `Traced.bind_ok`, `Traced.bind_error`: what is reported is kept in order, up to the first failure.
-/

namespace Bindings

section Except

variable {ε α β : Type}

theorem bind_eq_ok_iff {x : Except ε α} {f : α → Except ε β} {b : β} :
    (x >>= f) = .ok b ↔ ∃ a, x = .ok a ∧ f a = .ok b := by
  cases x with
  | error e => simp [bind, Except.bind]
  | ok a => simp [bind, Except.bind]

theorem bind_eq_error_iff {x : Except ε α} {f : α → Except ε β} {e : ε} :
    (x >>= f) = .error e ↔ x = .error e ∨ ∃ a, x = .ok a ∧ f a = .error e := by
  cases x with
  | error e => simp [bind, Except.bind]
  | ok a => simp [bind, Except.bind]

theorem mapError_eq_ok_iff {ε' : Type} {x : Except ε α} {g : ε → ε'} {a : α} :
    x.mapError g = .ok a ↔ x = .ok a := by
  cases x with
  | error e => exact ⟨nofun, nofun⟩
  | ok b =>
    show Except.ok b = .ok a ↔ _
    simp

theorem mapError_eq_error_iff {ε' : Type} {x : Except ε α} {g : ε → ε'} {e' : ε'} :
    x.mapError g = .error e' ↔ ∃ e, x = .error e ∧ g e = e' := by
  cases x with
  | error e =>
    show Except.error (g e) = .error e' ↔ _
    simp
  | ok b => exact ⟨nofun, nofun⟩

theorem exists_ok_of_isOk {x : Except ε α} (h : x.isOk = true) : ∃ a, x = .ok a := by
  cases x with
  | error e => cases h
  | ok a => exact ⟨a, rfl⟩

theorem exists_ok_of_any {x : Except ε α} {p : α → Bool} (h : x.toOption.any p = true) :
    ∃ a, x = .ok a ∧ p a = true := by
  cases x with
  | error e => cases h
  | ok a => exact ⟨a, rfl, h⟩

end Except

namespace Traced

variable {α β : Type}

@[simp] theorem outcome_pure (a : α) : (pure a : Traced α).outcome = .ok a := rfl

@[simp] theorem outcome_ofExcept (x : Except Failure α) : (ofExcept x).outcome = x := rfl

@[simp] theorem outcome_report (e : Event) : (report e).outcome = .ok () := rfl

@[simp] theorem outcome_mapFailure (place : Failure → Failure) (t : Traced α) :
    (t.mapFailure place).outcome = t.outcome.mapError place := rfl

@[simp] theorem outcome_bind (t : Traced α) (next : α → Traced β) :
    (t >>= next).outcome = t.outcome >>= fun a => (next a).outcome := by
  show (t.bind next).outcome = _
  cases h : t.outcome <;> simp [Traced.bind, h, bind, Except.bind]

theorem bind_ok (es : List Event) (a : α) (next : α → Traced β) :
    ((⟨es, .ok a⟩ : Traced α) >>= next) = ⟨es ++ (next a).events, (next a).outcome⟩ := rfl

theorem bind_error (es : List Event) (f : Failure) (next : α → Traced β) :
    ((⟨es, .error f⟩ : Traced α) >>= next) = ⟨es, .error f⟩ := rfl

end Traced

end Bindings
