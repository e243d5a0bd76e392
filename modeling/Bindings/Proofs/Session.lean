import Bindings.Proofs.Outcome
import Bindings.Run

/-!
# Computations in a session

* `perform_bind`: a composition goes on in the session that its first part leaves, unless that fails.
* `perform_trace`: a computation that reports adds to the log, and changes nothing else.
-/

namespace Bindings

namespace Session

variable {α β : Type} {s : Session}

/-- What a computation comes to in a session, and the session after it. -/
def perform (s : Session) (x : ExceptT Failure (StateM Session) α) : Except Failure α × Session :=
  x.run.run s

theorem perform_bind (x : ExceptT Failure (StateM Session) α) (f : α → ExceptT Failure (StateM Session) β) :
    s.perform (x >>= f) = match s.perform x with
      | (.ok a, s₁) => s₁.perform (f a)
      | (.error e, s₁) => (.error e, s₁) := by
  have h : s.perform (x >>= f) = (ExceptT.bindCont f (s.perform x).1).run (s.perform x).2 := rfl
  rw [h]
  rcases s.perform x with ⟨_ | _, s₁⟩ <;> rfl

theorem perform_lift (x : StateM Session α) :
    s.perform (liftM x) = (.ok (x.run s).1, (x.run s).2) := rfl

theorem perform_adapt (place : Failure → Failure) (x : ExceptT Failure (StateM Session) α) :
    s.perform (ExceptT.adapt place x) = ((s.perform x).1.mapError place, (s.perform x).2) := rfl

theorem perform_list? (path : String) :
    s.perform (liftM (workspace.list? path)) = (.ok (s.files.list? path), s) := rfl

theorem perform_read? (path : String) :
    s.perform (liftM (workspace.read? path)) = (.ok (s.files.read? path), s) := rfl

theorem perform_makeDirectories (path : String) :
    s.perform (liftM (workspace.makeDirectories path)) =
      (.ok (s.files.makeDirectories path).1, { s with files := (s.files.makeDirectories path).2 }) := rfl

theorem perform_write (path text : String) :
    s.perform (liftM (workspace.write path text)) = match s.files.write? path text.toUTF8 with
      | none => (.ok false, s)
      | some files => (.ok true, { s with files }) := by
  rw [perform_lift]
  simp only [workspace, StateT.run]
  cases s.files.write? path text.toUTF8 with
  | none => rfl
  | some files => rfl

/-- The session after some more has been reported. -/
def record (s : Session) (es : List Event) : Session :=
  { s with events := s.events ++ es }

@[simp] theorem files_record (s : Session) (es : List Event) : (s.record es).files = s.files := rfl

@[simp] theorem events_record (s : Session) (es : List Event) : (s.record es).events = s.events ++ es := rfl

@[simp] theorem record_nil (s : Session) : s.record [] = s := by
  rw [record, List.append_nil]

@[simp] theorem record_record (s : Session) (es es' : List Event) : (s.record es).record es' = s.record (es ++ es') := by
  rw [record, record, record, List.append_assoc]

theorem perform_reportAll (es : List Event) : s.perform (liftM (workspace.reportAll es)) = (.ok (), s.record es) := by
  induction es generalizing s with
  | nil =>
    rw [record_nil]
    rfl
  | cons e es ih =>
    show (s.record [e]).perform (liftM (workspace.reportAll es)) = _
    rw [ih, record_record, List.singleton_append]

theorem perform_trace (x : Traced α) : s.perform (workspace.trace x) = (x.outcome, s.record x.events) := by
  rw [Workspace.trace, perform_bind, perform_reportAll]
  rfl

theorem exists_perform_of_any {x : ExceptT Failure (StateM Session) α} {p : α → Bool}
    (h : (s.perform x).1.toOption.any p = true) : ∃ a s', s.perform x = (.ok a, s') ∧ p a = true := by
  obtain ⟨a, ha, hp⟩ := exists_ok_of_any h
  exact ⟨a, (s.perform x).2, Prod.ext ha rfl, hp⟩

theorem exists_perform_error_of_any {x : ExceptT Failure (StateM Session) α} {p : Failure → Bool}
    (h : (match (s.perform x).1 with | .error e => p e | .ok _ => false) = true) :
    ∃ e s', s.perform x = (.error e, s') ∧ p e = true := by
  rcases hx : s.perform x with ⟨e | a, s'⟩
  · rw [hx] at h
    exact ⟨e, s', rfl, h⟩
  · rw [hx] at h
    cases h

end Session

end Bindings
