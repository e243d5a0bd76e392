import Bindings.Function.Parameter
import Bindings.Proofs.Outcome
import Bindings.Proofs.Table

/-!
# Binding the parameters of a function

`bindAll` binds parameters one by one and uses up what is configured for them.

* `bindAll_of_typed`: if every type has a host type, all parameters are bound, and what is left of the configuration is
  what no parameter is named by.
* `bindAll_of_untyped`: otherwise the first type without a host type is reported.
* `getElem?_bindAll`: the parameter at a position is bound with what those before it have left of the configuration.
* `map_bindAll`: what does not depend on the configuration is found along the list of parameters.
-/

namespace Bindings

/-! ## Host types -/

/-- The type may be exposed. -/
def HasHostType (raw : String) : Prop :=
  (HostType.ofSpelling? raw).isSome

instance (raw : String) : Decidable (HasHostType raw) :=
  inferInstanceAs (Decidable ((HostType.ofSpelling? raw).isSome = true))

theorem hostTypeOf_of_hasHostType {raw : String} (h : HasHostType raw) : ∃ host, hostTypeOf raw = .ok host := by
  obtain ⟨t, ht⟩ := Option.isSome_iff_exists.1 h
  exact ⟨t.text, by simp [hostTypeOf, ht]⟩

theorem hostTypeOf_of_not_hasHostType {raw : String} (h : ¬HasHostType raw) :
    hostTypeOf raw = .error (.ofCause (.unknownType raw)) := by
  have ht : HostType.ofSpelling? raw = none := by simpa [HasHostType] using h
  simp [hostTypeOf, ht]

theorem hostTypeOf_eq_ok {raw host : String} (h : hostTypeOf raw = .ok host) :
    ∃ t, HostType.ofSpelling? raw = some t ∧ host = t.text := by
  unfold hostTypeOf at h
  split at h
  · cases h
    exact ⟨_, by assumption, rfl⟩
  · cases h

/-! ## One parameter -/

namespace NativeParameter

theorem bind_of_hasHostType (position : Nat) (p : NativeParameter) (o : Option ParameterOverride)
    (d : Option DefaultValue) (h : HasHostType p.rawType) : ∃ b, p.bind position o d = .ok b := by
  obtain ⟨host, hh⟩ := hostTypeOf_of_hasHostType h
  exact ⟨_, bind_eq_ok_iff.2 ⟨host, hh, rfl⟩⟩

theorem bind_of_not_hasHostType (position : Nat) (p : NativeParameter) (o : Option ParameterOverride)
    (d : Option DefaultValue) (h : ¬HasHostType p.rawType) :
    p.bind position o d = .error (.ofCause (.unknownType p.rawType)) :=
  bind_eq_error_iff.2 (.inl (hostTypeOf_of_not_hasHostType h))

end NativeParameter

/-! ## What is left of the configuration -/

namespace Pending

/-- What is left when all of the names have been used. -/
def eraseAll (pending : Pending) (names : List String) : Pending :=
  names.foldl erase pending

theorem names_eraseAll (pending : Pending) (names : List String) :
    (pending.eraseAll names).defaults.names = pending.defaults.names.filter (· ∉ names) ∧
      (pending.eraseAll names).overrides.names = pending.overrides.names.filter (· ∉ names) := by
  induction names generalizing pending with
  | nil => exact ⟨(List.filter_eq_self.2 (by simp)).symm, (List.filter_eq_self.2 (by simp)).symm⟩
  | cons name names ih =>
    have hstep : pending.eraseAll (name :: names) = (pending.erase name).eraseAll names := rfl
    have hmem : (fun n => decide (n ∉ name :: names)) = fun n => (n != name) && decide (n ∉ names) := by
      funext n
      by_cases h : n = name <;> simp [h]
    rw [hstep, (ih _).1, (ih _).2, hmem]
    simp only [erase, Table.names_erase, List.filter_filter, Bool.and_comm, and_self]

theorem get?_eraseAll (pending : Pending) (names : List String) (n : String) :
    (pending.eraseAll names).defaults.get? n = (if n ∈ names then none else pending.defaults.get? n) ∧
      (pending.eraseAll names).overrides.get? n = (if n ∈ names then none else pending.overrides.get? n) := by
  induction names generalizing pending with
  | nil => simp [eraseAll]
  | cons name names ih =>
    have hstep : pending.eraseAll (name :: names) = (pending.erase name).eraseAll names := rfl
    rw [hstep, (ih _).1, (ih _).2]
    by_cases h : n = name <;> simp [erase, Table.get?_erase, h]

theorem drained_eq_ok (function : String) {pending : Pending} (hd : pending.defaults.names = [])
    (ho : pending.overrides.names = []) : pending.drained function = .ok () := by
  simp [drained, Table.isEmpty_eq, hd, ho]

theorem drained_eq_strayDefaults (function : String) {pending : Pending} (hd : pending.defaults.names ≠ []) :
    pending.drained function = .error (.ofCause (.strayDefaults function pending.defaults.names)) := by
  simp [drained, Table.isEmpty_eq, hd]

theorem drained_eq_strayOverrides (function : String) {pending : Pending} (hd : pending.defaults.names = [])
    (ho : pending.overrides.names ≠ []) :
    pending.drained function = .error (.ofCause (.strayOverrides function pending.overrides.names)) := by
  simp [drained, Table.isEmpty_eq, hd, ho]

end Pending

/-! ## All parameters -/

/-- The names that parameters go by, counted from the given position. -/
def namesFrom (position : Nat) (ps : List NativeParameter) : List String :=
  ps.mapIdx fun i p => p.nameAt (position + i)

theorem namesFrom_cons (position : Nat) (p : NativeParameter) (ps : List NativeParameter) :
    namesFrom position (p :: ps) = p.nameAt position :: namesFrom (position + 1) ps := by
  simp only [namesFrom, List.mapIdx_cons, Nat.add_zero, List.cons.injEq, true_and]
  congr 1
  funext i q
  rw [Nat.add_right_comm, Nat.add_assoc]

theorem bindAll_of_typed {ps : List NativeParameter} (h : ∀ p ∈ ps, HasHostType p.rawType) (position : Nat)
    (pending : Pending) : ∃ bs, bindAll position pending ps = .ok (bs, pending.eraseAll (namesFrom position ps)) := by
  induction ps generalizing position pending with
  | nil => exact ⟨[], rfl⟩
  | cons p ps ih =>
    obtain ⟨b, hb⟩ := p.bind_of_hasHostType position (pending.overrides.get? (p.nameAt position))
      (pending.defaults.get? (p.nameAt position)) (h p List.mem_cons_self)
    obtain ⟨bs, hbs⟩ := ih (fun q hq => h q (List.mem_cons_of_mem p hq)) (position + 1)
      (pending.erase (p.nameAt position))
    refine ⟨b :: bs, ?_⟩
    rw [bindAll, namesFrom_cons]
    exact bind_eq_ok_iff.2 ⟨b, hb, bind_eq_ok_iff.2 ⟨_, hbs, rfl⟩⟩

theorem bindAll_of_untyped {before after : List NativeParameter} {p : NativeParameter}
    (h : ∀ q ∈ before, HasHostType q.rawType) (hp : ¬HasHostType p.rawType) (position : Nat) (pending : Pending) :
    bindAll position pending (before ++ p :: after) = .error (.ofCause (.unknownType p.rawType)) := by
  induction before generalizing position pending with
  | nil => exact bind_eq_error_iff.2 (.inl (p.bind_of_not_hasHostType _ _ _ hp))
  | cons q before ih =>
    obtain ⟨b, hb⟩ := q.bind_of_hasHostType position (pending.overrides.get? (q.nameAt position))
      (pending.defaults.get? (q.nameAt position)) (h q List.mem_cons_self)
    have hrest := ih (fun r hr => h r (List.mem_cons_of_mem q hr)) (position + 1) (pending.erase (q.nameAt position))
    rw [List.cons_append, bindAll]
    exact bind_eq_error_iff.2 (.inr ⟨b, hb, bind_eq_error_iff.2 (.inl hrest)⟩)

theorem length_bindAll {position : Nat} {pending pending' : Pending} {ps : List NativeParameter}
    {bs : List BoundParameter} (h : bindAll position pending ps = .ok (bs, pending')) : bs.length = ps.length := by
  induction ps generalizing position pending bs with
  | nil =>
    cases h
    rfl
  | cons p ps ih =>
    rw [bindAll] at h
    obtain ⟨b, _, h⟩ := bind_eq_ok_iff.1 h
    obtain ⟨⟨bs', _⟩, hbs', h⟩ := bind_eq_ok_iff.1 h
    cases h
    simp [ih hbs']

/-- Each parameter is bound with what those before it have left of the configuration. -/
theorem getElem?_bindAll {position : Nat} {pending pending' : Pending} {ps : List NativeParameter}
    {bs : List BoundParameter} (h : bindAll position pending ps = .ok (bs, pending')) {i : Nat} {p : NativeParameter}
    (hp : ps[i]? = some p) :
    ∃ b, bs[i]? = some b ∧
      p.bind (position + i)
        ((pending.eraseAll ((namesFrom position ps).take i)).overrides.get? (p.nameAt (position + i)))
        ((pending.eraseAll ((namesFrom position ps).take i)).defaults.get? (p.nameAt (position + i))) = .ok b := by
  induction ps generalizing position pending bs i with
  | nil => cases hp
  | cons q ps ih =>
    rw [bindAll] at h
    obtain ⟨b, hb, h⟩ := bind_eq_ok_iff.1 h
    obtain ⟨⟨bs', _⟩, hbs', h⟩ := bind_eq_ok_iff.1 h
    cases h
    cases i with
    | zero =>
      cases hp
      exact ⟨b, rfl, hb⟩
    | succ i =>
      obtain ⟨b', hb', hbind⟩ := ih hbs' hp
      refine ⟨b', hb', ?_⟩
      rw [namesFrom_cons, List.take_succ_cons, ← Nat.add_assoc, Nat.add_right_comm]
      exact hbind

/-- What binding a parameter gives at its position, whatever is configured for it, it gives along the list. -/
theorem map_bindAll {α : Type} {part : BoundParameter → α} {ofNative : Nat → NativeParameter → α}
    (hpart : ∀ {i p o d b}, NativeParameter.bind i p o d = .ok b → part b = ofNative i p) {pending pending' : Pending}
    {ps : List NativeParameter} {bs : List BoundParameter} (h : bindAll 0 pending ps = .ok (bs, pending')) :
    bs.map part = ps.mapIdx ofNative := by
  refine List.ext_getElem? fun i => ?_
  rw [List.getElem?_map, List.getElem?_mapIdx]
  cases hp : ps[i]? with
  | none =>
    have hnone : bs[i]? = none := by
      rw [List.getElem?_eq_none_iff, length_bindAll h]
      exact List.getElem?_eq_none_iff.1 hp
    rw [hnone]
    rfl
  | some p =>
    obtain ⟨b, hb, hbind⟩ := getElem?_bindAll h hp
    rw [Nat.zero_add] at hbind
    rw [hb, Option.map_some, Option.map_some, hpart hbind]

theorem mem_bindAll {position : Nat} {pending pending' : Pending} {ps : List NativeParameter}
    {bs : List BoundParameter} (h : bindAll position pending ps = .ok (bs, pending')) {b : BoundParameter}
    (hb : b ∈ bs) : ∃ p ∈ ps, ∃ i o d, p.bind i o d = .ok b := by
  obtain ⟨i, hi, rfl⟩ := List.mem_iff_getElem.1 hb
  have hlt : i < ps.length := length_bindAll h ▸ hi
  obtain ⟨b, hget, hbind⟩ := getElem?_bindAll h (List.getElem?_eq_getElem hlt)
  rw [List.getElem?_eq_getElem hi, Option.some.injEq] at hget
  exact ⟨ps[i], List.getElem_mem hlt, _, _, _, hget ▸ hbind⟩

end Bindings
