import Bindings.Record
import Mathlib.Data.List.Forall2
import Mathlib.Logic.Relation

/-!
# Fields of records

* `member?_cons_of_mem`, `member?_of_mem`, `member?_of_sublist`: a field that is given once is found, one that is given
  twice is not.
* `exists_of_optional`: a field that is read comes from a member, or is its default.
* `mapM_eq_some_iff`, `exists_of_mapM_left`, `exists_of_mapM_right`: a list is read when each of its items is, and what
  is read of it is read of its items.
-/

namespace Bindings

theorem mapM_eq_some_iff {α β : Type} {f : α → Option β} {as : List α} {bs : List β} :
    as.mapM f = some bs ↔ List.Forall₂ (fun a b => f a = some b) as bs := by
  induction as generalizing bs with
  | nil => simp [eq_comm]
  | cons a as ih =>
    rw [List.mapM_cons, List.forall₂_cons_left_iff]
    constructor
    · intro h
      obtain ⟨b, hb, h⟩ := Option.bind_eq_some_iff.1 h
      obtain ⟨bs', hbs, h⟩ := Option.bind_eq_some_iff.1 h
      exact ⟨b, bs', hb, ih.1 hbs, (Option.some.inj h).symm⟩
    · rintro ⟨b, bs', hb, hbs, rfl⟩
      rw [hb, ih.2 hbs]
      rfl

theorem exists_of_mapM_left {α β : Type} {f : α → Option β} {as : List α} {bs : List β} (h : as.mapM f = some bs) {a : α}
    (ha : a ∈ as) : ∃ b ∈ bs, f a = some b := by
  have hread := mapM_eq_some_iff.1 h
  clear h
  induction hread with
  | nil => cases ha
  | cons hd _ ih =>
    rcases List.mem_cons.1 ha with rfl | ha
    · exact ⟨_, List.mem_cons_self, hd⟩
    · obtain ⟨b, hb, hab⟩ := ih ha
      exact ⟨b, List.mem_cons_of_mem _ hb, hab⟩

theorem exists_of_mapM_right {α β : Type} {f : α → Option β} {as : List α} {bs : List β} (h : as.mapM f = some bs) {b : β}
    (hb : b ∈ bs) : ∃ a ∈ as, f a = some b := by
  have hread := mapM_eq_some_iff.1 h
  clear h
  induction hread with
  | nil => cases hb
  | cons hd _ ih =>
    rcases List.mem_cons.1 hb with rfl | hb
    · exact ⟨_, List.mem_cons_self, hd⟩
    · obtain ⟨a, ha, hab⟩ := ih hb
      exact ⟨a, List.mem_cons_of_mem _ ha, hab⟩

/-- What no single change affects is not affected by any number of them. -/
theorem eq_of_eqvGen {α β : Type} {r : α → α → Prop} {f : α → β} (hr : ∀ a b, r a b → f a = f b) {a b : α}
    (h : Relation.EqvGen r a b) : f a = f b := by
  induction h with
  | rel a b h => exact hr a b h
  | refl => rfl
  | symm _ _ _ ih => exact ih.symm
  | trans _ _ _ _ _ ih ih' => exact ih.trans ih'

/-- One step of reading a record: simplifying all steps at once takes time exponential in the number of fields. -/
theorem bind_of_eq_some {α β : Type} {x : Option α} {f : α → Option β} {a : α} (h : x = some a) : (x >>= f) = f a := by
  rw [h]
  rfl

namespace Record

variable {σ α : Type} {names : List String} {read : σ → Option α} {members : List (String × σ)} {a : α}

theorem mem_of_member? {s : σ} (h : member? names members = some (some s)) : ∃ name ∈ names, (name, s) ∈ members := by
  unfold member? at h
  split at h
  · cases h
  · rename_i m hm
    cases h
    have hmem : m ∈ members.filter (names.contains ·.1) := hm ▸ List.mem_singleton_self m
    obtain ⟨hmem, hname⟩ := List.mem_filter.1 hmem
    exact ⟨m.1, List.contains_iff_mem.1 hname, hmem⟩
  · cases h

/-! ## Looking a field up -/

section Members

variable {name name' : String} {s s' : σ}

theorem member?_cons_of_notMem (h : name ∉ names) : member? names ((name, s) :: members) = member? names members := by
  rw [member?, member?, List.filter_cons_of_neg (by simpa using h)]

theorem member?_of_absent (h : members.any (names.contains ·.1) = false) : member? names members = some none := by
  have hfilter : members.filter (names.contains ·.1) = [] :=
    List.filter_eq_nil_iff.2 fun m hm hc => Bool.false_ne_true (h.symm.trans (List.any_eq_true.2 ⟨m, hm, hc⟩))
  rw [member?, hfilter]

/-- A field that is given is found if it is not given again. -/
theorem member?_cons_of_mem (h : name ∈ names) :
    member? names ((name, s) :: members) = if members.any (names.contains ·.1) then none else some (some s) := by
  rw [member?, List.filter_cons_of_pos (by simpa using h)]
  cases hfilter : members.filter (names.contains ·.1) with
  | nil =>
    rw [if_neg]
    intro hany
    obtain ⟨m, hm, hc⟩ := List.any_eq_true.1 hany
    exact List.filter_eq_nil_iff.1 hfilter m hm hc
  | cons m rest =>
    have hm : m ∈ members.filter (names.contains ·.1) := hfilter ▸ List.mem_cons_self
    rw [if_pos (List.any_eq_true.2 ⟨m, (List.mem_filter.1 hm).1, (List.mem_filter.1 hm).2⟩)]

/-- A field that is given twice is not found. -/
theorem member?_of_sublist (h : name ∈ names) (h' : name' ∈ names) (hsub : [(name, s), (name', s')].Sublist members) :
    member? names members = none := by
  have hfilter := hsub.filter (names.contains ·.1)
  rw [List.filter_cons_of_pos (by simpa using h), List.filter_cons_of_pos (by simpa using h')] at hfilter
  rw [member?]
  generalize members.filter (names.contains ·.1) = found at hfilter ⊢
  have hlength := hfilter.length_le
  rcases found with _ | ⟨_, _ | ⟨_, _⟩⟩
  · cases hlength
  · cases Nat.le_of_succ_le_succ hlength
  · rfl

theorem member?_of_mem (h : name ∈ names) (hmem : (name, s) ∈ members) :
    member? names members = none ∨ member? names members = some (some s) := by
  have hfilter : (name, s) ∈ members.filter (names.contains ·.1) := List.mem_filter.2 ⟨hmem, by simpa using h⟩
  rw [member?]
  generalize members.filter (names.contains ·.1) = found at hfilter ⊢
  rcases found with _ | ⟨m, _ | ⟨_, _⟩⟩
  · cases hfilter
  · cases List.mem_singleton.1 hfilter
    exact .inr rfl
  · exact .inl rfl

theorem member?_of_two_names (h : name ∈ names) (h' : name' ∈ names) (hne : name ≠ name') (hmem : (name, s) ∈ members)
    (hmem' : (name', s') ∈ members) : member? names members = none := by
  have hfilter : (name, s) ∈ members.filter (names.contains ·.1) := List.mem_filter.2 ⟨hmem, by simpa using h⟩
  have hfilter' : (name', s') ∈ members.filter (names.contains ·.1) := List.mem_filter.2 ⟨hmem', by simpa using h'⟩
  rw [member?]
  generalize members.filter (names.contains ·.1) = found at hfilter hfilter' ⊢
  rcases found with _ | ⟨m, _ | ⟨_, _⟩⟩
  · cases hfilter
  · have heq := (List.mem_singleton.1 hfilter).trans (List.mem_singleton.1 hfilter').symm
    exact absurd (congrArg Prod.fst heq) hne
  · rfl

section Optional

variable {default : α}

theorem optional_perm {members' : List (String × σ)} (h : members.Perm members') :
    optional names default read members = optional names default read members' := by
  rw [Record.optional, Record.optional, member?_perm names h]

theorem optional_cons_of_notMem (h : name ∉ names) :
    optional names default read ((name, s) :: members) = optional names default read members := by
  rw [Record.optional, Record.optional, member?_cons_of_notMem h]

theorem optional_cons_of_mem (h : name ∈ names) :
    optional names default read ((name, s) :: members) = if members.any (names.contains ·.1) then none else read s := by
  rw [Record.optional, member?_cons_of_mem h]
  by_cases hany : members.any (names.contains ·.1)
  · rw [if_pos hany, if_pos hany]
  · rw [if_neg hany, if_neg hany]

end Optional

end Members

/-! ## Fields that have been read -/

theorem exists_of_optional {default : α} (h : optional names default read members = some a) :
    a = default ∨ ∃ m ∈ members, m.1 ∈ names ∧ read m.2 = some a := by
  unfold optional at h
  split at h
  · rename_i s hs
    obtain ⟨name, hname, hmem⟩ := mem_of_member? hs
    exact .inr ⟨_, hmem, hname, h⟩
  · exact .inl (Option.some.inj h).symm
  · cases h

end Record

end Bindings
