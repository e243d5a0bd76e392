import Bindings.HostEnum
import Mathlib.Data.List.TakeWhile

/-!
# Cores of native names

What the host name of an enum value keeps of its native name, and how that is mended.

* `isLead_iff`: what the values of an enum usually start with ends with the first underscore of its name.
* `isCore_iff`: the core of a native name is what follows the lead, without underscores at the end, or, where nothing is
  left of that, the whole name without underscores at the end.
* `mend_of_digit`, `mend_of_not_digit`: a core gets a character before a digit, or an underscore after the reserved word.
* `IsCore.mend_cases`: the three ways in which a core is mended, the last of them not at all.
-/

namespace Bindings.HostEnum

/-! ## Leads -/

/-- The name of an enum up to its first underscore, and an underscore. -/
inductive IsLead : List Char → List Char → Prop
  | whole {name : List Char} : '_' ∉ name → IsLead name (name ++ ['_'])
  | cut {head rest : List Char} : '_' ∉ head → IsLead (head ++ '_' :: rest) (head ++ ['_'])

theorem isLead_lead (name : List Char) : IsLead name (lead name) := by
  have hhead : '_' ∉ name.takeWhile (· != '_') := by
    intro h
    simpa using List.all_eq_true.1 List.all_takeWhile _ h
  have hsplit : name.takeWhile (· != '_') ++ name.dropWhile (· != '_') = name := List.takeWhile_append_dropWhile
  cases hdrop : name.dropWhile (· != '_') with
  | nil =>
    rw [hdrop, List.append_nil] at hsplit
    rw [lead, hsplit]
    exact .whole (hsplit ▸ hhead)
  | cons c rest =>
    obtain rfl : c = '_' := by
      have h := List.head?_dropWhile_not (· != '_') name
      rw [hdrop] at h
      simpa using h
    have hcut : IsLead (name.takeWhile (· != '_') ++ '_' :: rest) (lead name) := .cut hhead
    rw [← hdrop, hsplit] at hcut
    exact hcut

theorem isLead_iff {name start : List Char} : IsLead name start ↔ start = lead name := by
  constructor
  · intro h
    have hne : ∀ {s : List Char}, '_' ∉ s → ∀ c ∈ s, (c != '_') = true := by
      intro s hs c hc
      have hc' : c ≠ '_' := fun heq => hs (heq ▸ hc)
      simpa using hc'
    cases h with
    | whole h =>
      rw [lead, List.takeWhile_eq_self_iff.2 (hne h)]
    | cut h =>
      rw [lead, List.takeWhile_append_of_pos (hne h)]
      simp
  · rintro rfl
    exact isLead_lead name

/-! ## Cores -/

/-- What follows the lead in a native name; all of a name that does not have it. -/
inductive Follows (start : List Char) : List Char → List Char → Prop
  | led {rest : List Char} : Follows start (start ++ rest) rest
  | bare {native : List Char} : ¬start <+: native → Follows start native native

/-- The text without the underscores at its end. -/
structure Trims (s t : List Char) : Prop where
  last : t.getLast? ≠ some '_'
  dropped : ∃ n, s = t ++ List.replicate n '_'

/-- The core of a native name. -/
inductive IsCore (start native : List Char) : List Char → Prop
  | rest {rest core : List Char} : Follows start native rest → Trims rest core → core ≠ [] → IsCore start native core
  | whole {rest core : List Char} : Follows start native rest → Trims rest [] → Trims native core →
      IsCore start native core

theorem follows_iff {start native rest : List Char} :
    Follows start native rest ↔ rest = (Text.after? start native).getD native := by
  constructor
  · intro h
    cases h with
    | led => rw [Text.after?_append, Option.getD_some]
    | bare h =>
      have hnone : Text.after? start native = none := Option.eq_none_iff_forall_ne_some.2 fun rest hrest =>
        h ⟨rest, (Text.after?_eq_some_iff.1 hrest).symm⟩
      rw [hnone, Option.getD_none]
  · rintro rfl
    cases h : Text.after? start native with
    | some rest =>
      rw [Text.after?_eq_some_iff] at h
      rw [h]
      exact .led
    | none =>
      refine .bare fun hprefix => ?_
      obtain ⟨rest, rfl⟩ := hprefix
      rw [Text.after?_append] at h
      cases h

theorem trims_iff {s t : List Char} : Trims s t ↔ Text.dropEnd '_' s = t := by
  rw [Text.dropEnd_eq_iff]
  exact ⟨fun h => ⟨h.last, h.dropped⟩, fun h => ⟨h.1, h.2⟩⟩

theorem isCore_core (start native : List Char) : IsCore start native (core start native) := by
  have hfollows : Follows start native _ := follows_iff.2 rfl
  have htrims := trims_iff.2 (rfl : Text.dropEnd '_' ((Text.after? start native).getD native) = _)
  rw [core]
  split
  · rename_i hnil
    rw [hnil] at htrims
    exact .whole hfollows htrims (trims_iff.2 rfl)
  · rename_i hne
    exact .rest hfollows htrims hne

theorem isCore_iff {start native text : List Char} : IsCore start native text ↔ text = core start native := by
  constructor
  · intro h
    cases h with
    | rest hfollows htrims hne =>
      rw [core, ← follows_iff.1 hfollows, trims_iff.1 htrims]
      split
      · exact absurd rfl hne
      · rfl
    | whole hfollows hnil htrims => rw [core, ← follows_iff.1 hfollows, trims_iff.1 hnil, trims_iff.1 htrims]
  · rintro rfl
    exact isCore_core start native

section Core

variable {start native core : List Char}

theorem Trims.isPrefix {s t : List Char} (h : Trims s t) : t <+: s := by
  obtain ⟨n, hs⟩ := h.dropped
  exact ⟨_, hs.symm⟩

theorem Follows.isSuffix {name rest : List Char} (h : Follows start name rest) : rest <:+ name := by
  cases h with
  | led => exact List.suffix_append start rest
  | bare => exact List.suffix_rfl

theorem IsCore.subset (h : IsCore start native core) : core ⊆ native := by
  cases h with
  | rest hfollows htrims => exact List.Subset.trans htrims.isPrefix.subset hfollows.isSuffix.subset
  | whole _ _ htrims => exact htrims.isPrefix.subset

theorem IsCore.last (h : IsCore start native core) : core.getLast? ≠ some '_' := by
  cases h with
  | rest _ htrims => exact htrims.last
  | whole _ _ htrims => exact htrims.last

/-- Something is left of a name that has more than underscores. -/
theorem IsCore.ne_nil (h : IsCore start native core) (hnative : ∃ c ∈ native, c ≠ '_') : core ≠ [] := by
  cases h with
  | rest _ _ hne => exact hne
  | whole _ _ htrims =>
    rintro rfl
    obtain ⟨n, hn⟩ := htrims.dropped
    obtain ⟨c, hc, hne⟩ := hnative
    rw [hn, List.nil_append] at hc
    exact hne (List.eq_of_mem_replicate hc)

end Core

/-! ## Mending -/

/-- The text begins with a digit of ASCII. -/
def StartsWithDigit (s : List Char) : Prop :=
  s.head?.any Char.isDigit = true

instance (s : List Char) : Decidable (StartsWithDigit s) :=
  inferInstanceAs (Decidable (_ = true))

theorem StartsWithDigit.exists_cons {s : List Char} (h : StartsWithDigit s) :
    ∃ c rest, s = c :: rest ∧ c.isDigit = true := by
  cases s with
  | nil => cases h
  | cons c rest => exact ⟨c, rest, rfl, h⟩

/-- A core that is the reserved word gets an underscore. -/
def unreserved (core : List Char) : List Char :=
  if core = reserved then reserved ++ ['_'] else core

theorem mend_of_digit {core : List Char} (native : List Char) (h : StartsWithDigit core) :
    mend native core = native.headD '_' :: core := by
  obtain ⟨c, rest, rfl, hc⟩ := h.exists_cons
  have hne : c :: rest ≠ reserved := by
    intro heq
    rw [(List.cons.inj heq).1] at hc
    exact absurd hc (by decide)
  rw [mend, if_neg hne]
  exact if_pos hc

theorem mend_of_not_digit {core : List Char} (native : List Char) (h : ¬StartsWithDigit core) :
    mend native core = unreserved core := by
  unfold mend unreserved
  split
  · rfl
  · cases core with
    | nil => rfl
    | cons c rest => exact if_neg h

section Unreserved

variable {core other : List Char}

theorem unreserved_cases (core : List Char) :
    core = reserved ∧ unreserved core = reserved ++ ['_'] ∨ core ≠ reserved ∧ unreserved core = core := by
  by_cases h : core = reserved
  · exact .inl ⟨h, if_pos h⟩
  · exact .inr ⟨h, if_neg h⟩

/-- No core becomes the reserved word with an underscore but the reserved word. -/
theorem unreserved_inj (hcore : core.getLast? ≠ some '_') (hother : other.getLast? ≠ some '_') :
    unreserved core = unreserved other ↔ core = other := by
  constructor
  · intro h
    rcases unreserved_cases core with ⟨hc, hc'⟩ | ⟨_, hc'⟩ <;> rcases unreserved_cases other with ⟨ho, ho'⟩ | ⟨_, ho'⟩
    · rw [hc, ho]
    · rw [hc', ho'] at h
      rw [← h] at hother
      exact absurd rfl hother
    · rw [hc', ho'] at h
      rw [h] at hcore
      exact absurd rfl hcore
    · rw [hc', ho'] at h
      exact h
  · exact congrArg unreserved

/-- What a digit stands second in is not the reserved word. -/
theorem unreserved_eq_cons_iff {first : Char} (h : StartsWithDigit core) :
    unreserved other = first :: core ↔ other = first :: core := by
  obtain ⟨c, rest, rfl, hc⟩ := h.exists_cons
  have hsecond : ∀ s : List Char, reserved ++ s ≠ first :: c :: rest := by
    intro s heq
    rw [← (List.cons.inj (List.cons.inj heq).2).1] at hc
    exact absurd hc (by decide)
  rcases unreserved_cases other with ⟨ho, ho'⟩ | ⟨_, ho'⟩
  · have hreserved := hsecond []
    rw [List.append_nil] at hreserved
    rw [ho', ho]
    exact iff_of_false (hsecond ['_']) hreserved
  · rw [ho']

end Unreserved

section Mend

variable {start native core : List Char}

/-- A native name whose core begins with a digit has a first character. -/
theorem IsCore.exists_first (h : IsCore start native core) (hdigit : StartsWithDigit core) :
    ∃ first, native.head? = some first ∧ mend native core = first :: core := by
  obtain ⟨c, rest, rfl, _⟩ := hdigit.exists_cons
  obtain ⟨first, tail, rfl⟩ := List.exists_cons_of_ne_nil (List.ne_nil_of_mem (h.subset List.mem_cons_self))
  exact ⟨first, rfl, mend_of_digit _ hdigit⟩

/-- All that is done to a core. -/
theorem IsCore.mend_cases (h : IsCore start native core) :
    (StartsWithDigit core ∧ ∃ first, native.head? = some first ∧ mend native core = first :: core) ∨
      (core = reserved ∧ mend native core = reserved ++ ['_']) ∨
      (¬StartsWithDigit core ∧ core ≠ reserved ∧ mend native core = core) := by
  by_cases hdigit : StartsWithDigit core
  · exact .inl ⟨hdigit, h.exists_first hdigit⟩
  · rw [mend_of_not_digit native hdigit]
    rcases unreserved_cases core with ⟨hcore, hmended⟩ | ⟨hne, hmended⟩
    · exact .inr (.inl ⟨hcore, hmended⟩)
    · exact .inr (.inr ⟨hdigit, hne, hmended⟩)

end Mend

end Bindings.HostEnum
