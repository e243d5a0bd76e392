import Bindings.Proofs.HostEnum.Core

/-!
# Usable host names

A value of an enum gets a name that the host takes, as far as its native name allows for one.

* `IsIdentifier`: letters, digits and underscores of which the first is no digit.
* `IsCore.mend_ne_reserved`, `IsCore.mend_eq_of_last`: a core is never mended to the reserved word, and given an
  underscore at its end only where it is that word.
* `IsCore.not_startsWithDigit_mend`, `IsCore.mem_mend`: what a mended core takes over from the native name.
* `host_names_usable`: the law.
-/

namespace Bindings.HostEnum

/-- A letter or a digit of ASCII, or an underscore. -/
def IsWordChar (c : Char) : Prop :=
  c.isAlphanum = true ∨ c = '_'

instance (c : Char) : Decidable (IsWordChar c) :=
  inferInstanceAs (Decidable (_ ∨ _))

theorem isWordChar_of_mem_reserved : ∀ c ∈ reserved ++ ['_'], IsWordChar c := by
  intro c hc
  simp only [reserved, List.cons_append, List.nil_append, List.mem_cons, List.not_mem_nil, or_false] at hc
  rcases hc with rfl | rfl | rfl | rfl | rfl <;> decide

/-- Word characters of which the first is no digit. -/
def IsIdentifier (s : List Char) : Prop :=
  ∃ first rest, s = first :: rest ∧ (first.isAlpha = true ∨ first = '_') ∧ ∀ c ∈ rest, IsWordChar c

theorem isIdentifier_of_wordChars {s : List Char} (hne : s ≠ []) (hdigit : ¬StartsWithDigit s)
    (hword : ∀ c ∈ s, IsWordChar c) : IsIdentifier s := by
  obtain ⟨first, rest, rfl⟩ := List.exists_cons_of_ne_nil hne
  obtain ⟨hfirst, hrest⟩ := List.forall_mem_cons.1 hword
  refine ⟨first, rest, rfl, hfirst.imp_left fun halphanum => ?_, hrest⟩
  rw [Char.isAlphanum, Bool.or_eq_true] at halphanum
  exact halphanum.resolve_right hdigit

/-! ## Mended cores -/

section Mend

variable {start native core : List Char}

theorem IsCore.mend_ne_reserved (h : IsCore start native core) : mend native core ≠ reserved := by
  rcases h.mend_cases with ⟨hdigit, first, _, hmend⟩ | ⟨_, hmend⟩ | ⟨_, hne, hmend⟩
  · rw [hmend]
    intro heq
    rw [(List.cons.inj heq).2] at hdigit
    exact absurd hdigit (by decide)
  · rw [hmend]
    decide
  · rw [hmend]
    exact hne

/-- Only the reserved word is mended with an underscore at the end. -/
theorem IsCore.mend_eq_of_last (h : IsCore start native core) (hlast : (mend native core).getLast? = some '_') :
    mend native core = reserved ++ ['_'] := by
  rcases h.mend_cases with ⟨hdigit, first, _, hmend⟩ | ⟨_, hmend⟩ | ⟨_, _, hmend⟩
  · obtain ⟨c, rest, rfl, _⟩ := hdigit.exists_cons
    rw [hmend, List.getLast?_cons_cons] at hlast
    exact absurd hlast h.last
  · exact hmend
  · rw [hmend] at hlast
    exact absurd hlast h.last

theorem IsCore.mend_ne_nil (h : IsCore start native core) (hne : core ≠ []) : mend native core ≠ [] := by
  rcases h.mend_cases with ⟨_, first, _, hmend⟩ | ⟨_, hmend⟩ | ⟨_, _, hmend⟩
  · rw [hmend]
    exact List.cons_ne_nil _ _
  · rw [hmend]
    decide
  · rw [hmend]
    exact hne

theorem IsCore.not_startsWithDigit_mend (h : IsCore start native core) (hnative : ¬StartsWithDigit native) :
    ¬StartsWithDigit (mend native core) := by
  rcases h.mend_cases with ⟨_, first, hfirst, hmend⟩ | ⟨_, hmend⟩ | ⟨hdigit, _, hmend⟩
  · -- the character before the digit is the first of the native name
    rw [StartsWithDigit, hfirst] at hnative
    rw [hmend]
    exact hnative
  · rw [hmend]
    decide
  · rw [hmend]
    exact hdigit

theorem IsCore.mem_mend (h : IsCore start native core) {c : Char} (hc : c ∈ mend native core) :
    c ∈ native ∨ c ∈ reserved ++ ['_'] := by
  rcases h.mend_cases with ⟨_, first, hfirst, hmend⟩ | ⟨_, hmend⟩ | ⟨_, _, hmend⟩
  · rw [hmend] at hc
    rcases List.mem_cons.1 hc with rfl | hc
    · exact .inl (List.mem_of_mem_head? hfirst)
    · exact .inl (h.subset hc)
  · rw [hmend] at hc
    exact .inr hc
  · rw [hmend] at hc
    exact .inl (h.subset hc)

end Mend

/-! ## Host names -/

theorem toList_hostName (enumName native : String) : (hostName enumName native).toList =
    mend native.toList (core (lead enumName.toList) native.toList) :=
  String.toList_ofList

/--
**Usable names.** An enum keeps its name and its values. No host name is the reserved word, and one that ends in an
underscore is that word with it. Where a native name has more than underscores, the host name is not empty; where it does
not begin with a digit, neither does the host name; and where it is made of word characters, the host name is an
identifier.
-/
theorem host_names_usable (e : NativeEnum) :
    (ofNative e).name = e.name ∧
    (ofNative e).values.map (fun v => (v.name, v.value)) = e.values.map (fun v => (v.name, v.value)) ∧
    ∀ v ∈ (ofNative e).values,
      v.hostName ≠ "None" ∧
      (v.hostName.toList.getLast? = some '_' → v.hostName = "None_") ∧
      ((∃ c ∈ v.name.toList, c ≠ '_') →
        v.hostName ≠ "" ∧
        (¬StartsWithDigit v.name.toList →
          ¬StartsWithDigit v.hostName.toList ∧
          ((∀ c ∈ v.name.toList, IsWordChar c) → IsIdentifier v.hostName.toList))) := by
  refine ⟨rfl, ?_, ?_⟩
  · rw [ofNative, List.map_map]
    rfl
  · intro v hv
    obtain ⟨n, _, rfl⟩ := List.mem_map.1 hv
    have hcore := isCore_core (lead e.name.toList) n.name.toList
    have hhost := toList_hostName e.name n.name
    have hreserved : "None".toList = reserved := rfl
    have hmended : "None_".toList = reserved ++ ['_'] := rfl
    simp only [ne_eq, ← String.toList_inj, hhost, hreserved, hmended]
    refine ⟨hcore.mend_ne_reserved, hcore.mend_eq_of_last, ?_⟩
    intro hnative
    have hne := hcore.mend_ne_nil (hcore.ne_nil hnative)
    refine ⟨hne, ?_⟩
    intro hdigit
    have hfirst := hcore.not_startsWithDigit_mend hdigit
    refine ⟨hfirst, ?_⟩
    intro hword
    apply isIdentifier_of_wordChars hne hfirst
    intro c hc
    exact (hcore.mem_mend hc).elim (hword c) (isWordChar_of_mem_reserved c)

/-- An enum whose name begins with an underscore, with a value that is called by the reserved word and one by a number. -/
def underscoredEnum : NativeEnum :=
  ⟨"_Mode", [⟨"_None_", none⟩, ⟨"_2x_", none⟩]⟩

theorem underscored_enum_usable :
    ∃ u ∈ (ofNative underscoredEnum).values, ∃ v ∈ (ofNative underscoredEnum).values,
      u.name = "_None_" ∧ u.hostName = "None_" ∧ u.hostName ≠ "None" ∧
      v.name = "_2x_" ∧ v.hostName = "_2x" ∧ IsIdentifier v.hostName.toList := by
  have hu : (⟨"_None_", hostName "_Mode" "_None_", none⟩ : HostEnumValue) ∈ (ofNative underscoredEnum).values :=
    List.mem_cons_self
  have hv : (⟨"_2x_", hostName "_Mode" "_2x_", none⟩ : HostEnumValue) ∈ (ofNative underscoredEnum).values :=
    List.mem_cons_of_mem _ List.mem_cons_self
  obtain ⟨hreserved, hlast, -⟩ := (host_names_usable underscoredEnum).2.2 _ hu
  obtain ⟨-, -, hmore⟩ := (host_names_usable underscoredEnum).2.2 _ hv
  have hword : ∀ c ∈ "_2x_".toList, IsWordChar c := by
    intro c hc
    have hc : c = '_' ∨ c = '2' ∨ c = 'x' ∨ c = '_' := by simpa using hc
    rcases hc with rfl | rfl | rfl | rfl <;> decide
  obtain ⟨-, hidentifier⟩ := hmore ⟨'2', by simp, by decide⟩
  exact ⟨_, hu, _, hv, rfl, hlast (by decide +kernel), hreserved, rfl, by decide +kernel,
    (hidentifier (by decide)).2 hword⟩

end Bindings.HostEnum
