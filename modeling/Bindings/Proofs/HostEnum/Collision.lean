import Bindings.Proofs.HostEnum.Usable
import Mathlib.Logic.ExistsUnique

/-!
# Values with one host name

Two values of an enum may get one host name. That depends on their cores, and on the first characters of their native
names where digits are concerned.

* `Meets`: a core that becomes another one by the character that is put before its digit.
* `mend_eq_mend_iff`: which cores are mended to one text.
* `equal_host_names_iff`: the law.
-/

namespace Bindings.HostEnum

/-- One core begins with a digit, and another that does not is the first character of its native name followed by it. -/
def Meets (native core other : List Char) : Prop :=
  StartsWithDigit core ∧ ¬StartsWithDigit other ∧ ∃ first, native.head? = some first ∧ other = first :: core

section Mend

variable {start v w cv cw : List Char}

theorem mend_eq_mend_of_digits (hv : IsCore start v cv) (hw : IsCore start w cw) (hcv : StartsWithDigit cv)
    (hcw : StartsWithDigit cw) : mend v cv = mend w cw ↔ cv = cw ∧ v.head? = w.head? := by
  obtain ⟨first, hfirst, hmend⟩ := hv.exists_first hcv
  obtain ⟨first', hfirst', hmend'⟩ := hw.exists_first hcw
  rw [hmend, hmend', hfirst, hfirst', List.cons.injEq, Option.some.injEq, and_comm]

/-- A core that begins with a digit is mended to another that does not if they meet, and to no other. -/
theorem mend_eq_mend_of_digit (w : List Char) (hv : IsCore start v cv) (hcv : StartsWithDigit cv)
    (hcw : ¬StartsWithDigit cw) : mend v cv = mend w cw ↔ Meets v cv cw := by
  obtain ⟨first, hfirst, hmend⟩ := hv.exists_first hcv
  rw [hmend, mend_of_not_digit w hcw, eq_comm, unreserved_eq_cons_iff hcv]
  constructor
  · intro h
    exact ⟨hcv, hcw, first, hfirst, h⟩
  · rintro ⟨_, _, first', hfirst', h⟩
    rw [hfirst, Option.some.injEq] at hfirst'
    rw [hfirst', h]

/-- Two cores are mended to one text when they are equal, and get one character before a digit, or when they meet. -/
theorem mend_eq_mend_iff (hv : IsCore start v cv) (hw : IsCore start w cw) :
    mend v cv = mend w cw ↔
      cv = cw ∧ (¬StartsWithDigit cv ∨ v.head? = w.head?) ∨ Meets v cv cw ∨ Meets w cw cv := by
  by_cases hcv : StartsWithDigit cv <;> by_cases hcw : StartsWithDigit cw
  · have hmeets : ¬Meets v cv cw := fun h => h.2.1 hcw
    have hmeets' : ¬Meets w cw cv := fun h => h.2.1 hcv
    rw [mend_eq_mend_of_digits hv hw hcv hcw]
    simp [hcv, hmeets, hmeets']
  · have hne : cv ≠ cw := fun h => hcw (h ▸ hcv)
    have hmeets : ¬Meets w cw cv := fun h => hcw h.1
    rw [mend_eq_mend_of_digit w hv hcv hcw]
    simp [hne, hmeets]
  · have hne : cv ≠ cw := fun h => hcv (h ▸ hcw)
    have hmeets : ¬Meets v cv cw := fun h => hcv h.1
    rw [eq_comm, mend_eq_mend_of_digit v hw hcw hcv]
    simp [hne, hmeets]
  · have hmeets : ¬Meets v cv cw := fun h => hcv h.1
    have hmeets' : ¬Meets w cw cv := fun h => hcw h.1
    rw [mend_of_not_digit v hcv, mend_of_not_digit w hcw, unreserved_inj hv.last hw.last]
    simp [hcv, hmeets, hmeets']

end Mend

/-! ## Host names -/

/-- What follows the lead in a native name can be kept as it is. -/
structure IsPlain (rest : List Char) : Prop where
  nonempty : rest ≠ []
  last : rest.getLast? ≠ some '_'
  first : ¬StartsWithDigit rest

theorem IsPlain.isCore {start rest : List Char} (h : IsPlain rest) : IsCore start (start ++ rest) rest :=
  .rest .led ⟨h.last, 0, by simp⟩ h.nonempty

theorem existsUnique_lead (name : List Char) : ∃! start, IsLead name start :=
  ⟨_, isLead_lead name, fun _ h => isLead_iff.1 h⟩

theorem existsUnique_core (start native : List Char) : ∃! core, IsCore start native core :=
  ⟨_, isCore_core start native, fun _ h => isCore_iff.1 h⟩

theorem hostName_eq_hostName_iff {enumName v w : String} {start cv cw : List Char}
    (hstart : IsLead enumName.toList start) (hv : IsCore start v.toList cv) (hw : IsCore start w.toList cw) :
    hostName enumName v = hostName enumName w ↔
      cv = cw ∧ (¬StartsWithDigit cv ∨ v.toList.head? = w.toList.head?) ∨
        Meets v.toList cv cw ∨ Meets w.toList cw cv := by
  rw [← mend_eq_mend_iff hv hw, ← String.toList_inj, toList_hostName, toList_hostName, ← isLead_iff.1 hstart,
    ← isCore_iff.1 hv, ← isCore_iff.1 hw]

/-- Names that carry the lead before a plain name are told apart. -/
theorem eq_of_hostName_eq_of_plain {enumName v w : String} {start rv rw : List Char}
    (hstart : IsLead enumName.toList start) (hv : v.toList = start ++ rv) (hw : w.toList = start ++ rw)
    (hrv : IsPlain rv) (hrw : IsPlain rw) (h : hostName enumName v = hostName enumName w) : v = w := by
  have hcv : IsCore start v.toList rv := hv ▸ hrv.isCore
  have hcw : IsCore start w.toList rw := hw ▸ hrw.isCore
  rcases (hostName_eq_hostName_iff hstart hcv hcw).1 h with ⟨hrest, _⟩ | hmeets | hmeets
  · rw [← String.toList_inj, hv, hw, hrest]
  · exact absurd hmeets.1 hrv.first
  · exact absurd hmeets.1 hrw.first

/--
**Collisions.** The lead of an enum is told by its name, and the core of a native name by both. Two values have one host
name exactly when their cores are equal, and begin with no digit or belong to names of one first character, or when they
meet. Values that carry the lead before a plain name are told apart.
-/
theorem equal_host_names_iff (e : NativeEnum) :
    (ofNative e).values.map (·.name) = e.values.map (·.name) ∧
    (∃! start, IsLead e.name.toList start) ∧
    ∀ start, IsLead e.name.toList start →
      (∀ native, ∃! core, IsCore start native core) ∧
      ∀ v ∈ (ofNative e).values, ∀ w ∈ (ofNative e).values,
        (∀ cv cw, IsCore start v.name.toList cv → IsCore start w.name.toList cw →
          (v.hostName = w.hostName ↔
            cv = cw ∧ (¬StartsWithDigit cv ∨ v.name.toList.head? = w.name.toList.head?) ∨
              Meets v.name.toList cv cw ∨ Meets w.name.toList cw cv)) ∧
        ∀ rv rw, v.name.toList = start ++ rv → w.name.toList = start ++ rw → IsPlain rv → IsPlain rw →
          v.name ≠ w.name → v.hostName ≠ w.hostName := by
  have hnames : (ofNative e).values.map (·.name) = e.values.map (·.name) := by
    rw [ofNative, List.map_map]
    rfl
  refine ⟨hnames, existsUnique_lead _, ?_⟩
  intro start hstart
  refine ⟨existsUnique_core start, ?_⟩
  intro v hv w hw
  obtain ⟨n, _, rfl⟩ := List.mem_map.1 hv
  obtain ⟨m, _, rfl⟩ := List.mem_map.1 hw
  refine ⟨fun cv cw => hostName_eq_hostName_iff hstart, ?_⟩
  intro rv rw hn hm hrv hrw hne hsame
  exact hne (eq_of_hostName_eq_of_plain hstart hn hm hrv hrw hsame)

/-- An enum with a value that is called by a number, one called by that number after the enum's initial, and two more. -/
def numberedEnum : NativeEnum :=
  ⟨"Foo", [⟨"Foo_2x_", none⟩, ⟨"F2x", none⟩, ⟨"Foo_Bar", none⟩, ⟨"Foo_Baz", none⟩]⟩

theorem number_meets_initial :
    ∃ u ∈ (ofNative numberedEnum).values, ∃ v ∈ (ofNative numberedEnum).values,
      u.name = "Foo_2x_" ∧ v.name = "F2x" ∧ u.hostName = v.hostName ∧
      ∃ w ∈ (ofNative numberedEnum).values, ∃ x ∈ (ofNative numberedEnum).values,
        w.name = "Foo_Bar" ∧ x.name = "Foo_Baz" ∧ w.hostName ≠ x.hostName := by
  have hvalues : ∀ name ∈ ["Foo_2x_", "F2x", "Foo_Bar", "Foo_Baz"],
      (⟨name, hostName "Foo" name, none⟩ : HostEnumValue) ∈ (ofNative numberedEnum).values := by
    intro name hname
    exact List.mem_map.2 ⟨⟨name, none⟩, by simpa [numberedEnum] using hname, rfl⟩
  have hu := hvalues "Foo_2x_" (by simp)
  have hv := hvalues "F2x" (by simp)
  have hw := hvalues "Foo_Bar" (by simp)
  have hx := hvalues "Foo_Baz" (by simp)
  have hstart : IsLead numberedEnum.name.toList "Foo_".toList := isLead_iff.2 (by decide)
  obtain ⟨-, hlaw⟩ := (equal_host_names_iff numberedEnum).2.2 _ hstart
  have hcu : IsCore "Foo_".toList "Foo_2x_".toList "2x".toList := isCore_iff.2 (by decide)
  have hcv : IsCore "Foo_".toList "F2x".toList "F2x".toList := isCore_iff.2 (by decide)
  have hmeets : Meets "Foo_2x_".toList "2x".toList "F2x".toList := ⟨by decide, by decide, 'F', rfl, rfl⟩
  have hbar : IsPlain "Bar".toList := ⟨by decide, by decide, by decide⟩
  have hbaz : IsPlain "Baz".toList := ⟨by decide, by decide, by decide⟩
  exact ⟨_, hu, _, hv, rfl, rfl, ((hlaw _ hu _ hv).1 _ _ hcu hcv).2 (.inr (.inl hmeets)), _, hw, _, hx, rfl, rfl,
    (hlaw _ hw _ hx).2 _ _ rfl rfl hbar hbaz (by decide)⟩

end Bindings.HostEnum
