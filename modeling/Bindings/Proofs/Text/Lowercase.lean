import Bindings.Text.Lowercase

/-!
# Characters with a small letter as lower case

* `lower_eq_cons`: the lower case of a character starts with one of the letters `a` to `z` only if the character is that
  letter, large or small, or one of two others: the dotted capital I and the Kelvin sign.
* `lower_eq_cons_c_iff`: for the letter `c` there are no others.
* `lowercase_eq_iff`: a text becomes a word of such letters, none of them `k`, exactly when it is that word but for the
  case of ASCII letters.
-/

namespace Bindings.Text

/-- The runs of the table lead to a letter from `a` to `z` from the large letters and from the Kelvin sign only. -/
theorem shift_of_covers : ∀ r ∈ caseRuns, ∀ m ∈ List.range' 97 26, r.covers ((m : Int) - r.shift).toNat = true →
    ((m : Int) - r.shift).toNat + 32 = m ∨ m = 107 ∧ ((m : Int) - r.shift).toNat = 0x212A := by
  decide +kernel

theorem toNat_of_ofNat_eq {n : Nat} {c : Char} (h : Char.ofNat n = c) (hc : c.toNat ≠ 0) : n = c.toNat := by
  by_cases hvalid : n.isValidChar
  · rw [Char.ofNat, dif_pos hvalid] at h
    exact congrArg Char.toNat h
  · rw [Char.ofNat, dif_neg hvalid] at h
    exact absurd (congrArg Char.toNat h).symm hc

theorem lower_eq_cons {c d : Char} {tail : List Char} (hd : 97 ≤ d.toNat ∧ d.toNat ≤ 122) (h : lower c = d :: tail) :
    c = 'İ' ∧ d = 'i' ∨ c.toNat = 0x212A ∧ d = 'k' ∨ tail = [] ∧ (c = d ∨ c.toNat + 32 = d.toNat) := by
  unfold lower at h
  split at h
  · rename_i hdotted
    exact .inl ⟨hdotted, (List.cons.inj h).1.symm⟩
  · split at h
    · rename_i r hfind
      obtain ⟨hchar, htail⟩ := List.cons.inj h
      have hcovers : r.covers c.toNat = true := by simpa using List.find?_some hfind
      have hmem := List.mem_of_find?_eq_some hfind
      have hvalue : ((c.toNat : Int) + r.shift).toNat = d.toNat := toNat_of_ofNat_eq hchar (by omega)
      have hback : ((d.toNat : Int) - r.shift).toNat = c.toNat := by omega
      have hletter : d.toNat ∈ List.range' 97 26 := List.mem_range'_1.2 (by omega)
      rcases shift_of_covers r hmem d.toNat hletter (hback ▸ hcovers) with hlarge | ⟨hk, hkelvin⟩
      · exact .inr (.inr ⟨htail.symm, .inr (hback ▸ hlarge)⟩)
      · exact .inr (.inl ⟨hback ▸ hkelvin, Char.toNat_inj.1 hk⟩)
    · obtain ⟨hchar, htail⟩ := List.cons.inj h
      exact .inr (.inr ⟨htail.symm, .inl hchar⟩)

theorem lower_ne_nil (c : Char) : lower c ≠ [] := by
  unfold lower
  split
  · simp
  · split <;> simp

/-- Only the two letters C have a lower case that starts with the small one. -/
theorem lower_eq_cons_c_iff {c : Char} {tail : List Char} :
    lower c = 'c' :: tail ↔ (c = 'c' ∨ c = 'C') ∧ tail = [] := by
  constructor
  · intro h
    rcases lower_eq_cons (by decide) h with ⟨_, hi⟩ | ⟨_, hk⟩ | ⟨htail, hc | hc⟩
    · exact absurd hi (by decide)
    · exact absurd hk (by decide)
    · exact ⟨.inl hc, htail⟩
    · have hlarge : c.toNat = 'C'.toNat := Nat.add_right_cancel hc
      exact ⟨.inr (Char.toNat_inj.1 hlarge), htail⟩
  · rintro ⟨rfl | rfl, rfl⟩ <;> decide +kernel

/-! ## Words that read the same in small and large letters of ASCII -/

/-- A large letter of ASCII is 32 code points before the small one. -/
theorem toNat_toLower (c : Char) :
    c.toLower.toNat = if 65 ≤ c.toNat ∧ c.toNat ≤ 90 then c.toNat + 32 else c.toNat := by
  have hlarge : c.val ≥ 'A'.val ∧ c.val ≤ 'Z'.val ↔ 65 ≤ c.toNat ∧ c.toNat ≤ 90 := by
    rw [ge_iff_le, UInt32.le_iff_toNat_le, UInt32.le_iff_toNat_le]
    exact Iff.rfl
  unfold Char.toLower
  split
  · rename_i h
    have hrange := hlarge.1 h
    rw [if_pos hrange]
    show (c.val + ('a'.val - 'A'.val)).toNat = c.toNat + 32
    rw [UInt32.toNat_add]
    exact Nat.mod_eq_of_lt (show c.toNat + 32 < 2 ^ 32 by omega)
  · rename_i h
    rw [if_neg (mt hlarge.2 h)]

theorem toLower_eq_iff {c d : Char} (hd : 97 ≤ d.toNat ∧ d.toNat ≤ 122) :
    c.toLower = d ↔ c = d ∨ c.toNat + 32 = d.toNat := by
  rw [← Char.toNat_inj, ← Char.toNat_inj, toNat_toLower]
  split <;> omega

theorem lower_of_letter : ∀ n ∈ List.range' 97 26, lower (Char.ofNat n) = [Char.ofNat n] ∧
    lower (Char.ofNat (n - 32)) = [Char.ofNat n] := by
  decide +kernel

/-- A character becomes a small letter other than `k` exactly when it is that letter, small or large. -/
theorem lower_eq_singleton_iff {c d : Char} (hd : 97 ≤ d.toNat ∧ d.toNat ≤ 122) (hk : d ≠ 'k') :
    lower c = [d] ↔ c.toLower = d := by
  rw [toLower_eq_iff hd]
  constructor
  · intro h
    rcases lower_eq_cons hd h with ⟨rfl, _⟩ | ⟨_, hkelvin⟩ | ⟨_, hc⟩
    · cases h
    · exact absurd hkelvin hk
    · exact hc
  · obtain ⟨hsmall, hlarge⟩ := lower_of_letter d.toNat (List.mem_range'_1.2 (by omega))
    rw [Char.ofNat_toNat] at hsmall hlarge
    rintro (rfl | hc)
    · exact hsmall
    · rw [← hc, Nat.add_sub_cancel, Char.ofNat_toNat] at hlarge
      exact hlarge

/-- The word consists of small letters other than `k`, which the Kelvin sign becomes. -/
def IsPlainWord (word : List Char) : Prop :=
  ∀ d ∈ word, (97 ≤ d.toNat ∧ d.toNat ≤ 122) ∧ d ≠ 'k'

instance (word : List Char) : Decidable (IsPlainWord word) :=
  List.decidableBAll _ word

/-- A text becomes such a word exactly when it is that word but for the case of ASCII letters. -/
theorem lowercase_eq_iff {word : List Char} (hword : IsPlainWord word) {s : List Char} :
    lowercase s = word ↔ s.map Char.toLower = word := by
  induction s generalizing word with
  | nil => rfl
  | cons c s ih =>
    obtain ⟨e, tail, hlower⟩ := List.exists_cons_of_ne_nil (lower_ne_nil c)
    have hcons : lowercase (c :: s) = e :: (tail ++ lowercase s) := by
      rw [lowercase, List.flatMap_cons, hlower, List.cons_append]
      rfl
    rw [hcons, List.map_cons]
    cases word with
    | nil => simp
    | cons d ds =>
      obtain ⟨⟨hd, hk⟩, hds⟩ := List.forall_mem_cons.1 hword
      rw [List.cons.injEq, List.cons.injEq, ← ih hds, ← lower_eq_singleton_iff hd hk, hlower, List.cons.injEq]
      constructor
      · rintro ⟨rfl, htail⟩
        rcases lower_eq_cons hd hlower with ⟨rfl, _⟩ | ⟨_, hkelvin⟩ | ⟨rfl, _⟩
        · -- the dot that follows the small i is no letter
          obtain ⟨_, rfl⟩ := List.cons.inj hlower
          rw [← htail] at hds
          exact absurd (List.forall_mem_cons.1 hds).1.1 (by decide)
        · exact absurd hkelvin hk
        · exact ⟨⟨rfl, rfl⟩, htail⟩
      · rintro ⟨⟨rfl, rfl⟩, htail⟩
        exact ⟨rfl, htail⟩

end Bindings.Text
