import Bindings.Config.Reader
import Bindings.Proofs.Data
import Mathlib.Data.List.Forall2

/-!
# Values of a configuration

What a value in a tree of tables says as a text, a flag, a length or a default, and what is left of a value of free
shape when numbers that are not finite are left out.

* `Data.IsText`, `Data.IsFlag`, `ArraySize.IsSize`, `DefaultValue.IsDefault`: one case for each kind of value.
* `Data.isFlag_iff` and the others: this is what is read.
* `Data.IsFinite`, `Data.isFinite_iff`: the numbers that are left out; `Data.IsJson.finite`: what is left can be
  written.
-/

namespace Bindings

/-! ## Integers of 64 bits -/

theorem fitsSigned_iff {i : Int} : FitsSigned i ↔ ∃ j : Int64, j.toInt = i := by
  constructor
  · rintro ⟨hle, hlt⟩
    exact ⟨Int64.ofInt i, Int64.toInt_ofInt_of_le hle hlt⟩
  · rintro ⟨j, rfl⟩
    exact ⟨j.le_toInt, j.toInt_lt⟩

/-! ## Kinds of values -/

namespace Data

/-- A text says itself. -/
inductive IsText : Data → String → Prop
  | text (s : String) : IsText (.text s) s

theorem isText_iff {d : Data} {s : String} : d.IsText s ↔ d.text? = some s := by
  constructor
  · rintro ⟨⟩
    rfl
  · intro h
    cases d <;> cases h
    exact .text s

/-- A flag is a truth value or an integer, of which zero alone is false. -/
inductive IsFlag : Data → Bool → Prop
  | bool (b : Bool) : IsFlag (.bool b) b
  | zero : IsFlag (.int 0) false
  | nonzero {i : Int64} : i.toInt ≠ 0 → IsFlag (.int i.toInt) true

theorem isFlag_iff {d : Data} {b : Bool} : d.IsFlag b ↔ d.flag? = some b := by
  constructor
  · intro h
    cases h with
    | bool => rfl
    | zero => rfl
    | @nonzero i hi => rw [flag?, if_pos (fitsSigned_iff.2 ⟨i, rfl⟩), bne_iff_ne.2 hi]
  · intro h
    cases d with
    | bool b' =>
      cases h
      exact .bool b
    | int i =>
      rw [flag?] at h
      split at h
      · rename_i hfits
        obtain ⟨j, rfl⟩ := fitsSigned_iff.1 hfits
        cases h
        by_cases hj : j.toInt = 0
        · rw [hj]
          exact .zero
        · rw [bne_iff_ne.2 hj]
          exact .nonzero hj
      · cases h
    | _ => cases h

end Data

/-- A length is a count or a name. -/
inductive ArraySize.IsSize : Data → ArraySize → Prop
  | count (n : UInt64) : IsSize (.int n.toNat) (.count n)
  | symbol (s : String) : IsSize (.text s) (.symbol s)

theorem ArraySize.isSize_iff {d : Data} {size : ArraySize} : IsSize d size ↔ ofData? d = some size := by
  constructor
  · intro h
    cases h with
    | count n =>
      show (if n.toNat < unsignedLimit then some (count (UInt64.ofNat n.toNat)) else none) = _
      rw [if_pos (show n.toNat < unsignedLimit from n.toNat_lt), UInt64.ofNat_toNat]
    | symbol s => rfl
  · intro h
    cases d with
    | int i =>
      cases i with
      | ofNat n =>
        replace h : (if n < unsignedLimit then some (count (UInt64.ofNat n)) else none) = some size := h
        split at h
        · rename_i hlt
          cases h
          have hn : (UInt64.ofNat n).toNat = n := UInt64.toNat_ofNat_of_lt' hlt
          have hcount := IsSize.count (UInt64.ofNat n)
          rw [hn] at hcount
          exact hcount
        · cases h
      | negSucc n => cases h
    | text s =>
      cases h
      exact .symbol s
    | _ => cases h

/-- A default says what it is. An integer that does not fit into 64 bits says the floating-point number next to it. -/
inductive DefaultValue.IsDefault : Data → DefaultValue → Prop
  | bool (b : Bool) : IsDefault (.bool b) (.bool b)
  | int (i : Int64) : IsDefault (.int i.toInt) (.int i)
  | large {i : Int} : (∀ j : Int64, j.toInt ≠ i) → IsDefault (.int i) (.float (.ofInt i))
  | float (x : Binary64) : IsDefault (.float x) (.float x)
  | text (s : String) : IsDefault (.text s) (.text s)

theorem DefaultValue.isDefault_iff {d : Data} {value : DefaultValue} : IsDefault d value ↔ ofData? d = some value := by
  constructor
  · intro h
    cases h with
    | int i => rw [ofData?, if_pos (fitsSigned_iff.2 ⟨i, rfl⟩), Int64.ofInt_toInt]
    | @large i hi =>
      have hnot : ¬FitsSigned i := fun h => by
        obtain ⟨j, hj⟩ := fitsSigned_iff.1 h
        exact hi j hj
      rw [ofData?, if_neg hnot]
    | _ => rfl
  · intro h
    cases d with
    | int i =>
      cases h
      split
      · rename_i hfits
        obtain ⟨j, rfl⟩ := fitsSigned_iff.1 hfits
        rw [Int64.ofInt_toInt]
        exact .int j
      · rename_i hnot
        exact .large fun j hj => hnot (fitsSigned_iff.2 ⟨j, hj⟩)
    | bool b =>
      cases h
      exact .bool b
    | float x =>
      cases h
      exact .float x
    | text s =>
      cases h
      exact .text s
    | _ => cases h

/-! ## Numbers that are not finite -/

namespace Data

theorem finiteMembers_eq_map (members : List (String × Data)) :
    finiteMembers members = members.map fun m => (m.1, m.2.finite) := by
  induction members with
  | nil => rfl
  | cons m ms ih =>
    rw [finiteMembers, ih]
    rfl

theorem finiteItems_eq_map (items : List Data) : finiteItems items = items.map finite := by
  induction items with
  | nil => rfl
  | cons d ds ih =>
    rw [finiteItems, ih]
    rfl

/-- The second value is the first with `null` in the place of every number that is not finite. -/
inductive IsFinite : Data → Data → Prop
  | null : IsFinite .null .null
  | bool (b : Bool) : IsFinite (.bool b) (.bool b)
  | int (i : Int) : IsFinite (.int i) (.int i)
  | text (s : String) : IsFinite (.text s) (.text s)
  | float {x : Binary64} : x.isFinite = true → IsFinite (.float x) (.float x)
  | leftOut {x : Binary64} : x.isFinite = false → IsFinite (.float x) .null
  | list {items items' : List Data} : List.Forall₂ IsFinite items items' → IsFinite (.list items) (.list items')
  | table {members members' : List (String × Data)} : members.map (·.1) = members'.map (·.1) →
      List.Forall₂ IsFinite (members.map (·.2)) (members'.map (·.2)) → IsFinite (.table members) (.table members')

theorem isFinite_finite (d : Data) : d.IsFinite d.finite := by
  induction d using ind with
  | scalar d hl ht =>
    cases d with
    | null => exact .null
    | bool b => exact .bool b
    | int i => exact .int i
    | text s => exact .text s
    | float x =>
      rw [finite]
      split
      · exact .float ‹_›
      · exact .leftOut (eq_false_of_ne_true ‹_›)
    | list items => exact absurd rfl (hl items)
    | table members => exact absurd rfl (ht members)
  | list items ih =>
    rw [finite, finiteItems_eq_map]
    exact .list (List.forall₂_map_right_iff.2 (List.forall₂_same.2 ih))
  | table members ih =>
    rw [finite, finiteMembers_eq_map]
    refine .table ?_ ?_
    · rw [List.map_map]
      rfl
    · rw [List.map_map, List.forall₂_map_left_iff, List.forall₂_map_right_iff]
      exact List.forall₂_same.2 ih

theorem eq_of_forall₂ {α β : Type} {r : α → β → Prop} {f : α → β} {as : List α} {bs : List β}
    (h : List.Forall₂ r as bs) (hr : ∀ a ∈ as, ∀ b, r a b → b = f a) : bs = as.map f := by
  induction h with
  | nil => rfl
  | cons hab _ ih =>
    obtain ⟨ha, has⟩ := List.forall_mem_cons.1 hr
    rw [ha _ hab, ih has, List.map_cons]

theorem IsFinite.eq_finite {d d' : Data} (h : d.IsFinite d') : d' = d.finite := by
  induction d using ind generalizing d' with
  | scalar d hl ht =>
    cases h with
    | float hx => rw [finite, if_pos hx]
    | leftOut hx => rw [finite, if_neg (ne_true_of_eq_false hx)]
    | list _ => exact absurd rfl (hl _)
    | table _ _ => exact absurd rfl (ht _)
    | _ => rfl
  | list items ih =>
    cases h with
    | list hitems => rw [finite, finiteItems_eq_map, eq_of_forall₂ hitems fun d hd d' hd' => ih d hd hd']
  | table members ih =>
    cases h with
    | table hnames hvalues =>
      have hvalues := eq_of_forall₂ hvalues (List.forall_mem_map.2 fun m hm d' hd' => ih m hm hd')
      -- members are known by their names and their values
      rw [finite, finiteMembers_eq_map, List.zip_of_prod hnames.symm hvalues]
      have hmembers : (members.map fun m => (m.1, m.2.finite)) =
          (members.map (·.1)).zip ((members.map (·.2)).map finite) := by
        refine List.zip_of_prod ?_ ?_
        · rw [List.map_map]
          rfl
        · rw [List.map_map, List.map_map]
          rfl
      rw [hmembers]

theorem isFinite_iff {d d' : Data} : d.IsFinite d' ↔ d' = d.finite :=
  ⟨IsFinite.eq_finite, fun h => h ▸ isFinite_finite d⟩

theorem IsJson.finite {d : Data} (h : d.IsJson) : d.finite.IsJson := by
  induction d using ind with
  | scalar d hl ht =>
    cases d with
    | float x =>
      rw [Data.finite]
      split <;> rfl
    | list items => exact absurd rfl (hl items)
    | table members => exact absurd rfl (ht members)
    | _ => exact h
  | list items ih =>
    have hitems := isJson_list.1 h
    rw [Data.finite, finiteItems_eq_map, isJson_list]
    exact List.forall_mem_map.2 fun d hd => ih d hd (hitems d hd)
  | table members ih =>
    obtain ⟨hordered, hmembers⟩ := isJson_table.1 h
    rw [Data.finite, finiteMembers_eq_map, isJson_table]
    exact ⟨List.pairwise_map.2 hordered, List.forall_mem_map.2 fun m hm => ih m hm (hmembers m hm)⟩

end Data

end Bindings
