import Bindings.Header.Reader
import Bindings.Header.Writer
import Bindings.Proofs.Json.Document
import Bindings.Proofs.Record

/-!
# Reading written records

A document that writes a table is read field by field: each field that the table has is found under its name, with a
document that writes its value.

* `record?_of_writes`: the members of a document that writes a table.
* `Names.required`, `Names.optional`: a field is read when every document that writes its value is.
* `text?_of_writes`, `flag?_of_writes`, `list?_of_writes`, `nullable?_of_writes`: the values that fields have.
-/

namespace Bindings.Json.Document

open Record

variable {α β : Type}

/-! ## Members -/

/-- Members that write those of a table, in the same order. -/
abbrev Names (ns : List (String × Document)) (vs : List (String × Data)) : Prop :=
  List.Forall₂ (fun n v => n.1 = v.1 ∧ n.2.Writes v.2) ns vs

theorem record?_of_writes {d : Document} {vs : List (String × Data)} (h : d.Writes (.table vs)) (fields : List String) :
    ∃ ns, d.record? fields = some ns ∧ Names ns vs := by
  cases h with
  | @table ms _ h =>
    rw [record?]
    induction vs generalizing ms with
    | nil =>
      cases h
      exact ⟨[], rfl, .nil⟩
    | cons v vs ih =>
      cases h with
      | @cons name d v ms' _ hd h =>
        obtain ⟨ns, hns, hnames⟩ := ih h
        refine ⟨(name, d) :: ns, ?_, .cons ⟨rfl, hd⟩ hnames⟩
        rw [List.mapM_cons, hns]
        rfl

namespace Names

variable {ns : List (String × Document)} {vs : List (String × Data)} {v : Data}
  {read : Document → Option α} {a : α}

theorem filter (h : Names ns vs) (names : List String) :
    Names (ns.filter (names.contains ·.1)) (vs.filter (names.contains ·.1)) :=
  List.rel_filter (fun _ _ h => by simp [h.1]) h

theorem member? (h : Names ns vs) {names : List String} (hv : Record.member? names vs = some (some v)) :
    ∃ d, Record.member? names ns = some (some d) ∧ d.Writes v := by
  have hfilter := h.filter names
  unfold Record.member? at hv ⊢
  generalize ns.filter (names.contains ·.1) = as at hfilter
  generalize vs.filter (names.contains ·.1) = bs at hfilter hv
  match as, bs, hfilter, hv with
  | _, [], _, hv => cases hv
  | _, _ :: _ :: _, _, hv => cases hv
  | [a], [b], .cons hab _, hv =>
    cases hv
    exact ⟨a.2, rfl, hab.2⟩

theorem required (h : Names ns vs) (names : List String) (hv : Record.member? names vs = some (some v))
    (hread : ∀ d : Document, d.Writes v → read d = some a) : Record.required names read ns = some a := by
  obtain ⟨d, hd, hw⟩ := h.member? hv
  rw [Record.required, hd]
  exact hread d hw

theorem optional (h : Names ns vs) (names : List String) (hv : Record.member? names vs = some (some v))
    (hread : ∀ d : Document, d.Writes v → read d = some a) (default : α) :
    Record.optional names default read ns = some a := by
  obtain ⟨d, hd, hw⟩ := h.member? hv
  rw [Record.optional, hd]
  exact hread d hw

end Names

/-! ## Values of fields -/

variable {d : Document}

theorem text?_of_writes {s : String} (h : d.Writes (.text s)) : d.text? = some s := by
  cases h
  rfl

theorem flag?_of_writes {b : Bool} (h : d.Writes (.bool b)) : d.flag? = some b := by
  cases h
  rfl

theorem list?_of_writes {read : Document → Option β} {toData : α → Data} (value : α → β) {as : List α}
    (hread : ∀ a ∈ as, ∀ d : Document, d.Writes (toData a) → read d = some (value a))
    (h : d.Writes (.list (as.map toData))) : d.list? read = some (as.map value) := by
  cases h with
  | @list ds _ h =>
    rw [list?]
    induction as generalizing ds with
    | nil =>
      cases h
      rfl
    | cons a as ih =>
      cases h with
      | cons hd h =>
        rw [List.mapM_cons, hread a List.mem_cons_self _ hd, ih (fun a ha => hread a (List.mem_cons_of_mem _ ha)) h]
        rfl

theorem nullable?_of_ne_null (hd : d ≠ .null) (read : Document → Option α) : d.nullable? read = (read d).map some := by
  cases d with
  | null => exact absurd rfl hd
  | _ => rfl

theorem Writes.eq_null (h : d.Writes .null) : d = .null := by
  cases h
  rfl

theorem Writes.ne_null {v : Data} (h : d.Writes v) (hv : v ≠ .null) : d ≠ .null := by
  rintro rfl
  cases h
  exact hv rfl

theorem nullable?_of_writes {read : Document → Option α} {toData : α → Data} {value : Option α}
    (hne : ∀ a, toData a ≠ .null) (hread : ∀ a d, d.Writes (toData a) → read d = some a)
    (h : d.Writes (.ofOption toData value)) : d.nullable? read = some value := by
  cases value with
  | none =>
    rw [h.eq_null]
    rfl
  | some a =>
    rw [nullable?_of_ne_null (h.ne_null (hne a)), hread a d h]
    rfl

/-- A value of free shape comes back, but for `null`, which says that it is absent. -/
theorem nullable?_of_writes_value {value : Option Data} (hvalue : ∀ v ∈ value, v.IsJson) {depth : Nat}
    (hdepth : (Data.ofOption id value).depth ≤ depth) (h : d.Writes (.ofOption id value)) :
    d.nullable? (toData? depth) = some (Data.present value) := by
  have hnull {d : Document} (h : d.Writes .null) : d.nullable? (toData? depth) = some none := by
    rw [h.eq_null]
    rfl
  cases value with
  | none => exact hnull h
  | some v =>
    have hread : d.toData? depth = some v := toData?_of_writes (hvalue v rfl) hdepth h
    cases v with
    | null => exact hnull h
    | _ =>
      rw [nullable?_of_ne_null (h.ne_null nofun), hread]
      rfl

end Bindings.Json.Document

namespace Bindings

open Json

theorem ArraySize.toData_ne_null (size : ArraySize) : size.toData ≠ .null := by
  cases size <;> simp [toData]

theorem ArraySize.ofDocument?_of_writes (size : ArraySize) (d : Document) (h : d.Writes size.toData) :
    ArraySize.ofDocument? d = some size := by
  cases size with
  | count n =>
    cases h with
    | int hn => simp [ofDocument?, hn]
  | symbol name =>
    cases h
    rfl

end Bindings
