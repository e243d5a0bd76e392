import Bindings.Data
import Bindings.Proofs.Table
import Mathlib.Data.List.Induction

/-!
# Values and what they are made of

A value is a tree of lists and tables. `Data.all` asks something of every node of it, `Data.depth` counts how its
containers nest.

* `Data.IsJson`: integers of 64 bits, and tables whose names are increasing. Every value that is read is of this kind.
* `Data.IsToml`: the same without `null`. Every value of a configuration is of this kind.
* `Data.FloatFree`: no floating-point number in it.
* `Data.object_entries`: a table whose names are increasing is left as it is.
-/

namespace Bindings.Data

/-! ## Induction -/

section Induction

variable {motive : Data → Prop}

mutual

/-- A property that passes from the parts of a list or a table to the whole holds of every value. -/
theorem ind (scalar : ∀ d, (∀ items, d ≠ .list items) → (∀ members, d ≠ .table members) → motive d)
    (list : ∀ items, (∀ d ∈ items, motive d) → motive (.list items))
    (table : ∀ members, (∀ m ∈ members, motive m.2) → motive (.table members)) : ∀ d, motive d
  | .null => scalar _ nofun nofun
  | .bool _ => scalar _ nofun nofun
  | .int _ => scalar _ nofun nofun
  | .float _ => scalar _ nofun nofun
  | .text _ => scalar _ nofun nofun
  | .list items => list items (indItems scalar list table items)
  | .table members => table members (indMembers scalar list table members)

theorem indItems (scalar : ∀ d, (∀ items, d ≠ .list items) → (∀ members, d ≠ .table members) → motive d)
    (list : ∀ items, (∀ d ∈ items, motive d) → motive (.list items))
    (table : ∀ members, (∀ m ∈ members, motive m.2) → motive (.table members)) :
    ∀ items : List Data, ∀ d ∈ items, motive d
  | [] => nofun
  | d :: ds => List.forall_mem_cons.2 ⟨ind scalar list table d, indItems scalar list table ds⟩

theorem indMembers (scalar : ∀ d, (∀ items, d ≠ .list items) → (∀ members, d ≠ .table members) → motive d)
    (list : ∀ items, (∀ d ∈ items, motive d) → motive (.list items))
    (table : ∀ members, (∀ m ∈ members, motive m.2) → motive (.table members)) :
    ∀ members : List (String × Data), ∀ m ∈ members, motive m.2
  | [] => nofun
  | (_, d) :: ms => List.forall_mem_cons.2 ⟨ind scalar list table d, indMembers scalar list table ms⟩

end

end Induction

/-! ## Every node -/

mutual

/-- A value and all values in it satisfy `p`. -/
def all (p : Data → Bool) : Data → Bool
  | .list items => p (.list items) && allItems p items
  | .table members => p (.table members) && allMembers p members
  | d => p d

def allItems (p : Data → Bool) : List Data → Bool
  | [] => true
  | d :: ds => all p d && allItems p ds

def allMembers (p : Data → Bool) : List (String × Data) → Bool
  | [] => true
  | (_, d) :: ms => all p d && allMembers p ms

end

section All

variable {p q : Data → Bool}

theorem allItems_iff {items : List Data} : allItems p items ↔ ∀ d ∈ items, d.all p := by
  induction items with
  | nil => simp [allItems]
  | cons d ds ih => simp [allItems, ih]

theorem allMembers_iff {members : List (String × Data)} : allMembers p members ↔ ∀ m ∈ members, m.2.all p := by
  induction members with
  | nil => simp [allMembers]
  | cons m ms ih => simp [allMembers, ih]

@[simp] theorem all_list {items : List Data} :
    (Data.list items).all p = true ↔ p (.list items) ∧ ∀ d ∈ items, d.all p := by
  simp [all, allItems_iff]

@[simp] theorem all_table {members : List (String × Data)} :
    (Data.table members).all p = true ↔ p (.table members) ∧ ∀ m ∈ members, m.2.all p := by
  simp [all, allMembers_iff]

@[simp] theorem all_null : Data.null.all p = p .null := rfl

@[simp] theorem all_bool (b : Bool) : (Data.bool b).all p = p (.bool b) := rfl

@[simp] theorem all_int (i : Int) : (Data.int i).all p = p (.int i) := rfl

@[simp] theorem all_float (x : Binary64) : (Data.float x).all p = p (.float x) := rfl

@[simp] theorem all_text (s : String) : (Data.text s).all p = p (.text s) := rfl

theorem all_ofOption {α : Type} {toData : α → Data} {value : Option α} (hnull : p .null)
    (hvalue : ∀ a ∈ value, (toData a).all p) : (ofOption toData value).all p := by
  cases value with
  | none => exact hnull
  | some a => exact hvalue a rfl

theorem all_mono (hpq : ∀ d, p d → q d) {d : Data} (h : d.all p) : d.all q := by
  induction d using ind with
  | scalar d hl ht =>
    cases d with
    | list items => exact absurd rfl (hl items)
    | table members => exact absurd rfl (ht members)
    | _ => exact hpq _ h
  | list items ih =>
    obtain ⟨hp, hitems⟩ := all_list.1 h
    exact all_list.2 ⟨hpq _ hp, fun d hd => ih d hd (hitems d hd)⟩
  | table members ih =>
    obtain ⟨hp, hmembers⟩ := all_table.1 h
    exact all_table.2 ⟨hpq _ hp, fun m hm => ih m hm (hmembers m hm)⟩

theorem all_and {d : Data} (hp : d.all p) (hq : d.all q) : d.all fun d => p d && q d := by
  induction d using ind with
  | scalar d hl ht =>
    cases d with
    | list items => exact absurd rfl (hl items)
    | table members => exact absurd rfl (ht members)
    | _ => exact Bool.and_eq_true_iff.2 ⟨hp, hq⟩
  | list items ih =>
    obtain ⟨hp, hitems⟩ := all_list.1 hp
    obtain ⟨hq, hitems'⟩ := all_list.1 hq
    exact all_list.2 ⟨by simp [hp, hq], fun d hd => ih d hd (hitems d hd) (hitems' d hd)⟩
  | table members ih =>
    obtain ⟨hp, hmembers⟩ := all_table.1 hp
    obtain ⟨hq, hmembers'⟩ := all_table.1 hq
    exact all_table.2 ⟨by simp [hp, hq], fun m hm => ih m hm (hmembers m hm) (hmembers' m hm)⟩

end All

/-! ## Kinds of values -/

def isFloat : Data → Bool
  | .float _ => true
  | _ => false

/-- An integer of at most 64 bits, with or without a sign. -/
def inRange : Data → Bool
  | .int i => -signedLimit ≤ i ∧ i < unsignedLimit
  | _ => true

/-- What can be written as it is: not a floating-point number, and no integer of more than 64 bits. -/
def isExact (d : Data) : Bool :=
  d.inRange && !d.isFloat

/-- A table whose names are increasing. -/
def isOrdered : Data → Bool
  | .table members => decide (Ordered members)
  | _ => true

def isNull : Data → Bool
  | .null => true
  | _ => false

/-- A value without floating-point numbers. -/
def FloatFree (d : Data) : Prop :=
  d.all (!·.isFloat)

/-- A value as it is read: integers of at most 64 bits, and tables whose names are increasing. -/
def IsJson (d : Data) : Prop :=
  d.all fun d => d.inRange && d.isOrdered

/-- A value as a configuration has it: as it is read, and without `null`. -/
def IsToml (d : Data) : Prop :=
  d.all fun d => d.inRange && d.isOrdered && !d.isNull

instance (d : Data) : Decidable d.FloatFree :=
  inferInstanceAs (Decidable (d.all _ = true))

instance (d : Data) : Decidable d.IsJson :=
  inferInstanceAs (Decidable (d.all _ = true))

theorem isJson_list {items : List Data} : (Data.list items).IsJson ↔ ∀ d ∈ items, d.IsJson := by
  simp [IsJson, inRange, isOrdered]

theorem isJson_table {members : List (String × Data)} :
    (Data.table members).IsJson ↔ Ordered members ∧ ∀ m ∈ members, m.2.IsJson := by
  simp [IsJson, inRange, isOrdered]

theorem isToml_list {items : List Data} : (Data.list items).IsToml ↔ ∀ d ∈ items, d.IsToml := by
  simp [IsToml, inRange, isOrdered, isNull]

theorem isToml_table {members : List (String × Data)} :
    (Data.table members).IsToml ↔ Ordered members ∧ ∀ m ∈ members, m.2.IsToml := by
  simp [IsToml, inRange, isOrdered, isNull]

theorem IsToml.isJson {d : Data} (h : d.IsToml) : d.IsJson :=
  all_mono (fun _ hd => (Bool.and_eq_true_iff.1 hd).1) h

theorem IsToml.ne_null {d : Data} (h : d.IsToml) : d ≠ .null := by
  rintro rfl
  cases h

theorem all_inRange_count {n : Nat} (h : n < unsignedLimit) : (Data.int n).all inRange := by
  rw [all_int, inRange]
  exact decide_eq_true ⟨by omega, by omega⟩

theorem IsJson.all_inRange {d : Data} (h : d.IsJson) : d.all inRange := by
  refine all_mono (fun d hd => ?_) h
  exact (Bool.and_eq_true_iff.1 hd).1

theorem all_isExact {d : Data} (hrange : d.all inRange) (hfloat : d.FloatFree) : d.all isExact :=
  all_and hrange hfloat

theorem all_inRange_ofOption {value : Option Data} (h : ∀ d ∈ value, d.IsJson) : (ofOption id value).all inRange :=
  all_ofOption rfl fun d hd => (h d hd).all_inRange

@[simp] theorem all_inRange_ofOption_text (value : Option String) : (ofOption .text value).all inRange :=
  all_ofOption rfl fun _ _ => rfl

/-- `null` stands for a value that is absent. -/
def present : Option Data → Option Data
  | some .null => none
  | value => value

/-! ## Nesting -/

mutual

/-- How many containers nest in a value. -/
def depth : Data → Nat
  | .list items => depthOfItems items + 1
  | .table members => depthOfMembers members + 1
  | _ => 0

def depthOfItems : List Data → Nat
  | [] => 0
  | d :: ds => max (depth d) (depthOfItems ds)

def depthOfMembers : List (String × Data) → Nat
  | [] => 0
  | (_, d) :: ms => max (depth d) (depthOfMembers ms)

end

theorem depth_list_le_iff {items : List Data} {n : Nat} :
    (Data.list items).depth ≤ n + 1 ↔ ∀ d ∈ items, d.depth ≤ n := by
  have hitems : ∀ ds : List Data, depthOfItems ds ≤ n ↔ ∀ d ∈ ds, d.depth ≤ n := by
    intro ds
    induction ds with
    | nil => simp [depthOfItems]
    | cons d ds ih => rw [depthOfItems, Nat.max_le, ih, List.forall_mem_cons]
  simp [depth, hitems]

theorem depth_table_le_iff {members : List (String × Data)} {n : Nat} :
    (Data.table members).depth ≤ n + 1 ↔ ∀ m ∈ members, m.2.depth ≤ n := by
  have hmembers : ∀ ms : List (String × Data), depthOfMembers ms ≤ n ↔ ∀ m ∈ ms, m.2.depth ≤ n := by
    intro ms
    induction ms with
    | nil => simp [depthOfMembers]
    | cons m ms ih => rw [depthOfMembers, Nat.max_le, ih, List.forall_mem_cons]
  simp [depth, hmembers]

theorem depth_item_le {α : Type} {toData : α → Data} {items : List α} {n : Nat}
    (h : (Data.list (items.map toData)).depth ≤ n + 1) {a : α} (ha : a ∈ items) : (toData a).depth ≤ n :=
  depth_list_le_iff.1 h _ (List.mem_map_of_mem ha)

theorem depth_member_le {members : List (String × Data)} {n : Nat} (h : (Data.table members).depth ≤ n + 1)
    (name : String) {d : Data} (hd : members.lookup name = some d) : d.depth ≤ n :=
  depth_table_le_iff.1 h _ (mem_of_lookup hd)

/-- Two containers enclose the records of a list in a record. -/
theorem depth_record_le {α : Type} {toData : α → Data} {members : List (String × Data)} {items : List α} {n : Nat}
    (h : (Data.table members).depth ≤ n + 2) (name : String)
    (hd : members.lookup name = some (.list (items.map toData))) {a : α} (ha : a ∈ items) : (toData a).depth ≤ n :=
  depth_item_le (depth_member_le h name hd) ha

/-! ## Tables of free shape -/

theorem place_append_of_lt {α : Type} {name : String} {value : α} {entries : List (String × α)}
    (h : ∀ e ∈ entries, e.1 < name) : place name value entries = entries ++ [(name, value)] := by
  induction entries with
  | nil => rfl
  | cons e rest ih =>
    have he : e.1 < name := h e List.mem_cons_self
    rw [place, if_neg (String.lt_asymm he), if_neg fun heq => String.lt_irrefl _ (heq ▸ he),
      ih fun e' he' => h e' (List.mem_cons_of_mem _ he')]
    rfl

/-- Entries that are in order make up the table that is made of them. -/
theorem entries_ofList {α : Type} {entries : List (String × α)} (h : Ordered entries) :
    (Table.ofList entries).entries = entries := by
  induction entries using List.reverseRecOn with
  | nil => rfl
  | append_singleton rest e ih =>
    obtain ⟨hrest, _, hlt⟩ := List.pairwise_append.1 h
    rw [Table.ofList, List.foldl_append]
    show place e.1 e.2 (Table.ofList rest).entries = _
    rw [ih hrest]
    exact place_append_of_lt fun e' he' => hlt e' he' e (by simp)

theorem object_of_ordered {members : List (String × Data)} (h : Ordered members) : object members = .table members := by
  rw [object, entries_ofList h]

/-- The values of a table of free shape are among those it is made of. -/
theorem mem_of_mem_ofList {α : Type} {entries : List (String × α)} {e : String × α}
    (h : e ∈ (Table.ofList entries).entries) : e ∈ entries := by
  induction entries using List.reverseRecOn with
  | nil => cases h
  | append_singleton rest e' ih =>
    rw [Table.ofList, List.foldl_append] at h
    rcases mem_place h with rfl | h
    · simp
    · exact List.mem_append_left _ (ih h)

theorem isJson_object {members : List (String × Data)} (h : ∀ m ∈ members, m.2.IsJson) : (object members).IsJson :=
  isJson_table.2 ⟨(Table.ofList members).ordered, fun m hm => h m (mem_of_mem_ofList hm)⟩

theorem isToml_object {members : List (String × Data)} (h : ∀ m ∈ members, m.2.IsToml) : (object members).IsToml :=
  isToml_table.2 ⟨(Table.ofList members).ordered, fun m hm => h m (mem_of_mem_ofList hm)⟩

end Bindings.Data
