import Bindings.Proofs.Config.Values
import Bindings.Proofs.Record
import Bindings.Proofs.Toml.Document

/-!
# Fields of a configuration

A configuration is a tree of records and of tables of any names. `Data.at?` and `Data.under?` say what stands in them for
a name, `Data.Reads` that a value is read from what stands there.

* `Data.at?_eq_lookup`: the place of a field is where it is looked up.
* `Data.reads_of_nullable`, `Data.reads_of_optional_table`: a field that is read is read from its own place.
-/

namespace Bindings

open Record

/-! ## Places -/

namespace Data

/-- What stands in a record for a field: under its name in a table, in its place in a list. -/
def at? (fields : List String) (d : Data) (name : String) : Option Data :=
  match d with
  | .table members => members.lookup name
  | .list items => (fields.zip items).lookup name
  | _ => none

/-- What stands under a name in a table of any names. -/
def under? (name : String) : Data → Option Data
  | .table members => members.lookup name
  | _ => none

/-- A value is read from what stands at a place, and is absent when nothing does. -/
abbrev Reads {α : Type} (read : Data → Option α) : Option Data → Option α → Prop :=
  Option.Rel fun d a => read d = some a

end Data

/-! ## Looking fields up -/

section Lookup

variable {members : List (String × Data)} {name : String}

theorem nodup_of_ordered (h : Ordered members) : (members.map (·.1)).Nodup := by
  refine List.pairwise_map.2 (List.Pairwise.imp ?_ h)
  intro a b hlt heq
  exact String.lt_irrefl _ (heq ▸ hlt)

theorem zip_names_sublist (fields : List String) (items : List Data) :
    ((fields.zip items).map (·.1)).Sublist fields := by
  induction fields generalizing items with
  | nil => exact List.Sublist.slnil
  | cons f fs ih =>
    cases items with
    | nil => exact List.nil_sublist _
    | cons d ds => exact (ih ds).cons_cons f

theorem nodup_of_record? {fields : List String} {d : Data} (hfields : fields.Nodup) (hd : d.IsToml)
    (h : d.record? fields = some members) : (members.map (·.1)).Nodup := by
  unfold Data.record? at h
  split at h
  · cases h
    exact nodup_of_ordered (Data.isToml_table.1 hd).1
  · cases h
    exact hfields.sublist (zip_names_sublist _ _)
  · cases h

theorem isToml_of_record? {fields : List String} {d : Data} (hd : d.IsToml) (h : d.record? fields = some members) :
    ∀ m ∈ members, m.2.IsToml := by
  unfold Data.record? at h
  split at h
  · cases h
    exact (Data.isToml_table.1 hd).2
  · cases h
    exact fun m hm => Data.isToml_list.1 hd m.2 (List.of_mem_zip hm).2
  · cases h

/-- A name that is given at most once is found where it is looked up. -/
theorem member?_eq_lookup (h : (members.map (·.1)).Nodup) : member? [name] members = some (members.lookup name) := by
  induction members with
  | nil => rfl
  | cons m rest ih =>
    obtain ⟨n, d⟩ := m
    obtain ⟨hn, hrest⟩ := List.nodup_cons.1 h
    rw [lookup_entry_cons]
    by_cases heq : name = n
    · subst heq
      have hany : rest.any ([name].contains ·.1) = false := by
        refine List.any_eq_false.2 fun m hm hc => hn ?_
        exact List.mem_map.2 ⟨m, hm, List.mem_singleton.1 (List.contains_iff_mem.1 hc)⟩
      rw [member?_cons_of_mem (List.mem_singleton_self name), hany, if_pos rfl]
      rfl
    · rw [member?_cons_of_notMem fun h => heq (List.mem_singleton.1 h).symm, if_neg heq, ih hrest]

end Lookup

/-! ## What is read of them -/

namespace Data

theorem lookup_of_forall₂ {α : Type} {read : Data → Option α} {members : List (String × Data)}
    {entries : List (String × α)} (h : List.Forall₂ (fun m e => (read m.2).map (m.1, ·) = some e) members entries)
    (name : String) : entries.lookup name = (members.lookup name).bind read := by
  induction h with
  | nil => rfl
  | @cons m e ms es hread _ ih =>
    obtain ⟨n, d⟩ := m
    obtain ⟨a, ha, rfl⟩ := Option.map_eq_some_iff.1 hread
    rw [lookup_entry_cons, lookup_entry_cons, ih]
    split
    · exact ha.symm
    · rfl

theorem ordered_of_forall₂ {α : Type} {read : Data → Option α} {members : List (String × Data)}
    {entries : List (String × α)} (h : List.Forall₂ (fun m e => (read m.2).map (m.1, ·) = some e) members entries)
    (ho : Ordered members) : Ordered entries := by
  have hnames : entries.map (·.1) = members.map (·.1) := by
    clear ho
    induction h with
    | nil => rfl
    | cons hread _ ih =>
      obtain ⟨a, _, rfl⟩ := Option.map_eq_some_iff.1 hread
      rw [List.map_cons, List.map_cons, ih]
  have hlt : (entries.map (·.1)).Pairwise (· < ·) := by
    rw [hnames]
    exact List.pairwise_map.2 ho
  exact List.pairwise_map.1 hlt

/-- A table has under each name what is read of the value there. -/
theorem get?_of_table? {α : Type} {read : Data → Option α} {members : List (String × Data)} {t : Table α}
    (ho : Ordered members) (h : (table members).table? read = some t) (name : String) :
    t.get? name = (members.lookup name).bind read := by
  obtain ⟨entries, hentries, rfl⟩ := Option.map_eq_some_iff.1 h
  have hread := mapM_eq_some_iff.1 hentries
  rw [Table.get?, entries_ofList (ordered_of_forall₂ hread ho), lookup_of_forall₂ hread]

variable {α : Type} {read : Data → Option α} {members : List (String × Data)} {name parameter : String}

theorem reads_of_nullable (hnodup : (members.map (·.1)).Nodup) (htoml : ∀ m ∈ members, m.2.IsToml) {value : Option α}
    (h : optional [name] none (nullable? read) members = some value) : Reads read (members.lookup name) value := by
  rw [Record.optional, member?_eq_lookup hnodup] at h
  cases hd : members.lookup name with
  | none =>
    rw [hd] at h
    cases h
    exact .none
  | some d =>
    rw [hd] at h
    have hnull : d ≠ .null := (htoml _ (mem_of_lookup hd)).ne_null
    have hread : (read d).map some = some value := by
      cases d with
      | null => exact absurd rfl hnull
      | _ => exact h
    obtain ⟨a, ha, rfl⟩ := Option.map_eq_some_iff.1 hread
    exact .some ha

theorem reads_of_table? {d : Data} (hd : d.IsToml) {t : Table α} (h : d.table? read = some t) :
    Reads read (d.under? name) (t.get? name) := by
  cases d with
  | table members =>
    rw [get?_of_table? (isToml_table.1 hd).1 h, under?]
    cases hd : members.lookup name with
    | none => exact .none
    | some d =>
      obtain ⟨entries, hentries, _⟩ := Option.map_eq_some_iff.1 h
      obtain ⟨e, _, he⟩ := exists_of_mapM_left hentries (mem_of_lookup hd)
      obtain ⟨a, ha, _⟩ := Option.map_eq_some_iff.1 he
      rw [Option.bind_some, ha]
      exact .some ha
  | _ => cases h

theorem reads_of_optional_table (hnodup : (members.map (·.1)).Nodup) (htoml : ∀ m ∈ members, m.2.IsToml) {t : Table α}
    (h : optional [name] .empty (table? read) members = some t) :
    Reads read ((members.lookup name).bind (under? parameter)) (t.get? parameter) := by
  rw [Record.optional, member?_eq_lookup hnodup] at h
  cases hd : members.lookup name with
  | none =>
    rw [hd] at h
    cases h
    exact .none
  | some d =>
    rw [hd] at h
    exact reads_of_table? (htoml _ (mem_of_lookup hd)) h

theorem isToml_of_under? {d e : Data} (hd : d.IsToml) (h : d.under? name = some e) : e.IsToml := by
  cases d with
  | table members => exact (isToml_table.1 hd).2 _ (mem_of_lookup h)
  | _ => cases h

theorem isToml_of_at? {fields : List String} {d e : Data} (hd : d.IsToml) (h : d.at? fields name = some e) :
    e.IsToml := by
  cases d with
  | table members => exact (isToml_table.1 hd).2 _ (mem_of_lookup h)
  | list items => exact isToml_list.1 hd e (List.of_mem_zip (mem_of_lookup h)).2
  | _ => cases h

theorem at?_eq_lookup {fields : List String} {d : Data} (h : d.record? fields = some members) (name : String) :
    d.at? fields name = members.lookup name := by
  cases d <;> cases h <;> rfl

end Data

end Bindings
