import Bindings.Table

/-!
# Entries and names of a table

* `mem_of_lookup`, `lookup_of_mem`: the entries of a table are its look-ups.
* `place_eq_append`: an entry is put where the old one of its name was, between the others.
* `lookup_map`, `map_place`: changing the values of all entries.
* `Table.names_erase`, `Table.isEmpty_eq`: which names are left when one is removed, and that a table without names is
  empty.
-/

namespace Bindings

section Place

variable {α : Type} {name : String} {value : α} {entries : List (String × α)}

theorem mem_of_lookup (h : entries.lookup name = some value) : (name, value) ∈ entries := by
  obtain ⟨_, _, rfl, _⟩ := List.lookup_eq_some_iff.1 h
  exact List.mem_append_right _ List.mem_cons_self

theorem lookup_of_mem (ho : Ordered entries) {e : String × α} (h : e ∈ entries) : entries.lookup e.1 = some e.2 := by
  induction entries with
  | nil => cases h
  | cons p rest ih =>
    obtain ⟨n, v⟩ := p
    obtain ⟨hn, hrest⟩ := List.pairwise_cons.1 ho
    rw [lookup_entry_cons]
    rcases List.mem_cons.1 h with rfl | h
    · rw [if_pos rfl]
    · rw [if_neg fun heq => String.lt_irrefl _ (heq ▸ hn e h), ih hrest h]

/-- An entry stands between the entries of smaller and of greater names, in place of the old one. -/
theorem place_eq_append (name : String) (value : α) (ho : Ordered entries) :
    ∃ smaller greater, entries = smaller ++ (((entries.lookup name).map (name, ·)).toList ++ greater) ∧
      place name value entries = smaller ++ (name, value) :: greater := by
  induction entries with
  | nil => exact ⟨[], [], rfl, rfl⟩
  | cons p rest ih =>
    obtain ⟨n, v⟩ := p
    obtain ⟨hn, hrest⟩ := List.pairwise_cons.1 ho
    rw [place, lookup_entry_cons]
    by_cases heq : name = n
    · subst heq
      refine ⟨[], rest, ?_, ?_⟩
      · rw [if_pos rfl]
        rfl
      · rw [if_neg (String.lt_irrefl name), if_pos rfl]
        rfl
    · rw [if_neg heq, if_neg heq]
      split
      · rename_i hlt
        have hnone : rest.lookup name = none := lookup_eq_none_of_lt fun e he => String.lt_trans hlt (hn e he)
        refine ⟨[], (n, v) :: rest, ?_, rfl⟩
        rw [hnone]
        rfl
      · obtain ⟨smaller, greater, hentries, hplace⟩ := ih hrest
        refine ⟨(n, v) :: smaller, greater, ?_, ?_⟩
        · rw [List.cons_append, ← hentries]
        · rw [hplace]
          rfl

end Place

section Map

variable {α β : Type} (f : String → α → β) (name : String) (entries : List (String × α))

theorem lookup_map : (entries.map fun e => (e.1, f e.1 e.2)).lookup name = (entries.lookup name).map (f name) := by
  induction entries with
  | nil => rfl
  | cons p rest ih =>
    obtain ⟨n, v⟩ := p
    rw [List.map_cons, lookup_entry_cons, lookup_entry_cons, ih]
    by_cases h : name = n
    · rw [if_pos h, if_pos h, h, Option.map_some]
    · rw [if_neg h, if_neg h]

theorem map_place (value : α) :
    (place name value entries).map (fun e => (e.1, f e.1 e.2)) =
      place name (f name value) (entries.map fun e => (e.1, f e.1 e.2)) := by
  induction entries with
  | nil => rfl
  | cons p rest ih =>
    obtain ⟨n, v⟩ := p
    rw [place, List.map_cons, place]
    split
    · rfl
    · split
      · rfl
      · rw [List.map_cons, ih]

end Map

namespace Table

variable {α : Type}

theorem names_erase (t : Table α) (name : String) : (t.erase name).names = t.names.filter (· != name) := by
  simp only [names, erase, List.filter_map]
  rfl

theorem isEmpty_eq (t : Table α) : t.isEmpty = t.names.isEmpty := by
  simp [isEmpty, names]

end Table

end Bindings
