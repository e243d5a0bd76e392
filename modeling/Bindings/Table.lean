/-!
# Tables

A `Table` maps names to values and keeps its entries in increasing order of name, so that two tables with the same
entries are equal. Names are ordered by code point.

* `get?_insert`, `get?_erase`: what insertion and removal do to the look-up.
* `ext`: a table is determined by its look-ups.
-/

namespace Bindings

/-- Put an entry into a list in increasing order of name; an entry of the same name is replaced. -/
def place {α : Type} (name : String) (value : α) : List (String × α) → List (String × α)
  | [] => [(name, value)]
  | (n, v) :: rest =>
    if name < n then (name, value) :: (n, v) :: rest
    else if name = n then (name, value) :: rest
    else (n, v) :: place name value rest

/-- Strictly increasing names. -/
abbrev Ordered {α : Type} (entries : List (String × α)) : Prop :=
  entries.Pairwise fun a b => a.1 < b.1

section Place
variable {α : Type}

theorem mem_place {name : String} {value : α} {entries : List (String × α)} {e : String × α}
    (h : e ∈ place name value entries) : e = (name, value) ∨ e ∈ entries := by
  induction entries with
  | nil => simpa [place] using h
  | cons p rest ih =>
    obtain ⟨n, v⟩ := p
    rw [place] at h
    split at h
    · simpa using h
    · split at h
      · rcases List.mem_cons.1 h with h | h
        · exact .inl h
        · exact .inr (List.mem_cons_of_mem _ h)
      · rcases List.mem_cons.1 h with h | h
        · exact .inr (h ▸ List.mem_cons_self)
        · exact (ih h).imp id (List.mem_cons_of_mem _)

theorem ordered_place (name : String) (value : α) {entries : List (String × α)} (h : Ordered entries) :
    Ordered (place name value entries) := by
  induction entries with
  | nil => simp [place]
  | cons p rest ih =>
    obtain ⟨n, v⟩ := p
    obtain ⟨hn, hrest⟩ := List.pairwise_cons.1 h
    rw [place]
    split
    · rename_i hlt
      refine List.pairwise_cons.2 ⟨fun e he => ?_, h⟩
      rcases List.mem_cons.1 he with rfl | he
      · exact hlt
      · exact String.lt_trans hlt (hn e he)
    · split
      · rename_i heq
        subst heq
        exact List.pairwise_cons.2 ⟨hn, hrest⟩
      · rename_i hlt hne
        refine List.pairwise_cons.2 ⟨fun e he => ?_, ih hrest⟩
        rcases mem_place he with rfl | he
        · rcases Std.lt_trichotomy name n with h' | h' | h'
          · exact absurd h' hlt
          · exact absurd h' hne
          · exact h'
        · exact hn e he

theorem lookup_entry_cons (name : String) (value : α) (entries : List (String × α)) (n : String) :
    ((name, value) :: entries).lookup n = if n = name then some value else entries.lookup n := by
  rw [List.lookup_cons]
  by_cases h : n = name
  · simp [h]
  · rw [if_neg h, beq_false_of_ne h]

theorem lookup_place (name : String) (value : α) (entries : List (String × α)) (n : String) :
    (place name value entries).lookup n = if n = name then some value else entries.lookup n := by
  induction entries with
  | nil => rw [place, lookup_entry_cons]
  | cons p rest ih =>
    obtain ⟨k, v⟩ := p
    rw [place]
    split
    · rw [lookup_entry_cons]
    · split
      · rename_i heq
        subst heq
        rw [lookup_entry_cons, lookup_entry_cons]
        split <;> rfl
      · rename_i hne
        rw [lookup_entry_cons, lookup_entry_cons, ih]
        by_cases h : n = k
        · rw [if_pos h, if_pos h, if_neg fun hn => hne (hn.symm.trans h)]
        · rw [if_neg h, if_neg h]

theorem lookup_filter_ne (name : String) (entries : List (String × α)) (n : String) :
    (entries.filter (·.1 != name)).lookup n = if n = name then none else entries.lookup n := by
  induction entries with
  | nil => simp
  | cons p rest ih =>
    obtain ⟨k, v⟩ := p
    by_cases hk : k = name
    · rw [List.filter_cons_of_neg (by simp [hk]), ih, lookup_entry_cons]
      split
      · rfl
      · rw [if_neg (hk ▸ ‹_›)]
    · rw [List.filter_cons_of_pos (by simp [hk]), lookup_entry_cons, lookup_entry_cons, ih]
      by_cases h : n = k
      · rw [if_pos h, if_pos h, if_neg fun hn => hk (h.symm.trans hn)]
      · rw [if_neg h, if_neg h]

/-- A name below all names of a list has no entry in it. -/
theorem lookup_eq_none_of_lt {entries : List (String × α)} {n : String} (h : ∀ e ∈ entries, n < e.1) :
    entries.lookup n = none := by
  refine List.lookup_eq_none_iff.2 fun e he => ?_
  have : n ≠ e.1 := fun heq => String.lt_irrefl _ (heq ▸ h e he)
  simpa using this

theorem eq_of_lookup_eq {as : List (String × α)} (ha : Ordered as) :
    ∀ {bs : List (String × α)}, Ordered bs → (∀ n, as.lookup n = bs.lookup n) → as = bs := by
  induction as with
  | nil =>
    intro bs hb h
    match bs with
    | [] => rfl
    | (n, v) :: bs => exact absurd (h n) (by simp)
  | cons p as ih =>
    intro bs hb h
    obtain ⟨n, v⟩ := p
    match bs, hb, h with
    | [], _, h => exact absurd (h n) (by simp)
    | (m, w) :: bs, hb, h =>
      obtain ⟨hna, hta⟩ := List.pairwise_cons.1 ha
      obtain ⟨hmb, htb⟩ := List.pairwise_cons.1 hb
      have hnm : n = m := by
        rcases Std.lt_trichotomy n m with hlt | heq | hgt
        · have hb' : ∀ e ∈ (m, w) :: bs, n < e.1 := by
            intro e he
            rcases List.mem_cons.1 he with rfl | he
            · exact hlt
            · exact String.lt_trans hlt (hmb e he)
          have := h n
          rw [lookup_eq_none_of_lt hb', lookup_entry_cons, if_pos rfl] at this
          cases this
        · exact heq
        · have ha' : ∀ e ∈ (n, v) :: as, m < e.1 := by
            intro e he
            rcases List.mem_cons.1 he with rfl | he
            · exact hgt
            · exact String.lt_trans hgt (hna e he)
          have := h m
          rw [lookup_eq_none_of_lt ha', lookup_entry_cons, if_pos rfl] at this
          cases this
      subst hnm
      have hvw : v = w := by simpa [lookup_entry_cons] using h n
      have hrest : ∀ k, as.lookup k = bs.lookup k := by
        intro k
        by_cases hk : k = n
        · rw [hk, lookup_eq_none_of_lt hna, lookup_eq_none_of_lt hmb]
        · simpa [lookup_entry_cons, hk] using h k
      rw [hvw, ih hta htb hrest]

end Place

/-- A finite map from names to values. -/
structure Table (α : Type) where
  entries : List (String × α)
  ordered : Ordered entries

namespace Table
variable {α β : Type}

def empty : Table α := ⟨[], List.Pairwise.nil⟩

instance : Inhabited (Table α) := ⟨empty⟩

def get? (t : Table α) (name : String) : Option α :=
  t.entries.lookup name

def names (t : Table α) : List String :=
  t.entries.map (·.1)

def isEmpty (t : Table α) : Bool :=
  t.entries.isEmpty

def insert (t : Table α) (name : String) (value : α) : Table α :=
  ⟨place name value t.entries, ordered_place name value t.ordered⟩

/-- The table of the given entries; of two with one name the later counts. -/
def ofList (entries : List (String × α)) : Table α :=
  entries.foldl (fun t e => t.insert e.1 e.2) empty

/-- The table without the entry of the given name. -/
def erase (t : Table α) (name : String) : Table α :=
  ⟨t.entries.filter (·.1 != name), t.ordered.sublist List.filter_sublist⟩

theorem get?_insert (t : Table α) (name : String) (value : α) (n : String) :
    (t.insert name value).get? n = if n = name then some value else t.get? n :=
  lookup_place name value t.entries n

theorem get?_erase (t : Table α) (name n : String) :
    (t.erase name).get? n = if n = name then none else t.get? n :=
  lookup_filter_ne name t.entries n

theorem ext {s t : Table α} (h : ∀ n, s.get? n = t.get? n) : s = t := by
  obtain ⟨as, ha⟩ := s
  obtain ⟨bs, hb⟩ := t
  cases eq_of_lookup_eq ha hb h
  rfl

end Table

end Bindings
