import Bindings.Proofs.Files.Path
import Bindings.Files.Tree

/-!
# Changing a file tree

* `Keeps`: directories stay, and so do the files that are not at given locations. It holds of every operation that adds
  to a tree (`keeps_set_file`, `keeps_makeDirectories`).
* `makeAlong_cons_cases`: what one step of making directories can do.
* `write?_join_eq_some_iff`: when a file can be put into a directory, and what the tree is then.
-/

namespace Bindings

namespace FileTree

variable {t u new : FileTree} {l m : List String}

/-! ## Locations -/

/-- There is a directory at a location. -/
def HasDirectory (t : FileTree) (l : List String) : Prop :=
  ∃ entries, t.get? l = some (.directory entries)

/-- There is a file of the given content at a location. -/
def HasFile (t : FileTree) (l : List String) (content : ByteArray) : Prop :=
  t.get? l = some (.file content)

theorem not_hasDirectory_of_get?_eq_none (h : t.get? l = none) : ¬t.HasDirectory l := by
  rintro ⟨entries, hget⟩
  rw [h] at hget
  cases hget

theorem HasFile.not_hasDirectory {content : ByteArray} (h : t.HasFile l content) : ¬t.HasDirectory l := by
  rintro ⟨entries, hget⟩
  rw [HasFile, hget] at h
  cases h

@[simp] theorem get?_nil (t : FileTree) : t.get? [] = some t := by
  cases t <;> rfl

@[simp] theorem get?_file_cons (content : ByteArray) (name : String) (rest : List String) :
    (FileTree.file content).get? (name :: rest) = none := rfl

@[simp] theorem get?_directory_cons (entries : List (String × FileTree)) (name : String) (rest : List String) :
    (FileTree.directory entries).get? (name :: rest) = (entries.lookup name).bind (get? · rest) := rfl

theorem get?_append (t : FileTree) (l m : List String) : t.get? (l ++ m) = (t.get? l).bind (get? · m) := by
  induction l generalizing t with
  | nil => simp
  | cons name rest ih =>
    cases t with
    | file content => rfl
    | directory entries =>
      simp only [List.cons_append, get?_directory_cons, Option.bind_assoc]
      cases entries.lookup name <;> simp [ih]

/-- Below what is no directory there is nothing. -/
theorem get?_append_of_not_hasDirectory (h : ¬t.HasDirectory l) (hm : m ≠ []) : t.get? (l ++ m) = none := by
  obtain ⟨name, rest, rfl⟩ := List.exists_cons_of_ne_nil hm
  rw [get?_append]
  cases hget : t.get? l with
  | none => rfl
  | some u =>
    cases u with
    | file content => rfl
    | directory entries => exact absurd ⟨entries, hget⟩ h

/-! ## Putting a tree at a location -/

@[simp] theorem set_nil (t new : FileTree) : t.set [] new = new := by
  cases t <;> rfl

@[simp] theorem set_file_cons (content : ByteArray) (name : String) (rest : List String) (new : FileTree) :
    (FileTree.file content).set (name :: rest) new = .file content := rfl

@[simp] theorem set_directory_cons (entries : List (String × FileTree)) (name : String) (rest : List String)
    (new : FileTree) : (FileTree.directory entries).set (name :: rest) new =
      .directory (place name (((entries.lookup name).getD empty).set rest new) entries) := rfl

/-- A tree is put into an existing directory. -/
theorem get?_set_self {name : String} (h : t.HasDirectory l) :
    (t.set (l ++ [name]) new).get? (l ++ [name]) = some new := by
  induction l generalizing t with
  | nil =>
    obtain ⟨entries, hget⟩ := h
    cases (get?_nil t).symm.trans hget
    simp [lookup_place]
  | cons n rest ih =>
    obtain ⟨entries, hget⟩ := h
    cases t with
    | file content => cases hget
    | directory siblings =>
      obtain ⟨child, hchild, hget⟩ := Option.bind_eq_some_iff.1 hget
      simp only [List.cons_append, set_directory_cons, get?_directory_cons, lookup_place, if_pos, hchild,
        Option.getD_some, Option.bind_some]
      exact ih ⟨entries, hget⟩

/-- Nothing but the tree is put at the location. -/
theorem eq_of_get?_set_self (h : (t.set l new).get? l = some u) : u = new := by
  induction l generalizing t with
  | nil => simpa using h.symm
  | cons name rest ih =>
    cases t with
    | file content => cases h
    | directory entries =>
      simp only [set_directory_cons, get?_directory_cons, lookup_place, if_pos, Option.bind_some] at h
      exact ih h

/-! ## What stays -/

/-- Directories stay, and so do the files that are not at the given locations; no files come up elsewhere. -/
structure Keeps (changed : List String → Prop) (t u : FileTree) : Prop where
  directory {l : List String} : t.HasDirectory l → u.HasDirectory l
  file_iff {l : List String} {content : ByteArray} : ¬changed l → (u.HasFile l content ↔ t.HasFile l content)

namespace Keeps

variable {changed : List String → Prop}

theorem refl (changed : List String → Prop) (t : FileTree) : Keeps changed t t :=
  ⟨id, fun _ => .rfl⟩

theorem mono {changed' : List String → Prop} (h : Keeps changed t u) (hc : ∀ l, changed l → changed' l) :
    Keeps changed' t u :=
  ⟨h.directory, fun hl => h.file_iff (mt (hc _) hl)⟩

theorem trans {v : FileTree} (h : Keeps changed t u) (h' : Keeps changed u v) : Keeps changed t v :=
  ⟨fun hd => h'.directory (h.directory hd), fun hl => (h'.file_iff hl).trans (h.file_iff hl)⟩

end Keeps

theorem not_hasDirectory_tail {entries : List (String × FileTree)} {name : String} {rest : List String}
    (h : ¬(directory entries).HasDirectory (name :: rest)) {child : FileTree} (hc : entries.lookup name = some child) :
    ¬child.HasDirectory rest := by
  rintro ⟨es, hes⟩
  exact h ⟨es, by simp [hc, hes]⟩

theorem hasDirectory_set (hk : ¬t.HasDirectory m) (h : t.HasDirectory l) : (t.set m new).HasDirectory l := by
  induction m generalizing t l with
  | nil =>
    cases t with
    | file content =>
      obtain ⟨entries, hget⟩ := h
      cases l <;> cases hget
    | directory entries => exact absurd ⟨entries, rfl⟩ hk
  | cons name rest ih =>
    cases t with
    | file content => exact h
    | directory entries =>
      obtain ⟨es, hget⟩ := h
      cases l with
      | nil => exact ⟨_, rfl⟩
      | cons n ls =>
        obtain ⟨child, hchild, hget⟩ := Option.bind_eq_some_iff.1 hget
        by_cases hn : n = name
        · subst hn
          obtain ⟨es', hes'⟩ := ih (not_hasDirectory_tail hk hchild) ⟨es, hget⟩
          exact ⟨es', by simpa [lookup_place, hchild] using hes'⟩
        · exact ⟨es, by simp [lookup_place, hn, hchild, hget]⟩

theorem not_hasFile_empty (l : List String) (content : ByteArray) : ¬empty.HasFile l content := by
  cases l <;> simp [HasFile, empty]

theorem hasFile_set_iff {content : ByteArray} (hk : ¬t.HasDirectory m)
    (hnew : ∀ name rest, new.get? (name :: rest) = none) (hne : l ≠ m) :
    (t.set m new).HasFile l content ↔ t.HasFile l content := by
  induction m generalizing t l with
  | nil =>
    obtain ⟨name, rest, rfl⟩ := List.exists_cons_of_ne_nil hne
    cases t with
    | file _ => simp [HasFile, hnew]
    | directory entries => exact absurd ⟨entries, rfl⟩ hk
  | cons name rest ih =>
    cases t with
    | file _ => rfl
    | directory entries =>
      cases l with
      | nil => simp [HasFile]
      | cons n ls =>
        by_cases hn : n = name
        · subst hn
          have hls : ls ≠ rest := fun e => hne (by rw [e])
          cases hchild : entries.lookup n with
          | some child => simpa [HasFile, lookup_place, hchild] using ih (not_hasDirectory_tail hk hchild) hls
          | none =>
            -- the directories that are made on the way hold nothing else
            have hnone : ¬(empty.set rest new).HasFile ls content := by
              cases rest with
              | nil =>
                obtain ⟨name, rest, rfl⟩ := List.exists_cons_of_ne_nil hls
                simp [HasFile, hnew]
              | cons r rs =>
                have hempty : ¬empty.HasDirectory (r :: rs) := by
                  rintro ⟨es, hes⟩
                  cases hes
                exact fun h => not_hasFile_empty ls content ((ih hempty hls).1 h)
            simpa [HasFile, lookup_place, hchild] using hnone
        · simp [HasFile, lookup_place, hn]

theorem keeps_set_file (t : FileTree) (content : ByteArray) (hk : ¬t.HasDirectory m) :
    Keeps (· = m) t (t.set m (.file content)) :=
  ⟨hasDirectory_set hk, fun hl => hasFile_set_iff hk (fun _ _ => rfl) hl⟩

theorem keeps_set_empty (h : t.get? m = none) : Keeps (fun _ => False) t (t.set m empty) := by
  have hk := not_hasDirectory_of_get?_eq_none h
  refine ⟨hasDirectory_set hk, fun {l content} _ => ?_⟩
  by_cases hl : l = m
  · subst hl
    refine ⟨fun hfile => ?_, fun hfile => ?_⟩
    · cases eq_of_get?_set_self hfile
    · rw [HasFile, h] at hfile
      cases hfile
  · exact hasFile_set_iff hk (fun _ _ => rfl) hl

/-! ## Following a path -/

theorem follow?_append (t : FileTree) (here : List String) (ps qs : List String) :
    t.follow? here (ps ++ qs) = (t.follow? here ps).bind (t.follow? · qs) := by
  induction ps generalizing here with
  | nil => rfl
  | cons p ps ih =>
    simp only [List.cons_append, follow?]
    split
    · exact ih _
    · rfl

theorem follow?_cons_eq_some_iff {here ps : List String} {p : String} :
    t.follow? here (p :: ps) = some l ↔ t.HasDirectory here ∧ t.follow? (next here p) ps = some l := by
  rw [follow?, HasDirectory]
  cases t.get? here with
  | none => simp
  | some u => cases u <;> simp

/-- A path leads to the same location when directories stay. -/
theorem follow?_mono (h : ∀ {l : List String}, t.HasDirectory l → u.HasDirectory l) {here ps : List String}
    (hl : t.follow? here ps = some l) : u.follow? here ps = some l := by
  induction ps generalizing here with
  | nil => exact hl
  | cons p ps ih =>
    obtain ⟨hd, hrest⟩ := follow?_cons_eq_some_iff.1 hl
    exact follow?_cons_eq_some_iff.2 ⟨h hd, ih hrest⟩

theorem Keeps.follow? {changed : List String → Prop} (h : Keeps changed t u) {here ps : List String}
    (hl : t.follow? here ps = some l) : u.follow? here ps = some l :=
  follow?_mono h.directory hl

/-- A step of making directories goes on in a directory that is there or that it makes, or it ends. -/
theorem makeAlong_cons_cases (t : FileTree) (here : List String) (p : String) (ps : List String) :
    t.HasDirectory (next here p) ∧ t.makeAlong here (p :: ps) = t.makeAlong (next here p) ps ∨
      (t.get? (next here p) = none ∧
        t.makeAlong here (p :: ps) = (t.set (next here p) empty).makeAlong (next here p) ps) ∨
      t.makeAlong here (p :: ps) = (false, t) := by
  rw [makeAlong]
  cases hget : t.get? (next here p) with
  | none =>
    by_cases hshort : p.utf8ByteSize ≤ longestName
    · exact .inr (.inl ⟨rfl, if_pos hshort⟩)
    · exact .inr (.inr (if_neg hshort))
  | some v =>
    cases v with
    | file content => exact .inr (.inr rfl)
    | directory entries => exact .inl ⟨⟨entries, hget⟩, rfl⟩

theorem keeps_makeAlong (t : FileTree) (here ps : List String) : Keeps (fun _ => False) t (t.makeAlong here ps).2 := by
  induction ps generalizing t here with
  | nil => exact .refl _ t
  | cons p ps ih =>
    rcases makeAlong_cons_cases t here p ps with ⟨_, hgoes⟩ | ⟨hnone, hmakes⟩ | hends
    · rw [hgoes]
      exact ih t _
    · rw [hmakes]
      exact (keeps_set_empty hnone).trans (ih _ _)
    · rw [hends]
      exact .refl _ t

theorem keeps_makeDirectories (t : FileTree) (path : String) :
    Keeps (fun _ => False) t (t.makeDirectories path).2 := by
  unfold makeDirectories
  split
  · exact keeps_makeAlong t [] _
  · exact keeps_makeAlong t [] _

theorem keeps_of_makeDirectories {path : String} {done : Bool} (h : t.makeDirectories path = (done, u)) :
    Keeps (fun _ => False) t u := by
  have hkept := keeps_makeDirectories t path
  rwa [h] at hkept

/-! ## Files in a directory -/

variable {directory name : String}

theorem follow?_join (h : IsName name) :
    t.follow? [] (Path.parts (Path.join directory name)) = some m ↔
      ∃ l, t.follow? [] (Path.parts directory) = some l ∧ t.HasDirectory l ∧ m = l ++ [name] := by
  rw [Path.parts_join directory h, follow?_append, Option.bind_eq_some_iff]
  refine exists_congr fun l => and_congr_right fun _ => ?_
  rw [follow?_cons_eq_some_iff, follow?, next, if_neg h.ne_above, Option.some.injEq, eq_comm]

theorem at?_join_eq_some_iff (h : IsName name) :
    t.at? (Path.join directory name) = some u ↔
      ∃ l, t.follow? [] (Path.parts directory) = some l ∧ t.get? (l ++ [name]) = some u := by
  rw [at?, if_neg (Path.join_ne_empty h), Option.bind_eq_some_iff]
  constructor
  · rintro ⟨m, hm, hget⟩
    obtain ⟨l, hl, _, rfl⟩ := (follow?_join h).1 hm
    exact ⟨l, hl, hget⟩
  · rintro ⟨l, hl, hget⟩
    by_cases hd : t.HasDirectory l
    · exact ⟨l ++ [name], (follow?_join h).2 ⟨l, hl, hd, rfl⟩, hget⟩
    · rw [get?_append_of_not_hasDirectory hd (by simp)] at hget
      cases hget

theorem write?_join {content : ByteArray} (h : IsName name) (hl : t.follow? [] (Path.parts directory) = some l)
    (hd : t.HasDirectory l) :
    t.write? (Path.join directory name) content = some u ↔
      name.utf8ByteSize ≤ longestName ∧ ¬t.HasDirectory (l ++ [name]) ∧ u = t.set (l ++ [name]) (.file content) := by
  have hm := (follow?_join h).2 ⟨l, hl, hd, rfl⟩
  obtain ⟨es, hd⟩ := hd
  unfold write?
  constructor
  · intro hw
    obtain ⟨m, hm', hw⟩ := Option.bind_eq_some_iff.1 hw
    obtain rfl : l ++ [name] = m := Option.some.inj (hm.symm.trans hm')
    obtain ⟨last, hlast, hw⟩ := Option.bind_eq_some_iff.1 hw
    obtain rfl : name = last := Option.some.inj (List.getLast?_concat.symm.trans hlast)
    obtain ⟨_, hguard, hw⟩ := Option.bind_eq_some_iff.1 hw
    have hshort : name.utf8ByteSize ≤ longestName := by
      refine Decidable.byContradiction fun hlong => ?_
      cases hguard.symm.trans (if_neg hlong)
    rw [List.dropLast_concat, hd] at hw
    cases hget : t.get? (l ++ [name]) with
    | none =>
      rw [hget] at hw
      exact ⟨hshort, not_hasDirectory_of_get?_eq_none hget, (Option.some.inj hw).symm⟩
    | some v =>
      rw [hget] at hw
      cases v with
      | file _ => exact ⟨hshort, HasFile.not_hasDirectory hget, (Option.some.inj hw).symm⟩
      | directory _ => cases hw
  · rintro ⟨hshort, hfree, rfl⟩
    refine Option.bind_eq_some_iff.2 ⟨l ++ [name], hm, Option.bind_eq_some_iff.2 ⟨name, List.getLast?_concat, ?_⟩⟩
    refine Option.bind_eq_some_iff.2 ⟨(), if_pos hshort, ?_⟩
    rw [List.dropLast_concat, hd]
    cases hget : t.get? (l ++ [name]) with
    | none => rfl
    | some v =>
      cases v with
      | file _ => rfl
      | directory entries => exact absurd ⟨entries, hget⟩ hfree

/-- When a file can be put into a directory, and what the tree is then. -/
theorem write?_join_eq_some_iff {content : ByteArray} (h : IsName name) :
    t.write? (Path.join directory name) content = some u ↔
      ∃ l, t.follow? [] (Path.parts directory) = some l ∧ t.HasDirectory l ∧ name.utf8ByteSize ≤ longestName ∧
        ¬t.HasDirectory (l ++ [name]) ∧ u = t.set (l ++ [name]) (.file content) := by
  refine ⟨fun hw => ?_, fun ⟨l, hl, hd, hw⟩ => (write?_join h hl hd).2 hw⟩
  obtain ⟨m, hm, _⟩ := Option.bind_eq_some_iff.1 hw
  obtain ⟨l, hl, hd, _⟩ := (follow?_join h).1 hm
  exact ⟨l, hl, hd, (write?_join h hl hd).1 hw⟩

/-- A file is put into a directory, next to the other ones. -/
structure Deposits (directory name : String) (content : ByteArray) (t u : FileTree) : Prop where
  at_name : u.at? (Path.join directory name) = some (.file content)
  at_other {n : String} {c : ByteArray} : IsName n → n ≠ name → t.at? (Path.join directory n) = some (.file c) →
    u.at? (Path.join directory n) = some (.file c)

theorem deposits_of_write? {content : ByteArray} (h : IsName name)
    (hw : (t.makeDirectories directory).2.write? (Path.join directory name) content = some u) :
    Deposits directory name content t u := by
  have hmade := keeps_makeDirectories t directory
  obtain ⟨l, hl, hd, _, hfree, rfl⟩ := (write?_join_eq_some_iff h).1 hw
  have hset := keeps_set_file _ content hfree
  refine ⟨(at?_join_eq_some_iff h).2 ⟨l, hset.follow? hl, get?_set_self hd⟩, fun {n c} hn hne hfile => ?_⟩
  obtain ⟨l', hl', hget⟩ := (at?_join_eq_some_iff hn).1 hfile
  have hsame : l' = l := Option.some.inj ((hmade.follow? hl').symm.trans hl)
  subst hsame
  refine (at?_join_eq_some_iff hn).2 ⟨l', hset.follow? hl, ?_⟩
  exact (hset.file_iff (by simpa using hne)).2 ((hmade.file_iff id).2 hget)

end FileTree

end Bindings
