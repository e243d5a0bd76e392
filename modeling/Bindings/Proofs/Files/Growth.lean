import Bindings.Proofs.Files.Discovery
import Bindings.Proofs.Files.Tree

/-!
# Growing trees

All that a run does to a file tree is to make directories where there is nothing and to put documents into
directories.

* `get?_set_of_incomparable`, `get?_set_append`: what is put at a location is not seen from beside it, and is a change
  below for what is above it.
* `WellFormed.ext`: a well-formed tree is determined by its directories and files.
* `Grows`: a tree grows by directories and documents; it stays well-formed (`Grows.wellFormed`) and keeps its
  directories and all files that are no documents (`Grows.keeps`).
* `grows_makeDirectories`, `makeDirectories_again`: making directories is such a growth, and a second time comes to the
  same. What is made is on the way (`hasDirectory_makeDirectories_cases`).
* `grows_write?`: so is writing a document.
-/

namespace Bindings

namespace FileTree

variable {t u new : FileTree} {l m : List String} {name : String}

/-! ## Locations beside and below a changed one -/

theorem hasDirectory_of_append (h : t.HasDirectory (l ++ m)) : t.HasDirectory l := by
  cases m with
  | nil => simpa using h
  | cons name rest =>
    obtain ⟨entries, hget⟩ := h
    refine Classical.byContradiction fun hd => ?_
    rw [get?_append_of_not_hasDirectory hd (List.cons_ne_nil _ _)] at hget
    cases hget

theorem get?_set_of_incomparable (h : ¬m <+: l) (h' : ¬l <+: m) : (t.set m new).get? l = t.get? l := by
  induction m generalizing t l with
  | nil => exact absurd List.nil_prefix h
  | cons name rest ih =>
    cases l with
    | nil => exact absurd List.nil_prefix h'
    | cons n ls =>
      cases t with
      | file content => rfl
      | directory entries =>
        simp only [set_directory_cons, get?_directory_cons, lookup_place]
        by_cases hn : n = name
        · subst hn
          have hbelow : (((entries.lookup n).getD empty).set rest new).get? ls =
              ((entries.lookup n).getD empty).get? ls :=
            ih (fun hp => h ((List.prefix_cons_inj n).2 hp)) (fun hp => h' ((List.prefix_cons_inj n).2 hp))
          rw [if_pos rfl, Option.bind_some, hbelow]
          cases hchild : entries.lookup n with
          | some child => rfl
          | none =>
            obtain ⟨k, ks, rfl⟩ := List.exists_cons_of_ne_nil fun hnil : ls = [] => h' (by simp [hnil])
            rfl
        · rw [if_neg hn]

/-- From a location above, a change is a change of what is there. -/
theorem get?_set_append (h : t.get? l = some u) : (t.set (l ++ m) new).get? l = some (u.set m new) := by
  induction l generalizing t with
  | nil =>
    rw [get?_nil, Option.some.injEq] at h
    simp [h]
  | cons name rest ih =>
    cases t with
    | file content => cases h
    | directory entries =>
      obtain ⟨child, hchild, h⟩ := Option.bind_eq_some_iff.1 h
      simp only [List.cons_append, set_directory_cons, get?_directory_cons, lookup_place, if_pos, hchild,
        Option.getD_some, Option.bind_some]
      exact ih h

/-- What is put into a directory, with nothing below it, makes a directory at most at its own place. -/
theorem hasDirectory_set_cases (hd : t.HasDirectory l) (hnew : ∀ name rest, new.get? (name :: rest) = none)
    (h : (t.set (l ++ [name]) new).HasDirectory m) : m = l ++ [name] ∨ t.HasDirectory m := by
  by_cases hbelow : l ++ [name] <+: m
  · obtain ⟨rest, rfl⟩ := hbelow
    obtain ⟨entries, hget⟩ := h
    rw [get?_append, get?_set_self hd, Option.bind_some] at hget
    cases rest with
    | nil => exact .inl (List.append_nil _)
    | cons n rest => cases (hnew n rest).symm.trans hget
  · by_cases habove : m <+: l ++ [name]
    · rcases List.prefix_concat_iff.1 habove with rfl | ⟨rest, rfl⟩
      · exact .inl rfl
      · exact .inr (hasDirectory_of_append hd)
    · obtain ⟨entries, hget⟩ := h
      rw [get?_set_of_incomparable hbelow habove] at hget
      exact .inr ⟨entries, hget⟩

/-- A file in a directory makes and removes no directories. -/
theorem hasDirectory_set_file_iff {content : ByteArray} (hd : t.HasDirectory l)
    (hk : ¬t.HasDirectory (l ++ [name])) :
    (t.set (l ++ [name]) (.file content)).HasDirectory m ↔ t.HasDirectory m := by
  refine ⟨fun h => ?_, hasDirectory_set hk⟩
  rcases hasDirectory_set_cases hd (fun _ _ => rfl) h with rfl | h
  · exact absurd h (HasFile.not_hasDirectory (get?_set_self hd))
  · exact h

/-! ## Well-formed trees -/

theorem isSome_get?_iff : (t.get? l).isSome = true ↔ t.HasDirectory l ∨ ∃ content, t.HasFile l content := by
  rw [HasDirectory]
  simp only [HasFile]
  cases t.get? l with
  | none => simp
  | some u => cases u <;> simp

/-- Trees are equal when they have the same directories and the same files. -/
theorem WellFormed.ext (ht : t.WellFormed) (hu : u.WellFormed) (hd : ∀ l, t.HasDirectory l ↔ u.HasDirectory l)
    (hf : ∀ l content, t.HasFile l content ↔ u.HasFile l content) : t = u := by
  induction t using ind generalizing u with
  | file content =>
    have hfile : u.get? [] = some (file content) := (hf [] content).1 rfl
    rw [get?_nil, Option.some.injEq] at hfile
    exact hfile.symm
  | directory entries ih =>
    obtain ⟨es, hget⟩ := (hd []).1 ⟨entries, rfl⟩
    rw [get?_nil, Option.some.injEq] at hget
    subst hget
    refine congrArg directory (eq_of_lookup_eq ht.1 hu.1 fun name => ?_)
    have hthere : (entries.lookup name).isSome = (es.lookup name).isSome := by
      have hsome : ((directory entries).get? [name]).isSome = ((directory es).get? [name]).isSome := by
        rw [Bool.eq_iff_iff, isSome_get?_iff, isSome_get?_iff]
        simp only [hd, hf]
      simpa using hsome
    cases hchild : entries.lookup name with
    | none =>
      rw [hchild] at hthere
      exact (Option.isNone_iff_eq_none.1 (by simpa using hthere.symm)).symm
    | some child =>
      rw [hchild] at hthere
      obtain ⟨child', hchild'⟩ := Option.isSome_iff_exists.1 hthere.symm
      have hmem := mem_of_lookup hchild
      have hsame : child = child' := by
        refine ih _ hmem (wellFormedEntries_iff.1 ht.2 _ hmem).2
          (wellFormedEntries_iff.1 hu.2 _ (mem_of_lookup hchild')).2 (fun l => ?_) fun l content => ?_
        · simpa [HasDirectory, hchild, hchild'] using hd (name :: l)
        · simpa [HasFile, hchild, hchild'] using hf (name :: l) content
      rw [hchild', hsame]

theorem wellFormed_empty : empty.WellFormed :=
  ⟨.nil, trivial⟩

theorem wellFormed_place {entries : List (String × FileTree)} (h : (directory entries).WellFormed)
    (hn : IsName name) (hnew : new.WellFormed) : (directory (place name new entries)).WellFormed := by
  refine ⟨ordered_place name new h.1, wellFormedEntries_iff.2 fun e he => ?_⟩
  rcases mem_place he with rfl | he
  · exact ⟨hn, hnew⟩
  · exact wellFormedEntries_iff.1 h.2 e he

theorem wellFormed_set (ht : t.WellFormed) (hd : t.HasDirectory l) (hn : IsName name) (hnew : new.WellFormed) :
    (t.set (l ++ [name]) new).WellFormed := by
  induction l generalizing t with
  | nil =>
    obtain ⟨entries, hget⟩ := hd
    rw [get?_nil, Option.some.injEq] at hget
    subst hget
    simpa using wellFormed_place ht hn hnew
  | cons first rest ih =>
    cases t with
    | file content => exact trivial
    | directory entries =>
      obtain ⟨es, hget⟩ := hd
      obtain ⟨child, hchild, hget⟩ := Option.bind_eq_some_iff.1 hget
      obtain ⟨hfirst, hwell⟩ := wellFormedEntries_iff.1 ht.2 _ (mem_of_lookup hchild)
      rw [List.cons_append, set_directory_cons, hchild]
      exact wellFormed_place ht hfirst (ih hwell ⟨es, hget⟩)

/-! ## Growth -/

/-- A place where documents are put. -/
def IsDocumentPlace (l : List String) : Prop :=
  ∃ directory stem, l = directory ++ [generatedName stem]

/-- What a run may do to a tree: make directories where there is nothing, and put documents into directories. -/
inductive Grows (t : FileTree) : FileTree → Prop
  | refl : Grows t t
  | directory {u : FileTree} {l : List String} {name : String} : Grows t u → u.HasDirectory l → IsName name →
      u.get? (l ++ [name]) = none → Grows t (u.set (l ++ [name]) empty)
  | document {u : FileTree} {l : List String} {stem : String} {content : ByteArray} : Grows t u → u.HasDirectory l →
      IsName (generatedName stem) → ¬u.HasDirectory (l ++ [generatedName stem]) →
      Grows t (u.set (l ++ [generatedName stem]) (.file content))

namespace Grows

theorem trans {v : FileTree} (h : Grows t u) (h' : Grows u v) : Grows t v := by
  induction h' with
  | refl => exact h
  | directory _ hd hn hnone ih => exact .directory ih hd hn hnone
  | document _ hd hn hk ih => exact .document ih hd hn hk

theorem wellFormed (h : Grows t u) (ht : t.WellFormed) : u.WellFormed := by
  induction h with
  | refl => exact ht
  | directory _ hd hn _ ih => exact wellFormed_set ih hd hn wellFormed_empty
  | document _ hd hn _ ih => exact wellFormed_set ih hd hn trivial

theorem keeps (h : Grows t u) : Keeps IsDocumentPlace t u := by
  induction h with
  | refl => exact .refl _ t
  | directory _ _ _ hnone ih => exact ih.trans ((keeps_set_empty hnone).mono nofun)
  | @document u l stem content _ _ _ hk ih =>
    exact ih.trans ((keeps_set_file u content hk).mono fun m hm => ⟨l, stem, hm⟩)

/-- A file stays a file. -/
theorem exists_hasFile {content : ByteArray} (h : Grows t u) (hf : t.HasFile m content) :
    ∃ content', u.HasFile m content' := by
  induction h with
  | refl => exact ⟨content, hf⟩
  | directory _ _ _ hnone ih =>
    obtain ⟨content', hf⟩ := ih
    exact ⟨content', ((keeps_set_empty hnone).file_iff id).2 hf⟩
  | @document u l stem new _ hd _ hk ih =>
    obtain ⟨content', hf⟩ := ih
    by_cases hm : m = l ++ [generatedName stem]
    · exact ⟨new, by rw [hm, HasFile, get?_set_self hd]⟩
    · exact ⟨content', ((keeps_set_file u new hk).file_iff hm).2 hf⟩

end Grows

/-! ## Making directories -/

variable {here ps : List String} {path : String}

theorem hasDirectory_of_follow? (h : t.follow? here ps = some l) (hd : t.HasDirectory l) : t.HasDirectory here := by
  cases ps with
  | nil => exact Option.some.inj h ▸ hd
  | cons p ps => exact (follow?_cons_eq_some_iff.1 h).1

theorem makeAlong_cons_of_hasDirectory {p : String} (h : t.HasDirectory (next here p)) :
    t.makeAlong here (p :: ps) = t.makeAlong (next here p) ps := by
  obtain ⟨entries, hget⟩ := h
  simp only [makeAlong, hget]

theorem hasDirectory_above (h : t.HasDirectory here) : t.HasDirectory here.dropLast := by
  obtain ⟨rest, hrest⟩ := List.dropLast_prefix here
  exact hasDirectory_of_append (hrest ▸ h)

/-- From a directory, the next step leads to nothing only by a name. -/
theorem next_eq_concat {p : String} (h : t.HasDirectory here) (hnone : t.get? (next here p) = none) :
    p ≠ ".." ∧ next here p = here ++ [p] := by
  by_cases hp : p = ".."
  · rw [next, if_pos hp] at hnone
    exact absurd (hasDirectory_above h) (not_hasDirectory_of_get?_eq_none hnone)
  · exact ⟨hp, if_neg hp⟩

theorem hasDirectory_set_empty {p : String} (h : t.HasDirectory here) (hnone : t.get? (next here p) = none) :
    (t.set (next here p) empty).HasDirectory (next here p) := by
  rw [(next_eq_concat h hnone).2]
  exact ⟨[], get?_set_self h⟩

theorem grows_makeAlong (h : t.HasDirectory here) (hps : ∀ p ∈ ps, p ≠ ".." → IsName p) :
    Grows t (t.makeAlong here ps).2 := by
  induction ps generalizing t here with
  | nil => exact .refl
  | cons p ps ih =>
    obtain ⟨hp, hps⟩ := List.forall_mem_cons.1 hps
    rcases makeAlong_cons_cases t here p ps with ⟨hd, hgoes⟩ | ⟨hnone, hmakes⟩ | hends
    · rw [hgoes]
      exact ih hd hps
    · obtain ⟨hup, hnext⟩ := next_eq_concat h hnone
      have hmade : Grows t (t.set (next here p) empty) := by
        rw [hnext] at hnone ⊢
        exact .directory .refl h (hp hup) hnone
      rw [hmakes]
      exact hmade.trans (ih (hasDirectory_set_empty h hnone) hps)
    · rw [hends]
      exact .refl

/-- Directories are made on the way only. -/
theorem hasDirectory_makeAlong_cases (h : t.HasDirectory here) (hl : (t.makeAlong here ps).2.HasDirectory l) :
    t.HasDirectory l ∨ ∃ n, (t.makeAlong here ps).2.follow? here (ps.take n) = some l := by
  induction ps generalizing t here with
  | nil => exact .inl hl
  | cons p ps ih =>
    have hhere := (keeps_makeAlong t here (p :: ps)).directory h
    rcases makeAlong_cons_cases t here p ps with ⟨hd, hgoes⟩ | ⟨hnone, hmakes⟩ | hends
    · rw [hgoes] at hl hhere ⊢
      rcases ih hd hl with hold | ⟨n, hn⟩
      · exact .inl hold
      · exact .inr ⟨n + 1, follow?_cons_eq_some_iff.2 ⟨hhere, hn⟩⟩
    · rw [hmakes] at hl hhere ⊢
      have hnext := (next_eq_concat h hnone).2
      rcases ih (hasDirectory_set_empty h hnone) hl with hset | ⟨n, hn⟩
      · rw [hnext] at hset
        rcases hasDirectory_set_cases h (fun _ _ => rfl) hset with rfl | hold
        · exact .inr ⟨1, follow?_cons_eq_some_iff.2 ⟨hhere, congrArg some hnext⟩⟩
        · exact .inl hold
      · exact .inr ⟨n + 1, follow?_cons_eq_some_iff.2 ⟨hhere, hn⟩⟩
    · rw [hends] at hl
      exact .inl hl

/-- A path that leads to a directory asks for nothing. -/
theorem makeAlong_of_follow? (h : t.follow? here ps = some l) (hd : t.HasDirectory l) :
    t.makeAlong here ps = (true, t) := by
  induction ps generalizing here with
  | nil => rfl
  | cons p ps ih =>
    have hrest := (follow?_cons_eq_some_iff.1 h).2
    rw [makeAlong_cons_of_hasDirectory (hasDirectory_of_follow? hrest hd)]
    exact ih hrest

theorem follow?_of_makeAlong (h : t.HasDirectory here) (hmade : t.makeAlong here ps = (true, u)) :
    ∃ l, u.follow? here ps = some l ∧ u.HasDirectory l := by
  induction ps generalizing t here with
  | nil =>
    cases hmade
    exact ⟨here, rfl, h⟩
  | cons p ps ih =>
    have hhere : u.HasDirectory here := by
      have hkept := (keeps_makeAlong t here (p :: ps)).directory h
      rwa [hmade] at hkept
    rcases makeAlong_cons_cases t here p ps with ⟨hd, hgoes⟩ | ⟨hnone, hmakes⟩ | hends
    · obtain ⟨l, hl, hd⟩ := ih hd (hgoes ▸ hmade)
      exact ⟨l, follow?_cons_eq_some_iff.2 ⟨hhere, hl⟩, hd⟩
    · obtain ⟨l, hl, hd⟩ := ih (hasDirectory_set_empty h hnone) (hmakes ▸ hmade)
      exact ⟨l, follow?_cons_eq_some_iff.2 ⟨hhere, hl⟩, hd⟩
    · cases hends.symm.trans hmade

/-- What is in the way of a directory is in its way again. -/
theorem makeAlong_again (h : t.HasDirectory here) :
    (t.makeAlong here ps).2.makeAlong here ps = t.makeAlong here ps := by
  induction ps generalizing t here with
  | nil => rfl
  | cons p ps ih =>
    -- where the path goes on, the directory that it goes on from stays
    have hgoes {v : FileTree} (hv : v.HasDirectory (next here p)) :
        (v.makeAlong (next here p) ps).2.makeAlong here (p :: ps) = v.makeAlong (next here p) ps := by
      rw [makeAlong_cons_of_hasDirectory ((keeps_makeAlong v _ ps).directory hv), ih hv]
    rcases makeAlong_cons_cases t here p ps with ⟨hd, hsame⟩ | ⟨hnone, hmakes⟩ | hends
    · rw [hsame, hgoes hd]
    · rw [hmakes, hgoes (hasDirectory_set_empty h hnone)]
    · rw [hends, hends]

/-- A path leads to a directory at a location. -/
def LeadsTo (t : FileTree) (path : String) (l : List String) : Prop :=
  t.follow? [] (Path.parts path) = some l ∧ t.HasDirectory l

theorem LeadsTo.mono (h : t.LeadsTo path l) (hd : ∀ {l : List String}, t.HasDirectory l → u.HasDirectory l) :
    u.LeadsTo path l :=
  ⟨follow?_mono hd h.1, hd h.2⟩

theorem grows_makeDirectories (h : t.HasDirectory []) (path : String) : Grows t (t.makeDirectories path).2 := by
  have hparts : ∀ p ∈ Path.parts path, p ≠ ".." → IsName p := fun _ hp => Path.isName_of_mem_parts hp
  unfold makeDirectories
  split
  · exact grows_makeAlong h fun p hp => hparts p (List.dropLast_subset _ hp)
  · exact grows_makeAlong h hparts

/-- The directories that are made at a path are those above it and its own. -/
theorem hasDirectory_makeDirectories_cases (h : t.HasDirectory [])
    (hl : (t.makeDirectories path).2.HasDirectory l) :
    t.HasDirectory l ∨ ∃ n, (t.makeDirectories path).2.follow? [] ((Path.parts path).take n) = some l := by
  unfold makeDirectories at hl ⊢
  split at hl
  · rename_i hdot
    rw [if_pos hdot]
    rcases hasDirectory_makeAlong_cases h hl with hold | ⟨n, hn⟩
    · exact .inl hold
    · have htake : (Path.parts path).dropLast.take n = (Path.parts path).take (min n ((Path.parts path).length - 1)) := by
        rw [List.dropLast_eq_take, List.take_take]
      exact .inr ⟨_, htake ▸ hn⟩
  · rename_i hdot
    rw [if_neg hdot]
    exact hasDirectory_makeAlong_cases h hl

theorem makeDirectories_of_leadsTo (h : t.LeadsTo path l) : t.makeDirectories path = (true, t) := by
  obtain ⟨hl, hd⟩ := h
  unfold makeDirectories
  split
  · rename_i hdot
    have habove : t.makeAlong [] (Path.parts path).dropLast = (true, t) := by
      rcases List.eq_nil_or_concat (Path.parts path) with hnil | ⟨ps, p, hps⟩
      · rw [hnil]
        rfl
      · rw [List.concat_eq_append] at hps
        rw [hps, follow?_append] at hl
        obtain ⟨l', hl', hlast⟩ := Option.bind_eq_some_iff.1 hl
        rw [hps, List.dropLast_concat]
        exact makeAlong_of_follow? hl' (hasDirectory_of_follow? hlast hd)
    obtain ⟨entries, hget⟩ := hd
    simp [habove, at?, Path.ne_empty_of_endsInDot hdot, hl, hget, isDirectory]
  · exact makeAlong_of_follow? hl hd

theorem leadsTo_of_makeDirectories (h : t.HasDirectory []) (hmade : t.makeDirectories path = (true, u)) :
    ∃ l, u.LeadsTo path l := by
  unfold makeDirectories at hmade
  split at hmade
  · obtain ⟨hfound, rfl⟩ := Prod.mk.inj hmade
    obtain ⟨v, hv, hdirectory⟩ := (Option.any_eq_true _ _).1 hfound
    rw [at?] at hv
    split at hv
    · cases hv
    · obtain ⟨l, hl, hget⟩ := Option.bind_eq_some_iff.1 hv
      cases v with
      | file content => cases hdirectory
      | directory entries => exact ⟨l, hl, entries, hget⟩
  · exact follow?_of_makeAlong h hmade

theorem makeDirectories_again (h : t.HasDirectory []) (path : String) :
    (t.makeDirectories path).2.makeDirectories path = t.makeDirectories path := by
  unfold makeDirectories
  split
  · simp only [makeAlong_again h]
  · exact makeAlong_again h

/-! ## Writing documents -/

theorem grows_write? {directory stem : String} {content : ByteArray} (hn : IsName (generatedName stem))
    (h : t.write? (Path.join directory (generatedName stem)) content = some u) : Grows t u := by
  obtain ⟨l, _, hd, _, hk, rfl⟩ := (write?_join_eq_some_iff hn).1 h
  exact .document .refl hd hn hk

end FileTree

end Bindings
