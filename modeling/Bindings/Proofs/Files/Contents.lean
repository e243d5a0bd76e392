import Bindings.Proofs.Files.Headers

/-!
# Trees with other contents

* `withContents`: the tree with new contents of files at some locations.
* `get?_withContents`, `follow?_withContents`, `listing_withContents`: it has the same directories and files, so that
  paths lead to the same locations and the same is listed.
* `withContents_set`, `makeDirectories_withContents`, `write?_withContents`: what is done to a tree is done in the same
  way with other contents, where these are none of what is done.
-/

namespace Bindings

namespace FileTree

mutual

/-- The tree with other contents: a file at a location that is given one holds that. -/
def withContents : FileTree → (List String → Option ByteArray) → FileTree
  | .file content, contents => .file ((contents []).getD content)
  | .directory entries, contents => .directory (withEntryContents entries contents)

def withEntryContents : List (String × FileTree) → (List String → Option ByteArray) → List (String × FileTree)
  | [], _ => []
  | (name, t) :: rest, contents => (name, t.withContents fun l => contents (name :: l)) :: withEntryContents rest contents

end

variable {t u new : FileTree} {contents : List String → Option ByteArray} {l here ps : List String} {path : String}

theorem withContents_directory (entries : List (String × FileTree)) (contents : List String → Option ByteArray) :
    (directory entries).withContents contents =
      directory (entries.map fun e => (e.1, e.2.withContents fun l => contents (e.1 :: l))) := by
  rw [withContents]
  congr 1
  induction entries with
  | nil => rfl
  | cons e rest ih => rw [withEntryContents, ih, List.map_cons]

@[simp] theorem withContents_empty (contents : List String → Option ByteArray) : empty.withContents contents = empty := rfl

/-! ## What is there -/

theorem lookup_withContents (entries : List (String × FileTree)) (name : String) :
    (entries.map fun e => (e.1, e.2.withContents fun l => contents (e.1 :: l))).lookup name =
      (entries.lookup name).map (·.withContents fun l => contents (name :: l)) :=
  lookup_map (fun name t => t.withContents fun l => contents (name :: l)) name entries

theorem get?_withContents (t : FileTree) (contents : List String → Option ByteArray) (l : List String) :
    (t.withContents contents).get? l = (t.get? l).map (·.withContents fun m => contents (l ++ m)) := by
  induction l generalizing t contents with
  | nil => simp
  | cons name rest ih =>
    cases t with
    | file content => rfl
    | directory entries =>
      rw [withContents_directory, get?_directory_cons, get?_directory_cons, lookup_withContents]
      cases entries.lookup name with
      | none => rfl
      | some child => exact ih child _

theorem hasDirectory_withContents_iff : (t.withContents contents).HasDirectory l ↔ t.HasDirectory l := by
  rw [HasDirectory, HasDirectory, get?_withContents]
  cases t.get? l with
  | none => simp
  | some u => cases u <;> simp [withContents]

theorem hasFile_withContents_iff {content : ByteArray} :
    (t.withContents contents).HasFile l content ↔ ∃ old, t.HasFile l old ∧ (contents l).getD old = content := by
  simp only [HasFile]
  rw [get?_withContents]
  cases t.get? l with
  | none => simp
  | some u => cases u <;> simp [withContents]

/-- A file that is given no content keeps its own. -/
theorem hasFile_withContents_of_eq_none {content : ByteArray} (h : contents l = none) :
    (t.withContents contents).HasFile l content ↔ t.HasFile l content := by
  rw [hasFile_withContents_iff, h]
  simp

theorem follow?_withContents (t : FileTree) (contents : List String → Option ByteArray) (here ps : List String) :
    (t.withContents contents).follow? here ps = t.follow? here ps := by
  refine Option.ext fun l => ?_
  induction ps generalizing here with
  | nil => rfl
  | cons p ps ih => rw [follow?_cons_eq_some_iff, follow?_cons_eq_some_iff, hasDirectory_withContents_iff, ih]

/-- What a path leads to is the same unless it is given a content. -/
theorem at?_withContents (h : t.LeadsToFile path l) (hl : contents l = none) :
    (t.withContents contents).at? path = t.at? path := by
  obtain ⟨hfollow, content, hfile⟩ := h
  rw [at?, at?, follow?_withContents, hfollow, Option.bind_some, Option.bind_some, hfile]
  exact congrArg _ ((hasFile_withContents_of_eq_none hl).2 hfile)

theorem isDirectory_withContents (t : FileTree) (contents : List String → Option ByteArray) :
    (t.withContents contents).isDirectory = t.isDirectory := by
  cases t <;> rfl

theorem any_isDirectory_at?_withContents (t : FileTree) (contents : List String → Option ByteArray) (path : String) :
    ((t.withContents contents).at? path).any isDirectory = (t.at? path).any isDirectory := by
  rw [at?, at?, follow?_withContents]
  split
  · rfl
  · cases t.follow? [] (Path.parts path) with
    | none => rfl
    | some l =>
      rw [Option.bind_some, Option.bind_some, get?_withContents, Option.any_map]
      exact congrArg (Option.any · _) (funext fun u => isDirectory_withContents u _)

/-! ## What is listed -/

theorem listing_withContents (t : FileTree) (contents : List String → Option ByteArray) :
    (t.withContents contents).listing = t.listing := by
  induction t using ind generalizing contents with
  | file content => rfl
  | directory entries ih =>
    rw [withContents_directory, listing, listing, entryListings_eq_map, entryListings_eq_map, List.map_map]
    congr 1
    exact List.map_congr_left fun e he => congrArg (Prod.mk e.1) (ih e he _)

theorem list?_withContents (t : FileTree) (contents : List String → Option ByteArray) (path : String) :
    (t.withContents contents).list? path = t.list? path := by
  rw [list?, list?, at?, at?, follow?_withContents]
  by_cases hempty : path = ""
  · rw [if_pos hempty, if_pos hempty]
  · rw [if_neg hempty, if_neg hempty]
    cases t.follow? [] (Path.parts path) with
    | none => rfl
    | some l =>
      rw [Option.bind_some, Option.bind_some, get?_withContents]
      cases t.get? l with
      | none => rfl
      | some u =>
        cases u with
        | file content => rfl
        | directory entries => exact congrArg some (listing_withContents (directory entries) _)

/-! ## What is done -/

theorem withContents_set (t new : FileTree) (contents : List String → Option ByteArray) (l : List String) :
    (t.set l new).withContents contents =
      (t.withContents contents).set l (new.withContents fun m => contents (l ++ m)) := by
  induction l generalizing t contents with
  | nil => simp
  | cons name rest ih =>
    cases t with
    | file content => rfl
    | directory entries =>
      have hplace (value : FileTree) :=
        map_place (fun name t => withContents t fun l => contents (name :: l)) name entries value
      have hchild : ((entries.lookup name).map (·.withContents fun l => contents (name :: l))).getD empty =
          ((entries.lookup name).getD empty).withContents fun l => contents (name :: l) := by
        cases entries.lookup name <;> rfl
      rw [set_directory_cons, withContents_directory, withContents_directory, set_directory_cons, lookup_withContents,
        hchild, hplace, ih]
      rfl

/-- Directories are made in the same way. -/
theorem makeAlong_withContents (t : FileTree) (contents : List String → Option ByteArray) (here ps : List String) :
    (t.withContents contents).makeAlong here ps =
      ((t.makeAlong here ps).1, (t.makeAlong here ps).2.withContents contents) := by
  induction ps generalizing t here with
  | nil => rfl
  | cons p ps ih =>
    rw [makeAlong, makeAlong, get?_withContents]
    cases t.get? (next here p) with
    | none =>
      dsimp only [Option.map_none]
      by_cases hshort : p.utf8ByteSize ≤ longestName
      · rw [if_pos hshort, if_pos hshort, ← ih, withContents_set, withContents_empty]
      · rw [if_neg hshort, if_neg hshort]
    | some v =>
      cases v with
      | file content => rfl
      | directory entries => exact ih t _

theorem makeDirectories_withContents (t : FileTree) (contents : List String → Option ByteArray) (path : String) :
    (t.withContents contents).makeDirectories path =
      ((t.makeDirectories path).1, (t.makeDirectories path).2.withContents contents) := by
  rw [makeDirectories, makeDirectories]
  by_cases hdot : Path.endsInDot path
  · rw [if_pos hdot, if_pos hdot, makeAlong_withContents]
    dsimp only
    rw [any_isDirectory_at?_withContents]
  · rw [if_neg hdot, if_neg hdot]
    exact makeAlong_withContents t contents [] _

/-- A file is written in the same way, where it is given no content. -/
theorem write?_withContents (t : FileTree) (directory : String) (content : ByteArray) {name : String} (hn : IsName name)
    (hfree : ∀ l, contents (l ++ [name]) = none) :
    (t.withContents contents).write? (Path.join directory name) content =
      (t.write? (Path.join directory name) content).map (·.withContents contents) := by
  have hfile (l : List String) : (t.set (l ++ [name]) (.file content)).withContents contents =
      (t.withContents contents).set (l ++ [name]) (.file content) := by
    rw [withContents_set, withContents, List.append_nil, hfree, Option.getD_none]
  refine Option.ext fun u => ?_
  rw [write?_join_eq_some_iff hn, Option.map_eq_some_iff]
  simp only [write?_join_eq_some_iff hn, follow?_withContents, hasDirectory_withContents_iff]
  constructor
  · rintro ⟨l, hl, hd, hshort, hk, rfl⟩
    exact ⟨_, ⟨l, hl, hd, hshort, hk, rfl⟩, hfile l⟩
  · rintro ⟨_, ⟨l, hl, hd, hshort, hk, rfl⟩, rfl⟩
    exact ⟨l, hl, hd, hshort, hk, hfile l⟩

end FileTree

end Bindings
