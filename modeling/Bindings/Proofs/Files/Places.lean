import Bindings.Proofs.Files.Headers
import Bindings.Proofs.Text.Bytes
import Mathlib.Data.List.Forall2
import Mathlib.Data.List.Nodup

/-!
# Places of headers

Which files of a tree are metadata of headers, and in which order they are listed.

* `headerStem?_eq_some_iff`: which names are those of metadata.
* `HasHeader`: there is metadata at a location. `headerPlaces` has these locations (`mem_headerPlaces_iff`), in
  increasing order, component by component (`pairwise_headerPlaces`).
* `Found`: what is discovered of the header at a location. The headers of a tree are what is found at its places, one by
  one (`forall₂_found`).
* `WellFormed.nodup_follow?_headerPath`: the paths of the headers lead to different places.
-/

namespace Bindings

theorem headerStem?_eq_some_iff {name stem : String} :
    headerStem? name = some stem ↔ stem ≠ "" ∧ name = stem ++ ".json" ∧ ∀ other, name ≠ generatedName other := by
  constructor
  · intro h
    refine ⟨?_, eq_of_headerStem? h, fun other hname => ?_⟩
    · unfold headerStem? at h
      split at h
      · cases h
        simp
      · cases h
    · rw [hname, headerStem?_generatedName] at h
      cases h
  · rintro ⟨hne, rfl, hgenerated⟩
    have hno : Text.before? generatedSuffix.toList (stem ++ ".json").toList = none := by
      rw [Option.eq_none_iff_forall_ne_some]
      intro rest hrest
      refine hgenerated (String.ofList rest) (String.toList_inj.1 ?_)
      rw [Text.before?_eq_some_iff.1 hrest, generatedName, String.toList_append, String.toList_ofList]
    have hstem : Text.before? ".json".toList (stem ++ ".json").toList = some stem.toList :=
      Text.before?_eq_some_iff.2 String.toList_append
    obtain ⟨c, cs, hcs⟩ := List.exists_cons_of_ne_nil (mt String.toList_eq_nil_iff.1 hne)
    rw [headerStem?, hno, hstem, hcs]
    dsimp only
    rw [← hcs, String.ofList_toList]

namespace FileTree

variable {t child : FileTree} {entries : List (String × FileTree)} {name path : String} {l rest : List String}
  {source : HeaderSource}

/-! ## Metadata -/

/-- There is the metadata of a header at a location: a file `<stem>.json` that is no generated document. -/
def HasHeader (t : FileTree) (l : List String) : Prop :=
  ∃ directory stem content, l = directory ++ [stem ++ ".json"] ∧ stem ≠ "" ∧
    (∀ other, stem ++ ".json" ≠ generatedName other) ∧ t.HasFile l content

/-- A file of the given name is metadata. -/
def isHeader (name : String) (t : FileTree) : Bool :=
  t.listing.isFile && (headerStem? name).isSome

mutual

/-- The locations of metadata in a tree. -/
def headerPlaces : FileTree → List (List String)
  | .file _ => []
  | .directory entries => entryPlaces entries

def entryPlaces : List (String × FileTree) → List (List String)
  | [] => []
  | (name, t) :: rest => (if t.isHeader name then [[name]] else []) ++ t.headerPlaces.map (name :: ·) ++ entryPlaces rest

end

/-- The locations that an entry of a directory brings: its own, and those below it. -/
def placesOf (e : String × FileTree) : List (List String) :=
  (if e.2.isHeader e.1 then [[e.1]] else []) ++ e.2.headerPlaces.map (e.1 :: ·)

theorem headerPlaces_directory (entries : List (String × FileTree)) :
    (directory entries).headerPlaces = entries.flatMap placesOf := by
  rw [headerPlaces]
  induction entries with
  | nil => rfl
  | cons e rest ih => rw [entryPlaces, ih, List.flatMap_cons, placesOf]

theorem hasFile_directory_cons (ho : Ordered entries) {e : String × FileTree} (he : e ∈ entries) {content : ByteArray} :
    (directory entries).HasFile (e.1 :: rest) content ↔ e.2.HasFile rest content := by
  rw [HasFile, get?_directory_cons, lookup_of_mem ho he]
  rfl

/-- In a directory, metadata is an entry or below an entry. -/
theorem hasHeader_directory_iff (ho : Ordered entries) :
    (directory entries).HasHeader l ↔
      ∃ e ∈ entries, e.2.isHeader e.1 ∧ l = [e.1] ∨ ∃ rest, e.2.HasHeader rest ∧ l = e.1 :: rest := by
  constructor
  · rintro ⟨above, stem, content, rfl, hne, hgenerated, hfile⟩
    cases above with
    | nil =>
      obtain ⟨child, hchild, hget⟩ := Option.bind_eq_some_iff.1 hfile
      rw [get?_nil, Option.some.injEq] at hget
      refine ⟨_, mem_of_lookup hchild, .inl ⟨?_, rfl⟩⟩
      rw [isHeader, hget, headerStem?_eq_some_iff.2 ⟨hne, rfl, hgenerated⟩]
      rfl
    | cons first above =>
      obtain ⟨child, hchild, hget⟩ := Option.bind_eq_some_iff.1 hfile
      exact ⟨_, mem_of_lookup hchild, .inr ⟨_, ⟨above, stem, content, rfl, hne, hgenerated, hget⟩, rfl⟩⟩
  · rintro ⟨e, he, ⟨hheader, rfl⟩ | ⟨rest, ⟨above, stem, content, rfl, hne, hgenerated, hfile⟩, rfl⟩⟩
    · obtain ⟨hfile, hsome⟩ := Bool.and_eq_true_iff.1 hheader
      obtain ⟨content, hcontent⟩ := eq_file_of_isFile hfile
      obtain ⟨stem, hstem⟩ := Option.isSome_iff_exists.1 hsome
      obtain ⟨hne, hname, hgenerated⟩ := headerStem?_eq_some_iff.1 hstem
      refine ⟨[], stem, content, by rw [hname]; rfl, hne, hname ▸ hgenerated, ?_⟩
      rw [hasFile_directory_cons ho he, HasFile, hcontent, get?_nil]
    · exact ⟨e.1 :: above, stem, content, rfl, hne, hgenerated, (hasFile_directory_cons ho he).2 hfile⟩

theorem not_hasHeader_file (content : ByteArray) (l : List String) : ¬(FileTree.file content).HasHeader l := by
  rintro ⟨directory, stem, content', rfl, _, _, hfile⟩
  cases directory <;> cases hfile

theorem mem_headerPlaces_iff (ht : t.WellFormed) : l ∈ t.headerPlaces ↔ t.HasHeader l := by
  induction t using ind generalizing l with
  | file content => exact ⟨nofun, fun h => absurd h (not_hasHeader_file content l)⟩
  | directory entries ih =>
    rw [headerPlaces_directory, List.mem_flatMap, hasHeader_directory_iff ht.1]
    refine exists_congr fun e => and_congr_right fun he => ?_
    have hbelow (rest : List String) := ih e he (wellFormedEntries_iff.1 ht.2 e he).2 (l := rest)
    rw [placesOf, List.mem_append, List.mem_map]
    refine or_congr ?_ (exists_congr fun rest => and_congr (hbelow rest) eq_comm)
    split <;> simp [*]

/-! ## Order -/

/-- Component by component, the one location is before the other. -/
def Before (l m : List String) : Prop :=
  List.Lex Text.Precedes l m

theorem headerPlaces_of_isHeader (h : t.isHeader name = true) : t.headerPlaces = [] := by
  obtain ⟨content, rfl⟩ := eq_file_of_isFile (Bool.and_eq_true_iff.1 h).1
  rfl

theorem exists_cons_of_mem_placesOf {e : String × FileTree} (h : l ∈ placesOf e) : ∃ rest, l = e.1 :: rest := by
  rcases List.mem_append.1 h with h | h
  · split at h
    · exact ⟨[], List.mem_singleton.1 h⟩
    · cases h
  · obtain ⟨rest, _, rfl⟩ := List.mem_map.1 h
    exact ⟨rest, rfl⟩

theorem pairwise_headerPlaces (ht : t.WellFormed) : t.headerPlaces.Pairwise Before := by
  induction t using ind with
  | file content => exact .nil
  | directory entries ih =>
    rw [headerPlaces_directory, List.pairwise_flatMap]
    refine ⟨fun e he => ?_, ht.1.imp fun {e f} hlt l hl m hm => ?_⟩
    · have hbelow := ih e he (wellFormedEntries_iff.1 ht.2 e he).2
      rw [placesOf]
      split
      · rename_i hheader
        rw [headerPlaces_of_isHeader hheader]
        exact List.pairwise_singleton _ _
      · exact List.pairwise_map.2 (hbelow.imp .cons)
    · obtain ⟨rest, rfl⟩ := exists_cons_of_mem_placesOf hl
      obtain ⟨rest', rfl⟩ := exists_cons_of_mem_placesOf hm
      exact .rel (Text.precedes_iff.2 hlt)

theorem not_before_self (l : List String) : ¬Before l l :=
  List.lex_irrefl (fun name hname => String.lt_irrefl name (Text.precedes_iff.1 hname)) l

theorem nodup_headerPlaces (ht : t.WellFormed) : t.headerPlaces.Nodup := by
  refine (pairwise_headerPlaces ht).imp fun h => ?_
  rintro rfl
  exact not_before_self _ h

/-! ## What is discovered -/

/-- What is discovered of the metadata at a location below a directory of the given path: the stem of its name, its path,
and the path of its configuration, which is the file of that stem beside it. A stem of one dot goes without. -/
structure Found (t : FileTree) (path : String) (l : List String) (source : HeaderSource) : Prop where
  getLast?_eq : l.getLast? = some (source.stem ++ ".json")
  headerPath_eq : source.headerPath = l.foldl Path.join path
  configPath_eq_some_iff {p : String} : source.configPath = some p ↔
    source.stem ≠ "." ∧ (∃ content, t.HasFile (l.dropLast ++ [source.stem ++ ".toml"]) content) ∧
      p = (l.dropLast ++ [source.stem ++ ".toml"]).foldl Path.join path

/-- A file is among the entries of a directory. -/
theorem any_isFile_iff (ho : Ordered entries) :
    (entryListings entries).any (fun e => e.1 == name && e.2.isFile) = true ↔
      ∃ content, (directory entries).HasFile [name] content := by
  rw [entryListings_eq_map, List.any_map, List.any_eq_true]
  constructor
  · rintro ⟨e, he, hfile⟩
    obtain ⟨hname, hfile⟩ := Bool.and_eq_true_iff.1 hfile
    obtain ⟨content, hcontent⟩ := eq_file_of_isFile hfile
    refine ⟨content, ?_⟩
    rw [← eq_of_beq hname, hasFile_directory_cons ho he, HasFile, hcontent, get?_nil]
  · rintro ⟨content, hfile⟩
    obtain ⟨child, hchild, hget⟩ := Option.bind_eq_some_iff.1 hfile
    rw [get?_nil, Option.some.injEq] at hget
    refine ⟨_, mem_of_lookup hchild, ?_⟩
    rw [hget]
    simp [listing, Listing.isFile]

/-- What an entry of a directory is taken for is what is found at its location. -/
theorem found_of_ofEntry? (ho : Ordered entries) {e : String × FileTree}
    (hs : HeaderSource.ofEntry? path (entryListings entries) e.1 e.2.listing = some source) :
    (directory entries).Found path [e.1] source := by
  rw [HeaderSource.ofEntry?] at hs
  split at hs
  · obtain ⟨stem, hstem, rfl⟩ := Option.map_eq_some_iff.1 hs
    refine ⟨by rw [eq_of_headerStem? hstem]; rfl, rfl, fun {p} => ?_⟩
    rw [Option.ite_none_right_eq_some, Bool.and_eq_true_iff, any_isFile_iff ho, bne_iff_ne, Option.some.injEq, and_assoc,
      eq_comm (b := p)]
    rfl
  · cases hs

/-- What is found below an entry is found below its directory. -/
theorem Found.cons (ho : Ordered entries) {e : String × FileTree} (he : e ∈ entries)
    (h : e.2.Found (Path.join path e.1) l source) : (directory entries).Found path (e.1 :: l) source := by
  obtain ⟨above, rfl⟩ := List.getLast?_eq_some_iff.1 h.getLast?_eq
  refine ⟨?_, h.headerPath_eq, fun {p} => ?_⟩
  · rw [← List.cons_append, List.getLast?_concat]
  · have hconfig := h.configPath_eq_some_iff (p := p)
    rw [List.dropLast_concat] at hconfig
    rw [← List.cons_append, List.dropLast_concat, List.cons_append, hconfig]
    simp only [hasFile_directory_cons ho he, List.foldl_cons]

theorem isSome_ofEntry? (path : String) (siblings : List (String × Listing)) (e : String × FileTree) :
    (HeaderSource.ofEntry? path siblings e.1 e.2.listing).isSome = e.2.isHeader e.1 := by
  rw [HeaderSource.ofEntry?, isHeader]
  split
  · rename_i hfile
    rw [hfile, Option.isSome_map, Bool.true_and]
  · rename_i hfile
    rw [Bool.eq_false_iff.2 hfile, Bool.false_and, Option.isSome_none]

/-- The headers of a tree are what is found at its places, in this order. -/
theorem forall₂_found (ht : t.WellFormed) (path : String) :
    List.Forall₂ (t.Found path) t.headerPlaces (t.listing.headers path) := by
  induction t using ind generalizing path with
  | file content => exact .nil
  | directory entries ih =>
    have hentry (e : String × FileTree) (he : e ∈ entries) :
        List.Forall₂ ((directory entries).Found path) (placesOf e) (headersOf path (entryListings entries) e) := by
      refine List.rel_append ?own (List.forall₂_map_left_iff.2 ?below)
      case own =>
        rw [← isSome_ofEntry? path (entryListings entries)]
        cases hs : HeaderSource.ofEntry? path (entryListings entries) e.1 e.2.listing with
        | none => exact .nil
        | some source =>
          have hfound := found_of_ofEntry? ht.1 hs
          exact .cons hfound .nil
      case below =>
        have hbelow := ih e he (wellFormedEntries_iff.1 ht.2 e he).2 (Path.join path e.1)
        exact hbelow.imp fun _ _ => .cons ht.1 he
    rw [headerPlaces_directory, headers_directory ht.1]
    exact List.rel_flatMap (R := fun e f => e = f ∧ e ∈ entries) (List.forall₂_same.2 fun e he => ⟨rfl, he⟩)
      fun {e f} hef => hef.1 ▸ hentry e hef.2

/-! ## Paths of headers -/

variable {root : FileTree} {m : List String}

theorem WellFormed.isName_of_get? (ht : t.WellFormed) (h : t.get? l = some child) : ∀ name ∈ l, IsName name := by
  induction l generalizing t with
  | nil => nofun
  | cons name rest ih =>
    cases t with
    | file content => cases h
    | directory entries =>
      obtain ⟨next, hnext, h⟩ := Option.bind_eq_some_iff.1 h
      obtain ⟨hname, hwell⟩ := wellFormedEntries_iff.1 ht.2 _ (mem_of_lookup hnext)
      exact List.forall_mem_cons.2 ⟨hname, ih hwell h⟩

/-- Names are joined to the path of a directory one after another on the way to what is below it. -/
theorem LeadsTo.foldl_join (h : root.LeadsTo path m) (hnames : ∀ name ∈ l, IsName name) (hd : root.HasDirectory (m ++ l)) :
    root.LeadsTo (l.foldl Path.join path) (m ++ l) := by
  induction l generalizing path m with
  | nil => simpa using h
  | cons name rest ih =>
    obtain ⟨hname, hrest⟩ := List.forall_mem_cons.1 hnames
    rw [List.append_cons] at hd ⊢
    have hnext := hasDirectory_of_append hd
    exact ih ⟨(follow?_join hname).2 ⟨m, h.1, h.2, rfl⟩, hnext⟩ hrest hd

/-- The path of a header leads to the place where it is found. -/
theorem Found.follow?_headerPath (h : t.Found path l source) (ht : t.WellFormed) (hroot : root.LeadsTo path m)
    (hget : root.get? m = some t) {content : ByteArray} (hfile : t.HasFile l content) :
    root.follow? [] (Path.parts source.headerPath) = some (m ++ l) := by
  obtain ⟨above, rfl⟩ := List.getLast?_eq_some_iff.1 h.getLast?_eq
  obtain ⟨habove, hname⟩ := List.forall_mem_append.1 (ht.isName_of_get? hfile)
  have hd : root.HasDirectory (m ++ above) := by
    refine Classical.byContradiction fun hno => ?_
    have hnone := get?_append_of_not_hasDirectory hno (List.cons_ne_nil (source.stem ++ ".json") [])
    rw [List.append_assoc, get?_append, hget, Option.bind_some, hfile] at hnone
    cases hnone
  have hleads := hroot.foldl_join habove hd
  rw [h.headerPath_eq, List.foldl_append]
  exact (follow?_join (hname _ List.mem_cons_self)).2 ⟨_, hleads.1, hleads.2, (List.append_assoc _ _ _).symm⟩

/-- No two paths of the headers below a directory lead to the same place. -/
theorem WellFormed.nodup_follow?_headerPath (ht : t.WellFormed) {listing : Listing} (hlist : t.list? path = some listing) :
    ((listing.headers path).map fun source => t.follow? [] (Path.parts source.headerPath)).Nodup := by
  obtain ⟨_, m, v, hroot, hget, rfl⟩ := list?_eq_some_iff.1 hlist
  have hv := ht.get? hget
  have hplaces : List.Forall₂ (fun l source => t.follow? [] (Path.parts source.headerPath) = some (m ++ l))
      v.headerPlaces (v.listing.headers path) := by
    have hfound := (List.forall₂_and_left _ _).2 ⟨fun l hl => (mem_headerPlaces_iff hv).1 hl, forall₂_found hv path⟩
    refine hfound.imp fun l source ⟨⟨_, _, content, _, _, _, hfile⟩, hfound⟩ => ?_
    exact hfound.follow?_headerPath hv hroot hget hfile
  have hsame : (v.listing.headers path).map (fun source => t.follow? [] (Path.parts source.headerPath)) =
      v.headerPlaces.map fun l => some (m ++ l) := by
    rw [← List.forall₂_eq_eq_eq, List.forall₂_map_left_iff, List.forall₂_map_right_iff]
    exact hplaces.flip
  rw [hsame]
  exact List.Nodup.map (fun _ _ h => List.append_cancel_left (Option.some.inj h)) (nodup_headerPlaces hv)

end FileTree

end Bindings
