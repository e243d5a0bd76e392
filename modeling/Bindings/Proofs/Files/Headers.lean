import Bindings.Proofs.Files.Growth

/-!
# Headers of a tree

* `headers_directory`: the headers of a directory, entry by entry.
* `Grows.headers`: a tree that grows has the same headers as before, since what comes up is no header and no
  configuration.
* `Holds`: where a discovered header is (`WellFormed.exists_holds`). It is at no place of a document
  (`Holds.header_not_isDocumentPlace`), and reading it and its configuration gives the same as before in a tree that has
  grown (`Grows.read?_header`, `Grows.read?_config`).
-/

namespace Bindings

variable {name stem path : String} {siblings siblings' : List (String × Listing)}
  {entries : List (String × FileTree)} {t u new : FileTree} {l m : List String} {source : HeaderSource}

/-! ## The headers of a directory -/

theorem entryHeaders_eq_map (path : String) (siblings es : List (String × Listing)) :
    Listing.entryHeaders path siblings es = es.map fun e =>
      (e.1, (HeaderSource.ofEntry? path siblings e.1 e.2).toList ++ e.2.headers (Path.join path e.1)) := by
  induction es with
  | nil => rfl
  | cons e rest ih => simp [Listing.entryHeaders, ih]

theorem putInOrder_of_lt {α : Type} {e : String × α} {es : List (String × α)} (h : ∀ f ∈ es, e.1 < f.1) :
    putInOrder e es = e :: es := by
  cases es with
  | nil => rfl
  | cons f rest =>
    have hlt : ¬f.1 < e.1 := fun hf => String.lt_irrefl _ (String.lt_trans hf (h f List.mem_cons_self))
    rw [putInOrder, if_neg hlt]

theorem byName_of_ordered {α : Type} {es : List (String × α)} (h : Ordered es) : byName es = es := by
  induction es with
  | nil => rfl
  | cons e rest ih =>
    obtain ⟨he, hrest⟩ := List.pairwise_cons.1 h
    show putInOrder e (byName rest) = _
    rw [ih hrest, putInOrder_of_lt he]

namespace FileTree

theorem entryListings_eq_map (entries : List (String × FileTree)) :
    entryListings entries = entries.map fun e => (e.1, e.2.listing) := by
  induction entries with
  | nil => rfl
  | cons e rest ih => simp [entryListings, ih]

/-- The headers that an entry of a directory brings: itself, and those below it. -/
def headersOf (path : String) (siblings : List (String × Listing)) (e : String × FileTree) : List HeaderSource :=
  (HeaderSource.ofEntry? path siblings e.1 e.2.listing).toList ++ e.2.listing.headers (Path.join path e.1)

theorem headers_directory (h : Ordered entries) (path : String) :
    (directory entries).listing.headers path = entries.flatMap (headersOf path (entryListings entries)) := by
  have hordered : Ordered (Listing.entryHeaders path (entryListings entries) (entryListings entries)) := by
    rw [entryHeaders_eq_map, entryListings_eq_map, List.map_map]
    exact List.pairwise_map.2 h
  rw [listing, Listing.headers, byName_of_ordered hordered, entryHeaders_eq_map, List.flatMap_map]
  conv => lhs; arg 2; rw [entryListings_eq_map]
  rw [List.flatMap_map]
  rfl

/-! ## Entries that are no headers -/

/-- An entry that is neither a header nor a configuration: a directory, or of a document's name. -/
def IsNoSource (name : String) (t : FileTree) : Prop :=
  t.isDirectory = true ∨ ∃ stem, name = generatedName stem

theorem IsNoSource.ofEntry?_eq_none (h : IsNoSource name t) (path : String) (siblings : List (String × Listing)) :
    HeaderSource.ofEntry? path siblings name t.listing = none := by
  rw [HeaderSource.ofEntry?]
  rcases h with h | ⟨stem, rfl⟩
  · cases t with
    | file content => cases h
    | directory entries => rfl
  · rw [headerStem?_generatedName]
    split <;> rfl

theorem IsNoSource.not_config (h : IsNoSource name t) (config : String) :
    (name == config ++ ".toml" && t.listing.isFile) = false := by
  rcases h with h | ⟨stem, rfl⟩
  · cases t with
    | file content => cases h
    | directory entries => exact Bool.and_false _
  · rw [beq_false_of_ne (generatedName_ne_config stem config), Bool.false_and]

theorem ofEntry?_congr (h : ∀ config : String, siblings.any (fun e => e.1 == config ++ ".toml" && e.2.isFile) =
      siblings'.any (fun e => e.1 == config ++ ".toml" && e.2.isFile)) (path name : String) (entry : Listing) :
    HeaderSource.ofEntry? path siblings name entry = HeaderSource.ofEntry? path siblings' name entry := by
  simp only [HeaderSource.ofEntry?, h]

/-- What is put into a directory changes no headers if it is no header, replaces none, and has the headers below it that
were there before. -/
theorem headers_place (ho : Ordered entries) (hnew : IsNoSource name new)
    (hold : ∀ old, entries.lookup name = some old → IsNoSource name old)
    (hbelow : ∀ path, new.listing.headers path =
      ((entries.lookup name).map (·.listing.headers path)).getD []) (path : String) :
    (directory (place name new entries)).listing.headers path = (directory entries).listing.headers path := by
  obtain ⟨smaller, greater, hentries, hplace⟩ := place_eq_append name new ho
  have hconfigs (config : String) :
      (entryListings (place name new entries)).any (fun e => e.1 == config ++ ".toml" && e.2.isFile) =
        (entryListings entries).any (fun e => e.1 == config ++ ".toml" && e.2.isFile) := by
    rw [entryListings_eq_map, entryListings_eq_map, List.any_map, List.any_map, hplace]
    conv => rhs; rw [hentries]
    cases hlookup : entries.lookup name with
    | none => simp [hnew.not_config config]
    | some old => simp [hnew.not_config config, (hold old hlookup).not_config config]
  have hsame : headersOf path (entryListings (place name new entries)) = headersOf path (entryListings entries) := by
    funext e
    rw [headersOf, headersOf, ofEntry?_congr hconfigs]
  rw [headers_directory (ordered_place name new ho), headers_directory ho, hsame, hplace]
  conv => rhs; arg 2; rw [hentries]
  rw [List.flatMap_append, List.flatMap_append, List.flatMap_cons, List.flatMap_append]
  congr 2
  rw [headersOf, hnew.ofEntry?_eq_none, hbelow]
  cases hlookup : entries.lookup name with
  | none => rfl
  | some old => simp [headersOf, (hold old hlookup).ofEntry?_eq_none]

/-- The same further down. -/
theorem headers_set (ht : t.WellFormed) (hd : t.HasDirectory l) (hnew : IsNoSource name new)
    (hold : ∀ old, t.get? (l ++ [name]) = some old → IsNoSource name old)
    (hbelow : ∀ path, new.listing.headers path =
      ((t.get? (l ++ [name])).map (·.listing.headers path)).getD []) (path : String) :
    (t.set (l ++ [name]) new).listing.headers path = t.listing.headers path := by
  induction l generalizing t path with
  | nil =>
    cases t with
    | file content => rfl
    | directory entries =>
      have hat : (directory entries).get? ([] ++ [name]) = entries.lookup name := by
        simp
      exact headers_place ht.1 hnew (hat ▸ hold) (hat ▸ hbelow) path
  | cons first rest ih =>
    cases t with
    | file content => rfl
    | directory entries =>
      obtain ⟨es, hget⟩ := hd
      obtain ⟨child, hchild, hget⟩ := Option.bind_eq_some_iff.1 hget
      have hat : (directory entries).get? (first :: (rest ++ [name])) = child.get? (rest ++ [name]) := by
        rw [get?_directory_cons, hchild, Option.bind_some]
      have hset := ih (wellFormedEntries_iff.1 ht.2 _ (mem_of_lookup hchild)).2 ⟨es, hget⟩ (hat ▸ hold)
        fun path => hat ▸ hbelow path
      have hdirectory : child.isDirectory = true ∧ (child.set (rest ++ [name]) new).isDirectory = true := by
        cases child with
        | file content => cases rest <;> cases hget
        | directory es' => cases rest <;> exact ⟨rfl, rfl⟩
      rw [List.cons_append, set_directory_cons, hchild, Option.getD_some]
      refine headers_place ht.1 (.inl hdirectory.2) (fun old hlookup => ?_) (fun path => ?_) path
      · obtain rfl : child = old := Option.some.inj (hchild.symm.trans hlookup)
        exact .inl hdirectory.1
      · rw [hchild, hset path]
        rfl

/-! ## Growth below a location -/

theorem hasDirectory_append_iff (h : t.get? l = some u) : t.HasDirectory (l ++ m) ↔ u.HasDirectory m := by
  simp only [HasDirectory, get?_append, h, Option.bind_some]

/-- A place that is no directory is above no directory. -/
theorem not_prefix_of_hasDirectory (hm : ¬t.HasDirectory m) (hl : t.HasDirectory l) : ¬m <+: l := by
  rintro ⟨rest, rfl⟩
  exact hm (hasDirectory_of_append hl)

/-- Where a directory is, either nothing changes or the change is below it. -/
theorem get?_set_cases (new : FileTree) (hm : ¬t.HasDirectory (m ++ [name])) (hl : t.HasDirectory l) (hget : t.get? l = some u) :
    (t.set (m ++ [name]) new).get? l = some u ∨
      ∃ k, m = l ++ k ∧ (t.set (m ++ [name]) new).get? l = some (u.set (k ++ [name]) new) := by
  have habove := not_prefix_of_hasDirectory hm hl
  by_cases hbelow : l <+: m ++ [name]
  · rcases List.prefix_concat_iff.1 hbelow with rfl | ⟨k, rfl⟩
    · exact absurd List.prefix_rfl habove
    · rw [List.append_assoc]
      exact .inr ⟨k, rfl, get?_set_append hget⟩
  · rw [get?_set_of_incomparable habove hbelow]
    exact .inl hget

namespace Grows

/-- What is at a directory grows with the tree. -/
theorem exists_get? (h : Grows t u) (hl : t.HasDirectory l) {v : FileTree} (hget : t.get? l = some v) :
    ∃ w, u.get? l = some w ∧ Grows v w := by
  -- what is put somewhere is beside the directory or below it, for nothing is put above a directory
  induction h with
  | refl => exact ⟨v, hget, .refl⟩
  | @directory u m name hgrown hd hn hnone ih =>
    obtain ⟨w, hw, hgrows⟩ := ih
    have hk := not_hasDirectory_of_get?_eq_none hnone
    rcases get?_set_cases empty hk (hgrown.keeps.directory hl) hw with hsame | ⟨k, rfl, hset⟩
    · exact ⟨w, hsame, hgrows⟩
    · rw [List.append_assoc, get?_append, hw] at hnone
      exact ⟨_, hset, .directory hgrows ((hasDirectory_append_iff hw).1 hd) hn hnone⟩
  | @document u m stem content hgrown hd hn hk ih =>
    obtain ⟨w, hw, hgrows⟩ := ih
    rcases get?_set_cases (.file content) hk (hgrown.keeps.directory hl) hw with hsame | ⟨k, rfl, hset⟩
    · exact ⟨w, hsame, hgrows⟩
    · rw [List.append_assoc, hasDirectory_append_iff hw] at hk
      exact ⟨_, hset, .document hgrows ((hasDirectory_append_iff hw).1 hd) hn hk⟩

/-- Growing brings no headers and takes none. -/
theorem headers (h : Grows t u) (ht : t.WellFormed) (path : String) :
    u.listing.headers path = t.listing.headers path := by
  induction h with
  | refl => rfl
  | directory hgrown hd _ hnone ih =>
    rw [headers_set (hgrown.wellFormed ht) hd (.inl rfl) (fun _ hold => ?_) (fun _ => ?_), ih]
    · rw [hnone] at hold
      cases hold
    · rw [hnone]
      rfl
  | @document u m stem content hgrown hd _ hk ih =>
    rw [headers_set (hgrown.wellFormed ht) hd (.inr ⟨stem, rfl⟩) (fun _ _ => .inr ⟨stem, rfl⟩) (fun path => ?_), ih]
    cases hold : u.get? (m ++ [generatedName stem]) with
    | none => rfl
    | some old =>
      cases old with
      | file _ => rfl
      | directory entries => exact absurd ⟨entries, hold⟩ hk

end Grows

/-! ## What is at a path -/

/-- There is a listing of what a path leads to, if that is a directory. -/
theorem list?_eq_some_iff {listing : Listing} :
    t.list? path = some listing ↔
      path ≠ "" ∧ ∃ l v, t.LeadsTo path l ∧ t.get? l = some v ∧ listing = v.listing := by
  constructor
  · intro h
    unfold list? at h
    split at h
    · rename_i entries hat
      cases h
      rw [at?] at hat
      split at hat
      · cases hat
      · rename_i hne
        obtain ⟨l, hl, hget⟩ := Option.bind_eq_some_iff.1 hat
        exact ⟨hne, l, _, ⟨hl, entries, hget⟩, hget, rfl⟩
    · cases h
  · rintro ⟨hne, l, v, ⟨hl, entries, hd⟩, hget, rfl⟩
    obtain rfl : v = directory entries := Option.some.inj (hget.symm.trans hd)
    rw [list?, at?, if_neg hne, hl, Option.bind_some, hget]

theorem hasDirectory_of_list? {listing : Listing} (h : t.list? path = some listing) : t.HasDirectory [] := by
  obtain ⟨_, _, _, hl, _⟩ := list?_eq_some_iff.1 h
  exact hasDirectory_of_follow? hl.1 hl.2

/-- Below a directory, the same headers are found in a tree that has grown. -/
theorem Grows.list? (h : Grows t u) (ht : t.WellFormed) {listing : Listing} (hlist : t.list? path = some listing) :
    ∃ listing', u.list? path = some listing' ∧ listing'.headers path = listing.headers path := by
  obtain ⟨hne, l, v, hl, hget, rfl⟩ := list?_eq_some_iff.1 hlist
  obtain ⟨w, hw, hgrows⟩ := h.exists_get? hl.2 hget
  exact ⟨w.listing, list?_eq_some_iff.2 ⟨hne, l, w, hl.mono h.keeps.directory, hw, rfl⟩, hgrows.headers (ht.get? hget) path⟩

/-- A path leads to a file at a location. -/
def LeadsToFile (t : FileTree) (path : String) (l : List String) : Prop :=
  t.follow? [] (Path.parts path) = some l ∧ ∃ content, t.HasFile l content

/-- What a path leads to is there as before in a tree that has grown. -/
theorem Grows.at?_eq (h : Grows t u) (hfile : t.LeadsToFile path l) (hl : ¬IsDocumentPlace l) : u.at? path = t.at? path := by
  obtain ⟨hfollow, content, hcontent⟩ := hfile
  have hthere := (h.keeps.file_iff hl).2 hcontent
  rw [at?, at?, hfollow, h.keeps.follow? hfollow, Option.bind_some, Option.bind_some, hcontent, hthere]

/-! ## Where headers are -/

/-- A header is in a directory of a tree: its metadata, and its configuration beside it. -/
structure Holds (t : FileTree) (l : List String) (source : HeaderSource) : Prop where
  isName : IsName (source.stem ++ ".json")
  headerStem? : headerStem? (source.stem ++ ".json") = some source.stem
  header : t.LeadsToFile source.headerPath (l ++ [source.stem ++ ".json"])
  config {path : String} : source.configPath = some path → t.LeadsToFile path (l ++ [source.stem ++ ".toml"])

theorem leadsToFile_join {content : ByteArray} (hpath : t.LeadsTo path l) (hn : IsName name)
    (hfile : t.HasFile (l ++ [name]) content) : t.LeadsToFile (Path.join path name) (l ++ [name]) :=
  ⟨(follow?_join hn).2 ⟨l, hpath.1, hpath.2, rfl⟩, content, hfile⟩

theorem eq_file_of_isFile (h : t.listing.isFile = true) : ∃ content, t = .file content := by
  cases t with
  | file content => exact ⟨content, rfl⟩
  | directory entries => cases h

/-- A directory holds the headers among its entries. -/
theorem holds_of_ofEntry? (hpath : t.LeadsTo path l) (hget : t.get? l = some (.directory entries))
    (hwell : (directory entries).WellFormed) {e : String × FileTree} (he : e ∈ entries)
    (hs : HeaderSource.ofEntry? path (entryListings entries) e.1 e.2.listing = some source) : t.Holds l source := by
  have hentry {e : String × FileTree} (he : e ∈ entries) (hfile : e.2.listing.isFile = true) :
      t.LeadsToFile (Path.join path e.1) (l ++ [e.1]) := by
    obtain ⟨content, hcontent⟩ := eq_file_of_isFile hfile
    have hat : t.HasFile (l ++ [e.1]) content := by
      rw [HasFile, get?_append, hget, Option.bind_some, get?_directory_cons, lookup_of_mem hwell.1 he, hcontent]
      rfl
    exact leadsToFile_join hpath (wellFormedEntries_iff.1 hwell.2 e he).1 hat
  rw [HeaderSource.ofEntry?] at hs
  split at hs
  · rename_i hfile
    obtain ⟨stem, hstem, rfl⟩ := Option.map_eq_some_iff.1 hs
    have hname := eq_of_headerStem? hstem
    rw [hname] at hstem
    refine ⟨hname ▸ (wellFormedEntries_iff.1 hwell.2 e he).1, hstem, hname ▸ hentry he hfile, fun {p} hconfig => ?_⟩
    obtain ⟨hhas, hp⟩ := Option.ite_none_right_eq_some.1 hconfig
    have hany := (Bool.and_eq_true_iff.1 hhas).2
    rw [entryListings_eq_map, List.any_map] at hany
    obtain ⟨f, hf, hconfig⟩ := List.any_eq_true.1 hany
    obtain ⟨hname, hfile⟩ := Bool.and_eq_true_iff.1 hconfig
    rw [← Option.some.inj hp]
    show t.LeadsToFile (Path.join path (stem ++ ".toml")) (l ++ [stem ++ ".toml"])
    rw [← eq_of_beq hname]
    exact hentry hf hfile
  · cases hs

theorem exists_holds_of_mem_headers {root : FileTree} (ht : t.WellFormed) (hpath : root.LeadsTo path l)
    (hget : root.get? l = some t) (hs : source ∈ t.listing.headers path) : ∃ m, root.Holds m source := by
  induction t using ind generalizing path l with
  | file content => cases hs
  | directory entries ih =>
    rw [headers_directory ht.1, List.mem_flatMap] at hs
    obtain ⟨e, he, hs⟩ := hs
    rcases List.mem_append.1 hs with hs | hs
    · exact ⟨l, holds_of_ofEntry? hpath hget ht he (Option.mem_toList.1 hs)⟩
    · obtain ⟨hn, hwell⟩ := wellFormedEntries_iff.1 ht.2 e he
      have hchild : root.get? (l ++ [e.1]) = some e.2 := by
        rw [get?_append, hget, Option.bind_some, get?_directory_cons, lookup_of_mem ht.1 he, Option.bind_some,
          get?_nil]
      have hdirectory : root.HasDirectory (l ++ [e.1]) := by
        cases hentry : e.2 with
        | file content =>
          rw [hentry] at hs
          cases hs
        | directory es => exact ⟨es, by rw [hchild, hentry]⟩
      exact ih e he hwell ⟨(follow?_join hn).2 ⟨l, hpath.1, hpath.2, rfl⟩, hdirectory⟩ hchild hs

/-- What is discovered is in the tree. -/
theorem WellFormed.exists_holds (ht : t.WellFormed) {listing : Listing} (hlist : t.list? path = some listing)
    (hs : source ∈ listing.headers path) : ∃ m, t.Holds m source := by
  obtain ⟨_, l, v, hl, hget, rfl⟩ := list?_eq_some_iff.1 hlist
  exact exists_holds_of_mem_headers (ht.get? hget) hl hget hs

namespace Holds

/-- Documents have names of files. -/
theorem isName_generatedName (h : t.Holds l source) : IsName (generatedName source.stem) :=
  Bindings.isName_generatedName h.isName h.headerStem?

theorem header_not_isDocumentPlace (h : t.Holds l source) : ¬IsDocumentPlace (l ++ [source.stem ++ ".json"]) := by
  rintro ⟨directory, stem, hplace⟩
  have hname : source.stem ++ ".json" = generatedName stem := by simpa using (List.append_inj' hplace rfl).2
  have hstem := h.headerStem?
  rw [hname, headerStem?_generatedName] at hstem
  cases hstem

end Holds

/-- Where a discovered header is, its document's name is that of a file. -/
theorem WellFormed.isName_generatedName (ht : t.WellFormed) {listing : Listing} (hlist : t.list? path = some listing) :
    ∀ source ∈ listing.headers path, IsName (generatedName source.stem) :=
  fun _ hs => (ht.exists_holds hlist hs).elim fun _ hholds => hholds.isName_generatedName

/-- Documents are put at no place of a configuration. -/
theorem not_isDocumentPlace_config (l : List String) (stem : String) : ¬IsDocumentPlace (l ++ [stem ++ ".toml"]) := by
  rintro ⟨directory, other, hplace⟩
  have hname : stem ++ ".toml" = generatedName other := by simpa using (List.append_inj' hplace rfl).2
  exact generatedName_ne_config other stem hname.symm

/-- A header stays where it is in a tree that grows. -/
theorem Grows.holds (h : Grows t u) (hs : t.Holds l source) : u.Holds l source := by
  have hfile {path : String} {m : List String} (hm : t.LeadsToFile path m) : u.LeadsToFile path m := by
    obtain ⟨hfollow, content, hcontent⟩ := hm
    exact ⟨h.keeps.follow? hfollow, h.exists_hasFile hcontent⟩
  exact ⟨hs.isName, hs.headerStem?, hfile hs.header, fun hpath => hfile (hs.config hpath)⟩

/-- A header and its configuration are there as before in a tree that has grown. -/
theorem Grows.at?_header (h : Grows t u) (hs : t.Holds l source) : u.at? source.headerPath = t.at? source.headerPath :=
  h.at?_eq hs.header hs.header_not_isDocumentPlace

theorem Grows.at?_config (h : Grows t u) (hs : t.Holds l source) (hconfig : source.configPath = some path) :
    u.at? path = t.at? path :=
  h.at?_eq (hs.config hconfig) (not_isDocumentPlace_config l source.stem)

/-- So they are read as before. -/
theorem Grows.read?_header (h : Grows t u) (hs : t.Holds l source) :
    u.read? source.headerPath = t.read? source.headerPath := by
  rw [read?, read?, h.at?_header hs]

theorem Grows.read?_config (h : Grows t u) (hs : t.Holds l source) (hconfig : source.configPath = some path) :
    u.read? path = t.read? path := by
  rw [read?, read?, h.at?_config hs hconfig]

end FileTree

end Bindings
