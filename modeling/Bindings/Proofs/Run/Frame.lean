import Bindings.Proofs.Run.Discovered
import Bindings.Proofs.Run.Stops

/-!
# What a run leaves alone

However it ends, a run changes no file but the documents of the headers that it discovers, and makes no directory but the
output directory and those above it.

* `Binds.keeps_of_ok`, `Binds.keeps_of_error`, `Binds.hasDirectory_cases`: one header.
* `BindsAll.keeps`, `BindsAll.hasDirectory_cases`: all of them.
* `run_touches_outputs`: a run.
-/

namespace Bindings

open FileTree

variable {output : Option String} {source : HeaderSource} {sources : List HeaderSource} {t u v : FileTree}
  {l : List String}

/-! ## Files -/

/-- The document of one of the headers belongs at a location. -/
def FileTree.IsPlaceOf (t : FileTree) (output : Option String) (sources : List HeaderSource) (l : List String) : Prop :=
  ∃ directory source, output = some directory ∧ source ∈ sources ∧
    t.follow? [] (Path.parts (Path.join directory (generatedName source.stem))) = some l

theorem FileTree.IsPlaceOf.mono {sources' : List HeaderSource} (h : t.IsPlaceOf output sources l)
    (hd : ∀ {l : List String}, t.HasDirectory l → u.HasDirectory l) (hsources : sources ⊆ sources') :
    u.IsPlaceOf output sources' l := by
  obtain ⟨directory, source, houtput, hs, hfollow⟩ := h
  exact ⟨directory, source, houtput, hsources hs, follow?_mono hd hfollow⟩

/-- Where binding a header fails, no file is changed. -/
theorem Binds.keeps_of_error {e : Failure} (h : Binds output source t (.error e) u) : Keeps (fun _ => False) t u := by
  cases h with
  | refused _ => exact .refl _ t
  | uncreated _ _ hmade => exact keeps_of_makeDirectories hmade
  | unwritten _ _ hmade _ => exact keeps_of_makeDirectories hmade

/-- Binding a header changes no file but its document. -/
theorem Binds.keeps_of_ok {d : BindingDocument} {path : Option String} (h : Binds output source t (.ok (d, path)) u)
    (hn : IsName (generatedName source.stem)) : Keeps (u.IsPlaceOf output [source]) t u := by
  cases h with
  | checked _ _ => exact .refl _ t
  | @written _ directory v _ _ houtput hmade hwrite =>
    obtain ⟨l, hl, hd, _, hfree, rfl⟩ := (write?_join_eq_some_iff hn).1 hwrite
    have hset := keeps_set_file v d.text.toUTF8 hfree
    refine ((keeps_of_makeDirectories hmade).mono nofun).trans (hset.mono ?_)
    rintro m rfl
    exact ⟨directory, source, houtput, List.mem_singleton_self _, hset.follow? ((follow?_join hn).2 ⟨l, hl, hd, rfl⟩)⟩

theorem BindsAll.keeps {r : Except Failure RunResult} (h : BindsAll output sources t r u)
    (hn : ∀ source ∈ sources, IsName (generatedName source.stem)) : Keeps (u.IsPlaceOf output sources) t u := by
  induction h with
  | nil => exact .refl _ _
  | stops hstep => exact hstep.keeps_of_error.mono nofun
  | @goesOn source sources t u v _ _ _ hstep _ ih =>
    obtain ⟨hsource, hsources⟩ := List.forall_mem_cons.1 hn
    have hrest := ih hsources
    refine ((hstep.keeps_of_ok hsource).mono fun l hl => ?_).trans (hrest.mono fun l hl => ?_)
    · exact hl.mono hrest.directory fun _ hs => List.mem_singleton.1 hs ▸ List.mem_cons_self
    · exact hl.mono id (List.subset_cons_self source sources)

/-! ## Directories -/

/-- A location is where the output directory is or a directory above it. -/
def FileTree.IsOnTheWay (t : FileTree) (output : Option String) (l : List String) : Prop :=
  ∃ directory n, output = some directory ∧ t.follow? [] ((Path.parts directory).take n) = some l

theorem FileTree.IsOnTheWay.mono (h : t.IsOnTheWay output l)
    (hd : ∀ {l : List String}, t.HasDirectory l → u.HasDirectory l) : u.IsOnTheWay output l := by
  obtain ⟨directory, n, houtput, hfollow⟩ := h
  exact ⟨directory, n, houtput, follow?_mono hd hfollow⟩

/-- Binding a header makes no directories but those on the way to its document. -/
theorem Binds.hasDirectory_cases {r : Except Failure (BindingDocument × Option String)} (h : Binds output source t r u)
    (hd : t.HasDirectory []) (hn : IsName (generatedName source.stem)) (hl : u.HasDirectory l) :
    t.HasDirectory l ∨ u.IsOnTheWay output l := by
  have hmakes {directory : String} {done : Bool} {v : FileTree} (houtput : output = some directory)
      (hmade : t.makeDirectories directory = (done, v)) (hl : v.HasDirectory l) :
      t.HasDirectory l ∨ v.IsOnTheWay output l := by
    have hcases : (t.makeDirectories directory).2.HasDirectory l → _ := hasDirectory_makeDirectories_cases hd
    rw [hmade] at hcases
    exact (hcases hl).imp_right fun ⟨n, hfollow⟩ => ⟨directory, n, houtput, hfollow⟩
  cases h with
  | refused _ => exact .inl hl
  | checked _ _ => exact .inl hl
  | uncreated _ houtput hmade => exact hmakes houtput hmade hl
  | unwritten _ houtput hmade _ => exact hmakes houtput hmade hl
  | written _ houtput hmade hwrite =>
    obtain ⟨above, _, habove, _, hfree, rfl⟩ := (write?_join_eq_some_iff hn).1 hwrite
    exact (hmakes houtput hmade ((hasDirectory_set_file_iff habove hfree).1 hl)).imp_right
      fun hway => hway.mono (hasDirectory_set hfree)

theorem BindsAll.hasDirectory_cases {r : Except Failure RunResult} (h : BindsAll output sources t r u)
    (hd : t.HasDirectory []) (hn : ∀ source ∈ sources, IsName (generatedName source.stem)) (hl : u.HasDirectory l) :
    t.HasDirectory l ∨ u.IsOnTheWay output l := by
  induction h with
  | nil => exact .inl hl
  | stops hstep => exact hstep.hasDirectory_cases hd (hn _ List.mem_cons_self) hl
  | goesOn hstep hrest ih =>
    obtain ⟨hsource, hsources⟩ := List.forall_mem_cons.1 hn
    have hdirectory := (hstep.grows hd hsource).keeps.directory hd
    rcases ih hdirectory hsources hl with hl | hway
    · exact (hstep.hasDirectory_cases hd hsource hl).imp_right
        fun hway => hway.mono (hrest.keeps hsources).directory
    · exact .inr hway

/-! ## Whole runs -/

/-- A location is that of the document of a header that a run discovers. -/
def RunOptions.IsOutput (o : RunOptions) (t u : FileTree) (l : List String) : Prop :=
  ∃ listing, t.list? o.input = some listing ∧ u.IsPlaceOf o.output (listing.headers o.input) l

variable {o : RunOptions}

theorem Runs.keeps {r : Except Failure RunResult} (h : Runs o t r u) (ht : t.WellFormed) :
    Keeps (o.IsOutput t u) t u := by
  cases h with
  | noInput _ => exact .refl _ t
  | bound hlist hall => exact (hall.keeps (ht.isName_generatedName hlist)).mono fun _ hl => ⟨_, hlist, hl⟩

theorem Runs.hasDirectory_cases {r : Except Failure RunResult} (h : Runs o t r u) (ht : t.WellFormed)
    (hl : u.HasDirectory l) : t.HasDirectory l ∨ u.IsOnTheWay o.output l := by
  cases h with
  | noInput _ => exact .inl hl
  | bound hlist hall => exact hall.hasDirectory_cases (hasDirectory_of_list? hlist) (ht.isName_generatedName hlist) hl

/-- **What a run touches.** -/
theorem run_touches_outputs {s s' : Session} {r : Except Failure RunResult} (hw : s.files.WellFormed)
    (h : s.perform (Session.workspace.run o) = (r, s')) :
    (∀ {l content}, s.files.HasFile l content → ∃ content', s'.files.HasFile l content') ∧
      (∀ {l content}, ¬o.IsOutput s.files s'.files l → (s'.files.HasFile l content ↔ s.files.HasFile l content)) ∧
      (∀ {listing source}, s.files.list? o.input = some listing → source ∈ listing.headers o.input →
        s'.files.at? source.headerPath = s.files.at? source.headerPath ∧
          ∀ path, source.configPath = some path → s'.files.at? path = s.files.at? path) ∧
      (∀ {l stem content}, s'.files.HasFile (l ++ [stem ++ ".toml"]) content ↔
        s.files.HasFile (l ++ [stem ++ ".toml"]) content) ∧
      (∀ {l}, s.files.HasDirectory l → s'.files.HasDirectory l) ∧
      ∀ {l}, s'.files.HasDirectory l → s.files.HasDirectory l ∨ s'.files.IsOnTheWay o.output l := by
  have hrun := runs_run o s
  rw [h] at hrun
  have hgrows := hrun.grows hw
  have hkeeps := hrun.keeps hw
  refine ⟨hgrows.exists_hasFile, hkeeps.file_iff, fun hlist hs => ?_, ?_, hkeeps.directory, hrun.hasDirectory_cases hw⟩
  · obtain ⟨l, hl⟩ := hw.exists_holds hlist hs
    exact ⟨hgrows.at?_header hl, fun path => hgrows.at?_config hl⟩
  · exact fun {l stem content} => hgrows.keeps.file_iff (not_isDocumentPlace_config l stem)

/-- A header whose stem looks like the name of a document, with a configuration. -/
def dottedInput : List (String × FileTree) :=
  [("M.gen.json.json", bareHeader "M"), ("M.gen.json.toml", .file "module_name = \"M\"".toUTF8)]

/-- Documents may be written beside the headers. -/
theorem dotted_header_untouched :
    (inputSession dottedInput).files.WellFormed ∧
      ∃ r s', (inputSession dottedInput).perform (Session.workspace.run ⟨"in", some "in"⟩) = (.ok r, s') ∧
        r.written = ["in/M.gen.json.gen.json"] ∧
        s'.files.at? "in/M.gen.json.json" = (inputSession dottedInput).files.at? "in/M.gen.json.json" ∧
        s'.files.HasFile ["in", "M.gen.json.toml"] "module_name = \"M\"".toUTF8 := by
  have hw : (inputSession dottedInput).files.WellFormed := by decide +kernel
  obtain ⟨r, s', h, hwritten⟩ := Session.exists_perform_of_any (s := inputSession dottedInput)
    (x := Session.workspace.run ⟨"in", some "in"⟩) (p := fun r => r.written = ["in/M.gen.json.gen.json"])
    (by decide +kernel)
  obtain ⟨_, _, hsources, hconfigs, _⟩ := run_touches_outputs hw h
  have hlist : (inputSession dottedInput).files.list? "in" = some (FileTree.directory dottedInput).listing := by
    rw [FileTree.list?, at?_inputSession]
  have hmem : ⟨"M.gen.json", "in/M.gen.json.json", some "in/M.gen.json.toml"⟩ ∈
      (FileTree.directory dottedInput).listing.headers "in" := by decide +kernel
  have hconfig : s'.files.HasFile (["in"] ++ ["M.gen.json" ++ ".toml"]) "module_name = \"M\"".toUTF8 := hconfigs.2 rfl
  exact ⟨hw, r, s', h, of_decide_eq_true hwritten, (hsources hlist hmem).1, hconfig⟩

end Bindings
