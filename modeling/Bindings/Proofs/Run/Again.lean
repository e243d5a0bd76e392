import Bindings.Proofs.Run.Steps
import Bindings.Proofs.Run.Written

/-!
# Running again

A run that is repeated in the tree that it left comes to the same and leaves the same tree, wherever the output
directory is.

* `Grows.document_eq`: headers have the same documents in a tree that has grown.
* `Between`: the tree of the second run is between that of the first run at the same step and the last one of the first
  run. Each step keeps it so (`Binds.goesOn_again`), until it is the last one (`Between.eq_last`).
* `BindsAll.again`, `Runs.again`: the second run, step by step.
* `WellFormed.not_finds`: where documents are put, no header is found.
-/

namespace Bindings

open FileTree

variable {output : Option String} {source : HeaderSource} {sources : List HeaderSource} {t₀ t u v w x : FileTree}

/-- A header has the same document in a tree that has grown. -/
theorem FileTree.Grows.document_eq (h : Grows t u) {l : List String} (hs : t.Holds l source) :
    u.document source = t.document source :=
  document_congr (h.read?_header hs) fun _ => h.read?_config hs

/-! ## The trees of a second run -/

/-- A tree has the directories of the last tree, and each of its files is as in one tree or as in the last one. -/
structure Between (t last x : FileTree) : Prop where
  directory_iff {l : List String} : x.HasDirectory l ↔ last.HasDirectory l
  file_iff (l : List String) : (∀ content, x.HasFile l content ↔ t.HasFile l content) ∨
    ∀ content, x.HasFile l content ↔ last.HasFile l content

namespace Between

theorem last (t w : FileTree) : Between t w w :=
  ⟨.rfl, fun _ => .inr fun _ => .rfl⟩

/-- Nothing is left to be done when the one tree has the files of the last. -/
theorem eq_last (h : Between t w x) (hx : x.WellFormed) (hw : w.WellFormed)
    (hsame : ∀ l content, w.HasFile l content ↔ t.HasFile l content) : x = w := by
  refine hx.ext hw (fun _ => h.directory_iff) fun l content => ?_
  rcases h.file_iff l with hl | hl
  · rw [hl, hsame]
  · exact hl content

/-- The same document is put into both trees. -/
theorem set {l : List String} {name : String} {content : ByteArray} (h : Between t w x)
    (hd : x.HasDirectory l) (hfree : ¬x.HasDirectory (l ++ [name])) (hdt : v.HasDirectory l)
    (hfreet : ¬v.HasDirectory (l ++ [name])) (hsame : ∀ l content, v.HasFile l content ↔ t.HasFile l content) :
    Between (v.set (l ++ [name]) (.file content)) w (x.set (l ++ [name]) (.file content)) := by
  refine ⟨(hasDirectory_set_file_iff hd hfree).trans h.directory_iff, fun m => ?_⟩
  by_cases hm : m = l ++ [name]
  · subst hm
    refine .inl fun c => ?_
    rw [HasFile, HasFile, get?_set_self hd, get?_set_self hdt]
  · have hx {c : ByteArray} : (x.set (l ++ [name]) (.file content)).HasFile m c ↔ x.HasFile m c :=
      (keeps_set_file x content hfree).file_iff hm
    have hv {c : ByteArray} : (v.set (l ++ [name]) (.file content)).HasFile m c ↔ v.HasFile m c :=
      (keeps_set_file v content hfreet).file_iff hm
    rcases h.file_iff m with hl | hl
    · exact .inl fun c => by rw [hx, hv, hl, hsame]
    · exact .inr fun c => by rw [hx, hl]

end Between

/-! ## The second run -/

/-- Directories are made without any change of files. -/
theorem hasFile_makeDirectories_iff {directory : String} {done : Bool} {l : List String} {content : ByteArray}
    (h : t.makeDirectories directory = (done, u)) : u.HasFile l content ↔ t.HasFile l content := by
  exact (keeps_of_makeDirectories h).file_iff id

/-- A step that stops the run stops it again. -/
theorem Binds.stops_again {e : Failure} (h : Binds output source t (.error e) w) (hd : t.HasDirectory [])
    (hdocument : w.document source = t.document source) :
    Binds output source w (.error e) w ∧ ∀ l content, w.HasFile l content ↔ t.HasFile l content := by
  have hagain {directory : String} {done : Bool} (hmade : t.makeDirectories directory = (done, w)) :
      w.makeDirectories directory = (done, w) := by
    have hsame := makeDirectories_again hd directory
    rwa [hmade] at hsame
  cases h with
  | refused hrefused => exact ⟨.refused hrefused, fun _ _ => .rfl⟩
  | uncreated hok houtput hmade =>
    exact ⟨.uncreated (hdocument.trans hok) houtput (hagain hmade), fun _ _ => hasFile_makeDirectories_iff hmade⟩
  | unwritten hok houtput hmade hwrite =>
    exact ⟨.unwritten (hdocument.trans hok) houtput (hagain hmade) hwrite,
      fun _ _ => hasFile_makeDirectories_iff hmade⟩

/-- A step that goes on goes on again, to a tree that is again between those of the first run. -/
theorem Binds.goesOn_again {d : BindingDocument} {path : Option String} (h : Binds output source t (.ok (d, path)) u)
    (hd : t.HasDirectory []) (hn : IsName (generatedName source.stem)) (hlast : Grows u w) (hb : Between t w x)
    (hdocument : x.document source = t.document source) :
    ∃ y, Binds output source x (.ok (d, path)) y ∧ Between u w y := by
  cases h with
  | checked hok houtput => exact ⟨x, .checked (hdocument.trans hok) houtput, hb⟩
  | @written _ directory v _ hok houtput hmade hwrite =>
    obtain ⟨l, hl⟩ := leadsTo_of_makeDirectories hd hmade
    obtain ⟨hshort, hfree, rfl⟩ := (write?_join hn hl.1 hl.2).1 hwrite
    -- in the second run the directory is there already, and no directory has the document's name
    have hgrown : Grows v w := (grows_write? hn hwrite).trans hlast
    have hxl : x.LeadsTo directory l := hl.mono fun hd => hb.directory_iff.2 (hgrown.keeps.directory hd)
    have hxfree : ¬x.HasDirectory (l ++ [generatedName source.stem]) := by
      obtain ⟨content, hfile⟩ := hlast.exists_hasFile (get?_set_self hl.2)
      rw [hb.directory_iff]
      exact hfile.not_hasDirectory
    exact ⟨_, .written (hdocument.trans hok) houtput (makeDirectories_of_leadsTo hxl)
        ((write?_join hn hxl.1 hxl.2).2 ⟨hshort, hxfree, rfl⟩),
      hb.set hxl.2 hxfree hl.2 hfree fun _ _ => hasFile_makeDirectories_iff hmade⟩

/-- Binding headers again, in a tree between that of the first time and the last one, comes to the same and to the last
tree. -/
theorem BindsAll.again {r : Except Failure RunResult} (h : BindsAll output sources t r w) (ht₀ : t₀.WellFormed)
    (hd : t₀.HasDirectory []) (hsources : ∀ source ∈ sources, ∃ l, t₀.Holds l source) (ht : Grows t₀ t)
    (hx : Grows t₀ x) (hb : Between t w x) : BindsAll output sources x r w := by
  -- over the steps of the first run; the headers are where they were in the tree before it
  induction h generalizing x with
  | nil =>
    rw [hb.eq_last (hx.wellFormed ht₀) (ht.wellFormed ht₀) fun _ _ => .rfl]
    exact .nil
  | stops hstep =>
    obtain ⟨l, hl⟩ := hsources _ List.mem_cons_self
    have hw := ht.trans (hstep.grows (ht.keeps.directory hd) hl.isName_generatedName)
    obtain ⟨hagain, hsame⟩ :=
      hstep.stops_again (ht.keeps.directory hd) ((hw.document_eq hl).trans (ht.document_eq hl).symm)
    rw [hb.eq_last (hx.wellFormed ht₀) (hw.wellFormed ht₀) hsame]
    exact .stops hagain
  | goesOn hstep hrest ih =>
    obtain ⟨hsource, hsources⟩ := List.forall_mem_cons.1 hsources
    obtain ⟨l, hl⟩ := hsource
    have hu := ht.trans (hstep.grows (ht.keeps.directory hd) hl.isName_generatedName)
    have hlast := hrest.grows (hu.keeps.directory hd) fun source hs =>
      (hsources source hs).elim fun _ hholds => hholds.isName_generatedName
    obtain ⟨y, hagain, hby⟩ := hstep.goesOn_again (ht.keeps.directory hd) hl.isName_generatedName hlast hb
      ((hx.document_eq hl).trans (ht.document_eq hl).symm)
    have hxd : x.HasDirectory [] := hx.keeps.directory hd
    exact .goesOn hagain (ih hsources hu (hx.trans (hagain.grows hxd hl.isName_generatedName)) hby)

theorem Runs.again {o : RunOptions} {r : Except Failure RunResult} (h : Runs o t r w) (ht : t.WellFormed) :
    Runs o w r w := by
  have hgrows := h.grows ht
  cases h with
  | noInput hlist => exact .noInput hlist
  | bound hlist hall =>
    obtain ⟨listing, hlist', hheaders⟩ := hgrows.list? ht hlist
    refine .bound hlist' ?_
    rw [hheaders]
    exact hall.again ht (hasDirectory_of_list? hlist) (fun source hs => ht.exists_holds hlist hs) .refl hgrows
      (.last t w)

/-! ## Documents are no headers -/

/-- There is a header at a location for those who look below a directory. -/
def FileTree.Finds (t : FileTree) (directory : String) (l : List String) : Prop :=
  ∃ listing source, t.list? directory = some listing ∧ source ∈ listing.headers directory ∧
    t.follow? [] (Path.parts source.headerPath) = some l

theorem FileTree.WellFormed.not_finds {directory : String} {l : List String} (ht : t.WellFormed)
    (hl : IsDocumentPlace l) : ¬t.Finds directory l := by
  rintro ⟨listing, source, hlist, hs, hheader⟩
  obtain ⟨m, hholds⟩ := ht.exists_holds hlist hs
  have hsame : l = m ++ [source.stem ++ ".json"] := Option.some.inj (hheader.symm.trans hholds.header.1)
  exact hholds.header_not_isDocumentPlace (hsame ▸ hl)

/-- What a run tells to have written is in places of documents. -/
theorem Runs.isDocumentPlace_of_written {o : RunOptions} {result : RunResult} {path : String} {l : List String}
    (h : Runs o t (.ok result) u) (ht : t.WellFormed) (hpath : path ∈ result.written)
    (hl : v.follow? [] (Path.parts path) = some l) : IsDocumentPlace l := by
  cases h with
  | bound hlist hall =>
    rw [hall.written_eq] at hpath
    cases houtput : o.output with
    | none =>
      rw [houtput] at hpath
      cases hpath
    | some directory =>
      rw [houtput] at hpath
      obtain ⟨source, hs, rfl⟩ := List.mem_map.1 hpath
      obtain ⟨m, hholds⟩ := ht.exists_holds hlist hs
      obtain ⟨l', _, _, rfl⟩ := (follow?_join hholds.isName_generatedName).1 hl
      exact ⟨l', source.stem, rfl⟩

/-! ## Two runs -/

open Session

/-- **Running again.** The second run comes to the same as the first and leaves the files as the first left them. What
the first run changes and what it tells to have written are documents, in places where no header is ever found. -/
theorem run_again {o : RunOptions} {s s₁ s₂ : Session} {r r' : Except Failure RunResult} (hw : s.files.WellFormed)
    (h : s.perform (Session.workspace.run o) = (r, s₁)) (h' : s₁.perform (Session.workspace.run o) = (r', s₂)) :
    r' = r ∧ s₂.files = s₁.files ∧
      (∀ {l content}, ¬IsDocumentPlace l → (s₁.files.HasFile l content ↔ s.files.HasFile l content)) ∧
      (∀ {result path l}, r = .ok result → path ∈ result.written →
        s₁.files.follow? [] (Path.parts path) = some l → IsDocumentPlace l) ∧
      ∀ {later : FileTree} {directory l}, later.WellFormed → IsDocumentPlace l → ¬later.Finds directory l := by
  have hfirst := runs_run o s
  rw [h] at hfirst
  have hsecond := (runs_iff o s₁).1 (hfirst.again hw)
  rw [h'] at hsecond
  refine ⟨hsecond.1, hsecond.2, (hfirst.grows hw).keeps.file_iff, ?_, fun hlater hl => hlater.not_finds hl⟩
  rintro result path l rfl hpath hl
  exact hfirst.isDocumentPlace_of_written hw hpath hl

/-- The output directory may lie inside the input directory. -/
theorem run_again_inside_input :
    (twoHeaders "M" "N").files.WellFormed ∧
      ∃ r s₁ s₂, (twoHeaders "M" "N").perform (Session.workspace.run ⟨"in", some "in/a"⟩) = (.ok r, s₁) ∧
        r.written = ["in/a/M.gen.json", "in/a/N.gen.json"] ∧
        s₁.perform (Session.workspace.run ⟨"in", some "in/a"⟩) = (.ok r, s₂) ∧ s₂.files = s₁.files := by
  have hw : (twoHeaders "M" "N").files.WellFormed := wellFormed_twoHeaders (by decide) (by decide)
  obtain ⟨r, s₁, h, hwritten⟩ := exists_perform_of_any (s := twoHeaders "M" "N")
    (x := Session.workspace.run ⟨"in", some "in/a"⟩)
    (p := fun r => r.written = ["in/a/M.gen.json", "in/a/N.gen.json"]) (by decide +kernel)
  obtain ⟨r', s₂, h'⟩ : ∃ r' s₂, s₁.perform (Session.workspace.run ⟨"in", some "in/a"⟩) = (r', s₂) := ⟨_, _, rfl⟩
  obtain ⟨rfl, hfiles, _⟩ := run_again hw h h'
  exact ⟨hw, r, s₁, s₂, h, by simpa using hwritten, h', hfiles⟩

end Bindings
