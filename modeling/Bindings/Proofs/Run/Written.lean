import Bindings.Proofs.Run.Steps
import Mathlib.Data.List.Nodup

/-!
# What a run writes

Every document goes into the output directory under the stem of its header, wherever the header was found.

* `BindsAll.written_eq`: the paths of the documents, in the order of the headers.
* `Binds.deposits`, `BindsAll.depositsAll`: one header, and all of them, put their documents there and leave the other
  files of the directory.
* `run_depositsAll`: a run puts the documents of all headers there.
* `run_documents`: what a run that succeeds has written. The file of a stem holds the last document of that stem, so
  the documents are kept apart exactly when the headers have different stems.
* `one_stem_overwritten`: a document that is lost.
-/

namespace Bindings

open Session

/-- Where documents are written, each has its path. -/
theorem Binds.path_eq {output path : Option String} {source : HeaderSource} {d : BindingDocument} {t u : FileTree}
    (h : Binds output source t (.ok (d, path)) u) :
    path = output.map fun directory => Path.join directory (generatedName source.stem) := by
  cases h with
  | checked _ houtput => rw [houtput, Option.map_none]
  | written _ houtput _ _ => rw [houtput, Option.map_some]

/-- Binding a header puts its document into the directory. -/
theorem Binds.deposits {directory : String} {source : HeaderSource} {d : BindingDocument} {path : Option String}
    {t u : FileTree} (h : Binds (some directory) source t (.ok (d, path)) u) (hs : IsName (generatedName source.stem)) :
    FileTree.Deposits directory (generatedName source.stem) d.text.toUTF8 t u := by
  cases h with
  | checked _ houtput => cases houtput
  | written _ houtput hmade hwrite =>
    cases houtput
    refine FileTree.deposits_of_write? hs ?_
    rw [hmade]
    exact hwrite

/-! ## All headers -/

/-- Documents are put into a directory one after another, each under the stem of its header. -/
inductive DepositsAll (directory : String) : List HeaderSource → List BindingDocument → FileTree → FileTree → Prop
  | nil {t : FileTree} : DepositsAll directory [] [] t t
  | cons {source : HeaderSource} {sources : List HeaderSource} {d : BindingDocument} {ds : List BindingDocument}
      {t u v : FileTree} : FileTree.Deposits directory (generatedName source.stem) d.text.toUTF8 t u →
      DepositsAll directory sources ds u v → DepositsAll directory (source :: sources) (d :: ds) t v

namespace DepositsAll

variable {directory : String} {sources : List HeaderSource} {ds : List BindingDocument} {t u : FileTree}

theorem length_eq (h : DepositsAll directory sources ds t u) : ds.length = sources.length := by
  induction h with
  | nil => rfl
  | cons _ _ ih => simp [ih]

/-- A file stays that has the name of none of the documents. -/
theorem at_other (h : DepositsAll directory sources ds t u) {name : String} {content : ByteArray} (hn : IsName name)
    (hne : ∀ source ∈ sources, generatedName source.stem ≠ name)
    (hfile : t.at? (Path.join directory name) = some (.file content)) :
    u.at? (Path.join directory name) = some (.file content) := by
  induction h with
  | nil => exact hfile
  | cons hdeposit _ ih =>
    have hhere := hne _ List.mem_cons_self
    exact ih (fun source hs => hne source (List.mem_cons_of_mem _ hs)) (hdeposit.at_other hn (Ne.symm hhere) hfile)

/-- The last document of a stem stays. -/
theorem at_last (h : DepositsAll directory sources ds t u)
    (hnames : ∀ source ∈ sources, IsName (generatedName source.stem)) {i : Nat} {source : HeaderSource}
    {d : BindingDocument} (hs : sources[i]? = some source) (hd : ds[i]? = some d)
    (hlast : ∀ later ∈ sources.drop (i + 1), later.stem ≠ source.stem) :
    u.at? (Path.join directory (generatedName source.stem)) = some (.file d.text.toUTF8) := by
  induction h generalizing i with
  | nil => cases hs
  | cons hdeposit hrest ih =>
    have hrestNames := fun s hs => hnames s (List.mem_cons_of_mem _ hs)
    cases i with
    | zero =>
      cases hs
      cases hd
      refine hrest.at_other (hnames _ List.mem_cons_self) (fun later hl hsame => ?_) hdeposit.at_name
      exact hlast later hl (generatedName_injective hsame)
    | succ i => exact ih hrestNames hs hd hlast

end DepositsAll

/-- The paths of the documents of headers. -/
def documentPaths (directory : String) (sources : List HeaderSource) : List String :=
  sources.map fun source => Path.join directory (generatedName source.stem)

theorem nodup_documentPaths_iff (directory : String) {sources : List HeaderSource} :
    (documentPaths directory sources).Nodup ↔ (sources.map (·.stem)).Nodup := by
  have hpaths : documentPaths directory sources =
      (sources.map (·.stem)).map fun stem => Path.join directory (generatedName stem) := by
    simp [documentPaths]
  have hinj : Function.Injective fun stem => Path.join directory (generatedName stem) :=
    fun _ _ h => generatedName_injective (Path.join_injective directory h)
  rw [hpaths, List.nodup_map_iff hinj]

theorem BindsAll.written_eq {output : Option String} {sources : List HeaderSource} {t u : FileTree} {result : RunResult}
    (h : BindsAll output sources t (.ok result) u) :
    result.written = (output.map fun directory => documentPaths directory sources).getD [] := by
  generalize hr : Except.ok result = r at h
  induction h generalizing result with
  | nil =>
    cases hr
    cases output <;> rfl
  | stops _ => cases hr
  | @goesOn source sources _ _ _ d path r hstep _ ih =>
    cases r with
    | error e => cases hr
    | ok rest =>
      cases hr
      show path.toList ++ rest.written = _
      rw [ih rfl, hstep.path_eq]
      cases output <;> rfl

/-- Binding headers puts their documents into the directory. -/
theorem BindsAll.depositsAll {directory : String} {sources : List HeaderSource} {t u : FileTree} {result : RunResult}
    (h : BindsAll (some directory) sources t (.ok result) u)
    (hnames : ∀ source ∈ sources, IsName (generatedName source.stem)) :
    DepositsAll directory sources result.documents t u := by
  generalize hr : Except.ok result = r at h
  induction h generalizing result with
  | nil =>
    cases hr
    exact .nil
  | stops _ => cases hr
  | @goesOn _ _ _ _ _ _ _ r hstep _ ih =>
    cases r with
    | error e => cases hr
    | ok rest =>
      cases hr
      obtain ⟨hsource, hsources⟩ := List.forall_mem_cons.1 hnames
      exact .cons (hstep.deposits hsource) (ih hsources rfl)

/-! ## Whole runs -/

/-- Every document of a result is in a file of its own. -/
def RunResult.KeepsApart (r : RunResult) (files : FileTree) : Prop :=
  r.written.length = r.documents.length ∧ r.written.Nodup ∧
    ∀ {i : Nat} {path : String} {d : BindingDocument}, r.written[i]? = some path → r.documents[i]? = some d →
      files.at? path = some (.file d.text.toUTF8)

/-- A stem does not come again among stems that are different. -/
theorem stem_ne_of_mem_drop {sources : List HeaderSource} (h : (sources.map (·.stem)).Nodup) {i : Nat}
    {source later : HeaderSource} (hs : sources[i]? = some source) (hl : later ∈ sources.drop (i + 1)) :
    later.stem ≠ source.stem := by
  obtain ⟨hi, rfl⟩ := List.getElem?_eq_some_iff.1 hs
  have hdrop : (sources.drop i).map (·.stem) = sources[i].stem :: (sources.drop (i + 1)).map (·.stem) := by
    rw [List.drop_eq_getElem_cons hi, List.map_cons]
  have hnodup : ((sources.drop i).map (·.stem)).Nodup := by
    rw [List.map_drop]
    exact h.sublist (List.drop_sublist i _)
  rw [hdrop] at hnodup
  intro hsame
  exact (List.nodup_cons.1 hnodup).1 (hsame ▸ List.mem_map_of_mem hl)

theorem DepositsAll.keepsApart_iff {directory : String} {sources : List HeaderSource} {t u : FileTree} {r : RunResult}
    (h : DepositsAll directory sources r.documents t u) (hwritten : r.written = documentPaths directory sources)
    (hnames : ∀ source ∈ sources, IsName (generatedName source.stem)) :
    r.KeepsApart u ↔ (sources.map (·.stem)).Nodup := by
  rw [← nodup_documentPaths_iff directory, ← hwritten]
  refine ⟨fun hkept => hkept.2.1, fun hnodup => ⟨?_, hnodup, fun {i path d} hpath hd => ?_⟩⟩
  · rw [hwritten, documentPaths, List.length_map, h.length_eq]
  · rw [hwritten, nodup_documentPaths_iff] at hnodup
    rw [hwritten, documentPaths, List.getElem?_map, Option.map_eq_some_iff] at hpath
    obtain ⟨source, hs, rfl⟩ := hpath
    exact h.at_last hnames hs hd fun later hl => stem_ne_of_mem_drop hnodup hs hl

/-- A run that succeeds puts the documents of the headers below the input directory into the output directory. -/
theorem run_depositsAll {o : RunOptions} {directory : String} {s s' : Session} {r : RunResult}
    (hw : s.files.WellFormed) (ho : o.output = some directory)
    (h : s.perform (Session.workspace.run o) = (.ok r, s')) :
    ∃ listing, s.files.list? o.input = some listing ∧
      (∀ source ∈ listing.headers o.input, IsName (generatedName source.stem)) ∧
      r.written = documentPaths directory (listing.headers o.input) ∧
      DepositsAll directory (listing.headers o.input) r.documents s.files s'.files := by
  have hrun := runs_run o s
  rw [h] at hrun
  cases hrun with
  | @bound listing _ _ hlist hall =>
    have hnames := hw.isName_generatedName hlist
    rw [ho] at hall
    exact ⟨listing, hlist, hnames, hall.written_eq, hall.depositsAll hnames⟩

/-- **Documents of a run.** -/
theorem run_documents {o : RunOptions} {directory : String} {s s' : Session} {r : RunResult}
    (hw : s.files.WellFormed) (ho : o.output = some directory)
    (h : s.perform (Session.workspace.run o) = (.ok r, s')) :
    ∃ listing, s.files.list? o.input = some listing ∧
      r.documents.length = (listing.headers o.input).length ∧
      r.written = documentPaths directory (listing.headers o.input) ∧
      (∀ {i source d}, (listing.headers o.input)[i]? = some source → r.documents[i]? = some d →
        (∀ later ∈ (listing.headers o.input).drop (i + 1), later.stem ≠ source.stem) →
          s'.files.at? (Path.join directory (generatedName source.stem)) = some (.file d.text.toUTF8)) ∧
      (r.KeepsApart s'.files ↔ ((listing.headers o.input).map (·.stem)).Nodup) := by
  obtain ⟨listing, hlisting, hnames, hwritten, hdeposits⟩ := run_depositsAll hw ho h
  exact ⟨listing, hlisting, hdeposits.length_eq, hwritten, hdeposits.at_last hnames,
    hdeposits.keepsApart_iff hwritten hnames⟩

/-- The metadata of a header that has nothing but a name. -/
def bareHeader (name : String) : FileTree :=
  .file ("\x7b\"name\": \"" ++ name ++ "\"\x7d").toUTF8

/-- A session with two headers, of the given stems and in different directories. -/
def twoHeaders (first second : String) : Session :=
  ⟨.directory [("in", .directory [
    ("a", .directory [(first ++ ".json", bareHeader "A")]),
    ("b", .directory [(second ++ ".json", bareHeader "B")])])], []⟩

theorem wellFormed_twoHeaders {first second : String} (hf : IsName (first ++ ".json"))
    (hs : IsName (second ++ ".json")) : (twoHeaders first second).files.WellFormed := by
  have hin : IsName "in" := by decide
  have ha : IsName "a" := by decide
  have hb : IsName "b" := by decide
  have hab : "a" < "b" := by decide
  have hone {name : String} (hn : IsName name) (header : String) :
      (FileTree.directory [(name, bareHeader header)]).WellFormed :=
    ⟨List.pairwise_singleton _ _, hn, trivial, trivial⟩
  exact ⟨List.pairwise_singleton _ _, hin,
    ⟨List.pairwise_pair.2 hab, ha, hone hf "A", hb, hone hs "B", trivial⟩, trivial⟩

theorem two_stems_kept :
    (twoHeaders "M" "N").files.WellFormed ∧
      ∃ r s', (twoHeaders "M" "N").perform (Session.workspace.run ⟨"in", some "out"⟩) = (.ok r, s') ∧
        r.KeepsApart s'.files := by
  have hw : (twoHeaders "M" "N").files.WellFormed := wellFormed_twoHeaders (by decide) (by decide)
  obtain ⟨r, s', h, _⟩ := exists_perform_of_any (s := twoHeaders "M" "N")
    (x := Session.workspace.run ⟨"in", some "out"⟩) (p := fun _ => true) (by decide +kernel)
  obtain ⟨listing, hlisting, _, _, _, hiff⟩ := run_documents hw rfl h
  have hfound : ((twoHeaders "M" "N").files.list? "in").map (fun l => (l.headers "in").map (·.stem)) =
      some ["M", "N"] := by decide +kernel
  rw [hlisting] at hfound
  have hstems : (listing.headers "in").map (·.stem) = ["M", "N"] := Option.some.inj hfound
  refine ⟨hw, r, s', h, hiff.2 ?_⟩
  show ((listing.headers "in").map (·.stem)).Nodup
  rw [hstems]
  decide

/-- Two headers of one stem are written to one file. -/
theorem one_stem_overwritten :
    (twoHeaders "M" "M").files.WellFormed ∧
      ∃ r s', (twoHeaders "M" "M").perform (Session.workspace.run ⟨"in", some "out"⟩) = (.ok r, s') ∧
        r.documents.map (·.header) = ["A", "B"] ∧ r.written = ["out/M.gen.json", "out/M.gen.json"] ∧
        ¬r.KeepsApart s'.files := by
  obtain ⟨r, s', h, hr⟩ := exists_perform_of_any (s := twoHeaders "M" "M")
    (x := Session.workspace.run ⟨"in", some "out"⟩)
    (p := fun r => r.documents.map (·.header) = ["A", "B"] && r.written = ["out/M.gen.json", "out/M.gen.json"])
    (by decide +kernel)
  obtain ⟨hdocuments, hwritten⟩ :
      r.documents.map (·.header) = ["A", "B"] ∧ r.written = ["out/M.gen.json", "out/M.gen.json"] := by
    simpa using hr
  refine ⟨wellFormed_twoHeaders (by decide) (by decide), r, s', h, hdocuments, hwritten, fun hkept => ?_⟩
  have hnodup := hkept.2.1
  rw [hwritten] at hnodup
  exact absurd hnodup (by decide)

end Bindings
