import Bindings.Proofs.Files.Contents
import Bindings.Proofs.Run.Check
import Bindings.Proofs.Run.Frame

/-!
# How far a run gets

A run stops at the first header that fails. The documents of the headers before it are in the output directory, and the
headers after it might as well hold anything else.

* `SameTexts.document_eq_ok`: the document of a header depends on its stem and on the texts of its two files.
* `BindsAll.withContents`: binding headers comes to the same in a tree where other headers hold something else.
* `run_keeps_prefix`: how far a run gets, with what it leaves.
-/

namespace Bindings

open FileTree

variable {output : Option String} {source other : HeaderSource} {sources before after : List HeaderSource}
  {t u v : FileTree} {l m : List String} {contents : List String → Option ByteArray} {d : BindingDocument} {e : Failure}

/-! ## What a document depends on -/

/-- Metadata is read in the same way wherever it is from. -/
theorem Header.parse_eq_ok_iff {text origin : String} {h : Header} :
    Header.parse text origin = .ok h ↔ (Json.Document.ofText? text).bind Header.ofDocument? = some h := by
  rw [Header.parse]
  cases (Json.Document.ofText? text).bind Header.ofDocument? <;> simp

theorem HeaderConfig.parse_eq_ok_iff {text origin : String} {c : HeaderConfig} :
    HeaderConfig.parse text origin = .ok c ↔ (Toml.ofText? text).bind HeaderConfig.ofData? = some c := by
  rw [HeaderConfig.parse]
  cases (Toml.ofText? text).bind HeaderConfig.ofData? <;> simp

/-- Two headers have the same stem, the same metadata and the same configuration, each in its own tree. -/
structure SameTexts (t : FileTree) (source : HeaderSource) (u : FileTree) (other : HeaderSource) : Prop where
  stem_eq : other.stem = source.stem
  header_eq : u.read? other.headerPath = t.read? source.headerPath
  config_eq : other.configPath.map u.read? = source.configPath.map t.read?

namespace SameTexts

theorem header_eq_ok (h : SameTexts t source u other) {header : Header} (hok : t.header source = .ok header) :
    u.header other = .ok header := by
  rw [FileTree.header] at hok ⊢
  rw [h.header_eq, h.stem_eq]
  cases hread : t.read? source.headerPath with
  | none =>
    rw [hread] at hok
    cases hok
  | some text =>
    rw [hread] at hok
    obtain ⟨parsed, hparsed, hok⟩ := bind_eq_ok_iff.1 hok
    exact bind_eq_ok_iff.2 ⟨parsed, Header.parse_eq_ok_iff.2 (Header.parse_eq_ok_iff.1 hparsed), hok⟩

theorem config_eq_ok (h : SameTexts t source u other) {config : HeaderConfig} (hok : t.config source = .ok config) :
    u.config other = .ok config := by
  have hconfig := h.config_eq
  rw [FileTree.config] at hok ⊢
  cases hpath : source.configPath with
  | none =>
    rw [hpath] at hok hconfig
    rw [Option.map_eq_none_iff.1 hconfig]
    exact hok
  | some path =>
    rw [hpath] at hok hconfig
    obtain ⟨path', hpath', hsame⟩ := Option.map_eq_some_iff.1 hconfig
    rw [hpath']
    dsimp only at hok ⊢
    rw [hsame]
    cases hread : t.read? path with
    | none =>
      rw [hread] at hok
      cases hok
    | some text =>
      rw [hread] at hok
      exact HeaderConfig.parse_eq_ok_iff.2 (HeaderConfig.parse_eq_ok_iff.1 hok)

theorem document_eq_ok (h : SameTexts t source u other) (hok : t.document source = .ok d) :
    u.document other = .ok d := by
  rw [FileTree.document] at hok ⊢
  obtain ⟨header, hheader, hok⟩ := bind_eq_ok_iff.1 hok
  obtain ⟨config, hconfig, hok⟩ := bind_eq_ok_iff.1 hok
  have hconfig' := h.config_eq_ok (mapError_eq_ok_iff.1 hconfig)
  refine bind_eq_ok_iff.2 ⟨header, h.header_eq_ok hheader, bind_eq_ok_iff.2 ⟨config, ?_, hok⟩⟩
  exact mapError_eq_ok_iff.2 hconfig'

end SameTexts

/-! ## Places of headers -/

/-- There is the metadata of one of the headers at a location, or its configuration. -/
def FileTree.IsSourceOf (t : FileTree) (sources : List HeaderSource) (l : List String) : Prop :=
  ∃ source path, source ∈ sources ∧ (path = source.headerPath ∨ source.configPath = some path) ∧
    t.follow? [] (Path.parts path) = some l

theorem FileTree.IsSourceOf.exists_holds (h : t.IsSourceOf sources l) (hs : t.HoldsAll sources) :
    ∃ source m, source ∈ sources ∧ t.Holds m source ∧
      (l = m ++ [source.stem ++ ".json"] ∨ l = m ++ [source.stem ++ ".toml"]) := by
  obtain ⟨source, path, hmem, hpath, hfollow⟩ := h
  obtain ⟨m, hholds⟩ := hs source hmem
  refine ⟨source, m, hmem, hholds, ?_⟩
  rcases hpath with rfl | hconfig
  · exact .inl (Option.some.inj (hfollow.symm.trans hholds.header.1))
  · exact .inr (Option.some.inj (hfollow.symm.trans (hholds.config hconfig).1))

theorem FileTree.IsSourceOf.not_isDocumentPlace (h : t.IsSourceOf sources l) (hs : t.HoldsAll sources) :
    ¬IsDocumentPlace l := by
  obtain ⟨source, m, _, hholds, rfl | rfl⟩ := h.exists_holds hs
  · exact hholds.header_not_isDocumentPlace
  · exact not_isDocumentPlace_config m source.stem

/-- The files of a header are none of those of other headers. -/
theorem FileTree.Holds.not_isSourceOf (hl : t.Holds l source) (hs : t.HoldsAll sources)
    (hother : ∀ other ∈ sources,
      t.follow? [] (Path.parts source.headerPath) ≠ t.follow? [] (Path.parts other.headerPath)) :
    ¬t.IsSourceOf sources (l ++ [source.stem ++ ".json"]) ∧ ¬t.IsSourceOf sources (l ++ [source.stem ++ ".toml"]) := by
  have hdiffer {other : HeaderSource} {m : List String} (hmem : other ∈ sources) (hm : t.Holds m other) :
      l ++ [source.stem ++ ".json"] ≠ m ++ [other.stem ++ ".json"] := fun hsame =>
    hother other hmem (hl.header.1.trans (hsame ▸ hm.header.1.symm))
  have hlast {m : List String} {a b : String} (h : l ++ [a] = m ++ [b]) : l = m ∧ a = b := by
    simpa using List.append_inj' h rfl
  constructor
  · intro h
    obtain ⟨other, m, hmem, hm, hjson | htoml⟩ := h.exists_holds hs
    · exact hdiffer hmem hm hjson
    · exact headerName_ne_config _ _ (hlast htoml).2
  · intro h
    obtain ⟨other, m, hmem, hm, hjson | htoml⟩ := h.exists_holds hs
    · exact headerName_ne_config _ _ (hlast hjson).2.symm
    · -- configurations of one directory and one stem belong to one header
      obtain ⟨rfl, hname⟩ := hlast htoml
      have hstem : source.stem = other.stem := (String.append_left_inj _).1 hname
      exact hdiffer hmem hm (by rw [hstem])

/-! ## Other contents -/

/-- A header is in a tree, and neither of its files is given another content. -/
def FileTree.Spares (t : FileTree) (contents : List String → Option ByteArray) (source : HeaderSource) : Prop :=
  ∃ l, t.Holds l source ∧ contents (l ++ [source.stem ++ ".json"]) = none ∧
    contents (l ++ [source.stem ++ ".toml"]) = none

theorem FileTree.Spares.document_withContents (h : t.Spares contents source) :
    (t.withContents contents).document source = t.document source := by
  obtain ⟨l, hl, hheader, hconfig⟩ := h
  refine document_congr ?_ fun path hpath => ?_
  · rw [read?, read?, at?_withContents hl.header hheader]
  · rw [read?, read?, at?_withContents (hl.config hpath) hconfig]

theorem FileTree.Spares.grows (h : t.Spares contents source) (hg : Grows t u) : u.Spares contents source := by
  obtain ⟨l, hl, hsame⟩ := h
  exact ⟨l, hg.holds hl, hsame⟩

section

variable (hdocuments : ∀ l, IsDocumentPlace l → contents l = none)
include hdocuments

/-- Binding a header comes to the same and leaves the same, whatever other headers hold. -/
theorem Binds.withContents {r : Except Failure (BindingDocument × Option String)} (h : Binds output source t r u)
    (hspared : t.Spares contents source) :
    Binds output source (t.withContents contents) r (u.withContents contents) := by
  have hdocument := hspared.document_withContents
  obtain ⟨l, hl, _⟩ := hspared
  have hmakes {directory : String} {done : Bool} {v : FileTree} (hmade : t.makeDirectories directory = (done, v)) :
      (t.withContents contents).makeDirectories directory = (done, v.withContents contents) := by
    rw [makeDirectories_withContents, hmade]
  have hwrites (v : FileTree) (directory text : String) := write?_withContents v directory text.toUTF8
    hl.isName_generatedName fun l => hdocuments _ ⟨l, source.stem, rfl⟩
  cases h with
  | refused hrefused => exact .refused (hdocument.trans hrefused)
  | checked hok houtput => exact .checked (hdocument.trans hok) houtput
  | uncreated hok houtput hmade => exact .uncreated (hdocument.trans hok) houtput (hmakes hmade)
  | unwritten hok houtput hmade hwrite =>
    exact .unwritten (hdocument.trans hok) houtput (hmakes hmade) (by rw [hwrites, hwrite]; rfl)
  | written hok houtput hmade hwrite =>
    exact .written (hdocument.trans hok) houtput (hmakes hmade) (by rw [hwrites, hwrite]; rfl)

theorem BindsAll.withContents {r : Except Failure RunResult} (h : BindsAll output sources t r u)
    (hd : t.HasDirectory []) (hspared : ∀ source ∈ sources, t.Spares contents source) :
    BindsAll output sources (t.withContents contents) r (u.withContents contents) := by
  induction h with
  | nil => exact .nil
  | stops hstep => exact .stops (hstep.withContents hdocuments (hspared _ List.mem_cons_self))
  | goesOn hstep _ ih =>
    obtain ⟨hsource, hsources⟩ := List.forall_mem_cons.1 hspared
    have hgrown := hstep.grows hd (hsource.elim fun _ hl => hl.1.isName_generatedName)
    exact .goesOn (hstep.withContents hdocuments hsource)
      (ih (hgrown.keeps.directory hd) fun source hs => (hsources source hs).grows hgrown)

end

/-! ## What a run leaves -/

/-- A directory has the documents of headers as another tree says them, the last one of each stem, and apart from these
the files are those of that tree. -/
structure HasPrefix (directory : String) (sources : List HeaderSource) (documents : List BindingDocument)
    (t u : FileTree) : Prop where
  hasDocuments : t.HasDocuments sources documents
  at_last {i : Nat} {source : HeaderSource} {d : BindingDocument} : sources[i]? = some source → documents[i]? = some d →
    (∀ later ∈ sources.drop (i + 1), later.stem ≠ source.stem) →
      u.at? (Path.join directory (generatedName source.stem)) = some (.file d.text.toUTF8)
  file_iff {l : List String} {content : ByteArray} : ¬u.IsPlaceOf (some directory) sources l →
    (u.HasFile l content ↔ t.HasFile l content)

theorem FileTree.Keeps.at?_eq_file {path : String} {content : ByteArray} (h : Keeps (fun _ => False) t u)
    (hat : t.at? path = some (.file content)) : u.at? path = some (.file content) := by
  rw [at?] at hat ⊢
  split at hat
  · cases hat
  · rename_i hne
    obtain ⟨l, hl, hget⟩ := Option.bind_eq_some_iff.1 hat
    rw [if_neg hne, h.follow? hl, Option.bind_some]
    exact (h.file_iff id).2 hget

/-- Headers that are bound have put their documents into the directory. -/
theorem BindsAll.hasPrefix {directory : String} {result : RunResult}
    (h : BindsAll (some directory) sources t (.ok result) u) (hd : t.HasDirectory []) (hs : t.HoldsAll sources) :
    HasPrefix directory sources result.documents t u :=
  have hnames := hs.isName_generatedName
  ⟨(h.documents hd hs .refl).1, (h.depositsAll hnames).at_last hnames, (h.keeps hnames).file_iff⟩

/-- A step that fails leaves the documents alone. -/
theorem HasPrefix.stop {directory : String} {documents : List BindingDocument}
    (h : HasPrefix directory sources documents t v) (hstop : Binds output source v (.error e) u) :
    HasPrefix directory sources documents t u := by
  have hkept := hstop.keeps_of_error
  refine ⟨h.hasDocuments, fun hs hd hlast => hkept.at?_eq_file (h.at_last hs hd hlast), fun hl => ?_⟩
  exact (hkept.file_iff id).trans (h.file_iff fun hplace => hl (hplace.mono hkept.directory (List.Subset.refl _)))

/-- No file of the headers up to one is a file of the headers after it, nor is a document. -/
theorem FileTree.WellFormed.spares {listing : Listing} {path : String} (hw : t.WellFormed)
    (hlist : t.list? path = some listing) (hsplit : listing.headers path = before ++ after)
    (hcontents : ∀ l, contents l ≠ none → t.IsSourceOf after l) :
    (∀ source ∈ before, t.Spares contents source) ∧ ∀ l, IsDocumentPlace l → contents l = none := by
  have hs := hw.holdsAll hlist
  rw [hsplit] at hs
  obtain ⟨hbefore, hafter⟩ := List.forall_mem_append.1 hs
  have hnone {l : List String} (h : ¬t.IsSourceOf after l) : contents l = none :=
    Decidable.byContradiction fun hne => h (hcontents l hne)
  refine ⟨fun source hmem => ?_, fun l hl => hnone fun h => h.not_isDocumentPlace hafter hl⟩
  obtain ⟨l, hl⟩ := hbefore source hmem
  have hnodup := hw.nodup_follow?_headerPath hlist
  rw [hsplit, List.map_append] at hnodup
  obtain ⟨hheader, hconfig⟩ := hl.not_isSourceOf hafter fun other hother =>
    (List.nodup_append.1 hnodup).2.2 _ (List.mem_map_of_mem hmem) _ (List.mem_map_of_mem hother)
  exact ⟨l, hl, hnone hheader, hnone hconfig⟩

/-- A run fails at a header: its document or writing that fails, and whatever the headers after it hold, the run fails
with the same and leaves the same documents. -/
structure FailsAt (o : RunOptions) (source : HeaderSource) (after : List HeaderSource) (e : Failure) (s s' : Session) :
    Prop where
  refused_or_unwritten : s.files.document source = .error e ∨
    e.cause.isOfWriting = true ∧ ∃ d, s.files.document source = .ok d
  again {contents : List String → Option ByteArray} {s₂ : Session} :
    (∀ l, contents l ≠ none → s.files.IsSourceOf after l) → s₂.files = s.files.withContents contents →
      ∃ s₂', s₂.perform (Session.workspace.run o) = (.error e, s₂') ∧ s₂'.files = s'.files.withContents contents ∧
        ∀ {l content}, IsDocumentPlace l → (s₂'.files.HasFile l content ↔ s'.files.HasFile l content)

theorem BindsAll.failsAt {o : RunOptions} {listing : Listing} {s s' : Session} {result : RunResult}
    (hw : s.files.WellFormed) (hlist : s.files.list? o.input = some listing)
    (hsplit : listing.headers o.input = before ++ source :: after)
    (h : BindsAll o.output before s.files (.ok result) v) (hstop : Binds o.output source v (.error e) s'.files) :
    FailsAt o source after e s s' := by
  have hd := hasDirectory_of_list? hlist
  have hs := hw.holdsAll hlist
  rw [hsplit] at hs
  obtain ⟨hbefore, ⟨l, hl⟩, _⟩ := holdsAll_append_cons_iff.1 hs
  have hgrown := (h.documents hd hbefore .refl).2
  refine ⟨?_, fun {contents s₂} hcontents hfiles => ?_⟩
  · rw [← hgrown.document_eq hl]
    exact hstop.error_cases
  · -- up to the header that fails the second run reads the same, and there it stops as well
    rw [List.append_cons] at hsplit
    obtain ⟨hspared, hdocuments⟩ := hw.spares hlist hsplit hcontents
    obtain ⟨hspared, hsource⟩ := List.forall_mem_append.1 hspared
    have hall := (h.withContents hdocuments hd hspared).append_stop
      (hstop.withContents hdocuments ((hsource source List.mem_cons_self).grows hgrown)) after
    rw [List.append_cons, ← hsplit, ← hfiles] at hall
    have hlist₂ : s₂.files.list? o.input = some listing := by
      rw [hfiles, list?_withContents, hlist]
    obtain ⟨hr, hfiles₂⟩ := (runs_iff o s₂).1 (.bound hlist₂ hall)
    refine ⟨(s₂.perform (Session.workspace.run o)).2, Prod.ext hr rfl, hfiles₂, fun {l content} hplace => ?_⟩
    rw [hfiles₂]
    exact hasFile_withContents_of_eq_none (hdocuments l hplace)

/-- **How far a run gets.** The headers before the one that fails have their documents written, and nothing else is
written; without a failure all have. A document depends on its own header only. -/
theorem run_keeps_prefix {o : RunOptions} {directory : String} {listing : Listing} {s s' : Session}
    {r : Except Failure RunResult} (hw : s.files.WellFormed) (ho : o.output = some directory)
    (hlist : s.files.list? o.input = some listing) (h : s.perform (Session.workspace.run o) = (r, s')) :
    (∃ before documents, HasPrefix directory before documents s.files s'.files ∧
      (listing.headers o.input = before ∧ r = .ok ⟨documents, documentPaths directory before⟩ ∨
        ∃ source after e, listing.headers o.input = before ++ source :: after ∧ r = .error e ∧
          FailsAt o source after e s s')) ∧
      ∀ {source d u other}, s.files.document source = .ok d → SameTexts s.files source u other →
        u.document other = .ok d := by
  have hrun := runs_run o s
  rw [h] at hrun
  have hall := hrun.bindsAll hlist
  have hd := hasDirectory_of_list? hlist
  have hs := hw.holdsAll hlist
  refine ⟨?_, fun hok hsame => hsame.document_eq_ok hok⟩
  cases r with
  | ok result =>
    rw [ho] at hall
    refine ⟨_, result.documents, hall.hasPrefix hd hs, .inl ⟨rfl, ?_⟩⟩
    have hwritten := hall.written_eq
    rw [Option.map_some, Option.getD_some] at hwritten
    rw [← hwritten]
  | error e =>
    obtain ⟨before, source, after, result, v, hsplit, hbefore, hstop⟩ := hall.exists_stop
    have hfails := hbefore.failsAt hw hlist hsplit hstop
    rw [ho] at hbefore
    have hprefix := hbefore.hasPrefix hd (holdsAll_append_cons_iff.1 (hsplit ▸ hs)).1
    exact ⟨before, result.documents, hprefix.stop hstop, .inr ⟨source, after, e, hsplit, rfl, hfails⟩⟩

/-- Three headers, the second of which is no metadata. -/
def threeInput : List (String × FileTree) :=
  [("a.json", bareHeader "A"), ("b.json", .file "\x7b".toUTF8), ("c.json", bareHeader "C")]

/-- The first of them has no module, no enums and no functions. -/
theorem document_threeInput :
    (inputSession threeInput).files.document ⟨"a", "in/a.json", none⟩ = .ok ⟨"A", none, [], []⟩ := by
  obtain ⟨⟨header, moduleName, enums, functions⟩, hd, hparts⟩ := exists_ok_of_any
    (x := (inputSession threeInput).files.document ⟨"a", "in/a.json", none⟩)
    (p := fun d => d.header = "A" && d.moduleName = none && d.enums.isEmpty && d.functions.isEmpty) (by decide +kernel)
  simp only [Bool.and_eq_true, decide_eq_true_eq, List.isEmpty_iff] at hparts
  obtain ⟨⟨⟨rfl, rfl⟩, rfl⟩, rfl⟩ := hparts
  exact hd

/-- The first header is written, and whatever the third is does not matter. -/
theorem third_header_without_influence :
    (inputSession threeInput).files.WellFormed ∧
      ∃ e s', (inputSession threeInput).perform (Session.workspace.run ⟨"in", some "out"⟩) = (.error e, s') ∧
        e.cause = .malformedHeader "in/b.json" ∧
        s'.files.at? "out/a.gen.json" = some (.file (BindingDocument.mk "A" none [] []).text.toUTF8) ∧
        ∀ (content : ByteArray) (s₂ : Session),
          s₂.files = (inputSession threeInput).files.withContents
              (fun l => if l = ["in", "c.json"] then some content else none) →
            ∃ s₂', s₂.perform (Session.workspace.run ⟨"in", some "out"⟩) = (.error e, s₂') := by
  have hw : (inputSession threeInput).files.WellFormed := by decide +kernel
  obtain ⟨e, s', h, hcause⟩ := Session.exists_perform_error_of_any (s := inputSession threeInput)
    (x := Session.workspace.run ⟨"in", some "out"⟩) (p := fun e => e.cause = .malformedHeader "in/b.json")
    (by decide +kernel)
  have hcause := of_decide_eq_true hcause
  have hlist : (inputSession threeInput).files.list? "in" = some (FileTree.directory threeInput).listing := by
    rw [FileTree.list?, at?_inputSession]
  obtain ⟨⟨before, documents, hprefix, ⟨_, hok⟩ | ⟨source, after, e', hsplit, he, hfails⟩⟩, _⟩ :=
    run_keeps_prefix hw rfl hlist h
  · cases hok
  · obtain rfl := Except.error.inj he
    have hsources : (FileTree.directory threeInput).listing.headers "in" =
        [⟨"a", "in/a.json", none⟩, ⟨"b", "in/b.json", none⟩, ⟨"c", "in/c.json", none⟩] := by decide +kernel
    rw [hsources] at hsplit
    -- the first header has a document and the second has none: the run can only stop at the second
    rcases before with _ | ⟨first, _ | ⟨second, rest⟩⟩
    · obtain ⟨rfl, _⟩ := List.cons.inj hsplit
      rcases hfails.refused_or_unwritten with hrefused | ⟨hwriting, _⟩
      · cases document_threeInput.symm.trans hrefused
      · rw [hcause] at hwriting
        cases hwriting
    · obtain ⟨rfl, hrest⟩ := List.cons.inj hsplit
      obtain ⟨rfl, rfl⟩ := List.cons.inj hrest
      obtain ⟨d, _, hd, _, rfl⟩ := List.forall₂_cons_left_iff.1 hprefix.hasDocuments
      cases document_threeInput.symm.trans hd
      have hpath : Path.join "out" (generatedName "a") = "out/a.gen.json" := by decide +kernel
      have hwritten := hprefix.at_last (i := 0) List.getElem?_cons_zero List.getElem?_cons_zero (by simp)
      rw [hpath] at hwritten
      refine ⟨hw, e, s', h, hcause, hwritten, fun content s₂ hs₂ => ?_⟩
      have hlater (l : List String) (hl : (if l = ["in", "c.json"] then some content else none) ≠ none) :
          (inputSession threeInput).files.IsSourceOf [⟨"c", "in/c.json", none⟩] l := by
        obtain rfl : l = ["in", "c.json"] := Decidable.byContradiction fun hne => hl (if_neg hne)
        exact ⟨_, "in/c.json", List.mem_singleton_self _, .inl rfl, by decide +kernel⟩
      obtain ⟨s₂', hs₂', _⟩ := hfails.again hlater hs₂
      exact ⟨s₂', hs₂'⟩
    · obtain ⟨_, hrest⟩ := List.cons.inj hsplit
      obtain ⟨rfl, _⟩ := List.cons.inj hrest
      obtain ⟨_, _, _, htail, _⟩ := List.forall₂_cons_left_iff.1 hprefix.hasDocuments
      obtain ⟨d, _, hd, _, _⟩ := List.forall₂_cons_left_iff.1 htail
      have hbad : ((inputSession threeInput).files.document ⟨"b", "in/b.json", none⟩).isOk = false := by decide +kernel
      rw [hd] at hbad
      cases hbad

end Bindings
