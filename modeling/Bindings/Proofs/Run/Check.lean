import Bindings.Proofs.BindingDocument.Functions
import Bindings.Proofs.Run.Stops

/-!
# Checking and generating

A run that only checks does all that one with an output directory does, except for writing.

* `isOfWriting_of_document`: only writing fails as writing does.
* `BindsAll.check_of_ok`, `BindsAll.check_of_error`: what checking comes to, read off from a run that writes.
* `BindsAll.writing_failed_before`: where the two fail with different things.
* `readsUnchanged`: no document that is written changes what is read later.
* `check_and_generate_agree`: the two runs side by side.
-/

namespace Bindings

open FileTree

/-- Directories or documents could not be written. -/
def Cause.isOfWriting : Cause → Bool
  | .directoryNotCreated _ | .fileNotWritten _ => true
  | _ => false

/-! ## Failures of documents -/

theorem NativeFunction.Rejected.isOfWriting_eq_false {module code : String} {f : NativeFunction} {c : FunctionConfig}
    {cause : Cause} (h : Rejected module f c cause code) : cause.isOfWriting = false := by
  cases h with
  | misnamed _ => rfl
  | refused _ hrefused => cases hrefused <;> rfl

theorem isOfWriting_of_generate {h : Header} {c : HeaderConfig} {e : Failure}
    (hfails : (h.generate c).outcome = .error e) : e.cause.isOfWriting = false := by
  obtain ⟨e₀, hall, rfl⟩ := (outcome_generate_eq_error_iff h c).1 hfails
  show e₀.cause.isOfWriting = false
  cases hm : c.moduleName with
  | none =>
    rw [transformAll_of_unnamed hm] at hall
    cases hall
  | some module =>
    obtain ⟨_, f, _, _, _, _, he⟩ := (outcome_transformAll_eq_error_iff hm).1 hall
    exact (NativeFunction.rejected_of_outcome hm he).1.isOfWriting_eq_false

theorem isOfWriting_of_header {t : FileTree} {source : HeaderSource} {e : Failure} (h : t.header source = .error e) :
    e.cause.isOfWriting = false := by
  rw [FileTree.header] at h
  split at h
  · cases h
    rfl
  · rcases bind_eq_error_iff.1 h with h | ⟨header, _, h⟩
    · rw [Header.parse] at h
      split at h
      · cases h
      · cases h
        rfl
    · cases h

theorem isOfWriting_of_config {t : FileTree} {source : HeaderSource} {e : Failure} (h : t.config source = .error e) :
    e.cause.isOfWriting = false := by
  rw [FileTree.config] at h
  split at h
  · cases h
  · split at h
    · cases h
      rfl
    · rw [HeaderConfig.parse] at h
      split at h
      · cases h
      · cases h
        rfl

/-- Loading and binding a header does not fail as writing does. -/
theorem isOfWriting_of_document {t : FileTree} {source : HeaderSource} {e : Failure} (h : t.document source = .error e) :
    e.cause.isOfWriting = false := by
  rw [FileTree.document] at h
  rcases bind_eq_error_iff.1 h with h | ⟨header, _, h⟩
  · exact isOfWriting_of_header h
  · rcases bind_eq_error_iff.1 h with h | ⟨config, _, h⟩
    · obtain ⟨inner, hconfig, rfl⟩ := mapError_eq_error_iff.1 h
      show inner.cause.isOfWriting = false
      exact isOfWriting_of_config hconfig
    · exact isOfWriting_of_generate h

/-! ## Checking -/

variable {directory : String} {source : HeaderSource} {sources before after : List HeaderSource} {t u v : FileTree}
  {documents : List BindingDocument} {r : Except Failure RunResult} {result : RunResult} {e : Failure}

/-- A failure that stops a run is one of writing, or the header has no document. -/
theorem Binds.error_cases {output : Option String} (h : Binds output source t (.error e) u) :
    t.document source = .error e ∨ e.cause.isOfWriting = true ∧ ∃ d, t.document source = .ok d := by
  cases h with
  | refused hrefused => exact .inl hrefused
  | uncreated hok _ _ => exact .inr ⟨rfl, _, hok⟩
  | unwritten hok _ _ _ => exact .inr ⟨rfl, _, hok⟩

/-- Headers that have documents pass the check. -/
theorem bindsAll_check (h : t.HasDocuments sources documents) : BindsAll none sources t (.ok ⟨documents, []⟩) t := by
  induction h with
  | nil => exact .nil
  | cons hok _ ih => exact .goesOn (.checked hok rfl) ih

/-- Checking changes nothing. -/
theorem BindsAll.check_unchanged (h : BindsAll none sources t r u) : u = t := by
  induction h with
  | nil => rfl
  | stops hstep =>
    cases hstep with
    | refused _ => rfl
    | uncreated _ houtput _ => cases houtput
    | unwritten _ houtput _ _ => cases houtput
  | goesOn hstep _ ih =>
    cases hstep with
    | checked _ _ => exact ih
    | written _ houtput _ _ => cases houtput

/-- Checking does not fail as writing does. -/
theorem BindsAll.isOfWriting_of_check (h : BindsAll none sources t (.error e) u) : e.cause.isOfWriting = false := by
  obtain ⟨_, _, _, _, _, _, _, hstop⟩ := h.exists_stop
  cases hstop with
  | refused hrefused => exact isOfWriting_of_document hrefused
  | uncreated _ houtput _ => cases houtput
  | unwritten _ houtput _ _ => cases houtput

/-- When all documents are written, all headers pass the check. -/
theorem BindsAll.check_of_ok {output : Option String} (h : BindsAll output sources t (.ok result) u)
    (hd : t.HasDirectory []) (hs : t.HoldsAll sources) : BindsAll none sources t (.ok ⟨result.documents, []⟩) t :=
  bindsAll_check (h.documents hd hs .refl).1

/-- When a run that writes fails, the check fails with the same, unless it is writing that failed: then the check passes
the header at hand. -/
theorem BindsAll.check_of_error (h : BindsAll (some directory) sources t (.error e) u) (hd : t.HasDirectory [])
    (hs : t.HoldsAll sources) :
    e.cause.isOfWriting = false ∧ BindsAll none sources t (.error e) t ∨
      e.cause.isOfWriting = true ∧ ∃ before source after documents, sources = before ++ source :: after ∧
        t.StopsAt (some directory) before source e ∧ BindsAll none (before ++ [source]) t (.ok ⟨documents, []⟩) t := by
  obtain ⟨before, source, after, result, v, rfl, hbefore, hstop⟩ := h.exists_stop
  obtain ⟨hbs, ⟨l, hl⟩, _⟩ := holdsAll_append_cons_iff.1 hs
  obtain ⟨hdocuments, hgrown⟩ := hbefore.documents hd hbs .refl
  have hsame := hgrown.document_eq hl
  rcases hstop.error_cases with hrefused | ⟨hwriting, d, hok⟩
  · exact .inl ⟨isOfWriting_of_document hrefused,
      (bindsAll_check hdocuments).append_stop (.refused (hsame.symm.trans hrefused)) after⟩
  · exact .inr ⟨hwriting, before, source, after, _, rfl, ⟨result, v, u, hbefore, hstop⟩,
      bindsAll_check (List.rel_append hdocuments (.cons (hsame.symm.trans hok) .nil))⟩

/-- The check does not fail at headers that passed it. -/
theorem BindsAll.exists_stop_after (h : BindsAll none (before ++ after) t (.error e) u)
    (hpassed : BindsAll none before t (.ok result) t) :
    ∃ between later rest, after = between ++ later :: rest ∧ t.StopsAt none (before ++ between) later e := by
  obtain ⟨r, hafter, hr⟩ := (bindsAll_append_iff hpassed).1 h
  obtain rfl : r = .error e := by
    cases r with
    | ok _ => cases hr
    | error _ => exact hr.symm
  obtain ⟨between, later, rest, _, v, rfl, hbetween, hstop⟩ := hafter.exists_stop
  exact ⟨between, later, rest, rfl, _, v, u, (bindsAll_append_iff hpassed).2 ⟨_, hbetween, rfl⟩, hstop⟩

/-- Where the check fails and a run that writes fails with something else, writing failed at an earlier header. -/
theorem BindsAll.writing_failed_before {e' : Failure} (h : BindsAll none sources t (.error e) u)
    (hg : BindsAll (some directory) sources t (.error e') v) (hd : t.HasDirectory []) (hs : t.HoldsAll sources) :
    e' = e ∨ e'.cause.isOfWriting = true ∧ ∃ before source between later after,
      sources = before ++ source :: (between ++ later :: after) ∧
        t.StopsAt (some directory) before source e' ∧ t.StopsAt none (before ++ source :: between) later e := by
  rcases hg.check_of_error hd hs with ⟨_, hsame⟩ | ⟨hwriting, before, source, rest, _, rfl, hstop, hpassed⟩
  · exact .inl (Except.error.inj (hsame.unique h).1)
  · rw [List.append_cons] at h
    obtain ⟨between, later, after, rfl, hlater⟩ := h.exists_stop_after hpassed
    rw [← List.append_cons] at hlater
    exact .inr ⟨hwriting, before, source, between, later, after, rfl, hstop, hlater⟩

/-! ## Two runs -/

/-- What a run reads of a header is what was there before it, whatever documents it has written by then. -/
theorem BindsAll.reads_unchanged {output : Option String} (h : BindsAll output before t (.ok result) v)
    (hd : t.HasDirectory []) (hs : t.HoldsAll (before ++ source :: after)) :
    v.read? source.headerPath = t.read? source.headerPath ∧
      ∀ path, source.configPath = some path → v.read? path = t.read? path := by
  obtain ⟨hbs, ⟨l, hl⟩, _⟩ := holdsAll_append_cons_iff.1 hs
  have hgrown := (h.documents hd hbs .refl).2
  exact ⟨hgrown.read?_header hl, fun path => hgrown.read?_config hl⟩

/-- What a run with an output directory reads of the headers below a directory is what was there before it. -/
def Session.ReadsUnchanged (s : Session) (input directory : String) : Prop :=
  ∀ (listing : Listing) (before after : List HeaderSource) (source : HeaderSource) (result : RunResult) (s₁ : Session),
    s.files.list? input = some listing → listing.headers input = before ++ source :: after →
      s.perform (workspace.processAll (some directory) before) = (.ok result, s₁) →
        s₁.files.read? source.headerPath = s.files.read? source.headerPath ∧
          ∀ path, source.configPath = some path → s₁.files.read? path = s.files.read? path

theorem readsUnchanged {s : Session} (hw : s.files.WellFormed) (input directory : String) :
    s.ReadsUnchanged input directory := by
  intro listing before after source result s₁ hlist hsplit hbefore
  have hall : BindsAll (some directory) before s.files (.ok result) s₁.files :=
    bindsAll_iff.2 (by rw [hbefore]; exact ⟨rfl, rfl⟩)
  exact hall.reads_unchanged (hasDirectory_of_list? hlist) (hsplit ▸ hw.holdsAll hlist)

/-- **Checking and generating.** Checking changes nothing. When all documents can be written it comes to the same
documents; it fails with what generating fails with, unless that is a failure of writing. When it fails, generating fails
with the same or with a failure of writing at an earlier header. What is read of a header is never changed by what is
written before. -/
theorem check_and_generate_agree {input directory : String} {s sc sg : Session} {rc rg : Except Failure RunResult}
    (hw : s.files.WellFormed) (hc : s.perform (Session.workspace.run ⟨input, none⟩) = (rc, sc))
    (hg : s.perform (Session.workspace.run ⟨input, some directory⟩) = (rg, sg)) :
    sc.files = s.files ∧
      (∀ {g}, rg = .ok g → rc = .ok ⟨g.documents, []⟩) ∧
      (∀ {e}, rg = .error e → (rc = .error e ↔ e.cause.isOfWriting = false)) ∧
      (∀ {e}, rc = .error e → rg = .error e ∨ ∃ e' listing before source between later after,
        rg = .error e' ∧ e'.cause.isOfWriting = true ∧ s.files.list? input = some listing ∧
          listing.headers input = before ++ source :: (between ++ later :: after) ∧
          s.StopsAt (some directory) before source e' ∧ s.StopsAt none (before ++ source :: between) later e) ∧
      s.ReadsUnchanged input directory := by
  have hcheck := runs_run ⟨input, none⟩ s
  have hgenerate := runs_run ⟨input, some directory⟩ s
  rw [hc] at hcheck
  rw [hg] at hgenerate
  have hreads := readsUnchanged hw input directory
  cases hlist : s.files.list? input with
  | none =>
    obtain ⟨rfl, hsc⟩ := hcheck.unique (.noInput hlist)
    obtain ⟨rfl, _⟩ := hgenerate.unique (.noInput hlist)
    refine ⟨hsc, nofun, fun he => ?_, fun he => .inl he, hreads⟩
    rw [← Except.error.inj he]
    exact ⟨fun _ => rfl, fun _ => rfl⟩
  | some listing =>
    have hd := hasDirectory_of_list? hlist
    have hs := hw.holdsAll hlist
    have hchecked : BindsAll none (listing.headers input) s.files rc sc.files := hcheck.bindsAll hlist
    have hall : BindsAll (some directory) (listing.headers input) s.files rg sg.files := hgenerate.bindsAll hlist
    refine ⟨hchecked.check_unchanged, ?ok, ?error, ?checkError, hreads⟩
    case ok =>
      rintro g rfl
      exact (hchecked.unique (hall.check_of_ok hd hs)).1
    case error =>
      rintro e rfl
      refine ⟨fun hrc => (hrc ▸ hchecked).isOfWriting_of_check, fun hno => ?_⟩
      rcases hall.check_of_error hd hs with ⟨_, hsame⟩ | ⟨hwriting, _⟩
      · exact (hchecked.unique hsame).1
      · cases hno.symm.trans hwriting
    case checkError =>
      rintro e rfl
      cases rg with
      | ok g => cases (hchecked.unique (hall.check_of_ok hd hs)).1
      | error e' =>
        rcases hchecked.writing_failed_before hall hd hs with
          rfl | ⟨hwriting, before, source, between, later, after, hsplit, hstop, hlater⟩
        · exact .inl rfl
        · exact .inr ⟨e', listing, before, source, between, later, after, rfl, hwriting, rfl, hsplit, stopsAt_iff.2 hstop,
            stopsAt_iff.2 hlater⟩

/-- A session with two headers in different directories, the second of which is no metadata. -/
def malformedSecond : Session :=
  ⟨.directory [("in", .directory [
    ("a", .directory [("M.json", bareHeader "A")]),
    ("b", .directory [("N.json", .file "\x7b".toUTF8)])])], []⟩

/-- Where the output directory can be made, even inside the input directory, both fail at the second header; where a file
is in its way, generating fails at the first. -/
theorem malformed_second_header :
    malformedSecond.files.WellFormed ∧
      ∃ e sc sg e' sg', malformedSecond.perform (Session.workspace.run ⟨"in", none⟩) = (.error e, sc) ∧
        e.cause = .malformedHeader "in/b/N.json" ∧ sc.files = malformedSecond.files ∧
        malformedSecond.perform (Session.workspace.run ⟨"in", some "in/a"⟩) = (.error e, sg) ∧
        malformedSecond.perform (Session.workspace.run ⟨"in", some "in/a/M.json"⟩) = (.error e', sg') ∧
        e'.cause = .directoryNotCreated "in/a/M.json" ∧
        ∃ before source, malformedSecond.StopsAt (some "in/a/M.json") before source e' := by
  have hw : malformedSecond.files.WellFormed := by decide +kernel
  obtain ⟨e, sc, hc, hcause⟩ := Session.exists_perform_error_of_any (s := malformedSecond)
    (x := Session.workspace.run ⟨"in", none⟩) (p := fun e => e.cause = .malformedHeader "in/b/N.json")
    (by decide +kernel)
  obtain ⟨eg, sg, hg, hsame⟩ := Session.exists_perform_error_of_any (s := malformedSecond)
    (x := Session.workspace.run ⟨"in", some "in/a"⟩) (p := fun e => !e.cause.isOfWriting) (by decide +kernel)
  obtain ⟨e', sg', hg', hcause'⟩ := Session.exists_perform_error_of_any (s := malformedSecond)
    (x := Session.workspace.run ⟨"in", some "in/a/M.json"⟩) (p := fun e => e.cause = .directoryNotCreated "in/a/M.json")
    (by decide +kernel)
  have hcause := of_decide_eq_true hcause
  have hcause' := of_decide_eq_true hcause'
  obtain ⟨hfiles, _, hagree, _⟩ := check_and_generate_agree hw hc hg
  obtain rfl : e = eg := Except.error.inj ((hagree rfl).2 (by simpa using hsame))
  obtain ⟨_, _, _, hfirst, _⟩ := check_and_generate_agree hw hc hg'
  have hne : e' ≠ e := by
    rintro rfl
    cases hcause.symm.trans hcause'
  rcases hfirst rfl with hsame' | ⟨e'', _, before, source, _, _, _, he'', _, _, _, hstop, _⟩
  · exact absurd (Except.error.inj hsame') hne
  · obtain rfl := Except.error.inj he''
    exact ⟨hw, e, sc, sg, e', sg', hc, hcause, hfiles, hg, hg', hcause', before, source, hstop⟩

end Bindings
