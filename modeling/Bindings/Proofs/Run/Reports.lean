import Bindings.Proofs.BindingDocument.Reports
import Bindings.Proofs.Run.Check
import Bindings.Proofs.Run.Written

/-!
# What a run reports

A run reports of one header after another, and at last how it ended. What it reports of a header is in the files that were
there before the run.

* `BoundHeader.IsIn`: a header that is bound, as the files of a tree say.
* `FileTree.Cut`: binding stops at a header, with the warnings and the functions that it has come to by then.
* `Binds.report`, `Binds.cut`: what is reported of one header, which is bound or at which binding stops.
* `ReportsAll`, `reportsAll_processAll`: what is reported of several, up to the one at which binding stops.
* `Reaches`, `exists_reaches`: how far a run comes, and that this is what it reports.
-/

namespace Bindings

open FileTree

section

variable {t u : FileTree} {source : HeaderSource} {l : List String}

theorem FileTree.Grows.header_eq (h : Grows t u) (hs : t.Holds l source) : u.header source = t.header source :=
  header_congr (h.read?_header hs)

theorem FileTree.Grows.config_eq (h : Grows t u) (hs : t.Holds l source) : u.config source = t.config source :=
  config_congr fun _ => h.read?_config hs

theorem FileTree.Grows.generate_eq (h : Grows t u) (hs : t.Holds l source) : u.generate source = t.generate source := by
  rw [FileTree.generate, FileTree.generate, h.header_eq hs, h.config_eq hs]

end

/-! ## Headers that are bound -/

/-- A header that is bound. -/
structure BoundHeader where
  source : HeaderSource
  header : Header
  config : HeaderConfig
  document : BindingDocument

namespace BoundHeader

/-- It is bound as the files of a tree say. -/
structure IsIn (b : BoundHeader) (t : FileTree) : Prop where
  header_eq : t.header b.source = .ok b.header
  config_eq : t.config b.source = .ok b.config
  outcome_eq : (b.header.generate b.config).outcome = .ok b.document

/-- The warnings for its functions. -/
def warnings (b : BoundHeader) : List Event :=
  b.header.warnings b.config

/-- The path of its document, if there is a directory to write that to. -/
def path? (b : BoundHeader) (output : Option String) : Option String :=
  output.map fun directory => Path.join directory (generatedName b.source.stem)

/-- What is reported of its document when that is written. -/
def wrote (b : BoundHeader) (output : Option String) : List Event :=
  (b.path? output).toList.map b.document.written

/-- All that is reported of it. -/
def report (b : BoundHeader) (output : Option String) : List Event :=
  (b.header.generate b.config).events ++ b.wrote output

variable {b : BoundHeader} {t : FileTree}

theorem IsIn.generate_eq (h : b.IsIn t) : (t.generate b.source).events = (b.header.generate b.config).events := by
  rw [FileTree.generate, h.header_eq, h.config_eq]
  rfl

theorem exists_isIn {source : HeaderSource} {d : BindingDocument} (h : t.document source = .ok d) :
    ∃ b : BoundHeader, b.IsIn t ∧ b.source = source ∧ b.document = d := by
  obtain ⟨header, hheader, h⟩ := bind_eq_ok_iff.1 h
  obtain ⟨config, hconfig, hd⟩ := bind_eq_ok_iff.1 h
  exact ⟨⟨source, header, config, d⟩, ⟨hheader, mapError_eq_ok_iff.1 hconfig, hd⟩, rfl, rfl⟩

theorem IsIn.tells (h : b.IsIn t) (output : Option String) :
    Tells (b.report output) (b.warnings ++ b.wrote output) b.document.functions := by
  have hwrote : Tells (b.wrote output) (b.wrote output) [] := by
    cases output <;> exact ⟨rfl, rfl⟩
  rw [← List.append_nil b.document.functions]
  exact (Header.tells_of_ok h.outcome_eq).append hwrote

end BoundHeader

/-- What is told of headers that are bound: the warnings for each, and that its document is written. -/
def tellBound (output : Option String) (bound : List BoundHeader) : List Event :=
  bound.flatMap fun b => b.warnings ++ b.wrote output

theorem tells_bound {t : FileTree} {bound : List BoundHeader} (h : ∀ b ∈ bound, b.IsIn t) (output : Option String) :
    Tells (bound.flatMap (·.report output)) (tellBound output bound) (bound.flatMap (·.document.functions)) := by
  induction bound with
  | nil => exact .nil
  | cons b bound ih =>
    obtain ⟨hb, hbound⟩ := List.forall_mem_cons.1 h
    exact (hb.tells output).append (ih hbound)

/-! ## Where binding stops -/

/-- Binding stops at a header, after the given warnings for its functions and with the given ones bound. -/
inductive FileTree.Cut (t : FileTree) (output : Option String) (source : HeaderSource) :
    Failure → List Event → List BoundFunction → Prop
  /-- There is no metadata to read. -/
  | noHeader {e : Failure} : t.header source = .error e → Cut t output source e [] []
  /-- There is no configuration to read. -/
  | noConfig {h : Header} {e : Failure} : t.header source = .ok h → t.config source = .error e →
      Cut t output source (e.inHeader h.name) [] []
  /-- A function cannot be bound. It is warned of, too, if its name is as the module asks. -/
  | refused {h : Header} {c : HeaderConfig} {module : String} {before after : List NativeFunction} {f : NativeFunction}
      {bs : List BoundFunction} {e : Failure} : t.header source = .ok h → t.config source = .ok c →
      c.moduleName = some module → h.functions = before ++ f :: after → c.BindsEach before bs →
      (f.transform c).outcome = .error e → Cut t output source (e.inHeader h.name)
        (c.warnings (if (exposedName module f.name).isOk then before ++ [f] else before)) bs
  /-- The document cannot be written. -/
  | unwritten {b : BoundHeader} {directory : String} {cause : Cause} : b.IsIn t → b.source = source →
      output = some directory → cause = .directoryNotCreated directory ∨
        cause = .fileNotWritten (Path.join directory (generatedName source.stem)) →
      Cut t output source (.ofCause cause) b.warnings b.document.functions

section

variable {t : FileTree} {output : Option String} {source : HeaderSource} {e : Failure}

/-- Where a header has no document, binding stops at it. -/
theorem cut_of_document (h : t.document source = .error e) :
    ∃ warnings functions, t.Cut output source e warnings functions ∧
      Tells (t.generate source).events warnings functions := by
  rw [FileTree.document] at h
  rw [FileTree.generate]
  cases hheader : t.header source with
  | error e₀ =>
    rw [hheader] at h
    cases h
    exact ⟨[], [], .noHeader hheader, .nil⟩
  | ok header =>
    rw [hheader] at h
    cases hconfig : t.config source with
    | error e₀ =>
      rw [hconfig] at h
      cases h
      exact ⟨[], [], .noConfig hheader hconfig, .nil⟩
    | ok config =>
      rw [hconfig] at h
      obtain ⟨module, before, f, after, bs, e₀, hm, hsplit, hbs, hf, rfl, htells⟩ := Header.tells_of_error h
      exact ⟨_, bs, .refused hheader hconfig hm hsplit hbs hf, htells⟩

/-- The same in a tree that has grown since, where the document may also not be written. -/
theorem Binds.cut {u v : FileTree} {l : List String} (h : Binds output source u (.error e) v) (hu : Grows t u)
    (hl : t.Holds l source) :
    ∃ warnings functions, t.Cut output source e warnings functions ∧
      Tells (t.generate source).events warnings functions := by
  have hunwritten {d : BindingDocument} {directory : String} {cause : Cause} (hd : u.document source = .ok d)
      (houtput : output = some directory) (hcause : cause = .directoryNotCreated directory ∨
        cause = .fileNotWritten (Path.join directory (generatedName source.stem))) :
      ∃ warnings functions, t.Cut output source (.ofCause cause) warnings functions ∧
        Tells (t.generate source).events warnings functions := by
    rw [hu.document_eq hl] at hd
    obtain ⟨b, hb, rfl, rfl⟩ := BoundHeader.exists_isIn hd
    rw [hb.generate_eq]
    exact ⟨_, _, .unwritten hb rfl houtput hcause, Header.tells_of_ok hb.outcome_eq⟩
  cases h with
  | refused hrefused => exact cut_of_document ((hu.document_eq hl).symm.trans hrefused)
  | uncreated hd houtput _ => exact hunwritten hd houtput (.inl rfl)
  | unwritten hd houtput _ _ => exact hunwritten hd houtput (.inr rfl)

/-- What is reported of a header that has been bound is in the tree before it. -/
theorem Binds.report {u v : FileTree} {l : List String} {d : BindingDocument} {path : Option String}
    (h : Binds output source u (.ok (d, path)) v) (hu : Grows t u) (hl : t.Holds l source) :
    ∃ b : BoundHeader, b.IsIn t ∧ b.source = source ∧ b.document = d ∧ b.path? output = path ∧
      (u.generate source).events ++ announced (.ok (d, path)) = b.report output := by
  obtain ⟨b, hb, rfl, rfl⟩ := BoundHeader.exists_isIn ((hu.document_eq hl).symm.trans h.document_eq_ok)
  obtain rfl := h.path_eq
  refine ⟨b, hb, rfl, rfl, rfl, ?_⟩
  rw [hu.generate_eq hl, hb.generate_eq]
  rfl

end

/-! ## All headers -/

/-- All that can be reported while headers are bound one after another. -/
inductive ReportsAll (t : FileTree) (output : Option String) :
    List HeaderSource → Except Failure RunResult → List Event → Prop
  | nil : ReportsAll t output [] (.ok ⟨[], []⟩) []
  | stops {source : HeaderSource} {sources : List HeaderSource} {e : Failure} {es warnings : List Event}
      {functions : List BoundFunction} : t.Cut output source e warnings functions → Tells es warnings functions →
      ReportsAll t output (source :: sources) (.error e) es
  | goesOn {b : BoundHeader} {sources : List HeaderSource} {r : Except Failure RunResult} {es : List Event} :
      b.IsIn t → ReportsAll t output sources r es → ReportsAll t output (b.source :: sources)
        (r.map fun rest => ⟨b.document :: rest.documents, (b.path? output).toList ++ rest.written⟩)
        (b.report output ++ es)

section

variable {t : FileTree} {output : Option String} {sources : List HeaderSource} {es : List Event}

theorem reportsAll_processAll (output : Option String) {s : Session} (hd : t.HasDirectory []) (hs : t.HoldsAll sources)
    (ht : Grows t s.files) :
    ∃ es, ReportsAll t output sources (s.perform (Session.workspace.processAll output sources)).1 es ∧
      (s.perform (Session.workspace.processAll output sources)).2.events = s.events ++ es := by
  induction sources generalizing s with
  | nil => exact ⟨[], .nil, (List.append_nil _).symm⟩
  | cons source sources ih =>
    obtain ⟨⟨l, hl⟩, hsources⟩ := List.forall_mem_cons.1 hs
    obtain ⟨r, u, hbinds, hprocess⟩ := exists_perform_process output source s
    rw [Workspace.processAll, Session.perform_bind, hprocess, List.append_assoc]
    cases r with
    | error e =>
      obtain ⟨warnings, functions, hcut, htells⟩ := hbinds.cut ht hl
      rw [ht.generate_eq hl, announced, List.append_nil]
      exact ⟨_, .stops hcut htells, rfl⟩
    | ok bound =>
      obtain ⟨d, path⟩ := bound
      obtain ⟨b, hb, rfl, rfl, rfl, hreport⟩ := hbinds.report ht hl
      rw [hreport]
      dsimp only
      have hgrown := ht.trans (hbinds.grows (ht.keeps.directory hd) hl.isName_generatedName)
      obtain ⟨es, hrest, hevents⟩ := ih hsources (s := ⟨u, s.events ++ b.report output⟩) hgrown
      have hall : ReportsAll t output (b.source :: sources) _ (b.report output ++ es) := .goesOn hb hrest
      rw [Session.perform_bind]
      rcases hperform : Session.perform ⟨u, s.events ++ b.report output⟩
        (Session.workspace.processAll output sources) with ⟨e | rest, s₁⟩
      · rw [hperform] at hevents hall
        exact ⟨_, hall, hevents.trans (List.append_assoc _ _ _)⟩
      · rw [hperform] at hevents hall
        exact ⟨_, hall, hevents.trans (List.append_assoc _ _ _)⟩

theorem ReportsAll.exists_bound {result : RunResult} (h : ReportsAll t output sources (.ok result) es) :
    ∃ bound : List BoundHeader, (∀ b ∈ bound, b.IsIn t) ∧ bound.map (·.source) = sources ∧
      bound.map (·.document) = result.documents ∧ bound.flatMap (fun b => (b.path? output).toList) = result.written ∧
      es = bound.flatMap (·.report output) := by
  generalize hr : Except.ok result = r at h
  induction h generalizing result with
  | nil =>
    cases hr
    exact ⟨[], List.forall_mem_nil _, rfl, rfl, rfl, rfl⟩
  | stops _ _ => cases hr
  | @goesOn b sources r es hb _ ih =>
    cases r with
    | error e => cases hr
    | ok rest =>
      cases hr
      obtain ⟨bound, hbound, rfl, hdocuments, hwritten, rfl⟩ := ih rfl
      exact ⟨b :: bound, List.forall_mem_cons.2 ⟨hb, hbound⟩, rfl, congrArg (b.document :: ·) hdocuments,
        congrArg ((b.path? output).toList ++ ·) hwritten, rfl⟩

theorem ReportsAll.exists_cut {e : Failure} (h : ReportsAll t output sources (.error e) es) :
    ∃ (bound : List BoundHeader) (source : HeaderSource) (after : List HeaderSource) (last warnings : List Event)
      (functions : List BoundFunction), (∀ b ∈ bound, b.IsIn t) ∧ bound.map (·.source) ++ source :: after = sources ∧
      t.Cut output source e warnings functions ∧ Tells last warnings functions ∧
      es = bound.flatMap (·.report output) ++ last := by
  generalize hr : Except.error e = r at h
  induction h with
  | nil => cases hr
  | @stops source sources _ es warnings functions hcut htells =>
    cases hr
    exact ⟨[], source, sources, es, warnings, functions, List.forall_mem_nil _, rfl, hcut, htells, rfl⟩
  | @goesOn b sources r es hb _ ih =>
    cases r with
    | ok rest => cases hr
    | error e =>
      cases hr
      obtain ⟨bound, source, after, last, warnings, functions, hbound, rfl, hcut, htells, rfl⟩ := ih rfl
      refine ⟨b :: bound, source, after, last, warnings, functions, List.forall_mem_cons.2 ⟨hb, hbound⟩, rfl, hcut, htells, ?_⟩
      rw [List.flatMap_cons, List.append_assoc]

end

/-! ## Whole runs -/

/-- The headers below a directory; there are none where there is no directory. -/
def FileTree.discovered (t : FileTree) (directory : String) : List HeaderSource :=
  ((t.list? directory).map (·.headers directory)).getD []

/-- How far a run comes: the headers that are bound, and what is warned of and bound of the one at which it stops. -/
inductive Reaches (o : RunOptions) (t : FileTree) :
    Except Failure RunResult → List BoundHeader → List Event → List BoundFunction → Prop
  | complete {listing : Listing} {bound : List BoundHeader} {result : RunResult} : t.list? o.input = some listing →
      bound.map (·.source) = listing.headers o.input → (∀ b ∈ bound, b.IsIn t) →
      bound.map (·.document) = result.documents →
      bound.flatMap (fun b => (b.path? o.output).toList) = result.written → Reaches o t (.ok result) bound [] []
  | noInput : t.list? o.input = none → Reaches o t (.error (.ofCause (.noInputDirectory o.input))) [] [] []
  | cut {listing : Listing} {bound : List BoundHeader} {source : HeaderSource} {after : List HeaderSource} {e : Failure}
      {warnings : List Event} {functions : List BoundFunction} : t.list? o.input = some listing →
      bound.map (·.source) ++ source :: after = listing.headers o.input → (∀ b ∈ bound, b.IsIn t) →
      t.Cut o.output source e warnings functions → Reaches o t (.error e) bound warnings functions

/-- A run reports first the headers that it discovers. What follows tells how far it comes with them. -/
theorem exists_reaches {s : Session} (hw : s.files.WellFormed) (o : RunOptions) :
    ∃ bound warnings functions rest,
      Reaches o s.files (s.perform (Session.workspace.run o)).1 bound warnings functions ∧
        (s.perform (Session.workspace.run o)).2.events =
          s.events ++ ((s.files.discovered o.input).map HeaderSource.found ++ rest) ∧
        Tells rest (tellBound o.output bound ++ warnings) (bound.flatMap (·.document.functions) ++ functions) := by
  rw [Workspace.run, Session.perform_bind, Session.perform_discover_eq, FileTree.discovered]
  cases hlist : s.files.list? o.input with
  | none => exact ⟨[], [], [], [], .noInput hlist, (List.append_nil _).symm, .nil⟩
  | some listing =>
    dsimp only
    obtain ⟨es, hall, hevents⟩ := reportsAll_processAll o.output
      (s := s.record ((listing.headers o.input).map HeaderSource.found)) (hasDirectory_of_list? hlist) (hw.holdsAll hlist)
      .refl
    rw [Session.events_record, List.append_assoc] at hevents
    rw [hevents]
    cases hr : (Session.perform _ (Session.workspace.processAll o.output _)).1 with
    | ok result =>
      rw [hr] at hall
      obtain ⟨bound, hbound, hsources, hdocuments, hwritten, rfl⟩ := hall.exists_bound
      refine ⟨bound, [], [], _, .complete hlist hsources hbound hdocuments hwritten, rfl, ?_⟩
      rw [List.append_nil, List.append_nil]
      exact tells_bound hbound o.output
    | error e =>
      rw [hr] at hall
      obtain ⟨bound, source, after, last, warnings, functions, hbound, hsources, hcut, htells, rfl⟩ := hall.exists_cut
      exact ⟨bound, warnings, functions, _, .cut hlist hsources hbound hcut, rfl, (tells_bound hbound o.output).append htells⟩

/-- How a run ends, as a program: with a code and a last event. -/
def closing : Except Failure RunResult → UInt32 × Event
  | .ok r => (0, .complete r.documents.length (r.documents.flatMap (·.functions)).length r.written.length)
  | .error e => (1, .failed e)

theorem isDebug_closing (r : Except Failure RunResult) : (closing r).2.isDebug = false := by
  cases r <;> rfl

theorem run_execute (o : RunOptions) (s : Session) :
    (Session.workspace.execute o).run s = ((closing (s.perform (Session.workspace.run o)).1).1,
      (s.perform (Session.workspace.run o)).2.record [(closing (s.perform (Session.workspace.run o)).1).2]) := by
  rw [Workspace.execute, StateT.run_bind]
  show StateT.run (match (s.perform (Session.workspace.run o)).1 with | .ok r => _ | .error f => _)
    (s.perform (Session.workspace.run o)).2 = _
  cases (s.perform (Session.workspace.run o)).1 with
  | error e => rfl
  | ok r => rfl

end Bindings
