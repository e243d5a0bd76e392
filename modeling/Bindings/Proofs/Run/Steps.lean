import Bindings.Proofs.Files.Headers
import Bindings.Proofs.Session

/-!
# Steps of a run

A run binds one header after another. What it comes to and what it does to the files depends on the files alone.

* `FileTree.document`: the document of a header, as the files of a tree say it, and `FileTree.generate`: with what is
  reported on the way.
* `Binds`, `BindsAll`, `Runs`: all that binding one header, binding several and a whole run can come to, with the files
  that are left. There is no more than one thing for each to come to (`Runs.unique`), and it is what the program does
  (`runs_iff`).
* `exists_perform_process`: what binding one header comes to, with what it adds to the log.
* `Runs.grows`: a run makes directories and puts documents into directories, and does nothing else.
-/

namespace Bindings

/-! ## Documents of a tree -/

namespace FileTree

/-- The metadata of a header in a tree. -/
def header (t : FileTree) (source : HeaderSource) : Except Failure Header :=
  match t.read? source.headerPath with
  | none => .error (.ofCause (.unreadableHeader source.headerPath))
  | some text => do
    let h ← Header.parse text source.headerPath
    return if h.name = "" then { h with name := source.stem } else h

/-- The configuration of a header in a tree. -/
def config (t : FileTree) (source : HeaderSource) : Except Failure HeaderConfig :=
  match source.configPath with
  | none => .ok .empty
  | some path =>
    match t.read? path with
    | none => .error (.ofCause (.unreadableConfig path))
    | some text => HeaderConfig.parse text path

/-- A header of a tree is bound; what is reported on the way is kept. -/
def generate (t : FileTree) (source : HeaderSource) : Traced BindingDocument := do
  let h ← Traced.ofExcept (t.header source)
  let c ← Traced.ofExcept ((t.config source).mapError (·.inHeader h.name))
  h.generate c

/-- The document of a header in a tree, or why it has none. -/
def document (t : FileTree) (source : HeaderSource) : Except Failure BindingDocument := do
  let h ← t.header source
  let c ← (t.config source).mapError (·.inHeader h.name)
  (h.generate c).outcome

section

variable {t u : FileTree} {source : HeaderSource}

theorem header_congr (hheader : u.read? source.headerPath = t.read? source.headerPath) :
    u.header source = t.header source := by
  rw [header, header, hheader]

theorem config_congr (hconfig : ∀ path, source.configPath = some path → u.read? path = t.read? path) :
    u.config source = t.config source := by
  rw [config, config]
  cases hpath : source.configPath with
  | none => rfl
  | some path =>
    dsimp only
    rw [hconfig path hpath]

/-- The document depends on the texts of the header and of its configuration. -/
theorem document_congr (hheader : u.read? source.headerPath = t.read? source.headerPath)
    (hconfig : ∀ path, source.configPath = some path → u.read? path = t.read? path) :
    u.document source = t.document source := by
  rw [document, document, header_congr hheader, config_congr hconfig]

end

end FileTree

section Reading

variable {s : Session}

theorem Session.perform_loadHeader (source : HeaderSource) :
    s.perform (workspace.loadHeader source) = (s.files.header source, s) := by
  rw [Workspace.loadHeader, perform_bind, perform_read?, FileTree.header]
  cases s.files.read? source.headerPath with
  | none => rfl
  | some text =>
    dsimp only
    cases Header.parse text source.headerPath with
    | error e => rfl
    | ok h => rfl

theorem Session.perform_loadConfig (source : HeaderSource) :
    s.perform (workspace.loadConfig source) = (s.files.config source, s) := by
  rw [Workspace.loadConfig, FileTree.config]
  cases source.configPath with
  | none => rfl
  | some path =>
    dsimp only
    rw [perform_bind, perform_read?]
    cases s.files.read? path with
    | none => rfl
    | some text => rfl

end Reading

/-! ## One header -/

/-- All that binding a header can come to, and the files it leaves. -/
inductive Binds (output : Option String) (source : HeaderSource) (t : FileTree) :
    Except Failure (BindingDocument × Option String) → FileTree → Prop
  | refused {e : Failure} : t.document source = .error e → Binds output source t (.error e) t
  | checked {d : BindingDocument} : t.document source = .ok d → output = none → Binds output source t (.ok (d, none)) t
  | uncreated {d : BindingDocument} {directory : String} {u : FileTree} : t.document source = .ok d →
      output = some directory → t.makeDirectories directory = (false, u) →
      Binds output source t (.error (.ofCause (.directoryNotCreated directory))) u
  | unwritten {d : BindingDocument} {directory : String} {u : FileTree} : t.document source = .ok d →
      output = some directory → t.makeDirectories directory = (true, u) →
      u.write? (Path.join directory (generatedName source.stem)) d.text.toUTF8 = none →
      Binds output source t (.error (.ofCause (.fileNotWritten (Path.join directory (generatedName source.stem))))) u
  | written {d : BindingDocument} {directory : String} {u v : FileTree} : t.document source = .ok d →
      output = some directory → t.makeDirectories directory = (true, u) →
      u.write? (Path.join directory (generatedName source.stem)) d.text.toUTF8 = some v →
      Binds output source t (.ok (d, some (Path.join directory (generatedName source.stem)))) v

/-- What is reported of a document that has been written. -/
def BindingDocument.written (d : BindingDocument) (path : String) : Event :=
  .wrote d.header d.functions.length d.enums.length path

/-- What is reported when a header has been bound: its document, if that has been written. -/
def announced : Except Failure (BindingDocument × Option String) → List Event
  | .error _ => []
  | .ok (d, path) => path.toList.map d.written

section Process

variable {s : Session} {output : Option String} {source : HeaderSource}

/-- Loading a header and its configuration and binding it comes to its document, and changes nothing but the log. -/
theorem Session.perform_generate {β : Type} (s : Session) (source : HeaderSource)
    (next : BindingDocument → ExceptT Failure (StateM Session) β) :
    (s.perform do
        let h ← workspace.loadHeader source
        let c ← ExceptT.adapt (·.inHeader h.name) (workspace.loadConfig source)
        let d ← workspace.trace (h.generate c)
        next d) = match s.files.document source with
        | .error e => (.error e, s.record (s.files.generate source).events)
        | .ok d => (s.record (s.files.generate source).events).perform (next d) := by
  rw [perform_bind, perform_loadHeader, FileTree.document, FileTree.generate]
  cases s.files.header source with
  | error e =>
    show _ = (_, s.record [])
    rw [record_nil]
  | ok h =>
    rw [Traced.ofExcept, Traced.bind_ok]
    dsimp only
    rw [perform_bind, perform_adapt, perform_loadConfig]
    cases s.files.config source with
    | error e =>
      show _ = (_, s.record ([] ++ []))
      rw [List.append_nil, record_nil]
      rfl
    | ok c =>
      show s.perform (workspace.trace (h.generate c) >>= next) = match (h.generate c).outcome with
        | .error e => (_, s.record ([] ++ ([] ++ (h.generate c).events)))
        | .ok d => (s.record ([] ++ ([] ++ (h.generate c).events))).perform _
      rw [perform_bind, perform_trace, List.nil_append, List.nil_append]
      cases (h.generate c).outcome with
      | error e => rfl
      | ok d => rfl

theorem Session.perform_writeDocument (directory stem : String) (d : BindingDocument) :
    s.perform (workspace.writeDocument directory stem d) =
      match s.files.makeDirectories directory with
      | (false, u) => (.error (.ofCause (.directoryNotCreated directory)), ⟨u, s.events⟩)
      | (true, u) =>
        match u.write? (Path.join directory (generatedName stem)) d.text.toUTF8 with
        | none => (.error (.ofCause (.fileNotWritten (Path.join directory (generatedName stem)))), ⟨u, s.events⟩)
        | some v =>
          (.ok (Path.join directory (generatedName stem)),
            ⟨v, s.events ++ [d.written (Path.join directory (generatedName stem))]⟩) := by
  rw [Workspace.writeDocument, perform_bind, perform_makeDirectories]
  rcases s.files.makeDirectories directory with ⟨_ | _, u⟩
  · rfl
  · show Session.perform _ (_ >>= _) = match u.write? _ _ with
      | none => _
      | some v => _
    rw [perform_bind, perform_write]
    cases u.write? (Path.join directory (generatedName stem)) d.text.toUTF8 with
    | none => rfl
    | some v => rfl

/-- Binding a header comes to one of these things, and adds to the log what it reports. -/
theorem exists_perform_process (output : Option String) (source : HeaderSource) (s : Session) :
    ∃ r u, Binds output source s.files r u ∧ s.perform (Session.workspace.process output source) =
      (r, ⟨u, s.events ++ (s.files.generate source).events ++ announced r⟩) := by
  have hprocess := s.perform_generate source fun d =>
    match output with
    | none => return (d, none)
    | some directory => return (d, some (← Session.workspace.writeDocument directory source.stem d))
  have hsame : s.perform (Session.workspace.process output source) = _ := hprocess
  rw [hsame]
  cases hdocument : s.files.document source with
  | error e => exact ⟨_, _, .refused hdocument, by rw [announced, List.append_nil, Session.record]⟩
  | ok d =>
    cases output with
    | none =>
      refine ⟨_, _, .checked hdocument rfl, ?_⟩
      rw [announced, Option.toList_none, List.map_nil, List.append_nil]
      rfl
    | some directory =>
      dsimp only
      rw [Session.perform_bind, Session.perform_writeDocument, Session.files_record, Session.events_record]
      rcases hmade : s.files.makeDirectories directory with ⟨_ | _, u⟩
      · exact ⟨_, _, .uncreated hdocument rfl hmade, by rw [announced, List.append_nil]⟩
      · dsimp only
        cases hput : u.write? (Path.join directory (generatedName source.stem)) d.text.toUTF8 with
        | none => exact ⟨_, _, .unwritten hdocument rfl hmade hput, by rw [announced, List.append_nil]⟩
        | some v => exact ⟨_, _, .written hdocument rfl hmade hput, rfl⟩

theorem binds_process (output : Option String) (source : HeaderSource) (s : Session) :
    Binds output source s.files (s.perform (Session.workspace.process output source)).1
      (s.perform (Session.workspace.process output source)).2.files := by
  obtain ⟨r, u, hbinds, hprocess⟩ := exists_perform_process output source s
  rw [hprocess]
  exact hbinds

theorem Binds.unique {t u u' : FileTree} {r r' : Except Failure (BindingDocument × Option String)}
    (h : Binds output source t r u) (h' : Binds output source t r' u') : r = r' ∧ u = u' := by
  cases h <;> cases h' <;> simp_all

end Process

/-! ## All headers -/

/-- All that binding headers one after another can come to. -/
inductive BindsAll (output : Option String) :
    List HeaderSource → FileTree → Except Failure RunResult → FileTree → Prop
  | nil {t : FileTree} : BindsAll output [] t (.ok ⟨[], []⟩) t
  | stops {source : HeaderSource} {sources : List HeaderSource} {t u : FileTree} {e : Failure} :
      Binds output source t (.error e) u → BindsAll output (source :: sources) t (.error e) u
  | goesOn {source : HeaderSource} {sources : List HeaderSource} {t u v : FileTree} {d : BindingDocument}
      {path : Option String} {r : Except Failure RunResult} : Binds output source t (.ok (d, path)) u →
      BindsAll output sources u r v → BindsAll output (source :: sources) t
        (r.map fun rest => ⟨d :: rest.documents, path.toList ++ rest.written⟩) v

section ProcessAll

variable {output : Option String} {sources : List HeaderSource} {t u u' : FileTree} {r r' : Except Failure RunResult}

theorem bindsAll_processAll (output : Option String) (sources : List HeaderSource) (s : Session) :
    BindsAll output sources s.files (s.perform (Session.workspace.processAll output sources)).1
      (s.perform (Session.workspace.processAll output sources)).2.files := by
  induction sources generalizing s with
  | nil => exact .nil
  | cons source sources ih =>
    have hstep := binds_process output source s
    rw [Workspace.processAll, Session.perform_bind]
    rcases hprocess : s.perform (Session.workspace.process output source) with ⟨e | ⟨d, path⟩, s₁⟩
    · rw [hprocess] at hstep
      exact .stops hstep
    · rw [hprocess] at hstep
      have hrest := ih s₁
      dsimp only
      rw [Session.perform_bind]
      rcases hall : s₁.perform (Session.workspace.processAll output sources) with ⟨e | rest, s₂⟩
      · rw [hall] at hrest
        exact .goesOn hstep hrest
      · rw [hall] at hrest
        exact .goesOn hstep hrest

theorem BindsAll.unique (h : BindsAll output sources t r u) (h' : BindsAll output sources t r' u') :
    r = r' ∧ u = u' := by
  induction h generalizing r' u' with
  | nil =>
    cases h'
    exact ⟨rfl, rfl⟩
  | stops hstep =>
    cases h' with
    | stops hstep' =>
      obtain ⟨he, rfl⟩ := hstep.unique hstep'
      cases he
      exact ⟨rfl, rfl⟩
    | goesOn hstep' _ => cases (hstep.unique hstep').1
  | goesOn hstep _ ih =>
    cases h' with
    | stops hstep' => cases (hstep.unique hstep').1
    | goesOn hstep' hrest' =>
      obtain ⟨he, rfl⟩ := hstep.unique hstep'
      cases he
      obtain ⟨rfl, rfl⟩ := ih hrest'
      exact ⟨rfl, rfl⟩

end ProcessAll

/-! ## Growth -/

open FileTree

/-- Binding a header lets the tree grow. -/
theorem Binds.grows {output : Option String} {source : HeaderSource} {t u : FileTree}
    {r : Except Failure (BindingDocument × Option String)} (h : Binds output source t r u)
    (hd : t.HasDirectory []) (hn : IsName (generatedName source.stem)) : Grows t u := by
  have hmade {directory : String} {done : Bool} {v : FileTree} (hv : t.makeDirectories directory = (done, v)) :
      Grows t v := by
    have hgrows := grows_makeDirectories hd directory
    rwa [hv] at hgrows
  cases h with
  | refused _ => exact .refl
  | checked _ _ => exact .refl
  | uncreated _ _ hv => exact hmade hv
  | unwritten _ _ hv _ => exact hmade hv
  | written _ _ hv hw => exact (hmade hv).trans (grows_write? hn hw)

/-- So does binding them all. -/
theorem BindsAll.grows {output : Option String} {sources : List HeaderSource} {t u : FileTree}
    {r : Except Failure RunResult} (h : BindsAll output sources t r u) (hd : t.HasDirectory [])
    (hn : ∀ source ∈ sources, IsName (generatedName source.stem)) : Grows t u := by
  induction h with
  | nil => exact .refl
  | stops hstep => exact hstep.grows hd (hn _ List.mem_cons_self)
  | goesOn hstep _ ih =>
    have hgrows := hstep.grows hd (hn _ List.mem_cons_self)
    exact hgrows.trans (ih (hgrows.keeps.directory hd) fun source hs => hn source (List.mem_cons_of_mem _ hs))

/-! ## Whole runs -/

/-- All that a run can come to, and the files it leaves. -/
inductive Runs (o : RunOptions) (t : FileTree) : Except Failure RunResult → FileTree → Prop
  | noInput : t.list? o.input = none → Runs o t (.error (.ofCause (.noInputDirectory o.input))) t
  | bound {listing : Listing} {r : Except Failure RunResult} {u : FileTree} : t.list? o.input = some listing →
      BindsAll o.output (listing.headers o.input) t r u → Runs o t r u

/-- What is reported of a header that has been discovered. -/
def HeaderSource.found (source : HeaderSource) : Event :=
  .found source.headerPath source.configPath.isSome

section Run

variable {o : RunOptions} {t u : FileTree} {r : Except Failure RunResult}

theorem Session.perform_discover_eq (directory : String) (s : Session) :
    s.perform (workspace.discover directory) = match s.files.list? directory with
      | none => (.error (.ofCause (.noInputDirectory directory)), s)
      | some listing => (.ok (listing.headers directory), s.record ((listing.headers directory).map HeaderSource.found)) := by
  rw [Workspace.discover, perform_bind, perform_list?]
  cases s.files.list? directory with
  | none => rfl
  | some listing =>
    dsimp only
    rw [perform_bind, perform_reportAll]
    rfl

theorem Session.perform_discover (directory : String) (s : Session) :
    ∃ es, s.perform (workspace.discover directory) = match s.files.list? directory with
      | none => (.error (.ofCause (.noInputDirectory directory)), ⟨s.files, es⟩)
      | some listing => (.ok (listing.headers directory), ⟨s.files, es⟩) := by
  rw [perform_discover_eq]
  cases s.files.list? directory with
  | none => exact ⟨_, rfl⟩
  | some listing => exact ⟨_, rfl⟩

theorem runs_run (o : RunOptions) (s : Session) :
    Runs o s.files (s.perform (Session.workspace.run o)).1 (s.perform (Session.workspace.run o)).2.files := by
  obtain ⟨es, hdiscover⟩ := Session.perform_discover o.input s
  rw [Workspace.run, Session.perform_bind, hdiscover]
  cases hlist : s.files.list? o.input with
  | none => exact .noInput hlist
  | some listing => exact .bound hlist (bindsAll_processAll o.output (listing.headers o.input) ⟨s.files, es⟩)

theorem Runs.unique {u' : FileTree} {r' : Except Failure RunResult} (h : Runs o t r u) (h' : Runs o t r' u') :
    r = r' ∧ u = u' := by
  cases h with
  | noInput hlist =>
    cases h' with
    | noInput _ => exact ⟨rfl, rfl⟩
    | bound hlist' _ =>
      rw [hlist] at hlist'
      cases hlist'
  | bound hlist hall =>
    cases h' with
    | noInput hlist' =>
      rw [hlist] at hlist'
      cases hlist'
    | bound hlist' hall' =>
      rw [hlist] at hlist'
      cases hlist'
      exact hall.unique hall'

/-- What a run comes to in a session is what its files say. -/
theorem runs_iff (o : RunOptions) (s : Session) :
    Runs o s.files r u ↔
      (s.perform (Session.workspace.run o)).1 = r ∧ (s.perform (Session.workspace.run o)).2.files = u := by
  have hrun := runs_run o s
  refine ⟨hrun.unique, ?_⟩
  rintro ⟨rfl, rfl⟩
  exact hrun

theorem Runs.bindsAll {listing : Listing} (h : Runs o t r u) (hlist : t.list? o.input = some listing) :
    BindsAll o.output (listing.headers o.input) t r u := by
  cases h with
  | noInput hno => cases hno.symm.trans hlist
  | bound hlist' hall => exact Option.some.inj (hlist'.symm.trans hlist) ▸ hall

/-- A run lets the tree grow. -/
theorem Runs.grows (h : Runs o t r u) (ht : t.WellFormed) : Grows t u := by
  cases h with
  | noInput _ => exact .refl
  | bound hlist hall =>
    exact hall.grows (hasDirectory_of_list? hlist) (ht.isName_generatedName hlist)

end Run

end Bindings
