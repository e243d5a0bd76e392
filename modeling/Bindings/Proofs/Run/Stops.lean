import Bindings.Proofs.Run.Again
import Mathlib.Data.List.Forall2

/-!
# Where a run stops

* `bindsAll_append_iff`: headers that are all bound are followed by the next ones.
* `BindsAll.exists_stop`, `BindsAll.append_stop`: binding headers fails exactly by binding some of them and failing at
  the next one.
* `BindsAll.documents`: what is bound has the documents that the tree before the run says.
* `FileTree.StopsAt`, `Session.StopsAt`: binding stops at a header, as the files say and as the program does
  (`stopsAt_iff`).
-/

namespace Bindings

open FileTree

/-- First one result, then another. -/
def RunResult.append (a b : RunResult) : RunResult :=
  ⟨a.documents ++ b.documents, a.written ++ b.written⟩

variable {output : Option String} {source : HeaderSource} {sources before after : List HeaderSource}
  {t u v : FileTree} {r : Except Failure RunResult} {result : RunResult} {e : Failure}

theorem exists_bindsAll (output : Option String) (sources : List HeaderSource) (t : FileTree) :
    ∃ r u, BindsAll output sources t r u :=
  ⟨_, _, bindsAll_processAll output sources ⟨t, []⟩⟩

/-- After headers that are bound, binding goes on with the next ones. -/
theorem bindsAll_append_iff (h : BindsAll output before t (.ok result) v) :
    BindsAll output (before ++ after) t r u ↔
      ∃ rest, BindsAll output after v rest u ∧ r = rest.map result.append := by
  have happend : ∀ {rest u}, BindsAll output after v rest u →
      BindsAll output (before ++ after) t (rest.map result.append) u := by
    intro rest u hrest
    generalize hr : Except.ok result = first at h
    induction h generalizing result with
    | nil =>
      cases hr
      cases rest <;> exact hrest
    | stops _ => cases hr
    | @goesOn source _ _ _ _ d path first hstep _ ih =>
      cases first with
      | error e => cases hr
      | ok a =>
        cases hr
        have hall := BindsAll.goesOn hstep (ih hrest rfl)
        cases rest with
        | error e => exact hall
        | ok b =>
          have hsame : (⟨d :: (a.documents ++ b.documents), path.toList ++ (a.written ++ b.written)⟩ : RunResult) =
              RunResult.append ⟨d :: a.documents, path.toList ++ a.written⟩ b := by
            simp [RunResult.append]
          rw [Except.map, ← hsame]
          exact hall
  refine ⟨fun hall => ?_, fun ⟨rest, hrest, hr⟩ => hr ▸ happend hrest⟩
  obtain ⟨rest, w, hrest⟩ := exists_bindsAll output after v
  obtain ⟨rfl, rfl⟩ := hall.unique (happend hrest)
  exact ⟨rest, hrest, rfl⟩

/-- Binding headers fails at one of them, when those before it are bound. -/
theorem BindsAll.exists_stop (h : BindsAll output sources t (.error e) u) :
    ∃ before source after result v, sources = before ++ source :: after ∧ BindsAll output before t (.ok result) v ∧
      Binds output source v (.error e) u := by
  generalize hr : Except.error e = r at h
  induction h with
  | nil => cases hr
  | @stops source sources t u e hstep =>
    cases hr
    exact ⟨[], source, sources, _, t, rfl, .nil, hstep⟩
  | @goesOn first _ _ _ _ d path rest hstep _ ih =>
    cases rest with
    | ok a => cases hr
    | error e =>
      cases hr
      obtain ⟨before, source, after, result, v, rfl, hbefore, hstop⟩ := ih rfl
      exact ⟨first :: before, source, after, _, v, rfl, .goesOn hstep hbefore, hstop⟩

/-- Where binding a header fails, nothing is done for those after it. -/
theorem BindsAll.append_stop (h : BindsAll output before t (.ok result) v) (hstop : Binds output source v (.error e) u)
    (after : List HeaderSource) : BindsAll output (before ++ source :: after) t (.error e) u :=
  (bindsAll_append_iff h).2 ⟨.error e, .stops hstop, rfl⟩

/-! ## Documents -/

/-- The headers are somewhere in a tree. -/
def FileTree.HoldsAll (t : FileTree) (sources : List HeaderSource) : Prop :=
  ∀ source ∈ sources, ∃ l, t.Holds l source

theorem FileTree.holdsAll_append_cons_iff :
    t.HoldsAll (before ++ source :: after) ↔ t.HoldsAll before ∧ (∃ l, t.Holds l source) ∧ t.HoldsAll after := by
  simp only [HoldsAll, List.forall_mem_append, List.forall_mem_cons]

theorem FileTree.HoldsAll.isName_generatedName (h : t.HoldsAll sources) :
    ∀ source ∈ sources, IsName (generatedName source.stem) :=
  fun source hs => (h source hs).elim fun _ hl => hl.isName_generatedName

theorem FileTree.WellFormed.holdsAll (ht : t.WellFormed) {listing : Listing} {path : String}
    (hlist : t.list? path = some listing) : t.HoldsAll (listing.headers path) :=
  fun _ hs => ht.exists_holds hlist hs

/-- The given documents are those of the headers, one by one. -/
abbrev FileTree.HasDocuments (t : FileTree) (sources : List HeaderSource) (documents : List BindingDocument) : Prop :=
  List.Forall₂ (fun source d => t.document source = .ok d) sources documents

theorem Binds.document_eq_ok {d : BindingDocument} {path : Option String} (h : Binds output source t (.ok (d, path)) u) :
    t.document source = .ok d := by
  cases h with
  | checked hok _ => exact hok
  | written hok _ _ _ => exact hok

/-- What is bound has the documents that the tree before says: those that come up on the way change none. -/
theorem BindsAll.documents {t₀ : FileTree} (h : BindsAll output sources t (.ok result) u) (hd : t₀.HasDirectory [])
    (hsources : t₀.HoldsAll sources) (ht : Grows t₀ t) : t₀.HasDocuments sources result.documents ∧ Grows t₀ u := by
  generalize hr : Except.ok result = r at h
  induction h generalizing result with
  | nil =>
    cases hr
    exact ⟨.nil, ht⟩
  | stops _ => cases hr
  | @goesOn _ _ _ _ _ _ _ rest hstep _ ih =>
    cases rest with
    | error e => cases hr
    | ok a =>
      cases hr
      obtain ⟨⟨l, hl⟩, hsources⟩ := List.forall_mem_cons.1 hsources
      have hgrown := hstep.grows (ht.keeps.directory hd) hl.isName_generatedName
      obtain ⟨hrest, hlast⟩ := ih hsources (ht.trans hgrown) rfl
      exact ⟨.cons ((ht.document_eq hl).symm.trans hstep.document_eq_ok) hrest, hlast⟩

/-! ## Sessions -/

/-- Binding headers one after another fails at the given one, when those before it are bound. -/
def FileTree.StopsAt (t : FileTree) (output : Option String) (before : List HeaderSource) (source : HeaderSource)
    (e : Failure) : Prop :=
  ∃ result v u, BindsAll output before t (.ok result) v ∧ Binds output source v (.error e) u

theorem bindsAll_iff {s : Session} :
    BindsAll output sources s.files r u ↔ (s.perform (Session.workspace.processAll output sources)).1 = r ∧
      (s.perform (Session.workspace.processAll output sources)).2.files = u := by
  have hall := bindsAll_processAll output sources s
  refine ⟨hall.unique, ?_⟩
  rintro ⟨rfl, rfl⟩
  exact hall

/-- The same in a session. -/
def Session.StopsAt (s : Session) (output : Option String) (before : List HeaderSource) (source : HeaderSource)
    (e : Failure) : Prop :=
  ∃ result s₁, s.perform (workspace.processAll output before) = (.ok result, s₁) ∧
    (s₁.perform (workspace.process output source)).1 = .error e

theorem stopsAt_iff {s : Session} : s.StopsAt output before source e ↔ s.files.StopsAt output before source e := by
  constructor
  · rintro ⟨result, s₁, hbefore, hstop⟩
    have hall := bindsAll_processAll output before s
    have hstep := binds_process output source s₁
    rw [hbefore] at hall
    rw [hstop] at hstep
    exact ⟨result, _, _, hall, hstep⟩
  · rintro ⟨result, v, u, hbefore, hstop⟩
    obtain ⟨hresult, rfl⟩ := bindsAll_iff.1 hbefore
    have hstep := binds_process output source (s.perform (Session.workspace.processAll output before)).2
    exact ⟨result, _, Prod.ext hresult rfl, (hstop.unique hstep).1.symm⟩

end Bindings
