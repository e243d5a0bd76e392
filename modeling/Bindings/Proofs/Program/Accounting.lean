import Bindings.Proofs.Program.Call

/-!
# The log as an account

A log that is not verbose tells for one header after another what it was warned of and what was written, and at last how
the run ended.

* `Reaches.filter_isShown`: the events of the log, by how far the run comes, and the last of them.
* `Reaches.cases_of_mem`: what events these are.
* `call_accounts`: the log and the exit code of a call.
-/

namespace Bindings

/-- How many functions headers have together. -/
def countFunctions : List BoundHeader → Nat
  | [] => 0
  | b :: bound => b.document.functions.length + countFunctions bound

theorem length_functions (bound : List BoundHeader) :
    (bound.flatMap (·.document.functions)).length = countFunctions bound := by
  induction bound with
  | nil => rfl
  | cons b bound ih => rw [List.flatMap_cons, List.length_append, ih, countFunctions]

/-- The last event of a log. -/
def ending (output : Option String) (bound : List BoundHeader) : Except Failure RunResult → Event
  | .ok _ => .complete bound.length (countFunctions bound) (bound.flatMap (·.wrote output)).length
  | .error e => .failed e

section

variable {o : RunOptions} {t : FileTree} {output : Option String} {bound : List BoundHeader}
  {r : Except Failure RunResult} {warnings : List Event} {functions : List BoundFunction} {e : Failure}

/-- The last event of a run that succeeds counts what has been reported before. -/
theorem Reaches.closing_eq (h : Reaches o t r bound warnings functions) : (closing r).2 = ending o.output bound r := by
  cases h with
  | noInput _ => rfl
  | cut _ _ _ _ => rfl
  | @complete _ _ result _ _ _ hdocuments hwritten =>
    have hwrote : (bound.flatMap (·.wrote o.output)).length = result.written.length := by
      simp only [← hwritten, List.length_flatMap, BoundHeader.wrote, List.length_map]
    rw [closing, ending, ← hdocuments, hwrote, List.length_map, List.flatMap_map, length_functions]

theorem filter_isShown_found (sources : List HeaderSource) :
    (sources.map HeaderSource.found).filter (Event.isShown false) = [] := by
  refine List.filter_eq_nil_iff.2 fun event hevent => ?_
  obtain ⟨source, _, rfl⟩ := List.mem_map.1 hevent
  exact Bool.false_ne_true

/-- The log shows what the run tells of, and its last event. -/
theorem Reaches.filter_isShown (h : Reaches o t r bound warnings functions) {rest : List Event}
    (htells : Tells rest (tellBound o.output bound ++ warnings) (bound.flatMap (·.document.functions) ++ functions))
    (sources : List HeaderSource) :
    (sources.map HeaderSource.found ++ (rest ++ [(closing r).2])).filter (Event.isShown false) =
      tellBound o.output bound ++ warnings ++ [ending o.output bound r] := by
  rw [List.filter_append, List.filter_append, filter_isShown_found, htells.shown_eq, List.filter_singleton,
    Event.isShown_false, isDebug_closing, h.closing_eq]
  rfl

theorem HeaderConfig.level_of_mem_warnings {c : HeaderConfig} {fs : List NativeFunction} {event : Event}
    (h : event ∈ c.warnings fs) : event.level = .warn := by
  obtain ⟨f, _, rfl⟩ := List.mem_map.1 h
  rfl

theorem BoundHeader.level_of_mem_warnings {b : BoundHeader} {event : Event} (h : event ∈ b.warnings) :
    event.level = .warn := by
  rw [warnings, Header.warnings] at h
  split at h
  · exact HeaderConfig.level_of_mem_warnings h
  · cases h

theorem FileTree.Cut.level_of_mem {source : HeaderSource} {warnings : List Event} {functions : List BoundFunction}
    (h : t.Cut output source e warnings functions) {event : Event} (hevent : event ∈ warnings) : event.level = .warn := by
  cases h with
  | noHeader _ => cases hevent
  | noConfig _ _ => cases hevent
  | refused _ _ _ _ _ _ => exact HeaderConfig.level_of_mem_warnings hevent
  | unwritten _ _ _ _ => exact BoundHeader.level_of_mem_warnings hevent

theorem Reaches.level_of_mem (h : Reaches o t r bound warnings functions) {event : Event} (hevent : event ∈ warnings) :
    event.level = .warn := by
  cases h with
  | complete _ _ _ _ _ => cases hevent
  | noInput _ => cases hevent
  | cut _ _ _ hcut => exact hcut.level_of_mem hevent

/-- The log warns, tells of documents that are written, and at last how the run ends. -/
theorem Reaches.cases_of_mem (h : Reaches o t r bound warnings functions) {event : Event}
    (hevent : event ∈ tellBound o.output bound ++ warnings ++ [ending o.output bound r]) :
    event.level = .warn ∨ (∃ (d : BindingDocument) (path : String), event = d.written path) ∨
      event = ending o.output bound r := by
  rw [List.mem_append, List.mem_append, tellBound, List.mem_flatMap, List.mem_singleton] at hevent
  rcases hevent with (⟨b, _, hevent⟩ | hevent) | hevent
  · rcases List.mem_append.1 hevent with hwarned | hwrote
    · exact .inl (BoundHeader.level_of_mem_warnings hwarned)
    · obtain ⟨path, _, rfl⟩ := List.mem_map.1 hwrote
      exact .inr (.inl ⟨b.document, path, rfl⟩)
  · exact .inl (h.level_of_mem hevent)
  · exact .inr (.inr hevent)

/-- The one failure that the log tells of is that of the run. -/
theorem Reaches.eq_error_of_mem (h : Reaches o t r bound warnings functions)
    (he : .failed e ∈ tellBound o.output bound ++ warnings ++ [ending o.output bound r]) : r = .error e := by
  rcases h.cases_of_mem he with hlevel | ⟨d, path, hwritten⟩ | hending
  · cases hlevel
  · cases hwritten
  · cases r with
    | ok result => cases hending
    | error e' => rw [Event.failed.inj hending]

/-- A run that fails is not told to be complete. -/
theorem Reaches.not_mem_complete (h : Reaches o t (.error e) bound warnings functions) (headers count written : Nat) :
    .complete headers count written ∉ tellBound o.output bound ++ warnings ++ [ending o.output bound (.error e)] := by
  intro hcomplete
  rcases h.cases_of_mem hcomplete with hlevel | ⟨d, path, hwritten⟩ | hending
  · cases hlevel
  · cases hwritten
  · cases hending

end

/-! ## Calls -/

theorem exitCode_closing (r : Except Failure RunResult) :
    ((closing r).1 = 0 ↔ r.isOk = true) ∧ ((closing r).1 = 1 ↔ r.isOk = false) := by
  cases r with
  | error e =>
    show ((1 : UInt32) = 0 ↔ false = true) ∧ ((1 : UInt32) = 1 ↔ false = false)
    decide
  | ok result =>
    show ((0 : UInt32) = 0 ↔ true = true) ∧ ((0 : UInt32) = 1 ↔ true = false)
    decide

/--
**Accounting.** A call without the flag for a verbose log ends with 0 exactly when its run succeeds, and with 1 when that
fails. Its log has the messages that tell of the headers in their order, and at last that all is complete, with the sums,
or of the failure that has stopped it, with its place and its hints.
-/
theorem call_accounts {t : FileTree} {args : List String} {o : RunOptions} (ht : t.WellFormed)
    (hargs : CommandLine.request args = .run false o) :
    (args.head? = some "generate" ∧ o.output.isSome ∨ args.head? = some "check" ∧ o.output = none) ∧
      ∃ r s call bound warnings functions, Session.perform ⟨t, []⟩ (Session.workspace.run o) = (r, s) ∧
        t.call? args = some call ∧ (call.exitCode = 0 ↔ r.isOk = true) ∧ (call.exitCode = 1 ↔ r.isOk = false) ∧
        Reaches o t r bound warnings functions ∧
        call.shown = tellBound o.output bound ++ warnings ++ [ending o.output bound r] ∧
        (∀ wording, (∀ e, r = .error e → Wording.Knows wording e) →
          ∃ entries, Event.SayAll wording (tellBound o.output bound ++ warnings ++ [ending o.output bound r]) entries ∧
            IsLogOf (call.log wording) (entries.map (·.2))) ∧
        ∀ e, r = .error e → ∀ headers count written, .complete headers count written ∉ call.shown := by
  obtain ⟨r, s, bound, warnings, functions, rest, hrun, hreaches, htells, hcall⟩ := exists_call ht o
  obtain ⟨hzero, hone⟩ := exitCode_closing r
  have hshown : Call.shown ⟨(closing r).1, s.files, false, _⟩ = _ :=
    hreaches.filter_isShown htells (t.discovered o.input)
  refine ⟨CommandLine.output_of_request hargs, r, s, _, bound, warnings, functions, hrun, hcall hargs, hzero, hone,
    hreaches, hshown, fun wording hknows => ⟨_, ?_, Call.isLogOf_entries _ wording⟩, ?_⟩
  · rw [Call.entries, hshown]
    exact Event.sayAll_flatMap_entries fun e he => hknows e (hreaches.eq_error_of_mem he)
  · rintro e rfl headers count written
    rw [hshown]
    exact hreaches.not_mem_complete headers count written

/-- The events that the log of the two headers shows. -/
def motorShown : List Event :=
  [.unconfigured "c_Mot_Get", .wrote "A" 1 0 "out/a.gen.json", .unconfigured "c_Mot_Set", .unconfigured "c_Mot_Run",
    .failed motorFailure]

theorem second_header_accounted :
    motorFiles.WellFormed ∧ CommandLine.request ["generate", "-i", "in", "-o=out"] = .run false ⟨"in", some "out"⟩ ∧
      ∃ r call bound warnings functions, ∃ entries : List (Level × String),
        motorFiles.call? ["generate", "-i", "in", "-o=out"] = some call ∧
        call.exitCode = 1 ∧ r.isOk = false ∧ Reaches ⟨"in", some "out"⟩ motorFiles r bound warnings functions ∧
        tellBound (some "out") bound ++ warnings ++ [ending (some "out") bound r] = motorShown ∧
        Event.SayAll (fun _ => some "") motorShown entries ∧ IsLogOf (call.log fun _ => some "") (entries.map (·.2)) ∧
        call.log (fun _ => some "") = [
          "WARN no generator config for function function=c_Mot_Get",
          "INFO wrote generated header header=A functions=1 enums=0 path=out/a.gen.json",
          "WARN no generator config for function function=c_Mot_Set",
          "WARN no generator config for function function=c_Mot_Run",
          "ERROR [BG-ERR-UNKNOWN-TYPE] No host annotation for native type 'long' header=\"B\" function=\"c_Mot_Run\"",
          "ERROR hint: Add the type to the native type table in annotations.rs"] := by
  have hw : motorFiles.WellFormed := by decide +kernel
  have hargs : CommandLine.request ["generate", "-i", "in", "-o=out"] = .run false ⟨"in", some "out"⟩ := by rfl
  obtain ⟨_, r, s, call, bound, warnings, functions, _, hcall, _, hone, hreaches, hshown, hlog, _⟩ :=
    call_accounts hw hargs
  obtain ⟨entries, hsays, hentries⟩ := hlog (fun _ => some "") fun _ _ _ => rfl
  have hevaluated : (motorFiles.call? ["generate", "-i", "in", "-o=out"]).map (fun call => (call.exitCode, call.shown)) =
      some (1, motorShown) := by decide +kernel
  rw [hcall] at hevaluated
  obtain ⟨hcode, hevents⟩ := Prod.mk.inj (Option.some.inj hevaluated)
  have hevents' := hshown.symm.trans hevents
  rw [hevents'] at hsays
  refine ⟨hw, hargs, r, call, bound, warnings, functions, entries, hcall, hcode, hone.1 hcode, hreaches, hevents',
    hsays, hentries, ?_⟩
  rw [Call.log_eq, hevents]
  decide +kernel

end Bindings
