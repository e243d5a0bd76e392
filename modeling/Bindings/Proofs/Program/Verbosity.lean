import Bindings.Proofs.Program.Accounting

/-!
# Verbose logs

The flag for a verbose log adds to the log, and to nothing else.

* `Call.entries_eq_filter`: taking out the debug events takes out their messages.
* `Call.log_eq_filter`: these can be told by their beginning, as long as no message has a line feed.
* `call_verbose`: a call with the flag beside the same call without it.
-/

namespace Bindings

/-! ## Messages -/

/-- Where each thing shown can be told to be of a debug event or not, taking those out is taking out the events. -/
theorem flatMap_filter_of_debug {α : Type} {f : Event → List α} {isDebug : α → Bool} {es : List Event}
    (h : ∀ e ∈ es, ∀ x ∈ f e, isDebug x = e.isDebug) :
    (es.filter (!·.isDebug)).flatMap f = (es.flatMap f).filter (!isDebug ·) := by
  induction es with
  | nil => rfl
  | cons e es ih =>
    obtain ⟨he, hes⟩ := List.forall_mem_cons.1 h
    rw [List.flatMap_cons, List.filter_append, ← ih hes, List.filter_cons]
    cases hdebug : e.isDebug with
    | true =>
      have hnone : (f e).filter (!isDebug ·) = [] :=
        List.filter_eq_nil_iff.2 fun x hx => by simp [he x hx, hdebug]
      rw [hnone]
      rfl
    | false =>
      have hall : (f e).filter (!isDebug ·) = f e :=
        List.filter_eq_self.2 fun x hx => by simp [he x hx, hdebug]
      rw [hall]
      rfl

/-- Whether a line starts as those of debug events do. -/
def isDebugLine (line : String) : Bool :=
  "DEBUG ".toList.isPrefixOf line.toList

theorem isDebugLine_level (level : Level) (message : String) :
    isDebugLine (level.text ++ " " ++ message) = (level == .debug) := by
  rw [isDebugLine, String.toList_append, String.toList_append]
  cases level <;> rfl

/-! ## Calls -/

/-- The log of a call whose log is not verbose is that of one with the same events whose log is, without the debug
events. -/
theorem Call.shown_eq_filter {quiet verbose : Call} (hquiet : quiet.verbose = false) (hverbose : verbose.verbose = true)
    (hevents : verbose.events = quiet.events) : quiet.shown = verbose.shown.filter (!·.isDebug) := by
  rw [shown, shown, hquiet, hverbose, hevents, Event.filter_isShown_true, Event.filter_isShown_false]

section

variable {quiet verbose : Call} (h : quiet.shown = verbose.shown.filter (!·.isDebug)) (wording : Wording)
include h

/-- The same for its messages. -/
theorem Call.entries_eq_filter : quiet.entries wording = (verbose.entries wording).filter (·.1 ≠ .debug) := by
  have hdebug : (fun entry : Level × String => decide (entry.1 ≠ .debug)) = fun entry => !(entry.1 == .debug) := by
    funext entry
    cases entry.1 <;> rfl
  rw [entries, h, entries, hdebug]
  refine flatMap_filter_of_debug fun e _ entry hentry => ?_
  obtain ⟨message, _, rfl⟩ := List.mem_map.1 hentry
  rfl

/-- Where no message has a line feed, the lines of the debug events can be told by their beginning. -/
theorem Call.log_eq_filter (hunbroken : ∀ entry ∈ verbose.entries wording, '\n' ∉ entry.2.toList) :
    quiet.log wording = (verbose.log wording).filter (!isDebugLine ·) := by
  have hquiet : ∀ message ∈ (quiet.entries wording).map (·.2), '\n' ∉ message.toList := by
    rw [entries_eq_filter h]
    exact List.forall_mem_map.2 fun entry hentry => hunbroken entry (List.mem_filter.1 hentry).1
  rw [(quiet.isLogOf_entries wording).eq_of_unbroken hquiet, entries_eq_filter h,
    (verbose.isLogOf_entries wording).eq_of_unbroken (List.forall_mem_map.2 hunbroken), List.filter_map]
  refine congrArg (List.map _) (List.filter_congr fun entry hentry => ?_)
  obtain ⟨e, _, hentry⟩ := List.mem_flatMap.1 hentry
  obtain ⟨message, _, rfl⟩ := List.mem_map.1 hentry
  rw [Function.comp_apply, isDebugLine_level]
  cases e.level <;> rfl

end

/--
**Verbosity.** With the flag for a verbose log put anywhere, a command line asks for the same run or is wrong. The run
comes to the same exit code and leaves the same files. Its log is that of the call without the flag, when the messages of
the debug events are taken out: those of the headers discovered, before all else, and those of the functions bound, in
their order.
-/
theorem call_verbose {t : FileTree} {args : List String} {o : RunOptions} (ht : t.WellFormed)
    (hargs : CommandLine.request args = .run false o) :
    (∀ flag, CommandLine.IsVerboseFlag flag → CommandLine.request (flag :: args) = .run true o ∧
      ∀ before after, args = before ++ after → CommandLine.request (before ++ flag :: after) = .run true o ∨
        CommandLine.request (before ++ flag :: after) = .misuse) ∧
      ∀ args', CommandLine.request args' = .run true o →
        ∃ r s quiet verbose rest bound warnings functions, Session.perform ⟨t, []⟩ (Session.workspace.run o) = (r, s) ∧
          t.call? args = some quiet ∧ t.call? args' = some verbose ∧ verbose.exitCode = quiet.exitCode ∧
          verbose.files = quiet.files ∧ quiet.shown = verbose.shown.filter (!·.isDebug) ∧
          verbose.shown = (t.discovered o.input).map HeaderSource.found ++ rest ∧
          Reaches o t r bound warnings functions ∧
          rest.filter Event.isDebug = (bound.flatMap (·.document.functions) ++ functions).map BoundFunction.report ∧
          ∀ wording, ∃ entries,
            ((∀ e, r = .error e → Wording.Knows wording e) → Event.SayAll wording verbose.shown entries) ∧
            IsLogOf (verbose.log wording) (entries.map (·.2)) ∧
            IsLogOf (quiet.log wording) ((entries.filter (·.1 ≠ .debug)).map (·.2)) ∧
            ((∀ entry ∈ entries, '\n' ∉ entry.2.toList) →
              quiet.log wording = (verbose.log wording).filter (!isDebugLine ·)) := by
  refine ⟨fun flag hf => ⟨CommandLine.request_flag_cons hargs hf, ?_⟩, fun args' hargs' => ?_⟩
  · rintro before after rfl
    exact CommandLine.request_insert hargs hf
  obtain ⟨r, s, bound, warnings, functions, rest, hrun, hreaches, htells, hcall⟩ := exists_call ht o
  have hshown {es : List Event} : Call.shown ⟨(closing r).1, s.files, false, es⟩ =
      (Call.shown ⟨(closing r).1, s.files, true, es⟩).filter (!·.isDebug) :=
    Call.shown_eq_filter rfl rfl rfl
  refine ⟨r, s, _, _, rest ++ [(closing r).2], bound, warnings, functions, hrun, hcall hargs, hcall hargs', rfl, rfl,
    hshown, Event.filter_isShown_true _, hreaches, ?_, fun wording => ⟨_, fun hknows => ?_,
    Call.isLogOf_entries _ wording, ?_, Call.log_eq_filter hshown wording⟩⟩
  · rw [List.filter_append, htells.debug_eq, List.filter_singleton, isDebug_closing]
    exact List.append_nil _
  · refine Event.sayAll_flatMap_entries fun e he => hknows e (hreaches.eq_error_of_mem ?_)
    -- a failure is not for a verbose log only
    rw [← hreaches.filter_isShown htells (t.discovered o.input)]
    exact List.mem_filter.2 ⟨(List.mem_filter.1 he).1, rfl⟩
  · rw [← Call.entries_eq_filter hshown]
    exact Call.isLogOf_entries _ wording

/-- One header with one function. -/
def loneFiles : FileTree :=
  .directory [("in", .directory [
    ("a.json", headerFile "A" [("c_Mot_Get", "int")]), ("a.toml", .file "module_name = \"Mot\"".toUTF8)])]

theorem lone_header_verbose :
    loneFiles.WellFormed ∧ CommandLine.request ["generate", "-i", "in", "-o=out"] = .run false ⟨"in", some "out"⟩ ∧
      CommandLine.request ["generate", "-i", "in", "-v", "-o=out"] = .run true ⟨"in", some "out"⟩ ∧
      ∃ quiet verbose rest, ∃ entries : List (Level × String),
        loneFiles.call? ["generate", "-i", "in", "-o=out"] = some quiet ∧
        loneFiles.call? ["generate", "-i", "in", "-v", "-o=out"] = some verbose ∧ verbose.exitCode = quiet.exitCode ∧
        verbose.files = quiet.files ∧ verbose.shown = (loneFiles.discovered "in").map HeaderSource.found ++ rest ∧
        Event.SayAll (fun _ => some "") verbose.shown entries ∧
        IsLogOf (verbose.log fun _ => some "") (entries.map (·.2)) ∧
        IsLogOf (quiet.log fun _ => some "") ((entries.filter (·.1 ≠ .debug)).map (·.2)) ∧
        verbose.log (fun _ => some "") = [
          "DEBUG found header path=in/a.json has_config=true",
          "WARN no generator config for function function=c_Mot_Get",
          "DEBUG transformed function function=c_Mot_Get exposed=get inputs=0 returns=1",
          "INFO wrote generated header header=A functions=1 enums=0 path=out/a.gen.json",
          "INFO generation complete headers=1 functions=1 written=1"] ∧
        quiet.log (fun _ => some "") = [
          "WARN no generator config for function function=c_Mot_Get",
          "INFO wrote generated header header=A functions=1 enums=0 path=out/a.gen.json",
          "INFO generation complete headers=1 functions=1 written=1"] := by
  have hw : loneFiles.WellFormed := by decide +kernel
  have hargs : CommandLine.request ["generate", "-i", "in", "-o=out"] = .run false ⟨"in", some "out"⟩ := by rfl
  have hargs' : CommandLine.request ["generate", "-i", "in", "-v", "-o=out"] = .run true ⟨"in", some "out"⟩ := by rfl
  obtain ⟨_, hall⟩ := call_verbose hw hargs
  obtain ⟨_, _, quiet, verbose, rest, _, _, _, _, hquiet, hverbose, hexit, hfiles, hshown, hfound, _, _, hlog⟩ :=
    hall _ hargs'
  obtain ⟨entries, hsays, hentries, hentries', _⟩ := hlog fun _ => some ""
  have hevaluated : (loneFiles.call? ["generate", "-i", "in", "-v", "-o=out"]).map (·.shown) =
      some [.found "in/a.json" true, .unconfigured "c_Mot_Get", .transformed "c_Mot_Get" "get" 0 1,
        .wrote "A" 1 0 "out/a.gen.json", .complete 1 1 1] := by decide +kernel
  rw [hverbose] at hevaluated
  have hevents : verbose.shown = _ := Option.some.inj hevaluated
  refine ⟨hw, hargs, hargs', quiet, verbose, rest, entries, hquiet, hverbose, hexit, hfiles, hfound,
    hsays fun _ _ _ => rfl, hentries, hentries', ?_, ?_⟩
  · rw [Call.log_eq, hevents]
    decide +kernel
  · rw [Call.log_eq, hshown, hevents]
    decide +kernel

end Bindings
