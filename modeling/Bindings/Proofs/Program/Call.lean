import Bindings.Proofs.CommandLine
import Bindings.Proofs.Program.Lines
import Bindings.Proofs.Run.Reports

/-!
# Calls of the program

* `FileTree.call?`: what the program does on a file tree when its arguments ask for a run.
* `Call.isLogOf_entries`: the log of a call is that of the messages of the events that it shows.
* `exists_call`: whether the log is to be verbose or not, there is one run behind the call, with the same events.
-/

namespace Bindings

/-- What a call of the program comes to: its exit code, the files that it leaves and the events of its run, for a log
that is verbose or not. -/
structure Call where
  exitCode : UInt32
  files : FileTree
  verbose : Bool
  events : List Event

namespace Call

/-- The events that the log shows. -/
def shown (call : Call) : List Event :=
  call.events.filter (Event.isShown call.verbose)

/-- The lines of the log. -/
def log (call : Call) (wording : Wording) : List String :=
  logWith wording call.verbose call.events

theorem log_eq (call : Call) (wording : Wording) : call.log wording = call.shown.flatMap (Event.lines wording) := rfl

/-- The messages of the log, each with its level. -/
def entries (call : Call) (wording : Wording) : List (Level × String) :=
  call.shown.flatMap (Event.entries wording)

theorem isLogOf_entries (call : Call) (wording : Wording) :
    IsLogOf (call.log wording) ((call.entries wording).map (·.2)) :=
  isLogOf_logWith wording call.verbose call.events

end Call

/-- What the program does on a file tree when its arguments ask for a run. -/
def FileTree.call? (t : FileTree) (args : List String) : Option Call :=
  match CommandLine.request args with
  | .run verbose o =>
    let (exitCode, s) := (Session.workspace.execute o).run ⟨t, []⟩
    some ⟨exitCode, s.files, verbose, s.events⟩
  | _ => none

/-- The run behind a call, whether its log is verbose or not: how far that comes, and what is reported of it. -/
theorem exists_call {t : FileTree} (ht : t.WellFormed) (o : RunOptions) :
    ∃ r s bound warnings functions rest, Session.perform ⟨t, []⟩ (Session.workspace.run o) = (r, s) ∧
      Reaches o t r bound warnings functions ∧
      Tells rest (tellBound o.output bound ++ warnings) (bound.flatMap (·.document.functions) ++ functions) ∧
      ∀ {args verbose}, CommandLine.request args = .run verbose o → t.call? args = some ⟨(closing r).1, s.files, verbose,
        (t.discovered o.input).map HeaderSource.found ++ (rest ++ [(closing r).2])⟩ := by
  obtain ⟨bound, warnings, functions, rest, hreaches, hevents, htells⟩ := exists_reaches (s := ⟨t, []⟩) ht o
  rcases hrun : Session.perform ⟨t, []⟩ (Session.workspace.run o) with ⟨r, s⟩
  rw [hrun] at hreaches hevents
  refine ⟨r, s, bound, warnings, functions, rest, rfl, hreaches, htells, fun hargs => ?_⟩
  rw [FileTree.call?, hargs]
  dsimp only
  rw [run_execute, hrun]
  dsimp only
  rw [Session.files_record, Session.events_record, hevents, List.append_assoc, List.append_assoc]
  rfl

/-- Metadata of a header with functions of the given names and return types. -/
def headerFile (name : String) (functions : List (String × String)) : FileTree :=
  .file ("\x7b\"name\": \"" ++ name ++ "\", \"functions\": [" ++ ", ".intercalate (functions.map fun (function, type) =>
    "\x7b\"name\": \"" ++ function ++ "\", \"rtnType\": \"" ++ type ++ "\"\x7d") ++ "]\x7d").toUTF8

/-- Two headers of one module. The second function of the second one returns a type that is not exposed. -/
def motorFiles : FileTree :=
  let config : FileTree := .file "module_name = \"Mot\"".toUTF8
  .directory [("in", .directory [
    ("a.json", headerFile "A" [("c_Mot_Get", "int")]), ("a.toml", config),
    ("b.json", headerFile "B" [("c_Mot_Set", "void"), ("c_Mot_Run", "long")]), ("b.toml", config)])]

/-- The failure of the second header. -/
def motorFailure : Failure :=
  ⟨.unknownType "long", some "B", some "c_Mot_Run", (Cause.unknownType "long").hints⟩

end Bindings
