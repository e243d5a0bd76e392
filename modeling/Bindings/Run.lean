import Bindings.BindingDocument.Writer
import Bindings.Config.Reader
import Bindings.Header.Reader
import Bindings.Workspace

/-!
# Runs

A run discovers the headers below a directory, binds each of them, and writes its document if there is a directory to
write to. It stops at the first failure; what has been written until then stays.
-/

namespace Bindings

structure RunOptions where
  input : String
  /-- Where documents are written; nowhere if a run only checks. -/
  output : Option String

structure RunResult where
  documents : List BindingDocument
  /-- The paths of the documents, in the order of the headers. -/
  written : List String

namespace Workspace
variable {m : Type → Type} [Monad m] (ws : Workspace m)

def reportAll : List Event → m Unit
  | [] => return
  | e :: es => do
    ws.report e
    reportAll es

/-- Report what a computation reports, and go on with its outcome. -/
def trace {α : Type} (t : Traced α) : ExceptT Failure m α := do
  ws.reportAll t.events
  t.outcome

/-- The headers below a directory, in order. -/
def discover (directory : String) : ExceptT Failure m (List HeaderSource) := do
  match ← ws.list? directory with
  | none => throw (.ofCause (.noInputDirectory directory))
  | some listing =>
    let sources := listing.headers directory
    ws.reportAll (sources.map fun s => .found s.headerPath s.configPath.isSome)
    return sources

/-- The metadata of a header; one without a name takes that of its file. -/
def loadHeader (s : HeaderSource) : ExceptT Failure m Header := do
  match ← ws.read? s.headerPath with
  | none => throw (.ofCause (.unreadableHeader s.headerPath))
  | some text =>
    let h ← Header.parse text s.headerPath
    return if h.name = "" then { h with name := s.stem } else h

/-- The configuration of a header. -/
def loadConfig (s : HeaderSource) : ExceptT Failure m HeaderConfig := do
  match s.configPath with
  | none => return .empty
  | some path =>
    match ← ws.read? path with
    | none => throw (.ofCause (.unreadableConfig path))
    | some text => HeaderConfig.parse text path

/-- Write the document of a header; the answer is its path. -/
def writeDocument (output stem : String) (d : BindingDocument) : ExceptT Failure m String := do
  unless ← ws.makeDirectories output do throw (.ofCause (.directoryNotCreated output))
  let path := Path.join output (generatedName stem)
  unless ← ws.write path d.text do throw (.ofCause (.fileNotWritten path))
  ws.report (.wrote d.header d.functions.length d.enums.length path)
  return path

/-- Bind one header. -/
def process (output : Option String) (s : HeaderSource) : ExceptT Failure m (BindingDocument × Option String) := do
  let h ← ws.loadHeader s
  let c ← ExceptT.adapt (·.inHeader h.name) (ws.loadConfig s)
  let d ← ws.trace (h.generate c)
  match output with
  | none => return (d, none)
  | some directory => return (d, some (← ws.writeDocument directory s.stem d))

/-- Bind headers in their order. -/
def processAll (output : Option String) : List HeaderSource → ExceptT Failure m RunResult
  | [] => return ⟨[], []⟩
  | s :: ss => do
    let (d, path) ← ws.process output s
    let rest ← processAll output ss
    return ⟨d :: rest.documents, path.toList ++ rest.written⟩

/-- A whole run. -/
def run (o : RunOptions) : ExceptT Failure m RunResult := do
  let sources ← ws.discover o.input
  ws.processAll o.output sources

/-- A run as a program: its last event tells how it ended, and so does its exit code. -/
def execute (o : RunOptions) : m UInt32 := do
  match ← (ws.run o).run with
  | .ok r =>
    ws.report (.complete r.documents.length (r.documents.flatMap (·.functions)).length r.written.length)
    return 0
  | .error f =>
    ws.report (.failed f)
    return 1

end Workspace

end Bindings
