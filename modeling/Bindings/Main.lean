import Bindings.CommandLine

/-!
# The program

The workspace of files on disk, and the program that runs on it. The log goes to standard error.
-/

namespace Bindings

/-- What is at the path of a directory entry; anything but files and directories is left out. -/
partial def diskListing (e : IO.FS.DirEntry) : IO (Option Listing) := do
  if ← e.path.isDir then
    let entries ← e.path.readDir
    let listed ← entries.toList.filterMapM fun child => do
      return (← diskListing child).map (child.fileName, ·)
    return some (.directory listed)
  else
    return if (← e.path.metadata).type == .file then some .file else none

/-- The answer of an action on files, or another one if it fails. -/
def orElseDefault {α : Type} (default : α) (action : IO α) : IO α :=
  tryCatch action fun _ => return default

/-- Files on disk, with a log that is verbose or not. -/
def diskWorkspace (verbose : Bool) : Workspace IO where
  list? path := orElseDefault none do
    match ← diskListing ⟨path, "."⟩ with
    | some (.directory entries) => return if path = "" then none else some (.directory entries)
    | _ => return none
  read? path := orElseDefault none (some <$> IO.FS.readFile path)
  makeDirectories path := orElseDefault false do
    unless path = "" do IO.FS.createDirAll path
    return true
  write path text := orElseDefault false do
    IO.FS.writeFile path text
    return true
  report e := for line in logLines verbose [e] do IO.eprintln line

end Bindings

def main (args : List String) : IO UInt32 := do
  match Bindings.CommandLine.request args with
  | .run verbose options => (Bindings.diskWorkspace verbose).execute options
  | .help =>
    IO.print Bindings.CommandLine.usage
    return 0
  | .misuse =>
    IO.eprint Bindings.CommandLine.usage
    return 2
