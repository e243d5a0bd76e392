import Bindings.Files.Discovery
import Bindings.Files.Tree
import Bindings.Log

/-!
# Workspaces

A `Workspace` is what a run needs of the place it works in: to list, read, make and write files, and to report. A run is
the same on any workspace; a `Session` is one that holds a file tree and the events reported so far.
-/

namespace Bindings

structure Workspace (m : Type → Type) where
  /-- What is below a directory; nothing if the path is not one. -/
  list? : String → m (Option Listing)
  /-- The text of a file, if it can be read and is text. -/
  read? : String → m (Option String)
  /-- Make a directory and those above it; whether it is there now. -/
  makeDirectories : String → m Bool
  /-- Write a file; whether that was possible. -/
  write : String → String → m Bool
  report : Event → m Unit

structure Session where
  files : FileTree
  events : List Event

mutual

/-- What is in a tree, without what the files hold. -/
def FileTree.listing : FileTree → Listing
  | .file _ => .file
  | .directory entries => .directory (FileTree.entryListings entries)

def FileTree.entryListings : List (String × FileTree) → List (String × Listing)
  | [] => []
  | (name, t) :: rest => (name, t.listing) :: FileTree.entryListings rest

end

namespace FileTree

def list? (root : FileTree) (path : String) : Option Listing :=
  match root.at? path with
  | some (.directory entries) => some (FileTree.directory entries).listing
  | _ => none

def read? (root : FileTree) (path : String) : Option String :=
  match root.at? path with
  | some (.file content) => String.fromUTF8? content
  | _ => none

end FileTree

namespace Session

/-- The workspace that a session is. -/
def workspace : Workspace (StateM Session) where
  list? path s := (s.files.list? path, s)
  read? path s := (s.files.read? path, s)
  makeDirectories path s :=
    let (done, files) := s.files.makeDirectories path
    (done, { s with files })
  write path text s :=
    match s.files.write? path text.toUTF8 with
    | some files => (true, { s with files })
    | none => (false, s)
  report e s := ((), { s with events := s.events ++ [e] })

end Session

end Bindings
