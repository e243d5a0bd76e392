import Bindings.Files.Path
import Bindings.Table

/-!
# File trees

A `FileTree` is a file with its bytes or a directory with its entries in increasing order of name. A location is the list
of names that lead to a place in the tree; a path is followed from the root, each step being taken in a directory.
-/

namespace Bindings

inductive FileTree where
  | file (content : ByteArray)
  | directory (entries : List (String × FileTree))
deriving Inhabited

namespace FileTree

def empty : FileTree := .directory []

def isDirectory : FileTree → Bool
  | .directory _ => true
  | .file _ => false

/-! ## Locations -/

def get? : FileTree → List String → Option FileTree
  | t, [] => some t
  | .directory entries, name :: rest => (entries.lookup name).bind (get? · rest)
  | .file _, _ :: _ => none

/-- Put a tree at a location, below directories that are made where there is nothing. -/
def set : FileTree → List String → FileTree → FileTree
  | _, [], new => new
  | .directory entries, name :: rest, new =>
    .directory (place name (set ((entries.lookup name).getD empty) rest new) entries)
  | .file content, _ :: _, _ => .file content

/-- The tree without what is at a location. -/
def erase : FileTree → List String → FileTree
  | .directory entries, [name] => .directory (entries.filter (·.1 != name))
  | .directory entries, name :: rest =>
    match entries.lookup name with
    | some t => .directory (place name (t.erase rest) entries)
    | none => .directory entries
  | t, _ => t

mutual

/-- The paths of all files below a directory with the given path. -/
def paths (path : String) : FileTree → List String
  | .file _ => [path]
  | .directory entries => entryPaths path entries

def entryPaths (path : String) : List (String × FileTree) → List String
  | [] => []
  | (name, t) :: rest => paths (Path.join path name) t ++ entryPaths path rest

end

/-! ## Paths -/

/-- One step along a path: to the directory above, or to what has the given name. -/
def next (here : List String) (part : String) : List String :=
  if part = ".." then here.dropLast else here ++ [part]

/-- The location that the parts of a path lead to. -/
def follow? (root : FileTree) : List String → List String → Option (List String)
  | here, [] => some here
  | here, part :: parts =>
    match root.get? here with
    | some (.directory _) => follow? root (next here part) parts
    | _ => none

/-- What is at a path; there is nothing at the empty path. -/
def at? (root : FileTree) (path : String) : Option FileTree :=
  if path = "" then none else (root.follow? [] (Path.parts path)).bind root.get?

/-- No name of a file or a directory is longer, in bytes. -/
def longestName : Nat := 255

/-- Make the directories along a path that are missing. A file in the way or too long a name ends this, after those
before it are made. -/
def makeAlong (root : FileTree) : List String → List String → Bool × FileTree
  | _, [] => (true, root)
  | here, part :: parts =>
    let there := next here part
    match root.get? there with
    | some (.directory _) => makeAlong root there parts
    | some (.file _) => (false, root)
    | none => if part.utf8ByteSize ≤ longestName then makeAlong (root.set there empty) there parts else (false, root)

/-- Make the directory at a path, and those above it. A dot at the end asks for a directory that is there already. -/
def makeDirectories (root : FileTree) (path : String) : Bool × FileTree :=
  if Path.endsInDot path then
    let (_, made) := root.makeAlong [] (Path.parts path).dropLast
    ((made.at? path).any isDirectory, made)
  else root.makeAlong [] (Path.parts path)

/-- Write a file in an existing directory; a directory of its name is in the way. -/
def write? (root : FileTree) (path : String) (content : ByteArray) : Option FileTree := do
  let location ← root.follow? [] (Path.parts path)
  let name ← location.getLast?
  guard (name.utf8ByteSize ≤ longestName)
  match root.get? location.dropLast, root.get? location with
  | some (.directory _), some (.directory _) => none
  | some (.directory _), _ => return root.set location (.file content)
  | _, _ => none

/-- Remove what is at a path. -/
def remove (root : FileTree) (path : String) : FileTree :=
  match root.follow? [] (Path.parts path) with
  | some location => root.erase location
  | none => root

end FileTree

end Bindings
