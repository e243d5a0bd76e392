import Bindings.Toml.Value

/-!
# Configuration documents

A document is a list of sections: the pairs before the first header, and each header with the pairs below it. A header
in single brackets names a table, which must not have been defined; one in double brackets adds a table to a list.
-/

namespace Bindings.Toml

/-- How a section names its table. -/
inductive Heading where
  | table
  | element

/-- A header with its path and name, and the pairs below it. -/
structure Block where
  heading : Heading
  path : List String
  name : String
  pairs : List (List String × String × Data)

/-- A line that says something. -/
inductive Line where
  | heading (heading : Heading) (path : List String) (name : String)
  | pair (path : List String) (name : String) (d : Data)

/-! ## Lines -/

def heading? (cs : List Char) : Option (Line × List Char) :=
  match cs with
  | '[' :: cs => do
    let ((path, name), cs) ← key? cs
    let cs ← symbol? ']' cs
    let cs ← symbol? ']' cs
    return (.heading .element path name, cs)
  | cs => do
    let ((path, name), cs) ← key? cs
    let cs ← symbol? ']' cs
    return (.heading .table path name, cs)

def line? (cs : List Char) : Option (Line × List Char) :=
  match cs with
  | '[' :: cs => heading? cs
  | cs => (pair? (value? depthLimit) cs).map fun ((path, name, d), cs) => (.pair path name d, cs)

/-- The lines of a text of at most `fuel` lines, after those read so far, newest first. -/
def lines? : Nat → List Line → List Char → Option (List Line)
  | 0, _, _ => none
  | fuel + 1, lines, cs =>
    match skipBlanks cs with
    | [] => some lines.reverse
    | '#' :: cs => (lineEnd? ('#' :: cs)).bind (lines? fuel lines)
    | '\n' :: cs => lines? fuel lines cs
    | '\r' :: cs => (newline? ('\r' :: cs)).bind (lines? fuel lines)
    | cs =>
      match line? cs with
      | some (line, cs) => (lineEnd? cs).bind (lines? fuel (line :: lines))
      | none => none

/-! ## Sections -/

/-- The pairs before the first header, and the sections. -/
def blocks : List Line → List (List String × String × Data) × List Block
  | [] => ([], [])
  | .pair path name d :: lines =>
    let (pairs, rest) := blocks lines
    ((path, name, d) :: pairs, rest)
  | .heading heading path name :: lines =>
    let (pairs, rest) := blocks lines
    ([], ⟨heading, path, name, pairs⟩ :: rest)

/-- Add a section to what the document says so far. -/
def Members.addBlock (members : Members) (b : Block) : Option Members :=
  members.update false (fun _ members =>
    match b.heading, members.lookup b.name with
    | .table, none => (Members.defineAll [] b.pairs).map fun sub => members.put b.name (.table false false sub)
    | .table, some (.table true false sub) =>
      (Members.defineAll sub b.pairs).map fun sub => members.put b.name (.table false false sub)
    | .element, none => (Members.defineAll [] b.pairs).map fun sub => members.put b.name (.tables [sub])
    | .element, some (.tables elements) =>
      (Members.defineAll [] b.pairs).map fun sub => members.put b.name (.tables (sub :: elements))
    | _, _ => none)
    b.path false

/-- The mark that a text may start with to tell its encoding. -/
def skipMark : List Char → List Char
  | c :: cs => if c.toNat = 0xFEFF then cs else c :: cs
  | [] => []

/-- The table that a text describes. -/
def ofText? (s : String) : Option Data := do
  let cs := skipMark s.toList
  let lines ← lines? (cs.length + 1) [] cs
  let (pairs, sections) := blocks lines
  let members ← Members.defineAll [] pairs
  let members ← sections.foldlM Members.addBlock members
  return .object (membersToData members)

end Bindings.Toml
