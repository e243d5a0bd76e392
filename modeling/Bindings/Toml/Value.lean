import Bindings.Toml.Entry
import Bindings.Toml.Numeral
import Bindings.Toml.Quotation

/-!
# Keys and values

Dotted keys, and values of every kind. Lists and inline tables nest to a limited depth; a list may run over several
lines and end with a comma, an inline table may not. A moment is a table with one member that holds its text.
-/

namespace Bindings.Toml

/-! ## Keys -/

def isBare (c : Char) : Bool :=
  c.isAlphanum || c == '_' || c == '-'

/-- One part of a key. -/
def part? (cs : List Char) : Option (String × List Char) :=
  match shortText? cs with
  | some read => some read
  | none =>
    match cs.takeWhile isBare with
    | [] => none
    | name => some (String.ofList name, cs.dropWhile isBare)

/-- A key has fewer parts than this. -/
def partLimit : Nat := 80

/-- The parts of a key, with blanks around each, of at most `fuel` parts. -/
def parts? : Nat → List Char → Option (List String × List Char)
  | 0, _ => none
  | fuel + 1, cs => do
    let (part, cs) ← part? (skipBlanks cs)
    match skipBlanks cs with
    | '.' :: cs =>
      let (parts, cs) ← parts? fuel cs
      return (part :: parts, cs)
    | cs => return ([part], cs)

/-- A key: the path of its table and its last part. -/
def key? (cs : List Char) : Option ((List String × String) × List Char) := do
  let (parts, cs) ← parts? (partLimit - 1) cs
  let name ← parts.getLast?
  return ((parts.dropLast, name), cs)

/-! ## Values -/

/-- The items of a list after its bracket and those read so far, newest first. -/
def items? (read : List Char → Option (Data × List Char)) :
    Nat → List Data → List Char → Option (List Data × List Char)
  | 0, _, _ => none
  | fuel + 1, items, cs => do
    match ← skipLines fuel cs with
    | ']' :: cs => return (items.reverse, cs)
    | cs =>
      let (item, cs) ← read cs
      match ← skipLines fuel cs with
      | ',' :: cs => items? read fuel (item :: items) cs
      | ']' :: cs => return ((item :: items).reverse, cs)
      | _ => none

/-- A key and its value. -/
def pair? (read : List Char → Option (Data × List Char)) (cs : List Char) :
    Option ((List String × String × Data) × List Char) := do
  let ((path, name), cs) ← key? cs
  let cs ← symbol? '=' cs
  let (d, cs) ← read (skipBlanks cs)
  return ((path, name, d), cs)

/-- The pairs of an inline table after those read so far, newest first. -/
def pairs? (read : List Char → Option (Data × List Char)) :
    Nat → List (List String × String × Data) → List Char → Option (List (List String × String × Data) × List Char)
  | 0, _, _ => none
  | fuel + 1, pairs, cs => do
    let (pair, cs) ← pair? read cs
    match skipBlanks cs with
    | ',' :: cs => pairs? read fuel (pair :: pairs) cs
    | '}' :: cs => return ((pair :: pairs).reverse, cs)
    | _ => none

def inlineTable? (read : List Char → Option (Data × List Char)) (cs : List Char) : Option (Data × List Char) :=
  match skipBlanks cs with
  | '}' :: cs => some (.table [], cs)
  | cs => do
    let (pairs, cs) ← pairs? read (cs.length + 1) [] cs
    let members ← Members.defineAll [] pairs
    return (.object (membersToData members), cs)

/-- The name of the one member of a moment. -/
def momentName : String := "$__toml_private_datetime"

/-- A moment or a number. -/
def scalarNumber? (cs : List Char) : Option (Data × List Char) :=
  match moment? cs with
  | some (some (t, cs)) => some (.table [(momentName, .text t)], cs)
  | some none => number? cs
  | none => none

/-- A value that nests at most `depth` lists and inline tables. -/
def value? (depth : Nat) (cs : List Char) : Option (Data × List Char) :=
  match cs with
  | '"' :: _ => (text? cs).map fun (s, cs) => (.text s, cs)
  | '\'' :: _ => (text? cs).map fun (s, cs) => (.text s, cs)
  | '[' :: cs =>
    match depth with
    | 0 => none
    | depth + 1 => (items? (value? depth) (cs.length + 1) [] cs).map fun (ds, cs) => (.list ds, cs)
  | '{' :: cs =>
    match depth with
    | 0 => none
    | depth + 1 => inlineTable? (value? depth) cs
  | 't' :: 'r' :: 'u' :: 'e' :: cs => some (.bool true, cs)
  | 'f' :: 'a' :: 'l' :: 's' :: 'e' :: cs => some (.bool false, cs)
  | cs => scalarNumber? cs

/-- How many lists and inline tables may nest. -/
def depthLimit : Nat := 79

end Bindings.Toml
