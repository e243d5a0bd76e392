import Bindings.Data

/-!
# Putting tables together

A document defines its tables piece by piece. An `Entry` is what stands under a name so far: a finished value, a table,
or a list of tables. A table is implicit while only tables below it have been mentioned, and dotted if a dotted key
brought it about; these two facts decide what may still be added to it.
-/

namespace Bindings.Toml

inductive Entry where
  | value (d : Data)
  | table (implicit dotted : Bool) (members : List (String × Entry))
  /-- The tables of a list, the last one first. -/
  | tables (elements : List (List (String × Entry)))

abbrev Members := List (String × Entry)

namespace Members

/-- Put an entry under a name, in place of the one there. -/
def put (name : String) (e : Entry) : Members → Members
  | [] => [(name, e)]
  | (n, old) :: rest => if n = name then (name, e) :: rest else (n, old) :: put name e rest

/--
Change the members of the table at the end of a path; `change` is told whether that table is dotted. Tables that are
missing on the way are made, implicit and, for a dotted key, dotted. A path leads through the last table of a list. A
dotted key may not lead through a table that has been defined.
-/
def update (byDottedKey : Bool) (change : Bool → Members → Option Members) :
    List String → Bool → Members → Option Members
  | [], dotted, members => change dotted members
  | name :: path, _, members =>
    match members.lookup name with
    | none =>
      (update byDottedKey change path byDottedKey []).map fun sub => members.put name (.table true byDottedKey sub)
    | some (.table implicit dotted sub) =>
      if byDottedKey && !implicit then none
      else (update byDottedKey change path dotted sub).map fun sub => members.put name (.table implicit dotted sub)
    | some (.tables (last :: others)) =>
      (update byDottedKey change path false last).map fun last => members.put name (.tables (last :: others))
    | some _ => none

/-- Add a value under a key, whose last part is `name`. A name may be given once, and dotted tables take dotted keys. -/
def define (members : Members) (path : List String) (name : String) (d : Data) : Option Members :=
  members.update true (fun dotted members =>
    if dotted == path.isEmpty || (members.lookup name).isSome then none else some (members.put name (.value d)))
    path false

/-- Add the values of several keys, in order. -/
def defineAll (members : Members) (pairs : List (List String × String × Data)) : Option Members :=
  pairs.foldlM (fun members (path, name, d) => members.define path name d) members

end Members

mutual

/-- The value that an entry stands for when the document is complete. -/
def Entry.toData : Entry → Data
  | .value d => d
  | .table _ _ members => .object (membersToData members)
  | .tables elements => .list (elementsToData elements).reverse

def membersToData : List (String × Entry) → List (String × Data)
  | [] => []
  | (name, e) :: rest => (name, e.toData) :: membersToData rest

def elementsToData : List (List (String × Entry)) → List Data
  | [] => []
  | members :: rest => .object (membersToData members) :: elementsToData rest

end

end Bindings.Toml
