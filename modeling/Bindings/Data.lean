import Bindings.Number.Binary64
import Bindings.Table

/-!
# Data

A `Data` value is what a document holds once it is read: the common ground of the two document languages, and what a
record becomes before it is written. Members of a table keep the order they are given in; `Data.object` sorts them.
-/

namespace Bindings

/-- `2 ^ 63`, the first count that does not fit into 64 bits with a sign. -/
def signedLimit : Nat := 9223372036854775808

/-- `2 ^ 64`, the first count that does not fit into 64 bits. -/
def unsignedLimit : Nat := 18446744073709551616

/-- The integer fits into 64 bits with a sign. -/
abbrev FitsSigned (i : Int) : Prop :=
  -signedLimit ≤ i ∧ i < signedLimit

inductive Data where
  | null
  | bool (value : Bool)
  | int (value : Int)
  | float (value : Binary64)
  | text (value : String)
  | list (items : List Data)
  | table (members : List (String × Data))
deriving Inhabited

namespace Data

/-- The table of members of free shape: in increasing order of name, the last of equal names counting. -/
def object (members : List (String × Data)) : Data :=
  .table (Table.ofList members).entries

/-- An optional value, `null` when absent. -/
def ofOption {α : Type} (toData : α → Data) (value : Option α) : Data :=
  value.elim .null toData

end Data

end Bindings
