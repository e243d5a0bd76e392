import Bindings.Json.Token

/-!
# Documents as written

A `Document` keeps what a text says before it is given a meaning: members in their order with repetitions, numerals by
their digits, and texts that no text can hold (`none`). It is read from tokens with a stack of open containers, so
nesting is bounded only by the text. `Document.toData?` gives a document its value, up to a given depth.
-/

namespace Bindings.Json

inductive Document where
  | null
  | bool (value : Bool)
  | numeral (n : Numeral)
  | text (s : Option String)
  | list (items : List Document)
  | object (members : List (Option String × Document))
deriving Inhabited

namespace Document

/-! ## Reading -/

/-- A container that is still open, with what has been read of it, newest first. -/
inductive Frame where
  | list (items : List Document)
  | object (members : List (Option String × Document)) (name : Option String)

/-- What may come next. -/
inductive Expected where
  /-- A value. -/
  | value
  /-- A value, or the end of a list that has just been opened. -/
  | item
  /-- A name, or the end of an object that has just been opened. -/
  | member
  /-- A name, after the given members. -/
  | name (members : List (Option String × Document))
  /-- A colon, after the given members and name. -/
  | colon (members : List (Option String × Document)) (name : Option String)
  /-- A separator or the end of the container: the given value has just ended. -/
  | after (d : Document)

/-- Where reading stands: the open containers, innermost first, and what may come next. -/
structure Progress where
  frames : List Frame
  expected : Expected

/-- Read the first token of a value. -/
def startValue (frames : List Frame) : Token → Option Progress
  | .null => some ⟨frames, .after .null⟩
  | .bool b => some ⟨frames, .after (.bool b)⟩
  | .numeral n => some ⟨frames, .after (.numeral n)⟩
  | .text s => some ⟨frames, .after (.text s)⟩
  | .openList => some ⟨frames, .item⟩
  | .openObject => some ⟨frames, .member⟩
  | _ => none

/-- Read a token after a value. -/
def endValue (d : Document) : List Frame → Token → Option Progress
  | .list items :: frames, .comma => some ⟨.list (d :: items) :: frames, .value⟩
  | .list items :: frames, .closeList => some ⟨frames, .after (.list (d :: items).reverse)⟩
  | .object members name :: frames, .comma => some ⟨frames, .name ((name, d) :: members)⟩
  | .object members name :: frames, .closeObject => some ⟨frames, .after (.object ((name, d) :: members).reverse)⟩
  | _, _ => none

def step (p : Progress) (t : Token) : Option Progress :=
  match p.expected, t with
  | .value, t => startValue p.frames t
  | .item, .closeList => some ⟨p.frames, .after (.list [])⟩
  | .item, t => startValue (.list [] :: p.frames) t
  | .member, .closeObject => some ⟨p.frames, .after (.object [])⟩
  | .member, .text name => some ⟨p.frames, .colon [] name⟩
  | .name members, .text name => some ⟨p.frames, .colon members name⟩
  | .colon members name, .colon => some ⟨.object members name :: p.frames, .value⟩
  | .after d, t => endValue d p.frames t
  | _, _ => none

def steps : Progress → List Token → Option Progress
  | p, [] => some p
  | p, t :: ts =>
    match step p t with
    | some p => steps p ts
    | none => none

/-- The document that a text is; nothing but blanks may stand around it. -/
def ofText? (s : String) : Option Document :=
  match (Token.ofText? s).bind (steps ⟨[], .value⟩) with
  | some ⟨[], .after d⟩ => some d
  | _ => none

/-! ## Values -/

mutual

/-- The value of a document that nests at most `depth` containers. -/
def toData? (depth : Nat) : Document → Option Data
  | .null => some .null
  | .bool b => some (.bool b)
  | .numeral n => n.toData?
  | .text s => s.map .text
  | .list items =>
    match depth with
    | 0 => none
    | depth + 1 => (itemsToData? depth items).map .list
  | .object members =>
    match depth with
    | 0 => none
    | depth + 1 => (membersToData? depth members).map .object

def itemsToData? (depth : Nat) : List Document → Option (List Data)
  | [] => some []
  | d :: ds =>
    match toData? depth d, itemsToData? depth ds with
    | some v, some vs => some (v :: vs)
    | _, _ => none

def membersToData? (depth : Nat) : List (Option String × Document) → Option (List (String × Data))
  | [] => some []
  | (name, d) :: ms =>
    match name, toData? depth d, membersToData? depth ms with
    | some name, some v, some vs => some ((name, v) :: vs)
    | _, _, _ => none

end

def text? : Document → Option String
  | .text s => s
  | _ => none

/-- The items of a list, each read by `read`. -/
def list? {α : Type} (read : Document → Option α) : Document → Option (List α)
  | .list items => items.mapM read
  | _ => none

/--
The members of a record with the given fields: those of an object, all of whose names must be texts, or the items of a
list, which stand for the fields in their order.
-/
def record? (fields : List String) : Document → Option (List (String × Document))
  | .object members => members.mapM fun (name, d) => name.map (·, d)
  | .list items => if items.length ≤ fields.length then some (fields.zip items) else none
  | _ => none

end Document

end Bindings.Json
