import Bindings.Data
import Bindings.Number.Decimal

/-!
# Writing documents

`Json.render` writes a value with one member or item a line, indented by two spaces a level; an empty container takes no
line of its own. Numbers without finite value are written as `null`.
-/

namespace Bindings.Json

/--
Numbers are written with their shortest digits, positionally from `1e-5` up to below `1e16`, and always with a point or
an exponent.
-/
def numberLayout : Binary64.Layout := ⟨.even, some (-5, 15), 1⟩

def integer (i : Int) : List Char :=
  (if i < 0 then ['-'] else []) ++ Decimal.digits i.natAbs

def number (x : Binary64) : List Char :=
  if x.isFinite then numberLayout.writes x else ['n', 'u', 'l', 'l']

def hexDigit (n : Nat) : Char :=
  if n < 10 then Char.ofNat (48 + n) else Char.ofNat (87 + n)

/-- How a character stands between quotes. -/
def escaped (c : Char) : List Char :=
  match c with
  | '"' => ['\\', '"']
  | '\\' => ['\\', '\\']
  | '\x08' => ['\\', 'b']
  | '\x0c' => ['\\', 'f']
  | '\n' => ['\\', 'n']
  | '\r' => ['\\', 'r']
  | '\t' => ['\\', 't']
  | c => if c.toNat < 0x20 then ['\\', 'u', '0', '0', hexDigit (c.toNat / 16), hexDigit (c.toNat % 16)] else [c]

def text (s : String) : List Char :=
  '"' :: s.toList.flatMap escaped ++ ['"']

/-- The start of a line at the given level. -/
def newLine (level : Nat) : List Char :=
  '\n' :: List.replicate (2 * level) ' '

mutual

def render (level : Nat) : Data → List Char
  | .null => ['n', 'u', 'l', 'l']
  | .bool true => ['t', 'r', 'u', 'e']
  | .bool false => ['f', 'a', 'l', 's', 'e']
  | .int i => integer i
  | .float x => number x
  | .text s => text s
  | .list [] => ['[', ']']
  | .list (d :: ds) =>
    '[' :: newLine (level + 1) ++ render (level + 1) d ++ renderItems (level + 1) ds ++ newLine level ++ [']']
  | .table [] => ['{', '}']
  | .table ((name, d) :: ms) =>
    '{' :: newLine (level + 1) ++ text name ++ [':', ' '] ++ render (level + 1) d ++ renderMembers (level + 1) ms
      ++ newLine level ++ ['}']

/-- The items after the first. -/
def renderItems (level : Nat) : List Data → List Char
  | [] => []
  | d :: ds => ',' :: newLine level ++ render level d ++ renderItems level ds

/-- The members after the first. -/
def renderMembers (level : Nat) : List (String × Data) → List Char
  | [] => []
  | (name, d) :: ms =>
    ',' :: newLine level ++ text name ++ [':', ' '] ++ render level d ++ renderMembers level ms

end

/-- The text of a value as a document of its own. -/
def ofData (d : Data) : String :=
  String.ofList (render 0 d)

end Bindings.Json
