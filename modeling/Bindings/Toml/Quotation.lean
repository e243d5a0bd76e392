import Bindings.Toml.Trivia

/-!
# Quoted texts

Between double quotes a backslash starts an escape; between single quotes every character stands for itself. Three
quotes open a text of several lines: a line end right after them is dropped, and up to two quotes may stand before the
three that close it.
-/

namespace Bindings.Toml

/-- The number that hexadecimal digits stand for. -/
def hexNumber? (digits : List Char) : Option Nat :=
  digits.foldlM (fun n c =>
    if '0' ≤ c ∧ c ≤ '9' then some (16 * n + (c.toNat - 48))
    else if 'a' ≤ c ∧ c ≤ 'f' then some (16 * n + (c.toNat - 87))
    else if 'A' ≤ c ∧ c ≤ 'F' then some (16 * n + (c.toNat - 55))
    else none) 0

/-- The character with the given number, which must not be half of a surrogate pair. -/
def scalar? (n : Nat) : Option Char :=
  if n.isValidChar then some (Char.ofNat n) else none

/-- The character that the text after a backslash stands for. -/
def escape? : List Char → Option (Char × List Char)
  | 'b' :: cs => some ('\x08', cs)
  | 't' :: cs => some ('\t', cs)
  | 'n' :: cs => some ('\n', cs)
  | 'f' :: cs => some ('\x0c', cs)
  | 'r' :: cs => some ('\r', cs)
  | '"' :: cs => some ('"', cs)
  | '\\' :: cs => some ('\\', cs)
  | 'u' :: cs => numbered 4 cs
  | 'U' :: cs => numbered 8 cs
  | _ => none
where
  numbered (count : Nat) (cs : List Char) : Option (Char × List Char) :=
    if (cs.take count).length = count then
      ((hexNumber? (cs.take count)).bind scalar?).map (·, cs.drop count)
    else none

/-- The rest of a text between double quotes, after the characters read so far, newest first. -/
def basic : Nat → List Char → List Char → Option (String × List Char)
  | 0, _, _ => none
  | fuel + 1, cs, read =>
    match cs with
    | '"' :: cs => some (String.ofList read.reverse, cs)
    | '\\' :: cs =>
      match escape? cs with
      | some (c, cs) => basic fuel cs (c :: read)
      | none => none
    | c :: cs => if isVisible c then basic fuel cs (c :: read) else none
    | [] => none

/-- The rest of a text between single quotes. -/
def literal : List Char → List Char → Option (String × List Char)
  | '\'' :: cs, read => some (String.ofList read.reverse, cs)
  | c :: cs, read => if isVisible c then literal cs (c :: read) else none
  | [], _ => none

/-- The quotes that close a text of several lines, with those that belong to it. -/
def closing? (quote : Char) (cs : List Char) (read : List Char) : Option (String × List Char) :=
  let count := (cs.takeWhile (· == quote)).length
  if 3 ≤ count then
    let inner := min (count - 3) 2
    some (String.ofList (List.replicate inner quote ++ read).reverse, cs.drop (inner + 3))
  else none

/-- The text after a backslash that ends a line: the next character that is neither blank nor a line end. -/
def continued? (cs : List Char) : Option (List Char) :=
  match newline? (skipBlanks cs) with
  | some cs => some (skipBlankLines cs.length cs)
  | none => none
where
  skipBlankLines : Nat → List Char → List Char
    | 0, cs => cs
    | fuel + 1, cs =>
      match newline? (skipBlanks cs) with
      | some cs => skipBlankLines fuel cs
      | none => skipBlanks cs

/-- The rest of a text of several lines; only between double quotes does a backslash mean more than itself. -/
def manyLines (quote : Char) : Nat → List Char → List Char → Option (String × List Char)
  | 0, _, _ => none
  | fuel + 1, cs, read =>
    match closing? quote cs read with
    | some closed => some closed
    | none =>
      match cs with
      | '\n' :: cs => manyLines quote fuel cs ('\n' :: read)
      | '\r' :: '\n' :: cs => manyLines quote fuel cs ('\n' :: read)
      | c :: cs =>
        if quote = '"' ∧ c = '\\' then
          match continued? cs, escape? cs with
          | some cs, _ => manyLines quote fuel cs read
          | none, some (c, cs) => manyLines quote fuel cs (c :: read)
          | none, none => none
        else if isVisible c then manyLines quote fuel cs (c :: read)
        else none
      | [] => none

/-- A text of several lines, from its opening quotes on. -/
def openLines (quote : Char) (cs : List Char) : Option (String × List Char) :=
  let cs := (newline? cs).getD cs
  manyLines quote (cs.length + 1) cs []

/-- A text on one line. -/
def shortText? : List Char → Option (String × List Char)
  | '"' :: cs => basic (cs.length + 1) cs []
  | '\'' :: cs => literal cs []
  | _ => none

/-- A text of either form. -/
def text? : List Char → Option (String × List Char)
  | '"' :: '"' :: '"' :: cs => openLines '"' cs
  | '\'' :: '\'' :: '\'' :: cs => openLines '\'' cs
  | cs => shortText? cs

end Bindings.Toml
