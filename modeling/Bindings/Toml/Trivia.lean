/-!
# Blanks, comments and line ends

What a configuration text has between its parts. A line ends with a line feed, with or without a carriage return before
it. Readers take a text and return what they read and the rest.
-/

namespace Bindings.Toml

def isBlank (c : Char) : Bool := c == ' ' || c == '\t'

def skipBlanks (cs : List Char) : List Char :=
  cs.dropWhile isBlank

/-- Every character but the controls, of which the tab alone is allowed. -/
def isVisible (c : Char) : Bool :=
  c == '\t' || (0x20 ≤ c.toNat && c.toNat != 0x7F)

def newline? : List Char → Option (List Char)
  | '\n' :: cs => some cs
  | '\r' :: '\n' :: cs => some cs
  | _ => none

/-- A comment, if there is one, up to the end of its line. -/
def skipComment : List Char → List Char
  | '#' :: cs => cs.dropWhile isVisible
  | cs => cs

/-- The rest of a line that holds no more than blanks and a comment. -/
def lineEnd? (cs : List Char) : Option (List Char) :=
  match skipComment (skipBlanks cs) with
  | [] => some []
  | cs => newline? cs

/-- Skip blanks, line ends and comments, at most `fuel` lines of them; a comment has to end with its line. -/
def skipLines : Nat → List Char → Option (List Char)
  | 0, cs => some cs
  | fuel + 1, cs =>
    match skipBlanks cs with
    | '#' :: cs => (newline? (cs.dropWhile isVisible)).bind (skipLines fuel)
    | '\n' :: cs => skipLines fuel cs
    | '\r' :: cs => (newline? ('\r' :: cs)).bind (skipLines fuel)
    | cs => some cs

end Bindings.Toml
