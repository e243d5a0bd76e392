import Bindings.Toml.Trivia

/-!
# Dates and times

A date, a time, or a date with a time and perhaps an offset. A moment is kept as text in one form: `T` between date and
time, no zeros at the end of a fraction of at most nine digits, and `Z` or an offset with its sign.
-/

namespace Bindings.Toml

def isDigit (c : Char) : Bool := '0' ≤ c && c ≤ '9'

def digitsValue (ds : List Char) : Nat :=
  ds.foldl (fun n c => 10 * n + (c.toNat - 48)) 0

/-- Two digits whose number is in the given range. -/
def twoDigits? (least greatest : Nat) : List Char → Option (List Char × List Char)
  | a :: b :: cs =>
    let n := digitsValue [a, b]
    if isDigit a && isDigit b && least ≤ n && n ≤ greatest then some ([a, b], cs) else none
  | _ => none

def symbol? (c : Char) : List Char → Option (List Char)
  | d :: cs => if d = c then some cs else none
  | [] => none

def daysIn (year month : Nat) : Nat :=
  if month = 2 then if year % 4 = 0 ∧ (year % 100 ≠ 0 ∨ year % 400 = 0) then 29 else 28
  else if month = 4 ∨ month = 6 ∨ month = 9 ∨ month = 11 then 30
  else 31

/-- The rest of a date after its year and a dash. -/
def dateAfter? (year : List Char) (cs : List Char) : Option (List Char × List Char) := do
  let (month, cs) ← twoDigits? 1 12 cs
  let cs ← symbol? '-' cs
  let (day, cs) ← twoDigits? 1 (daysIn (digitsValue year) (digitsValue month)) cs
  return (year ++ '-' :: month ++ '-' :: day, cs)

/-- A fraction of a second, if there is one. -/
def secondFraction (cs : List Char) : List Char × List Char :=
  match cs with
  | '.' :: rest =>
    match rest.takeWhile isDigit with
    | [] => ([], cs)
    | ds =>
      match ((ds.take 9).reverse.dropWhile (· == '0')).reverse with
      | [] => ([], rest.dropWhile isDigit)
      | kept => ('.' :: kept, rest.dropWhile isDigit)
  | _ => ([], cs)

/-- The rest of a time after its hour and a colon. -/
def timeAfter? (hour : List Char) (cs : List Char) : Option (List Char × List Char) := do
  let (minute, cs) ← twoDigits? 0 59 cs
  let cs ← symbol? ':' cs
  let (second, cs) ← twoDigits? 0 60 cs
  let (fraction, cs) := secondFraction cs
  return (hour ++ ':' :: minute ++ ':' :: second ++ fraction, cs)

/-- The offset after a time, if there is one; an offset of zero has a plus sign. -/
def offset? (cs : List Char) : Option (List Char × List Char) :=
  match cs with
  | 'Z' :: cs => some (['Z'], cs)
  | 'z' :: cs => some (['Z'], cs)
  | '+' :: cs => signed '+' cs
  | '-' :: cs => signed '-' cs
  | cs => some ([], cs)
where
  signed (sign : Char) (cs : List Char) : Option (List Char × List Char) := do
    let (hour, cs) ← twoDigits? 0 23 cs
    let cs ← symbol? ':' cs
    let (minute, cs) ← twoDigits? 0 59 cs
    let sign := if digitsValue (hour ++ minute) = 0 then '+' else sign
    return (sign :: hour ++ ':' :: minute, cs)

/-- The hour and the colon that a time starts with. -/
def hour? (cs : List Char) : Option (List Char × List Char) := do
  let (hour, cs) ← twoDigits? 0 23 cs
  return (hour, ← symbol? ':' cs)

/-- A date, and a time after it if one follows. -/
def dateAndTime? (year cs : List Char) : Option (List Char × List Char) := do
  let (date, cs) ← dateAfter? year cs
  match cs with
  | d :: rest =>
    match (if d = 'T' ∨ d = 't' ∨ d = ' ' then hour? rest else none) with
    | some (hour, rest) =>
      let (time, rest) ← timeAfter? hour rest
      let (offset, rest) ← offset? rest
      return (date ++ 'T' :: time ++ offset, rest)
    | none => return (date, cs)
  | [] => return (date, cs)

/--
The moment that a text starts with: `some none` if it starts with none, and `none` if a moment is begun and not well
formed. Four digits and a dash begin a date, an hour and a colon begin a time.
-/
def moment? (cs : List Char) : Option (Option (String × List Char)) :=
  let year := cs.take 4
  match year.length == 4 && year.all isDigit, cs.drop 4, hour? cs with
  | true, '-' :: rest, _ => (dateAndTime? year rest).map fun (t, rest) => some (String.ofList t, rest)
  | _, _, some (hour, rest) => (timeAfter? hour rest).map fun (t, rest) => some (String.ofList t, rest)
  | _, _, none => some none

end Bindings.Toml
