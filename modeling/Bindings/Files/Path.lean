import Bindings.Text.Cut

/-!
# Paths

A path is kept as it was given; names are joined to it by single slashes. Its parts are what stands between slashes,
apart from dots that name the place itself.
-/

namespace Bindings.Path

/-- The path of a name in a directory. The empty path stands for the place where the program runs. -/
def join (directory name : String) : String :=
  if directory = "" ∨ directory.toList.getLast? = some '/' then directory ++ name else directory ++ "/" ++ name

/-- The names that lead to the place of a path. -/
def parts (path : String) : List String :=
  ((Text.split '/' path.toList).map String.ofList).filter fun part => part != "" && part != "."

/-- Whether a path ends in a dot, as a name of its own. -/
def endsInDot (path : String) : Bool :=
  ((Text.split '/' path.toList).filter (· != [])).getLast? == some ['.']

end Bindings.Path
