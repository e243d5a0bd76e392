/-!
# Blank text

The characters with the White_Space property, and texts that consist of nothing else.
-/

namespace Bindings.Text

/-- The first and last code points of each run of White_Space characters. -/
def blankRuns : List (Nat × Nat) :=
  [(0x9, 0xD), (0x20, 0x20), (0x85, 0x85), (0xA0, 0xA0), (0x1680, 0x1680), (0x2000, 0x200A), (0x2028, 0x2029),
    (0x202F, 0x202F), (0x205F, 0x205F), (0x3000, 0x3000)]

def isBlank (c : Char) : Bool :=
  blankRuns.any fun (first, last) => first ≤ c.toNat && c.toNat ≤ last

/-- Whether every character is blank; the empty text is. -/
def allBlank (s : String) : Bool :=
  s.toList.all isBlank

end Bindings.Text
