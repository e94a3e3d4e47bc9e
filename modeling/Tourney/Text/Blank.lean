/-!
# Blank characters

The blank characters are those of Unicode's `White_Space` property. A text is blank when it holds
nothing else, so the empty text is blank.
-/

namespace Tourney.Text

/-- The inclusive ranges of code points with the `White_Space` property. -/
def blankRanges : List (Nat × Nat) :=
  [(0x9, 0xd), (0x20, 0x20), (0x85, 0x85), (0xa0, 0xa0), (0x1680, 0x1680), (0x2000, 0x200a),
   (0x2028, 0x2029), (0x202f, 0x202f), (0x205f, 0x205f), (0x3000, 0x3000)]

def isBlank (c : Char) : Bool :=
  blankRanges.any fun (first, last) => first ≤ c.toNat && c.toNat ≤ last

/-- Whether a text holds no character but blank ones. -/
def allBlank (s : String) : Bool :=
  s.toList.all isBlank

/-- A text without the blank characters in front. -/
def skipBlanks (cs : List Char) : List Char :=
  cs.dropWhile isBlank

@[simp]
theorem allBlank_empty : allBlank "" = true := rfl

end Tourney.Text
