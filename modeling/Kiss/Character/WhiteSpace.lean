import Kiss.Character.Ranges

/-!
# White space

The characters that may stand between two tokens: the Unicode property White_Space.
-/

namespace Kiss.Character

/-- Every code point with the property White_Space. -/
def whiteSpaceRanges : List (Nat × Nat) :=
   [(0x9, 0xD), (0x20, 0x20), (0x85, 0x85), (0xA0, 0xA0), (0x1680, 0x1680), (0x2000, 0x200A),
    (0x2028, 0x2029), (0x202F, 0x202F), (0x205F, 0x205F), (0x3000, 0x3000)]

/-- Whether a character separates tokens without being part of one. -/
def isWhiteSpace (c : Char) : Bool :=
  inRanges whiteSpaceRanges c.toNat

theorem whiteSpaceRanges_ascending : areAscending whiteSpaceRanges = true := by
  decide

end Kiss.Character
