import CallMigration.Text.Letter

/-!
# Blank texts

The characters of the Unicode property White_Space.
-/

namespace CallMigration.Text

/-- White space, as closed ranges of code points. -/
def blankRanges : List (Nat × Nat) :=
  [(0x9, 0xD), (0x20, 0x20), (0x85, 0x85), (0xA0, 0xA0), (0x1680, 0x1680), (0x2000, 0x200A),
    (0x2028, 0x2029), (0x202F, 0x202F), (0x205F, 0x205F), (0x3000, 0x3000)]

/-- Whether a text holds nothing but white space. -/
def isBlankText (text : String) : Bool :=
  text.toList.all (inRanges blankRanges)

end CallMigration.Text
