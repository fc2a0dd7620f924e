import Devirt.Text.NonGraphic

/-!
# Default-Ignorable Code Points

The code points that take no space when nothing supports them: joiners, direction marks, variation
selectors, and the fillers that stand for a missing letter of a syllable. The table is that of
version 17 of the Unicode standard.
-/

namespace Devirt.Text

/-- The ranges of default-ignorable code points, in increasing order. -/
def defaultIgnorableRanges : Array (Nat × Nat) := #[
    (0xad, 0xad), (0x34f, 0x34f), (0x61c, 0x61c), (0x115f, 0x1160), (0x17b4, 0x17b5),
    (0x180b, 0x180f), (0x200b, 0x200f), (0x202a, 0x202e), (0x2060, 0x206f), (0x3164, 0x3164),
    (0xfe00, 0xfe0f), (0xfeff, 0xfeff), (0xffa0, 0xffa0), (0xfff0, 0xfff8), (0x1bca0, 0x1bca3),
    (0x1d173, 0x1d17a), (0xe0000, 0xe0fff)]

/-- Does the character leave no trace where it is not supported? -/
def isDefaultIgnorable (c : Char) : Bool :=
  inRanges defaultIgnorableRanges c.toNat

end Devirt.Text
