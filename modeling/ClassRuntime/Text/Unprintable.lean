import ClassRuntime.Text.Combining
import ClassRuntime.Text.Unassigned

namespace ClassRuntime
namespace Text

/-!
# Characters without a printed form

Quoted text shows a character as itself only when it can be told apart on the
page.  Characters without a form of their own, combining characters and code
points without a character cannot.
-/

/-- The characters that leave no mark: control and format characters, the
separators other than the space, private use characters, and the fillers that
a reader is meant to ignore. -/
def formless : CharacterTable where
  ranges :=
    [(0x0, 0x1f), (0x7f, 0xa0), (0xad, 0xad), (0x600, 0x605), (0x61c, 0x61c), (0x6dd, 0x6dd),
     (0x70f, 0x70f), (0x890, 0x891), (0x8e2, 0x8e2), (0x115f, 0x1160), (0x1680, 0x1680),
     (0x180e, 0x180e), (0x2000, 0x200b), (0x200d, 0x200f), (0x2028, 0x202f), (0x205f, 0x2064),
     (0x2066, 0x206f), (0x3000, 0x3000), (0x3164, 0x3164), (0xe000, 0xf8ff), (0xfeff, 0xfeff),
     (0xffa0, 0xffa0), (0xfff9, 0xfffb), (0x110bd, 0x110bd), (0x110cd, 0x110cd),
     (0x13430, 0x1343f), (0x1bca0, 0x1bca3), (0x1d173, 0x1d17a), (0xe0001, 0xe0001),
     (0xf0000, 0xffffd), (0x100000, 0x10fffd)]

/-- Whether quoted text writes the character as a code point. -/
def isUnprintable (character : Char) : Bool :=
  formless.contains character || combining.contains character || unassigned.contains character

example : formless.isSeparated = true := by decide +kernel

example : "a ~é日ﾞﾟ😀".toList.any isUnprintable = false := by decide +kernel

example : ['\x00', '\x7f', '\u00a0', '\u0301', '\u0378', '\u200b'].all isUnprintable = true := by
  decide +kernel

end Text
end ClassRuntime
