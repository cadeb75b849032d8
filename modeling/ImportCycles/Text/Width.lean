import ImportCycles.Text.Extender

/-! # Columns

How many columns of a terminal a character takes. Most take one, the characters of East Asian
scripts and pictures take two, and what is not shown by itself takes none.
-/

namespace ImportCycles.Text

/-- The ranges of characters that take two columns, in order. -/
def wideRanges : Ranges := [
  (0x1100, 0x115F), (0x17A4, 0x17A4), (0x231A, 0x231B), (0x2329, 0x232A), (0x23E9, 0x23EC),
  (0x23F0, 0x23F0), (0x23F3, 0x23F3), (0x25FD, 0x25FE), (0x2614, 0x2615), (0x2630, 0x2637),
  (0x2648, 0x2653), (0x267F, 0x267F), (0x268A, 0x268F), (0x2693, 0x2693), (0x26A1, 0x26A1),
  (0x26AA, 0x26AB), (0x26BD, 0x26BE), (0x26C4, 0x26C5), (0x26CE, 0x26CE), (0x26D4, 0x26D4),
  (0x26EA, 0x26EA), (0x26F2, 0x26F3), (0x26F5, 0x26F5), (0x26FA, 0x26FA), (0x26FD, 0x26FD),
  (0x2705, 0x2705), (0x270A, 0x270B), (0x2728, 0x2728), (0x274C, 0x274C), (0x274E, 0x274E),
  (0x2753, 0x2755), (0x2757, 0x2757), (0x2795, 0x2797), (0x27B0, 0x27B0), (0x27BF, 0x27BF),
  (0x2B1B, 0x2B1C), (0x2B50, 0x2B50), (0x2B55, 0x2B55), (0x2E80, 0x2E99), (0x2E9B, 0x2EF3),
  (0x2F00, 0x2FD5), (0x2FF0, 0x303E), (0x3041, 0x3096), (0x3099, 0x30FF), (0x3105, 0x312F),
  (0x3131, 0x318E), (0x3190, 0x31E5), (0x31EF, 0x321E), (0x3220, 0x3247), (0x3250, 0xA48C),
  (0xA490, 0xA4C6), (0xA960, 0xA97C), (0xAC00, 0xD7A3), (0xF900, 0xFAFF), (0xFE10, 0xFE19),
  (0xFE30, 0xFE52), (0xFE54, 0xFE66), (0xFE68, 0xFE6B), (0xFF01, 0xFF60), (0xFFE0, 0xFFE6),
  (0x16FE0, 0x16FE4), (0x16FF0, 0x16FF6), (0x17000, 0x18CDC), (0x18CFF, 0x18D20),
  (0x18D80, 0x18DF2), (0x18E00, 0x19191), (0x191A0, 0x191D2), (0x1AFF0, 0x1AFF3),
  (0x1AFF5, 0x1AFFB), (0x1AFFD, 0x1AFFE), (0x1B000, 0x1B123), (0x1B132, 0x1B132),
  (0x1B150, 0x1B152), (0x1B155, 0x1B155), (0x1B164, 0x1B167), (0x1B170, 0x1B2FB),
  (0x1D300, 0x1D356), (0x1D360, 0x1D376), (0x1F004, 0x1F004), (0x1F0CF, 0x1F0CF),
  (0x1F18E, 0x1F18E), (0x1F191, 0x1F19A), (0x1F200, 0x1F202), (0x1F210, 0x1F23B),
  (0x1F240, 0x1F248), (0x1F250, 0x1F251), (0x1F260, 0x1F265), (0x1F300, 0x1F320),
  (0x1F32D, 0x1F335), (0x1F337, 0x1F37C), (0x1F37E, 0x1F393), (0x1F3A0, 0x1F3CA),
  (0x1F3CF, 0x1F3D3), (0x1F3E0, 0x1F3F0), (0x1F3F4, 0x1F3F4), (0x1F3F8, 0x1F43E),
  (0x1F440, 0x1F440), (0x1F442, 0x1F4FC), (0x1F4FF, 0x1F53D), (0x1F54B, 0x1F54E),
  (0x1F550, 0x1F567), (0x1F57A, 0x1F57A), (0x1F595, 0x1F596), (0x1F5A4, 0x1F5A4),
  (0x1F5FB, 0x1F64F), (0x1F680, 0x1F6C5), (0x1F6CC, 0x1F6CC), (0x1F6D0, 0x1F6D2),
  (0x1F6D5, 0x1F6D9), (0x1F6DC, 0x1F6DF), (0x1F6EB, 0x1F6EC), (0x1F6F4, 0x1F6FC),
  (0x1F7E0, 0x1F7EB), (0x1F7F0, 0x1F7F0), (0x1F90C, 0x1F93A), (0x1F93C, 0x1F945),
  (0x1F947, 0x1F9FF), (0x1FA70, 0x1FA7C), (0x1FA80, 0x1FAC6), (0x1FAC8, 0x1FAC8),
  (0x1FACB, 0x1FACB), (0x1FACD, 0x1FADD), (0x1FADF, 0x1FAEB), (0x1FAEF, 0x1FAFA),
  (0x20000, 0x2FFFD), (0x30000, 0x3FFFD)]

/-- The ranges of characters that are not shown and extend none, in order. -/
def ignorableRanges : Ranges := [
  (0xAD, 0xAD), (0x61C, 0x61C), (0x115F, 0x1160), (0x180E, 0x180E), (0x200B, 0x200B),
  (0x200D, 0x200F), (0x202A, 0x202E), (0x2060, 0x206F), (0x3164, 0x3164), (0xFEFF, 0xFEFF),
  (0xFFA0, 0xFFA0), (0xFFF0, 0xFFF8), (0x1BCA0, 0x1BCA3), (0x1D173, 0x1D17A), (0xE0000, 0xE001F),
  (0xE0080, 0xE00FF), (0xE01F0, 0xE0FFF)]

/-- The ranges of other characters that are drawn as part of others, in order: the inner and last
letters of Korean syllables, and signs that stand around numbers and letters. -/
def dependentRanges : Ranges := [
  (0x5C8, 0x5C9), (0x605, 0x605), (0x70F, 0x70F), (0x890, 0x891), (0x8E2, 0x8E2), (0xB53, 0xB54),
  (0xD4E, 0xD4E), (0x1160, 0x11FF), (0x1ADE, 0x1ADF), (0x1AEC, 0x1AF0), (0xA8FA, 0xA8FA),
  (0xD7B0, 0xD7C6), (0xD7CB, 0xD7FB), (0x10ECB, 0x10ECB), (0x111C2, 0x111C3), (0x113D1, 0x113D1),
  (0x1193F, 0x1193F), (0x11941, 0x11941), (0x11A84, 0x11A89), (0x11D46, 0x11D46),
  (0x11F02, 0x11F02), (0x1D250, 0x1D250)]

/-- The mark that stands for a missing first letter of a Korean syllable. -/
def missingLetter : Char := '\u115F'

/-- The extender that is drawn on its own. -/
def standingJoiner : Char := '\u2D7F'

/-- The sign that is drawn as the three letters it stands for. -/
def etCetera : Char := '\u17D8'

/-- Is the character drawn as part of another, or not at all? -/
def isHidden (c : Char) : Bool :=
  c != missingLetter && c != standingJoiner &&
    (isExtender c || ignorableRanges.cover c || dependentRanges.cover c)

/-- The number of columns that a character takes. Controls take none. -/
def columns (c : Char) : Nat :=
  let n := c.toNat
  if n < 0x20 || (0x7F ≤ n && n < 0xA0) then 0
  else if n < 0x7F then 1
  else if isHidden c then 0
  else if c == etCetera then 3
  else if wideRanges.cover c then 2
  else 1

/-- The number of columns that a text takes. -/
def width (text : List Char) : Nat :=
  text.foldl (fun taken c => taken + columns c) 0

/-- The ranges of characters to which an older terminal gives one column, in order: it does not know
them, or knows them by their old form. -/
def unfamiliarRanges : Ranges := [
  (0x5C8, 0x5C9), (0x897, 0x897), (0xB53, 0xB54), (0x1715, 0x1715), (0x1734, 0x1734),
  (0x1ACF, 0x1AF0), (0x1B44, 0x1B44), (0x1BAA, 0x1BAA), (0x1BF2, 0x1BF3), (0x2630, 0x2637),
  (0x268A, 0x268F), (0x31E4, 0x31E5), (0x4DC0, 0x4DFF), (0xA953, 0xA953), (0xA9C0, 0xA9C0),
  (0x10D69, 0x10D6D), (0x10ECB, 0x10ECB), (0x10EFA, 0x10EFC), (0x111C0, 0x111C0),
  (0x11235, 0x11235), (0x1134D, 0x1134D), (0x113B8, 0x113B8), (0x113BB, 0x113C0),
  (0x113C2, 0x113C2), (0x113C5, 0x113C5), (0x113C7, 0x113C9), (0x113CE, 0x113D2),
  (0x113E1, 0x113E2), (0x116B6, 0x116B6), (0x1193D, 0x1193D), (0x11B60, 0x11B60),
  (0x11B62, 0x11B64), (0x11B66, 0x11B66), (0x11F41, 0x11F41), (0x11F5A, 0x11F5A),
  (0x1611E, 0x16129), (0x1612D, 0x1612F), (0x16FF2, 0x16FF6), (0x187F8, 0x187FF),
  (0x18CD6, 0x18CDC), (0x18CFF, 0x18CFF), (0x18D09, 0x18D20), (0x18D80, 0x18DF2),
  (0x18E00, 0x19191), (0x191A0, 0x191D2), (0x1B123, 0x1B123), (0x1D166, 0x1D166),
  (0x1D16D, 0x1D16D), (0x1D250, 0x1D250), (0x1D300, 0x1D356), (0x1D360, 0x1D376),
  (0x1E5EE, 0x1E5EF), (0x1E6E3, 0x1E6E3), (0x1E6E6, 0x1E6E6), (0x1E6EE, 0x1E6EF),
  (0x1E6F5, 0x1E6F5), (0x1F6D8, 0x1F6D9), (0x1FA89, 0x1FA8F), (0x1FABE, 0x1FABE),
  (0x1FAC6, 0x1FAC6), (0x1FAC8, 0x1FAC8), (0x1FACB, 0x1FACB), (0x1FACD, 0x1FACD),
  (0x1FADC, 0x1FADD), (0x1FADF, 0x1FADF), (0x1FAE9, 0x1FAEB), (0x1FAEF, 0x1FAEF),
  (0x1FAF9, 0x1FAFA)]

/-- The ranges of characters that an older terminal draws as part of others, in order. -/
def onceDependentRanges : Ranges := [(0xFF9E, 0xFF9F), (0x1171E, 0x1171E), (0x11A3A, 0x11A3A)]

/-- The ranges of characters that an older terminal draws on their own in two columns, in order. -/
def onceWideRanges : Ranges := [(0x16FF0, 0x16FF1)]

/-- The number of columns that a character takes on an older terminal. -/
def olderColumns (c : Char) : Nat :=
  if unfamiliarRanges.cover c then 1
  else if onceDependentRanges.cover c then 0
  else if onceWideRanges.cover c then 2
  else columns c

end ImportCycles.Text
