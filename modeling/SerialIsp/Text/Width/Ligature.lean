import SerialIsp.Text.Width.Emoji
import SerialIsp.Text.Width.Character

/-!
# Letters drawn together

In some scripts two letters or more are drawn as one and fill the columns of one. A text is
measured from its end, so the state of that measuring, `Ligature`, says which part of such a
group has been met, and `Ligature.before` what the character before it adds. A mark without
width may stand inside a group: `Ligature.looksThrough` says which.
-/

namespace SerialIsp.Text

/-- The forms of Arabic alef. -/
def alefs : CodePoints := [
    (0x622, 0x623), (0x625, 0x625), (0x627, 0x627), (0x671, 0x673), (0x675, 0x675),
    (0x773, 0x774), (0x870, 0x882)]

/-- The forms of Arabic lam. -/
def lams : CodePoints := [
    (0x644, 0x644), (0x6B5, 0x6B8), (0x76A, 0x76A), (0x8A6, 0x8A6), (0x8C7, 0x8C7)]

/-- Khmer letters that a coeng sign puts under the letter before. -/
def coengLetters : CodePoints := [
    (0x1780, 0x1782), (0x1784, 0x1787), (0x1789, 0x178C), (0x178E, 0x1793),
    (0x1795, 0x1798), (0x179B, 0x179D), (0x17A0, 0x17A0), (0x17A2, 0x17A2),
    (0x17A7, 0x17A7), (0x17AB, 0x17AC), (0x17AF, 0x17AF)]

/-- Tifinagh consonants. -/
def tifinaghConsonants : CodePoints := [(0x2D31, 0x2D65), (0x2D6F, 0x2D6F)]

/-- The tone letters of Lisu that may come first in a pair. -/
def firstTones : CodePoints := [(0xA4F8, 0xA4FB)]

/-- The tone letters of Lisu that may come second in a pair. -/
def secondTones : CodePoints := [(0xA4FC, 0xA4FD)]

/-- Marks that stand inside a group of letters without parting it. -/
def innerMarks : CodePoints := [
    (0x34F, 0x34F), (0x17B4, 0x17B5), (0x180B, 0x180D), (0x180F, 0x180F), (0x200D, 0x200D),
    (0xFE00, 0xFE0F), (0xE0100, 0xE01EF)]

/-- Characters without width that Arabic letters do not join across: those whose
    `Joining_Type` is not `T`. -/
def unjoinable : CodePoints := [
    (0x605, 0x605), (0x890, 0x891), (0x8E2, 0x8E2), (0x9BE, 0x9BE), (0x9D7, 0x9D7), (0xB3E, 0xB3E),
    (0xB57, 0xB57), (0xBBE, 0xBBE), (0xBD7, 0xBD7), (0xCC0, 0xCC0), (0xCC2, 0xCC2), (0xCC7, 0xCC8),
    (0xCCA, 0xCCB), (0xCD5, 0xCD6), (0xD3E, 0xD3E), (0xD4E, 0xD4E), (0xD57, 0xD57), (0xDCF, 0xDCF),
    (0xDDF, 0xDDF), (0x1160, 0x11FF), (0x1715, 0x1715), (0x1734, 0x1734), (0x180E, 0x180E),
    (0x1B35, 0x1B35), (0x1B3B, 0x1B3B), (0x1B3D, 0x1B3D), (0x1B43, 0x1B44), (0x1BAA, 0x1BAA),
    (0x1BF2, 0x1BF3), (0x200C, 0x200D), (0x2065, 0x2069), (0x302E, 0x302F), (0x3164, 0x3164),
    (0xA8FA, 0xA8FA), (0xA953, 0xA953), (0xA9C0, 0xA9C0), (0xD7B0, 0xD7C6), (0xD7CB, 0xD7FB),
    (0xFFA0, 0xFFA0), (0xFFF0, 0xFFF8), (0x111C0, 0x111C0), (0x111C2, 0x111C3), (0x11235, 0x11235),
    (0x1133E, 0x1133E), (0x1134D, 0x1134D), (0x11357, 0x11357), (0x113B8, 0x113B8),
    (0x113C2, 0x113C2), (0x113C5, 0x113C5), (0x113C7, 0x113C9), (0x113CF, 0x113CF),
    (0x113D1, 0x113D1), (0x114B0, 0x114B0), (0x114BD, 0x114BD), (0x115AF, 0x115AF),
    (0x116B6, 0x116B6), (0x11930, 0x11930), (0x1193D, 0x1193D), (0x1193F, 0x1193F),
    (0x11941, 0x11941), (0x11A84, 0x11A89), (0x11D46, 0x11D46), (0x11F02, 0x11F02),
    (0x11F41, 0x11F41), (0x16FF0, 0x16FF1), (0x1D165, 0x1D166), (0x1D16D, 0x1D172),
    (0xE0000, 0xE0000), (0xE0002, 0xE001F), (0xE0080, 0xE00FF), (0xE01F0, 0xE0FFF)]

/-- Whether Arabic letters on either side of a mark join as if it were not there. -/
def isTransparentMark (c : Char) : Bool :=
  zeroWidth.has c && !unjoinable.has c

/-- The end of a group of letters that are drawn together. `joined` says that a joiner
    stands before it. -/
inductive Ligature where
  /-- Arabic alef, which lam is drawn together with. -/
  | alef
  /-- Hebrew lamed, which a joined alef is drawn together with. -/
  | lamed (joined : Bool)
  /-- Buginese ya, which the letter a with its vowel sign i is drawn together with when
      joined. -/
  | ya (joined : Bool)
  /-- Buginese ya with its vowel sign i. -/
  | vowelYa
  /-- A Tifinagh consonant. -/
  | consonant (joined : Bool)
  /-- A Tifinagh consonant behind a consonant joiner. -/
  | joinedConsonant
  /-- The second tone letter of a Lisu pair. -/
  | secondTone
  /-- Old Turkic i, which a joined letter is drawn together with. -/
  | orkhonI (joined : Bool)
  /-- A Khmer letter that can be put under another. -/
  | coengLetter
  /-- The Kirat Rai vowel sign e. -/
  | vowelE
  /-- The Kirat Rai vowel sign ai, or the two signs e that make it up. -/
  | vowelAi
deriving DecidableEq, Repr

/-- The end of a group that a character makes when nothing behind it matters. -/
def Ligature.of? (c : Char) : Option Ligature :=
  if alefs.has c then some .alef
  else if tifinaghConsonants.has c then some (.consonant false)
  else if secondTones.has c then some .secondTone
  else if coengLetters.has c then some .coengLetter
  else
    match c.toNat with
    | 0x5DC => some (.lamed false)
    | 0x1A10 => some (.ya false)
    | 0x10C03 => some (.orkhonI false)
    | 0x16D67 => some .vowelE
    | 0x16D68 => some .vowelAi
    | _ => none

/-- Whether a character without width stands inside the group without parting it. -/
def Ligature.looksThrough (l : Ligature) (c : Char) : Bool :=
  match l with
  | .alef => isTransparentMark c
  | .vowelE | .vowelAi => false
  | _ => innerMarks.has c

/-- The group with a joiner before it. -/
def Ligature.join : Ligature → Ligature
  | .lamed _ => .lamed true
  | .ya _ => .ya true
  | .consonant _ => .consonant true
  | .orkhonI _ => .orkhonI true
  | l => l

/-- A letter that is drawn together with the group behind it: the columns this adds, and the
    end of a group that is left to complete. -/
def Ligature.take (c : Char) : Ligature → Option (Int × Option Ligature)
  | .alef => if lams.has c then some (0, none) else none
  | .lamed true => if c = '\u05D0' then some (0, none) else none
  | .ya true => if c = '\u1A17' then some (0, some .vowelYa) else none
  | .vowelYa => if c = '\u1A15' then some (0, none) else none
  | .consonant joined =>
    if c = '\u2D7F' then some (1, some .joinedConsonant)
    else if joined && tifinaghConsonants.has c then some (0, none)
    else none
  | .joinedConsonant => if tifinaghConsonants.has c then some (-1, none) else none
  | .secondTone => if firstTones.has c then some (0, none) else none
  | .orkhonI true => if c.toNat = 0x10C32 then some (0, none) else none
  | .coengLetter => if c = '\u17D2' then some (-1, none) else none
  | .vowelE =>
    match c.toNat with
    | 0x16D63 | 0x16D69 => some (0, none)
    | 0x16D67 => some (0, some .vowelAi)
    | 0x16D68 => some (1, some .vowelE)
    | _ => none
  | .vowelAi => if c.toNat = 0x16D63 then some (0, none) else none
  | _ => none

/-- A character that becomes part of the group behind it: the columns this adds, and the end
    of a group that is left to complete. -/
def Ligature.before (c : Char) (l : Ligature) : Option (Int × Option Ligature) :=
  if l.looksThrough c then some (0, some (if c = joiner then l.join else l)) else l.take c

end SerialIsp.Text
