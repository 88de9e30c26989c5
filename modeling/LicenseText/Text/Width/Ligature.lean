import LicenseText.Text.Width.Columns

/-!
# Ligatures

Letters that form one glyph with the letter in front of them. A text is measured from
its end, so `Ligature` tells which letter has been met last, and `Ligature.before` what
the character in front of it adds. Some letters are joined only across a zero width
joiner; that one, and marks that are invisible, may stand between the letters of all
but the Arabic ligatures.
-/

namespace LicenseText

def joiner : Char := '\u200D'

/-- Whether a character is an invisible mark, which leaves ligatures as they are. -/
def isInvisibleMark (c : Char) : Bool :=
  let n := c.toNat
  n == 0x34F || n == 0x17B4 || n == 0x17B5 || (0x180B ≤ n && n ≤ 0x180D) || n == 0x180F
    || (0xFE00 ≤ n && n ≤ 0xFE0F) || (0xE0100 ≤ n && n ≤ 0xE01EF)

def isArabicLam (c : Char) : Bool :=
  let n := c.toNat
  n == 0x644 || (0x6B5 ≤ n && n ≤ 0x6B8) || n == 0x76A || n == 0x8A6 || n == 0x8C7

def isArabicAlef (c : Char) : Bool :=
  let n := c.toNat
  n == 0x622 || n == 0x623 || n == 0x625 || n == 0x627 || (0x671 ≤ n && n ≤ 0x673)
    || n == 0x675 || n == 0x773 || n == 0x774 || (0x870 ≤ n && n ≤ 0x882)

def isTifinagh (c : Char) : Bool :=
  (0x2D31 ≤ c.toNat && c.toNat ≤ 0x2D65) || c.toNat == 0x2D6F

/-- Whether a character is a Khmer letter that can stand below the one in front of it. -/
def isKhmerLetter (c : Char) : Bool :=
  let n := c.toNat
  (0x1780 ≤ n && n ≤ 0x1782) || (0x1784 ≤ n && n ≤ 0x1787) || (0x1789 ≤ n && n ≤ 0x178C)
    || (0x178E ≤ n && n ≤ 0x1793) || (0x1795 ≤ n && n ≤ 0x1798)
    || (0x179B ≤ n && n ≤ 0x179D) || n == 0x17A0 || n == 0x17A2 || n == 0x17A7
    || n == 0x17AB || n == 0x17AC || n == 0x17AF

/-- A letter that may form a ligature with what stands in front of it. Where it matters,
`joined` tells whether a joiner stands in front of the letter. -/
inductive Ligature where
  | arabicAlef
  | hebrewLamed (joined : Bool)
  | bugineseYa (joined : Bool)
  /-- The Buginese vowel sign I in front of a joined letter ya. -/
  | bugineseI
  | tifinagh (joined : Bool)
  /-- The sign that joins Tifinagh consonants, in front of a consonant. -/
  | tifinaghJoiner
  | lisuTone
  | oldTurkicI (joined : Bool)
  | khmerLetter
  deriving Repr, DecidableEq

namespace Ligature

/-- The ligature that a letter may begin, seen from its end. -/
def ofLetter? (c : Char) : Option Ligature :=
  if isArabicAlef c then some .arabicAlef
  else if c = '\u05DC' then some (.hebrewLamed false)
  else if c = '\u1A10' then some (.bugineseYa false)
  else if isTifinagh c then some (.tifinagh false)
  else if c = '\uA4FC' ∨ c = '\uA4FD' then some .lisuTone
  else if c.toNat = 0x10C03 then some (.oldTurkicI false)
  else if isKhmerLetter c then some .khmerLetter
  else none

/-- The ligature with a joiner in front of it. -/
def join : Ligature → Ligature
  | .hebrewLamed _ => .hebrewLamed true
  | .bugineseYa _ => .bugineseYa true
  | .tifinagh _ => .tifinagh true
  | .oldTurkicI _ => .oldTurkicI true
  | ligature => ligature

/-- What the character `c` adds in front of a letter, if it forms a ligature with it: the
columns, and the ligature that may go on in front of `c`. -/
def form? (ligature : Ligature) (c : Char) : Option (Int × Option Ligature) :=
  match ligature with
  | .arabicAlef =>
    if isArabicLam c then some (0, none)
    else if zeroWidth.holds c && !separatingMarks.holds c then some (0, some .arabicAlef)
    else none
  | .hebrewLamed true => if c = '\u05D0' then some (0, none) else none
  | .bugineseYa true => if c = '\u1A17' then some (0, some .bugineseI) else none
  | .bugineseI => if c = '\u1A15' then some (0, none) else none
  | .tifinagh joined =>
    if c = '\u2D7F' then some (1, some .tifinaghJoiner)
    else if joined && isTifinagh c then some (0, none)
    else none
  | .tifinaghJoiner => if isTifinagh c then some (-1, none) else none
  | .lisuTone => if '\uA4F8' ≤ c ∧ c ≤ '\uA4FB' then some (0, none) else none
  | .oldTurkicI true => if c.toNat = 0x10C32 then some (0, none) else none
  | .khmerLetter => if c = '\u17D2' then some (-1, none) else none
  | _ => none

/-- What the character `c` adds in front of a letter, if it leaves the letter's ligature
open or forms it. -/
def before? (ligature : Ligature) (c : Char) : Option (Int × Option Ligature) :=
  if ligature = .arabicAlef then ligature.form? c
  else if c = joiner then some (0, some ligature.join)
  else if isInvisibleMark c then some (0, some ligature)
  else ligature.form? c

end Ligature

end LicenseText
