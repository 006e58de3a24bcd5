import ReportSegments.Text.Ranges
import ReportSegments.Text.WidthRanges

/-!
This module contains how the width of a character depends on the text behind it. A text is read
from its end: `Tail` tells in what way the text read so far can join the character in front of it,
and `Tail.join?` is that step where they do join.
-/

namespace ReportSegments
namespace Text

def joiner : Char := '\u200d'

def keycap : Char := '\u20e3'

/--
Whether a character gives a skin tone to the emoji in front of it.
-/
def isSkinTone (c : Char) : Bool :=
  0x1F3FB ≤ c.toNat && c.toNat ≤ 0x1F3FF

/--
Whether a character is a letter of a flag. Two of them make a flag.
-/
def isFlagLetter (c : Char) : Bool :=
  0x1F1E6 ≤ c.toNat && c.toNat ≤ 0x1F1FF

/--
Whether a character is the flag to which tags give the name of a region.
-/
def isTaggedFlag (c : Char) : Bool :=
  c.toNat = 0x1F3F4

def isTagEnd (c : Char) : Bool :=
  c.toNat = 0xE007F

def isTagLetter (c : Char) : Bool :=
  0xE0061 ≤ c.toNat && c.toNat ≤ 0xE007A

def isTagDigit (c : Char) : Bool :=
  0xE0030 ≤ c.toNat && c.toNat ≤ 0xE0039

/--
Whether a character is shown as an emoji unless said otherwise. Skin tones and letters of flags
are not counted.
-/
def isEmojiByDefault (c : Char) : Bool :=
  inRanges emojiPresentationRanges c && !isFlagLetter c && !isSkinTone c

/--
Whether a character is a form of the Arabic letter lam.
-/
def isLam (c : Char) : Bool :=
  inRanges [(0x644, 0x644), (0x6B5, 0x6B8), (0x76A, 0x76A), (0x8A6, 0x8A6), (0x8C7, 0x8C7)] c

/--
Whether a character is a form of the Arabic letter alef.
-/
def isAlef (c : Char) : Bool :=
  inRanges [(0x622, 0x623), (0x625, 0x625), (0x627, 0x627), (0x671, 0x673), (0x675, 0x675),
    (0x773, 0x774), (0x870, 0x882)] c

/--
Whether a character is a Khmer letter that has a form below the letter in front of it.
-/
def isKhmerSubscript (c : Char) : Bool :=
  inRanges [(0x1780, 0x1782), (0x1784, 0x1787), (0x1789, 0x178C), (0x178E, 0x1793),
    (0x1795, 0x1798), (0x179B, 0x179D), (0x17A0, 0x17A0), (0x17A2, 0x17A2), (0x17A7, 0x17A7),
    (0x17AB, 0x17AC), (0x17AF, 0x17AF)] c

def isTifinagh (c : Char) : Bool :=
  inRanges [(0x2D31, 0x2D65), (0x2D6F, 0x2D6F)] c

/--
Whether a character may stand between two letters that join each other.
-/
def isSkipped (c : Char) : Bool :=
  inRanges [(0x34F, 0x34F), (0x17B4, 0x17B5), (0x180B, 0x180D), (0x180F, 0x180F),
    (0xFE00, 0xFE0F), (0xE0100, 0xE01EF)] c

/--
Whether a character may stand between a lam and the alef that joins it.
-/
def isTransparent (c : Char) : Bool :=
  inRanges zeroWidthRanges c && !inRanges opaqueRanges c

/--
The letters that can join a letter in front of them.
-/
inductive JoiningLetter where
  /-- An Arabic alef, behind a lam. -/
  | alef
  /-- A Hebrew lamed, behind an alef and a joiner. -/
  | lamed
  /-- A Khmer letter, behind the sign that makes it a subscript. -/
  | khmer
  /-- A Buginese ya, behind a vowel sign and a joiner. -/
  | ya
  /-- A Buginese ya that is joined to a vowel sign, behind the letter a. -/
  | vowelYa
  /-- A Tifinagh consonant, behind another one and a joiner. -/
  | tifinagh
  /-- A Tifinagh consonant with the sign that joins it to the one in front. -/
  | joinedTifinagh
  /-- A Lisu tone letter, behind another one. -/
  | lisuTone
  /-- An Old Turkic letter, behind another one and a joiner. -/
  | orkhon
deriving DecidableEq, Repr

/--
In what way a text can join the character in front of it.
-/
inductive Tail where
  /-- It does not join anything. -/
  | other
  /-- A line feed, to which a carriage return belongs. -/
  | lineFeed
  /-- A letter, possibly behind a joiner. -/
  | letter (l : JoiningLetter) (joined : Bool)
  /-- The Kirat Rai vowel sign e. -/
  | vowelE
  /-- The Kirat Rai vowel sign ai. -/
  | vowelAi
  /-- An emoji. -/
  | emoji
  /-- A skin tone, which may be an emoji of its own. -/
  | skinTone
  /-- One letter of a flag. -/
  | flagLetter
  /-- Two or more letters of flags. -/
  | flagLetters
  /-- An emoji behind a joiner. -/
  | joinedEmoji
  /-- An emoji behind a keycap and a joiner. -/
  | joinedKeycap
  /-- An emoji behind one letter of a flag and a joiner. -/
  | joinedFlagLetter
  /-- An emoji behind flags and a joiner. -/
  | joinedFlags
  /-- An emoji behind a letter of a flag, flags and a joiner. -/
  | joinedFlagsAndLetter
  /-- An emoji behind a row of tags, of which this many letters were read from the end. -/
  | tagLetters (count : Nat)
  /-- The same where digits stand in front of the letters. -/
  | tagDigits (count : Nat)
deriving DecidableEq, Repr

namespace Tail

def ofChar (c : Char) : Tail :=
  if c = '\n' then .lineFeed
  else if isAlef c then .letter .alef false
  else if c = '\u05dc' then .letter .lamed false
  else if isKhmerSubscript c then .letter .khmer false
  else if c = '\u1a10' then .letter .ya false
  else if isTifinagh c then .letter .tifinagh false
  else if c = '\ua4fc' || c = '\ua4fd' then .letter .lisuTone false
  else if c.toNat = 0x10C03 then .letter .orkhon false
  else if c.toNat = 0x16D67 then .vowelE
  else if c.toNat = 0x16D68 then .vowelAi
  else if isFlagLetter c then .flagLetter
  else if isSkinTone c then .skinTone
  else if isEmojiByDefault c then .emoji
  else .other

def joinLetter? (l : JoiningLetter) (joined : Bool) (c : Char) : Option (Int × Tail) :=
  match l with
  | .alef =>
    if isLam c then some (0, .other)
    else if isTransparent c then some (0, .letter .alef joined)
    else none
  | .lamed => if joined && c = '\u05d0' then some (0, .other) else none
  | .khmer => if c = '\u17d2' then some (-1, .other) else none
  | .ya => if joined && c = '\u1a17' then some (0, .letter .vowelYa true) else none
  | .vowelYa => if c = '\u1a15' then some (0, .other) else none
  | .tifinagh =>
    if c = '\u2d7f' then some (1, .letter .joinedTifinagh true)
    else if joined && isTifinagh c then some (0, .other)
    else none
  | .joinedTifinagh => if isTifinagh c then some (-1, .other) else none
  | .lisuTone => if 0xA4F8 ≤ c.toNat && c.toNat ≤ 0xA4FB then some (0, .other) else none
  | .orkhon => if joined && c.toNat = 0x10C32 then some (0, .other) else none

/--
How an emoji behind a joiner joins the character in front of that.
-/
def joinEmoji? (c : Char) : Option (Int × Tail) :=
  if c = keycap then some (0, .joinedKeycap)
  else if isFlagLetter c then some (1, .joinedFlagLetter)
  else if isSkinTone c then some (0, .skinTone)
  else if isTagEnd c then some (0, .tagLetters 0)
  else if isEmojiByDefault c then some (0, .emoji)
  else none

/--
How a text joins the character in front of it: the columns that the character adds, and the tail
that both are together.
-/
def join? (tail : Tail) (c : Char) : Option (Int × Tail) :=
  match tail with
  | .other | .lineFeed | .joinedKeycap => none
  | .letter l joined =>
    if l ≠ .alef && c = joiner then some (0, .letter l true)
    else if l ≠ .alef && isSkipped c then some (0, .letter l joined)
    else joinLetter? l joined c
  | .vowelE =>
    if c.toNat = 0x16D63 || c.toNat = 0x16D69 then some (0, .other)
    else if c.toNat = 0x16D67 then some (0, .vowelAi)
    else if c.toNat = 0x16D68 then some (1, .vowelE)
    else none
  | .vowelAi => if c.toNat = 0x16D63 then some (0, .other) else none
  | .emoji => if c = joiner then some (0, .joinedEmoji) else none
  | .skinTone =>
    if inRanges modifierBaseRanges c then some (0, .emoji)
    else if c = joiner then some (0, .joinedEmoji)
    else none
  | .flagLetter => if isFlagLetter c then some (1, .flagLetters) else none
  | .flagLetters =>
    if isFlagLetter c then some (1, .flagLetters)
    else if c = joiner then some (0, .joinedEmoji)
    else none
  | .joinedEmoji => joinEmoji? c
  | .joinedFlagLetter => if isFlagLetter c then some (-1, .joinedFlags) else none
  | .joinedFlags =>
    if isFlagLetter c then some (3, .joinedFlagsAndLetter)
    else if c = joiner then some (0, .joinedEmoji)
    else none
  | .joinedFlagsAndLetter =>
    if isFlagLetter c then some (-1, .joinedFlags)
    else if c = joiner then some (0, .joinedEmoji)
    else none
  | .tagLetters count =>
    if isTagLetter c && count < 6 then some (0, .tagLetters (count + 1))
    else if isTagDigit c && count < 5 then some (0, .tagDigits 1)
    else if isTaggedFlag c && 3 ≤ count then some (0, .emoji)
    else none
  | .tagDigits count =>
    if isTagDigit c && count < 3 then some (0, .tagDigits (count + 1))
    else if isTaggedFlag c && count = 3 then some (0, .emoji)
    else none

end Tail

end Text
end ReportSegments
