import ReportSegments.Text.Joining

/-!
This module contains the width of a text on a terminal. Most characters fill one column and wide
ones two; emoji, flags and some letters are shown as one with what they are joined to.
-/

namespace ReportSegments
namespace Text

def charColumns (c : Char) : Nat :=
  if inRanges zeroWidthRanges c then 0
  else if inRanges wideRanges c then 2
  else if c = '\u17d8' then 3
  else 1

/--
The variation selectors that change the width of the character in front of them.
-/
inductive Selector where
  /-- Asks for the emoji form. -/
  | emoji
  /-- Asks for the plain form. -/
  | plain
  /-- Asks for a quotation mark as wide as an ideograph. -/
  | wideQuote
deriving DecidableEq, Repr

namespace Selector

def ofChar? (c : Char) : Option Selector :=
  if c = '\ufe0f' then some .emoji
  else if c = '\ufe0e' then some .plain
  else if c = '\ufe01' then some .wideQuote
  else none

/--
Whether a character has a plain form that is narrower than its emoji form. Ideographs in a square
stay wide.
-/
def narrows (c : Char) : Bool :=
  inRanges emojiSelectableRanges c && isEmojiByDefault c &&
    !(0x1F200 ≤ c.toNat && c.toNat ≤ 0x1F2FF)

/--
Whether a character is a quotation mark that can be as wide as an ideograph.
-/
def widens (c : Char) : Bool :=
  c = '\u2018' || c = '\u2019' || c = '\u201c' || c = '\u201d'

/--
Whether a tail is kept behind a selector, so that it can still join what stands in front of both.
-/
def keeps : Selector → Tail → Bool
  | _, .letter _ _ => true
  | .emoji, .joinedEmoji => true
  | .emoji, .joinedKeycap => true
  | _, _ => false

/--
How a selector changes the character in front of it, where it does: the columns that the character
fills, and the tail that it is. An emoji that is joined to another one adds nothing.
-/
def change? (selector : Selector) (tail : Tail) (c : Char) : Option (Int × Tail) :=
  match selector with
  | .emoji =>
    if inRanges emojiSelectableRanges c then
      some (if tail = .joinedEmoji || tail = .joinedKeycap then 0 else 2, .emoji)
    else
      none
  | .plain => if narrows c then some (1, .other) else none
  | .wideQuote => if widens c then some (2, .other) else none

end Selector

/--
What stands behind a character: a tail, possibly with a selector in front of it.
-/
structure Behind where
  tail : Tail := .other
  selector : Option Selector := none
deriving DecidableEq, Repr

namespace Behind

def select (tail : Tail) (selector : Selector) : Behind :=
  { tail := if selector.keeps tail then tail else .other, selector := some selector }

/--
The tail once a selector in front of it has turned out to select nothing. Only letters are joined
across it.
-/
def unselected (behind : Behind) : Tail :=
  match behind.selector, behind.tail with
  | none, tail => tail
  | some _, .letter l joined => .letter l joined
  | some _, _ => .other

/--
Reads a character in front of a tail: the columns it adds, and what then stands behind the
character in front of it. A control character fills a column, but a carriage return belongs to the
line feed behind it.
-/
def stepTail (tail : Tail) (c : Char) : Int × Behind :=
  if c ≤ '\u00a0' then
    (if c = '\r' && tail = .lineFeed then 0 else 1, { tail := .ofChar c })
  else
    match Selector.ofChar? c, tail.join? c with
    | some selector, _ => (0, select tail selector)
    | none, some (added, tail) => (added, { tail })
    | none, none => (charColumns c, { tail := .ofChar c })

def step (behind : Behind) (c : Char) : Int × Behind :=
  match behind.selector.bind (·.change? behind.tail c) with
  | some (added, tail) => (added, { tail })
  | none => stepTail behind.unselected c

end Behind

/--
How many columns a text fills, and what it is to a character in front of it.
-/
def measure (cs : List Char) : Int × Behind :=
  cs.foldr (fun c (width, behind) =>
    let (added, behind) := behind.step c
    (width + added, behind)) (0, {})

def columns (cs : List Char) : Nat :=
  (measure cs).1.toNat

end Text
end ReportSegments
