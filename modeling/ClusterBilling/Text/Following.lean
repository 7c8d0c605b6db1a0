import ClusterBilling.Text.WidthTable
import ClusterBilling.Text.PictureTable
import ClusterBilling.Text.JoiningTable
import ClusterBilling.Text.Case

/-!
# Characters that take their width from what follows

A character alone takes no column, one or two (`charWidth`). In a text it can join what follows it:
a letter and a selector are a picture, two regional indicators a flag, pictures with joiners
between them one picture, and some letters one ligature. A text is therefore measured from its end
(`Following.before`): each step is given how the text behind it begins, as far as that matters, and
says how many columns the character adds and how the longer text begins. A joined letter can take
back a column that was counted for its neighbour.
-/

namespace ClusterBilling.Text

/-- Columns of one character alone. -/
def charWidth (c : Char) : Nat :=
  let n := c.toNat
  if n ≤ 0xa0 then 1
  else if n = 0x17d8 then 3
  else if inRanges zeroWidthRanges n then 0
  else if inRanges doubleWidthRanges n then 2
  else 1

def isJoiner (c : Char) : Bool := c = '\u200d'

def isRegionalIndicator (c : Char) : Bool := inRanges [(0x1f1e6, 0x1f1ff)] c.toNat

def isSkinTone (c : Char) : Bool := inRanges [(0x1f3fb, 0x1f3ff)] c.toNat

def isTonable (c : Char) : Bool := inRanges tonableRanges c.toNat

def isTagLetter (c : Char) : Bool := inRanges [(0xe0061, 0xe007a)] c.toNat

def isTagDigit (c : Char) : Bool := inRanges [(0xe0030, 0xe0039)] c.toNat

/-- Whether the selector of pictures has an effect behind the character. -/
def takesPictureSelector (c : Char) : Bool :=
  inRanges textFirstRanges c.toNat || inRanges pictureFirstRanges c.toNat

/-- Whether the selector of text makes the character narrow; enclosed ideographs stay wide. -/
def takesTextSelector (c : Char) : Bool :=
  inRanges pictureFirstRanges c.toNat && !inRanges [(0x1f200, 0x1f2ff)] c.toNat

def isTifinaghConsonant (c : Char) : Bool :=
  inRanges [(0x2d31, 0x2d65), (0x2d6f, 0x2d6f)] c.toNat

/-- How a text begins, as far as it matters to the character before it. `joined` says that a joiner
stands in front of the letter. -/
inductive Start
  /-- Nothing that matters. -/
  | plain
  | picture
  | skinTone
  /-- A picture with a joiner in front of it. -/
  | joinedPicture
  /-- The same behind a keycap. -/
  | joinedKeycap
  /-- A regional indicator that no other follows. -/
  | indicator
  /-- Two of them or more. -/
  | indicators
  /-- A regional indicator in front of a joined picture. -/
  | joinedIndicator
  /-- An even number of them. -/
  | joinedFlags
  /-- An odd number of them, three at least. -/
  | joinedFlagsAndIndicator
  /-- So many letters of a tag in front of the end of the tag. -/
  | tagLetters (count : Nat)
  /-- So many digits of a tag in front of its letters. -/
  | tagDigits (count : Nat)
  | alef
  | lamed (joined : Bool)
  | ya (joined : Bool)
  /-- The vowel i, a joiner and ya. -/
  | vowelYa
  | tifinagh (joined : Bool)
  /-- The consonant joiner in front of a consonant. -/
  | tifinaghPair
  | toneLetter
  | orkhonI (joined : Bool)
  /-- A Khmer letter that can be written below another. -/
  | subscript
deriving DecidableEq, Repr

namespace Start

/-- How a text begins with a character that does not join what follows it. -/
def ofChar (c : Char) : Start :=
  let n := c.toNat
  if inRanges pictureRanges n then .picture
  else if isSkinTone c then .skinTone
  else if isRegionalIndicator c then .indicator
  else if inRanges alefRanges n then .alef
  else if isTifinaghConsonant c then .tifinagh false
  else if inRanges subscriptRanges n then .subscript
  else if n = 0x5dc then .lamed false
  else if n = 0x1a10 then .ya false
  else if inRanges [(0xa4fc, 0xa4fd)] n then .toneLetter
  else if n = 0x10c03 then .orkhonI false
  else .plain

/-- Whether a letter of a ligature begins the text; a selector in front of it does not part it
from the letter before. -/
def inLigature : Start → Bool
  | .alef | .lamed _ | .ya _ | .vowelYa | .tifinagh _ | .tifinaghPair | .toneLetter | .orkhonI _
  | .subscript => true
  | _ => false

/-- Whether joiners and marks that may be ignored can stand inside the ligature. -/
def passesMarks (start : Start) : Bool := start.inLigature && start != .alef

/-- What a joiner in front of a ligature makes of it. -/
def join : Start → Start
  | .lamed _ => .lamed true
  | .ya _ => .ya true
  | .tifinagh _ => .tifinagh true
  | .orkhonI _ => .orkhonI true
  | start => start

/-- **The joining rules**: what a character adds to the width of the text it joins, and how the
longer text begins; `none` where the two do not join. -/
def joining (c : Char) : Start → Option (Int × Start)
  | .alef =>
    if inRanges lamRanges c.toNat then some (0, .plain)
    else if inRanges transparentRanges c.toNat then some (0, .alef)
    else none
  | .lamed true => if c = '\u05d0' then some (0, .plain) else none
  | .subscript => if c = '\u17d2' then some (-1, .plain) else none
  | .ya true => if c = '\u1a17' then some (0, .vowelYa) else none
  | .vowelYa => if c = '\u1a15' then some (0, .plain) else none
  | .tifinagh joined =>
    if c = '\u2d7f' then some (1, .tifinaghPair)
    else if joined && isTifinaghConsonant c then some (0, .plain)
    else none
  | .tifinaghPair => if isTifinaghConsonant c then some (-1, .plain) else none
  | .toneLetter => if inRanges [(0xa4f8, 0xa4fb)] c.toNat then some (0, .plain) else none
  | .orkhonI true => if c = '𐰲' then some (0, .plain) else none
  | .skinTone =>
    if isTonable c then some (0, .picture)
    else if isJoiner c then some (0, .joinedPicture)
    else none
  | .picture => if isJoiner c then some (0, .joinedPicture) else none
  | .indicator => if isRegionalIndicator c then some (1, .indicators) else none
  | .indicators =>
    if isRegionalIndicator c then some (1, .indicators)
    else if isJoiner c then some (0, .joinedPicture)
    else none
  | .joinedPicture =>
    if c = '\u20e3' then some (0, .joinedKeycap)
    else if isRegionalIndicator c then some (1, .joinedIndicator)
    else if isSkinTone c then some (0, .skinTone)
    else if c.toNat = 0xe007f then some (0, .tagLetters 0)
    else if ofChar c = .picture then some (0, .picture)
    else none
  | .joinedIndicator => if isRegionalIndicator c then some (-1, .joinedFlags) else none
  | .joinedFlags =>
    if isRegionalIndicator c then some (3, .joinedFlagsAndIndicator)
    else if isJoiner c then some (0, .joinedPicture)
    else none
  | .joinedFlagsAndIndicator =>
    if isRegionalIndicator c then some (-1, .joinedFlags)
    else if isJoiner c then some (0, .joinedPicture)
    else none
  | .tagLetters count =>
    if isTagLetter c && count < 6 then some (0, .tagLetters (count + 1))
    else if isTagDigit c && count < 5 then some (0, .tagDigits 1)
    else if c = '🏴' && 3 ≤ count then some (0, .picture)
    else none
  | .tagDigits count =>
    if isTagDigit c && count < 3 then some (0, .tagDigits (count + 1))
    else if c = '🏴' && count = 3 then some (0, .picture)
    else none
  | .plain | .joinedKeycap | .lamed false | .ya false | .orkhonI false => none

end Start

/-- How a text begins: with selectors, if any, and then as `start` says. -/
structure Following where
  start : Start := .plain
  /-- The selector of pictures stands in front. -/
  asPicture : Bool := false
  /-- The selector of text stands in front. -/
  asText : Bool := false
deriving DecidableEq, Repr

namespace Following

/-- The text with the selector of pictures in front of it. It parts a text from what comes before,
except a ligature or a joined picture. -/
def selectPicture (next : Following) : Following :=
  if next.start.inLigature || next.start = .joinedPicture || next.start = .joinedKeycap then
    { next with asPicture := true }
  else { asPicture := true }

/-- The text with the selector of text in front of it. -/
def selectText (next : Following) : Following :=
  if next.start.inLigature then { next with asText := true } else { asText := true }

/-- The text without the selector of pictures, which had no effect. -/
def dropPicture (next : Following) : Following :=
  if next.start.inLigature then { next with asPicture := false } else {}

/-- The step where no selector stands in front of the text. -/
def beforeStart (c : Char) (next : Following) : Int × Following :=
  if next.start.passesMarks && isJoiner c then (0, { next with start := next.start.join })
  else if next.start.passesMarks && inRanges ignorableMarkRanges c.toNat then (0, next)
  else
    match next.start.joining c with
    | some (columns, start) => (columns, { start := start })
    | none => (charWidth c, { start := .ofChar c })

/-- **One step towards the front**: the columns that a character adds to the text behind it, and
how the longer text begins. -/
def before (c : Char) (next : Following) : Int × Following :=
  if next.asPicture && takesPictureSelector c then
    (if next.start = .joinedPicture || next.start = .joinedKeycap then 0 else 2,
      { start := .picture })
  else
    let next := if next.asPicture then next.dropPicture else next
    if c.toNat ≤ 0xa0 then (1, {})
    else if c = '\ufe0f' then (0, next.selectPicture)
    else if c = '\ufe0e' then (0, next.selectText)
    else if next.asText && takesTextSelector c then (1, {})
    else beforeStart c (if next.asText then { next with asText := false } else next)

end Following

end ClusterBilling.Text
