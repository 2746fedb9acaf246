import EntityQuery.Text.Emoji
import EntityQuery.Text.Extent

/-!
# Columns of a text

How many columns a text takes where every character has a fixed width. Mostly that
is the sum of the extents of its characters (`charWidth`), but some characters
change their extent beside others:

* emoji: a flag, an emoji with a skin tone, several joined into one, and a
  character whose emoji presentation is asked for take two columns together, and
  an emoji whose text presentation is asked for takes one;
* letters that form a ligature: lam and alef of Arabic, alef and lamed of Hebrew,
  two consonants of Tifinagh, a tone mark of Lisu, and a few others;
* a carriage return takes none before a line feed.

The text is read from its end. At each character a `Following` tells what comes
after it, and `step` gives the columns that the character adds to that and what
there is for the character before it.
-/

namespace EntityQuery.Text

/-- What stands after a character and may combine with it. -/
inductive Joint where
  /-- Nothing that combines. -/
  | none
  | lineFeed
  | skinTone
  /-- A letter of a flag. -/
  | regional
  /-- Several letters of flags. -/
  | regionals
  | emoji
  /-- A joiner and an emoji. -/
  | joinedEmoji
  /-- The frame of a key, a joiner and an emoji. -/
  | joinedKeycap
  /-- A letter of a flag, a joiner and an emoji. -/
  | joinedRegional
  /-- Whole flags, a joiner and an emoji. -/
  | joinedFlags
  /-- A letter of a flag, whole flags, a joiner and an emoji. -/
  | joinedRegionalFlags
  /-- The end of a tag of so many letters and then so many digits, a joiner and an
      emoji; the tag is read from its end. -/
  | joinedTag (letters digits : Nat)
  | alef
  | lamed
  | ya
  /-- The vowel sign i, a joiner and the letter ya. -/
  | iYa
  | tifinagh
  /-- The joiner of consonants and a consonant. -/
  | tifinaghJoiner
  | toneMark
  | orkhonI
  /-- A letter that is written below the line after the sign coeng. -/
  | subscript
  | vowelE
  | vowelAi
  deriving DecidableEq, Repr

/-- The presentations of a character that may be asked for. -/
inductive Presentation where
  | text
  | emoji
  deriving DecidableEq, Repr

/-- What stands after a character: what may combine with it, the presentation that
    is asked for, and whether there is a joiner in between. -/
structure Following where
  joint : Joint
  presentation : Option Presentation
  joiner : Bool
  deriving DecidableEq, Repr

namespace Joint

/-- Whether it is part of a ligature of letters. -/
def isLetter : Joint → Bool
  | alef | lamed | ya | iYa | tifinagh | tifinaghJoiner | toneMark | orkhonI | subscript
  | vowelE | vowelAi => true
  | _ => false

/-- Whether marks that are ignored by default may stand in the ligature. -/
def admitsMarks (j : Joint) : Bool := j.isLetter && j != alef

/-- Whether it goes on when the emoji presentation is asked for before it. -/
def admitsEmojiSelector (j : Joint) : Bool := j.isLetter || j == joinedEmoji || j == joinedKeycap

end Joint

namespace Following

/-- Nothing that matters. -/
def plain : Following := ⟨.none, none, false⟩

/-- What may combine, with nothing in between. -/
def of (j : Joint) : Following := ⟨j, none, false⟩

/-- What follows once a presentation is asked for before it. -/
def asking (p : Presentation) (f : Following) : Following :=
  match p with
  | .emoji => if f.joint.admitsEmojiSelector then { f with presentation := some p }
      else ⟨.none, some p, false⟩
  | .text => if f.joint.isLetter then { f with presentation := some p }
      else ⟨.none, some p, false⟩

/-- What follows once nothing answers to the presentation that is asked for. -/
def unanswered (f : Following) : Following :=
  match f.presentation with
  | none => f
  | some _ => if f.joint.isLetter then { f with presentation := none } else plain

end Following

/-- Whether the character is a mark that is ignored by default. -/
def isIgnoredMark (c : Char) : Bool :=
  let n := c.toNat
  n == 0x34F || n == 0x17B4 || n == 0x17B5 || (0x180B ≤ n && n ≤ 0x180D) || n == 0x180F ||
    (0xFE00 ≤ n && n ≤ 0xFE0F) || (0xE0100 ≤ n && n ≤ 0xE01EF)

/-- The letters alef, with their marks. -/
def alefs : CodeRanges := [
    (0x0622, 0x0623), (0x0625, 0x0625), (0x0627, 0x0627), (0x0671, 0x0673), (0x0675, 0x0675),
    (0x0773, 0x0774), (0x0870, 0x0882)]

/-- The letters lam, with their marks. -/
def lams : CodeRanges := [
    (0x0644, 0x0644), (0x06B5, 0x06B8), (0x076A, 0x076A), (0x08A6, 0x08A6), (0x08C7, 0x08C7)]

/-- The Khmer letters that are written below the line after the sign coeng. -/
def subscripts : CodeRanges := [
    (0x1780, 0x1782), (0x1784, 0x1787), (0x1789, 0x178C), (0x178E, 0x1793), (0x1795, 0x1798),
    (0x179B, 0x179D), (0x17A0, 0x17A0), (0x17A2, 0x17A2), (0x17A7, 0x17A7), (0x17AB, 0x17AC),
    (0x17AF, 0x17AF)]

/-- Whether the character is a consonant of Tifinagh. -/
def isTifinagh (c : Char) : Bool :=
  (0x2D31 ≤ c.toNat && c.toNat ≤ 0x2D65) || c.toNat == 0x2D6F

/-- Whether the character is a letter of a tag. -/
def isTagLetter (c : Char) : Bool := 0xE0061 ≤ c.toNat && c.toNat ≤ 0xE007A

/-- Whether the character is a digit of a tag. -/
def isTagDigit (c : Char) : Bool := 0xE0030 ≤ c.toNat && c.toNat ≤ 0xE0039

/-- What a character is to the one before it. -/
def jointOf (c : Char) : Joint :=
  if c == '\n' then .lineFeed
  else if c.toNat ≤ 0xA0 then .none
  else if c == '\u05DC' then .lamed
  else if alefs.holds c.toNat then .alef
  else if subscripts.holds c.toNat then .subscript
  else if c == '\u1A10' then .ya
  else if isTifinagh c then .tifinagh
  else if c == '\uA4FC' || c == '\uA4FD' then .toneMark
  else if c.toNat == 0x10C03 then .orkhonI
  else if c.toNat == 0x16D67 then .vowelE
  else if c.toNat == 0x16D68 then .vowelAi
  else if isRegionalIndicator c then .regional
  else if isSkinTone c then .skinTone
  else if isEmojiByDefault c then .emoji
  else .none

/-- A character that combines with nothing after it. -/
def alone (c : Char) : Int × Following := (charWidth c, .of (jointOf c))

/-- The columns that a character adds to the letters that form a ligature with it. -/
def stepLetter (c : Char) (j : Joint) (joiner : Bool) : Int × Following :=
  match j with
  | .alef =>
    if lams.holds c.toNat then (0, .plain)
    else if isWidthless c && !interrupts c then (0, .of .alef)
    else alone c
  | .lamed => if joiner && c == '\u05D0' then (0, .plain) else alone c
  | .subscript => if c == '\u17D2' then (-1, .plain) else alone c
  | .ya => if joiner && c == '\u1A17' then (0, .of .iYa) else alone c
  | .iYa => if c == '\u1A15' then (0, .plain) else alone c
  | .tifinagh =>
    if c == '\u2D7F' then (1, .of .tifinaghJoiner)
    else if joiner && isTifinagh c then (0, .plain)
    else alone c
  | .tifinaghJoiner => if isTifinagh c then (-1, .plain) else alone c
  | .toneMark => if 0xA4F8 ≤ c.toNat && c.toNat ≤ 0xA4FB then (0, .plain) else alone c
  | .orkhonI => if joiner && c.toNat == 0x10C32 then (0, .plain) else alone c
  | .vowelE =>
    match c.toNat with
    | 0x16D63 => (0, .plain)
    | 0x16D67 => (0, .of .vowelAi)
    | 0x16D68 => (1, .of .vowelE)
    | 0x16D69 => (0, .plain)
    | _ => alone c
  | .vowelAi => if c.toNat == 0x16D63 then (0, .plain) else alone c
  | _ => alone c

/-- Whether a tag of so many letters and digits names a flag. -/
def isWholeTag (letters digits : Nat) : Bool :=
  (digits == 0 && 3 ≤ letters) || digits == 3

/-- The columns that a character adds to the tag that it goes on to. -/
def stepTag (c : Char) (letters digits : Nat) : Int × Following :=
  if digits == 0 && letters < 6 && isTagLetter c then (0, .of (.joinedTag (letters + 1) 0))
  else if isTagDigit c && ((digits == 0 && letters ≤ 4) || digits == 1 || digits == 2) then
    (0, .of (.joinedTag letters (digits + 1)))
  else if c.toNat == 0x1F3F4 && isWholeTag letters digits then (0, .of .emoji)
  else alone c

/-- The columns that a character adds to the emoji that it belongs to. -/
def stepEmoji (c : Char) (j : Joint) : Int × Following :=
  match j with
  | .skinTone =>
    if isModifierBase c then (0, .of .emoji)
    else if c == '\u200D' then (0, .of .joinedEmoji)
    else alone c
  | .regional => if isRegionalIndicator c then (1, .of .regionals) else alone c
  | .regionals =>
    if isRegionalIndicator c then (1, .of .regionals)
    else if c == '\u200D' then (0, .of .joinedEmoji)
    else alone c
  | .emoji => if c == '\u200D' then (0, .of .joinedEmoji) else alone c
  | .joinedEmoji =>
    if c == '\u20E3' then (0, .of .joinedKeycap)
    else if isRegionalIndicator c then (1, .of .joinedRegional)
    else if isSkinTone c then (0, .of .skinTone)
    else if c.toNat == 0xE007F then (0, .of (.joinedTag 0 0))
    else if isEmojiByDefault c then (0, .of .emoji)
    else alone c
  | .joinedRegional => if isRegionalIndicator c then (-1, .of .joinedFlags) else alone c
  | .joinedRegionalFlags =>
    if isRegionalIndicator c then (-1, .of .joinedFlags)
    else if c == '\u200D' then (0, .of .joinedEmoji)
    else alone c
  | .joinedFlags =>
    if isRegionalIndicator c then (3, .of .joinedRegionalFlags)
    else if c == '\u200D' then (0, .of .joinedEmoji)
    else alone c
  | .joinedTag letters digits => stepTag c letters digits
  | _ => alone c

/-- The columns that a character adds where no presentation is asked for. -/
def stepJoint (c : Char) (f : Following) : Int × Following :=
  if f.joint.isLetter then stepLetter c f.joint f.joiner else stepEmoji c f.joint

/-- The columns that a character adds to what follows it, and what there is for the
    character before it. -/
def step (c : Char) (f : Following) : Int × Following :=
  if f.presentation == some .emoji && takesEmojiSelector c then
    (if f.joint == .joinedEmoji || f.joint == .joinedKeycap then 0 else 2, .of .emoji)
  else if c.toNat ≤ 0xA0 then
    (if c == '\r' && f == .of .lineFeed then 0 else 1, .of (jointOf c))
  else if c == '\uFE0F' then (0, f.asking .emoji)
  else if c == '\uFE0E' then (0, f.asking .text)
  else if f.presentation == some .text && takesTextSelector c then (1, .plain)
  else
    let f := f.unanswered
    if f.joint.admitsMarks && c == '\u200D' then (0, { f with joiner := true })
    else if f.joint.admitsMarks && isIgnoredMark c then (0, f)
    else stepJoint c f

/-- The columns of some characters, and what they are to a character before them. -/
def measure : List Char → Int × Following
  | [] => (0, .plain)
  | c :: cs =>
    let (columns, following) := measure cs
    let (more, following) := step c following
    (columns + more, following)

/-- The columns of a text. -/
def width (s : String) : Nat := (measure s.toList).1.toNat

end EntityQuery.Text
