import SessionSync.Text.Emoji

/-!
# The width of a text on a terminal

The columns of a text are those of its characters, except where several
characters are shown as one shape: emoji with a selector, with the colour of a
skin or joined to other emoji, and the ligatures of some scripts.

A text is measured from its end.  `After` says what the characters after a
character are to it, so far as they can join with it; `After.measure` gives the
columns that a character adds in front of them, which may be negative when the
shape that it completes is narrower than its parts.
-/

set_option autoImplicit false

namespace SessionSync.Text

/-! ## What follows a character -/

/-- What a variation selector asks of the character before it. -/
inductive Selector where
  | emoji
  | text
  | fullwidth
  deriving DecidableEq, Repr

/-- The last part of a ligature, which waits for what stands before it. -/
inductive Ligature where
  /-- An Arabic alef, after a lam. -/
  | alef
  /-- A Hebrew lamed, after an alef and a joiner. -/
  | lamed
  /-- A Buginese ya, after a joiner and the vowel i. -/
  | ya
  /-- The vowel i, a joiner and ya, after the letter a. -/
  | vowelYa
  /-- A Tifinagh consonant, after another and a joiner. -/
  | consonant
  /-- The consonant joiner and a consonant. -/
  | joinedConsonant
  /-- A second tone letter of Lisu, after a first. -/
  | tone
  /-- An Old Turkic i, after the letter ec and a joiner. -/
  | orkhonI
  /-- A Khmer letter, which the coeng sign puts below the line. -/
  | coengLetter
  deriving DecidableEq, Repr

/-- What the characters after a character are to it. -/
inductive Tail where
  | plain
  | lineFeed
  | skinTone
  | emoji
  | regional
  | regionals
  /-- A joiner and an emoji. -/
  | joinedEmoji
  /-- A keycap, a joiner and an emoji. -/
  | joinedKeycap
  /-- Letters of flags, a joiner and an emoji: one letter. -/
  | joinedRegional
  /-- Letters of flags, a joiner and an emoji: an even number of letters. -/
  | joinedRegionalsEven
  /-- Letters of flags, a joiner and an emoji: an odd number of letters. -/
  | joinedRegionalsOdd
  /-- The end of a tagged flag with some letters, a joiner and an emoji. -/
  | joinedTagLetters (count : Nat)
  /-- The end of a tagged flag with some digits, a joiner and an emoji. -/
  | joinedTagDigits (count : Nat)
  /-- The Kirat Rai vowel sign e. -/
  | vowelE
  /-- The Kirat Rai vowel sign ai, or e before e. -/
  | vowelAi
  | ligature (part : Ligature) (joined : Bool)
  deriving DecidableEq, Repr

/-- What follows a character: a shape that may take it in, and before that the
selector that stands next to it. -/
structure After where
  tail : Tail
  selector : Option Selector
  deriving DecidableEq, Repr

namespace After

/-- Nothing that a character could join with. -/
def plain : After := ⟨.plain, none⟩

/-- A tail without a selector. -/
def ofTail (tail : Tail) : After := ⟨tail, none⟩

/-- The tail behind a selector that does not suit the character before it: only
ligatures look through it. -/
def behind : Tail → Tail
  | .ligature part joined => .ligature part joined
  | _ => .plain

/-- A selector put in front.  Only joined emoji stay joined behind the selector
for emoji. -/
def select (after : After) : Selector → After
  | .emoji =>
      match after.tail with
      | .joinedEmoji => ⟨.joinedEmoji, some .emoji⟩
      | .joinedKeycap => ⟨.joinedKeycap, some .emoji⟩
      | tail => ⟨behind tail, some .emoji⟩
  | selector => ⟨behind after.tail, some selector⟩

end After

/-! ## Classes of characters -/

/-- The selector that a character is. -/
def selector? (char : Char) : Option Selector :=
  match char.toNat with
  | 0xFE0E => some .text
  | 0xFE0F => some .emoji
  | 0xFE01 => some .fullwidth
  | _ => none

/-- Whether a character is the joiner. -/
def isJoiner (char : Char) : Bool := char.toNat = 0x200D

/-- Whether a quotation mark has a fullwidth form. -/
def takesFullwidth (char : Char) : Bool :=
  [0x2018, 0x2019, 0x201C, 0x201D].contains char.toNat

/-- The marks that are never shown and leave ligatures as they are. -/
def ignoredMarkRanges : List (Nat × Nat) :=
  [(0x34F, 0x34F), (0x17B4, 0x17B5), (0x180B, 0x180D), (0x180F, 0x180F), (0xFE00, 0xFE0F),
    (0xE0100, 0xE01EF)]

/-- The letters of the joining group alef. -/
def alefRanges : List (Nat × Nat) :=
  [(0x622, 0x623), (0x625, 0x625), (0x627, 0x627), (0x671, 0x673), (0x675, 0x675),
    (0x773, 0x774), (0x870, 0x882)]

/-- The letters of the joining group lam. -/
def lamRanges : List (Nat × Nat) :=
  [(0x644, 0x644), (0x6B5, 0x6B8), (0x76A, 0x76A), (0x8A6, 0x8A6), (0x8C7, 0x8C7)]

/-- The Khmer letters with a shape below the line. -/
def coengLetterRanges : List (Nat × Nat) :=
  [(0x1780, 0x1782), (0x1784, 0x1787), (0x1789, 0x178C), (0x178E, 0x1793), (0x1795, 0x1798),
    (0x179B, 0x179D), (0x17A0, 0x17A0), (0x17A2, 0x17A2), (0x17A7, 0x17A7), (0x17AB, 0x17AC),
    (0x17AF, 0x17AF)]

/-- The Tifinagh consonants. -/
def consonantRanges : List (Nat × Nat) := [(0x2D31, 0x2D65), (0x2D6F, 0x2D6F)]

/-- Whether a character is a small letter of a tag. -/
def isTagLetter (char : Char) : Bool := 0xE0061 ≤ char.toNat && char.toNat ≤ 0xE007A

/-- Whether a character is a digit of a tag. -/
def isTagDigit (char : Char) : Bool := 0xE0030 ≤ char.toNat && char.toNat ≤ 0xE0039

/-- What a character that joins with nothing after it is to the one before it. -/
def Tail.ofChar (char : Char) : Tail :=
  let code := char.toNat
  if char = '\n' then .lineFeed
  else if isEmoji char then .emoji
  else if isSkinTone char then .skinTone
  else if isRegional char then .regional
  else if inRanges alefRanges code then .ligature .alef false
  else if code = 0x5DC then .ligature .lamed false
  else if code = 0x1A10 then .ligature .ya false
  else if inRanges consonantRanges code then .ligature .consonant false
  else if code = 0xA4FC || code = 0xA4FD then .ligature .tone false
  else if code = 0x10C03 then .ligature .orkhonI false
  else if inRanges coengLetterRanges code then .ligature .coengLetter false
  else if code = 0x16D67 then .vowelE
  else if code = 0x16D68 then .vowelAi
  else .plain

/-! ## Measuring -/

/-- The columns that a character adds to the ligature that it completes or goes
on with, and what the two together are to the character before; nothing when
the two do not join. -/
def Ligature.measure? (char : Char) (joined : Bool) (part : Ligature) : Option (Int × Tail) :=
  let code := char.toNat
  match part with
  | .alef =>
      if inRanges lamRanges code then some (0, .plain)
      else if isTransparent char then some (0, .ligature .alef joined)
      else none
  | .lamed => if joined && code = 0x5D0 then some (0, .plain) else none
  | .ya => if joined && code = 0x1A17 then some (0, .ligature .vowelYa true) else none
  | .vowelYa => if code = 0x1A15 then some (0, .plain) else none
  | .consonant =>
      if code = 0x2D7F then some (1, .ligature .joinedConsonant true)
      else if joined && inRanges consonantRanges code then some (0, .plain)
      else none
  | .joinedConsonant => if inRanges consonantRanges code then some (-1, .plain) else none
  | .tone => if 0xA4F8 ≤ code && code ≤ 0xA4FB then some (0, .plain) else none
  | .orkhonI => if joined && code = 0x10C32 then some (0, .plain) else none
  | .coengLetter => if code = 0x17D2 then some (-1, .plain) else none

/-- The columns that a character adds to an emoji or a vowel that it belongs
to, and what the two together are to the character before; nothing when the two
do not join. -/
def Tail.measure? (char : Char) (tail : Tail) : Option (Int × Tail) :=
  let code := char.toNat
  match tail with
  | .lineFeed => if char = '\r' then some (0, .plain) else none
  | .skinTone =>
      if takesSkinTone char then some (0, .emoji)
      else if isJoiner char then some (0, .joinedEmoji)
      else none
  | .emoji => if isJoiner char then some (0, .joinedEmoji) else none
  | .regional => if isRegional char then some (1, .regionals) else none
  | .regionals =>
      if isRegional char then some (1, .regionals)
      else if isJoiner char then some (0, .joinedEmoji)
      else none
  | .joinedEmoji =>
      if code = 0x20E3 then some (0, .joinedKeycap)
      else if isRegional char then some (1, .joinedRegional)
      else if isSkinTone char then some (0, .skinTone)
      else if code = 0xE007F then some (0, .joinedTagLetters 0)
      else if isEmoji char then some (0, .emoji)
      else none
  | .joinedRegional => if isRegional char then some (-1, .joinedRegionalsEven) else none
  | .joinedRegionalsEven =>
      if isRegional char then some (3, .joinedRegionalsOdd)
      else if isJoiner char then some (0, .joinedEmoji)
      else none
  | .joinedRegionalsOdd =>
      if isRegional char then some (-1, .joinedRegionalsEven)
      else if isJoiner char then some (0, .joinedEmoji)
      else none
  | .joinedTagLetters count =>
      if isTagLetter char && count < 6 then some (0, .joinedTagLetters (count + 1))
      else if isTagDigit char && count < 5 then some (0, .joinedTagDigits 1)
      else if code = 0x1F3F4 && 3 ≤ count then some (0, .emoji)
      else none
  | .joinedTagDigits count =>
      if isTagDigit char && count < 3 then some (0, .joinedTagDigits (count + 1))
      else if code = 0x1F3F4 && count = 3 then some (0, .emoji)
      else none
  | .vowelE =>
      if code = 0x16D63 || code = 0x16D69 then some (0, .plain)
      else if code = 0x16D67 then some (0, .vowelAi)
      else if code = 0x16D68 then some (1, .vowelE)
      else none
  | .vowelAi => if code = 0x16D63 then some (0, .plain) else none
  | .ligature .alef joined => Ligature.measure? char joined .alef
  | .ligature part joined =>
      if isJoiner char then some (0, .ligature part true)
      else if inRanges ignoredMarkRanges code then some (0, .ligature part joined)
      else Ligature.measure? char joined part
  | .plain | .joinedKeycap => none

/-- The columns that a character adds in front of a tail, and what it is with
the tail to the character before. -/
def Tail.measure (char : Char) (tail : Tail) : Int × After :=
  match selector? char with
  | some selector => (0, (After.ofTail tail).select selector)
  | none =>
      match tail.measure? char with
      | some (columns, next) => (columns, .ofTail next)
      | none => (charWidth char, .ofTail (.ofChar char))

/-- The columns that a character adds in front of what follows it, and what it
is with it to the character before. -/
def After.measure (char : Char) (after : After) : Int × After :=
  match after.selector with
  | none => after.tail.measure char
  | some .emoji =>
      if takesEmojiShape char then
        let joined := after.tail = .joinedEmoji || after.tail = .joinedKeycap
        (if joined then 0 else 2, .ofTail .emoji)
      else (After.behind after.tail).measure char
  | some .text =>
      if takesTextShape char then (1, .plain) else (After.behind after.tail).measure char
  | some .fullwidth =>
      if takesFullwidth char then (2, .plain) else (After.behind after.tail).measure char

/-- The columns of the characters, and what they are to a character in front. -/
def measure (text : List Char) : Int × After :=
  text.foldr (fun char sofar =>
    let step := sofar.2.measure char
    (step.1 + sofar.1, step.2)) (0, .plain)

@[simp] theorem measure_nil : measure [] = (0, .plain) := rfl

theorem measure_cons (char : Char) (rest : List Char) :
    measure (char :: rest) =
      (((measure rest).2.measure char).1 + (measure rest).1, ((measure rest).2.measure char).2) :=
  rfl

/-- The columns of a text. -/
def width (text : String) : Nat := (measure text.toList).1.toNat

end SessionSync.Text
