import FleetScore.Console.Glyph

/-!
# How much room a text takes

A table lines up only if it knows how many columns each text takes.  Most characters
take one, and control characters are counted like that too.  Marks and invisible format
characters take none, and the wide characters of East Asian scripts and pictures two.

But characters do not stand alone.  A picture and its tone are one picture, and so are
pictures that are joined, two letters of a flag, and a flag with the name of its region.
Some letters form ligatures, which take the room of one letter.  And a selector behind a
character asks for a picture or for text.

Whether a character has to give up its room depends on what *follows* it.  So a text is
read from its end, and what is kept on the way is the *context*, what has to be known of
the part already read.  A character adds to the room; where it completes something that
has been counted too high, it adds less than nothing.
-/

namespace FleetScore
namespace Console

/-- What follows in a text, as far as it matters to the character before it. -/
inductive Following where
  /-- Nothing that matters. -/
  | nothing
  /-- A line feed. -/
  | lineEnd
  /-- A tone for a picture. -/
  | tone
  /-- A letter of a flag. -/
  | flagLetter
  /-- Several letters of flags. -/
  | flagLetters
  /-- A picture. -/
  | picture
  /-- A joiner and a picture. -/
  | joinedPicture
  /-- The frame of a key, a joiner and a picture. -/
  | joinedKey
  /-- A letter of a flag, a joiner and a picture. -/
  | joinedFlagLetter
  /-- An even number of letters of flags, a joiner and a picture. -/
  | joinedFlags
  /-- An odd number of letters of flags, a joiner and a picture. -/
  | joinedFlagsLetter
  /-- The end of the name of a region, a joiner and a picture; so many letters of the
  name. -/
  | regionLetters (n : Nat)
  /-- The end of the name of a region, a joiner and a picture; so many digits before the
  letters of the name. -/
  | regionDigits (n : Nat)
  /-- An Arabic alef. -/
  | alef
  /-- A Hebrew lamed, perhaps after a joiner. -/
  | lamed (joined : Bool)
  /-- A Buginese ya, perhaps after a joiner. -/
  | ya (joined : Bool)
  /-- A Buginese ya after a joiner and the vowel sign. -/
  | yaWithVowel
  /-- A Tifinagh letter, perhaps after a joiner. -/
  | tifinagh (joined : Bool)
  /-- A Tifinagh letter after the sign that joins consonants. -/
  | tifinaghConsonant
  /-- The second of two Lisu tones. -/
  | secondTone
  /-- An Old Turkic letter, perhaps after a joiner. -/
  | orkhonLetter (joined : Bool)
  /-- A Khmer letter that goes below another one. -/
  | khmerLetter
  deriving DecidableEq, Repr

namespace Following

/-- Whether what follows is the second part of a ligature. -/
def isLigature : Following → Bool
  | .alef | .lamed _ | .ya _ | .yaWithVowel | .tifinagh _ | .tifinaghConsonant | .secondTone
  | .orkhonLetter _ | .khmerLetter => true
  | _ => false

/-- Whether what follows joins a picture to a picture before it. -/
def isJoined : Following → Bool
  | .joinedPicture | .joinedKey => true
  | _ => false

/-- What follows after a joiner was put before a part of a ligature. -/
def join : Following → Following
  | .lamed _ => .lamed true
  | .ya _ => .ya true
  | .tifinagh _ => .tifinagh true
  | .orkhonLetter _ => .orkhonLetter true
  | f => f

end Following

/-- The style that a selector asks for. -/
inductive Presentation where
  | text
  | picture
  deriving DecidableEq, Repr

/-- What has to be known of the part of a text that is already read: what follows, and the style
that is asked for, if any. -/
structure Context where
  following : Following
  style : Option Presentation
  deriving DecidableEq, Repr

namespace Context

/-- The end of a text. -/
def start : Context := ⟨.nothing, none⟩

/-- The context of a character that is followed by something and no selector. -/
def before (f : Following) : Context := ⟨f, none⟩

/-- The context after the selector of text: it makes an end of everything but
ligatures. -/
def asText (x : Context) : Context :=
  if x.following.isLigature then ⟨x.following, some .text⟩ else ⟨.nothing, some .text⟩

/-- The context after the selector of pictures: it makes an end of everything but
ligatures and joined pictures. -/
def asPicture (x : Context) : Context :=
  if x.following.isLigature || x.following.isJoined then ⟨x.following, some .picture⟩
  else ⟨.nothing, some .picture⟩

/-- The context if the selector does not fit the character before it. -/
def unselected (x : Context) : Context :=
  match x.style with
  | some .picture => if x.following.isLigature then before x.following else start
  | _ => before x.following

end Context

namespace Width

/-- The joiner. -/
def joiner : Char := '\u200d'

/-- The selector of text. -/
def textSelector : Char := '\ufe0e'

/-- The selector of pictures. -/
def pictureSelector : Char := '\ufe0f'

/-- The room of a character whatever follows, and what it is to the one before it. -/
def alone (c : Char) : Int × Following :=
  if Glyph.isFlagLetter c then (1, .flagLetter)
  else if Glyph.isTone c then (2, .tone)
  else if Glyph.isAlef c then (1, .alef)
  else if c = '\u05dc' then (1, .lamed false)
  else if c = '\u1a10' then (1, .ya false)
  else if Glyph.isTifinagh c then (1, .tifinagh false)
  else if Glyph.isSecondTone c then (1, .secondTone)
  else if c.toNat = 0x10c03 then (1, .orkhonLetter false)
  else if Glyph.isKhmerLetter c then (1, .khmerLetter)
  else if c = '\u17d8' then (3, .nothing)
  else if Glyph.isPicture c then (2, .picture)
  else if Glyph.isHidden c then (0, .nothing)
  else if Glyph.isWide c then (2, .nothing)
  else (1, .nothing)

/-- What a character becomes before a joiner and a picture. -/
def joined? (c : Char) : Option (Int × Following) :=
  if c = '\u20e3' then some (0, .joinedKey)
  else if Glyph.isFlagLetter c then some (1, .joinedFlagLetter)
  else if Glyph.isTone c then some (0, .tone)
  else if c.toNat = 0xe007f then some (0, .regionLetters 0)
  else if Glyph.isPicture c then some (0, .picture)
  else none

/-- What a character becomes before letters or digits of the name of a region: one more
of them, or the flag itself.  There are three to six letters, or three digits before at
most four letters. -/
def region? (letters digits : Nat) (c : Char) : Option (Int × Following) :=
  if c.toNat = 0x1f3f4 then
    if digits = 3 ∨ (digits = 0 ∧ 3 ≤ letters) then some (0, .picture) else none
  else if Glyph.isTagLetter c then
    if digits = 0 ∧ letters < 6 then some (0, .regionLetters (letters + 1)) else none
  else if Glyph.isTagDigit c then
    if digits < 3 ∧ letters < 5 then some (0, .regionDigits (digits + 1)) else none
  else none

/-- What a character becomes together with what follows it, if they belong together. -/
def together? (f : Following) (c : Char) : Option (Int × Following) :=
  match f with
  | .tone =>
      if Glyph.takesTone c then some (0, .picture)
      else if c = joiner then some (0, .joinedPicture)
      else none
  | .flagLetter => if Glyph.isFlagLetter c then some (1, .flagLetters) else none
  | .flagLetters =>
      if Glyph.isFlagLetter c then some (1, .flagLetters)
      else if c = joiner then some (0, .joinedPicture)
      else none
  | .picture => if c = joiner then some (0, .joinedPicture) else none
  | .joinedPicture => joined? c
  | .joinedFlagLetter => if Glyph.isFlagLetter c then some (-1, .joinedFlags) else none
  | .joinedFlags =>
      if Glyph.isFlagLetter c then some (3, .joinedFlagsLetter)
      else if c = joiner then some (0, .joinedPicture)
      else none
  | .joinedFlagsLetter => if Glyph.isFlagLetter c then some (-1, .joinedFlags) else none
  | .regionLetters n => region? n 0 c
  | .regionDigits n => region? 0 n c
  | .alef =>
      if Glyph.isLam c then some (0, .nothing)
      else if Glyph.isBridge c then some (0, .alef)
      else none
  | .lamed true => if c = '\u05d0' then some (0, .nothing) else none
  | .ya true => if c = '\u1a17' then some (0, .yaWithVowel) else none
  | .yaWithVowel => if c = '\u1a15' then some (0, .nothing) else none
  | .tifinagh joined =>
      if c = '\u2d7f' then some (1, .tifinaghConsonant)
      else if joined && Glyph.isTifinagh c then some (0, .nothing)
      else none
  | .tifinaghConsonant => if Glyph.isTifinagh c then some (-1, .nothing) else none
  | .secondTone => if Glyph.isFirstTone c then some (0, .nothing) else none
  | .orkhonLetter true => if c.toNat = 0x10c32 then some (0, .nothing) else none
  | .khmerLetter => if c = '\u17d2' then some (-1, .nothing) else none
  | _ => none

/-- What a character becomes that may stand between the parts of a ligature. -/
def between? (f : Following) (c : Char) : Option (Int × Following) :=
  if f.isLigature && f != .alef then
    if c = joiner then some (0, f.join)
    else if Glyph.isPassedOver c then some (0, f)
    else none
  else none

/-- What a character adds that no selector changes, and what it is to the one before
it. -/
def plain (f : Following) (c : Char) : Int × Following :=
  if c.toNat ≤ 0xa0 then
    if c = '\n' then (1, .lineEnd)
    else if c = '\r' ∧ f = .lineEnd then (0, .nothing)
    else (1, .nothing)
  else (between? f c <|> together? f c).getD (alone c)

/-- Whether a character ends a picture sequence whose room has been counted already. -/
def completes (x : Context) : Bool := x.following.isJoined

/-- What a character adds in its context, and the context of the one before it. -/
def step (c : Char) (x : Context) : Int × Context :=
  if x.style = some .picture ∧ Glyph.hasPictureForm c then
    (if completes x then 0 else 2, .before .picture)
  else if x.style = some .text ∧ Glyph.hasTextForm c then (1, .start)
  else if c = pictureSelector then
    (0, (if x.style = some .picture then x.unselected else x).asPicture)
  else if c = textSelector then
    (0, (if x.style = some .picture then x.unselected else x).asText)
  else
    let r := plain x.unselected.following c
    (r.1, .before r.2)

end Width

/-- How many columns a text takes. -/
def textWidth (s : String) : Nat :=
  (s.toList.foldr
    (fun c (sum : Int × Context) => let r := Width.step c sum.2; (sum.1 + r.1, r.2))
    (0, .start)).1.toNat

end Console
end FleetScore
