import SensorClient.Text.Ligature
import SensorClient.Text.Picture

/-!
# The number of columns a text takes

A text takes the columns of its characters, except where several of them are drawn as one: a
picture and the selector of its form, a picture and its skin tone, joined pictures, the flags, the
ligatures of some scripts, and a line break of two characters.

The text is read from its end. What a character adds depends on how the text goes on after it, and
that is a `Sequel` and perhaps a selector.

## Main definitions

* `Text.Sequel`, `Text.Outlook`: what a character needs to know of the text after it
* `Text.advance`: the columns that one more character adds in front
* `Text.width`: the columns of a text
-/

namespace SensorClient.Text

/-- How a text goes on, as far as it bears on the character in front of it. `joined` tells that a
joiner stands first. -/
inductive Sequel where
  | other
  | newline
  | alef
  | lamed (joined : Bool)
  | ya (joined : Bool)
  /-- A joined ya with its vowel in front. -/
  | vowelAndYa
  | consonant (joined : Bool)
  /-- A consonant with the consonant joiner in front. -/
  | joinedConsonant
  | secondTone
  | orkhonI (joined : Bool)
  | coengLetter
  | vowelE
  | vowelAi
  | picture
  | skinTone
  | joinedPicture
  /-- A joined picture with a key frame in front. -/
  | joinedKey
  | regionLetter
  | regionLetters
  /-- A joined picture with one letter of a region in front. -/
  | joinedRegionLetter
  /-- A joined picture with so many letters of regions in front that they pair off. -/
  | joinedEvenLetters
  /-- A joined picture with an odd number of them in front, three at least. -/
  | joinedOddLetters
  /-- A joined picture with the end of a tag in front, and so many letters of the tag. -/
  | tagLetters (count : Nat)
  /-- A joined picture with a tag in front that starts with so many digits. -/
  | tagDigits (count : Nat)
deriving DecidableEq, Repr

namespace Sequel

/-- Whether the next character may join in a ligature. -/
def isLigature : Sequel → Bool
  | alef | lamed _ | ya _ | vowelAndYa | consonant _ | joinedConsonant | secondTone | orkhonI _
  | coengLetter => true
  | _ => false

/-- Whether a picture in front is joined with one that is counted already. -/
def isJoinedPicture : Sequel → Bool
  | joinedPicture | joinedKey => true
  | _ => false

/-- What a joiner in front makes of this, where it makes anything of it. -/
def joined? : Sequel → Option Sequel
  | lamed _ => some (lamed true)
  | ya _ => some (ya true)
  | vowelAndYa => some vowelAndYa
  | consonant _ => some (consonant true)
  | joinedConsonant => some joinedConsonant
  | secondTone => some secondTone
  | orkhonI _ => some (orkhonI true)
  | coengLetter => some coengLetter
  | picture | skinTone | regionLetters | joinedEvenLetters | joinedOddLetters => some joinedPicture
  | _ => none

/-- What a character by itself makes of the text that starts with it. -/
def start (c : Char) : Sequel :=
  if c = '\n' then newline
  else if isRegionLetter c then regionLetter
  else if isSkinTone c then skinTone
  else if isPicture c then picture
  else if isAlef c then alef
  else if isCoengLetter c then coengLetter
  else if isConsonant c then consonant false
  else if isSecondTone c then secondTone
  else
    match c.toNat with
    | 0x5dc => lamed false
    | 0x1a10 => ya false
    | 0x10c03 => orkhonI false
    | 0x16d67 => vowelE
    | 0x16d68 => vowelAi
    | _ => other

/-- The columns that a character adds in front of a ligature it has a part in, and what it makes of
the text. The consonant joiner is counted where it stands and taken back by the consonant before
it, and so is the letter that the sign in front puts below another. -/
def ligated? (c : Char) : Sequel → Option (Int × Sequel)
  | alef => if isLam c then some (0, other) else if isTransparent c then some (0, alef) else none
  | lamed true => if c.toNat = 0x5d0 then some (0, other) else none
  | ya true => if c.toNat = 0x1a17 then some (0, vowelAndYa) else none
  | vowelAndYa => if c.toNat = 0x1a15 then some (0, other) else none
  | consonant joined =>
    if c.toNat = 0x2d7f then some (1, joinedConsonant)
    else if joined && isConsonant c then some (0, other)
    else none
  | joinedConsonant => if isConsonant c then some (-1, other) else none
  | secondTone => if isFirstTone c then some (0, other) else none
  | orkhonI true => if c.toNat = 0x10c32 then some (0, other) else none
  | coengLetter => if c.toNat = 0x17d2 then some (-1, other) else none
  | vowelE =>
    match c.toNat with
    | 0x16d63 | 0x16d69 => some (0, other)
    | 0x16d67 => some (0, vowelAi)
    | 0x16d68 => some (1, vowelE)
    | _ => none
  | vowelAi => if c.toNat = 0x16d63 then some (0, other) else none
  | _ => none

/-- The columns that a character adds in front of pictures, and what it makes of the text. Each
letter of a region counts one column. A letter that completes a pair in front of a joined picture
takes one back, as the whole flag takes the columns of the picture; one more letter in front of
that pair parts the flag from the picture again. -/
def pictured? (c : Char) : Sequel → Option (Int × Sequel)
  | skinTone => if takesSkinTone c then some (0, picture) else none
  | regionLetter | regionLetters => if isRegionLetter c then some (1, regionLetters) else none
  | joinedPicture =>
    if c = keyFrame then some (0, joinedKey)
    else if isRegionLetter c then some (1, joinedRegionLetter)
    else if isSkinTone c then some (0, skinTone)
    else if c = tagEnd then some (0, tagLetters 0)
    else if isPicture c then some (0, picture)
    else none
  | joinedRegionLetter | joinedOddLetters =>
    if isRegionLetter c then some (-1, joinedEvenLetters) else none
  | joinedEvenLetters => if isRegionLetter c then some (3, joinedOddLetters) else none
  | tagLetters count =>
    if isTagLetter c && count < 6 then some (0, tagLetters (count + 1))
    else if isTagDigit c && count < 5 then some (0, tagDigits 1)
    else if c = blackFlag && 3 ≤ count && count ≤ 6 then some (0, picture)
    else none
  | tagDigits count =>
    if isTagDigit c && count < 3 then some (0, tagDigits (count + 1))
    else if c = blackFlag && count == 3 then some (0, picture)
    else none
  | _ => none

/-- The columns that a character adds, where no selector follows it, and what it makes of the
text. -/
def advance (c : Char) (s : Sequel) : Int × Sequel :=
  match (if c = joiner then s.joined? else none) with
  | some next => (0, next)
  | none =>
    if s.isLigature && s ≠ alef && isSilent c then (0, s)
    else ((s.ligated? c <|> s.pictured? c).getD (charWidth c, start c))

end Sequel

/-- How a text goes on: the sequel, and a selector that may stand in front of it. -/
structure Outlook where
  sequel : Sequel
  selector : Option Selector
deriving DecidableEq, Repr

namespace Outlook

/-- Nothing to look out for. -/
def none : Outlook := ⟨.other, .none⟩

/-- Puts a selector in front. Ligatures are seen through it, and so are joined pictures if it asks
for a picture. -/
def select (o : Outlook) (s : Selector) : Outlook :=
  if o.sequel.isLigature || (s == .picture && o.sequel.isJoinedPicture) then ⟨o.sequel, some s⟩
  else ⟨.other, some s⟩

/-- Forgets a selector that asked for a picture, together with the picture it would have been
joined with. -/
def withoutPicture (o : Outlook) : Outlook :=
  if o.selector ≠ some .picture then o
  else if o.sequel.isLigature then ⟨o.sequel, .none⟩
  else none

end Outlook

/-- Whether a character is a quotation mark that can fill a wide cell. -/
def isQuotationMark (c : Char) : Bool := within [(0x2018, 0x2019), (0x201c, 0x201d)] c

/-- The columns that one more character in front adds to a text, and how the longer text looks
from its front. -/
def advance (c : Char) (o : Outlook) : Int × Outlook :=
  if o.selector = some .picture && hasPictureForm c then
    (if o.sequel.isJoinedPicture then 0 else 2, ⟨.picture, none⟩)
  else
    let o := o.withoutPicture
    if c.toNat ≤ 0xa0 then
      (if c = '\r' && o.sequel == .newline then 0 else 1, ⟨.start c, none⟩)
    else
      match Selector.ofChar? c with
      | some s => (0, o.select s)
      | none =>
        if o.selector = some .plain && hasPlainForm c then (1, .none)
        else if o.selector = some .fullWidth && isQuotationMark c then (2, .none)
        else
          let (columns, sequel) := o.sequel.advance c
          (columns, ⟨sequel, none⟩)

/-- The columns of a text, and how it looks from its front. -/
def measure (text : List Char) : Int × Outlook :=
  text.foldr (fun c (columns, o) => let (more, o) := advance c o; (columns + more, o)) (0, .none)

/-- The columns of a text. -/
def width (text : List Char) : Nat := (measure text).1.toNat

end SensorClient.Text
