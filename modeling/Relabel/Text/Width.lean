import Relabel.Text.WidthTable

/-!
# The width of a text

How many columns a text takes on a terminal. Most characters take one column, some take none or two, and a
few take a number that depends on what stands to the right of them: letters that fuse, emoji that are joined
into one, characters that a selector turns into an emoji or back, quotation marks that a selector widens.

The text is therefore read from its end. `Following` is what a character needs to know about what follows
it: the *shape* of the nearest thing it can fuse with and the *selector* between, if there is one.
`Following.add` puts one character in front and says what it adds to the width. That can be negative, where a
character makes the columns of what follows disappear.

The control characters take a column each; a table that has no other place for them gives them one.
-/

namespace Relabel
namespace Width

/-- What stands to the right of a character, as far as the character can fuse with it. -/
inductive Shape where
  /-- Nothing it could fuse with. -/
  | plain
  | emoji
  | skinTone
  /-- One letter of a flag. -/
  | flagLetter
  /-- Several letters of flags. -/
  | flagLetters
  /-- A joiner before an emoji. -/
  | joined
  /-- The frame of a key before a joined emoji. -/
  | joinedKey
  /-- One letter of a flag before a joined emoji. -/
  | joinedFlagLetter
  /-- An even number of letters of flags before a joined emoji. -/
  | joinedEvenFlagLetters
  /-- An odd number of letters of flags, more than one, before a joined emoji. -/
  | joinedOddFlagLetters
  /-- The end of a tag before a joined emoji, with up to six letters of the tag. -/
  | joinedTagLetters (count : Nat)
  /-- The end of a tag before a joined emoji, with one to three digits of the tag. -/
  | joinedTagDigits (count : Nat)
  | alef
  /-- A Hebrew lamed, behind a joiner or not. -/
  | lamed (behindJoiner : Bool)
  /-- A Khmer letter with a subscript form. -/
  | subscriptLetter
  /-- A Buginese ya, behind a joiner or not. -/
  | ya (behindJoiner : Bool)
  /-- A Buginese vowel sign before a joined ya. -/
  | vowelAndYa
  /-- A Tifinagh consonant, behind a joiner or not. -/
  | tifinagh (behindJoiner : Bool)
  /-- A Tifinagh consonant behind the script's own joiner. -/
  | tifinaghLinked
  /-- A second tone letter of Lisu. -/
  | tone
  /-- An Old Turkic i, behind a joiner or not. -/
  | orkhonI (behindJoiner : Bool)
  /-- A Kirat Rai vowel sign e. -/
  | vowelE
  /-- A Kirat Rai vowel sign ai. -/
  | vowelAi
  deriving DecidableEq, Repr

/-- What a variation selector asks of the character before it. -/
inductive Selector where
  /-- Nothing: there is no selector. -/
  | none
  /-- To be shown as text. -/
  | text
  /-- To be shown as an emoji. -/
  | emoji
  /-- To be shown in two columns, which quotation marks obey. -/
  | wide
  deriving DecidableEq, Repr

namespace Shape

/-- Whether the shape is a letter that fuses with one before it even if a selector stands between. The vowel
signs of Kirat Rai do not. -/
def isLetter : Shape → Bool
  | .alef | .lamed _ | .subscriptLetter | .ya _ | .vowelAndYa | .tifinagh _ | .tifinaghLinked | .tone
  | .orkhonI _ => true
  | _ => false

/-- Whether marks between the letter and one before it are looked through: for all letters but alef,
which has a rule of its own. -/
def seesThroughMarks (shape : Shape) : Bool := shape.isLetter && shape != .alef

/-- Whether an emoji right before the shape is joined to it. -/
def joins : Shape → Bool
  | .joined | .joinedKey => true
  | _ => false

/-- The shape behind a joiner. -/
def behindJoiner : Shape → Shape
  | .lamed _ => .lamed true
  | .ya _ => .ya true
  | .tifinagh _ => .tifinagh true
  | .orkhonI _ => .orkhonI true
  | other => other

end Shape

/-- What follows a character. -/
structure Following where
  /-- The shape it could fuse with. -/
  shape : Shape
  /-- The selector that stands right behind it. -/
  selector : Selector
  deriving DecidableEq, Repr

namespace Following

/-- Nothing that matters follows. -/
def nothing : Following := ⟨.plain, .none⟩

/-- A shape follows, without a selector. -/
def shaped (shape : Shape) : Following := ⟨shape, .none⟩

/-- What follows once the selector has had no effect: a letter stays, an emoji is lost. -/
def dropSelector (following : Following) : Following :=
  if following.shape.isLetter then .shaped following.shape else .nothing

/-- What follows a selector for emoji. -/
def selectEmoji (following : Following) : Following :=
  if following.shape.isLetter || following.shape.joins then ⟨following.shape, .emoji⟩
  else ⟨.plain, .emoji⟩

/-- What follows a selector other than that for emoji. -/
def select (following : Following) (selector : Selector) : Following :=
  if following.shape.isLetter then ⟨following.shape, selector⟩ else ⟨.plain, selector⟩

end Following

/-! ## Single characters -/

/-- The shape of a character. -/
def shapeOf (c : Char) : Shape :=
  if CharSet.flagLetter.contains c then .flagLetter
  else if CharSet.skinTone.contains c then .skinTone
  else if CharSet.emojiShown.contains c then .emoji
  else if CharSet.alef.contains c then .alef
  else if CharSet.subscriptLetter.contains c then .subscriptLetter
  else if CharSet.tifinagh.contains c then .tifinagh false
  else if CharSet.secondTone.contains c then .tone
  else if c = '\u05dc' then .lamed false
  else if c = '\u1a10' then .ya false
  else if c = Char.ofNat 0x10c03 then .orkhonI false
  else if c = Char.ofNat 0x16d67 then .vowelE
  else if c = Char.ofNat 0x16d68 then .vowelAi
  else .plain

/-- The columns of a character by itself. -/
def ofChar (c : Char) : Nat :=
  if c = '\u17d8' then 3
  else if c = '\u17a4' then 2
  else if CharSet.columnless.contains c then 0
  else if CharSet.wide.contains c then 2
  else 1

/-! ## Characters before a shape -/

/-- The zero-width joiner. -/
def joiner : Char := '\u200d'

/-- The selector for text. -/
def textSelector : Char := '\ufe0e'

/-- The selector for emoji. -/
def emojiSelector : Char := '\ufe0f'

/-- The selector for two columns. -/
def wideSelector : Char := '\ufe01'

/-- Whether a joined emoji comes of a joiner before the shape. -/
def Shape.acceptsJoiner : Shape → Bool
  | .emoji | .skinTone | .flagLetters | .joinedEvenFlagLetters | .joinedOddFlagLetters => true
  | _ => false

/-- What a character adds before a shape that it fuses with, and the shape that comes of it. -/
def fuse (c : Char) (shape : Shape) : Option (Int × Shape) :=
  if c = joiner && shape.acceptsJoiner then some (0, .joined)
  else
    match shape with
    | .alef =>
      if CharSet.lam.contains c then some (0, .plain)
      else if ofChar c = 0 && !CharSet.stoppingMark.contains c then some (0, .alef)
      else none
    | .lamed true => if c = '\u05d0' then some (0, .plain) else none
    | .subscriptLetter => if c = '\u17d2' then some (-1, .plain) else none
    | .ya true => if c = '\u1a17' then some (0, .vowelAndYa) else none
    | .vowelAndYa => if c = '\u1a15' then some (0, .plain) else none
    | .tifinagh behindJoiner =>
      if c = '\u2d7f' then some (1, .tifinaghLinked)
      else if behindJoiner && CharSet.tifinagh.contains c then some (0, .plain)
      else none
    | .tifinaghLinked => if CharSet.tifinagh.contains c then some (-1, .plain) else none
    | .tone => if CharSet.firstTone.contains c then some (0, .plain) else none
    | .orkhonI true => if c = Char.ofNat 0x10c32 then some (0, .plain) else none
    | .vowelE =>
      if c = Char.ofNat 0x16d63 || c = Char.ofNat 0x16d69 then some (0, .plain)
      else if c = Char.ofNat 0x16d67 then some (0, .vowelAi)
      else if c = Char.ofNat 0x16d68 then some (1, .vowelE)
      else none
    | .vowelAi => if c = Char.ofNat 0x16d63 then some (0, .plain) else none
    | .skinTone => if CharSet.skinned.contains c then some (0, .emoji) else none
    | .flagLetter | .flagLetters =>
      if CharSet.flagLetter.contains c then some (1, .flagLetters) else none
    | .joined =>
      if c = '\u20e3' then some (0, .joinedKey)
      else if CharSet.flagLetter.contains c then some (1, .joinedFlagLetter)
      else if CharSet.skinTone.contains c then some (0, .skinTone)
      else if c = Char.ofNat 0xe007f then some (0, .joinedTagLetters 0)
      else if CharSet.emojiShown.contains c then some (0, .emoji)
      else none
    | .joinedFlagLetter | .joinedOddFlagLetters =>
      if CharSet.flagLetter.contains c then some (-1, .joinedEvenFlagLetters) else none
    | .joinedEvenFlagLetters =>
      if CharSet.flagLetter.contains c then some (3, .joinedOddFlagLetters) else none
    | .joinedTagLetters count =>
      if CharSet.tagLetter.contains c && count < 6 then some (0, .joinedTagLetters (count + 1))
      else if CharSet.tagDigit.contains c && count < 5 then some (0, .joinedTagDigits 1)
      else if c = Char.ofNat 0x1f3f4 && 3 ≤ count then some (0, .emoji)
      else none
    | .joinedTagDigits count =>
      if CharSet.tagDigit.contains c && count < 3 then some (0, .joinedTagDigits (count + 1))
      else if c = Char.ofNat 0x1f3f4 && count = 3 then some (0, .emoji)
      else none
    | _ => none

/-- What a character adds by itself, and what then follows the character before it. -/
def addAlone (c : Char) : Int × Following :=
  if c = emojiSelector then (0, ⟨.plain, .emoji⟩)
  else if c = textSelector then (0, ⟨.plain, .text⟩)
  else if c = wideSelector then (0, ⟨.plain, .wide⟩)
  else (ofChar c, .shaped (shapeOf c))

/-- What a character beyond ASCII adds before a shape without a selector between. -/
def addBefore (c : Char) (shape : Shape) : Int × Following :=
  if shape.seesThroughMarks && CharSet.transparentMark.contains c then
    (0, .shaped (if c = joiner then shape.behindJoiner else shape))
  else
    match fuse c shape with
    | some (width, fused) => (width, .shaped fused)
    | none => addAlone c

/-- Whether a selector for text makes a character take one column: an emoji that a selector can turn into one
and back. -/
def narrowsAsText (c : Char) : Bool :=
  CharSet.emojiStart.contains c && CharSet.emojiShown.contains c &&
    !CharSet.enclosedIdeograph.contains c

/-- Whether a selector for two columns makes a character take them: a curved quotation mark. -/
def widens (c : Char) : Bool :=
  c = '\u2018' || c = '\u2019' || c = '\u201c' || c = '\u201d'

/-- The columns that a selector other than that for emoji gives to a character, if it obeys. -/
def columnsAs (selector : Selector) (c : Char) : Option Int :=
  match selector with
  | .text => if narrowsAsText c then some 1 else none
  | .wide => if widens c then some 2 else none
  | .none | .emoji => none

/-- What a character adds before what follows it, no selector for emoji standing between. -/
def addUnselected (c : Char) (following : Following) : Int × Following :=
  if c.toNat ≤ 0xa0 then (1, .nothing)
  else if c = emojiSelector then (0, following.selectEmoji)
  else if c = textSelector then (0, following.select .text)
  else if c = wideSelector then (0, following.select .wide)
  else
    match columnsAs following.selector c with
    | some columns => (columns, .nothing)
    | none =>
      let unselected := if following.selector = .none then following else following.dropSelector
      addBefore c unselected.shape

/-- What a character adds before what follows it, and what then follows the character before it. -/
def Following.add (c : Char) (following : Following) : Int × Following :=
  if following.selector = .emoji then
    if CharSet.emojiStart.contains c then
      (if following.shape.joins then 0 else 2, .shaped .emoji)
    else addUnselected c following.dropSelector
  else addUnselected c following

/-- The columns of some characters, and what follows a character before them. -/
def ofChars : List Char → Int × Following
  | [] => (0, .nothing)
  | c :: rest =>
    let (width, following) := ofChars rest
    let (more, next) := following.add c
    (width + more, next)

/-- The columns of a text. -/
def ofText (text : String) : Nat := (ofChars text.toList).1.toNat

end Width
end Relabel
