import Relabel.Proofs.Json.Grammar

/-!
# The standard grammar

The grammar of JSON as its standard has it, rule by rule, over the bytes of a text in UTF-8: a text is put
together from the texts of its parts, and nothing is decided here about what a reader makes of it. Names that
are repeated stay repeated, every name is a name like any other, and a number may be spelled in each of the ways
the rules allow.

`Standard.Text depth bytes d` says that `bytes` are a text of `d` as it is written, `d` being a document in which
an object is the list of all its members. `depth` is how many arrays and objects may be open at once; the rules
themselves set no limit. Characters are Unicode scalar values, so there are no texts of lone surrogates.

The names of the rules of the standard are given where they differ.
-/

namespace Relabel
namespace Standard

open Grammar (Meaning)

/-- `ws`: spaces, tabs, line feeds and carriage returns. -/
def Blank (bytes : Bytes) : Prop :=
  ∀ b ∈ bytes, b = Ascii.space ∨ b = Ascii.tab ∨ b = Ascii.lineFeed ∨ b = Ascii.carriageReturn

/-! ## Numbers -/

/-- `int`: a zero, or digits that do not start with one. -/
inductive Integer : Bytes → List Digit → Prop
  | zero : Integer [Digit.toByte 0] [0]
  | digits {d : Digit} {ds : List Digit} : d ≠ 0 → Integer ((d :: ds).map Digit.toByte) (d :: ds)

/-- `[ frac ]`: nothing, or a point and some digits. -/
inductive Fraction : Bytes → List Digit → Prop
  | none : Fraction [] []
  | digits {d : Digit} {ds : List Digit} : Fraction (Ascii.dot :: (d :: ds).map Digit.toByte) (d :: ds)

/-- `[ minus / plus ]`: the sign of an exponent, and whether it is a minus. -/
inductive Sign : Bytes → Bool → Prop
  | none : Sign [] false
  | plus : Sign [Ascii.plus] false
  | minus : Sign [Ascii.minus] true

/-- `[ exp ]`: nothing, or the letter in either case, a sign or none, and some digits. -/
inductive Power : Bytes → Option Exponent → Prop
  | none : Power [] none
  | digits {letter : UInt8} {sign : Bytes} {negative : Bool} {d : Digit} {ds : List Digit} :
    letter = Ascii.byte 'e' ∨ letter = Ascii.byte 'E' → Sign sign negative →
    Power (letter :: (sign ++ (d :: ds).map Digit.toByte)) (some ⟨negative, d :: ds⟩)

/-- `number`. -/
inductive Numeral : Bytes → Number → Prop
  | positive {i f e : Bytes} {integer fraction : List Digit} {exponent : Option Exponent} :
    Integer i integer → Fraction f fraction → Power e exponent →
    Numeral (i ++ (f ++ e)) ⟨false, integer, fraction, exponent⟩
  | negative {i f e : Bytes} {integer fraction : List Digit} {exponent : Option Exponent} :
    Integer i integer → Fraction f fraction → Power e exponent →
    Numeral (Ascii.minus :: (i ++ (f ++ e))) ⟨true, integer, fraction, exponent⟩

/-! ## Strings -/

/-- The character that a letter behind a backslash stands for. -/
def letterEscape? (b : UInt8) : Option Char :=
  if b = Ascii.quote then some '\x22'
  else if b = Ascii.backslash then some '\\'
  else if b = Ascii.slash then some '/'
  else if b = Ascii.byte 'b' then some '\x08'
  else if b = Ascii.byte 'f' then some '\x0c'
  else if b = Ascii.byte 'n' then some '\n'
  else if b = Ascii.byte 'r' then some '\r'
  else if b = Ascii.byte 't' then some '\t'
  else none

/-- `4HEXDIG`: four hexadecimal digits, the one of highest value first, and the code unit they make. -/
inductive CodeUnit : Bytes → Nat → Prop
  | mk {a b c d : UInt8} {i j k l : Nat} :
    Ascii.hexValue? a = some i → Ascii.hexValue? b = some j → Ascii.hexValue? c = some k →
    Ascii.hexValue? d = some l → CodeUnit [a, b, c, d] (4096 * i + 256 * j + 16 * k + l)

/-- `char`: the text of a character inside a string. -/
inductive Character : Bytes → Char → Prop
  /-- The character itself, if it is no control character, quotation mark or backslash. -/
  | plain {c : Char} : 0x20 ≤ c.toNat → c ≠ '\x22' → c ≠ '\\' → Character (Utf8.encodeChar c) c
  | letter {b : UInt8} {c : Char} : letterEscape? b = some c → Character [Ascii.backslash, b] c
  /-- An escape with the code of a character. -/
  | unit {digits : Bytes} {code : Nat} :
    CodeUnit digits code → code < 0xd800 ∨ 0xdfff < code →
    Character (Ascii.backslash :: Ascii.byte 'u' :: digits) (Char.ofNat code)
  /-- Two escapes with the surrogates of a character. -/
  | pair {digits digits' : Bytes} {high low : Nat} :
    CodeUnit digits (0xd800 + high) → high < 0x400 → CodeUnit digits' (0xdc00 + low) → low < 0x400 →
    Character
      (Ascii.backslash :: Ascii.byte 'u' :: (digits ++ Ascii.backslash :: Ascii.byte 'u' :: digits'))
      (Char.ofNat (0x10000 + 0x400 * high + low))

/-- `*char`: the texts of characters one after another. -/
inductive Characters : Bytes → List Char → Prop
  | nil : Characters [] []
  | cons {piece more : Bytes} {c : Char} {cs : List Char} :
    Character piece c → Characters more cs → Characters (piece ++ more) (c :: cs)

/-- `string`: characters between quotation marks. -/
inductive Quoted : Bytes → String → Prop
  | mk {inner : Bytes} {text : String} :
    Characters inner text.toList → Quoted (Ascii.quote :: (inner ++ [Ascii.quote])) text

/-- `string name-separator`: a member's name and the colon. -/
inductive Lead : Bytes → String → Prop
  | mk {quoted before after : Bytes} {name : String} :
    Quoted quoted name → Blank before → Blank after →
    Lead (quoted ++ (before ++ Ascii.colon :: after)) name

/-! ## Values -/

/-- `Stretch depth bytes p`: `bytes` are a text of `p`, a value or what follows the first item of an array or the
first member of an object, which opens at most `depth` arrays and objects at once. -/
inductive Stretch : Nat → Bytes → Meaning → Prop
  | null {depth : Nat} : Stretch depth (Ascii.bytes "null") (.value .null)
  | yes {depth : Nat} : Stretch depth (Ascii.bytes "true") (.value (.bool true))
  | no {depth : Nat} : Stretch depth (Ascii.bytes "false") (.value (.bool false))
  | number {depth : Nat} {bytes : Bytes} {n : Number} :
    Numeral bytes n → Stretch depth bytes (.value (.number n))
  | string {depth : Nat} {bytes : Bytes} {s : String} :
    Quoted bytes s → Stretch depth bytes (.value (.string s))
  | emptyArray {depth : Nat} {gap : Bytes} :
    Blank gap → Stretch (depth + 1) (Ascii.openBracket :: (gap ++ [Ascii.closeBracket])) (.value (.array []))
  | array {depth : Nat} {gap first others : Bytes} {item : Document} {more : List Document} :
    Blank gap → Stretch depth first (.value item) → Stretch depth others (.moreItems more) →
    Stretch (depth + 1) (Ascii.openBracket :: (gap ++ (first ++ others))) (.value (.array (item :: more)))
  | emptyObject {depth : Nat} {gap : Bytes} :
    Blank gap → Stretch (depth + 1) (Ascii.openBrace :: (gap ++ [Ascii.closeBrace])) (.value (.object []))
  | object {depth : Nat} {gap lead first others : Bytes} {name : String} {item : Document} {more : Members} :
    Blank gap → Lead lead name → Stretch depth first (.value item) →
    Stretch depth others (.moreMembers more) →
    Stretch (depth + 1) (Ascii.openBrace :: (gap ++ (lead ++ (first ++ others))))
      (.value (.object ((name, item) :: more)))
  | itemsEnd {depth : Nat} {gap : Bytes} :
    Blank gap → Stretch depth (gap ++ [Ascii.closeBracket]) (.moreItems [])
  | nextItem {depth : Nat} {before after first others : Bytes} {item : Document} {more : List Document} :
    Blank before → Blank after → Stretch depth first (.value item) →
    Stretch depth others (.moreItems more) →
    Stretch depth (before ++ Ascii.comma :: (after ++ (first ++ others))) (.moreItems (item :: more))
  | membersEnd {depth : Nat} {gap : Bytes} :
    Blank gap → Stretch depth (gap ++ [Ascii.closeBrace]) (.moreMembers [])
  | nextMember {depth : Nat} {before after lead first others : Bytes} {name : String} {item : Document}
      {more : Members} :
    Blank before → Blank after → Lead lead name → Stretch depth first (.value item) →
    Stretch depth others (.moreMembers more) →
    Stretch depth (before ++ Ascii.comma :: (after ++ (lead ++ (first ++ others))))
      (.moreMembers ((name, item) :: more))

/-- `JSON-text`: a value with white space around it. -/
inductive Text : Nat → Bytes → Document → Prop
  | mk {depth : Nat} {before body after : Bytes} {d : Document} :
    Blank before → Stretch depth body (.value d) → Blank after → Text depth (before ++ (body ++ after)) d

end Standard
end Relabel
