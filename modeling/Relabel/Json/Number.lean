import Relabel.Text.Ascii

/-!
# Number literals

A number of a document is kept as it was written, not as a value: the sign, the digits before the
point, the digits after it and the exponent are the parts of a `Number`, and `Number.literal` writes
them back in the same order. Nothing is rounded and nothing is out of range. One liberty of the
grammar is not kept: an exponent is always written with a lower-case `e` and a sign.

`Number.scan` reads a literal from the front of some bytes. It stops where the literal stops; a
literal that breaks off says why, what is left unread, and whether the byte that broke it was taken or
merely looked at.
-/

namespace Relabel

/-- A decimal digit. -/
abbrev Digit := Fin 10

namespace Digit

/-- The byte of a digit. -/
def toByte (d : Digit) : UInt8 := (0x30 + d.val).toUInt8

/-- The digit of a digit's byte. -/
def ofByte (b : UInt8) : Digit := Fin.ofNat 10 (b.toNat - 0x30)

/-- The digits at the front of some bytes, and what follows them. -/
def span (bytes : Bytes) : List Digit × Bytes :=
  ((bytes.takeWhile Ascii.isDigit).map ofByte, bytes.dropWhile Ascii.isDigit)

end Digit

/-- The exponent of a number literal. -/
structure Exponent where
  /-- Whether its sign is a minus. -/
  negative : Bool
  /-- Its digits, of which there is at least one in a literal that was read. -/
  digits : List Digit
  deriving DecidableEq, Repr

/-- A number literal. -/
structure Number where
  /-- Whether it starts with a minus. -/
  negative : Bool
  /-- The digits before the point. -/
  integer : List Digit
  /-- The digits after the point; none when there is no point. -/
  fraction : List Digit
  /-- The exponent, if there is one. -/
  exponent : Option Exponent
  deriving DecidableEq, Repr

namespace Number

/-! ## Writing -/

/-- The bytes of the exponent: `e`, a sign, the digits. -/
def exponentLiteral : Option Exponent → Bytes
  | none => []
  | some e =>
    0x65 :: (if e.negative then Ascii.minus else Ascii.plus) :: e.digits.map Digit.toByte

/-- The bytes of the fraction: the point and the digits. -/
def fractionLiteral : List Digit → Bytes
  | [] => []
  | d :: ds => Ascii.dot :: (d :: ds).map Digit.toByte

/-- The bytes of a number literal. -/
def literal (n : Number) : Bytes :=
  (if n.negative then [Ascii.minus] else []) ++ n.integer.map Digit.toByte ++
    fractionLiteral n.fraction ++ exponentLiteral n.exponent

/-- Whether the parts make a literal of the grammar: some digits, no leading zero before another
digit, and digits in an exponent. -/
def wellFormed (n : Number) : Bool :=
  (match n.integer with
    | [] => false
    | d :: ds => d != 0 || ds.isEmpty) &&
  (match n.exponent with
    | none => true
    | some e => !e.digits.isEmpty)

/-- The decimal digits of a natural number, the most significant first. -/
def digitsOf (n : Nat) : List Digit :=
  if n < 10 then [Fin.ofNat 10 n] else digitsOf (n / 10) ++ [Fin.ofNat 10 n]

/-- The literal of a natural number. -/
def ofNat (n : Nat) : Number := ⟨false, digitsOf n, [], none⟩

/-- The natural number that some digits stand for. -/
def valueOf (digits : List Digit) : Nat := digits.foldl (fun n d => n * 10 + d.val) 0

/-! ## Reading -/

/-- Why a literal breaks off. -/
inductive Break where
  /-- The bytes end where a digit must stand. -/
  | ended
  /-- Another byte stands where a digit must stand, or a digit follows a leading zero. -/
  | malformed
  deriving DecidableEq, Repr

/-- A literal that breaks off. -/
structure Stop where
  /-- Why it breaks off. -/
  reason : Break
  /-- What is left unread. -/
  rest : Bytes
  /-- Whether the first byte of `rest` is the one that broke the literal, not yet taken. -/
  looked : Bool
  deriving DecidableEq, Repr

/-- Reads an exponent, if one stands at the front. -/
def scanExponent (bytes : Bytes) : Except Stop (Option Exponent × Bytes) :=
  match bytes with
  | [] => .ok (none, [])
  | b :: rest =>
    if b = 0x65 || b = 0x45 then
      let (negative, rest) :=
        match rest with
        | s :: after =>
          if s = Ascii.minus then (true, after)
          else if s = Ascii.plus then (false, after)
          else (false, s :: after)
        | [] => (false, [])
      match rest with
      | [] => .error ⟨.ended, [], false⟩
      | d :: after =>
        if Ascii.isDigit d then
          let (digits, after) := Digit.span (d :: after)
          .ok (some ⟨negative, digits⟩, after)
        else .error ⟨.malformed, after, false⟩
    else .ok (none, b :: rest)

/-- Reads a fraction, if one stands at the front. -/
def scanFraction (bytes : Bytes) : Except Stop (List Digit × Bytes) :=
  match bytes with
  | [] => .ok ([], [])
  | b :: rest =>
    if b = Ascii.dot then
      match Digit.span rest with
      | ([], []) => .error ⟨.ended, [], false⟩
      | ([], after) => .error ⟨.malformed, after, true⟩
      | (d :: ds, after) => .ok (d :: ds, after)
    else .ok ([], b :: rest)

/-- Reads the digits before the point: a zero that stands alone, or digits that start with another
one. -/
def scanInteger (bytes : Bytes) : Except Stop (List Digit × Bytes) :=
  match bytes with
  | [] => .error ⟨.ended, [], false⟩
  | b :: rest =>
    if b = 0x30 then
      match rest with
      | c :: _ => if Ascii.isDigit c then .error ⟨.malformed, rest, true⟩ else .ok ([0], rest)
      | [] => .ok ([0], [])
    else if Ascii.isDigit b then .ok (Digit.span (b :: rest))
    else .error ⟨.malformed, rest, false⟩

/-- Reads what follows the sign of a literal. -/
def scanUnsigned (negative : Bool) (bytes : Bytes) : Except Stop (Number × Bytes) :=
  match scanInteger bytes with
  | .error stop => .error stop
  | .ok (integer, rest) =>
    match scanFraction rest with
    | .error stop => .error stop
    | .ok (fraction, rest) =>
      match scanExponent rest with
      | .error stop => .error stop
      | .ok (exponent, rest) => .ok (⟨negative, integer, fraction, exponent⟩, rest)

end Number
end Relabel
