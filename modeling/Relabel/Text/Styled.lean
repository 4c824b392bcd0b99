/-!
# Styled texts

Text for a terminal: spans, each with a style. `Styled.shown` writes the spans one after the other, with the
escape sequences of their styles where colours are wanted and without any where they are not.
-/

namespace Relabel

/-- The look of a span. -/
inductive Style where
  /-- Nothing special. -/
  | plain
  | red
  | green
  | yellow
  | bold
  | boldRed
  /-- Bold and underlined. -/
  | heading
  deriving DecidableEq, Repr

/-- The numbers of the escape sequences that switch a style on. -/
def Style.codes : Style → List Nat
  | .plain => []
  | .red => [31]
  | .green => [32]
  | .yellow => [33]
  | .bold => [1]
  | .boldRed => [1, 31]
  | .heading => [1, 4]

/-- The escape sequence with a number. -/
def escapeSequence (code : Nat) : String := "\x1b[" ++ toString code ++ "m"

/-- A run of text with one style. -/
structure Span where
  /-- The look of the text. -/
  style : Style
  text : String
  deriving DecidableEq, Repr

/-- A span of plain text. -/
def Span.plain (text : String) : Span := ⟨.plain, text⟩

/-- A span as it is written, with colours or without. -/
def Span.shown (colour : Bool) (span : Span) : String :=
  match colour, span.style.codes with
  | false, _ => span.text
  | true, [] => span.text
  | true, codes => String.join (codes.map escapeSequence) ++ span.text ++ escapeSequence 0

/-- Text in spans. -/
abbrev Styled := List Span

namespace Styled

/-- A styled text as it is written, with colours or without. -/
def shown (colour : Bool) (styled : Styled) : String :=
  String.join (styled.map (Span.shown colour))

/-- The text without the styles. -/
def text (styled : Styled) : String := styled.shown false

end Styled
end Relabel
