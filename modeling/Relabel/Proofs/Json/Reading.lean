import Relabel.Proofs.Json.Grammar

/-!
# The reader reads the grammar

Reading succeeds exactly where the grammar has a phrase, and gives what the phrase stands for. Each reading
function has one statement of that kind, from the four digits of an escape up to `read_ok_iff`; none of them
depends on the text in which faults are placed.

The budgets disappear here. From reading to grammar they do not matter: a reading that succeeds has not run
out (`phrase_of_value`, by induction on the budget). From grammar to reading the induction is on the phrase,
and a budget of two steps a byte is enough because every phrase takes a byte (`length_lt_of_phrase`).
-/

namespace Relabel
namespace Reader

open Grammar

variable {text bytes rest : Bytes}

/-! ## Words -/

/-- A word is read exactly where it stands. -/
theorem word_ok_iff {w : Bytes} : word text w bytes = .ok rest ↔ bytes = w ++ rest := by
  induction w generalizing bytes with
  | nil => simp only [word, Except.ok.injEq, List.nil_append]
  | cons c w ih =>
    cases bytes with
    | nil => simp only [word, reduceCtorEq, List.cons_append, List.nil_eq]
    | cons b tail =>
      by_cases hb : b = c
      · simp only [word, hb, ↓reduceIte, ih, List.cons_append, List.cons.injEq, true_and]
      · simp only [word, hb, ↓reduceIte, reduceCtorEq, List.cons_append, List.cons.injEq, false_and]

/-- A word is read as what it stands for. -/
theorem wordFor_ok_iff {α : Type} {a x : α} {w : Bytes} :
    wordFor a text w bytes = .ok (x, rest) ↔ x = a ∧ bytes = w ++ rest := by
  unfold wordFor
  cases h : word text w bytes with
  | error fault =>
    simp only [reduceCtorEq, false_iff, not_and]
    intro _ hw
    rw [word_ok_iff.mpr hw] at h
    cases h
  | ok after =>
    rw [word_ok_iff] at h
    subst h
    simp only [Except.ok.injEq, Prod.mk.injEq, List.append_cancel_left_eq]
    exact and_congr_left' eq_comm

/-! ## Strings -/

/-- Four hexadecimal digits are read as their code unit. -/
theorem hexUnit_ok_iff {unit : Nat} :
    hexUnit text bytes = .ok (unit, rest) ↔
      ∃ a b c d, bytes = a :: b :: c :: d :: rest ∧ hexUnit? a b c d = some unit := by
  unfold hexUnit
  split
  · next a b c d tail =>
    cases h : hexUnit? a b c d with
    | none =>
      simp only [reduceCtorEq, false_iff]
      rintro ⟨_, _, _, _, ⟨⟩, h'⟩
      rw [h] at h'
      cases h'
    | some u =>
      simp only [Except.ok.injEq, Prod.mk.injEq]
      constructor
      · rintro ⟨rfl, rfl⟩
        exact ⟨a, b, c, d, rfl, h⟩
      · rintro ⟨_, _, _, _, ⟨⟩, h'⟩
        rw [h] at h'
        exact ⟨Option.some.inj h', rfl⟩
  · next short =>
    simp only [reduceCtorEq, false_iff]
    rintro ⟨a, b, c, d, rfl, _⟩
    exact short a b c d rest rfl

/-- A byte that must follow a high surrogate is read exactly where it stands. -/
theorem afterHigh_ok_iff {b : UInt8} : afterHigh text b bytes = .ok rest ↔ bytes = b :: rest := by
  cases bytes with
  | nil => simp only [afterHigh, reduceCtorEq]
  | cons c tail =>
    by_cases hc : c = b
    · simp only [afterHigh, hc, ↓reduceIte, Except.ok.injEq, List.cons.injEq, true_and]
    · simp only [afterHigh, hc, ↓reduceIte, reduceCtorEq, List.cons.injEq, false_and]

/-- What an escape is read as behind its letter `u` is what it stands for. -/
theorem escaped_of_unicodeEscape {meaning : Bytes}
    (h : unicodeEscape text bytes = .ok (meaning, rest)) :
    Escaped (Ascii.byte 'u' :: bytes) meaning rest := by
  unfold unicodeEscape at h
  split at h
  · cases h
  next unit afterUnit hu =>
    obtain ⟨a, b, c, d, rfl, hunit⟩ := hexUnit_ok_iff.mp hu
    split at h
    · cases h
    next notLow =>
      split at h
      · next notHigh =>
        cases h
        exact .unit hunit (Bool.eq_false_iff.mpr notLow) (by simpa using notHigh)
      next isHigh =>
        split at h
        · cases h
        next afterBackslash hb =>
          obtain rfl := afterHigh_ok_iff.mp hb
          split at h
          · cases h
          next afterLetter hl =>
            obtain rfl := afterHigh_ok_iff.mp hl
            split at h
            · cases h
            next low afterLow hlow =>
              obtain ⟨a', b', c', d', rfl, hlow'⟩ := hexUnit_ok_iff.mp hlow
              split at h
              · next isLow =>
                obtain ⟨rfl, rfl⟩ := Prod.mk.inj (Except.ok.inj h)
                have high : isHighSurrogate unit = true := by simpa using isHigh
                exact .pair hunit high hlow' isLow
              · cases h

/-- The letter `u` is no escape by itself. -/
theorem plainEscape?_u : plainEscape? (Ascii.byte 'u') = none := rfl

/-- **An escape is read exactly where the grammar has one**, as what it stands for. An escape of a high surrogate
takes that of a low one with it, and one of a low surrogate alone is none; the other letters each stand for one byte.
-/
theorem escape_ok_iff {meaning : Bytes} :
    escape text bytes = .ok (meaning, rest) ↔ Escaped bytes meaning rest := by
  constructor
  · intro h
    cases bytes with
    | nil => cases h
    | cons b tail =>
      simp only [escape] at h
      split at h
      · next plain hp =>
        cases h
        exact .letter hp
      · split at h
        · next hb =>
          subst hb
          exact escaped_of_unicodeEscape h
        · cases h
  · intro h
    cases h with
    | letter hp => simp only [escape, hp]
    | unit hu low high =>
      simp only [escape, plainEscape?_u, ↓reduceIte, unicodeEscape, hexUnit, hu, low, high,
        Bool.false_eq_true, Bool.not_false]
    | @pair a b c d a' b' c' d' unit lowUnit _ hu high hl low =>
      -- The reader asks for a low surrogate first, and a high one is none.
      have notLow : isLowSurrogate unit = false := by
        simp only [isHighSurrogate, isLowSurrogate, Bool.and_eq_true, decide_eq_true_eq,
          Bool.and_eq_false_iff, decide_eq_false_iff_not] at high ⊢
        omega
      simp only [escape, plainEscape?_u, ↓reduceIte, unicodeEscape, hexUnit, hu, high, notLow,
        Bool.false_eq_true, Bool.not_true, afterHigh, hl, low]

/-- A string that is read stands there. The induction is on the budget, of which one byte is spent on each byte or
escape that is read; what these stood for is carried along from behind. -/
theorem body_of_stringBytes {budget read meaning : Bytes}
    (h : stringBytes text budget read bytes = .ok (meaning, rest)) :
    ∃ more, meaning = read.reverse ++ more ∧ StringBody bytes more rest := by
  induction budget generalizing read bytes with
  | nil => cases bytes <;> cases h
  | cons x budget ih =>
    cases bytes with
    | nil => cases h
    | cons b tail =>
      simp only [stringBytes] at h
      split at h
      · next hb =>
        cases h
        subst hb
        exact ⟨[], (List.append_nil _).symm, .close⟩
      next notQuote =>
        split at h
        · next hb =>
          subst hb
          split at h
          · cases h
          next escaped after he =>
            obtain ⟨more, rfl, body⟩ := ih h
            refine ⟨escaped ++ more, ?_, .escape (escape_ok_iff.mp he) body⟩
            simp only [List.reverse_append, List.reverse_reverse, List.append_assoc]
        next notBackslash =>
          split at h
          · cases h
          next notControl =>
            obtain ⟨more, rfl, body⟩ := ih h
            refine ⟨b :: more, ?_, .plain notQuote notBackslash notControl body⟩
            simp only [List.reverse_cons, List.append_assoc, List.cons_append, List.nil_append]

/-- A string that stands there is read, if the budget has a byte for each of its bytes. -/
theorem stringBytes_of_body {budget read meaning : Bytes} (h : StringBody bytes meaning rest)
    (enough : bytes.length ≤ budget.length) :
    stringBytes text budget read bytes = .ok (read.reverse ++ meaning, rest) := by
  -- An escape takes several bytes and costs one, so the budget only grows richer.
  induction h generalizing budget read with
  | close =>
    cases budget with
    | nil => simp at enough
    | cons x budget => simp only [stringBytes, ↓reduceIte, List.append_nil]
  | escape he _ ih =>
    cases budget with
    | nil => simp at enough
    | cons x budget =>
      have shorter := length_lt_of_escaped he
      simp only [List.length_cons] at enough
      have hne : ¬ Ascii.backslash = Ascii.quote := by decide
      simp only [stringBytes, if_neg hne, ↓reduceIte, escape_ok_iff.mpr he]
      rw [ih (by omega), List.reverse_append, List.reverse_reverse, List.append_assoc]
  | plain notQuote notBackslash notControl _ ih =>
    cases budget with
    | nil => simp at enough
    | cons x budget =>
      simp only [List.length_cons] at enough
      simp only [stringBytes, if_neg notQuote, if_neg notBackslash, if_neg notControl]
      rw [ih (by omega), List.reverse_cons, List.append_assoc]
      rfl

/-- **A string is read exactly where the grammar has one.** The budget is the text itself, and so it is enough for any
string in it. -/
theorem string_ok_iff {s : String} : string text bytes = .ok (s, rest) ↔ Text bytes s rest := by
  constructor
  · intro h
    unfold string at h
    split at h
    · cases h
    next meaning after hb =>
      obtain ⟨more, rfl, body⟩ := body_of_stringBytes hb
      split at h
      · next s' hs =>
        cases h
        exact ⟨_, body, hs⟩
      · cases h
  · rintro ⟨meaning, body, hs⟩
    have hb : stringBytes text bytes [] bytes = .ok (meaning, rest) :=
      stringBytes_of_body body (Nat.le_refl _)
    simp only [string, hb, hs]

/-! ## What a byte starts -/

/-- Whether a byte may start something. -/
def Start.By (b : UInt8) : Start → Prop
  | .null => b = Ascii.byte 'n'
  | .yes => b = Ascii.byte 't'
  | .no => b = Ascii.byte 'f'
  | .minus => b = Ascii.minus
  | .digit => Ascii.isDigit b = true
  | .string => b = Ascii.quote
  | .array => b = Ascii.openBracket
  | .object => b = Ascii.openBrace
  | .none => True

/-- A byte starts only what it may start. -/
theorem start_of_by (b : UInt8) : (Start.of b).By b := by
  unfold Start.of
  repeat' split
  all_goals first | assumption | trivial

/-- A digit starts a number without a sign. -/
theorem start_of_digit {b : UInt8} (h : Ascii.isDigit b = true) : Start.of b = .digit := by
  have ne : ∀ c : UInt8, Ascii.isDigit c = false → b ≠ c := by
    rintro _ hc rfl
    rw [h] at hc
    cases hc
  simp only [Start.of, ne (Ascii.byte 'n') rfl, ne (Ascii.byte 't') rfl, ne (Ascii.byte 'f') rfl,
    ne Ascii.minus rfl, h, ↓reduceIte]

/-- A number is read exactly where its literal is scanned. -/
theorem number_ok_iff {negative : Bool} {n : Number} :
    number text negative bytes = .ok (n, rest) ↔ Number.scanUnsigned negative bytes = .ok (n, rest) := by
  unfold number
  split
  · next h => simp only [h, reduceCtorEq]
  · next h => simp only [h, Except.ok.injEq]

/-! ## The written form of a number -/

/-- A colon is read exactly where it stands. -/
theorem colon_ok_iff : colon text bytes = .ok rest ↔ skipBlank bytes = Ascii.colon :: rest := by
  unfold colon
  split
  · next h => simp only [h, reduceCtorEq]
  · next b tail h =>
    by_cases hb : b = Ascii.colon
    · simp only [h, hb, ↓reduceIte, Except.ok.injEq, List.cons.injEq, true_and]
    · simp only [h, hb, ↓reduceIte, reduceCtorEq, List.cons.injEq, false_and]

/-- The end of the written form of a number is read exactly where a closing bracket stands. -/
theorem markedEnd_ok_iff :
    markedEnd text bytes = .ok rest ↔ skipBlank bytes = Ascii.closeBrace :: rest := by
  unfold markedEnd
  split
  · next h => simp only [h, reduceCtorEq]
  · next b tail h =>
    by_cases hb : b = Ascii.closeBrace
    · simp only [h, hb, ↓reduceIte, Except.ok.injEq, List.cons.injEq, true_and]
    · simp only [h, hb, ↓reduceIte, List.cons.injEq, false_and, iff_false]
      split <;> exact nofun

/-- The value under `numberMark` is read exactly where a string stands that holds a number. -/
theorem markedNumber_ok_iff {n : Number} :
    markedNumber text bytes = .ok (n, rest) ↔
      ∃ tail s, skipBlank bytes = Ascii.quote :: tail ∧ Text tail s rest ∧
        numberText (Utf8.encode s) = .ok n := by
  constructor
  · intro h
    unfold markedNumber at h
    split at h
    · cases h
    next b tail hb =>
      have starts := start_of_by b
      split at h
      · next hs =>
        rw [hs] at starts
        split at h
        · cases h
        next s after hstring =>
          split at h
          · cases h
          next m hm =>
            cases h
            exact ⟨tail, s, (show b = Ascii.quote from starts) ▸ hb, string_ok_iff.mp hstring, hm⟩
      all_goals cases h
  · rintro ⟨tail, s, hb, hs, hn⟩
    have starts : Start.of Ascii.quote = .string := rfl
    simp only [markedNumber, hb, starts, string_ok_iff.mpr hs, hn]

/-- **The written form of a number is read exactly where the grammar has one.** Behind the mark there is one value, a
string that holds a number, and nothing but the closing bracket may follow it. -/
theorem marked_ok_iff {d : Document} :
    marked text bytes = .ok (d, rest) ↔ ∃ n, d = .number n ∧ Marked bytes n rest := by
  constructor
  · intro h
    unfold marked at h
    split at h
    · cases h
    next afterColon hc =>
      split at h
      · cases h
      next n afterText hn =>
        split at h
        · cases h
        next he =>
          cases h
          obtain ⟨tail, s, hq, hs, hn⟩ := markedNumber_ok_iff.mp hn
          exact ⟨n, rfl, .mk (colon_ok_iff.mp hc) hq hs hn (markedEnd_ok_iff.mp he)⟩
  · rintro ⟨n, rfl, ⟨hc, hq, hs, hn, he⟩⟩
    have hvalue : markedNumber text _ = .ok (n, _) := markedNumber_ok_iff.mpr ⟨_, _, hq, hs, hn⟩
    simp only [marked, colon_ok_iff.mpr hc, hvalue, markedEnd_ok_iff.mpr he]

/-- The name after a comma is read exactly where a string stands. -/
theorem nextName_ok_iff {s : String} :
    nextName text bytes = .ok (s, rest) ↔
      ∃ tail, skipBlank bytes = Ascii.quote :: tail ∧ Text tail s rest := by
  unfold nextName
  split
  · next h => simp only [h, reduceCtorEq, false_and, exists_false]
  · next b tail h =>
    by_cases hb : b = Ascii.quote
    · simp only [h, hb, ↓reduceIte, string_ok_iff, List.cons.injEq, true_and, exists_eq_left']
    · simp only [h, hb, ↓reduceIte, List.cons.injEq, false_and, exists_false, iff_false]
      split <;> exact nofun

/-! ## Values that are read -/

mutual

/-- **A value that is read stands there.** The induction is on the steps, for the five parts of the reader at once; a
part that has run out of steps has read nothing, so that there is nothing to show of it. -/
theorem phrase_of_value : ∀ (steps : Nat) {depth : Nat} {bytes rest : Bytes} {d : Document},
    value text steps depth bytes = .ok (d, rest) → Phrase depth bytes (.value d) rest
  | 0, _, _, _, _, h => by simp only [value, reduceCtorEq] at h
  | steps + 1, depth, bytes, rest, d, h => by
    simp only [value] at h
    split at h
    · cases h
    next b tail hb =>
      have starts := start_of_by b
      split at h
      · next hs =>
        rw [hs] at starts
        obtain ⟨rfl, rfl⟩ := wordFor_ok_iff.mp h
        exact .null (starts ▸ hb)
      · next hs =>
        rw [hs] at starts
        obtain ⟨rfl, rfl⟩ := wordFor_ok_iff.mp h
        exact .yes (starts ▸ hb)
      · next hs =>
        rw [hs] at starts
        obtain ⟨rfl, rfl⟩ := wordFor_ok_iff.mp h
        exact .no (starts ▸ hb)
      · next hs =>
        rw [hs] at starts
        split at h
        · cases h
        next n after hn =>
          cases h
          exact .negative ((show b = Ascii.minus from starts) ▸ hb) (number_ok_iff.mp hn)
      · next hs =>
        rw [hs] at starts
        split at h
        · cases h
        next n after hn =>
          cases h
          exact .positive hb starts (number_ok_iff.mp hn)
      · next hs =>
        rw [hs] at starts
        split at h
        · cases h
        next s after hstring =>
          cases h
          exact .string ((show b = Ascii.quote from starts) ▸ hb) (string_ok_iff.mp hstring)
      · next hs =>
        rw [hs] at starts
        split at h
        · cases h
        next depth =>
          exact phrase_of_array steps h ((show b = Ascii.openBracket from starts) ▸ hb)
      · next hs =>
        rw [hs] at starts
        split at h
        · cases h
        next depth =>
          exact phrase_of_object steps h ((show b = Ascii.openBrace from starts) ▸ hb)
      · cases h

/-- An array that is read stands there. -/
theorem phrase_of_array : ∀ (steps : Nat) {depth : Nat} {bytes tail rest : Bytes} {d : Document},
    array text steps depth tail = .ok (d, rest) → skipBlank bytes = Ascii.openBracket :: tail →
    Phrase (depth + 1) bytes (.value d) rest
  | 0, _, _, _, _, _, h, _ => by simp only [array, reduceCtorEq] at h
  | steps + 1, depth, bytes, tail, rest, d, h, hbytes => by
    simp only [array] at h
    split at h
    · cases h
    next b after hb =>
      split at h
      · next hclose =>
        cases h
        exact .emptyArray hbytes (hclose ▸ hb)
      · split at h
        · cases h
        next item afterItem hitem =>
          obtain ⟨more, rfl, hmore⟩ := phrase_of_items steps h
          exact .array hbytes ((phrase_of_value steps hitem).of_skipBlank hb) hmore

/-- The items that are read behind an item stand there. -/
theorem phrase_of_items : ∀ (steps : Nat) {depth : Nat} {read : List Document} {bytes rest : Bytes}
    {d : Document}, items text steps depth read bytes = .ok (d, rest) →
    ∃ more, d = .array (read.reverse ++ more) ∧ Phrase depth bytes (.moreItems more) rest
  | 0, _, _, _, _, _, h => by simp only [items, reduceCtorEq] at h
  | steps + 1, depth, read, bytes, rest, d, h => by
    simp only [items] at h
    split at h
    · cases h
    next b tail hb =>
      split at h
      · next hclose =>
        cases h
        exact ⟨[], by rw [List.append_nil], .itemsEnd (hclose ▸ hb)⟩
      split at h
      · next hcomma =>
        split at h
        · cases h
        next c after hc =>
          split at h
          · cases h
          split at h
          · cases h
          next item afterItem hitem =>
            obtain ⟨more, rfl, hmore⟩ := phrase_of_items steps h
            refine ⟨item :: more, ?_, .nextItem (hcomma ▸ hb)
              ((phrase_of_value steps hitem).of_skipBlank hc) hmore⟩
            rw [List.reverse_cons, List.append_assoc]
            rfl
      · cases h

/-- An object that is read stands there. -/
theorem phrase_of_object : ∀ (steps : Nat) {depth : Nat} {bytes tail rest : Bytes} {d : Document},
    object text steps depth tail = .ok (d, rest) → skipBlank bytes = Ascii.openBrace :: tail →
    Phrase (depth + 1) bytes (.value d) rest
  | 0, _, _, _, _, _, h, _ => by simp only [object, reduceCtorEq] at h
  | steps + 1, depth, bytes, tail, rest, d, h, hbytes => by
    simp only [object] at h
    split at h
    · cases h
    next b after hb =>
      split at h
      · next hclose =>
        cases h
        exact .emptyObject hbytes (hclose ▸ hb)
      split at h
      · next hquote =>
        split at h
        · cases h
        next name afterName hname =>
          have hname := string_ok_iff.mp hname
          -- The name decides between a number and an object before anything behind it is read.
          split at h
          · next hmark =>
            obtain ⟨n, rfl, hn⟩ := marked_ok_iff.mp h
            exact .marked hbytes (hquote ▸ hb) (hmark ▸ hname) hn
          next unmarked =>
            split at h
            · cases h
            next afterColon hcolon =>
              split at h
              · cases h
              next item afterItem hitem =>
                obtain ⟨more, rfl, hmore⟩ := phrase_of_members steps h
                exact .object hbytes (hquote ▸ hb) hname unmarked (colon_ok_iff.mp hcolon)
                  (phrase_of_value steps hitem) hmore
      · cases h

/-- The members that are read behind a member stand there. -/
theorem phrase_of_members : ∀ (steps : Nat) {depth : Nat} {read : Members} {bytes rest : Bytes}
    {d : Document}, members text steps depth read bytes = .ok (d, rest) →
    ∃ more, d = .object (read.insertAll more) ∧ Phrase depth bytes (.moreMembers more) rest
  | 0, _, _, _, _, _, h => by simp only [members, reduceCtorEq] at h
  | steps + 1, depth, read, bytes, rest, d, h => by
    simp only [members] at h
    split at h
    · cases h
    next b tail hb =>
      split at h
      · next hclose =>
        cases h
        exact ⟨[], rfl, .membersEnd (hclose ▸ hb)⟩
      split at h
      · next hcomma =>
        split at h
        · cases h
        next name afterName hname =>
          obtain ⟨afterQuote, hquote, hname⟩ := nextName_ok_iff.mp hname
          split at h
          · cases h
          next afterColon hcolon =>
            split at h
            · cases h
            next item afterItem hitem =>
              obtain ⟨more, rfl, hmore⟩ := phrase_of_members steps h
              exact ⟨(name, item) :: more, rfl, .nextMember (hcomma ▸ hb) hquote hname
                (colon_ok_iff.mp hcolon) (phrase_of_value steps hitem) hmore⟩
      · cases h

end

/-! ## Phrases are read -/

/-- A phrase is read as what it stands for, given two steps a byte. -/
def Read (text : Bytes) (depth : Nat) (bytes : Bytes) (p : Meaning) (rest : Bytes) : Prop :=
  match p with
  | .value d => ∀ steps, 2 * bytes.length ≤ steps → value text steps depth bytes = .ok (d, rest)
  | .moreItems more => ∀ steps read, 2 * bytes.length ≤ steps →
    items text steps depth read bytes = .ok (.array (read.reverse ++ more), rest)
  | .moreMembers more => ∀ steps read, 2 * bytes.length ≤ steps →
    members text steps depth read bytes = .ok (.object (read.insertAll more), rest)

/-- What stands before a byte is paid for. -/
theorem exists_step {steps : Nat} {b : UInt8} {tail : Bytes} (hb : skipBlank bytes = b :: tail)
    (enough : 2 * bytes.length ≤ steps) : ∃ k, steps = k + 1 ∧ 2 * tail.length + 1 ≤ k := by
  have := length_skipBlank hb
  exact ⟨steps - 1, by omega, by omega⟩

/-- White space in front of a value is skipped by the reader, if it has a step to do so. -/
theorem value_skipBlank {steps depth : Nat} {b : UInt8} {tail : Bytes}
    (hb : skipBlank bytes = b :: tail) (paid : 0 < steps) :
    value text steps depth (b :: tail) = value text steps depth bytes := by
  obtain ⟨k, rfl⟩ := Nat.exists_eq_add_one_of_ne_zero (Nat.pos_iff_ne_zero.mp paid)
  simp only [value, hb, skipBlank_of_eq hb]

/-- **A phrase is read as what it stands for.** The induction is on the phrase. Of two calls in a row at least one
takes a byte, so that two steps for each byte are enough for the reader to get to the end. -/
theorem read_of_phrase {depth : Nat} {p : Meaning} (h : Phrase depth bytes p rest) :
    Read text depth bytes p rest := by
  induction h with
  | null hb =>
    intro steps enough
    obtain ⟨k, rfl, _⟩ := exists_step hb enough
    have starts : Start.of (Ascii.byte 'n') = .null := rfl
    simp only [value, hb, starts, wordFor_ok_iff, true_and]
  | yes hb =>
    intro steps enough
    obtain ⟨k, rfl, _⟩ := exists_step hb enough
    have starts : Start.of (Ascii.byte 't') = .yes := rfl
    simp only [value, hb, starts, wordFor_ok_iff, true_and]
  | no hb =>
    intro steps enough
    obtain ⟨k, rfl, _⟩ := exists_step hb enough
    have starts : Start.of (Ascii.byte 'f') = .no := rfl
    simp only [value, hb, starts, wordFor_ok_iff, true_and]
  | negative hb hn =>
    intro steps enough
    obtain ⟨k, rfl, _⟩ := exists_step hb enough
    have starts : Start.of Ascii.minus = .minus := rfl
    simp only [value, hb, starts, number_ok_iff.mpr hn]
  | positive hb hd hn =>
    intro steps enough
    obtain ⟨k, rfl, _⟩ := exists_step hb enough
    simp only [value, hb, start_of_digit hd, number_ok_iff.mpr hn]
  | string hb hs =>
    intro steps enough
    obtain ⟨k, rfl, _⟩ := exists_step hb enough
    have starts : Start.of Ascii.quote = .string := rfl
    simp only [value, hb, starts, string_ok_iff.mpr hs]
  | emptyArray hb he =>
    intro steps enough
    obtain ⟨k, rfl, paid⟩ := exists_step hb enough
    obtain ⟨k, rfl⟩ := Nat.exists_eq_add_one_of_ne_zero (show k ≠ 0 by omega)
    have starts : Start.of Ascii.openBracket = .array := rfl
    simp only [value, hb, starts, array, he, ↓reduceIte]
  | @array _ _ _ _ _ first _ hb hitem hmore item more =>
    intro steps enough
    obtain ⟨k, rfl, paid⟩ := exists_step hb enough
    obtain ⟨k, rfl⟩ := Nat.exists_eq_add_one_of_ne_zero (show k ≠ 0 by omega)
    obtain ⟨b, r, hr, notClose, -⟩ := exists_of_value hitem
    have starts : Start.of Ascii.openBracket = .array := rfl
    have hvalue := item k (by omega)
    -- The array has skipped the white space to see that it is not empty; the item starts behind it.
    rw [← value_skipBlank hr (by have := length_skipBlank hr; omega)] at hvalue
    have := length_lt_of_phrase hitem
    have hitems := more k [first] (by omega)
    simp only [value, hb, starts, array, hr, if_neg notClose, hvalue, hitems]
    rfl
  | emptyObject hb he =>
    intro steps enough
    obtain ⟨k, rfl, paid⟩ := exists_step hb enough
    obtain ⟨k, rfl⟩ := Nat.exists_eq_add_one_of_ne_zero (show k ≠ 0 by omega)
    have starts : Start.of Ascii.openBrace = .object := rfl
    simp only [value, hb, starts, object, he, ↓reduceIte]
  | marked hb hq hname hm =>
    intro steps enough
    obtain ⟨k, rfl, paid⟩ := exists_step hb enough
    obtain ⟨k, rfl⟩ := Nat.exists_eq_add_one_of_ne_zero (show k ≠ 0 by omega)
    have starts : Start.of Ascii.openBrace = .object := rfl
    have notClose : ¬ Ascii.quote = Ascii.closeBrace := by decide
    have hmarked : marked text _ = .ok (.number _, _) := marked_ok_iff.mpr ⟨_, rfl, hm⟩
    simp only [value, hb, starts, object, hq, if_neg notClose, string_ok_iff.mpr hname, ↓reduceIte,
      hmarked]
  | object hb hq hname unmarked hc hitem hmore item more =>
    intro steps enough
    obtain ⟨k, rfl, paid⟩ := exists_step hb enough
    obtain ⟨k, rfl⟩ := Nat.exists_eq_add_one_of_ne_zero (show k ≠ 0 by omega)
    have starts : Start.of Ascii.openBrace = .object := rfl
    have notClose : ¬ Ascii.quote = Ascii.closeBrace := by decide
    have shorter := length_lt_of_name hq hname hc
    have := length_lt_of_phrase hitem
    simp only [value, hb, starts, object, hq, if_neg notClose, string_ok_iff.mpr hname, ↓reduceIte,
      if_neg unmarked, colon_ok_iff.mpr hc, item k (by omega)]
    exact more k _ (by omega)
  | itemsEnd hb =>
    intro steps read enough
    obtain ⟨k, rfl, -⟩ := exists_step hb enough
    simp only [items, hb, ↓reduceIte, List.append_nil]
  | @nextItem _ _ _ _ _ next _ hb hitem hmore item more =>
    intro steps read enough
    obtain ⟨k, rfl, paid⟩ := exists_step hb enough
    obtain ⟨b, r, hr, notClose, -⟩ := exists_of_value hitem
    have notEnd : ¬ Ascii.comma = Ascii.closeBracket := by decide
    have hvalue := item k (by omega)
    rw [← value_skipBlank hr (by have := length_skipBlank hr; omega)] at hvalue
    have := length_lt_of_phrase hitem
    have hitems := more k (next :: read) (by omega)
    simp only [items, hb, if_neg notEnd, ↓reduceIte, hr, if_neg notClose, hvalue, hitems,
      List.reverse_cons, List.append_assoc]
    rfl
  | membersEnd hb =>
    intro steps read enough
    obtain ⟨k, rfl, -⟩ := exists_step hb enough
    simp only [members, hb, ↓reduceIte]
    rfl
  | nextMember hb hq hname hc hitem hmore item more =>
    intro steps read enough
    obtain ⟨k, rfl, paid⟩ := exists_step hb enough
    have notEnd : ¬ Ascii.comma = Ascii.closeBrace := by decide
    have hnext : nextName text _ = .ok (_, _) := nextName_ok_iff.mpr ⟨_, hq, hname⟩
    have shorter := length_lt_of_name hq hname hc
    have := length_lt_of_phrase hitem
    simp only [members, hb, if_neg notEnd, ↓reduceIte, hnext, colon_ok_iff.mpr hc, item k (by omega)]
    exact more k _ (by omega)

end Reader

namespace Grammar

open Reader

variable {bytes rest rest' : Bytes}

/-! ## There is one way to read -/

/-- A string stands for one text and ends in one place. -/
theorem Text.unique {s s' : String} (h : Text bytes s rest) (h' : Text bytes s' rest') :
    s = s' ∧ rest = rest' := by
  have read : Reader.string [] bytes = .ok (s, rest) := string_ok_iff.mpr h
  rw [string_ok_iff.mpr h'] at read
  obtain ⟨rfl, rfl⟩ := Prod.mk.inj (Except.ok.inj read)
  exact ⟨rfl, rfl⟩

/-- A value stands for one document and ends in one place. -/
theorem Phrase.unique {depth : Nat} {d d' : Document} (h : Phrase depth bytes (.value d) rest)
    (h' : Phrase depth bytes (.value d') rest') : d = d' ∧ rest = rest' := by
  have read : Reader.value [] (2 * bytes.length) depth bytes = .ok (d, rest) :=
    read_of_phrase h _ (Nat.le_refl _)
  have read' : Reader.value [] (2 * bytes.length) depth bytes = .ok (d', rest') :=
    read_of_phrase h' _ (Nat.le_refl _)
  rw [read] at read'
  exact Prod.mk.inj (Except.ok.inj read')

end Grammar

namespace Document

open Reader Grammar

/-- **Reading is the grammar**: a text is read as a document exactly when the document is a phrase in front of it and
nothing but white space follows. Here the steps of the reader come to an end; from now on it is known by the grammar
alone. -/
theorem read_ok_iff {text : Bytes} {d : Document} :
    read text = .ok d ↔ ∃ rest, Phrase depthLimit text (.value d) rest ∧ skipBlank rest = [] := by
  unfold read
  constructor
  · intro h
    split at h
    · cases h
    next d' rest hvalue =>
      split at h
      · next hblank =>
        cases h
        exact ⟨rest, phrase_of_value _ hvalue, hblank⟩
      · cases h
  · rintro ⟨rest, hphrase, hblank⟩
    have hvalue : value text (2 * text.length + 2) depthLimit text = .ok (d, rest) :=
      read_of_phrase hphrase _ (by omega)
    simp only [hvalue, hblank]

end Document
end Relabel
