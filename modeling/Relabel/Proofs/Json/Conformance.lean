import Relabel.Proofs.Json.Reading
import Relabel.Proofs.Json.Tokens

/-!
# What the reader makes of a text of the standard

The reader takes the texts of the standard and no others. It does not keep them as they are written, though:
repeated names are put in one after another, and an object with `numberMark` in front is taken for the written form
of a number. `Document.resolve?` is what this comes to, said on the document as it is written and without any
bytes; `Document.read_ok_iff_text` says that reading is the standard's grammar followed by `resolve?`.

Both directions are inductions on a derivation, rule by rule. From the standard to the reader a value needs to know
that what follows could not go on a number (`ReadAs`); from the reader to the standard a value gives back the white
space in front of it, which the reader skips and the standard leaves to the surrounding rule (`Written`).
-/

namespace Relabel

/-! ## Written documents and read ones -/

/-- The number that an object's members stand for as they are written: one member, a string, and in it a number's
literal. -/
def Members.number? : Members → Option Number
  | [(_, .string s)] => (Reader.numberText (Utf8.encode s)).toOption
  | _ => none

namespace Document

mutual

/-- What a document as it is written is read as: in every object, the first name decides whether it is the written
form of a number, and repeated names are put in one after another. There is no answer if an object with the mark in
front is not the written form of a number. -/
def resolve? : Document → Option Document
  | .array items => (resolveItems? items).map .array
  | .object members =>
    if (Members.names members).head? = some Reader.numberMark then (Members.number? members).map .number
    else (resolveMembers? members).map fun ms => .object (Members.insertAll [] ms)
  | other => some other

/-- What items are read as. -/
def resolveItems? : List Document → Option (List Document)
  | [] => some []
  | item :: more => do
    let item ← resolve? item
    let more ← resolveItems? more
    return item :: more

/-- What the values of members are read as. -/
def resolveMembers? : Members → Option Members
  | [] => some []
  | (name, item) :: more => do
    let item ← resolve? item
    let more ← resolveMembers? more
    return (name, item) :: more

end

variable {item : Document} {more : List Document} {members : Members} {name : String}

theorem resolveItems?_cons_iff {ds : List Document} :
    resolveItems? (item :: more) = some ds ↔
      ∃ d ds', resolve? item = some d ∧ resolveItems? more = some ds' ∧ ds = d :: ds' := by
  simp only [resolveItems?, Option.bind_eq_bind, Option.bind_eq_some_iff, Option.pure_def, Option.some.injEq]
  constructor
  · rintro ⟨d, hd, ds', hds, rfl⟩
    exact ⟨d, ds', hd, hds, rfl⟩
  · rintro ⟨d, ds', hd, hds, rfl⟩
    exact ⟨d, hd, ds', hds, rfl⟩

theorem resolveMembers?_cons_iff {ms : Members} :
    resolveMembers? ((name, item) :: members) = some ms ↔
      ∃ d ms', resolve? item = some d ∧ resolveMembers? members = some ms' ∧ ms = (name, d) :: ms' := by
  simp only [resolveMembers?, Option.bind_eq_bind, Option.bind_eq_some_iff, Option.pure_def, Option.some.injEq]
  constructor
  · rintro ⟨d, hd, ms', hms, rfl⟩
    exact ⟨d, ms', hd, hms, rfl⟩
  · rintro ⟨d, ms', hd, hms, rfl⟩
    exact ⟨d, hd, ms', hms, rfl⟩

/-- The members of an object are a number if there is one member, and its value is a string that holds a number. -/
theorem number?_cons_iff {n : Number} :
    Members.number? ((name, item) :: members) = some n ↔
      ∃ s, item = .string s ∧ members = [] ∧ Reader.numberText (Utf8.encode s) = .ok n := by
  constructor
  · intro h
    unfold Members.number? at h
    split at h
    · next heq =>
      cases heq
      cases hn : Reader.numberText (Utf8.encode _) with
      | error fault =>
        rw [hn] at h
        cases h
      | ok m =>
        rw [hn] at h
        cases h
        exact ⟨_, rfl, rfl, hn⟩
    · cases h
  · rintro ⟨s, rfl, rfl, hn⟩
    simp only [Members.number?, hn, Except.toOption]

/-- An object with members is read as a number or as an object, which the first name decides. -/
theorem resolve?_object_cons_iff {d : Document} :
    resolve? (.object ((name, item) :: members)) = some d ↔
      (name = Reader.numberMark ∧ ∃ s n, item = .string s ∧ members = [] ∧
        Reader.numberText (Utf8.encode s) = .ok n ∧ d = .number n) ∨
      (name ≠ Reader.numberMark ∧ ∃ d' ms, resolve? item = some d' ∧ resolveMembers? members = some ms ∧
        d = .object (Members.insertAll [(name, d')] ms)) := by
  have first : (Members.names ((name, item) :: members)).head? = some Reader.numberMark ↔
      name = Reader.numberMark := Option.some_inj
  by_cases mark : name = Reader.numberMark
  · simp only [resolve?, if_pos (first.mpr mark), Option.map_eq_some_iff, number?_cons_iff]
    simp only [mark, true_and, ne_eq, not_true_eq_false, false_and, or_false]
    constructor
    · rintro ⟨n, ⟨s, hs, hm, hn⟩, rfl⟩
      exact ⟨s, n, hs, hm, hn, rfl⟩
    · rintro ⟨s, n, hs, hm, hn, rfl⟩
      exact ⟨n, ⟨s, hs, hm, hn⟩, rfl⟩
  · simp only [resolve?, if_neg (mt first.mp mark), Option.map_eq_some_iff, resolveMembers?_cons_iff, mark,
      false_and, ne_eq, not_false_eq_true, true_and, false_or]
    constructor
    · rintro ⟨_, ⟨d', ms, hd, hms, rfl⟩, rfl⟩
      exact ⟨d', ms, hd, hms, rfl⟩
    · rintro ⟨d', ms, hd, hms, rfl⟩
      exact ⟨_, ⟨d', ms, hd, hms, rfl⟩, rfl⟩

end Document

namespace Standard

open Grammar Reader Document

variable {depth : Nat} {bytes rest : Bytes}

/-! ## Texts are read -/

/-- A stretch of a text is read as what it resolves to. -/
def ReadAs (depth : Nat) (bytes : Bytes) : Meaning → Prop
  | .value raw => ∀ {d rest}, raw.resolve? = some d → Number.Stops rest →
    Phrase depth (bytes ++ rest) (.value d) rest
  | .moreItems raws => ∀ {ds rest}, resolveItems? raws = some ds →
    Phrase depth (bytes ++ rest) (.moreItems ds) rest
  | .moreMembers raws => ∀ {ms rest}, resolveMembers? raws = some ms →
    Phrase depth (bytes ++ rest) (.moreMembers ms) rest

theorem stops_of_blank {gap : Bytes} (blank : Blank gap) (stops : Number.Stops rest) :
    Number.Stops (gap ++ rest) := by
  cases gap with
  | nil => exact stops
  | cons c gap =>
    refine Number.stops_cons _ ?_
    rcases blank c List.mem_cons_self with rfl | rfl | rfl | rfl <;> decide

theorem stops_of_moreItems {raws : List Document} (h : Stretch depth bytes (.moreItems raws)) (rest : Bytes) :
    Number.Stops (bytes ++ rest) := by
  cases h with
  | itemsEnd blank =>
    rw [List.append_assoc]
    exact stops_of_blank blank (Number.stops_cons _ (by decide))
  | nextItem blank _ _ _ =>
    rw [List.append_assoc]
    exact stops_of_blank blank (Number.stops_cons _ (by decide))

theorem stops_of_moreMembers {raws : Members} (h : Stretch depth bytes (.moreMembers raws)) (rest : Bytes) :
    Number.Stops (bytes ++ rest) := by
  cases h with
  | membersEnd blank =>
    rw [List.append_assoc]
    exact stops_of_blank blank (Number.stops_cons _ (by decide))
  | nextMember blank _ _ _ _ =>
    rw [List.append_assoc]
    exact stops_of_blank blank (Number.stops_cons _ (by decide))

/-- White space in front of a byte that is none is skipped, and no more than that. -/
theorem skipBlank_gap {gap : Bytes} (blank : Blank gap) {b : UInt8} (tail : Bytes) (h : isBlank b = false) :
    skipBlank (gap ++ b :: tail) = b :: tail := by
  rw [skipBlank_append blank, skipBlank, List.dropWhile_cons, h]
  rfl

/-- **A text of the standard is read as what it resolves to.** The induction is on the derivation of the standard. A
number is read before something that stops it, and all that can follow an item or a member does; an object is read as
a number exactly if it resolves to one, because its first name decides both. -/
theorem readAs_of_stretch {p : Meaning} (h : Stretch depth bytes p) : ReadAs depth bytes p := by
  induction h with
  | null =>
    rintro d rest ⟨⟩ _
    exact .null rfl
  | yes =>
    rintro d rest ⟨⟩ _
    exact .yes rfl
  | no =>
    rintro d rest ⟨⟩ _
    exact .no rfl
  | number h =>
    rintro d rest ⟨⟩ stops
    exact phrase_of_numeral h stops
  | string h =>
    rintro d rest ⟨⟩ _
    obtain ⟨characters⟩ := h
    simp only [List.cons_append, List.append_assoc, List.nil_append]
    exact .string rfl (text_iff.mpr ⟨_, characters, rfl⟩)
  | emptyArray blank =>
    rintro d rest ⟨⟩ _
    simp only [List.cons_append, List.append_assoc, List.nil_append]
    exact .emptyArray rfl (skipBlank_gap blank rest rfl)
  | array blank _ hmore item more =>
    intro d rest hd _
    obtain ⟨_, hds, rfl⟩ := Option.map_eq_some_iff.mp hd
    obtain ⟨d, ds, hitem, hitems, rfl⟩ := resolveItems?_cons_iff.mp hds
    simp only [List.cons_append, List.append_assoc]
    refine .array rfl ?_ (more hitems)
    exact (item hitem (stops_of_moreItems hmore rest)).congr (skipBlank_append blank _).symm
  | emptyObject blank =>
    rintro d rest ⟨⟩ _
    simp only [List.cons_append, List.append_assoc, List.nil_append]
    exact .emptyObject rfl (skipBlank_gap blank rest rfl)
  | @object _ gap lead first others name raw raws blank hlead hitem hmore item more =>
    intro d rest hd _
    obtain ⟨afterQuote, afterName, afterColon, quote, hname, hcolon, behind⟩ :=
      exists_of_lead hlead (first ++ (others ++ rest))
    have front : skipBlank (gap ++ (lead ++ (first ++ (others ++ rest)))) = Ascii.quote :: afterQuote := by
      rw [skipBlank_append blank, quote]
      rfl
    simp only [List.cons_append, List.append_assoc]
    rcases resolve?_object_cons_iff.mp hd with ⟨rfl, s, n, rfl, rfl, hn, rfl⟩ | ⟨unmarked, d', ms, hd', hms, rfl⟩
    · -- The written form of a number: its string is the whole of the first value, and no member follows.
      cases hitem with
      | string hs =>
        obtain ⟨characters⟩ := hs
        cases hmore with
        | membersEnd blankEnd =>
          simp only [List.cons_append, List.append_assoc, List.nil_append] at behind front ⊢
          exact .marked rfl front hname (.mk hcolon behind (text_iff.mpr ⟨_, characters, rfl⟩) hn
            (skipBlank_gap blankEnd rest rfl))
    · refine .object rfl front hname unmarked hcolon ?_ (more hms)
      exact (item hd' (stops_of_moreMembers hmore rest)).congr behind.symm
  | itemsEnd blank =>
    rintro ds rest ⟨⟩
    refine .itemsEnd ?_
    rw [List.append_assoc]
    exact skipBlank_gap blank rest rfl
  | nextItem blank blankAfter _ hmore item more =>
    intro ds rest hds
    obtain ⟨d, ds, hitem, hitems, rfl⟩ := resolveItems?_cons_iff.mp hds
    simp only [List.cons_append, List.append_assoc]
    refine .nextItem (skipBlank_gap blank _ rfl) ?_ (more hitems)
    exact (item hitem (stops_of_moreItems hmore rest)).congr (skipBlank_append blankAfter _).symm
  | membersEnd blank =>
    rintro ms rest ⟨⟩
    refine .membersEnd ?_
    rw [List.append_assoc]
    exact skipBlank_gap blank rest rfl
  | @nextMember _ before after lead first others name raw raws blank blankAfter hlead hitem hmore item more =>
    intro ms rest hms
    obtain ⟨d, ms, hd, hothers, rfl⟩ := resolveMembers?_cons_iff.mp hms
    obtain ⟨afterQuote, afterName, afterColon, quote, hname, hcolon, behind⟩ :=
      exists_of_lead hlead (first ++ (others ++ rest))
    have front : skipBlank (after ++ (lead ++ (first ++ (others ++ rest)))) = Ascii.quote :: afterQuote := by
      rw [skipBlank_append blankAfter, quote]
      rfl
    simp only [List.cons_append, List.append_assoc]
    refine .nextMember (skipBlank_gap blank _ rfl) front hname hcolon ?_ (more hothers)
    exact (item hd (stops_of_moreMembers hmore rest)).congr behind.symm

/-! ## What is read is a text -/

/-- A phrase is a text of the standard, white space before a value apart, and what the text resolves to. -/
def Written (depth : Nat) (bytes : Bytes) (p : Meaning) (rest : Bytes) : Prop :=
  match p with
  | .value d => ∃ gap body raw, Blank gap ∧ Stretch depth body (.value raw) ∧ raw.resolve? = some d ∧
      bytes = gap ++ (body ++ rest)
  | .moreItems ds => ∃ body raws, Stretch depth body (.moreItems raws) ∧ resolveItems? raws = some ds ∧
      bytes = body ++ rest
  | .moreMembers ms => ∃ body raws, Stretch depth body (.moreMembers raws) ∧ resolveMembers? raws = some ms ∧
      bytes = body ++ rest

/-- What stands in front of the first byte that is no white space is a gap of the standard. -/
theorem exists_gap_of_eq {b : UInt8} {tail : Bytes} (h : skipBlank bytes = b :: tail) :
    ∃ gap, Blank gap ∧ bytes = gap ++ b :: tail := by
  obtain ⟨gap, blank, hbytes⟩ := exists_gap bytes
  rw [h] at hbytes
  exact ⟨gap, blank, hbytes⟩

/-- **What is read is a text of the standard.** The induction is on the phrase that is read. The reader skips white
space in front of every token, so that a phrase may begin with some and a stretch may not: what is said of a phrase is
that it is a gap, and a stretch behind it. -/
theorem written_of_phrase {p : Meaning} (h : Phrase depth bytes p rest) : Written depth bytes p rest := by
  induction h with
  | null hb =>
    obtain ⟨gap, blank, rfl⟩ := exists_gap_of_eq hb
    exact ⟨gap, _, .null, blank, .null, rfl, rfl⟩
  | yes hb =>
    obtain ⟨gap, blank, rfl⟩ := exists_gap_of_eq hb
    exact ⟨gap, _, .bool true, blank, .yes, rfl, rfl⟩
  | no hb =>
    obtain ⟨gap, blank, rfl⟩ := exists_gap_of_eq hb
    exact ⟨gap, _, .bool false, blank, .no, rfl, rfl⟩
  | negative hb hn =>
    obtain ⟨gap, blank, rfl⟩ := exists_gap_of_eq hb
    obtain ⟨literal, numeral, same⟩ := numeral_of_scan hn
    exact ⟨gap, literal, .number _, blank, .number numeral, rfl, congrArg (gap ++ ·) same⟩
  | positive hb _ hn =>
    obtain ⟨gap, blank, rfl⟩ := exists_gap_of_eq hb
    obtain ⟨literal, numeral, same⟩ := numeral_of_scan hn
    exact ⟨gap, literal, .number _, blank, .number numeral, rfl, congrArg (gap ++ ·) same⟩
  | string hb hs =>
    obtain ⟨gap, blank, rfl⟩ := exists_gap_of_eq hb
    obtain ⟨inner, characters, rfl⟩ := text_iff.mp hs
    exact ⟨gap, _, .string _, blank, .string (.mk characters), rfl, by simp⟩
  | emptyArray hb he =>
    obtain ⟨gap, blank, rfl⟩ := exists_gap_of_eq hb
    obtain ⟨inside, blankInside, rfl⟩ := exists_gap_of_eq he
    exact ⟨gap, _, .array [], blank, .emptyArray blankInside, rfl, by simp⟩
  | array hb _ _ item more =>
    obtain ⟨gap, blank, rfl⟩ := exists_gap_of_eq hb
    obtain ⟨inside, first, raw, blankInside, hfirst, hraw, rfl⟩ := item
    obtain ⟨others, raws, hothers, hraws, rfl⟩ := more
    refine ⟨gap, _, .array (raw :: raws), blank, .array blankInside hfirst hothers, ?_, by simp⟩
    exact Option.map_eq_some_iff.mpr ⟨_, resolveItems?_cons_iff.mpr ⟨_, _, hraw, hraws, rfl⟩, rfl⟩
  | emptyObject hb he =>
    obtain ⟨gap, blank, rfl⟩ := exists_gap_of_eq hb
    obtain ⟨inside, blankInside, rfl⟩ := exists_gap_of_eq he
    exact ⟨gap, _, .object [], blank, .emptyObject blankInside, rfl, by simp⟩
  | marked hb hq hname hm =>
    obtain ⟨gap, blank, rfl⟩ := exists_gap_of_eq hb
    obtain ⟨hc, hquote, hs, hn, he⟩ := hm
    obtain ⟨inner, characters, rfl⟩ := text_iff.mp hs
    obtain ⟨behind, blankBehind, rfl⟩ := exists_gap_of_eq hquote
    obtain ⟨last, blankLast, rfl⟩ := exists_gap_of_eq he
    obtain ⟨inside, lead, blankInside, hlead, rfl⟩ := lead_of_text hq hname hc blankBehind
    refine ⟨gap, _, .object [(numberMark, .string _)], blank,
      .object blankInside hlead (.string (.mk characters)) (.membersEnd blankLast), ?_, by simp⟩
    exact resolve?_object_cons_iff.mpr (.inl ⟨rfl, _, _, rfl, rfl, hn, rfl⟩)
  | object hb hq hname unmarked hc _ _ item more =>
    obtain ⟨gap, blank, rfl⟩ := exists_gap_of_eq hb
    obtain ⟨behind, first, raw, blankBehind, hfirst, hraw, rfl⟩ := item
    obtain ⟨others, raws, hothers, hraws, rfl⟩ := more
    obtain ⟨inside, lead, blankInside, hlead, rfl⟩ := lead_of_text hq hname hc blankBehind
    refine ⟨gap, _, .object ((_, raw) :: raws), blank, .object blankInside hlead hfirst hothers, ?_, by simp⟩
    exact resolve?_object_cons_iff.mpr (.inr ⟨unmarked, _, _, hraw, hraws, rfl⟩)
  | itemsEnd hb =>
    obtain ⟨gap, blank, rfl⟩ := exists_gap_of_eq hb
    exact ⟨_, [], .itemsEnd blank, rfl, by simp⟩
  | nextItem hb _ _ item more =>
    obtain ⟨gap, blank, rfl⟩ := exists_gap_of_eq hb
    obtain ⟨inside, first, raw, blankInside, hfirst, hraw, rfl⟩ := item
    obtain ⟨others, raws, hothers, hraws, rfl⟩ := more
    exact ⟨_, raw :: raws, .nextItem blank blankInside hfirst hothers,
      resolveItems?_cons_iff.mpr ⟨_, _, hraw, hraws, rfl⟩, by simp⟩
  | membersEnd hb =>
    obtain ⟨gap, blank, rfl⟩ := exists_gap_of_eq hb
    exact ⟨_, [], .membersEnd blank, rfl, by simp⟩
  | nextMember hb hq hname hc _ _ item more =>
    obtain ⟨gap, blank, rfl⟩ := exists_gap_of_eq hb
    obtain ⟨behind, first, raw, blankBehind, hfirst, hraw, rfl⟩ := item
    obtain ⟨others, raws, hothers, hraws, rfl⟩ := more
    obtain ⟨inside, lead, blankInside, hlead, rfl⟩ := lead_of_text hq hname hc blankBehind
    exact ⟨_, (_, raw) :: raws, .nextMember blank blankInside hlead hfirst hothers,
      resolveMembers?_cons_iff.mpr ⟨_, _, hraw, hraws, rfl⟩, by simp⟩

end Standard

namespace Document

open Standard Grammar Reader

/-- **The documents that are read are the texts of the standard, resolved.** Nothing is read that is no text of the
standard, however the reader goes about it; and a text of the standard is read if it resolves to a document, and as
that one. So what the reader accepts can be told without it. -/
theorem read_ok_iff_text {text : Bytes} {d : Document} :
    read text = .ok d ↔ ∃ raw, Standard.Text depthLimit text raw ∧ raw.resolve? = some d := by
  rw [read_ok_iff]
  constructor
  · rintro ⟨rest, phrase, blank⟩
    obtain ⟨gap, body, raw, blankFront, stretch, hraw, rfl⟩ := written_of_phrase phrase
    exact ⟨raw, .mk blankFront stretch (skipBlank_eq_nil_iff.mp blank), hraw⟩
  · rintro ⟨raw, ⟨blankFront, stretch, blankBehind⟩, hraw⟩
    have stops := stops_of_blank blankBehind Number.stops_nil
    rw [List.append_nil] at stops
    refine ⟨_, (readAs_of_stretch stretch hraw stops).congr (skipBlank_append blankFront _).symm, ?_⟩
    exact skipBlank_eq_nil_iff.mpr blankBehind

end Document
end Relabel
