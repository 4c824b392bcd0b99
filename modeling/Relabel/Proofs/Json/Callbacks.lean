import Relabel.Json.Formatter

/-!
# What callbacks write

A callback depends on the state of its formatter, and on nothing that has been written. `Callback.Writes` is what is
known of one: it does not fail in a state, what it writes there, and the state that it leaves. Callbacks in a row write
their bytes in a row (`Callback.Writes.andThen`), so that what a serializer writes is put together from its callbacks
with no look at the text before.

**A string is written character by character** (`Formatter.Spells.string`), although a serializer hands it out in
fragments. It is enough to know how a formatter spells the characters of one fragment, and how it escapes those that
part fragments; where the fragments begin and end is then of no account.
-/

namespace Relabel

variable {σ : Type} {state state' state'' : σ} {bytes more : Bytes}

namespace Callback

variable {callback callback' : Callback σ}

/-- A callback does not fail in a state. It writes some bytes, whatever has been written, and leaves another state. -/
def Writes (callback : Callback σ) (state : σ) (bytes : Bytes) (state' : σ) : Prop :=
  ∀ before, callback ⟨state, before⟩ = some ⟨state', before ++ bytes⟩

theorem writes_write : Writes (write bytes) state bytes state := fun _ => rfl

theorem writes_pass : Writes pass state [] state := fun before => by rw [pass, List.append_nil]

/-- **Callbacks in a row.** The second one begins in the state that the first one leaves, and what they write stands
one behind the other. -/
theorem Writes.andThen (h : callback.Writes state bytes state') (h' : callback'.Writes state' more state'') :
    Writes (callback >=> callback') state (bytes ++ more) state'' := by
  intro before
  show callback ⟨state, before⟩ >>= callback' = _
  rw [h before, Option.bind_eq_bind, Option.bind_some, h', List.append_assoc]

/-- What is known to be written may be spelled in another way. -/
theorem Writes.of_eq (h : callback.Writes state bytes state') (same : bytes = more) :
    callback.Writes state more state' := same ▸ h

/-- What a callback writes from the beginning on. -/
theorem Writes.fresh (h : callback.Writes state bytes state') :
    (callback ⟨state, []⟩).map Writing.bytes = some bytes := by
  rw [h [], Option.map_some, List.nil_append]

end Callback

namespace Formatter

/-- A formatter spells strings character by character, and keeps its state meanwhile. -/
structure Spells (formatter : Formatter σ) (spell : Char → Bytes) (state : σ) : Prop where
  begins : formatter.beginString.Writes state [Ascii.quote] state
  /-- The characters of a fragment are spelled one after another. -/
  fragment : ∀ cs : List Char, (∀ c ∈ cs, Fragment.parts c = false) →
    (formatter.fragment (String.ofList cs)).Writes state (cs.flatMap spell) state
  /-- A character that parts fragments is spelled by its escape. -/
  escape : ∀ c, Fragment.parts c = true → (formatter.escape c).Writes state (spell c) state
  ends : formatter.endString.Writes state [Ascii.quote] state

namespace Spells

variable {formatter : Formatter σ} {spell : Char → Bytes} {waiting : List Char}

/-- A run of characters is spelled one by one, be it a fragment or empty; an empty one is not handed to the formatter.
-/
theorem run (h : formatter.Spells spell state) (plain : ∀ c ∈ waiting, Fragment.parts c = false) :
    (Serializer.run formatter waiting).Writes state (waiting.flatMap spell) state := by
  unfold Serializer.run
  split
  · next empty =>
    rw [List.isEmpty_iff.mp empty]
    exact Callback.writes_pass
  · exact h.fragment waiting plain

/-- **The characters that wait for the end of their fragment are written in front of the others.** The induction is on
the characters that are still to come. One that nothing parts joins those that wait, and writes nothing yet; one that
parts them ends their fragment, and is written by its escape behind it. -/
theorem characters (h : formatter.Spells spell state) (plain : ∀ c ∈ waiting, Fragment.parts c = false)
    (cs : List Char) :
    (Serializer.characters formatter waiting cs).Writes state ((waiting ++ cs).flatMap spell) state := by
  induction cs generalizing waiting with
  | nil =>
    rw [Serializer.characters, List.append_nil]
    exact h.run plain
  | cons c cs ih =>
    rw [Serializer.characters]
    split
    · next parting =>
      rw [List.flatMap_append, List.flatMap_cons]
      exact (h.run plain).andThen ((h.escape c parting).andThen (ih (List.forall_mem_nil _)))
    · next joins =>
      have longer : ∀ d ∈ waiting ++ [c], Fragment.parts d = false :=
        List.forall_mem_append.mpr ⟨plain, List.forall_mem_singleton.mpr (Bool.eq_false_iff.mpr joins)⟩
      have written := ih longer
      rwa [List.append_assoc, List.singleton_append] at written

/-- **A string is spelled character by character**, however its fragments are cut. -/
theorem string (h : formatter.Spells spell state) (text : String) :
    (Serializer.string formatter text).Writes state (Escape.quoted spell text) state := by
  have inner := h.characters (List.forall_mem_nil _) text.toList
  rw [Escape.quoted, List.cons_append]
  exact h.begins.andThen (inner.andThen h.ends)

end Spells
end Formatter
end Relabel
