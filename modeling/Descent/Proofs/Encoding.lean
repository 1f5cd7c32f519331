import Descent.Text.Utf8
import Mathlib.Data.List.Basic

/-!
# Encodings and the decoder

The decoder is told by its ranges alone what may follow a byte, and by no character. Here it is
held against the encodings of characters: whatever begins with a lead byte and goes on within the
ranges to the end is the encoding of a character, and there are no encodings but these. So the
decoder, fed with an encoding, shows the character. Fed with less of it, it waits for more and
takes only what an encoding goes on with; and a byte that it shows at once without its being a
character begins no encoding.
-/

namespace Descent.Text.Utf8

variable {byte : UInt8} {value : Nat} {state : State} {bytes front rest : List UInt8} {c : Char}

/-! ## The bytes of a scalar value -/

/-- The bytes that encode a scalar value. The first one tells how many there are, and each of the
others holds six bits. -/
inductive Encodes (value : Nat) : List UInt8 → Prop where
  | one {first : UInt8} (most : value < 0x80) (lead : first.toNat = value) : Encodes value [first]
  | two {first second : UInt8} (least : 0x80 ≤ value) (most : value < 0x800)
      (lead : first.toNat = value / 64 + 0xC0) (low : second.toNat = value % 64 + 0x80) :
      Encodes value [first, second]
  | three {first second third : UInt8} (least : 0x800 ≤ value) (most : value < 0x10000)
      (lead : first.toNat = value / 4096 + 0xE0) (high : second.toNat = value / 64 % 64 + 0x80)
      (low : third.toNat = value % 64 + 0x80) : Encodes value [first, second, third]
  | four {first second third fourth : UInt8} (least : 0x10000 ≤ value)
      (lead : first.toNat = value / 262144 + 0xF0)
      (high : second.toNat = value / 4096 % 64 + 0x80)
      (middle : third.toNat = value / 64 % 64 + 0x80) (low : fourth.toNat = value % 64 + 0x80) :
      Encodes value [first, second, third, fourth]

theorem encodes_utf8EncodeChar (c : Char) : Encodes c.toNat (String.utf8EncodeChar c) := by
  have valid : c.toNat.isValidChar := c.valid
  simp only [Nat.isValidChar] at valid
  have byte {digit : Nat} (small : digit < 256) : (UInt8.ofNat digit).toNat = digit := by
    simpa using small
  have value : c.val.toNat = c.toNat := rfl
  rw [String.utf8EncodeChar, value]
  split
  · exact .one (by omega) (byte (by omega))
  split
  · exact .two (by omega) (by omega) ((byte (by omega)).trans (by omega)) (byte (by omega))
  split
  · exact .three (by omega) (by omega) ((byte (by omega)).trans (by omega)) (byte (by omega))
      (byte (by omega))
  · exact .four (by omega) ((byte (by omega)).trans (by omega)) (byte (by omega))
      (byte (by omega)) (byte (by omega))

theorem Encodes.ne_nil (encodes : Encodes value bytes) : bytes ≠ [] := by
  rintro rfl
  cases encodes

/-- A value is encoded in one way. -/
theorem Encodes.unique {others : List UInt8} (encodes : Encodes value bytes)
    (other : Encodes value others) : others = bytes := by
  have equal {digit : Nat} {first second : UInt8} (here : first.toNat = digit)
      (there : second.toNat = digit) : second = first :=
    UInt8.toNat_inj.mp (there.trans here.symm)
  -- Encodings of different lengths are those of different values.
  cases encodes <;> cases other <;> try omega
  case one.one lead _ _ otherLead => rw [equal lead otherLead]
  case two.two lead low _ _ _ _ otherLead otherLow =>
    rw [equal lead otherLead, equal low otherLow]
  case three.three lead high low _ _ _ _ _ otherLead otherHigh otherLow =>
    rw [equal lead otherLead, equal high otherHigh, equal low otherLow]
  case four.four lead high middle low _ _ _ _ _ otherLead otherHigh otherMiddle otherLow =>
    rw [equal lead otherLead, equal high otherHigh, equal middle otherMiddle, equal low otherLow]

/-- All bytes that encode a scalar value are the encoding of a character. -/
theorem Encodes.exists_char (encodes : Encodes value bytes) (valid : value.isValidChar) :
    ∃ c : Char, c.toNat = value ∧ String.utf8EncodeChar c = bytes :=
  ⟨.ofNatAux value valid, rfl, encodes.unique (encodes_utf8EncodeChar (.ofNatAux value valid))⟩

/-! ## What the decoder waits for -/

/-- What a byte is outside every sequence: a character, a byte that is shown at once though it is
none, or the lead byte of a sequence of two, three or four bytes. Behind the least and the
greatest lead bytes the range is narrower, and so it is behind the one that leads to surrogates. -/
inductive Opens (byte : UInt8) : Step → Prop where
  | alone (most : byte.toNat < 0x80) : Opens byte ⟨.outside, [Char.ofNat byte.toNat]⟩
  | stray (least : 0x80 ≤ byte.toNat) (apart : byte.toNat < 0xC2 ∨ 0xF5 ≤ byte.toNat) :
      Opens byte ⟨.outside, [replacement]⟩
  | two {gathered : Nat} (lead : byte.toNat = gathered + 0xC0) (least : 2 ≤ gathered)
      (most : gathered < 32) : Opens byte ⟨.within 0x80 0xBF 0 gathered, []⟩
  | three {low high : UInt8} {gathered : Nat} (lead : byte.toNat = gathered + 0xE0)
      (most : gathered < 16)
      (lower : gathered = 0 ∧ low.toNat = 0xA0 ∨ gathered ≠ 0 ∧ low.toNat = 0x80)
      (upper : gathered = 13 ∧ high.toNat = 0x9F ∨ gathered ≠ 13 ∧ high.toNat = 0xBF) :
      Opens byte ⟨.within low high 1 gathered, []⟩
  | four {low high : UInt8} {gathered : Nat} (lead : byte.toNat = gathered + 0xF0)
      (most : gathered < 5)
      (lower : gathered = 0 ∧ low.toNat = 0x90 ∨ gathered ≠ 0 ∧ low.toNat = 0x80)
      (upper : gathered = 4 ∧ high.toNat = 0x8F ∨ gathered ≠ 4 ∧ high.toNat = 0xBF) :
      Opens byte ⟨.within low high 2 gathered, []⟩

theorem opens_lead (byte : UInt8) : Opens byte (lead byte) := by
  have bound := byte.toNat_lt
  unfold lead
  refine iteInduction (fun _ => .alone (by omega)) fun _ => ?_
  refine iteInduction (fun _ => .stray (by omega) (by omega)) fun _ => ?_
  refine iteInduction (fun _ => .two (by omega) (by omega) (by omega)) fun _ => ?_
  refine iteInduction (fun _ => .three (by omega) (by omega) (.inl ⟨rfl, rfl⟩)
    (.inr ⟨by omega, rfl⟩)) fun _ => ?_
  refine iteInduction (fun _ => .three (by omega) (by omega) (.inr ⟨by omega, rfl⟩)
    (.inl ⟨by omega, rfl⟩)) fun _ => ?_
  refine iteInduction (fun _ => .three (by omega) (by omega) (.inr ⟨by omega, rfl⟩)
    (.inr ⟨by omega, rfl⟩)) fun _ => ?_
  refine iteInduction (fun _ => .four (by omega) (by omega) (.inl ⟨rfl, rfl⟩)
    (.inr ⟨by omega, rfl⟩)) fun _ => ?_
  refine iteInduction (fun _ => .four (by omega) (by omega) (.inr ⟨by omega, rfl⟩)
    (.inr ⟨by omega, rfl⟩)) fun _ => ?_
  refine iteInduction (fun _ => .four (by omega) (by omega) (.inr ⟨by omega, rfl⟩)
    (.inl ⟨by omega, rfl⟩)) fun _ => ?_
  exact .stray (by omega) (by omega)

theorem lead_of_lt (ascii : byte.toNat < 0x80) :
    lead byte = ⟨.outside, [Char.ofNat byte.toNat]⟩ :=
  if_pos ascii

/-- These bytes, and no fewer, complete the sequence that a state is in the middle of, and it has
this value then. -/
inductive Completes : State → List UInt8 → Nat → Prop where
  | last {low high byte : UInt8} {gathered value : Nat} (least : low.toNat ≤ byte.toNat)
      (most : byte.toNat ≤ high.toNat) (sum : gathered * 64 + (byte.toNat - 0x80) = value) :
      Completes (.within low high 0 gathered) [byte] value
  | more {low high byte : UInt8} {further gathered next value : Nat} {rest : List UInt8}
      (least : low.toNat ≤ byte.toNat) (most : byte.toNat ≤ high.toNat)
      (sum : gathered * 64 + (byte.toNat - 0x80) = next)
      (completes : Completes (.within 0x80 0xBF further next) rest value) :
      Completes (.within low high (further + 1) gathered) (byte :: rest) value

/-- Any byte in the range of a state can be gone on from to the end. -/
theorem exists_completes {low high : UInt8} (least : low.toNat ≤ byte.toNat)
    (most : byte.toNat ≤ high.toNat) (further gathered : Nat) :
    ∃ rest value, Completes (.within low high further gathered) (byte :: rest) value := by
  induction further generalizing low high byte gathered with
  | zero => exact ⟨[], _, .last least most rfl⟩
  | succ further inductionHypothesis =>
      have inRange : (0x80 : UInt8).toNat ≤ (0xBF : UInt8).toNat := by decide
      obtain ⟨rest, value, completes⟩ := inductionHypothesis (Nat.le_refl _) inRange
        (gathered * 64 + (byte.toNat - 0x80))
      exact ⟨_, value, .more least most rfl completes⟩

/-- An encoding of several bytes is a lead byte and what completes the sequence behind it. -/
theorem Encodes.completes (encodes : Encodes value (byte :: rest)) (valid : value.isValidChar)
    (several : rest ≠ []) : ∃ state, lead byte = ⟨state, []⟩ ∧ Completes state rest value := by
  have least : (0x80 : UInt8).toNat = 0x80 := rfl
  have most : (0xBF : UInt8).toNat = 0xBF := rfl
  have opens := opens_lead byte
  generalize lead byte = step at opens ⊢
  simp only [Nat.isValidChar] at valid
  cases encodes with
  | one => exact absurd rfl several
  | two _ _ lead low =>
      cases opens <;> try omega
      case two => exact ⟨_, rfl, .last (by omega) (by omega) (by omega)⟩
  | three _ _ lead high low =>
      cases opens <;> try omega
      case three =>
        exact ⟨_, rfl, .more (by omega) (by omega) rfl (.last (by omega) (by omega) (by omega))⟩
  | four _ lead high middle low =>
      cases opens <;> try omega
      case four =>
        exact ⟨_, rfl, .more (by omega) (by omega) rfl
          (.more (by omega) (by omega) rfl (.last (by omega) (by omega) (by omega)))⟩

/-- A lead byte and what completes the sequence behind it encode a scalar value. -/
theorem Completes.encodes (completes : Completes state rest value)
    (opened : lead byte = ⟨state, []⟩) : value.isValidChar ∧ Encodes value (byte :: rest) := by
  have least : (0x80 : UInt8).toNat = 0x80 := rfl
  have most : (0xBF : UInt8).toNat = 0xBF := rfl
  have opens := opens_lead byte
  rw [opened] at opens
  simp only [Nat.isValidChar]
  cases opens with
  | two lead =>
      cases completes
      exact ⟨by omega, .two (by omega) (by omega) (by omega) (by omega)⟩
  | three lead =>
      obtain _ | ⟨_, _, _, completes⟩ := completes
      cases completes
      exact ⟨by omega, .three (by omega) (by omega) (by omega) (by omega) (by omega)⟩
  | four lead =>
      obtain _ | ⟨_, _, _, completes⟩ := completes
      obtain _ | ⟨_, _, _, completes⟩ := completes
      cases completes
      exact ⟨by omega, .four (by omega) (by omega) (by omega) (by omega) (by omega)⟩

/-! ## Feeding encodings -/

theorem step_outside (byte : UInt8) : step .outside byte = lead byte := rfl

theorem step_of_mem {low high : UInt8} (least : low.toNat ≤ byte.toNat)
    (most : byte.toNat ≤ high.toNat) (further gathered : Nat) :
    step (.within low high further gathered) byte =
      match further with
      | 0 => ⟨.outside, [Char.ofNat (gathered * 64 + (byte.toNat - 0x80))]⟩
      | more + 1 => ⟨.within 0x80 0xBF more (gathered * 64 + (byte.toNat - 0x80)), []⟩ := by
  have inside : low ≤ byte ∧ byte ≤ high := ⟨least, most⟩
  cases further <;> simp only [step, inside, and_self, if_true]

/-- Outside the range, the sequence is given up, and the byte is read again. -/
theorem step_of_not_mem {low high : UInt8} (outside : ¬ (low ≤ byte ∧ byte ≤ high))
    (further gathered : Nat) :
    step (.within low high further gathered) byte =
      ⟨(lead byte).state, replacement :: (lead byte).emitted⟩ := by
  simp only [step, outside, if_false]

theorem Completes.feed_eq (completes : Completes state bytes value) :
    feed state bytes = ⟨.outside, [Char.ofNat value]⟩ := by
  induction completes with
  | last least most sum =>
      subst sum
      simp only [feed, step_of_mem least most]
      rfl
  | more least most sum completes inductionHypothesis =>
      subst sum
      simp only [feed, step_of_mem least most, inductionHypothesis]
      rfl

/-- In the middle of a sequence nothing is shown, and whatever completes it from there completes
it from the start. -/
theorem Completes.exists_between (completes : Completes state (front ++ rest) value)
    (unread : rest ≠ []) :
    ∃ between, feed state front = ⟨between, []⟩ ∧ Completes between rest value ∧
      ∀ others other, Completes between others other → Completes state (front ++ others) other := by
  induction front generalizing state with
  | nil => exact ⟨state, rfl, completes, fun _ _ others => others⟩
  | cons byte front inductionHypothesis =>
      rw [List.cons_append] at completes
      generalize follows : front ++ rest = behind at completes
      cases completes with
      | last => exact absurd (List.append_eq_nil_iff.mp follows).2 unread
      | more least most sum completes =>
          subst sum follows
          obtain ⟨between, fed, ends, lifts⟩ := inductionHypothesis completes
          refine ⟨between, ?_, ends, fun others other more => .more least most rfl ?_⟩
          · simp only [feed, step_of_mem least most, fed]
            rfl
          · exact lifts others other more

/-- Fed with the encoding of a character, the decoder shows the character. -/
theorem feed_utf8EncodeChar (c : Char) :
    feed .outside (String.utf8EncodeChar c) = ⟨.outside, [c]⟩ := by
  have encodes := encodes_utf8EncodeChar c
  generalize String.utf8EncodeChar c = bytes at encodes
  obtain ⟨byte, rest, rfl⟩ := List.exists_cons_of_ne_nil encodes.ne_nil
  by_cases several : rest = []
  · subst several
    cases encodes with
    | one most lead =>
        rw [← lead] at most
        simp only [feed, step_outside, lead_of_lt most, lead, Char.ofNat_toNat]
        rfl
  · obtain ⟨state, opened, completes⟩ := encodes.completes c.valid several
    simp only [feed, step_outside, opened, completes.feed_eq, Char.ofNat_toNat]
    rfl

/-- No encoding is a part of another one, in front of the rest of it. -/
theorem eq_of_utf8EncodeChar_isPrefix {other : Char}
    (ahead : String.utf8EncodeChar c <+: String.utf8EncodeChar other) : other = c := by
  obtain ⟨rest, whole⟩ := ahead
  have fed := feed_utf8EncodeChar other
  rw [← whole, feed_append, feed_utf8EncodeChar] at fed
  have shown := congrArg Step.emitted fed
  exact (List.cons.inj shown).1.symm

/-! ## What begins an encoding -/

/-- The encoding of a character begins with these bytes. -/
def Begins (bytes : List UInt8) : Prop :=
  ∃ c, bytes <+: String.utf8EncodeChar c

theorem begins_nil : Begins [] :=
  ⟨'a', List.nil_prefix⟩

/-- What is completed behind a lead byte begins an encoding, all of it and any part in front. -/
theorem Completes.begins (completes : Completes state rest value)
    (opened : lead byte = ⟨state, []⟩) (ahead : front <+: rest) : Begins (byte :: front) := by
  obtain ⟨valid, encodes⟩ := completes.encodes opened
  obtain ⟨c, _, shape⟩ := encodes.exists_char valid
  exact ⟨c, shape ▸ List.cons_prefix_cons.mpr ⟨rfl, ahead⟩⟩

/-- Fed with less than an encoding, the decoder is in the middle of a sequence and has shown
nothing. All that it takes as the next byte, an encoding goes on with. -/
theorem feed_of_unfinished (whole : front ++ rest = String.utf8EncodeChar c) (begun : front ≠ [])
    (unfinished : rest ≠ []) :
    ∃ low high further gathered,
      feed .outside front = ⟨.within low high further gathered, []⟩ ∧
      ∀ byte, low ≤ byte ∧ byte ≤ high → Begins (front ++ [byte]) := by
  obtain ⟨first, front, rfl⟩ := List.exists_cons_of_ne_nil begun
  have encodes := encodes_utf8EncodeChar c
  rw [← whole, List.cons_append] at encodes
  have several : front ++ rest ≠ [] := fun none => unfinished (List.append_eq_nil_iff.mp none).2
  obtain ⟨state, opened, completes⟩ := encodes.completes c.valid several
  obtain ⟨between, fed, ends, lifts⟩ := completes.exists_between unfinished
  obtain ⟨low, high, further, gathered⟩ := between
  case outside => cases ends
  case within low high further gathered =>
    refine ⟨low, high, further, gathered, ?_, ?_⟩
    · simp only [feed, step_outside, opened, fed]
      rfl
    · rintro byte ⟨least, most⟩
      obtain ⟨others, other, more⟩ := exists_completes least most further gathered
      refine (lifts _ _ more).begins opened ?_
      exact ⟨others, by simp⟩

/-- A byte that begins no encoding is shown at once, as the replacement character. -/
theorem lead_of_not_begins (stray : ¬ Begins [byte]) : lead byte = ⟨.outside, [replacement]⟩ := by
  have opens := opens_lead byte
  generalize opened : lead byte = step at opens ⊢
  have begins {low high : UInt8} {further gathered : Nat} (sensible : low.toNat ≤ high.toNat)
      (within : lead byte = ⟨.within low high further gathered, []⟩) : Begins [byte] := by
    obtain ⟨rest, value, completes⟩ := exists_completes (Nat.le_refl _) sensible further gathered
    exact completes.begins within List.nil_prefix
  cases opens with
  | alone most =>
      have valid : byte.toNat.isValidChar := .inl (by omega)
      obtain ⟨c, _, shape⟩ := (Encodes.one most rfl).exists_char valid
      exact absurd ⟨c, shape ▸ List.prefix_rfl⟩ stray
  | stray => rfl
  | two => exact absurd (begins (by decide) opened) stray
  | three _ _ lower upper => exact absurd (begins (by omega) opened) stray
  | four _ _ lower upper => exact absurd (begins (by omega) opened) stray

end Descent.Text.Utf8
