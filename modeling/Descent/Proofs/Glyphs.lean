import Descent.Proofs.Encoding
import Mathlib.Data.Nat.Find

/-!
# Bytes as glyphs

Bytes show as glyphs, one behind the other. A glyph is the encoding of a character where there is
one, and else the longest bytes with which an encoding begins, or a single byte if none begins
there. What a glyph is depends on the bytes behind it only as far as it reaches. So if the bytes
are cut off, all glyphs in front of the cut stay, and of the one that is cut in two, something is
left and shows as one character, though as another one.
-/

namespace Descent.Text.Utf8

variable {bytes front rest others : List UInt8} {c : Char}

/-- A character that is shown, and the bytes for which it stands. -/
structure Glyph where
  bytes : List UInt8
  shown : Char

/-- The glyph at the front of the bytes. It is the encoding of a character, if one is there. If
not, the replacement character stands for the longest bytes with which an encoding begins, and
for a single byte if no encoding begins with it. -/
inductive Leads (bytes : List UInt8) : Glyph → Prop where
  | whole {c : Char} (ahead : String.utf8EncodeChar c <+: bytes) :
      Leads bytes ⟨String.utf8EncodeChar c, c⟩
  | broken {front : List UInt8} (ahead : front <+: bytes) (nonempty : front ≠ [])
      (none : ∀ c, ¬ String.utf8EncodeChar c <+: bytes)
      (begins : Begins front ∨ front.length = 1)
      (longest : ∀ other, other <+: bytes → Begins other → other.length ≤ front.length) :
      Leads bytes ⟨front, replacement⟩

namespace Leads

variable {glyph twin : Glyph}

theorem ahead (leads : Leads bytes glyph) : glyph.bytes <+: bytes := by
  cases leads with
  | whole ahead => exact ahead
  | broken ahead => exact ahead

theorem ne_nil (leads : Leads bytes glyph) : glyph.bytes ≠ [] := by
  cases leads with
  | whole => exact (encodes_utf8EncodeChar _).ne_nil
  | broken _ nonempty => exact nonempty

theorem length_pos (leads : Leads bytes glyph) : 0 < glyph.bytes.length :=
  List.length_pos_iff.mpr leads.ne_nil

theorem eq_append (leads : Leads bytes glyph) :
    bytes = glyph.bytes ++ bytes.drop glyph.bytes.length :=
  (List.prefix_iff_eq_append.mp leads.ahead).symm

/-- Bytes behind a glyph may be taken away. -/
theorem of_isPrefix (leads : Leads bytes glyph) (shorter : others <+: bytes)
    (still : glyph.bytes <+: others) : Leads others glyph := by
  cases leads with
  | whole => exact .whole still
  | broken _ nonempty none begins longest =>
      exact .broken still nonempty (fun c ahead => none c (ahead.trans shorter)) begins
        fun other ahead => longest other (ahead.trans shorter)

/-- There is one glyph at the front. -/
theorem unique (leads : Leads bytes glyph) (other : Leads bytes twin) : twin = glyph := by
  cases leads with
  | @whole c ahead =>
      cases other with
      | @whole twin twinAhead =>
          rcases List.prefix_or_prefix_of_prefix ahead twinAhead with shorter | shorter
          · rw [eq_of_utf8EncodeChar_isPrefix shorter]
          · rw [eq_of_utf8EncodeChar_isPrefix shorter]
      | broken _ _ none => exact absurd ahead (none c)
  | @broken front ahead nonempty none begins longest =>
      cases other with
      | @whole c twinAhead => exact absurd twinAhead (none c)
      | @broken twinFront twinAhead twinNonempty _ twinBegins twinLongest =>
          have positive := List.length_pos_iff.mpr nonempty
          have twinPositive := List.length_pos_iff.mpr twinNonempty
          have further := longest _ twinAhead
          have twinFurther := twinLongest _ ahead
          have lengths : twinFront.length = front.length := Nat.le_antisymm
            (twinBegins.elim further fun single => by omega)
            (begins.elim twinFurther fun single => by omega)
          have shorter := List.prefix_of_prefix_length_le twinAhead ahead (Nat.le_of_eq lengths)
          rw [shorter.eq_of_length lengths]

end Leads

/-- Of all bytes with which these begin, some that begin an encoding are the longest. -/
theorem exists_longest (bytes : List UInt8) :
    ∃ size, size ≤ bytes.length ∧ Begins (bytes.take size) ∧
      ∀ other, other <+: bytes → Begins other → other.length ≤ size := by
  classical
  let begun (size : Nat) : Prop := Begins (bytes.take size)
  have start : begun 0 := begins_nil
  refine ⟨Nat.findGreatest begun bytes.length, Nat.findGreatest_le _,
    Nat.findGreatest_spec (Nat.zero_le _) start, fun other ahead begins => ?_⟩
  rw [List.prefix_iff_eq_take.mp ahead] at begins
  exact Nat.le_findGreatest ahead.length_le begins

/-- Wherever there are bytes, there is a glyph at the front. -/
theorem exists_leads (nonempty : bytes ≠ []) : ∃ glyph, Leads bytes glyph := by
  by_cases whole : ∃ c, String.utf8EncodeChar c <+: bytes
  · obtain ⟨c, ahead⟩ := whole
    exact ⟨_, .whole ahead⟩
  · obtain ⟨size, within, begins, longest⟩ := exists_longest bytes
    have positive := List.length_pos_iff.mpr nonempty
    have length : (bytes.take (max 1 size)).length = max 1 size := by
      rw [List.length_take]
      omega
    refine ⟨_, .broken (List.take_prefix (max 1 size) bytes) ?nonempty
      (fun c ahead => whole ⟨c, ahead⟩) ?begins ?longest⟩
    case nonempty =>
      rw [← List.length_pos_iff, length]
      omega
    case begins =>
      rcases Nat.eq_zero_or_pos size with rfl | some
      · exact .inr length
      · rw [Nat.max_eq_right some]
        exact .inl begins
    case longest =>
      intro other ahead begun
      rw [length]
      exact Nat.le_trans (longest other ahead begun) (Nat.le_max_right 1 size)

/-! ## Bytes glyph by glyph -/

/-- The bytes are those of the glyphs, each one being at the front of what is left. -/
inductive Consists : List UInt8 → List Glyph → Prop where
  | nil : Consists [] []
  | cons {bytes : List UInt8} {glyph : Glyph} {glyphs : List Glyph} (leads : Leads bytes glyph)
      (more : Consists (bytes.drop glyph.bytes.length) glyphs) : Consists bytes (glyph :: glyphs)

theorem exists_consists (bytes : List UInt8) : ∃ glyphs, Consists bytes glyphs := by
  by_cases nonempty : bytes = []
  · exact ⟨[], nonempty ▸ .nil⟩
  · obtain ⟨glyph, leads⟩ := exists_leads nonempty
    have positive := leads.length_pos
    have shorter : (bytes.drop glyph.bytes.length).length < bytes.length := by
      rw [List.length_drop]
      have within := leads.ahead.length_le
      omega
    obtain ⟨glyphs, more⟩ := exists_consists (bytes.drop glyph.bytes.length)
    exact ⟨glyph :: glyphs, .cons leads more⟩
termination_by bytes.length

/-- Bytes consist of glyphs in one way. -/
theorem Consists.unique {glyphs twins : List Glyph} (consists : Consists bytes glyphs)
    (other : Consists bytes twins) : twins = glyphs := by
  induction consists generalizing twins with
  | nil =>
      cases other with
      | nil => rfl
      | cons leads => exact absurd (List.prefix_nil.mp leads.ahead) leads.ne_nil
  | cons leads more inductionHypothesis =>
      cases other with
      | nil => exact absurd (List.prefix_nil.mp leads.ahead) leads.ne_nil
      | cons twinLeads twinMore =>
          cases leads.unique twinLeads
          rw [inductionHypothesis twinMore]

/-! ## Decoding glyphs -/

/-- Behind bytes after which the decoder is outside every sequence, it starts again. -/
theorem decode_append_of_outside {shown : List Char}
    (fed : feed .outside front = ⟨.outside, shown⟩) (rest : List UInt8) :
    decode (front ++ rest) = shown ++ decode rest := by
  simp only [decode, feed_append, fed, List.append_assoc]

/-- A part of an encoding, without an end, shows as one character. -/
theorem decode_of_unfinished (whole : front ++ rest = String.utf8EncodeChar c)
    (begun : front ≠ []) (unfinished : rest ≠ []) : decode front = [replacement] := by
  obtain ⟨low, high, further, gathered, fed, _⟩ := feed_of_unfinished whole begun unfinished
  simp only [decode, fed, finish, List.nil_append]

/-- A part of an encoding shows as one character in front of all that an encoding does not go on
with. -/
theorem decode_unfinished_append (whole : front ++ rest = String.utf8EncodeChar c)
    (begun : front ≠ []) (unfinished : rest ≠ [])
    (apart : ∀ byte, [byte] <+: others → ¬ Begins (front ++ [byte])) :
    decode (front ++ others) = replacement :: decode others := by
  obtain ⟨low, high, further, gathered, fed, goesOn⟩ := feed_of_unfinished whole begun unfinished
  cases others with
  | nil => rw [List.append_nil, decode_of_unfinished whole begun unfinished, decode_nil]
  | cons byte others =>
      have outside : ¬ (low ≤ byte ∧ byte ≤ high) :=
        fun inside => apart byte (List.prefix_append [byte] others) (goesOn byte inside)
      simp only [decode, feed_append, fed, feed, step_of_not_mem outside, step_outside,
        List.nil_append, List.cons_append]

namespace Leads

variable {glyph : Glyph}

/-- The decoder shows a glyph, and goes on behind it. -/
theorem decode_eq (leads : Leads bytes glyph) :
    decode bytes = glyph.shown :: decode (bytes.drop glyph.bytes.length) := by
  have shape := leads.eq_append
  generalize bytes.drop glyph.bytes.length = behind at shape ⊢
  subst shape
  cases leads with
  | whole => exact decode_append_of_outside (feed_utf8EncodeChar _) behind
  | @broken front ahead nonempty none begins longest =>
      by_cases begun : Begins front
      · -- A byte that goes on with an encoding would have made the longest bytes longer.
        obtain ⟨c, rest, whole⟩ := begun
        refine decode_unfinished_append whole nonempty ?_ ?_
        · rintro rfl
          rw [List.append_nil] at whole
          exact none c (whole ▸ ahead)
        · rintro byte ⟨further, rfl⟩ longer
          have bound := longest (front ++ [byte]) ⟨further, by simp⟩ longer
          rw [List.length_append] at bound
          exact Nat.not_succ_le_self _ bound
      · obtain ⟨byte, rfl⟩ := List.length_eq_one_iff.mp (begins.resolve_left begun)
        have fed : feed .outside [byte] = ⟨.outside, [replacement]⟩ := by
          simp only [feed, step_outside, lead_of_not_begins begun, List.append_nil]
        exact decode_append_of_outside fed behind

/-- What is left of a glyph that is cut in two shows as one character. -/
theorem decode_take (leads : Leads bytes glyph) {count : Nat} (some : 0 < count)
    (short : count < glyph.bytes.length) : decode (glyph.bytes.take count) = [replacement] := by
  have begun : Begins glyph.bytes := by
    cases leads with
    | whole => exact ⟨_, List.prefix_rfl⟩
    | broken _ _ _ begins =>
        refine begins.resolve_right fun single => ?_
        rw [single] at short
        omega
  obtain ⟨c, rest, whole⟩ := begun
  have cut : glyph.bytes.take count ++ (glyph.bytes.drop count ++ rest) =
      String.utf8EncodeChar c := by
    rw [← List.append_assoc, List.take_append_drop, whole]
  refine decode_of_unfinished cut ?_ ?_
  · rw [← List.length_pos_iff, List.length_take]
    omega
  · rw [← List.length_pos_iff, List.length_append, List.length_drop]
    omega

end Leads

/-- All that the decoder shows are the glyphs. -/
theorem Consists.decode_eq {glyphs : List Glyph} (consists : Consists bytes glyphs) :
    decode bytes = glyphs.map Glyph.shown := by
  induction consists with
  | nil => rfl
  | cons leads more inductionHypothesis =>
      rw [leads.decode_eq, inductionHypothesis, List.map_cons]

/-- A character that is cut short by another one. -/
example : decode [0x61, 0xE2, 0x82, 0xC3, 0xA9] = ['a', replacement, 'é'] := by decide

/-! ## Where glyphs start -/

/-- How many bytes there are in front of each of the glyphs, the first one having this many in
front of it. -/
def starts : Nat → List Glyph → List Nat
  | _, [] => []
  | first, glyph :: glyphs => first :: starts (first + glyph.bytes.length) glyphs

theorem length_starts (first : Nat) (glyphs : List Glyph) :
    (starts first glyphs).length = glyphs.length := by
  induction glyphs generalizing first with
  | nil => rfl
  | cons glyph glyphs inductionHypothesis => exact congrArg (· + 1) (inductionHypothesis _)

theorem le_of_mem_starts {first start : Nat} {glyphs : List Glyph}
    (member : start ∈ starts first glyphs) : first ≤ start := by
  induction glyphs generalizing first with
  | nil => cases member
  | cons glyph glyphs inductionHypothesis =>
      rcases List.mem_cons.mp member with rfl | later
      · exact Nat.le_refl _
      · exact Nat.le_trans (Nat.le_add_right _ _) (inductionHypothesis later)

/-- No glyph starts before the first one. -/
theorem countP_starts_of_le {first stop : Nat} (before : stop ≤ first) (glyphs : List Glyph) :
    (starts first glyphs).countP (fun start => start < stop) = 0 := by
  rw [List.countP_eq_zero]
  intro start member
  have behind := le_of_mem_starts member
  simp only [decide_eq_true_eq]
  omega

namespace Consists

variable {glyphs : List Glyph}

/-- Of bytes that are cut off, as many characters are shown as glyphs start before the cut. -/
theorem length_decode_take (consists : Consists bytes glyphs) (first count : Nat) :
    (decode (bytes.take count)).length =
      (starts first glyphs).countP fun start => start < first + count := by
  induction consists generalizing first count with
  | nil => rw [List.take_nil, decode_nil, starts, List.countP_nil, List.length_nil]
  | @cons bytes glyph glyphs leads more inductionHypothesis =>
      have shape := leads.eq_append
      -- The cut is in front of the first glyph, within it, or behind it.
      rcases Nat.eq_zero_or_pos count with rfl | some
      · rw [List.take_zero, decode_nil, Nat.add_zero, countP_starts_of_le (Nat.le_refl _),
          List.length_nil]
      have here : first < first + count := Nat.lt_add_of_pos_right some
      simp only [starts, List.countP_cons, here, decide_true, if_true]
      rcases Nat.lt_or_ge count glyph.bytes.length with short | long
      · rw [shape, List.take_append_of_le_length (Nat.le_of_lt short), leads.decode_take some short,
          countP_starts_of_le (by omega), List.length_singleton]
      · have still : glyph.bytes <+: bytes.take count := by
          rw [List.prefix_take_iff]
          exact ⟨leads.ahead, long⟩
        have sum : first + glyph.bytes.length + (count - glyph.bytes.length) = first + count := by
          omega
        rw [(leads.of_isPrefix (List.take_prefix _ _) still).decode_eq, List.length_cons,
          List.drop_take, inductionHypothesis (first + glyph.bytes.length), sum]

/-- Where a glyph starts, as many start before as the number of the glyph says, and it is at the
front of the bytes from there on. -/
theorem leads_of_start (consists : Consists bytes glyphs) {first index count : Nat}
    (start : (starts first glyphs)[index]? = some (first + count)) :
    (starts first glyphs).countP (fun start => start < first + count) = index ∧
      ∃ glyph, glyphs[index]? = some glyph ∧ Leads (bytes.drop count) glyph := by
  induction consists generalizing first index count with
  | nil => cases start
  | @cons bytes glyph glyphs leads more inductionHypothesis =>
      cases index with
      | zero =>
          have here : first = first + count := Option.some.inj start
          obtain rfl : count = 0 := by omega
          exact ⟨countP_starts_of_le (Nat.le_refl _) _, glyph, rfl, leads⟩
      | succ index =>
          have later : (starts (first + glyph.bytes.length) glyphs)[index]? =
              some (first + count) := start
          have behind := le_of_mem_starts (List.mem_of_getElem? later)
          have positive := leads.length_pos
          have reached : glyph.bytes.length ≤ count := by omega
          obtain ⟨further, rfl⟩ := Nat.exists_eq_add_of_le reached
          rw [← Nat.add_assoc] at later ⊢
          obtain ⟨counted, found, listed, foundLeads⟩ := inductionHypothesis later
          have here : first < first + glyph.bytes.length + further := by omega
          rw [List.drop_drop] at foundLeads
          refine ⟨?_, found, listed, foundLeads⟩
          simp only [starts, List.countP_cons, here, decide_true, if_true, counted]

end Consists

end Descent.Text.Utf8
