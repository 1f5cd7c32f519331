import Descent.Proofs.Lines
import Descent.Proofs.Machine
import Descent.Proofs.Position
import Descent.Proofs.Quota

/-!
# Nothing goes wrong

A machine that runs a parser from a place in a source never does an operation that goes wrong,
and ends as the run does, as long as the source has no more tokens than memory has room for. Each
operation is safe for a reason of its own. Positions lie in the source, because no parser leaves
the source that it is given. Matches that are counted without a limit leave fewer tokens each,
and those that are counted up to a limit are no more than a signed word. A bound is taken from
another one only if neither is negative. And a line starts before whatever stands on it.
-/

namespace Descent

variable {τ α β γ : Type}

/-! ## Words -/

namespace Word

/-- What memory has room for can be counted. -/
theorem lt_size_of_le [Machine] {count : Nat} (short : count ≤ longest) : count < size := by
  rw [size_eq]
  omega

theorem sub_of_le {left right : Nat} (le : right ≤ left) : sub left right = .ok (left - right) := by
  rw [sub, if_pos le]

theorem slice_of_le {items : List α} {start stop : Nat} (order : start ≤ stop)
    (within : stop ≤ items.length) :
    slice items start stop = .ok ((items.drop start).take (stop - start)) := by
  rw [slice, if_pos ⟨order, within⟩]

/-- From the start of a list as much as is there can be taken. -/
theorem slice_min (items : List α) (count : Nat) :
    slice items 0 (min count items.length) = .ok (items.take count) := by
  rw [slice_of_le (Nat.zero_le _) (Nat.min_le_right _ _), List.drop_zero, Nat.sub_zero,
    ← List.take_eq_take_min]

theorem toNatClampNeg_le_longest [Machine] (count : Int64) : count.toNatClampNeg ≤ longest := by
  have room := le_longest
  have greatest := count.toInt_lt
  show count.toInt.toNat ≤ longest
  omega

theorem ofCount_of_nonneg [Machine] {count : Int64} (least : 0 ≤ count) :
    ofCount count = .ok (Bounds.toWord Machine.bits count) := by
  rw [ofCount, if_pos ⟨least, lt_size_of_le (toNatClampNeg_le_longest count)⟩,
    Bounds.toWord_of_nonneg Machine.wide least]

/-- Of two bounds that make sense the lower one can be taken from the upper one, and what is left
is not negative. -/
theorem difference_of_le {upper lower : Int64} (least : 0 ≤ lower) (proper : lower ≤ upper) :
    difference upper lower = .ok (upper - lower) ∧ 0 ≤ upper - lower := by
  refine ⟨?_, Bounds.sub_nonneg_of_le least proper⟩
  have greatest := upper.toInt_lt
  rw [Int64.le_iff_toInt_le, Int64.toInt_zero] at least
  rw [Int64.le_iff_toInt_le] at proper
  rw [difference, if_pos]
  rw [Width.contains_iff]
  simp only [Width.least, Width.greatest]
  omega

end Word

section Machines

variable [Machine]

/-- Whatever the bounds are, the machine asks for what they ask for. -/
theorem Bounds.wordQuota_eq (bounds : Bounds) : bounds.wordQuota = .ok bounds.quota := by
  rw [← quota_of_wide bounds Machine.wide]
  unfold wordQuota quota
  by_cases negative : bounds.lower < 0
  · rw [if_pos negative, if_pos negative]
    rfl
  rw [if_neg negative, if_neg negative]
  have least := Int64.not_lt.mp negative
  cases bounds.upper with
  | none =>
      rw [Word.ofCount_of_nonneg least]
      rfl
  | some upper =>
      by_cases empty : upper < bounds.lower
      · simp only [if_pos empty]
        rfl
      · obtain ⟨apart, more⟩ := Word.difference_of_le least (Int64.not_lt.mp empty)
        simp only [if_neg empty, Word.ofCount_of_nonneg least, apart]
        simp only [Fault.ok_bind, Word.ofCount_of_nonneg more]
        rfl

/-- No limit on further matches is beyond a signed word. -/
theorem Bounds.extra_le {bounds : Bounds} {quota : Quota} (valid : bounds.quota = .ok quota)
    {limit : Nat} (limited : quota.extra = some limit) : limit ≤ Word.longest := by
  simp only [Bounds.quota] at valid
  split at valid
  · cases valid
  next sensible =>
  split at valid
  · cases valid
    cases limited
  · next upper bounded =>
      split at valid
      · cases valid
      · next proper =>
          cases valid
          cases limited
          have more := sub_nonneg_of_le (Int64.not_lt.mp sensible) (Int64.not_lt.mp proper)
          rw [toWord_of_nonneg (Nat.le_refl 64) more]
          exact Word.toNatClampNeg_le_longest _

/-! ## Cursors -/

/-- The cursor of a machine at this place. -/
def Cursor.spot (cursor : Cursor τ) : Spot τ := ⟨cursor.source, cursor.position⟩

/-- The failure as a machine has it. -/
def ParseError.stop (error : ParseError τ) : Stop τ := ⟨error.remainder.spot, error.cause⟩

/-- The outcome as a machine has it. -/
def Outcome.ending : Outcome τ α → Ending τ α
  | .ok found => .ok (found.value, found.rest.spot)
  | .error error => .error error.stop

namespace Cursor

/-- A sum that is no word is behind the end of a source whose length is one. -/
theorem advance_spot_of_lt {cursor : Cursor τ} (fits : cursor.length < Word.size) (steps : Nat) :
    cursor.spot.advance steps = (cursor.advance steps).spot := by
  have within := cursor.position_le
  simp only [length] at fits
  simp only [Spot.advance, spot, advance, Spot.mk.injEq, true_and]
  omega

theorem advance_spot {cursor : Cursor τ} (short : cursor.length ≤ Word.longest) (steps : Nat) :
    cursor.spot.advance steps = (cursor.advance steps).spot :=
  advance_spot_of_lt (Word.lt_size_of_le short) steps

/-- Behind a token of the source there is still a position. -/
theorem peek_spot_of_lt {cursor : Cursor τ} (fits : cursor.length < Word.size) :
    cursor.spot.peek = .ok (cursor.peek.map fun (token, next) => (token, next.spot)) := by
  simp only [length] at fits
  simp only [Spot.peek, spot, peek]
  by_cases within : cursor.position < cursor.source.tokens.size
  · have room : cursor.position + 1 < Word.size := Nat.lt_of_le_of_lt within fits
    rw [Array.getElem?_eq_getElem within, dif_pos within]
    simp only [Word.add_of_lt room]
    rfl
  · rw [Array.getElem?_eq_none (Nat.not_lt.mp within), dif_neg within]
    rfl

theorem peek_spot {cursor : Cursor τ} (short : cursor.length ≤ Word.longest) :
    cursor.spot.peek = .ok (cursor.peek.map fun (token, next) => (token, next.spot)) :=
  peek_spot_of_lt (Word.lt_size_of_le short)

omit [Machine] in
/-- What is left of a source can be sliced from it, wherever a cursor is. -/
theorem remaining_spot (cursor : Cursor τ) : cursor.spot.remaining = .ok cursor.remaining := by
  have within := cursor.position_le
  simp only [Spot.remaining, spot, Nat.min_eq_left within]
  rw [Word.slice_of_le within (Nat.le_of_eq Array.length_toList.symm), remaining_eq,
    List.take_of_length_le (by simp)]

end Cursor

/-- A machine finds the same in place of what was wanted. -/
theorem ParseError.stop_unexpected [Token τ] {cursor : Cursor τ}
    (short : cursor.length ≤ Word.longest) (expected : String) :
    Stop.unexpected cursor.spot expected = .ok (ParseError.unexpected cursor expected).stop := by
  simp only [Stop.unexpected, ParseError.unexpected, cursor.peek_spot short]
  cases cursor.peek <;> rfl

omit [Machine] in
/-- A machine picks the same of two failures. -/
theorem ParseError.stop_furthest (first second : ParseError τ) :
    (first.furthest second).stop = first.stop.furthest second.stop :=
  apply_ite ParseError.stop _ _ _

/-! ## Procedures -/

/-- In all sources that memory has room for, the procedure ends as the reading does, without
anything going wrong. -/
def Procedure.Follows (procedure : Procedure τ α) (reading : Reading τ α) : Prop :=
  ∀ cursor : Cursor τ, cursor.length ≤ Word.longest →
    procedure cursor.spot = (reading cursor).map fun outcome => .ok outcome.ending

/-- A source that memory has room for is the same behind a match. -/
theorem Reading.Forward.rest_short {reading : Reading τ α} (forward : reading.Forward)
    {cursor : Cursor τ} {found : Match τ α} (ends : reading cursor = some (.ok found))
    (short : cursor.length ≤ Word.longest) : found.rest.length ≤ Word.longest := by
  have leads : cursor.LeadsTo found.rest := forward cursor _ ends
  rw [leads.length_eq]
  exact short

namespace Procedure.Follows

/-! ### Single steps -/

theorem pure (value : α) : (Procedure.pure (τ := τ) value).Follows (.pure value) :=
  fun _ _ => rfl

theorem fail (cause : Cause) : (Procedure.fail (τ := τ) (α := α) cause).Follows (.fail cause) :=
  fun _ _ => rfl

theorem satisfy [Token τ] (expected : String) (accepts : τ → Bool) :
    (Procedure.satisfy expected accepts).Follows (.satisfy expected accepts) := by
  intro cursor short
  simp only [Procedure.satisfy, Reading.satisfy, ParseError.unexpected, cursor.peek_spot short]
  cases cursor.peek with
  | none => rfl
  | some step =>
      obtain ⟨token, next⟩ := step
      simp only [Option.map_some, Fault.ok_bind]
      cases accepts token <;> rfl

theorem tokens [Token τ] (run : List τ) : (Procedure.tokens run).Follows (.tokens run) := by
  intro cursor short
  have window : cursor.remaining.take run.length = cursor.window run.length := by
    rw [cursor.remaining_eq, cursor.window_eq]
  simp only [Procedure.tokens, Reading.tokens, cursor.remaining_spot, Word.slice_min,
    Fault.ok_bind, window]
  cases cursor.window run.length == run with
  | true =>
      simp only [↓reduceIte, cursor.advance_spot short]
      rfl
  | false => rfl

theorem eof [Token τ] : (Procedure.eof (τ := τ)).Follows .eof := by
  intro cursor short
  have same : cursor.spot.atEnd = cursor.atEnd := rfl
  simp only [Procedure.eof, Reading.eof, ParseError.stop_unexpected short, same]
  cases cursor.atEnd <;> rfl

/-! ### One procedure after another -/

variable {procedure first second : Procedure τ α} {reading firstReading secondReading : Reading τ α}

theorem andThen (follows : procedure.Follows reading) (forward : reading.Forward)
    {next : α → Spot τ → Option (Except Fault (Ending τ β))}
    {nextReading : Match τ α → Option (Outcome τ β)}
    (same : ∀ found : Match τ α, found.rest.length ≤ Word.longest →
      next found.value found.rest.spot =
        (nextReading found).map fun outcome => .ok outcome.ending) :
    (procedure.andThen next).Follows (reading.andThen nextReading) := by
  intro cursor short
  rw [Procedure.andThen, follows cursor short, Reading.andThen]
  cases ends : reading cursor with
  | none => rfl
  | some outcome =>
      cases outcome with
      | error error => rfl
      | ok found => exact same found (forward.rest_short ends short)

theorem map (follows : procedure.Follows reading) (forward : reading.Forward)
    (function : α → β) : (procedure.map function).Follows (reading.map function) :=
  follows.andThen forward fun _ _ => rfl

theorem flatMap (follows : procedure.Follows reading) (forward : reading.Forward)
    {binder : α → Procedure τ β} {choose : α → Reading τ β}
    (chosen : ∀ output, (binder output).Follows (choose output)) :
    (procedure.flatMap binder).Follows (reading.flatMap choose) :=
  follows.andThen forward fun found short => chosen found.value found.rest short

theorem sequence {other : Procedure τ β} {otherReading : Reading τ β}
    (follows : procedure.Follows reading) (forward : reading.Forward)
    (otherFollows : other.Follows otherReading) (otherForward : otherReading.Forward)
    (combine : α → β → γ) :
    (Procedure.sequence combine procedure other).Follows
      (.sequence combine reading otherReading) :=
  follows.flatMap forward fun output => otherFollows.map otherForward (combine output)

theorem choice (firstFollows : first.Follows firstReading)
    (secondFollows : second.Follows secondReading) :
    (Procedure.choice first second).Follows (.choice firstReading secondReading) := by
  intro cursor short
  simp only [Procedure.choice, Reading.choice, firstFollows cursor short]
  cases firstReading cursor with
  | none => rfl
  | some outcome =>
      cases outcome with
      | ok found => rfl
      | error error =>
          simp only [secondFollows cursor short]
          cases secondReading cursor with
          | none => rfl
          | some outcome =>
              cases outcome with
              | ok found => rfl
              | error other =>
                  simp only [Option.map_some, Outcome.ending, ParseError.stop_furthest]

/-! ### Repetition -/

theorem eq_some (follows : procedure.Follows reading) {cursor : Cursor τ}
    (short : cursor.length ≤ Word.longest) {outcome : Outcome τ α}
    (ends : reading cursor = some outcome) :
    procedure cursor.spot = some (.ok outcome.ending) := by
  rw [follows cursor short, ends]
  rfl

theorem shortensAt (follows : procedure.Follows reading) (forward : reading.Forward)
    {cursor : Cursor τ} (short : cursor.length ≤ Word.longest) :
    procedure.ShortensAt cursor.spot := by
  intro value next succeeded moved
  rw [follows cursor short] at succeeded
  obtain ⟨outcome, reads, same⟩ := Option.map_eq_some_iff.mp succeeded
  cases outcome with
  | error error => cases same
  | ok found =>
      cases same
      exact forward.remainingLength_lt reads moved

/-- Both kinds of loops end in the same way with a failure. -/
theorem repeating_of_error (follows : procedure.Follows reading) {cursor : Cursor τ}
    (short : cursor.length ≤ Word.longest) {error : ParseError τ}
    (ends : reading cursor = some (.error error)) {limit : Option Nat} {matched : Nat}
    (room : limit.all (matched < ·) = true) {push : γ → α → γ} {items : γ} :
    procedure.repeating push limit matched items cursor.spot =
      (if error.isRecoverable then some (.ok ⟨items, cursor⟩) else some (.error error)).map
        fun outcome => .ok (Outcome.ending outcome) := by
  have same : error.stop.isRecoverable = error.isRecoverable := rfl
  rw [Procedure.repeating_of_error room (follows.eq_some short ends), same]
  cases error.isRecoverable <;> rfl

/-- Without a limit each match that is counted leaves fewer tokens, so the counter does not go
beyond what is counted already and the tokens that are left. -/
theorem unlimited (follows : procedure.Follows reading) (forward : reading.Forward)
    {push : γ → α → γ} {items : γ} {cursor : Cursor τ} (short : cursor.length ≤ Word.longest)
    {matched : Nat} (room : matched + cursor.remainingLength < Word.size) :
    procedure.repeating push none matched items cursor.spot =
      (reading.unlimited push items cursor).map fun outcome => .ok outcome.ending := by
  cases ends : reading cursor with
  | none =>
      rw [Procedure.repeating, Reading.unlimited, follows cursor short, ends]
      rfl
  | some outcome =>
      have answers := follows.eq_some short ends
      cases outcome with
      | error error =>
          rw [follows.repeating_of_error short ends rfl, Reading.unlimited, ends]
      | ok found =>
          cases still : found.rest == cursor with
          | true =>
              rw [Procedure.repeating_of_still answers still, Reading.unlimited, ends]
              simp only [still, ↓reduceIte]
              rfl
          | false =>
              have shorter := forward.remainingLength_lt ends still
              have moved : ((none : Option Nat).isNone && found.rest.spot == cursor.spot) = false :=
                still
              have fits : matched + 1 < Word.size := by omega
              rw [Procedure.repeating_of_ok rfl answers moved fits
                  (follows.shortensAt forward short),
                Reading.unlimited_of_ok ends still shorter]
              exact unlimited follows forward (forward.rest_short ends short) (by omega)
termination_by cursor.remainingLength

/-- Up to a limit the counter stays below it. -/
theorem limited (follows : procedure.Follows reading) (forward : reading.Forward)
    {push : γ → α → γ} {limit matched left : Nat} (fits : limit < Word.size)
    (counted : matched + left = limit) {items : γ} {cursor : Cursor τ}
    (short : cursor.length ≤ Word.longest) :
    procedure.repeating push (some limit) matched items cursor.spot =
      (reading.limited push left items cursor).map fun outcome => .ok outcome.ending := by
  induction left generalizing matched items cursor with
  | zero =>
      have full : ¬ matched < limit := by omega
      rw [Procedure.repeating, Reading.limited]
      simp only [Option.all_some, full, decide_false, Bool.false_eq_true, ↓reduceIte]
      rfl
  | succ left inductionHypothesis =>
      have room : (some limit).all (matched < ·) = true := decide_eq_true (by omega)
      cases ends : reading cursor with
      | none =>
          rw [Procedure.repeating, if_pos room, Reading.limited, follows cursor short, ends]
          rfl
      | some outcome =>
          have answers := follows.eq_some short ends
          cases outcome with
          | error error =>
              rw [follows.repeating_of_error short ends room, Reading.limited, ends]
          | ok found =>
              rw [Procedure.repeating_of_ok room answers rfl (by omega)
                (follows.shortensAt forward short), Reading.limited, ends]
              exact inductionHypothesis (by omega) (forward.rest_short ends short)

/-- A loop starts with nothing counted. -/
theorem extra (follows : procedure.Follows reading) (forward : reading.Forward)
    {push : γ → α → γ} {limit : Option Nat} (fits : ∀ most, limit = some most → most ≤ Word.longest)
    {items : γ} {cursor : Cursor τ} (short : cursor.length ≤ Word.longest) :
    procedure.repeating push limit 0 items cursor.spot =
      (reading.extra push limit items cursor).map fun outcome => .ok outcome.ending := by
  have room : Word.longest < Word.size := Word.lt_size_of_le (Nat.le_refl _)
  cases limit with
  | none =>
      apply follows.unlimited forward short
      have within : cursor.remainingLength ≤ cursor.length := Nat.sub_le _ _
      omega
  | some limit =>
      have fits := fits limit rfl
      exact follows.limited forward (by omega) (Nat.zero_add limit) short

theorem required (follows : procedure.Follows reading) (forward : reading.Forward)
    {push : γ → α → γ} {onward : γ → Spot τ → Option (Except Fault (Ending τ γ))}
    {onwardReading : γ → Cursor τ → Option (Outcome τ γ)}
    (goesOn : ∀ items (cursor : Cursor τ), cursor.length ≤ Word.longest →
      onward items cursor.spot =
        (onwardReading items cursor).map fun outcome => .ok outcome.ending)
    (count : Nat) (items : γ) {cursor : Cursor τ} (short : cursor.length ≤ Word.longest) :
    procedure.requiring push onward count items cursor.spot =
      (reading.required push onwardReading count items cursor).map
        fun outcome => .ok outcome.ending := by
  induction count generalizing items cursor with
  | zero => exact goesOn items cursor short
  | succ count inductionHypothesis =>
      apply follows.andThen forward _ cursor short
      intro found restShort
      exact inductionHypothesis (push items found.value) restShort

theorem zeroOrMore (follows : procedure.Follows reading) (forward : reading.Forward)
    (collector : Collector α γ) :
    (procedure.zeroOrMore collector).Follows (reading.zeroOrMore collector) :=
  fun _ short => follows.extra forward (by nofun) short

theorem oneOrMore (follows : procedure.Follows reading) (forward : reading.Forward)
    (collector : Collector α γ) :
    (procedure.oneOrMore collector).Follows (reading.oneOrMore collector) := by
  intro cursor short
  apply follows.andThen forward _ cursor short
  intro found restShort
  have same : (found.rest.spot == cursor.spot) = (found.rest == cursor) := rfl
  simp only [same]
  cases found.rest == cursor with
  | true => rfl
  | false => exact follows.extra forward (by nofun) restShort

theorem count (follows : procedure.Follows reading) (forward : reading.Forward) (bounds : Bounds)
    (collector : Collector α γ) :
    (procedure.count bounds collector).Follows (reading.count bounds collector) := by
  intro cursor short
  rw [Procedure.count, Reading.count, bounds.wordQuota_eq]
  cases valid : bounds.quota with
  | error cause => rfl
  | ok quota =>
      apply follows.required forward _ quota.required collector.start short
      intro items cursor short
      by_cases full : quota.extra = some 0
      · rw [if_pos full, full]
        rfl
      · rw [if_neg full]
        exact follows.extra forward (fun most limited => Bounds.extra_le valid limited) short

end Procedure.Follows

/-! ## Parsers -/

section Parsers

variable {ρ : Type} [Token τ] {Out : ρ → Type}

theorem Parser.follows_reading {enter : (name : ρ) → Procedure τ (Out name)}
    {enterReading : (name : ρ) → Reading τ (Out name)}
    (follows : ∀ name, (enter name).Follows (enterReading name))
    (forward : ∀ name, (enterReading name).Forward) (parser : Parser τ Out α) :
    (parser.procedure enter).Follows (parser.reading enterReading) := by
  have onward {β : Type} (parser : Parser τ Out β) : (parser.reading enterReading).Forward :=
    parser.forward_reading forward
  induction parser with
  | satisfy note expected accepts => exact .satisfy expected accepts
  | tokens run => exact .tokens run
  | eof => exact .eof
  | pure value => exact .pure value
  | fail expected actual => exact .fail _
  | map note function parser ih => exact ih.map (onward parser) function
  | flatMap note binder parser binderIH parserIH => exact parserIH.flatMap (onward parser) binderIH
  | sequence note combine first second firstIH secondIH =>
      exact firstIH.sequence (onward first) secondIH (onward second) combine
  | twice parser ih => exact ih.sequence (onward parser) ih (onward parser) Prod.mk
  | choice first second firstIH secondIH => exact firstIH.choice secondIH
  | zeroOrMore collector parser ih => exact ih.zeroOrMore (onward parser) collector
  | oneOrMore collector parser ih => exact ih.oneOrMore (onward parser) collector
  | count bounds collector parser ih => exact ih.count (onward parser) bounds collector
  | delayed name parser ih => exact ih
  | rule name => exact follows name
  | tap name parser ih => exact ih

namespace Rules

theorem follows_readingAt (rules : Rules τ Out) (depth : Nat) (name : ρ) :
    (rules.procedureAt depth name).Follows (rules.readingAt depth name) := by
  induction depth generalizing name with
  | zero => exact fun _ _ => rfl
  | succ depth inductionHypothesis =>
      exact Parser.follows_reading inductionHypothesis (rules.forward_readingAt depth)
        (rules.body name)

theorem follows_reading (rules : Rules τ Out) (depth : Nat) (parser : Parser τ Out α) :
    (rules.procedure depth parser).Follows (rules.reading depth parser) :=
  Parser.follows_reading (rules.follows_readingAt depth) (rules.forward_readingAt depth) parser

end Rules

end Parsers

/-! ## Locations and reports -/

section Reports

variable [Token τ]

/-- The invariant of the search for a line: the line that has been found last starts in front of
the index, and there are no more lines than tokens in front of it and one. -/
theorem Spot.findLine_eq {position index line lineStart : Nat} {rest : List τ}
    (started : lineStart ≤ index) (few : line ≤ index + 1) (ahead : index ≤ position)
    (within : position ≤ index + rest.length) (short : index + rest.length ≤ Word.longest) :
    ∃ number start, findLine position index line lineStart rest = .ok (number, start) ∧
      start ≤ position ∧ number ≤ position + 1 ∧
      (rest.take (position - index)).foldl Location.after ⟨line, index - lineStart⟩ =
        ⟨number, position - start⟩ := by
  induction rest generalizing index line lineStart with
  | nil =>
      rw [List.length_nil] at within
      cases Nat.le_antisymm ahead within
      exact ⟨line, lineStart, rfl, started, few, by simp⟩
  | cons token rest inductionHypothesis =>
      rw [List.length_cons] at within short
      by_cases reached : position ≤ index
      · cases Nat.le_antisymm ahead reached
        refine ⟨line, lineStart, if_pos reached, started, few, ?_⟩
        rw [Nat.sub_self, List.take_zero, List.foldl_nil]
      have room : index + 2 < Word.size := by
        have many := Word.le_longest
        rw [Word.size_eq]
        omega
      have further : position - index = position - (index + 1) + 1 := by omega
      rw [findLine, if_neg reached, Word.add_of_lt (by omega), further, List.take_succ_cons,
        List.foldl_cons, Location.after]
      simp only [Fault.ok_bind]
      cases Token.isNewline token with
      | true =>
          rw [if_pos rfl, if_pos rfl, Word.add_of_lt (by omega)]
          have onward := @inductionHypothesis (index + 1) (line + 1) (index + 1) (Nat.le_refl _)
            (by omega) (by omega) (by omega) (by omega)
          rw [Nat.sub_self] at onward
          exact onward
      | false =>
          rw [if_neg Bool.false_ne_true, if_neg Bool.false_ne_true]
          have onward := @inductionHypothesis (index + 1) line lineStart (by omega) (by omega)
            (by omega) (by omega) (by omega)
          rw [Nat.sub_add_comm started] at onward
          exact onward

/-- A machine finds the location of a cursor, and the number of its line is no more than the
number of tokens in front of it and one. -/
theorem Cursor.locate_spot {cursor : Cursor τ} (short : cursor.length ≤ Word.longest) :
    cursor.spot.locate = .ok (.locate cursor.source.tokens.toList cursor.position) ∧
      (Location.locate cursor.source.tokens.toList cursor.position).line ≤ cursor.position + 1 := by
  have within := cursor.position_le
  obtain ⟨number, start, found, le, few, located⟩ := Spot.findLine_eq (Nat.le_refl 0)
    (Nat.le_refl 1) (Nat.zero_le cursor.position)
    (show cursor.position ≤ 0 + cursor.source.tokens.toList.length by simpa using within)
    (by simpa [length] using short)
  have same : Location.locate cursor.source.tokens.toList cursor.position =
      ⟨number, cursor.position - start⟩ := located
  constructor
  · rw [same, Spot.locate, spot, found]
    simp only [Fault.ok_bind, Word.sub_of_le le]
    rfl
  · rw [same]
    exact few

namespace Report

omit [Machine] in
theorem length_lines_le (tokens : List τ) : (lines tokens).length ≤ tokens.length + 1 := by
  induction tokens with
  | nil => exact Nat.le_refl 1
  | cons token rest inductionHypothesis =>
      cases ends : Token.isNewline token with
      | true =>
          rw [lines_cons_of_newline ends, List.length_cons, List.length_cons]
          exact Nat.succ_le_succ inductionHypothesis
      | false =>
          obtain ⟨line, others, shape⟩ := exists_lines_eq_cons rest
          rw [shape] at inductionHypothesis
          rw [lines_cons_of_not_newline ends shape]
          exact Nat.le_succ_of_le inductionHypothesis

omit [Machine] in
theorem wordExcerpt_eq (location : Location) (line : List τ) (number : Nat) :
    wordExcerpt location (location.line + 2) line number = .ok (excerpt location line number) := by
  unfold wordExcerpt excerpt
  split
  · rfl
  split
  · next same =>
      rw [Word.slice_min, same]
      rfl
  · rfl

theorem wordExcerpts_eq (location : Location) {index : Nat} {others : List (List τ)}
    (short : index + others.length < Word.size) :
    wordExcerpts location (location.line + 2) index others =
      .ok ((others.zipIdx (index + 1)).flatMap fun (line, number) =>
        excerpt location line number) := by
  induction others generalizing index with
  | nil => rfl
  | cons line others inductionHypothesis =>
      rw [List.length_cons] at short
      rw [wordExcerpts, Word.add_of_lt (by omega)]
      simp only [Fault.ok_bind, wordExcerpt_eq]
      rw [inductionHypothesis (by omega)]
      rfl

/-- A machine shows the same lines around a location, if it can count all lines and two more
than stand in front of the location. -/
theorem wordContext_eq {tokens : List τ} {location : Location}
    (short : tokens.length ≤ Word.longest) (few : location.line ≤ tokens.length + 1) :
    wordContext tokens location = .ok (context tokens location) := by
  have all := length_lines_le tokens
  have many := Word.le_longest
  have room : location.line + 2 < Word.size := by
    rw [Word.size_eq]
    omega
  have countable : 0 + (lines tokens).length < Word.size := by
    rw [Word.size_eq]
    omega
  rw [wordContext, Word.add_of_lt room]
  exact wordExcerpts_eq location countable

end Report

end Reports

namespace Rules

variable {ρ : Type} [Token τ] {Out : ρ → Type}

/-- Nothing goes wrong in a run of any parser, from any start in a source that memory has room
for. The machine ends as the run does, and has no end where the run has none; in particular it
asks for what bounds ask for, whatever they are. Wherever the run leaves off, what is left of
the source can be sliced from it. For each error that the run ends with, nothing goes wrong when
it is located, nor when the lines around it are shown. -/
theorem run_faultless (rules : Rules τ Out) (depth : Nat) (parser : Parser τ Out α)
    {source : Source τ} (fits : source.tokens.size ≤ Word.longest) (offset : Nat) (site : Site)
    (memory : Memory) :
    rules.procedure depth parser ((Spot.start source).advance offset) =
      (rules.run depth parser site memory ((Cursor.start source).advance offset)).map
        (fun reply => .ok reply.outcome.ending) ∧
    (∀ bounds : Bounds, bounds.wordQuota = .ok bounds.quota) ∧
    ∀ reply,
      rules.run depth parser site memory ((Cursor.start source).advance offset) = some reply →
      reply.outcome.place.spot.remaining = .ok reply.outcome.place.remaining ∧
      ∀ error, reply.outcome = .error error →
        error.remainder.spot.locate = .ok error.location ∧
        Report.wordContext error.remainder.source.tokens.toList error.location =
          .ok (Report.context error.remainder.source.tokens.toList error.location) := by
  have short : (Cursor.start source).length ≤ Word.longest := fits
  have starts : (Spot.start source).advance offset = ((Cursor.start source).advance offset).spot :=
    Cursor.advance_spot short offset
  refine ⟨?ends, Bounds.wordQuota_eq, fun reply replies => ⟨Cursor.remaining_spot _, ?errors⟩⟩
  case ends =>
    have follows := rules.follows_reading depth parser ((Cursor.start source).advance offset) short
    rw [starts, follows, ← rules.outcome_run depth parser site memory, Option.map_map]
    rfl
  case errors =>
    intro error failed
    have leads : ((Cursor.start source).advance offset).LeadsTo error.remainder := by
      have onward := rules.forward_reading depth parser _ _ (reading_of_run replies)
      rw [failed] at onward
      exact onward
    have remainderShort : error.remainder.length ≤ Word.longest := by
      rw [leads.length_eq]
      exact short
    obtain ⟨located, few⟩ := Cursor.locate_spot remainderShort
    have within := error.remainder.position_le
    refine ⟨located, Report.wordContext_eq ?_ ?_⟩
    · rw [Array.length_toList]
      exact remainderShort
    · rw [Array.length_toList]
      exact Nat.le_trans few (Nat.succ_le_succ within)

end Rules

end Machines

namespace Rules

/-- Two brackets with two dots in them. -/
def twoDots : Source Char := ⟨0, #['[', '[', '.', '.']⟩

/-- The inner bracket is entered alone, and is not closed behind its first dot. -/
theorem run_faultless_twoDots :
    twoDots.tokens.size ≤ Word.longest ∧
      ∃ error : ParseError Char,
        brackets.procedure 3 (.rule ()) ((Spot.start twoDots).advance 1) =
          some (.ok (.error error.stop)) ∧
        error.remainder.spot.locate = .ok ⟨1, 3⟩ := by
  have fits : twoDots.tokens.size ≤ Word.longest := by decide
  obtain ⟨ends, _, more⟩ := brackets.run_faultless 3 (.rule ()) fits 1 [] .blank
  have fails : (brackets.run 3 (.rule ()) [] .blank ((Cursor.start twoDots).advance 1)).map
      (fun reply => match reply.outcome with
        | .ok _ => none
        | .error error => some error.location) = some (some ⟨1, 3⟩) := by decide +kernel
  obtain ⟨⟨outcome, memory, log⟩, replies, located⟩ := Option.map_eq_some_iff.mp fails
  cases outcome with
  | ok found => cases located
  | error error =>
      refine ⟨fits, error, ?_, ?_⟩
      · rw [ends, replies]
        rfl
      · rw [((more _ replies).2 error rfl).1]
        exact congrArg Except.ok (Option.some.inj located)

end Rules

end Descent
