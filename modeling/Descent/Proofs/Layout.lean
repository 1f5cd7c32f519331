import Descent.Proofs.Lines
import Descent.Proofs.Locality

/-!
# The layout of reports

A report shows the failing line and up to two lines on either side of it, in order. The
failing line alone is marked, and below it stands the caret. Where that points to is a
question of how tokens are written: if a line of tokens is written as its tokens one by one
with separators between them, then the caret stands under the first character of the failing
token, and under the end of the line where there is no such token on it.

What a report shows of a line may itself go over several lines on the screen, for a token may
be written with line breaks in it. The lines counted here are those that tokens end.
-/

namespace Descent

variable {τ : Type} [Token τ]

/-! ## Tokens in words -/

namespace Token

/-- The type writes several tokens as one by one, with separators between them. -/
def Joins (τ : Type) [Token τ] : Prop :=
  ∀ tokens : List τ,
    describeAll tokens = (separator τ).intercalate (tokens.map describe)

/-- Characters, numbers, truth values and texts are joined, and so are all tokens that do not
say otherwise. -/
theorem joins_scalars :
    Joins Char ∧ Joins UInt16 ∧ Joins UInt32 ∧ Joins UInt64 ∧ Joins Int8 ∧ Joins Int16 ∧
      Joins Int32 ∧ Joins Int64 ∧ Joins Bool ∧ Joins String := by
  refine ⟨?_, ?_, ?_, ?_, ?_, ?_, ?_, ?_, ?_, ?_⟩ <;>
  · intro tokens
    rfl

/-- Tokens with a separator behind each of them. -/
def leadIn (tokens : List τ) : String :=
  String.join (tokens.map fun token => describe token ++ separator τ)

/-- Tokens with a separator in front of each of them. -/
def leadOut (tokens : List τ) : String :=
  String.join (tokens.map fun token => separator τ ++ describe token)

theorem Joins.describeAll_cons (joins : Joins τ) (token : τ) (tokens : List τ) :
    describeAll (token :: tokens) = describe token ++ leadOut tokens := by
  induction tokens generalizing token with
  | nil => simp [joins [token], leadOut]
  | cons next tokens ih =>
      have rest := ih next
      rw [joins, List.map_cons] at rest ⊢
      rw [List.map_cons, String.intercalate_cons_cons, rest, leadOut, leadOut, List.map_cons,
        String.join_cons]
      simp only [String.append_assoc]

/-- Each token of a text is written between those before it and those behind it. -/
theorem Joins.describeAll_append_cons (joins : Joins τ) (before after : List τ) (token : τ) :
    describeAll (before ++ token :: after) =
      leadIn before ++ describe token ++ leadOut after := by
  induction before with
  | nil => simp [joins.describeAll_cons, leadIn]
  | cons first before ih =>
      have nonempty : (before ++ token :: after).map (describe (τ := τ)) ≠ [] := by simp
      rw [List.cons_append, joins, List.map_cons, String.intercalate_cons_of_ne_nil nonempty,
        ← joins, ih, leadIn, leadIn, List.map_cons, String.join_cons]
      simp only [String.append_assoc]

/-- Before another token there is a separator, unless there is nothing before it at all. -/
theorem Joins.describeAll_append_separator (joins : Joins τ) {tokens : List τ}
    (nonempty : tokens ≠ []) : describeAll tokens ++ separator τ = leadIn tokens := by
  obtain ⟨before, last, rfl⟩ : ∃ before last, tokens = before ++ [last] :=
    ⟨_, _, (List.dropLast_append_getLast nonempty).symm⟩
  rw [joins.describeAll_append_cons, leadIn, leadIn, leadOut, List.map_append,
    String.join_append]
  simp [String.append_assoc]

end Token

namespace Report

/-! ## The caret -/

/-- The caret stands behind what is written before the token. -/
theorem column_eq_length_leadIn (joins : Token.Joins τ) (before after : List τ) (token : τ) :
    column (before ++ token :: after) before.length = (Token.leadIn before).length := by
  have within : ¬ (before ++ token :: after).length ≤ before.length := by simp
  rw [column, List.take_left]
  cases before with
  | nil => simp [joins [], Token.leadIn]
  | cons first before =>
      rw [← joins.describeAll_append_separator (List.cons_ne_nil first before),
        String.length_append]
      simp only [List.isEmpty_cons, Bool.false_or, decide_eq_true_eq, within, ↓reduceIte]

/-- Where the line has no more tokens, the caret stands behind all of it. -/
theorem column_length (line : List τ) :
    column line line.length = (Token.describeAll line).length := by
  simp [column]

/-! ## The lines around a location -/

/-- The numbers from a first one to just before a stop. -/
def numbers (first stop : Nat) : List Nat :=
  List.range' first (stop - first)

theorem mem_numbers {first stop number : Nat} :
    number ∈ numbers first stop ↔ first ≤ number ∧ number < stop := by
  rw [numbers, List.mem_range'_1]
  omega

theorem numbers_append {first stop : Nat} (middle : Nat) (start : first ≤ middle)
    (rest : middle ≤ stop) :
    numbers first stop = numbers first middle ++ numbers middle stop := by
  have next : first + (middle - first) = middle := by omega
  have total : (middle - first) + (stop - middle) = stop - first := by omega
  rw [numbers, numbers, numbers, ← total, ← List.range'_append_1, next]

theorem numbers_succ (number : Nat) : numbers number (number + 1) = [number] := by
  simp [numbers]

/-- A line that is shown but not marked. -/
def plain (tokens : List τ) (number : Nat) : String :=
  margin number false ++ Token.describeAll (lineAt tokens number)

/-- The failing line and the caret below it. -/
def failing (tokens : List τ) (location : Location) : List String :=
  [margin location.line true ++ Token.describeAll (lineAt tokens location.line),
    caret location.line (lineAt tokens location.line) location.offset]

theorem context_eq_flatMap (tokens : List τ) (location : Location) :
    context tokens location =
      (numbers 1 ((lines tokens).length + 1)).flatMap fun number =>
        excerpt location (lineAt tokens number) number := by
  have numbered : (lines tokens).zipIdx 1 =
      (numbers 1 ((lines tokens).length + 1)).map
        fun number => (lineAt tokens number, number) := by
    apply List.ext_getElem
    · simp [numbers]
    · intro index within _
      rw [List.length_zipIdx] at within
      simp [numbers, lineAt, within]
  rw [context, numbered, List.flatMap_map]

section Location

variable {tokens : List τ} {location : Location} {number : Nat}

theorem excerpt_of_far (line : List τ)
    (far : number < location.line - 2 ∨ location.line + 2 < number) :
    excerpt location line number = [] := by
  rw [excerpt, if_pos far]

theorem excerpt_of_near (apart : number ≠ location.line) (first : location.line - 2 ≤ number)
    (last : number ≤ location.line + 2) :
    excerpt location (lineAt tokens number) number = [plain tokens number] := by
  rw [excerpt, if_neg (by omega), if_neg apart, plain]

theorem excerpt_self :
    excerpt location (lineAt tokens location.line) location.line =
      failing tokens location := by
  rw [excerpt, if_neg (by omega), if_pos rfl, failing]

/-- Of a range of lines nothing is shown if all of them are too far away. -/
theorem flatMap_excerpt_of_far {first stop : Nat}
    (far : ∀ number, first ≤ number → number < stop →
      number < location.line - 2 ∨ location.line + 2 < number) :
    (numbers first stop).flatMap
      (fun number => excerpt location (lineAt tokens number) number) = [] := by
  rw [List.flatMap_eq_nil_iff]
  intro number member
  have bounds := mem_numbers.mp member
  exact excerpt_of_far _ (far number bounds.1 bounds.2)

/-- Of a range of lines all are shown, unmarked, if all of them are near enough. -/
theorem flatMap_excerpt_of_near {first stop : Nat}
    (near : ∀ number, first ≤ number → number < stop →
      number ≠ location.line ∧ location.line - 2 ≤ number ∧ number ≤ location.line + 2) :
    (numbers first stop).flatMap
        (fun number => excerpt location (lineAt tokens number) number) =
      (numbers first stop).map (plain tokens) := by
  rw [List.map_eq_flatMap]
  apply List.flatMap_congr
  intro number member
  have bounds := mem_numbers.mp member
  obtain ⟨apart, first, last⟩ := near number bounds.1 bounds.2
  exact excerpt_of_near apart first last

/-- Two lines before the failing one, or as many as there are, the failing one with the caret,
and two lines behind it, or as many as there are. -/
theorem context_eq (first : 1 ≤ location.line)
    (last : location.line ≤ (lines tokens).length) :
    context tokens location =
      (numbers (max 1 (location.line - 2)) location.line).map (plain tokens) ++
        failing tokens location ++
        (numbers (location.line + 1) (min (lines tokens).length (location.line + 2) + 1)).map
          (plain tokens) := by
  -- Far, near, failing, near, far: the ranges are cut off from the end.
  rw [context_eq_flatMap,
    numbers_append (min (lines tokens).length (location.line + 2) + 1) (by omega) (by omega),
    numbers_append (location.line + 1) (by omega) (by omega),
    numbers_append location.line (by omega) (by omega),
    numbers_append (max 1 (location.line - 2)) (by omega) (by omega), numbers_succ]
  simp only [List.flatMap_append, List.flatMap_singleton, excerpt_self]
  rw [flatMap_excerpt_of_far (by omega), flatMap_excerpt_of_near (by omega),
    flatMap_excerpt_of_near (by omega), flatMap_excerpt_of_far (by omega)]
  simp only [List.nil_append, List.append_nil]

end Location

/-! ## The marks -/

/-- The first character of a text that is not a blank. -/
def leading (text : String) : Option Char :=
  text.toList.find? fun c => c != ' '

theorem leading_margin_failing (number : Nat) (content : String) :
    leading (margin number true ++ content) = some '>' := by
  simp [leading, margin]

/-- A line that is not marked starts with its number. -/
theorem leading_margin_plain (number : Nat) (content : String) :
    ∃ digit, digit.isDigit = true ∧ leading (margin number false ++ content) = some digit := by
  cases digits : Nat.toDigits 10 number with
  | nil => exact absurd digits Nat.toDigits_ne_nil
  | cons digit others =>
      have isDigit : digit.isDigit = true := by
        apply Nat.isDigit_of_mem_toDigits (b := 10) (n := number) (by omega) (by omega)
        simp [digits]
      have visible : digit ≠ ' ' := by
        rintro rfl
        cases isDigit
      exact ⟨digit, isDigit, by simp [leading, margin, digits, visible]⟩

theorem toList_pushn (text : String) (c : Char) (count : Nat) :
    (text.pushn c count).toList = text.toList ++ List.replicate count c := by
  induction count with
  | zero => simp [String.pushn, Nat.repeat]
  | succ count ih =>
      rw [List.replicate_succ', ← List.append_assoc, ← ih]
      exact String.toList_push c

/-- The caret behind a number of characters of a failing line. -/
def caretBehind (number width : Nat) : String :=
  "".pushn ' ' ((margin number true).length + width) ++ "^--- here"

theorem caret_eq (number : Nat) (line : List τ) (offset : Nat) :
    caret number line offset = caretBehind number (column line offset) := rfl

theorem leading_caret (number : Nat) (line : List τ) (offset : Nat) :
    leading (caret number line offset) = some '^' := by
  simp [leading, caret, toList_pushn, List.find?_append]

theorem countP_plain (mark : Char) (noDigit : mark.isDigit = false) (tokens : List τ)
    (shown : List Nat) :
    (shown.map (plain tokens)).countP (fun text => leading text == some mark) = 0 := by
  rw [List.countP_eq_zero]
  intro text member
  obtain ⟨number, _, rfl⟩ := List.mem_map.mp member
  obtain ⟨digit, isDigit, first⟩ := leading_margin_plain number
    (Token.describeAll (lineAt tokens number))
  rw [plain, first, beq_iff_eq, Option.some.injEq]
  rintro rfl
  rw [noDigit] at isDigit
  cases isDigit

/-- Marks are to be found on the failing line and below it only. -/
theorem countP_context {tokens : List τ} {location : Location} (first : 1 ≤ location.line)
    (last : location.line ≤ (lines tokens).length) (mark : Char)
    (noDigit : mark.isDigit = false) :
    (context tokens location).countP (fun text => leading text == some mark) =
      (failing tokens location).countP fun text => leading text == some mark := by
  rw [context_eq first last, List.countP_append, List.countP_append,
    countP_plain mark noDigit, countP_plain mark noDigit, Nat.zero_add, Nat.add_zero]

/-- What is shown of a source around a location. -/
structure Layout (tokens : List τ) (location : Location) (context : List String) : Prop where
  /-- Two lines before the failing one, or as many as there are, the failing one with the
  caret below it, and two lines behind it, or as many as there are, all in order. -/
  shown : context =
    (numbers (max 1 (location.line - 2)) location.line).map (plain tokens) ++
      [margin location.line true ++ Token.describeAll (lineAt tokens location.line),
        caret location.line (lineAt tokens location.line) location.offset] ++
      (numbers (location.line + 1) (min (lines tokens).length (location.line + 2) + 1)).map
        (plain tokens)
  /-- Of all these one carries the mark of the failing line. -/
  marked : context.countP (fun text => leading text == some '>') = 1
  /-- Of all these one is a caret. -/
  pointed : context.countP (fun text => leading text == some '^') = 1

theorem layout_context {tokens : List τ} {location : Location} (first : 1 ≤ location.line)
    (last : location.line ≤ (lines tokens).length) :
    Layout tokens location (context tokens location) where
  shown := context_eq first last
  marked := by
    rw [countP_context first last '>' rfl]
    simp [failing, leading_margin_failing, leading_caret]
  pointed := by
    rw [countP_context first last '^' rfl]
    simp [failing, leading_margin_failing, leading_caret]

/-- Text goes on line by line. -/
theorem foldl_lines (shown : List String) (heading : String) :
    shown.foldl (fun text line => text ++ line ++ "\n") heading =
      heading ++ String.join (shown.map fun line => line ++ "\n") := by
  induction shown generalizing heading with
  | nil => simp
  | cons line shown ih =>
      rw [List.foldl_cons, ih, List.map_cons, String.join_cons]
      simp only [String.append_assoc]

end Report

namespace ParseError

/-- The failing line goes on with the next token, unless that is a newline. -/
theorem line_at_location (error : ParseError τ) :
    ∃ before after,
      Report.lineAt error.remainder.source.tokens.toList error.location.line =
        before ++ after ∧
      before.length = error.location.offset ∧
      after.head? =
        (error.remainder.peek.map Prod.fst).filter fun token => !Token.isNewline token := by
  have seen : error.remainder.peek.map Prod.fst = error.remainder.remaining.head? := by
    rw [Cursor.peek_eq, Option.map_map]
    exact Option.map_id_apply
  rw [seen, Cursor.remaining_eq]
  exact Location.lineAt_locate error.remainder.position_le

/-- A report names the one location of the place where the error was noticed, and shows the
lines around that with a mark and a caret. If tokens are joined, the caret points at the first
character of the next token, where that is on the failing line. It points behind all of the
line where the next token is the newline that ends it, and where there is no next token. -/
theorem report_at_location (error : ParseError τ) :
    let tokens := error.remainder.source.tokens.toList
    let location := error.location
    let line := Report.lineAt tokens location.line
    let context := Report.context tokens location
    Report.lines tokens = tokens.splitOnP Token.isNewline ∧
    (∀ other : Location, other.IsAt tokens error.position ↔ other = location) ∧
    error.report = error.message ++ " (line " ++ toString location.line ++ ", offset " ++
      toString location.offset ++ ")\n\n" ++ String.join (context.map fun text => text ++ "\n") ∧
    Report.Layout tokens location context ∧
    (Token.Joins τ → ∀ token next, error.remainder.peek = some (token, next) →
      Token.isNewline token = false →
      ∃ before after, line = before ++ token :: after ∧ before.length = location.offset ∧
        Token.describeAll line =
          Token.leadIn before ++ Token.describe token ++ Token.leadOut after ∧
        Report.caret location.line line location.offset =
          Report.caretBehind location.line (Token.leadIn before).length) ∧
    ((∀ token next, error.remainder.peek = some (token, next) →
        Token.isNewline token = true) →
      location.offset = line.length ∧
        Report.caret location.line line location.offset =
          Report.caretBehind location.line (Token.describeAll line).length) := by
  intro tokens location line context
  have within : error.position ≤ tokens.length := error.remainder.position_le
  have here : location.IsAt tokens error.position := Location.isAt_locate within
  obtain ⟨before, after, whole, offset, next⟩ := error.line_at_location
  change line = before ++ after at whole
  change before.length = location.offset at offset
  refine ⟨Report.lines_eq_splitOnP tokens, fun _ => Location.isAt_iff within,
    Report.foldl_lines _ _, Report.layout_context here.first here.last, ?inside, ?outside⟩
  case inside =>
    intro joins token behind seen inside
    -- The next token is the one with which the line goes on.
    have first : after.head? = some token := by
      rw [next, seen]
      simp [Option.filter, inside]
    obtain ⟨rest, rfl⟩ := List.head?_eq_some_iff.mp first
    refine ⟨before, rest, whole, offset, ?_, ?_⟩
    · rw [whole, joins.describeAll_append_cons]
    · rw [Report.caret_eq, whole, ← offset, Report.column_eq_length_leadIn joins]
  case outside =>
    intro newline
    have ended : after = [] := by
      rw [← List.head?_eq_none_iff, next, Option.filter_eq_none_iff]
      intro token seen
      obtain ⟨⟨_, behind⟩, read, rfl⟩ := Option.map_eq_some_iff.mp seen
      simp [newline _ behind read]
    rw [ended, List.append_nil] at whole
    have last : location.offset = line.length := by rw [whole, offset]
    exact ⟨last, by rw [Report.caret_eq, last, Report.column_length]⟩

/-- The middle one of three lines is shown with the caret under its second character. -/
theorem report_at_location_middle :
    ∃ error : ParseError Char,
      error.remainder.source.tokens.toList = "ab\ncXd\nef".toList ∧ error.position = 4 ∧
      error.location = ⟨2, 1⟩ ∧
      (Report.context error.remainder.source.tokens.toList error.location).countP
        (fun text => Report.leading text == some '^') = 1 ∧
      ∃ before after, ['c', 'X', 'd'] = before ++ 'X' :: after ∧ before.length = 1 ∧
        Report.caret 2 ['c', 'X', 'd'] 1 =
          Report.caretBehind 2 (Token.leadIn before).length := by
  let cursor := (Cursor.start ⟨0, #['a', 'b', '\n', 'c', 'X', 'd', '\n', 'e', 'f']⟩).advance 4
  obtain ⟨_, _, _, layout, inside, _⟩ :=
    (ParseError.unexpected cursor "d").report_at_location
  obtain ⟨before, after, line, offset, _, caret⟩ :=
    inside Token.joins_scalars.1 'X' (cursor.advance 1) rfl rfl
  exact ⟨.unexpected cursor "d", rfl, rfl, rfl, layout.pointed, before, after, line, offset, caret⟩

end ParseError

end Descent
