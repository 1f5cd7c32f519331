import Descent.Error.Report
import Mathlib.Algebra.Ring.Nat
import Mathlib.Data.List.Induction

/-!
# Lines of a source

A source is cut into lines at its newlines, and a location counts on the way to a place. The
two never look at each other, and yet they number lines alike: where a text is cut in two, so
is one of its lines, and the location of the cut is found by counting the lines before it and
the tokens in front of the cut. Every place has one location and no other.
-/

namespace Descent

namespace Report

variable {τ : Type} [Token τ]

theorem lines_cons_of_newline {token : τ} (ends : Token.isNewline token = true)
    (rest : List τ) : lines (token :: rest) = [] :: lines rest := by
  rw [lines, if_pos ends]

theorem lines_cons_of_not_newline {token : τ} (inside : Token.isNewline token = false)
    {rest line : List τ} {others : List (List τ)} (shape : lines rest = line :: others) :
    lines (token :: rest) = (token :: line) :: others := by
  rw [lines, if_neg (by simp [inside]), shape]

theorem exists_lines_eq_cons (tokens : List τ) :
    ∃ line others, lines tokens = line :: others :=
  List.exists_cons_of_ne_nil (lines_ne_nil tokens)

/-- A source is cut at its newlines, which are in no line. -/
theorem lines_eq_splitOnP (tokens : List τ) :
    lines tokens = tokens.splitOnP Token.isNewline := by
  induction tokens with
  | nil => rfl
  | cons token rest ih =>
      rw [List.splitOnP_cons_eq_if_modifyHead, ← ih]
      cases ends : Token.isNewline token with
      | true => rw [lines_cons_of_newline ends, if_pos rfl]
      | false =>
          obtain ⟨line, others, shape⟩ := exists_lines_eq_cons rest
          rw [lines_cons_of_not_newline ends shape, shape, if_neg Bool.false_ne_true,
            List.modifyHead_cons]

/-- Every line but the last has a newline behind it, and that is all there is. -/
theorem sum_length_lines (tokens : List τ) :
    ((lines tokens).map fun line => line.length + 1).sum = tokens.length + 1 := by
  induction tokens with
  | nil => rfl
  | cons token rest ih =>
      cases ends : Token.isNewline token with
      | true =>
          rw [lines_cons_of_newline ends, List.map_cons, List.sum_cons, ih]
          simp [Nat.add_comm]
      | false =>
          obtain ⟨line, others, shape⟩ := exists_lines_eq_cons rest
          rw [shape, List.map_cons, List.sum_cons] at ih
          rw [lines_cons_of_not_newline ends shape, List.map_cons, List.sum_cons,
            List.length_cons, List.length_cons, ← ih]
          omega

/-- A text that is cut in two: some lines are done before the cut, one is begun before it and
ended behind it, and the others come later. -/
structure Cut (ahead rest : List τ) (done : List (List τ)) (begun ended : List τ)
    (later : List (List τ)) : Prop where
  lines_ahead : lines ahead = done ++ [begun]
  lines_rest : lines rest = ended :: later
  lines_append : lines (ahead ++ rest) = done ++ (begun ++ ended) :: later

theorem exists_cut (ahead rest : List τ) :
    ∃ done begun ended later, Cut ahead rest done begun ended later := by
  induction ahead with
  | nil =>
      obtain ⟨ended, later, shape⟩ := exists_lines_eq_cons rest
      exact ⟨[], [], ended, later, rfl, shape, shape⟩
  | cons token ahead ih =>
      obtain ⟨done, begun, ended, later, cut⟩ := ih
      cases ends : Token.isNewline token with
      | true =>
          refine ⟨[] :: done, begun, ended, later, ?_, cut.lines_rest, ?_⟩
          · rw [lines_cons_of_newline ends, cut.lines_ahead, List.cons_append]
          · rw [List.cons_append, lines_cons_of_newline ends, cut.lines_append, List.cons_append]
      | false =>
          -- The token goes to the first line, which may be the one that is cut.
          cases done with
          | nil =>
              refine ⟨[], token :: begun, ended, later, ?_, cut.lines_rest, ?_⟩
              · exact lines_cons_of_not_newline ends cut.lines_ahead
              · exact lines_cons_of_not_newline ends cut.lines_append
          | cons first done =>
              refine ⟨(token :: first) :: done, begun, ended, later, ?_, cut.lines_rest, ?_⟩
              · exact lines_cons_of_not_newline ends cut.lines_ahead
              · exact lines_cons_of_not_newline ends cut.lines_append

namespace Cut

variable {ahead rest : List τ} {done later : List (List τ)} {begun ended : List τ}

/-- The tokens before a cut are those of the lines that are done, with their newlines, and
those of the line that is begun. -/
theorem length_eq (cut : Cut ahead rest done begun ended later) :
    ahead.length = (done.map fun line => line.length + 1).sum + begun.length := by
  have total := sum_length_lines ahead
  rw [cut.lines_ahead, List.map_append, List.sum_append, List.map_singleton, List.sum_singleton]
    at total
  omega

/-- The line goes on behind a cut with the next token, unless that is a newline. -/
theorem head?_eq (cut : Cut ahead rest done begun ended later) :
    ended.head? = rest.head?.filter fun token => !Token.isNewline token := by
  have shape := cut.lines_rest
  cases rest with
  | nil =>
      cases shape
      rfl
  | cons token rest =>
      cases ends : Token.isNewline token with
      | true =>
          rw [lines_cons_of_newline ends] at shape
          cases shape
          simp [Option.filter, ends]
      | false =>
          obtain ⟨line, others, restShape⟩ := exists_lines_eq_cons rest
          rw [lines_cons_of_not_newline ends restShape] at shape
          cases shape
          simp [Option.filter, ends]

end Cut

/-- The line with a number. -/
def lineAt (tokens : List τ) (number : Nat) : List τ :=
  (lines tokens).getD (number - 1) []

/-- How many tokens stand before the line with a number, newlines included. -/
def lineStart (tokens : List τ) (number : Nat) : Nat :=
  (((lines tokens).take (number - 1)).map fun line => line.length + 1).sum

end Report

namespace Location

open Report

variable {τ : Type} [Token τ] {tokens : List τ} {position : Nat} {location : Location}

/-- The location of the end of a text: on its last line, behind all tokens of that line. -/
theorem foldl_after (ahead : List τ) :
    ahead.foldl after origin = ⟨(lines ahead).length, ((lines ahead).getLastD []).length⟩ := by
  induction ahead using List.reverseRecOn with
  | nil => rfl
  | append_singleton ahead token ih =>
      obtain ⟨done, begun, ended, later, cut⟩ := exists_cut ahead [token]
      have last := cut.lines_rest
      rw [List.foldl_append, ih, cut.lines_ahead, cut.lines_append]
      cases ends : Token.isNewline token with
      | true =>
          rw [lines_cons_of_newline ends] at last
          cases last
          simp [after, ends, lines, List.getLastD_eq_getLast?]
      | false =>
          rw [lines_cons_of_not_newline ends rfl] at last
          cases last
          simp [after, ends, List.getLastD_eq_getLast?]

/-- The location of a cut: on the line that is begun, behind the tokens that begin it. -/
theorem locate_of_cut {ahead rest : List τ} {done later : List (List τ)} {begun ended : List τ}
    (cut : Cut ahead rest done begun ended later) :
    locate (ahead ++ rest) ahead.length = ⟨done.length + 1, begun.length⟩ := by
  rw [locate, List.take_left, foldl_after, cut.lines_ahead]
  simp [List.getLastD_eq_getLast?]

/-- The location names this place: there is such a line, it has that many tokens at least, and
that many tokens into the line the place is reached. Behind the last token of the line is the
place of the newline that ends it. -/
structure IsAt (location : Location) (tokens : List τ) (position : Nat) : Prop where
  first : 1 ≤ location.line
  last : location.line ≤ (lines tokens).length
  offset : location.offset ≤ (lineAt tokens location.line).length
  position : position = lineStart tokens location.line + location.offset

end Location

namespace Report

variable {τ : Type} [Token τ] {ahead rest : List τ} {done later : List (List τ)}
  {begun ended : List τ}

theorem Cut.lineAt_eq (cut : Cut ahead rest done begun ended later) :
    lineAt (ahead ++ rest) (done.length + 1) = begun ++ ended := by
  simp [lineAt, cut.lines_append]

theorem Cut.lineStart_eq (cut : Cut ahead rest done begun ended later) :
    lineStart (ahead ++ rest) (done.length + 1) =
      (done.map fun line => line.length + 1).sum := by
  simp [lineStart, cut.lines_append]

theorem Cut.isAt (cut : Cut ahead rest done begun ended later) :
    Location.IsAt ⟨done.length + 1, begun.length⟩ (ahead ++ rest) ahead.length where
  first := Nat.le_add_left 1 _
  last := by
    rw [cut.lines_append, List.length_append, List.length_cons]
    show done.length + 1 ≤ _
    omega
  offset := by
    rw [cut.lineAt_eq, List.length_append]
    exact Nat.le_add_right _ _
  position := by rw [cut.lineStart_eq, cut.length_eq]

/-- The next line starts behind the newline that ends this one. -/
theorem lineStart_succ {tokens : List τ} {number : Nat} (first : 1 ≤ number)
    (last : number ≤ (lines tokens).length) :
    lineStart tokens (number + 1) =
      lineStart tokens number + ((lineAt tokens number).length + 1) := by
  obtain ⟨index, rfl⟩ := Nat.exists_eq_add_of_le' first
  have within : index < (lines tokens).length := last
  simp only [lineStart, lineAt, Nat.add_sub_cancel]
  rw [List.take_add_one, List.getElem?_eq_getElem within, List.map_append, List.sum_append]
  simp [List.getElem?_eq_getElem within]

/-- Lines do not overlap. -/
theorem lineStart_lt {tokens : List τ} {number other : Nat} (first : 1 ≤ number)
    (before : number < other) (last : other ≤ (lines tokens).length) :
    lineStart tokens number + (lineAt tokens number).length < lineStart tokens other := by
  induction before with
  | refl =>
      rw [lineStart_succ first (by omega)]
      omega
  | @step other further ih =>
      have passed : number < other := further
      rw [lineStart_succ (by omega) (by omega)]
      have start := ih (by omega)
      omega

end Report

namespace Location

variable {τ : Type} [Token τ] {tokens : List τ} {position : Nat}

theorem isAt_locate (within : position ≤ tokens.length) :
    (locate tokens position).IsAt tokens position := by
  obtain ⟨done, begun, ended, later, cut⟩ :=
    Report.exists_cut (tokens.take position) (tokens.drop position)
  have place := cut.isAt
  have located := locate_of_cut cut
  rw [List.take_append_drop, List.length_take, Nat.min_eq_left within] at place located
  rw [located]
  exact place

/-- The line of a place goes on there with the next token, unless that is a newline. -/
theorem lineAt_locate (within : position ≤ tokens.length) :
    ∃ before after, Report.lineAt tokens (locate tokens position).line = before ++ after ∧
      before.length = (locate tokens position).offset ∧
      after.head? = (tokens.drop position).head?.filter fun token => !Token.isNewline token := by
  obtain ⟨done, begun, ended, later, cut⟩ :=
    Report.exists_cut (tokens.take position) (tokens.drop position)
  have line := cut.lineAt_eq
  have located := locate_of_cut cut
  rw [List.take_append_drop] at line
  rw [List.take_append_drop, List.length_take, Nat.min_eq_left within] at located
  rw [located]
  exact ⟨begun, ended, line, rfl, cut.head?_eq⟩

/-- No place has two locations. -/
theorem IsAt.unique {location other : Location} (here : location.IsAt tokens position)
    (alsoHere : other.IsAt tokens position) : location = other := by
  have position := here.position
  have otherPosition := alsoHere.position
  have offset := here.offset
  have otherOffset := alsoHere.offset
  rcases Nat.lt_trichotomy location.line other.line with before | same | behind
  · have apart := Report.lineStart_lt here.first before alsoHere.last
    omega
  · rcases location with ⟨line, _⟩
    rcases other with ⟨_, _⟩
    cases same
    congr 1
    simp only at position otherPosition
    omega
  · have apart := Report.lineStart_lt alsoHere.first behind here.last
    omega

/-- Counting leads to the location of every place, and to nothing else. -/
theorem isAt_iff (within : position ≤ tokens.length) {location : Location} :
    location.IsAt tokens position ↔ location = locate tokens position := by
  constructor
  · intro here
    exact here.unique (isAt_locate within)
  · rintro rfl
    exact isAt_locate within

end Location

end Descent
