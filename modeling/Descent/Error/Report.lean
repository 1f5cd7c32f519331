import Descent.Error.Location

/-!
# Reports

A report repeats the message of an error with its location and shows the lines
around it, two to either side. A caret under the failing line points at the token
where the failure was noticed: it stands after as many blanks as the text before
that token has characters.
-/

namespace Descent

namespace Report

variable {τ : Type} [Token τ]

/-- The lines of a source, without the newline tokens that end them. A newline at
the very end still opens a last, empty line. -/
def lines : List τ → List (List τ)
  | [] => [[]]
  | token :: rest =>
      if Token.isNewline token then
        [] :: lines rest
      else
        match lines rest with
        | [] => [[token]]
        | line :: others => (token :: line) :: others

theorem lines_ne_nil (tokens : List τ) : lines tokens ≠ [] := by
  cases tokens with
  | nil => simp [lines]
  | cons token rest =>
    rw [lines]
    split
    · simp
    · split <;> simp

/-- What stands before the content of a line: a mark on the failing line, and the
number of the line. -/
def margin (number : Nat) (failing : Bool) : String :=
  (if failing then "  > " else "    ") ++ toString number ++ " | "

/-- How many characters of a line's text lie before the token at an offset. The
separator before that token counts, if both it and a token before it exist. -/
def column (line : List τ) (offset : Nat) : Nat :=
  let before := line.take offset
  let text := Token.describeAll before
  if before.isEmpty || line.length ≤ offset then text.length
  else text.length + (Token.separator τ).length

/-- The caret under a failing line. -/
def caret (number : Nat) (line : List τ) (offset : Nat) : String :=
  "".pushn ' ' ((margin number true).length + column line offset) ++ "^--- here"

/-- What a report shows of one line of the source: nothing if it is more than two
lines away. -/
def excerpt (location : Location) (line : List τ) (number : Nat) : List String :=
  if number < location.line - 2 ∨ location.line + 2 < number then
    []
  else if number = location.line then
    [margin number true ++ Token.describeAll line, caret number line location.offset]
  else
    [margin number false ++ Token.describeAll line]

/-- The lines around a location, with the caret. -/
def context (tokens : List τ) (location : Location) : List String :=
  ((lines tokens).zipIdx 1).flatMap fun (line, number) => excerpt location line number

end Report

/-- The error as a text of several lines. -/
def ParseError.report {τ : Type} [Token τ] (error : ParseError τ) : String :=
  let location := error.location
  let heading := error.message ++ " (line " ++ toString location.line ++
    ", offset " ++ toString location.offset ++ ")\n\n"
  (Report.context error.remainder.source.tokens.toList location).foldl
    (fun text line => text ++ line ++ "\n") heading

end Descent
