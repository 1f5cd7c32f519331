import Descent.Proofs.Outcome
import Descent.Proofs.Writing

/-!
# Tables

A table is written down as rows of cells. The cells of a row stand between commas, and a
row ends with its line. A cell with commas or line breaks in it has to be put in quotes;
others may be. Here a parser for tables is shown to read every table as it was written:
every repetition in it ends just where a cell, a row or the table ends.
-/

namespace Descent.Table

variable {ρ : Type} {Out : ρ → Type}

/-! ## The parser -/

/-- Anything between two quotes but quotes. -/
def quoted : Parser Char Out String :=
  .discardRight
    (.discardLeft (.token '"') (.zeroOrMore (.text String.singleton) (.except '"')))
    (.token '"')

/-- Anything up to the end of the cell. -/
def bare : Parser Char Out String :=
  .zeroOrMore (.text String.singleton) (.noneOf [',', '\n'])

/-- One cell. -/
def cell : Parser Char Out String :=
  .choice quoted bare

/-- Cells with commas in between, up to the end of the line. -/
def row : Parser Char Out (List String) :=
  .discardRight
    (.map none (fun cells => cells.1 :: cells.2)
      (.both cell (.many (.discardLeft (.token ',') cell))))
    (.token '\n')

/-! ## What is written -/

/-- Whether a cell ends before such a character, unless it is in quotes. -/
def isDelimiter (char : Char) : Bool :=
  [',', '\n'].contains char

/-- A cell as it is written. Only a quoted one may contain delimiters, and only a bare one
quotes, but not as its first character. -/
inductive Cell where
  | quoted (content : List Char) (inside : '"' ∉ content)
  | bare (content : List Char) (inside : ∀ char ∈ content, isDelimiter char = false)
      (opening : content.head? ≠ some '"')

namespace Cell

/-- The cell as it stands in a row. -/
def text : Cell → List Char
  | .quoted content _ => '"' :: (content ++ ['"'])
  | .bare content _ _ => content

/-- What is in the cell. -/
def content : Cell → String
  | .quoted content _ => String.ofList content
  | .bare content _ _ => String.ofList content

end Cell

/-- A row as it is written. It has at least one cell. -/
structure Row where
  first : Cell
  rest : List Cell

namespace Row

/-- All cells of the row. -/
def cells (row : Row) : List Cell :=
  row.first :: row.rest

/-- The row as a line. -/
def text (row : Row) : List Char :=
  [','].intercalate (row.cells.map Cell.text) ++ ['\n']

/-- What is in the cells. -/
def contents (row : Row) : List String :=
  row.cells.map Cell.content

/-- Behind its first cell, a row has a comma before each cell. -/
theorem text_eq (row : Row) :
    row.text = row.first.text ++ row.rest.flatMap (fun cell => ',' :: cell.text) ++ ['\n'] := by
  have joined (first : Cell) (rest : List Cell) :
      [','].intercalate ((first :: rest).map Cell.text) =
        first.text ++ rest.flatMap fun cell => ',' :: cell.text := by
    induction rest generalizing first with
    | nil => simp
    | cons second rest inductionHypothesis =>
        have behind := inductionHypothesis second
        simp only [List.map_cons] at behind ⊢
        rw [List.intercalate_cons_cons, behind]
        simp
  rw [text, cells, joined]

end Row

/-! ## Characters -/

/-- A run of characters is read up to one that does not belong to it. -/
theorem reads_characters (expected : String) {accepts follows : Char → Bool}
    (apart : ∀ char, follows char = true → accepts char = false) :
    (Reading.zeroOrMore (.text String.singleton) (.satisfy expected accepts)).Reads follows
      fun text value => (∀ char ∈ text, accepts char = true) ∧ value = String.ofList text := by
  apply ((Reading.Separates.satisfy expected apart).zeroOrMore _).imp
  rintro text _ ⟨accepted, rfl⟩
  have row : Reading.InRow (fun text char => text = [char] ∧ accepts char = true)
      (text.flatMap fun char => [char]) (text.map fun char => char) :=
    Reading.inRow_flatMap text fun char member => ⟨rfl, accepted char member⟩
  rw [List.flatMap_singleton', List.map_id'] at row
  refine ⟨text, row, ?_⟩
  rw [← String.toList_inj, Collector.toList_collect_text]
  simp

section Parts

variable (rules : Rules Char Out) (depth : Nat)

theorem reads_token (wanted : Char) (follows : Char → Bool) :
    (rules.reading depth (.token wanted)).Reads follows
      fun text char => text = [wanted] ∧ char = wanted := by
  refine (Reading.Reads.satisfy (Token.describe wanted) (· == wanted)).imp ?_
  rintro _ _ ⟨rfl, rfl⟩
  exact ⟨rfl, BEq.rfl⟩

theorem opens_token (wanted : Char) (follows : Char → Bool) :
    Reading.Opens (fun text char => text = [wanted] ∧ char = wanted) (· == wanted)
      follows := by
  apply Reading.opens_of_cons
  rintro _ _ ⟨rfl, rfl⟩
  exact ⟨_, [], rfl, BEq.rfl⟩

theorem token_refuses (wanted : Char) {cursor : Cursor Char}
    (refused : cursor.NextIs (· != wanted)) :
    ∃ error, rules.reading depth (.token wanted) cursor = some (.error error) ∧
      error.isRecoverable = true :=
  ⟨_, Reading.satisfy_eq_error.mpr ⟨refused, rfl⟩, Reading.isRecoverable_unexpected _ _⟩

/-! ## Cells -/

/-- A quoted cell is read up to its second quote, whatever stands between the quotes. -/
theorem reads_quoted (follows : Char → Bool) :
    (rules.reading depth quoted).Reads follows fun text value =>
      ∃ content, '"' ∉ content ∧ text = '"' :: (content ++ ['"']) ∧
        value = String.ofList content := by
  have apart (char : Char) (closing : (char == '"') = true) : (char != '"') = false := by
    simp [bne, closing]
  have inside : (rules.reading depth
      (.zeroOrMore (.text String.singleton) (.except '"'))).Reads (· == '"') _ :=
    reads_characters _ apart
  have opening := reads_token rules depth '"' fun _ => true
  have closing := reads_token rules depth '"' follows
  rw [quoted, Rules.reading_discardRight, Rules.reading_discardLeft]
  refine ((opening.sequence inside Reading.opens_any _).sequence closing
    (opens_token '"' follows) _).imp ?_
  rintro _ _ ⟨content, noQuote, rfl, rfl⟩
  have accepted (char : Char) (member : char ∈ content) : (char != '"') = true := by
    rw [bne_iff_ne]
    rintro rfl
    exact noQuote member
  exact ⟨'"' :: content, ['"'], String.ofList content, '"',
    ⟨['"'], content, '"', String.ofList content, ⟨rfl, rfl⟩, ⟨accepted, rfl⟩, rfl, rfl⟩,
    ⟨rfl, rfl⟩, rfl, rfl⟩

theorem reads_bare :
    (rules.reading depth bare).Reads isDelimiter fun text value =>
      (∀ char ∈ text, isDelimiter char = false) ∧ value = String.ofList text := by
  have apart (char : Char) (delimiter : isDelimiter char = true) :
      (!isDelimiter char) = false := by
    rw [delimiter]
    rfl
  have characters : (rules.reading depth bare).Reads isDelimiter fun text value =>
      (∀ char ∈ text, (!isDelimiter char) = true) ∧ value = String.ofList text :=
    reads_characters _ apart
  apply characters.imp
  rintro text value ⟨inside, rfl⟩
  exact ⟨fun char member => by simp [inside char member], rfl⟩

/-- A bare cell does not look like a quoted one, not even if there is nothing in it. -/
theorem opens_bare :
    Reading.Opens (fun text value => text.head? ≠ some '"' ∧
      (∀ char ∈ text, isDelimiter char = false) ∧ value = String.ofList text)
      (· != '"') isDelimiter := by
  rintro cursor next text value ⟨opening, _⟩ passes allowed
  cases text with
  | nil =>
      cases passes.eq_of_nil
      apply allowed.imp
      intro char delimiter
      rw [bne_iff_ne]
      rintro rfl
      cases delimiter
  | cons first rest =>
      rw [passes.nextIs_iff]
      simpa using opening

/-- A cell is read up to a delimiter, quoted or bare as it is. -/
theorem reads_cell :
    (rules.reading depth cell).Reads isDelimiter
      (Reading.Written Cell.text Cell.content) := by
  have refuses (cursor : Cursor Char) (refused : cursor.NextIs (· != '"')) :
      ∃ error, rules.reading depth quoted cursor = some (.error error) := by
    obtain ⟨error, failed, _⟩ := token_refuses rules depth '"' refused
    refine ⟨error, ?_⟩
    rw [quoted, Rules.reading_discardRight, Rules.reading_discardLeft]
    exact Reading.sequence_eq_error.mpr (.inl (Reading.sequence_eq_error.mpr (.inl failed)))
  have bareRead : (rules.reading depth bare).Reads isDelimiter fun text value =>
      text.head? ≠ some '"' ∧ (∀ char ∈ text, isDelimiter char = false) ∧
        value = String.ofList text := by
    apply (reads_bare rules depth).imp
    rintro text value ⟨_, written⟩
    exact written
  refine ((reads_quoted rules depth isDelimiter).choice bareRead refuses opens_bare).imp ?_
  rintro _ _ ⟨cell, rfl, rfl⟩
  cases cell with
  | quoted content inside => exact .inl ⟨content, inside, rfl, rfl⟩
  | bare content inside opening => exact .inr ⟨opening, inside, rfl⟩

/-! ## Rows -/

/-- A comma and a cell. -/
theorem reads_next :
    (rules.reading depth (.discardLeft (.token ',') cell)).Reads isDelimiter
      (Reading.Written (fun cell => ',' :: Cell.text cell) Cell.content) := by
  have comma := reads_token rules depth ',' fun _ => true
  rw [Rules.reading_discardLeft]
  refine (comma.sequence (reads_cell rules depth) Reading.opens_any _).imp ?_
  rintro _ _ ⟨cell, rfl, rfl⟩
  exact ⟨[','], cell.text, ',', cell.content, ⟨rfl, rfl⟩, ⟨cell, rfl, rfl⟩, rfl, rfl⟩

/-- Cells that begin with a comma end with the line. -/
theorem separates_next :
    (rules.reading depth (.discardLeft (.token ',') cell)).Separates isDelimiter (· == '\n')
      (Reading.Written (fun cell => ',' :: Cell.text cell) Cell.content) where
  forward := rules.forward_reading depth _
  reads := reads_next rules depth
  nonempty := by
    rintro _ _ ⟨cell, rfl, rfl⟩
    exact List.cons_ne_nil ',' cell.text
  opens := by
    apply Reading.opens_of_cons
    rintro _ _ ⟨cell, rfl, rfl⟩
    exact ⟨',', cell.text, rfl, rfl⟩
  apart := by
    intro char newline
    rw [eq_of_beq newline]
    rfl
  stops := by
    intro cursor allowed
    have refused : cursor.NextIs (· != ',') := by
      apply allowed.imp
      intro char newline
      rw [eq_of_beq newline]
      rfl
    obtain ⟨error, failed, recoverable⟩ := token_refuses rules depth ',' refused
    refine ⟨error, ?_, recoverable⟩
    rw [Rules.reading_discardLeft]
    exact Reading.sequence_eq_error.mpr (.inl failed)

/-- All cells of a row are read, but not the end of the line. -/
theorem reads_cells :
    (rules.reading depth (.both cell (.many (.discardLeft (.token ',') cell)))).Reads
      (· == '\n')
      (Reading.Written
        (fun row : Row => row.first.text ++ row.rest.flatMap fun cell => ',' :: cell.text)
        fun row => (row.first.content, row.rest.map Cell.content)) := by
  have separates := separates_next rules depth
  have opens := Reading.opens_inRow separates.opens separates.apart
  rw [Rules.reading_both, Rules.reading_many]
  refine ((reads_cell rules depth).sequence separates.many opens _).imp ?_
  rintro _ _ ⟨row, rfl, rfl⟩
  exact ⟨row.first.text, _, row.first.content, _, ⟨row.first, rfl, rfl⟩,
    Reading.inRow_written _ _ row.rest, rfl, rfl⟩

/-- A row is read to the end of its line, whatever comes then. -/
theorem reads_row (follows : Char → Bool) :
    (rules.reading depth row).Reads follows (Reading.Written Row.text Row.contents) := by
  have newline := reads_token rules depth '\n' follows
  rw [row, Rules.reading_discardRight, Rules.reading_map]
  refine (((reads_cells rules depth).map _).sequence newline (opens_token '\n' follows)
    _).imp ?_
  rintro _ _ ⟨row, rfl, rfl⟩
  exact ⟨_, ['\n'], row.contents, '\n', ⟨_, ⟨row, rfl, rfl⟩, rfl⟩, ⟨rfl, rfl⟩,
    row.text_eq, rfl⟩

/-- At the end no row is missed: there an empty cell is read, but no end of a line. -/
theorem row_refuses {cursor : Cursor Char} (ended : cursor.remaining = []) :
    ∃ error, rules.reading depth row cursor = some (.error error) ∧
      error.isRecoverable = true := by
  have read : rules.reading depth (.both cell (.many (.discardLeft (.token ',') cell))) cursor =
      some (.ok ⟨("", []), cursor⟩) :=
    reads_cells rules depth ⟨⟨.bare [] nofun nofun, []⟩, rfl, rfl⟩ (.refl cursor)
      (Cursor.nextIs_of_ended ended)
  obtain ⟨error, failed, recoverable⟩ :=
    token_refuses rules depth '\n' (Cursor.nextIs_of_ended ended)
  refine ⟨error, ?_, recoverable⟩
  rw [row, Rules.reading_discardRight, Rules.reading_map]
  exact Reading.sequence_eq_error.mpr (.inr ⟨_, Reading.map_eq_ok.mpr ⟨_, read, rfl⟩, failed⟩)

/-- Rows end with the source. -/
theorem separates_row :
    (rules.reading depth row).Separates (fun _ => true) (fun _ => false)
      (Reading.Written Row.text Row.contents) where
  forward := rules.forward_reading depth row
  reads := reads_row rules depth _
  nonempty := by
    rintro _ _ ⟨row, rfl, rfl⟩
    exact List.append_ne_nil_of_right_ne_nil _ (List.cons_ne_nil '\n' [])
  opens := Reading.opens_any
  apart char impossible := rfl
  stops cursor last := row_refuses rules depth last.ended

end Parts

/-- A table is read back from what is written, and nothing of it is lost: any number of
rows, with their cells as they are, quoted or bare. -/
theorem parse_text (rules : Rules Char Out) (depth identity : Nat) (rows : List Row) :
    ∃ reply found, rules.parse depth (.many row) ⟨identity, (rows.flatMap Row.text).toArray⟩ =
        some reply ∧ reply.outcome = .ok found ∧ found.value = rows.map Row.contents := by
  let source : Source Char := ⟨identity, (rows.flatMap Row.text).toArray⟩
  obtain ⟨last, passes, ended⟩ := (Cursor.start source).passes_remaining
  rw [Cursor.remaining_start] at passes
  have written := Reading.inRow_written Row.text Row.contents rows
  have parsed : rules.reading depth (.complete (.many row)) (.start source) =
      some (.ok ⟨rows.map Row.contents, last⟩) := by
    have read := (separates_row rules depth).many written passes (Cursor.nextIs_of_ended ended)
    rw [Rules.reading_complete, Rules.reading_many]
    exact Reading.sequence_eq_ok.mpr ⟨_, _, read, Reading.eof_eq_ok.mpr ⟨ended, rfl⟩, rfl⟩
  obtain ⟨reply, replies, outcome⟩ := Rules.run_of_reading parsed [] .blank
  exact ⟨reply, _, replies, outcome, rfl⟩

end Descent.Table
