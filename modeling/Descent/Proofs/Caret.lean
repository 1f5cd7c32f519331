import Descent.Proofs.Glyphs
import Descent.Proofs.Layout
import Descent.Proofs.ReadingOrder
import Descent.Token.Byte

/-!
# Carets under bytes

A line of bytes is shown as the characters for which the bytes stand, and these need not be as
many as the bytes. The caret is put where the text of the bytes in front of it would end, were
they all there is. As a cut of the bytes leaves the glyphs in front of it as they are, this is
behind the characters that start in front of the cut, in the text of the whole line as well.
-/

namespace Descent

open Text.Utf8

namespace Report

variable {line : List UInt8} {glyphs : List Glyph}

theorem length_describeAll (bytes : List UInt8) :
    (Token.describeAll bytes).length = (decode bytes).length := by
  rw [← toList_text, String.length_toList]
  rfl

/-- Under bytes, nothing is between what is written for a token and the next token. -/
theorem column_eq_length_decode (line : List UInt8) (offset : Nat) :
    column line offset = (decode (line.take offset)).length := by
  have none : (Token.separator UInt8).length = 0 := rfl
  rw [column, length_describeAll, none, Nat.add_zero, ite_self]

/-- The caret stands behind as many characters as start in front of the failing byte. -/
theorem column_eq_countP (consists : Consists line glyphs) (offset : Nat) :
    column line offset = (starts 0 glyphs).countP fun start => start < offset := by
  rw [column_eq_length_decode, consists.length_decode_take 0, Nat.zero_add]

theorem column_le_column (line : List UInt8) {offset further : Nat} (before : offset ≤ further) :
    column line offset ≤ column line further := by
  obtain ⟨glyphs, consists⟩ := exists_consists line
  rw [column_eq_countP consists, column_eq_countP consists]
  apply List.countP_mono_left
  intro start _ earlier
  simp only [decide_eq_true_eq] at earlier ⊢
  omega

/-- The failing line stands in what is shown, with the caret right below it. -/
theorem Layout.failing_isInfix {τ : Type} [Token τ] {tokens : List τ} {location : Location}
    {context : List String} (layout : Layout tokens location context) :
    failing tokens location <:+: context :=
  ⟨_, _, layout.shown.symm⟩

end Report

namespace ParseError

/-- Along a line, later places have greater offsets. -/
theorem offset_le_offset {τ : Type} [Token τ] {error other : ParseError τ}
    (same : other.remainder.source = error.remainder.source)
    (line : other.location.line = error.location.line) (before : error.position ≤ other.position) :
    error.location.offset ≤ other.location.offset := by
  by_contra behind
  have earlier : other.location < error.location :=
    Location.lt_iff.mpr (.inr ⟨line, Nat.not_le.mp behind⟩)
  exact Nat.not_lt.mpr before ((location_lt_iff same.symm).mp earlier)

/-- A glyph that starts where the failure was noticed starts with the token there. -/
theorem head?_of_leads (error : ParseError UInt8) {glyph : Glyph}
    (leads : Leads ((Report.lineAt error.remainder.source.tokens.toList
      error.location.line).drop error.location.offset) glyph) :
    glyph.bytes.head? = error.remainder.peek.map Prod.fst := by
  obtain ⟨before, after, whole, offset, next⟩ := error.line_at_location
  rw [whole, ← offset, List.drop_left] at leads
  obtain ⟨byte, rest, shape⟩ := List.exists_cons_of_ne_nil leads.ne_nil
  have first : after.head? = some byte := by
    rw [leads.eq_append, shape]
    rfl
  rw [first] at next
  rw [shape, List.head?_cons, (Option.filter_eq_some_iff.mp next.symm).1]

/-- A report about bytes shows the failing line as the glyphs of which it consists, and the caret
below it stands behind all of them that start in front of the failing byte. So it is never behind
the end of the line, and it does not go back where a later byte of the line fails. If a glyph
starts with the failing byte, the caret is right below the character that is shown for it. -/
theorem caret_under_glyphs (error : ParseError UInt8) :
    let tokens := error.remainder.source.tokens.toList
    let location := error.location
    let line := Report.lineAt tokens location.line
    let text := Token.describeAll line
    let column := Report.column line location.offset
    location.IsAt tokens error.position ∧
    [Report.margin location.line true ++ text, Report.caretBehind location.line column] <:+:
      Report.context tokens location ∧
    ∃ glyphs, Consists line glyphs ∧ (∀ others, Consists line others → others = glyphs) ∧
      text.toList = glyphs.map Glyph.shown ∧
      column = (starts 0 glyphs).countP (fun start => start < location.offset) ∧
      column ≤ text.length ∧
      (∀ other : ParseError UInt8, other.remainder.source = error.remainder.source →
        other.location.line = location.line → error.position ≤ other.position →
        column ≤ Report.column line other.location.offset) ∧
      ∀ index, (starts 0 glyphs)[index]? = some location.offset →
        column = index ∧
        ∃ glyph, text.toList[index]? = some glyph.shown ∧
          Leads (line.drop location.offset) glyph ∧
          glyph.bytes.head? = error.remainder.peek.map Prod.fst := by
  intro tokens location line text column
  have here : location.IsAt tokens error.position :=
    Location.isAt_locate error.remainder.position_le
  obtain ⟨glyphs, consists⟩ := exists_consists line
  have shown : text.toList = glyphs.map Glyph.shown := by
    rw [← consists.decode_eq]
    exact toList_text line
  have counted : column = (starts 0 glyphs).countP fun start => start < location.offset :=
    Report.column_eq_countP consists location.offset
  refine ⟨here, (Report.layout_context here.first here.last).failing_isInfix, glyphs, consists,
    fun _ => consists.unique, shown, counted, ?within, ?later, ?boundary⟩
  case within =>
    rw [counted, ← String.length_toList, shown, List.length_map, ← length_starts 0 glyphs]
    exact List.countP_le_length
  case later =>
    intro other same sameLine before
    exact Report.column_le_column line (offset_le_offset same sameLine before)
  case boundary =>
    intro index start
    rw [← Nat.zero_add location.offset] at start
    obtain ⟨ahead, glyph, listed, leads⟩ := consists.leads_of_start start
    rw [Nat.zero_add] at ahead
    refine ⟨counted.trans ahead, glyph, ?_, leads, error.head?_of_leads leads⟩
    rw [shown, List.getElem?_map, listed, Option.map_some]

end ParseError

end Descent
