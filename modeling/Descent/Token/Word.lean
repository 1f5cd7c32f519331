import Descent.Token.Basic

/-!
# Words without case

Words are compared without regard to the case of ASCII letters, so matching is
coarser than identity: a parser may match a word that is written otherwise than
its own. A word is shown as it is written, in angle brackets.
-/

namespace Descent

/-- A word, kept as written. -/
structure Word where
  text : String

namespace Word

/-- The word with ASCII letters in lower case. Two words are equal exactly if
these agree. -/
def folded (word : Word) : String :=
  word.text.map Char.toLower

instance : BEq Word where
  beq left right := left.folded == right.folded

theorem beq_iff {left right : Word} :
    (left == right) = true ↔ left.folded = right.folded := by
  show (left.folded == right.folded) = true ↔ _
  exact beq_iff_eq

/-- Words are compared letter by letter. -/
theorem beq_eq (left right : Word) : (left == right) =
    (left.text.toList.map Char.toLower == right.text.toList.map Char.toLower) := by
  rw [Bool.eq_iff_iff, beq_iff, beq_iff_eq, folded, folded, ← String.toList_inj,
    String.toList_map, String.toList_map]

instance : EquivBEq Word where
  rfl := beq_iff.mpr rfl
  symm same := beq_iff.mpr (beq_iff.mp same).symm
  trans first second := beq_iff.mpr ((beq_iff.mp first).trans (beq_iff.mp second))

end Word

/-- The word that ends a line is spelled exactly "NL": line ends are read off the
text as written, not off the folded word. -/
instance : Token Word where
  describe word := "<" ++ word.text ++ ">"
  separator := "··"
  isNewline word := word.text == "NL"

end Descent
