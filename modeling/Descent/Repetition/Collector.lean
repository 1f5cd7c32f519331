/-!
# Collecting outputs

A repetition hands over its outputs one at a time, in order. A collector says
what becomes of them.
-/

namespace Descent

/-- A way to gather outputs of type `α`: what there is before the first, and what
one more output makes of it. -/
structure Collector (α γ : Type) where
  start : γ
  push : γ → α → γ

namespace Collector

/-- Keeps all outputs. -/
def array {α : Type} : Collector α (Array α) :=
  ⟨#[], Array.push⟩

/-- Keeps none of the outputs. -/
def unit {α : Type} : Collector α Unit :=
  ⟨(), fun _ _ => ()⟩

/-- Joins the texts of the outputs. -/
def text {α : Type} (textOf : α → String) : Collector α String :=
  ⟨"", fun gathered output => gathered ++ textOf output⟩

/-- Puts a text into an ascending list, unless it is there. -/
def insertText (text : String) : List String → List String
  | [] => [text]
  | first :: rest =>
      if text < first then text :: first :: rest
      else if text = first then first :: rest
      else first :: insertText text rest

/-- Keeps the texts of the outputs in ascending order of their code points, each
once. -/
def texts {α : Type} (textOf : α → String) : Collector α (List String) :=
  ⟨[], fun gathered output => insertText (textOf output) gathered⟩

/-- What all outputs together are gathered into. -/
def collect {α γ : Type} (collector : Collector α γ) (outputs : List α) : γ :=
  outputs.foldl collector.push collector.start

@[simp] theorem collect_array {α : Type} (outputs : List α) :
    array.collect outputs = outputs.toArray := by
  simp [collect, array]

/-- The texts of the outputs stand one behind the other. -/
theorem toList_collect_text {α : Type} (textOf : α → String) (outputs : List α) :
    ((text textOf).collect outputs).toList =
      outputs.flatMap fun output => (textOf output).toList := by
  have gathers (start : String) :
      (outputs.foldl (text textOf).push start).toList =
        start.toList ++ outputs.flatMap fun output => (textOf output).toList := by
    induction outputs generalizing start with
    | nil => simp
    | cons output outputs inductionHypothesis =>
        rw [List.foldl_cons, inductionHypothesis]
        simp [text]
  exact gathers ""

end Collector

end Descent
