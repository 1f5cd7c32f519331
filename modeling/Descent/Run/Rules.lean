import Descent.Parser.Basic
import Descent.Run.Repetition

/-!
# Running parsers

What a parser does follows its form. References to rules are looked up in a table,
and a rule that is run may refer to rules again, so a run may be nested without
end. The depth of a run is the greatest number of rules that may be open at once:
a run that would exceed it has no reply.
-/

namespace Descent

/-- The attempt of a parser, given what its rules do and what they are called. -/
def Parser.attempt {τ ρ : Type} [Token τ] {Out : ρ → Type} (label : ρ → String)
    (enter : (name : ρ) → Attempt τ (Out name)) :
    {α : Type} → Parser τ Out α → Attempt τ α
  | _, .satisfy note expected accepts => .satisfy note expected accepts
  | _, .tokens run => .tokens run
  | _, .eof => .eof
  | _, .pure value => .pure value
  | _, .fail expected actual => .fail (.mismatch expected actual)
  | _, .map note function parser => .map note function (attempt label enter parser)
  | _, .flatMap note binder parser =>
      .flatMap note (fun output => .onBound (attempt label enter (binder output)))
        (.onLeft (attempt label enter parser))
  | _, .sequence note combine first second =>
      .sequence note combine (.onLeft (attempt label enter first))
        (.onRight (attempt label enter second))
  | _, .twice parser =>
      let once := attempt label enter parser
      .sequence none Prod.mk once once
  | _, .choice first second =>
      .choice (.onLeft (attempt label enter first)) (.onRight (attempt label enter second))
  | _, .zeroOrMore collector parser => .zeroOrMore collector (attempt label enter parser)
  | _, .oneOrMore collector parser => .oneOrMore collector (attempt label enter parser)
  | _, .count bounds collector parser =>
      .count bounds collector (attempt label enter parser)
  | _, .delayed name parser => .onDemand name (attempt label enter parser)
  | _, .rule name => .onDemand (label name) (enter name)
  | _, .tap name parser => .tap name (attempt label enter parser)

/-- A table of rules: what each is called in logs, and its parser. -/
structure Rules (τ : Type) {ρ : Type} (Out : ρ → Type) where
  label : ρ → String
  body : (name : ρ) → Parser τ Out (Out name)

namespace Rules

variable {τ ρ : Type} [Token τ] {Out : ρ → Type}

/-- What a rule does if it may be nested to a given depth. -/
def attempt (rules : Rules τ Out) : Nat → (name : ρ) → Attempt τ (Out name)
  | 0, _ => fun _ _ _ => none
  | depth + 1, name => (rules.body name).attempt rules.label (attempt rules depth)

/-- What a parser does with these rules, nested to a given depth. -/
def run {α : Type} (rules : Rules τ Out) (depth : Nat) (parser : Parser τ Out α) :
    Attempt τ α :=
  parser.attempt rules.label (rules.attempt depth)

/-- Reads all of a source with a new parser value. -/
def parse {α : Type} (rules : Rules τ Out) (depth : Nat) (parser : Parser τ Out α)
    (source : Source τ) : Option (Reply τ α) :=
  rules.run depth parser.complete [] .blank (.start source)

end Rules

end Descent
