import Descent.Grammar.Function
import Descent.Parser.Basic
import Descent.Repetition.Span

/-!
# Parsing expressions

Parsers written down as first-order data: wherever a parser takes a function, a
parsing expression names one. An expression denotes the parser of the same form,
whose output is a value.
-/

namespace Descent

mutual

/-- A parser over `τ` tokens, written down. -/
inductive Expr (τ : Type) where
  | any
  | token (wanted : τ)
  | except (unwanted : τ)
  | oneOf (wanted : List τ)
  | noneOf (unwanted : List τ)
  | satisfy (note : Option String) (expected : String) (predicate : Predicate)
  | tokens (run : List τ)
  | literal (run : List τ)
  | eof
  | pure (value : Value τ)
  | fail (expected actual : String)
  | map (note : Option String) (transform : Transform τ) (expr : Expr τ)
  | bind (note : Option String) (binder : Binder τ) (expr : Expr τ)
  | apply (note : Option String) (combination : Combination) (first second : Expr τ)
  | both (first second : Expr τ)
  | discardLeft (first second : Expr τ)
  | discardRight (first second : Expr τ)
  | choice (first second : Expr τ)
  | optional (default : Value τ) (expr : Expr τ)
  | zeroOrMore (gathering : Gathering) (expr : Expr τ)
  | oneOrMore (gathering : Gathering) (expr : Expr τ)
  | count (bounds : Bounds) (gathering : Gathering) (expr : Expr τ)
  | rule (name : String)
  /-- One delayed parser twice in a row. -/
  | delayedTwice (label : String) (expr : Expr τ)
  /-- Two delayed parsers in a row, each with a memory of its own. -/
  | delayedBoth (label : String) (expr : Expr τ)
  | tap (label : String) (expr : Expr τ)

/-- A choice of parser by the output of the one before. -/
inductive Binder (τ : Type) where
  /-- The output again. -/
  | pure
  /-- A token equal to the first one in the output. -/
  | token
  /-- A token other than the first one in the output. -/
  | except
  /-- The tokens in the output. -/
  | tokens
  /-- One of the tokens in the output. -/
  | oneOf
  /-- None of the tokens in the output. -/
  | noneOf
  /-- A failure that shows the output. -/
  | fail
  /-- A given parser, with both outputs. -/
  | andThen (next : Expr τ)
  /-- A given parser, as often as the output says. -/
  | count (next : Expr τ)
  /-- A given parser, at most as often as the output says. -/
  | upTo (next : Expr τ)
  /-- The parser for the text of the output. -/
  | switch (branches : Branches τ)

/-- Parsers by key, the first one with a matching key, and one for all other keys. -/
inductive Branches (τ : Type) where
  | default (expr : Expr τ)
  | onKey (key : String) (expr : Expr τ) (others : Branches τ)

end

/-- The parsers that expressions denote. Rules are named by text, and every rule
outputs a value. -/
abbrev ValueParser (τ : Type) : Type 1 :=
  Parser τ (fun _ : String => Value τ) (Value τ)

variable {τ : Type} [Token τ]

/-- The parser for a token in the output of another one, if there is a token in it. -/
def ValueParser.onFirstToken (output : Value τ) (parser : τ → ValueParser τ) :
    ValueParser τ :=
  match output.tokensOf with
  | [] => .fail "a bound token" "none"
  | first :: _ => parser first

/-- The values of several tokens, in a list. -/
def Value.ofTokens (tokens : List τ) : Value τ :=
  .list (tokens.map .token)

mutual

/-- The parser that an expression denotes. -/
def Expr.parser : Expr τ → ValueParser τ
  | .any => .map none .token .any
  | .token wanted => .map none .token (.token wanted)
  | .except unwanted => .map none .token (.except unwanted)
  | .oneOf wanted => .map none .token (.oneOf wanted)
  | .noneOf unwanted => .map none .token (.noneOf unwanted)
  | .satisfy note expected predicate =>
      .map none .token (.satisfy note expected predicate.holds)
  | .tokens run => .map none .ofTokens (.tokens run)
  | .literal run => .map none .text (.literal run)
  | .eof => .map none (fun _ => .unit) .eof
  | .pure value => .pure value
  | .fail expected actual => .fail expected actual
  | .map note transform expr => .map note transform.apply expr.parser
  | .bind note binder expr => .flatMap note (fun output => binder.parser output) expr.parser
  | .apply note combination first second =>
      .sequence note combination.apply first.parser second.parser
  | .both first second => .sequence none .pair first.parser second.parser
  | .discardLeft first second => .discardLeft first.parser second.parser
  | .discardRight first second => .discardRight first.parser second.parser
  | .choice first second => .choice first.parser second.parser
  | .optional default expr => .optional default expr.parser
  | .zeroOrMore gathering expr =>
      .map none gathering.plan.value (.zeroOrMore gathering.plan.collector expr.parser)
  | .oneOrMore gathering expr =>
      .map none gathering.plan.value (.oneOrMore gathering.plan.collector expr.parser)
  | .count bounds gathering expr =>
      .map none gathering.plan.value (.count bounds gathering.plan.collector expr.parser)
  | .rule name => .rule name
  | .delayedTwice label expr =>
      .map none (fun outputs => .pair outputs.1 outputs.2) (.twice (.delayed label expr.parser))
  | .delayedBoth label expr =>
      .sequence none .pair (.delayed label expr.parser) (.delayed label expr.parser)
  | .tap label expr => .tap label expr.parser

/-- The parser that a binder chooses. -/
def Binder.parser : Binder τ → Value τ → ValueParser τ
  | .pure, output => .pure output
  | .token, output => .onFirstToken output fun first => .map none .token (.token first)
  | .except, output => .onFirstToken output fun first => .map none .token (.except first)
  | .tokens, output => .map none .ofTokens (.tokens output.tokensOf)
  | .oneOf, output => .map none .token (.oneOf output.tokensOf)
  | .noneOf, output => .map none .token (.noneOf output.tokensOf)
  | .fail, output => .fail output.textOf "bound"
  | .andThen next, output => .map none (.pair output) next.parser
  | .count next, output =>
      .map none .list (.repeated (Span.exact output.intOf.toInt).bounds next.parser)
  | .upTo next, output =>
      .map none .list (.repeated (Span.atMost output.intOf.toInt).bounds next.parser)
  | .switch branches, output => branches.parser output.textOf

/-- The parser for a key. -/
def Branches.parser : Branches τ → String → ValueParser τ
  | .default expr, _ => expr.parser
  | .onKey key expr others, text =>
      if key = text then expr.parser else others.parser text

end

end Descent
