import Descent.Repetition.Bounds
import Descent.Repetition.Collector
import Descent.Token.Scalar

/-!
# Parsers

A parser is data: it says how tokens are to be read, and a run carries it out.
Being data, parsers can be compared, classified and reasoned about by their form.
A parser over tokens `τ` is indexed by the type of its output.

Rules give parsers names and may refer to each other and to themselves. What
`rule` refers to is given by a table when the parser is run; a parser knows only
the rule's name and what it outputs.

Some parsers carry a note. It is written to the log whenever their function is
called, which makes visible how often, and in which order, functions are called.
-/

namespace Descent

/-- A parser of `τ` tokens, given what each rule outputs. -/
inductive Parser (τ : Type) {ρ : Type} (Out : ρ → Type) : Type → Type 1 where
  /-- One token that passes a test. -/
  | satisfy (note : Option String) (expected : String) (accepts : τ → Bool) :
      Parser τ Out τ
  /-- A run of tokens, all or none. The output is the parser's own run. -/
  | tokens (run : List τ) : Parser τ Out (List τ)
  /-- Nothing, at the end of input only. -/
  | eof : Parser τ Out Unit
  /-- Nothing, with a given output. -/
  | pure {α : Type} (value : α) : Parser τ Out α
  /-- No input at all. -/
  | fail {α : Type} (expected actual : String) : Parser τ Out α
  /-- What another parser reads, with a changed output. -/
  | map {α β : Type} (note : Option String) (function : α → β) (parser : Parser τ Out α) :
      Parser τ Out β
  /-- A parser, and then one that is chosen by its output. -/
  | flatMap {α β : Type} (note : Option String) (binder : α → Parser τ Out β)
      (parser : Parser τ Out α) : Parser τ Out β
  /-- Two parsers, one after the other. -/
  | sequence {α β γ : Type} (note : Option String) (combine : α → β → γ)
      (first : Parser τ Out α) (second : Parser τ Out β) : Parser τ Out γ
  /-- One parser value, twice in a row. What the first run builds is there for the second. -/
  | twice {α : Type} (parser : Parser τ Out α) : Parser τ Out (α × α)
  /-- The first of two parsers that matches. -/
  | choice {α : Type} (first second : Parser τ Out α) : Parser τ Out α
  /-- As many matches as there are. -/
  | zeroOrMore {α γ : Type} (collector : Collector α γ) (parser : Parser τ Out α) :
      Parser τ Out γ
  /-- As many matches as there are, and at least one. -/
  | oneOrMore {α γ : Type} (collector : Collector α γ) (parser : Parser τ Out α) :
      Parser τ Out γ
  /-- As many matches as there are, within bounds. -/
  | count {α γ : Type} (bounds : Bounds) (collector : Collector α γ)
      (parser : Parser τ Out α) : Parser τ Out γ
  /-- A parser that is built when it is first run. -/
  | delayed {α : Type} (label : String) (parser : Parser τ Out α) : Parser τ Out α
  /-- A rule, built when it is first run here. -/
  | rule (name : ρ) : Parser τ Out (Out name)
  /-- A parser that leaves its position in the log before it runs. -/
  | tap {α : Type} (label : String) (parser : Parser τ Out α) : Parser τ Out α

namespace Parser

variable {τ ρ : Type} {Out : ρ → Type} {α β : Type}

/-! ## Single tokens -/

/-- Any token. -/
def any : Parser τ Out τ :=
  .satisfy none "anything" fun _ => true

/-- A token equal to a given one. The output is the token of the input. -/
def token [Token τ] (wanted : τ) : Parser τ Out τ :=
  .satisfy none (Token.describe wanted) fun token => token == wanted

/-- A token other than a given one. -/
def except [Token τ] (unwanted : τ) : Parser τ Out τ :=
  .satisfy none ("anything but '" ++ Token.describe unwanted ++ "'")
    fun token => token != unwanted

/-- A token equal to one of some tokens. -/
def oneOf [Token τ] (wanted : List τ) : Parser τ Out τ :=
  .satisfy none ("one of '" ++ Token.describeAll wanted ++ "'")
    fun token => wanted.contains token

/-- A token equal to none of some tokens. -/
def noneOf [Token τ] (unwanted : List τ) : Parser τ Out τ :=
  .satisfy none ("something not in '" ++ Token.describeAll unwanted ++ "'")
    fun token => !unwanted.contains token

/-! ## Runs of tokens -/

/-- A run of tokens, all or none, with its text as output. -/
def literal [Token τ] (run : List τ) : Parser τ Out String :=
  .map none Token.describeAll (.tokens run)

/-- The characters of a text, all or none. -/
def string (text : String) : Parser Char Out String :=
  literal text.toList

/-! ## One parser after another -/

/-- Two parsers in a row, with both outputs. -/
def both (first : Parser τ Out α) (second : Parser τ Out β) : Parser τ Out (α × β) :=
  .sequence none Prod.mk first second

/-- Two parsers in a row, with the output of the second. -/
def discardLeft (first : Parser τ Out α) (second : Parser τ Out β) : Parser τ Out β :=
  .sequence none (fun _ output => output) first second

/-- Two parsers in a row, with the output of the first. -/
def discardRight (first : Parser τ Out α) (second : Parser τ Out β) : Parser τ Out α :=
  .sequence none (fun output _ => output) first second

/-- Two parsers in a row, the first of which outputs a function for the output of
the second. -/
def apply (function : Parser τ Out (α → β)) (argument : Parser τ Out α) : Parser τ Out β :=
  .sequence none (fun output => output) function argument

/-- A parser that has to read all that is left. -/
def complete (parser : Parser τ Out α) : Parser τ Out α :=
  discardRight parser .eof

/-! ## Alternatives -/

/-- A parser, or nothing with a given output instead. -/
def optional (default : α) (parser : Parser τ Out α) : Parser τ Out α :=
  .choice parser (.pure default)

/-! ## Repetition -/

/-- As many matches as there are, in a list. -/
def many (parser : Parser τ Out α) : Parser τ Out (List α) :=
  .map none Array.toList (.zeroOrMore .array parser)

/-- As many matches as bounds allow, in a list. -/
def repeated (bounds : Bounds) (parser : Parser τ Out α) : Parser τ Out (List α) :=
  .map none Array.toList (.count bounds .array parser)

end Parser

end Descent
