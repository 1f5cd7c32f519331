import Descent.Proofs.Courses
import Descent.Proofs.Equivalence

/-!
# Parsers in a row, with all that their runs leave behind

A run does more than end. It logs each call of a function that carries a note, and it builds
parts that the parser value keeps. Laws of parsers in a row are proved here of all of this at
once: two parsers go the same way, log the same in the same order, and what they are made of
remembers the same afterwards.

A parser that a binder makes is new on each call and forgotten afterwards. So a parser that goes
on with what a binder makes keeps what its first part remembers, and nothing else; this is the
memory that the laws compare. A binder may also use a parser value that exists beside the first
one, and then that value keeps what it builds. This is what sequences do.
-/

namespace Descent

variable {τ α β γ κ : Type}

/-- All that can be told of a run: how it ends, what its log shows, and what is kept of its
memory. -/
structure Account (τ κ α : Type) where
  outcome : Outcome τ α
  texts : List String
  kept : κ

/-- The account of a reply, if this is kept of its memory. -/
def Reply.account (part : Memory → κ) (reply : Reply τ α) : Account τ κ α :=
  ⟨reply.outcome, reply.texts, part reply.memory⟩

theorem Reply.texts_eq_account (run : Option (Reply τ α)) :
    run.map texts = (run.map (account fun _ => ())).map Account.texts := by
  cases run <;> rfl

theorem Log.texts_ofNote (note : Option String) :
    (Log.ofNote note).toList.map Entry.text = note.toList := by
  cases note <;> rfl

namespace Account

/-- A function has been called before. -/
def after (note : Option String) (account : Account τ κ α) : Account τ κ α :=
  { account with texts := note.toList ++ account.texts }

/-- Calls a function after a success, and goes on. What is kept is what was kept before. -/
def andThen (note : Option String) (account : Option (Account τ κ α))
    (next : Match τ α → Option (Account τ Unit β)) : Option (Account τ κ β) :=
  account.bind fun ahead =>
    match ahead.outcome with
    | .error error => some ⟨.error error, ahead.texts, ahead.kept⟩
    | .ok found => (next found).map fun behind =>
        ⟨behind.outcome, ahead.texts ++ (behind.after note).texts, ahead.kept⟩

/-- Of three in a row, the first two may be taken together, or the last two. -/
theorem andThen_assoc (note later : Option String) (account : Option (Account τ κ α))
    (next : Match τ α → Option (Account τ Unit β))
    (last : Match τ β → Option (Account τ Unit γ)) :
    andThen later (andThen note account next) last =
      andThen note account fun found => andThen later (next found) last := by
  cases account with
  | none => rfl
  | some ahead =>
      rcases ahead with ⟨outcome, texts, kept⟩
      cases outcome with
      | error error => rfl
      | ok found =>
          simp only [andThen, Option.bind_some]
          cases next found with
          | none => rfl
          | some behind =>
              rcases behind with ⟨outcome, others, _⟩
              cases outcome with
              | error error => rfl
              | ok further =>
                  simp only [Option.map_some, Option.bind_some, Option.map_map]
                  congr 1
                  funext account
                  simp [after]

/-- To go on without doing anything is to stop. -/
theorem andThen_stop (account : Option (Account τ κ α)) :
    andThen none account (fun found => some ⟨.ok found, [], ()⟩) = account := by
  cases account with
  | none => rfl
  | some ahead =>
      rcases ahead with ⟨outcome, texts, kept⟩
      cases outcome with
      | error error => rfl
      | ok found => simp [andThen, after]

end Account

namespace Rules

variable {ρ : Type} [Token τ] {Out : ρ → Type} {rules : Rules τ Out} {depth : Nat}
variable {site other : Site} {memory : Memory} {cursor : Cursor τ}

/-! ## Accounts of runs -/

/-- Which part of a parser value is run does not matter. -/
theorem account_elsewhere (part : Memory → κ) (parser : Parser τ Out α) (site other : Site) :
    (rules.run depth parser site memory cursor).map (Reply.account part) =
      (rules.run depth parser other memory cursor).map (Reply.account part) := by
  cases replies : rules.run depth parser site memory cursor with
  | none => rw [rules.run_eq_none rfl other replies]
  | some reply =>
      obtain ⟨answer, answers, outcome, remembered, texts⟩ := rules.run_elsewhere replies other
      rw [answers]
      simp only [Option.map_some, Reply.account, outcome, remembered, texts]

theorem account_pure (part : Memory → κ) (value : α) :
    (rules.run depth (.pure value) site memory cursor).map (Reply.account part) =
      some ⟨.ok ⟨value, cursor⟩, [], part memory⟩ :=
  rfl

theorem account_map (part : Memory → κ) (note : Option String) (function : α → β)
    (parser : Parser τ Out α) (other : Site) :
    (rules.run depth (.map note function parser) site memory cursor).map (Reply.account part) =
      Account.andThen note
        ((rules.run depth parser other memory cursor).map (Reply.account part))
        fun found => some ⟨.ok ⟨function found.value, found.rest⟩, [], ()⟩ := by
  rw [account_elsewhere part parser other site]
  show (Attempt.map note function (rules.run depth parser) site memory cursor).map _ = _
  rw [Attempt.map]
  cases rules.run depth parser site memory cursor with
  | none => rfl
  | some reply =>
      rcases reply with ⟨outcome, inner, log⟩
      cases outcome with
      | error error => rfl
      | ok found =>
          simp [Account.andThen, Account.after, Reply.account, Reply.texts, Log.texts_ofNote]

theorem account_flatMap (part : Memory → κ) (note : Option String) (binder : α → Parser τ Out β)
    (parser : Parser τ Out α) (other : Site) :
    (rules.run depth (.flatMap note binder parser) site memory cursor).map
        (Reply.account fun memory => part memory.left) =
      Account.andThen note
        ((rules.run depth parser other memory.left cursor).map (Reply.account part))
        fun found => (rules.run depth (binder found.value) other .blank found.rest).map
          (Reply.account fun _ => ()) := by
  rw [account_elsewhere part parser other (.left :: site)]
  show (Attempt.flatMap note (fun output => (rules.run depth (binder output)).onBound)
    (rules.run depth parser).onLeft site memory cursor).map _ = _
  simp only [Attempt.flatMap, Attempt.onLeft]
  cases rules.run depth parser (.left :: site) memory.left cursor with
  | none => rfl
  | some reply =>
      rcases reply with ⟨outcome, inner, log⟩
      cases outcome with
      | error error => rfl
      | ok found =>
          rw [Option.map_some, Account.andThen, Option.bind_some]
          dsimp only [Reply.account]
          rw [account_elsewhere _ (binder found.value) other (.bound memory.right.calls :: site)]
          cases ended : rules.run depth (binder found.value) (.bound memory.right.calls :: site)
            .blank found.rest with
          | none => simp [Attempt.onBound, ended]
          | some next => simp [Attempt.onBound, ended, Reply.account, Reply.texts, Account.after,
              Log.texts_ofNote]

/-- What the first part remembers is all that is kept. -/
theorem account_flatMap_left (note : Option String) (binder : α → Parser τ Out β)
    (parser : Parser τ Out α) (other : Site) :
    (rules.run depth (.flatMap note binder parser) site memory cursor).map
        (Reply.account Memory.left) =
      Account.andThen note
        ((rules.run depth parser other memory.left cursor).map (Reply.account id))
        fun found => (rules.run depth (binder found.value) other .blank found.rest).map
          (Reply.account fun _ => ()) :=
  account_flatMap id note binder parser other

/-- A sequence runs its second part behind the success of the first, with what that part remembers,
and calls its function if both have succeeded. -/
theorem account_sequence (part : Memory → κ) (note : Option String) (combine : α → β → γ)
    (first : Parser τ Out α) (second : Parser τ Out β) (other : Site) :
    (rules.run depth (.sequence note combine first second) site memory cursor).map
        (Reply.account fun memory => part memory.left) =
      Account.andThen none
        ((rules.run depth first other memory.left cursor).map (Reply.account part))
        fun found => Account.andThen note
          ((rules.run depth second other memory.right found.rest).map (Reply.account fun _ => ()))
          fun further => some ⟨.ok ⟨combine found.value further.value, further.rest⟩, [], ()⟩ := by
  rw [account_elsewhere part first other (.left :: site)]
  show (Attempt.sequence note combine (rules.run depth first).onLeft
    (rules.run depth second).onRight site memory cursor).map _ = _
  simp only [Attempt.sequence, Attempt.onLeft]
  cases rules.run depth first (.left :: site) memory.left cursor with
  | none => rfl
  | some reply =>
      rcases reply with ⟨outcome, inner, log⟩
      cases outcome with
      | error error => rfl
      | ok found =>
          rw [Option.map_some, Account.andThen, Option.bind_some]
          dsimp only [Reply.account]
          rw [account_elsewhere _ second other (.right :: site)]
          cases ended : rules.run depth second (.right :: site) memory.right found.rest with
          | none => simp [Attempt.onRight, ended, Account.andThen]
          | some next =>
              rcases next with ⟨outcome, last, later⟩
              cases outcome <;>
                simp [Attempt.onRight, ended, Account.andThen, Account.after, Reply.account,
                  Reply.texts, Log.texts_ofNote]

/-! ## Parsers that are used by reference -/

/-- What a parser does that goes on, behind a first parser, with what a function makes of a second
one. The second parser value exists beside the first, and keeps what it builds however often it is
used; a binder that makes parsers would make a new one each time. -/
def runReferring (rules : Rules τ Out) (depth : Nat) (first : Parser τ Out α)
    (second : Parser τ Out β) (use : α → Attempt τ β → Attempt τ γ) : Attempt τ γ :=
  .flatMap none (fun output => use output (rules.run depth second).onRight)
    (rules.run depth first).onLeft

/-- A sequence goes on with its second part by reference, and changes the output of that. -/
theorem run_sequence (rules : Rules τ Out) (depth : Nat) (note : Option String)
    (combine : α → β → γ) (first : Parser τ Out α) (second : Parser τ Out β) :
    rules.run depth (.sequence note combine first second) =
      rules.runReferring depth first second fun output attempt =>
        attempt.map note (combine output) :=
  Attempt.sequence_eq_flatMap note combine _ _

/-! ## Laws -/

/-- Behind a parser that reads nothing, its output is given to the binder at once. -/
theorem account_flatMap_pure (note : Option String) (binder : α → Parser τ Out β) (value : α) :
    (rules.run depth (.flatMap note binder (.pure value)) site memory cursor).map
        (Reply.account fun _ => ()) =
      (rules.run depth (binder value) other .blank cursor).map fun reply =>
        (reply.account fun _ => ()).after note := by
  rw [account_flatMap (fun _ => ()) note binder (.pure value) other, account_pure]
  simp only [Account.andThen, Option.bind_some, Option.map_map, List.nil_append]
  rfl

/-- A binder that returns its output unread adds nothing. -/
theorem account_flatMap_returning (parser : Parser τ Out α) :
    (rules.run depth (.flatMap none .pure parser) site memory cursor).map
        (Reply.account Memory.left) =
      (rules.run depth parser other memory.left cursor).map (Reply.account id) := by
  rw [account_flatMap_left none .pure parser other]
  exact Account.andThen_stop _

/-- Of three parsers in a row, a binder may make the last one, or the last two. -/
theorem account_flatMap_flatMap (note later : Option String) (binder : α → Parser τ Out β)
    (last : β → Parser τ Out γ) (parser : Parser τ Out α) {otherMemory : Memory}
    (same : otherMemory.left = memory.left.left) :
    (rules.run depth (.flatMap later last (.flatMap note binder parser)) site memory cursor).map
        (Reply.account fun memory => memory.left.left) =
      (rules.run depth (.flatMap note (fun output => .flatMap later last (binder output)) parser)
        other otherMemory cursor).map (Reply.account Memory.left) := by
  rw [account_flatMap Memory.left later last (.flatMap note binder parser) other,
    account_flatMap_left note binder parser other, Account.andThen_assoc,
    account_flatMap_left note _ parser other, same]
  congr 1
  funext found
  rw [account_flatMap (fun _ => ()) later last (binder found.value) other]
  rfl

/-- To change an output is to go on with the changed one. -/
theorem account_map_eq (note : Option String) (function : α → β) (parser : Parser τ Out α) :
    (rules.run depth (.map note function parser) site memory.left cursor).map (Reply.account id) =
      (rules.run depth (.flatMap note (fun output => .pure (function output)) parser) other memory
        cursor).map (Reply.account Memory.left) := by
  rw [account_map id note function parser site, account_flatMap_left note _ parser site]
  rfl

/-- A second part that has built nothing may be made anew by a binder. -/
theorem account_sequence_eq (note : Option String) (combine : α → β → γ)
    (first : Parser τ Out α) (second : Parser τ Out β) (unbuilt : memory.right = .blank) :
    (rules.run depth (.sequence note combine first second) site memory cursor).map
        (Reply.account Memory.left) =
      (rules.run depth (.flatMap none (fun output => .map note (combine output) second) first) other
        memory cursor).map (Reply.account Memory.left) := by
  refine (account_sequence id note combine first second site).trans ?_
  rw [account_flatMap_left none _ first site, unbuilt]
  congr 1
  funext found
  rw [account_map (fun _ => ()) note (combine found.value) second site]

/-! ## Calls -/

/-- A function is called once behind a success of the parser, and not behind a failure. -/
theorem texts_map (text : String) (function : α → β) (parser : Parser τ Out α) :
    (rules.run depth (.map (some text) function parser) site memory cursor).map Reply.texts =
      (rules.run depth parser other memory cursor).map fun reply =>
        match reply.outcome with
        | .error _ => reply.texts
        | .ok _ => reply.texts ++ [text] := by
  rw [Reply.texts_eq_account, account_map (fun _ => ()) (some text) function parser other]
  cases rules.run depth parser other memory cursor with
  | none => rfl
  | some reply =>
      rcases reply with ⟨outcome, after, log⟩
      cases outcome <;> rfl

/-- So is a binder, and the parser that it makes is run after the call. -/
theorem texts_flatMap (text : String) (binder : α → Parser τ Out β) (parser : Parser τ Out α) :
    (rules.run depth (.flatMap (some text) binder parser) site memory cursor).map Reply.texts =
      (rules.run depth parser other memory.left cursor).bind fun ahead =>
        match ahead.outcome with
        | .error _ => some ahead.texts
        | .ok found => (rules.run depth (binder found.value) other .blank found.rest).map
            fun behind => ahead.texts ++ text :: behind.texts := by
  rw [Reply.texts_eq_account, account_flatMap (fun _ => ()) (some text) binder parser other]
  cases rules.run depth parser other memory.left cursor with
  | none => rfl
  | some ahead =>
      rcases ahead with ⟨outcome, after, log⟩
      cases outcome with
      | error error => rfl
      | ok found =>
          show Option.map _ (Option.map _ (Option.map _ _)) = Option.map _ _
          cases rules.run depth (binder found.value) other .blank found.rest <;> rfl

/-- The laws of parsers in a row, for all that their runs leave behind: how they end, what they log,
and in which order, and what the parser in front remembers afterwards.

To go on from an output that is there without reading is to call the binder and to run what it
makes. To go on with a parser that outputs the same without reading is not to go on at all. Of two
binders behind a parser, the first may be given the second to put behind what it makes. To change
an output is to go on with the changed one. A sequence, whether it keeps both outputs or one of
them or applies one to the other, goes on with its second part by reference and changes the output
of that, in every respect; and if that part has built nothing, a binder may as well make it anew.
Functions and binders are called once behind a success of their parser, and never behind a
failure. -/
theorem flatMap_laws (rules : Rules τ Out) (depth : Nat) (site other : Site) (cursor : Cursor τ) :
    (∀ {α β : Type} (note : Option String) (binder : α → Parser τ Out β) (value : α) memory,
      (rules.run depth (.flatMap note binder (.pure value)) site memory cursor).map
          (Reply.account fun _ => ()) =
        (rules.run depth (binder value) other .blank cursor).map fun reply =>
          (reply.account fun _ => ()).after note) ∧
    (∀ {α : Type} (parser : Parser τ Out α) memory,
      (rules.run depth (.flatMap none .pure parser) site memory cursor).map
          (Reply.account Memory.left) =
        (rules.run depth parser other memory.left cursor).map (Reply.account id)) ∧
    (∀ {α β γ : Type} (note later : Option String) (binder : α → Parser τ Out β)
      (last : β → Parser τ Out γ) (parser : Parser τ Out α) memory otherMemory,
      otherMemory.left = memory.left.left →
      (rules.run depth (.flatMap later last (.flatMap note binder parser)) site memory cursor).map
          (Reply.account fun memory => memory.left.left) =
        (rules.run depth (.flatMap note (fun output => .flatMap later last (binder output)) parser)
          other otherMemory cursor).map (Reply.account Memory.left)) ∧
    (∀ {α β : Type} (note : Option String) (function : α → β) (parser : Parser τ Out α) memory,
      (rules.run depth (.map note function parser) site memory.left cursor).map
          (Reply.account id) =
        (rules.run depth (.flatMap note (fun output => .pure (function output)) parser) other memory
          cursor).map (Reply.account Memory.left)) ∧
    (∀ {α β : Type} (first : Parser τ Out α) (second : Parser τ Out β),
      rules.run depth (.both first second) =
          rules.runReferring depth first second (fun output attempt =>
            attempt.map none fun further => (output, further)) ∧
        rules.run depth (.discardLeft first second) =
          rules.runReferring depth first second (fun _ attempt =>
            attempt.map none fun further => further) ∧
        rules.run depth (.discardRight first second) =
          rules.runReferring depth first second fun output attempt =>
            attempt.map none fun _ => output) ∧
    (∀ {α β : Type} (function : Parser τ Out (α → β)) (argument : Parser τ Out α),
      rules.run depth (.apply function argument) =
        rules.runReferring depth function argument fun output attempt =>
          attempt.map none fun further => output further) ∧
    (∀ {α β γ : Type} (note : Option String) (combine : α → β → γ) (first : Parser τ Out α)
      (second : Parser τ Out β),
      rules.run depth (.sequence note combine first second) =
          rules.runReferring depth first second (fun output attempt =>
            attempt.map note (combine output)) ∧
        ∀ memory, memory.right = .blank →
          (rules.run depth (.sequence note combine first second) site memory cursor).map
              (Reply.account Memory.left) =
            (rules.run depth (.flatMap none (fun output => .map note (combine output) second) first)
              other memory cursor).map (Reply.account Memory.left)) ∧
    (∀ {α β : Type} (text : String) (function : α → β) (parser : Parser τ Out α) memory,
      (rules.run depth (.map (some text) function parser) site memory cursor).map Reply.texts =
        (rules.run depth parser other memory cursor).map fun reply =>
          match reply.outcome with
          | .error _ => reply.texts
          | .ok _ => reply.texts ++ [text]) ∧
    ∀ {α β : Type} (text : String) (binder : α → Parser τ Out β) (parser : Parser τ Out α) memory,
      (rules.run depth (.flatMap (some text) binder parser) site memory cursor).map Reply.texts =
        (rules.run depth parser other memory.left cursor).bind fun ahead =>
          match ahead.outcome with
          | .error _ => some ahead.texts
          | .ok found => (rules.run depth (binder found.value) other .blank found.rest).map
              fun behind => ahead.texts ++ text :: behind.texts := by
  refine ⟨?atOnce, ?returning, ?nested, ?changed, ?sequences, ?applied, ?general, ?functions,
    ?binders⟩
  case atOnce =>
    intro α β note binder value memory
    exact account_flatMap_pure note binder value
  case returning =>
    intro α parser memory
    exact account_flatMap_returning parser
  case nested =>
    intro α β γ note later binder last parser memory otherMemory same
    exact account_flatMap_flatMap note later binder last parser same
  case changed =>
    intro α β note function parser memory
    exact account_map_eq note function parser
  case sequences =>
    intro α β first second
    exact ⟨rules.run_sequence depth none Prod.mk first second,
      rules.run_sequence depth none (fun _ output => output) first second,
      rules.run_sequence depth none (fun output _ => output) first second⟩
  case applied =>
    intro α β function argument
    exact rules.run_sequence depth none (fun output => output) function argument
  case general =>
    intro α β γ note combine first second
    exact ⟨rules.run_sequence depth note combine first second,
      fun memory unbuilt => account_sequence_eq note combine first second unbuilt⟩
  case functions =>
    intro α β text function parser memory
    exact texts_map text function parser
  case binders =>
    intro α β text binder parser memory
    exact texts_flatMap text binder parser

/-- Brackets, and what they add to those before. -/
def adding (count : Nat) : Parser Char (fun _ : Unit => Nat) Nat :=
  .map (some "add") (Nat.add count) (.rule ())

/-- Three dots in a row, each behind a call. However the calls are nested, they are made in the same
order, between the same parts that are built; and of two dots, a second parser that is made anew
behind the first is built behind it. -/
theorem flatMap_laws_dots :
    Memory.blank.left = Memory.blank.left.left ∧
    (brackets.run 1 (.flatMap (some "second") adding (.flatMap (some "first") adding (.rule ()))) []
        .blank (.start dots)).map (Reply.account fun memory => memory.left.left) =
      (brackets.run 1 (.flatMap (some "first")
        (fun count => .flatMap (some "second") adding (adding count)) (.rule ())) [] .blank
          (.start dots)).map (Reply.account Memory.left) ∧
    (brackets.run 1 (.flatMap (some "first")
        (fun count => .flatMap (some "second") adding (adding count)) (.rule ())) [] .blank
          (.start dots)).map Reply.texts =
      some ["build:brackets", "first", "build:brackets", "add", "second", "build:brackets", "add"] ∧
    (Memory.split (.opened .blank) .blank).right = .blank ∧
    (brackets.run 1 (.sequence (some "add") Nat.add (.rule ()) (.rule ())) []
        (.split (.opened .blank) .blank) (.start dots)).map (Reply.account Memory.left) =
      (brackets.run 1 (.flatMap none adding (.rule ())) [] (.split (.opened .blank) .blank)
        (.start dots)).map (Reply.account Memory.left) ∧
    (brackets.run 1 (.flatMap none adding (.rule ())) [] (.split (.opened .blank) .blank)
        (.start dots)).map Reply.texts =
      some ["build:brackets", "add"] := by
  obtain ⟨_, _, nested, _, _, _, general, _⟩ := flatMap_laws brackets 1 [] [] (.start dots)
  obtain ⟨_, anew⟩ := general (some "add") Nat.add (.rule ()) (.rule ())
  exact ⟨rfl, nested _ _ adding adding _ .blank .blank rfl, by decide +kernel, rfl,
    anew (.split (.opened .blank) .blank) rfl, by decide +kernel⟩

end Rules

end Descent
