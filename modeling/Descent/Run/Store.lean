import Descent.Run.Rules

/-!
# Parser values in one store

A parser value that stands alone has all of its parts to itself. Here there are several
parser values, each with a number, and a parser may refer to one of them by name instead
of having it as a part. A reference may stand in several places, within what a delayed
parser builds, and in what a binder returns; it always leads to the one value that has
been given the name. So what is built by one reference is there for all others, and all
values keep what they remember in one store. A value that becomes a part of another one
after it has been run is referred to as well.

A copy of a parser value is one more value with the same parser. None of its own parts
has been built, whatever has been built of the original. Where the original has a
reference, the copy has the same one.

Runs come one after the other. That a part is built once also when it is first run in
several places at the same time is not said here.
-/

namespace Descent

/-- The part belongs to the parser value with this number. -/
def Site.isOf (number : Nat) (site : Site) : Bool :=
  site.getLast? == some (.value number)

/-- What all parser values remember. -/
structure Store where
  /-- Whether a part has been built. -/
  built : Site → Bool
  /-- How often binders have been called. -/
  calls : Nat

namespace Store

/-- Nothing is built, and no binder has been called. -/
def empty : Store := ⟨fun _ => false, 0⟩

/-- A part is built. -/
def build (store : Store) (site : Site) : Store :=
  { store with built := fun other => other == site || store.built other }

theorem built_build_self (store : Store) (site : Site) :
    (store.build site).built site = true := by
  simp [build]

theorem built_build_of_ne (store : Store) {site part : Site} (different : part ≠ site) :
    (store.build site).built part = store.built part := by
  simp [build, different]

/-- A binder is called. -/
def call (store : Store) : Store :=
  { store with calls := store.calls + 1 }

/-- Nothing is built of the parser value with this number. -/
def clear (store : Store) (number : Nat) : Store :=
  { store with built := fun site => !site.isOf number && store.built site }

/-- Nothing is built of any parser value. -/
def renewed (store : Store) : Store :=
  { store with built := fun _ => false }

end Store

namespace Attempt

variable {τ α : Type}

/-- The attempt of a part. -/
def behind (turn : Turn) (attempt : Attempt τ α Store) : Attempt τ α Store :=
  fun site store cursor => attempt (turn :: site) store cursor

/-- The attempt of a parser that a binder returned. It is a new part on each call. -/
def onCall (attempt : Attempt τ α Store) : Attempt τ α Store :=
  fun site store cursor => attempt (.bound store.calls :: site) store.call cursor

/-- The attempt of a part that is built unless it has been. -/
def onFirst (label : String) (attempt : Attempt τ α Store) : Attempt τ α Store :=
  fun site store cursor =>
    if store.built site then
      attempt (.inside :: site) store cursor
    else do
      let reply ← attempt (.inside :: site) (store.build site) cursor
      some (reply.after #[.built site label])

section OnFirst

variable {label : String} {attempt : Attempt τ α Store} {site : Site} {store : Store}
variable {cursor : Cursor τ}

theorem onFirst_of_built (built : store.built site = true) :
    attempt.onFirst label site store cursor = attempt (.inside :: site) store cursor := by
  rw [onFirst, if_pos built]

theorem onFirst_of_unbuilt (unbuilt : store.built site = false) :
    attempt.onFirst label site store cursor =
      (attempt (.inside :: site) (store.build site) cursor).map
        fun reply => reply.after #[.built site label] := by
  rw [onFirst, unbuilt, if_neg Bool.false_ne_true]
  cases attempt (.inside :: site) (store.build site) cursor <;> rfl

end OnFirst

/-- The attempt of a parser value by reference, wherever the reference stands. -/
def byReference (number : Nat) (attempt : Attempt τ α Store) : Attempt τ α Store :=
  fun _ store cursor => attempt [.value number] store cursor

end Attempt

/-- The attempt of a parser that may refer to parser values. A name refers to the value
with its number; a name without a number is a rule that is built where it stands. -/
def Parser.attemptShared {τ ρ : Type} [Token τ] {Out : ρ → Type} (label : ρ → String)
    (refers : ρ → Option Nat) (enter : (name : ρ) → Attempt τ (Out name) Store) :
    {α : Type} → Parser τ Out α → Attempt τ α Store
  | _, .satisfy note expected accepts => .satisfy note expected accepts
  | _, .tokens run => .tokens run
  | _, .eof => .eof
  | _, .pure value => .pure value
  | _, .fail expected actual => .fail (.mismatch expected actual)
  | _, .map note function parser => .map note function (attemptShared label refers enter parser)
  | _, .flatMap note binder parser =>
      .flatMap note (fun output => .onCall (attemptShared label refers enter (binder output)))
        (.behind .left (attemptShared label refers enter parser))
  | _, .sequence note combine first second =>
      .sequence note combine (.behind .left (attemptShared label refers enter first))
        (.behind .right (attemptShared label refers enter second))
  | _, .twice parser =>
      let once := attemptShared label refers enter parser
      .sequence none Prod.mk once once
  | _, .choice first second =>
      .choice (.behind .left (attemptShared label refers enter first))
        (.behind .right (attemptShared label refers enter second))
  | _, .zeroOrMore collector parser =>
      .zeroOrMore collector (attemptShared label refers enter parser)
  | _, .oneOrMore collector parser =>
      .oneOrMore collector (attemptShared label refers enter parser)
  | _, .count bounds collector parser =>
      .count bounds collector (attemptShared label refers enter parser)
  | _, .delayed name parser => .onFirst name (attemptShared label refers enter parser)
  | _, .rule name =>
      match refers name with
      | some number => .byReference number (enter name)
      | none => .onFirst (label name) (enter name)
  | _, .tap name parser => .tap name (attemptShared label refers enter parser)

namespace Rules

variable {τ ρ : Type} [Token τ] {Out : ρ → Type}

/-- What a rule does with parser values that it may refer to, nested to a given depth. -/
def attemptShared (rules : Rules τ Out) (refers : ρ → Option Nat) :
    Nat → (name : ρ) → Attempt τ (Out name) Store
  | 0, _ => fun _ _ _ => none
  | depth + 1, name =>
      (rules.body name).attemptShared rules.label refers (attemptShared rules refers depth)

/-- What a parser does with parser values that it may refer to, nested to a given
depth. -/
def runShared {α : Type} (rules : Rules τ Out) (refers : ρ → Option Nat) (depth : Nat)
    (parser : Parser τ Out α) : Attempt τ α Store :=
  parser.attemptShared rules.label refers (rules.attemptShared refers depth)

end Rules

/-- A parser as a value. -/
structure ParserValue (τ : Type) {ρ : Type} (Out : ρ → Type) where
  {Output : Type}
  parser : Parser τ Out Output

/-- Parser values in the order of their numbers, and what they remember. -/
structure Shelf (τ : Type) {ρ : Type} (Out : ρ → Type) where
  values : List (ParserValue τ Out)
  store : Store

namespace Shelf

variable {τ ρ : Type} {Out : ρ → Type}

/-- There is no parser value yet. -/
def empty : Shelf τ Out := ⟨[], .empty⟩

/-- One more parser value, which is new. -/
def put (shelf : Shelf τ Out) (value : ParserValue τ Out) : Shelf τ Out :=
  ⟨shelf.values ++ [value], shelf.store.clear shelf.values.length⟩

/-- A copy of a parser value: the same parser once more, and nothing that has been built
of it. -/
def copy (shelf : Shelf τ Out) (number : Nat) : Option (Shelf τ Out) :=
  (shelf.values[number]?).map shelf.put

end Shelf

end Descent
