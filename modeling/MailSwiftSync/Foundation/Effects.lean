import Mathlib.Order.Defs.Unbundled
import MailSwiftSync.Foundation.Metered

/-!
# Fallible effects

An effect reads and writes a state and gives a value or an error; the state it leaves
behind stays in either case.  A change does so only when it succeeds, so that running it
as a transaction leaves the state untouched by a failure.
-/

namespace Foundation

/-- A fallible computation whose writes survive its failure. -/
def Effect (σ ε α : Type) : Type := σ → Except ε α × σ

/-- A fallible computation whose writes are lost when it fails. -/
abbrev Change (σ ε α : Type) : Type := σ → Except ε (α × σ)

namespace Effect

variable {σ ε ε' α β : Type}

protected def bind (first : Effect σ ε α) (next : α → Effect σ ε β) : Effect σ ε β :=
  fun state =>
    match first state with
    | (.ok value, later) => next value later
    | (.error error, later) => (.error error, later)

instance : Monad (Effect σ ε) where
  pure value := fun state => (.ok value, state)
  bind := Effect.bind

/-- Something that does not touch the state. -/
def ofExcept (result : Except ε α) : Effect σ ε α := fun state => (result, state)

/-- What the state says. -/
def reading (read : σ → Except ε α) : Effect σ ε α := fun state => (read state, state)

/-- A write that cannot fail. -/
def modify (write : σ → σ) : Effect σ ε Unit := fun state => (.ok (), write state)

/-- All or nothing. -/
def transact (change : Change σ ε α) : Effect σ ε α := fun state =>
  match change state with
  | .ok (value, changed) => (.ok value, changed)
  | .error error => (.error error, state)

/-- Translate errors. -/
def mapError (translate : ε → ε') (effect : Effect σ ε α) : Effect σ ε' α := fun state =>
  ((effect state).1.mapError translate, (effect state).2)

variable {state later : σ} {next : α → Effect σ ε β} {first : Effect σ ε α}

theorem bind_of_ok {value : α}
    (ran : first state = (.ok value, later)) : (first >>= next) state = next value later := by
  change Effect.bind first next state = _
  rw [Effect.bind, ran]

theorem bind_of_error {error : ε} (ran : first state = (.error error, later)) :
    (first >>= next) state = (.error error, later) := by
  change Effect.bind first next state = _
  rw [Effect.bind, ran]

theorem ofExcept_ok_bind (value : α) (next : α → Effect σ ε β) (state : σ) :
    ((ofExcept (.ok value) : Effect σ ε α) >>= next) state = next value state := rfl

theorem ofExcept_error_bind (error : ε) (next : α → Effect σ ε β) (state : σ) :
    ((ofExcept (.error error) : Effect σ ε α) >>= next) state = (.error error, state) := rfl

/-- Reading afterwards leaves the state. -/
theorem bind_reading_snd (first : Effect σ ε α) (read : σ → Except ε β) (state : σ) :
    ((first >>= fun _ => reading read) state).2 = (first state).2 := by
  cases ran : first state with
  | mk result later =>
    cases result with
    | ok value => rw [bind_of_ok ran, reading]
    | error error => rw [bind_of_error ran]

/-- A result that is decided afterwards does not matter to the state. -/
theorem bind_ofExcept_snd (first : Effect σ ε α) (result : α → Except ε β) (state : σ) :
    ((first >>= fun value => ofExcept (result value)) state).2 = (first state).2 := by
  cases ran : first state with
  | mk given later =>
    cases given with
    | ok value => rw [bind_of_ok ran, ofExcept]
    | error error => rw [bind_of_error ran]

/-! ## Successful effects -/

theorem bind_eq_ok {result : β} :
    (first >>= next) state = (.ok result, later) ↔
      ∃ value middle, first state = (.ok value, middle) ∧
        next value middle = (.ok result, later) := by
  cases ran : first state with
  | mk given middle =>
    cases given with
    | ok value => simp [bind_of_ok ran]
    | error error => simp [bind_of_error ran]

theorem ofExcept_eq_ok {given : Except ε α} {result : α} :
    (ofExcept given : Effect σ ε α) state = (.ok result, later) ↔
      given = .ok result ∧ state = later := by
  simp [ofExcept]

theorem transact_eq_ok {change : Change σ ε α} {result : α} :
    (transact change) state = (.ok result, later) ↔ change state = .ok (result, later) := by
  rw [transact]
  cases change state with
  | ok pair => simp [Prod.ext_iff]
  | error error => simp

/-! ## What every run of an effect does to the state -/

/-- The states before and after are always related. -/
def Keeps (relation : σ → σ → Prop) (effect : Effect σ ε α) : Prop :=
  ∀ state, relation state (effect state).2

section Keeps

variable {relation : σ → σ → Prop} [IsPreorder σ relation] {first : Effect σ ε α}
  {next : α → Effect σ ε β}

theorem Keeps.pure (value : α) : Keeps relation (pure value : Effect σ ε α) :=
  refl_of relation

theorem Keeps.ofExcept (result : Except ε α) : Keeps relation (ofExcept result) :=
  refl_of relation

theorem Keeps.reading (read : σ → Except ε α) : Keeps relation (reading read) :=
  refl_of relation

theorem Keeps.bind (isFirst : Keeps relation first)
    (isNext : ∀ value, Keeps relation (next value)) :
    Keeps relation (first >>= next) := by
  intro state
  have here := isFirst state
  cases ran : first state with
  | mk result later =>
    rw [ran] at here
    cases result with
    | ok value =>
      rw [bind_of_ok ran]
      exact trans_of relation here (isNext value later)
    | error error =>
      rw [bind_of_error ran]
      exact here

omit [IsPreorder σ relation] in
theorem Keeps.mapError (keeps : Keeps relation first) (translate : ε → ε') :
    Keeps relation (first.mapError translate) := keeps

theorem Keeps.transact {change : Change σ ε α}
    (changes : ∀ state value changed, change state = .ok (value, changed) →
      relation state changed) : Keeps relation (transact change) := by
  intro state
  rw [Effect.transact]
  split
  · next ran => exact changes _ _ _ ran
  · exact refl_of relation state

end Keeps

end Effect

end Foundation
