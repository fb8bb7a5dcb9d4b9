import MailSwiftSync.Foundation.Effects

/-!
# Preconditions and postconditions of effects

An effect keeps its promises when every run from an admissible state ends in one of two ways: with
a value and a state that fit together, or with an error and a state that is still acceptable.
-/

namespace Foundation

namespace Effect

variable {σ ε ε' α β : Type}

/-- From every state with the precondition, a success has the postcondition, and a failure leaves
an acceptable state. -/
def Meets (pre : σ → Prop) (effect : Effect σ ε α) (post : α → σ → Prop) (failed : σ → Prop) :
    Prop :=
  ∀ state, pre state → match effect state with
    | (.ok value, later) => post value later
    | (.error _, later) => failed later

variable {pre : σ → Prop} {post post' : α → σ → Prop} {failed failed' : σ → Prop}
variable {effect : Effect σ ε α}

/-- Weaker promises under stronger conditions. -/
theorem Meets.weaken {pre' : σ → Prop}
    (meets : Meets pre effect post failed) (stronger : ∀ state, pre' state → pre state)
    (weaker : ∀ value state, post value state → post' value state)
    (weakerFailed : ∀ state, failed state → failed' state) : Meets pre' effect post' failed' := by
  intro state holds
  have ends := meets state (stronger state holds)
  cases ran : effect state with
  | mk result later =>
    rw [ran] at ends
    cases result with
    | ok value => exact weaker value later ends
    | error error => exact weakerFailed later ends

theorem Meets.assuming {pre' : σ → Prop}
    (stronger : ∀ state, pre' state → pre state) (meets : Meets pre effect post failed) :
    Meets pre' effect post failed :=
  fun state holds => meets state (stronger state holds)

/-- A fact that the precondition has may be used. -/
theorem Meets.of_fact {fact : Prop}
    (holds : ∀ state, pre state → fact) (meets : fact → Meets pre effect post failed) :
    Meets pre effect post failed :=
  fun state isPre => meets (holds state isPre) state isPre

/-- Something of the precondition may be named. -/
theorem Meets.of_exists {ι : Type} {pre : ι → σ → Prop}
    (meets : ∀ index, Meets (pre index) effect post failed) :
    Meets (fun state => ∃ index, pre index state) effect post failed :=
  fun state ⟨index, isPre⟩ => meets index state isPre

theorem Meets.pure {value : α} (holds : ∀ state, pre state → post value state) :
    Meets pre (pure value : Effect σ ε α) post failed :=
  holds

variable {post' : β → σ → Prop}

/-- One effect after another. -/
theorem Meets.bind {first : Effect σ ε α} {next : α → Effect σ ε β}
    (isFirst : Meets pre first post failed)
    (isNext : ∀ value, Meets (post value) (next value) post' failed) :
    Meets pre (first >>= next) post' failed := by
  intro state holds
  have ends := isFirst state holds
  cases ran : first state with
  | mk result later =>
    rw [ran] at ends
    cases result with
    | ok value =>
      rw [bind_of_ok ran]
      exact isNext value later ends
    | error error =>
      rw [bind_of_error ran]
      exact ends

theorem Meets.ofExcept {result : Except ε α}
    (holds : ∀ state value, pre state → result = .ok value → post value state)
    (kept : ∀ state, pre state → failed state) : Meets pre (ofExcept result) post failed := by
  intro state isPre
  cases result with
  | ok value => exact holds state value isPre rfl
  | error error => exact kept state isPre

theorem Meets.reading {read : σ → Except ε α}
    (holds : ∀ state value, pre state → read state = .ok value → post value state)
    (kept : ∀ state, pre state → failed state) : Meets pre (reading read) post failed := by
  intro state isPre
  rw [Effect.reading]
  cases isRead : read state with
  | ok value => exact holds state value isPre isRead
  | error error => exact kept state isPre

/-- A transaction that fails leaves the state. -/
theorem Meets.transact {change : Change σ ε α}
    (holds : ∀ state value later, pre state → change state = .ok (value, later) → post value later)
    (kept : ∀ state, pre state → failed state) : Meets pre (transact change) post failed := by
  intro state isPre
  rw [Effect.transact]
  cases ran : change state with
  | ok result => exact holds state result.1 result.2 isPre ran
  | error error => exact kept state isPre

theorem Meets.mapError (meets : Meets pre effect post failed)
    (translate : ε → ε') : Meets pre (effect.mapError translate) post failed := by
  intro state holds
  have ends := meets state holds
  rw [Effect.mapError]
  cases ran : effect state with
  | mk result later =>
    rw [ran] at ends
    cases result with
    | ok value => exact ends
    | error error => exact ends

variable {relation : σ → σ → Prop}

/-- What an effect keeps unchanged, the conditions on it survive. -/
theorem Meets.of_keeps (keeps : Keeps relation effect)
    (stable : ∀ state later, relation state later → pre state → pre later)
    (kept : ∀ state, pre state → failed state) : Meets pre effect (fun _ => pre) failed := by
  intro state holds
  have there := stable state _ (keeps state) holds
  cases ran : effect state with
  | mk result later =>
    rw [ran] at there
    cases result with
    | ok value => exact there
    | error error => exact kept later there

/-- A computation that does not touch the state comes first. -/
theorem Meets.bind_ofExcept {result : Except ε α} {next : α → Effect σ ε β}
    (kept : ∀ state, pre state → failed state)
    (isNext : ∀ value, result = .ok value → Meets pre (next value) post' failed) :
    Meets pre (Effect.ofExcept result >>= next) post' failed := by
  intro state holds
  cases isResult : result with
  | ok value => exact isNext value isResult state holds
  | error error => exact kept state holds

theorem Meets.bind_mapError_ofExcept {result : Except ε α} {translate : ε → ε'}
    {next : α → Effect σ ε' β} (kept : ∀ state, pre state → failed state)
    (isNext : ∀ value, result = .ok value → Meets pre (next value) post' failed) :
    Meets pre (Effect.mapError translate (Effect.ofExcept result) >>= next) post' failed := by
  intro state holds
  cases isResult : result with
  | ok value => exact isNext value isResult state holds
  | error error => exact kept state holds

theorem Keeps.modify {write : σ → σ} (writes : ∀ state, relation state (write state)) :
    Keeps relation (Effect.modify write : Effect σ ε Unit) :=
  writes

theorem Keeps.forM {ι : Type} [IsPreorder σ relation]
    {step : ι → Effect σ ε PUnit} (each : ∀ item, Keeps relation (step item)) (items : List ι) :
    Keeps relation (items.forM step) := by
  induction items with
  | nil => exact Keeps.pure PUnit.unit
  | cons item items ih => exact Keeps.bind (each item) fun _ => ih

/-- Go on only under a condition. -/
def ensure (condition : Prop) [Decidable condition] (error : ε) : Effect σ ε Unit :=
  Effect.ofExcept (if condition then .ok () else .error error)

theorem Meets.bind_ensure {condition : Prop} [Decidable condition] {error : ε}
    {next : Unit → Effect σ ε β} {post : β → σ → Prop}
    (kept : ∀ state, pre state → failed state)
    (isNext : condition → Meets pre (next ()) post failed) :
    Meets pre (ensure condition error >>= next) post failed := by
  apply Meets.bind_ofExcept kept
  intro _ isOk
  split at isOk
  · next holds => exact isNext holds
  · cases isOk

/-- A choice meets what both of its sides meet. -/
theorem Meets.ite {condition : Prop} [Decidable condition] {first second : Effect σ ε α}
    (isTrue : condition → Meets pre first post failed)
    (isFalse : ¬condition → Meets pre second post failed) :
    Meets pre (if condition then first else second) post failed := by
  split
  · next holds => exact isTrue holds
  · next fails => exact isFalse fails

end Effect

end Foundation
