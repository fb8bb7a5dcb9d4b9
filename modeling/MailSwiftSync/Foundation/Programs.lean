import Mathlib.Logic.Function.Basic
import Mathlib.Logic.Relation
import Mathlib.Order.Defs.Unbundled

/-!
# Programs among others

A program asks the world for answers, one operation at a time, and the world may change between
two of its operations.  A contract says what others may do meanwhile, how the world answers, and
in which states an operation may be asked for; a program that keeps to it is safe from every state
of its precondition.
-/

namespace Foundation

/-- A computation that asks the world for answers on its way to a value. -/
inductive Program (Op : Type) (Answer : Op → Type) (α : Type) where
  | done (value : α)
  | ask (op : Op) (next : Answer op → Program Op Answer α)

namespace Program

variable {Op : Type} {Answer : Op → Type} {σ ε α β : Type}

/-- One program after another. -/
protected def bind : Program Op Answer α → (α → Program Op Answer β) → Program Op Answer β
  | .done value, next => next value
  | .ask op rest, next => .ask op fun answer => (rest answer).bind next

instance : Monad (Program Op Answer) where
  pure := .done
  bind := Program.bind

/-- Ask once. -/
def call (op : Op) : Program Op Answer (Answer op) := .ask op .done

/-- A failed step ends the rest. -/
theorem except_bind (first : ExceptT ε (Program Op Answer) α)
    (next : α → ExceptT ε (Program Op Answer) β) :
    (first >>= next : ExceptT ε (Program Op Answer) β) =
      Program.bind first fun
        | .ok value => next value
        | .error error => .done (.error error) := by
  change Program.bind first _ = _
  congr 1

end Program

/-- What a program relies on and what it must keep to. -/
structure Contract (σ Op : Type) (Answer : Op → Type) where
  /-- What others may do between two operations. -/
  rely : σ → σ → Prop
  /-- How the world answers. -/
  serves : σ → (op : Op) → Answer op → σ → Prop
  /-- When an operation may be asked for. -/
  admits : σ → Op → Prop

namespace Contract

variable {σ Op : Type} {Answer : Op → Type} {ε α β : Type} (contract : Contract σ Op Answer)

/-- What others do is one thing after another. -/
structure Fair : Prop where
  refl : ∀ state, contract.rely state state
  trans : ∀ first second third, contract.rely first second → contract.rely second third →
    contract.rely first third

/-- A program asks only for what is admitted, and ends with its postcondition, whatever others do
meanwhile. -/
def Safe (post : α → σ → Prop) : Program Op Answer α → σ → Prop
  | .done value, state => ∀ later, contract.rely state later → post value later
  | .ask op next, state => ∀ later, contract.rely state later →
      contract.admits later op ∧ ∀ answer after, contract.serves later op answer after →
        Safe post (next answer) after

variable {contract} {post : α → σ → Prop} {program : Program Op Answer α} {state : σ}

/-- A safe program stays safe while others act. -/
theorem Safe.later (fair : contract.Fair) {later : σ} (safe : contract.Safe post program state)
    (others : contract.rely state later) : contract.Safe post program later := by
  cases program with
  | done value =>
    intro last after
    exact safe last (fair.trans state later last others after)
  | ask op next =>
    intro last after
    exact safe last (fair.trans state later last others after)

theorem Safe.weaken {post' : α → σ → Prop} (safe : contract.Safe post program state)
    (weaker : ∀ value later, post value later → post' value later) :
    contract.Safe post' program state := by
  induction program generalizing state with
  | done value =>
    intro later others
    exact weaker value later (safe later others)
  | ask op next ih =>
    intro later others
    have here := safe later others
    refine ⟨here.1, ?_⟩
    intro answer after served
    exact ih answer (here.2 answer after served)

/-- One program after another. -/
theorem Safe.bind (fair : contract.Fair) {next : α → Program Op Answer β}
    {post' : β → σ → Prop} (safe : contract.Safe post program state)
    (isNext : ∀ value later, post value later → contract.Safe post' (next value) later) :
    contract.Safe post' (program.bind next) state := by
  induction program generalizing state with
  | done value => exact isNext value state (safe state (fair.refl state))
  | ask op rest ih =>
    intro later others
    have here := safe later others
    refine ⟨here.1, ?_⟩
    intro answer after served
    exact ih answer (here.2 answer after served)

end Contract

end Foundation
