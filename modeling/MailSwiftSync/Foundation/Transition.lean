import Mathlib.Data.List.Induction
import Mathlib.Logic.Relation
import MailSwiftSync.Foundation.Metered

/-!
# Runs of a transition system

A run is a finite sequence of labelled steps.  What every step preserves, every run
preserves, and what holds initially then holds of every reachable state.
-/

namespace Foundation

variable {σ α : Type*}

/-- Runs of a labelled transition relation, the last step at the end of the list. -/
inductive Trace (step : σ → α → σ → Prop) (start : σ) : List α → σ → Prop where
  | nil : Trace step start [] start
  | snoc {labels : List α} {state next : σ} {label : α} (earlier : Trace step start labels state)
      (last : step state label next) : Trace step start (labels ++ [label]) next

namespace Trace

variable {step : σ → α → σ → Prop} {start state : σ} {labels : List α}

/-- What holds initially and is preserved by every step holds after every run. -/
theorem invariant (inv : σ → Prop) (initially : inv start)
    (preserved : ∀ {state label next}, step state label next → inv state → inv next)
    (run : Trace step start labels state) : inv state := by
  induction run with
  | nil => exact initially
  | snoc _ last ih => exact preserved last ih

/-- A run of a relation is a run of every larger one. -/
theorem weaken {larger : σ → α → σ → Prop}
    (included : ∀ {state label next}, step state label next → larger state label next)
    (run : Trace step start labels state) : Trace larger start labels state := by
  induction run with
  | nil => exact .nil
  | snoc _ last ih => exact .snoc ih (included last)

/-- Deterministic steps one after the other are a run. -/
theorem of_foldl {next : σ → α → σ} (start : σ) (labels : List α) :
    Trace (fun before label after => after = next before label) start labels
      (labels.foldl next start) := by
  induction labels using List.reverseRecOn with
  | nil => exact .nil
  | append_singleton earlier last ih =>
    rw [List.foldl_append]
    exact .snoc ih rfl

theorem cons {middle : σ} {label : α} (first : step start label middle)
    (later : Trace step middle labels state) : Trace step start (label :: labels) state := by
  induction later with
  | nil => exact .snoc .nil first
  | snoc _ last ih => exact .snoc ih last

/-- A run stops on its way after any number of its labels. -/
theorem of_append {first second : List α} (run : Trace step start (first ++ second) state) :
    ∃ middle, Trace step start first middle ∧ Trace step middle second state := by
  generalize all : first ++ second = labels at run
  induction run generalizing second with
  | nil =>
    obtain ⟨rfl, rfl⟩ := List.append_eq_nil_iff.mp all
    exact ⟨start, .nil, .nil⟩
  | @snoc labels state next label earlier last ih =>
    cases second using List.reverseRecOn with
    | nil =>
      rw [List.append_nil] at all
      rw [all]
      exact ⟨next, .snoc earlier last, .nil⟩
    | append_singleton second other =>
      rw [← List.append_assoc] at all
      obtain ⟨labelsSame, lastSame⟩ := List.append_inj' all rfl
      obtain ⟨middle, before, after⟩ := ih labelsSame
      rw [(List.cons.inj lastSame).1]
      exact ⟨middle, before, .snoc after last⟩

theorem of_nil (run : Trace step start [] state) : state = start := by
  generalize none : ([] : List α) = labels at run
  cases run with
  | nil => rfl
  | snoc _ _ => exact absurd none.symm (List.append_ne_nil_of_right_ne_nil _ (List.cons_ne_nil _ _))

/-- The first step of a run. -/
theorem of_cons {label : α} (run : Trace step start (label :: labels) state) :
    ∃ middle, step start label middle ∧ Trace step middle labels state := by
  have split : Trace step start ([label] ++ labels) state := run
  obtain ⟨middle, one, rest⟩ := split.of_append
  generalize only : [label] = single at one
  cases one with
  | nil => cases only
  | @snoc before _ _ other earlier last =>
    have parts : [] ++ [label] = before ++ [other] := only
    obtain ⟨isNil, isLast⟩ := List.append_inj' parts rfl
    cases isNil
    cases isLast
    cases earlier.of_nil
    exact ⟨middle, last, rest⟩

/-- A run may be continued. -/
theorem append {middle : σ} {first second : List α} (earlier : Trace step start first middle)
    (later : Trace step middle second state) : Trace step start (first ++ second) state := by
  induction later with
  | nil =>
    rw [List.append_nil]
    exact earlier
  | snoc _ last ih =>
    rw [← List.append_assoc]
    exact .snoc ih last

/-- Where a step from a good state leads to a good state if and only if it is allowed, a run stays
among the good states if and only if all its steps are allowed. -/
theorem guarded_iff (inv good : σ → Prop) {allowed : σ → α → Prop} (initially : inv start)
    (goodStart : good start)
    (preserved : ∀ {state label next}, step state label next → inv state → inv next)
    (stepwise : ∀ {state label next}, step state label next → inv state → good state →
      (good next ↔ allowed state label)) :
    Trace (fun state label next => step state label next ∧ good next) start labels state ↔
      Trace (fun state label next => step state label next ∧ allowed state label) start labels
        state := by
  constructor
  · intro run
    have reached : Trace (fun state label next => step state label next ∧ allowed state label)
        start labels state ∧ inv state ∧ good state := by
      induction run with
      | nil => exact ⟨.nil, initially, goodStart⟩
      | snoc _ last ih =>
        obtain ⟨earlier, isInv, isGood⟩ := ih
        have isAllowed := (stepwise last.1 isInv isGood).mp last.2
        exact ⟨.snoc earlier ⟨last.1, isAllowed⟩, preserved last.1 isInv, last.2⟩
    exact reached.1
  · intro run
    have reached : Trace (fun state label next => step state label next ∧ good next)
        start labels state ∧ inv state ∧ good state := by
      induction run with
      | nil => exact ⟨.nil, initially, goodStart⟩
      | snoc _ last ih =>
        obtain ⟨earlier, isInv, isGood⟩ := ih
        have isNext := (stepwise last.1 isInv isGood).mpr last.2
        exact ⟨.snoc earlier ⟨last.1, isNext⟩, preserved last.1 isInv, isNext⟩
    exact reached.1

/-- A relation that every step keeps, with a step of the other system under the same label, carries
a run over to the other system. -/
theorem simulation {τ : Type*} {other : τ → α → τ → Prop} {related : σ → τ → Prop}
    {image : τ} (initially : related start image)
    (simulated : ∀ {state next label image}, step state label next → related state image →
      ∃ after, other image label after ∧ related next after)
    (run : Trace step start labels state) :
    ∃ after, Trace other image labels after ∧ related state after := by
  induction run with
  | nil => exact ⟨image, .nil, initially⟩
  | snoc _ last ih =>
    obtain ⟨middle, sameRun, middleRelated⟩ := ih
    obtain ⟨after, sameStep, afterRelated⟩ := simulated last middleRelated
    exact ⟨after, .snoc sameRun sameStep, afterRelated⟩

/-- Whether deterministic steps are allowed one after the other. -/
def allowedAlong (next : σ → α → σ) (allowed : σ → α → Bool) : σ → List α → Bool
  | _, [] => true
  | state, label :: labels =>
    allowed state label && allowedAlong next allowed (next state label) labels

theorem of_allowedAlong {next : σ → α → σ} {allowed : σ → α → Bool} {start : σ}
    {labels : List α} (isAllowed : allowedAlong next allowed start labels = true) :
    Trace (fun before label after => allowed before label = true ∧ after = next before label)
      start labels (labels.foldl next start) := by
  induction labels generalizing start with
  | nil => exact .nil
  | cons label labels ih =>
    rw [allowedAlong, Bool.and_eq_true] at isAllowed
    exact .cons ⟨isAllowed.1, rfl⟩ (ih isAllowed.2)

/-- A fold of accepted steps is a run. -/
theorem of_foldlM {ε : Type*} {next : σ → α → Except ε σ}
    (ran : labels.foldlM next start = .ok state) :
    Trace (fun before label after => next before label = .ok after) start labels state :=
  foldlM_invariant (motive := fun done current => Trace _ start done current) .nil
    (fun _ _ _ _ earlier stepped => .snoc earlier stepped) ran

end Trace

end Foundation
