import Mathlib.Data.List.Forall2
import MailSwiftSync.Foundation.Metered

/-!
# Fallible maps over lists

A map that may fail gives a list exactly when it gives every member of it.
-/

namespace Foundation

variable {α β ε ε' : Type} {compute : α → Except ε β}

/-- Translating errors does not make results. -/
theorem mapError_eq_ok {translate : ε → ε'} {result : Except ε α} {value : α} :
    result.mapError translate = .ok value ↔ result = .ok value := by
  cases result with
  | ok _ => exact ⟨fun same => by cases same; rfl, fun same => by cases same; rfl⟩
  | error _ => exact ⟨nofun, nofun⟩

/-- The results of a fallible map, one by one. -/
theorem mapM_eq_ok {items : List α} {results : List β} :
    items.mapM compute = .ok results ↔
      List.Forall₂ (fun item result => compute item = .ok result) items results := by
  induction items generalizing results with
  | nil =>
    rw [List.mapM_nil, pure_eq_ok, List.forall₂_nil_left_iff, eq_comm]
  | cons item items ih =>
    rw [List.mapM_cons, List.forall₂_cons_left_iff]
    simp only [bind_eq_ok, pure_eq_ok, ih]
    constructor
    · intro ⟨result, isResult, rest, isRest, isList⟩
      exact ⟨result, rest, isResult, isRest, isList.symm⟩
    · intro ⟨result, rest, isResult, isRest, isList⟩
      exact ⟨result, isResult, rest, isRest, isList.symm⟩

/-- Every member of a list has its result among the results. -/
theorem exists_of_forall₂ {related : α → β → Prop} {items : List α} {results : List β}
    (each : List.Forall₂ related items results) :
    ∀ item ∈ items, ∃ result ∈ results, related item result := by
  induction each with
  | nil => exact nofun
  | @cons item result items results isResult _ ih =>
    intro other isOther
    cases List.mem_cons.mp isOther with
    | inl same =>
      rw [same]
      exact ⟨result, List.mem_cons_self, isResult⟩
    | inr later =>
      obtain ⟨found, isFound, related⟩ := ih other later
      exact ⟨found, List.mem_cons_of_mem _ isFound, related⟩

/-- A list and its results, and the results of both together. -/
theorem forall₂_of_zip {γ : Type} {first : α → β → Prop} {second : α × β → γ → Prop}
    {items : List α} {middle : List β} {results : List γ}
    (earlier : List.Forall₂ first items middle)
    (later : List.Forall₂ second (items.zip middle) results) :
    List.Forall₂ (fun item result => ∃ value, first item value ∧ second (item, value) result)
      items results := by
  induction earlier generalizing results with
  | nil =>
    cases later with
    | nil => exact .nil
  | cons isFirst _ ih =>
    cases later with
    | cons isSecond later => exact .cons ⟨_, isFirst, isSecond⟩ (ih later)

/-- Related members of two lists have the same place. -/
theorem forall₂_zipIdx {related : α → β → Prop} {items : List α} {results : List β} (start : Nat)
    (each : List.Forall₂ related items results) :
    List.Forall₂ (fun item result => item.2 = result.2 ∧ related item.1 result.1)
      (items.zipIdx start) (results.zipIdx start) := by
  induction each generalizing start with
  | nil => exact .nil
  | cons isRelated _ ih => exact .cons ⟨rfl, isRelated⟩ (ih (start + 1))

end Foundation
