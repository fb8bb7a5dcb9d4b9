import Mathlib.Data.List.AList

/-!
# One witness for each key

Entries are noted one after the other, and of each key only one value is kept.  That is enough to
tell whether some key comes with two values, in whatever order the entries come.
-/

namespace Foundation

variable {κ ν : Type}

/-- Two entries have one key and different values. -/
def Clash (entries : List (κ × ν)) : Prop :=
  ∃ first ∈ entries, ∃ second ∈ entries, first.1 = second.1 ∧ first.2 ≠ second.2

theorem Clash.perm {entries others : List (κ × ν)} (permuted : entries.Perm others) :
    Clash entries ↔ Clash others := by
  simp only [Clash, permuted.mem_iff]

theorem Clash.mono {entries others : List (κ × ν)} (isPart : entries ⊆ others)
    (clash : Clash entries) : Clash others := by
  obtain ⟨first, isFirst, second, isSecond, apart⟩ := clash
  exact ⟨first, isPart isFirst, second, isPart isSecond, apart⟩

variable [DecidableEq κ] [DecidableEq ν]

/-- Note an entry, and answer whether its key was noted with another value. -/
def note (seen : AList fun _ : κ => ν) (entry : κ × ν) : Bool × AList fun _ : κ => ν :=
  if (seen.lookup entry.1).any (· ≠ entry.2) then (true, seen)
  else (false, seen.insert entry.1 entry.2)

/-- The answers to some entries. -/
def answers (seen : AList fun _ : κ => ν) : List (κ × ν) → List Bool
  | [] => []
  | entry :: entries => (note seen entry).1 :: answers (note seen entry).2 entries

/-- What is kept was noted. -/
def KeepsNoted (seen : AList fun _ : κ => ν) (done : List (κ × ν)) : Prop :=
  ∀ key value, seen.lookup key = some value → (key, value) ∈ done

theorem KeepsNoted.note {seen : AList fun _ : κ => ν} {done : List (κ × ν)}
    (keeps : KeepsNoted seen done) (entry : κ × ν) :
    KeepsNoted (note seen entry).2 (entry :: done) := by
  intro key value isKept
  rw [Foundation.note] at isKept
  split at isKept
  · exact List.mem_cons_of_mem _ (keeps key value isKept)
  · by_cases isKey : key = entry.1
    · subst isKey
      rw [AList.lookup_insert] at isKept
      rw [← Option.some.inj isKept]
      exact List.mem_cons_self
    · rw [AList.lookup_insert_ne isKey] at isKept
      exact List.mem_cons_of_mem _ (keeps key value isKept)

/-- Every positive answer comes from a clash. -/
theorem clash_of_answer {seen : AList fun _ : κ => ν} {done entries : List (κ × ν)}
    (keeps : KeepsNoted seen done) (isAnswer : true ∈ answers seen entries) :
    Clash (done ++ entries) := by
  induction entries generalizing seen done with
  | nil => exact absurd isAnswer List.not_mem_nil
  | cons entry entries ih =>
    rw [answers] at isAnswer
    cases List.mem_cons.mp isAnswer with
    | inl isHere =>
      have clashes : (seen.lookup entry.1).any (· ≠ entry.2) = true := by
        rw [note] at isHere
        split at isHere
        · assumption
        · cases isHere
      obtain ⟨value, isKept, differs⟩ := (Option.any_eq_true _ _).mp clashes
      refine ⟨(entry.1, value), List.mem_append_left _ (keeps _ _ isKept), entry,
        List.mem_append_right _ List.mem_cons_self, rfl, of_decide_eq_true differs⟩
    | inr isLater =>
      refine (ih (keeps.note entry) isLater).mono fun other isOther => ?_
      simp only [List.mem_append, List.mem_cons] at isOther ⊢
      tauto

/-- Without a positive answer the value that is kept of a key is the value of all its entries. -/
theorem lookup_of_no_answer {seen : AList fun _ : κ => ν} {done entries : List (κ × ν)}
    (kept : ∀ entry ∈ done, seen.lookup entry.1 = some entry.2)
    (noAnswer : true ∉ answers seen entries) :
    ∃ after : AList fun _ : κ => ν, ∀ entry ∈ done ++ entries,
      after.lookup entry.1 = some entry.2 := by
  induction entries generalizing seen done with
  | nil =>
    rw [List.append_nil]
    exact ⟨seen, kept⟩
  | cons entry entries ih =>
    rw [answers, List.mem_cons, not_or] at noAnswer
    obtain ⟨notHere, notLater⟩ := noAnswer
    have agrees : (seen.lookup entry.1).any (· ≠ entry.2) = false := by
      by_contra clashes
      apply notHere
      rw [note, if_pos ((Bool.not_eq_false _).mp clashes)]
    have inserted : (note seen entry).2 = seen.insert entry.1 entry.2 := by
      rw [note, if_neg (by rw [agrees]; exact Bool.false_ne_true)]
    rw [inserted] at notLater
    have keptAfter : ∀ other ∈ done ++ [entry],
        (seen.insert entry.1 entry.2).lookup other.1 = some other.2 := by
      intro other isOther
      by_cases isKey : other.1 = entry.1
      · rw [isKey, AList.lookup_insert]
        cases List.mem_append.mp isOther with
        | inl isDone =>
          have isKept := kept other isDone
          rw [isKey] at isKept
          rw [isKept, Option.any_some, decide_eq_false_iff_not, not_not] at agrees
          rw [agrees]
        | inr isEntry => rw [List.mem_singleton.mp isEntry]
      · rw [AList.lookup_insert_ne isKey]
        cases List.mem_append.mp isOther with
        | inl isDone => exact kept other isDone
        | inr isEntry => exact absurd (List.mem_singleton.mp isEntry ▸ rfl) isKey
    obtain ⟨after, isAfter⟩ := ih keptAfter notLater
    rw [List.append_assoc] at isAfter
    exact ⟨after, isAfter⟩

/-- A clash is noticed, in any order. -/
theorem mem_answers_iff {entries : List (κ × ν)} :
    true ∈ answers ∅ entries ↔ Clash entries := by
  constructor
  · intro isAnswer
    have keeps : KeepsNoted (∅ : AList fun _ : κ => ν) ([] : List (κ × ν)) := by
      intro key value isKept
      cases isKept
    exact clash_of_answer keeps isAnswer
  · rintro ⟨first, isFirst, second, isSecond, sameKey, differ⟩
    by_contra noAnswer
    obtain ⟨after, isAfter⟩ := @lookup_of_no_answer _ _ _ _ ∅ [] entries
      (fun _ isDone => absurd isDone List.not_mem_nil) noAnswer
    have firstKept := isAfter first isFirst
    have secondKept := isAfter second isSecond
    rw [sameKey, secondKept] at firstKept
    exact differ (Option.some.inj firstKept).symm

end Foundation
