import MailSwiftSync.Verification.ContentSpecification
import MailSwiftSync.Verification.Renaming

/-!
# The content pass under other names

The content pass looks at bodies and at the classes of the metadata passes only.  A
reconciliation of renamed messages whose bodies are the same therefore has the renamed
fallback pairs, the renamed differences and the renamed records.
-/

namespace MailSwiftSync

open Foundation

universe u

variable {ι φ μ κ ν : Type u} {σ δ : Type u} {σ' δ' ι' μ' κ' : Type u}
  [DecidableEq σ] [DecidableEq δ] [DecidableEq ι] [LinearOrder φ] [DecidableEq μ]
  [DecidableEq κ] [DecidableEq σ'] [DecidableEq δ'] [DecidableEq ι'] [DecidableEq μ']
  [DecidableEq κ'] [DecidableEq ν]

omit [DecidableEq σ] [DecidableEq σ'] [DecidableEq ν] in
/-- Uniqueness of a body survives injective renaming. -/
theorem uniqueIn_map {name : σ → σ'} {items : List σ} {body : σ → ν} {body' : σ' → ν}
    (injective : ∀ s ∈ items, ∀ s' ∈ items, name s = name s' → s = s')
    (bodies : ∀ s ∈ items, body' (name s) = body s) {item : σ} (isItem : item ∈ items) :
    UniqueIn body' (items.map name) (name item) ↔ UniqueIn body items item := by
  constructor
  · intro unique other isOther same
    refine injective other isOther item isItem (unique _ (List.mem_map_of_mem isOther) ?_)
    rw [bodies other isOther, bodies item isItem, same]
  · intro unique other isOther same
    obtain ⟨original, isOriginal, rfl⟩ := List.mem_map.mp isOther
    rw [bodies original isOriginal, bodies item isItem] at same
    rw [unique original isOriginal same]

namespace Reconciliation

variable {sourceProfile : σ → Profile ι φ μ} {destProfile : δ → Profile ι φ μ}
  {sourceProfile' : σ' → Profile ι' φ μ'} {destProfile' : δ' → Profile ι' φ μ'}
  {left : σ → σ'} {right : δ → δ'} {sources : List σ} {destinations : List δ}
  {sources' : List σ'} {destinations' : List δ'}
  {placement : Profile ι φ μ → Option κ} {placement' : Profile ι' φ μ' → Option κ'}
  {sourceBody : σ → ν} {destBody : δ → ν} {sourceBody' : σ' → ν} {destBody' : δ' → ν}
  (r : Reconciliation placement sourceProfile destProfile sources destinations)
  (r' : Reconciliation placement' sourceProfile' destProfile' sources' destinations')
  (names : Renaming sourceProfile destProfile sourceProfile' destProfile' left right
    sources destinations)
  (placed : SamePattern (fun s => placement (sourceProfile s))
    (fun d => placement (destProfile d)) (fun s => placement' (sourceProfile' (left s)))
    (fun d => placement' (destProfile' (right d))) sources destinations)
  (sameSources : sources.map left = sources')
  (sameDestinations : destinations.map right = destinations')
  (sourceBodies : ∀ s ∈ sources, sourceBody' (left s) = sourceBody s)
  (destBodies : ∀ d ∈ destinations, destBody' (right d) = destBody d)

include names placed sameSources sameDestinations

theorem exact_renamed : r'.exact.Perm (r.exact.map (Prod.map left right)) := by
  subst sameSources sameDestinations
  exact r'.exact_perm (r.rename names placed)

theorem changed_renamed : r'.changed.Perm (r.changed.map (Prod.map left right)) := by
  subst sameSources sameDestinations
  exact r'.changed_perm (r.rename names placed)

theorem misplaced_renamed : r'.misplaced.Perm (r.misplaced.map (Prod.map left right)) := by
  subst sameSources sameDestinations
  exact r'.misplaced_perm (r.rename names placed)

theorem missing_renamed : r'.missing = r.missing.map left := by
  subst sameSources sameDestinations
  rw [r'.missing_eq (r.rename names placed), rename_missing]

theorem duplicated_renamed : r'.duplicated = r.duplicated.map right := by
  subst sameSources sameDestinations
  rw [r'.duplicated_eq (r.rename names placed), rename_duplicated]

theorem extra_renamed : r'.extra = r.extra.map right := by
  subst sameSources sameDestinations
  rw [r'.extra_eq (r.rename names placed), rename_extra]

include sourceBodies destBodies

/-- The same partners are found under the new names. -/
theorem fallbackFor_renamed {s : σ} (isSource : s ∈ sources) :
    r'.fallbackFor sourceBody' destBody' (left s) =
      (r.fallbackFor sourceBody destBody s).map right := by
  rw [fallbackFor, extra_renamed r r' names placed sameSources sameDestinations,
    List.find?_map, fallbackFor]
  congr 1
  rw [← List.head?_filter, ← List.head?_filter]
  congr 1
  apply List.filter_congr
  intro d isExtra
  have isDestination := r.extra_subset isExtra
  subst sameSources sameDestinations
  rw [Function.comp_apply, decide_eq_decide, names.sourceFolder s isSource,
    names.destFolder d isDestination, sourceBodies s isSource, destBodies d isDestination,
    uniqueIn_map names.leftInjective sourceBodies isSource,
    uniqueIn_map names.rightInjective destBodies isDestination]

theorem fallback_renamed : r'.fallback sourceBody' destBody' =
    (r.fallback sourceBody destBody).map (Prod.map left right) := by
  rw [fallback, missing_renamed r r' names placed sameSources sameDestinations,
    List.filterMap_map, fallback, List.map_filterMap]
  apply List.filterMap_congr
  intro s isMissing
  rw [Function.comp_apply, fallbackFor_renamed r r' names placed sameSources
    sameDestinations sourceBodies destBodies (r.missing_subset isMissing)]
  cases r.fallbackFor sourceBody destBody s with
  | none => rfl
  | some d => rfl

theorem differing_renamed : (r'.differing sourceBody' destBody').Perm
    ((r.differing sourceBody destBody).map (Prod.map left right)) := by
  refine ((exact_renamed r r' names placed sameSources sameDestinations).filter _).trans
    (List.Perm.of_eq ?_)
  rw [List.filter_map, differing]
  congr 1
  apply List.filter_congr
  intro pair isExact
  rw [Function.comp_apply, decide_eq_decide, Prod.map_fst, Prod.map_snd,
    sourceBodies _ (r.exactPairs.mem_left isExact),
    destBodies _ (r.exactPairs.mem_right isExact)]

theorem stillMissing_renamed : r'.stillMissing sourceBody' destBody' =
    (r.stillMissing sourceBody destBody).map left := by
  rw [stillMissing, missing_renamed r r' names placed sameSources sameDestinations,
    fallback_renamed r r' names placed sameSources sameDestinations sourceBodies destBodies]
  apply unpairedLeft_map
  · intro s membership
    obtain ⟨pair, inFallback, rfl⟩ := List.mem_map.mp membership
    exact ((r.mem_fallback sourceBody destBody).mp inFallback).missing
  · intro s isMissing s' isMissing'
    exact names.leftInjective s (r.missing_subset isMissing) s' (r.missing_subset isMissing')

theorem stillExtra_renamed : r'.stillExtra sourceBody' destBody' =
    (r.stillExtra sourceBody destBody).map right := by
  rw [stillExtra, extra_renamed r r' names placed sameSources sameDestinations,
    fallback_renamed r r' names placed sameSources sameDestinations sourceBodies destBodies]
  apply unpairedRight_map
  · intro d membership
    obtain ⟨pair, inFallback, rfl⟩ := List.mem_map.mp membership
    exact ((r.mem_fallback sourceBody destBody).mp inFallback).extra
  · intro d isExtra d' isExtra'
    exact names.rightInjective d (r.extra_subset isExtra) d' (r.extra_subset isExtra')

/-- The kept records of the renamed messages are the renamed records. -/
theorem keptRecords_renamed : (r'.keptRecords sourceBody' destBody').Perm
    ((r.keptRecords sourceBody destBody).map fun record =>
      (record.1, record.2.1.map left, record.2.2.map right)) := by
  rw [keptRecords, keptRecords,
    stillMissing_renamed r r' names placed sameSources sameDestinations sourceBodies destBodies,
    stillExtra_renamed r r' names placed sameSources sameDestinations sourceBodies destBodies,
    duplicated_renamed r r' names placed sameSources sameDestinations]
  have changed := changed_renamed r r' names placed sameSources sameDestinations
  have misplaced := misplaced_renamed r r' names placed sameSources sameDestinations
  refine (((((changed.map _).append (misplaced.map _)).append_right _).append_right
    _).append_right _).trans (List.Perm.of_eq ?_)
  simp only [List.map_append, List.map_map]
  rfl

end Reconciliation

end MailSwiftSync
