import MailSwiftSync.Foundation.Renaming
import MailSwiftSync.Verification.Specification

/-!
# Reconciling renamed messages

Two accounts of the same messages may use other names for them and write their
identity and metadata differently.  As long as the names are injective and the
profiles compare the same way, the result of reconciliation is the renamed one.
-/

namespace MailSwiftSync

open Foundation

universe u v

variable {ι φ μ κ : Type u} {σ δ : Type u} {σ' δ' ι' μ' κ' : Type u}

/-! ## Renamings -/

/-- Names `left` and `right` for the messages of two lists, under profiles that
compare the same way. -/
structure Renaming (sourceProfile : σ → Profile ι φ μ) (destProfile : δ → Profile ι φ μ)
    (sourceProfile' : σ' → Profile ι' φ μ') (destProfile' : δ' → Profile ι' φ μ')
    (left : σ → σ') (right : δ → δ') (sources : List σ) (destinations : List δ) :
    Prop where
  leftInjective : ∀ s ∈ sources, ∀ s' ∈ sources, left s = left s' → s = s'
  rightInjective : ∀ d ∈ destinations, ∀ d' ∈ destinations, right d = right d' → d = d'
  sourceFolder : ∀ s ∈ sources, (sourceProfile' (left s)).folder = (sourceProfile s).folder
  destFolder : ∀ d ∈ destinations, (destProfile' (right d)).folder = (destProfile d).folder
  identified : ∀ s ∈ sources,
    (sourceProfile' (left s)).identity.isSome = (sourceProfile s).identity.isSome
  described : ∀ s ∈ sources,
    (sourceProfile' (left s)).metadata.isSome = (sourceProfile s).metadata.isSome
  identityWithin : ∀ s ∈ sources, ∀ s' ∈ sources,
    (sourceProfile' (left s')).identity = (sourceProfile' (left s)).identity ↔
      (sourceProfile s').identity = (sourceProfile s).identity
  identityAcross : ∀ s ∈ sources, ∀ d ∈ destinations,
    (destProfile' (right d)).identity = (sourceProfile' (left s)).identity ↔
      (destProfile d).identity = (sourceProfile s).identity
  identityAmong : ∀ d ∈ destinations, ∀ d' ∈ destinations,
    (destProfile' (right d')).identity = (destProfile' (right d)).identity ↔
      (destProfile d').identity = (destProfile d).identity
  metadataWithin : ∀ s ∈ sources, ∀ s' ∈ sources,
    (sourceProfile' (left s')).metadata = (sourceProfile' (left s)).metadata ↔
      (sourceProfile s').metadata = (sourceProfile s).metadata
  metadataAcross : ∀ s ∈ sources, ∀ d ∈ destinations,
    (destProfile' (right d)).metadata = (sourceProfile' (left s)).metadata ↔
      (destProfile d).metadata = (sourceProfile s).metadata

namespace Renaming

variable {sourceProfile : σ → Profile ι φ μ} {destProfile : δ → Profile ι φ μ}
  {sourceProfile' : σ' → Profile ι' φ μ'} {destProfile' : δ' → Profile ι' φ μ'}
  {left : σ → σ'} {right : δ → δ'} {sources : List σ} {destinations : List δ}

/-- A class that depends on what the profiles compare has the same pattern under both
profiles. -/
theorem pattern (names : Renaming sourceProfile destProfile sourceProfile' destProfile'
      left right sources destinations)
    {cls : Profile ι φ μ → Option κ} {cls' : Profile ι' φ μ' → Option κ'}
    (classified : ∀ s ∈ sources,
      (cls' (sourceProfile' (left s))).isSome = (cls (sourceProfile s)).isSome)
    (agree : ∀ {p q : Profile ι φ μ} {p' q' : Profile ι' φ μ'},
      (q'.identity = p'.identity ↔ q.identity = p.identity) →
      (q'.folder = p'.folder ↔ q.folder = p.folder) →
      (q'.metadata = p'.metadata ↔ q.metadata = p.metadata) →
      (cls p).isSome → (cls' p').isSome → (cls' q' = cls' p' ↔ cls q = cls p)) :
    SamePattern (fun s => cls (sourceProfile s)) (fun d => cls (destProfile d))
      (fun s => cls' (sourceProfile' (left s))) (fun d => cls' (destProfile' (right d)))
      sources destinations where
  classified := classified
  within := by
    intro s isSource s' isSource' isSome
    apply agree (names.identityWithin s isSource s' isSource') _
      (names.metadataWithin s isSource s' isSource') isSome
      ((classified s isSource).trans isSome)
    rw [names.sourceFolder s isSource, names.sourceFolder s' isSource']
  across := by
    intro s isSource d isDestination isSome
    apply agree (names.identityAcross s isSource d isDestination) _
      (names.metadataAcross s isSource d isDestination) isSome
      ((classified s isSource).trans isSome)
    rw [names.sourceFolder s isSource, names.destFolder d isDestination]

variable (names : Renaming sourceProfile destProfile sourceProfile' destProfile' left right
  sources destinations)

include names

theorem exactPattern :
    SamePattern (fun s => (sourceProfile s).exactClass) (fun d => (destProfile d).exactClass)
      (fun s => (sourceProfile' (left s)).exactClass)
      (fun d => (destProfile' (right d)).exactClass) sources destinations := by
  apply names.pattern
  · intro s isSource
    rw [Profile.exactClass_isSome, Profile.exactClass_isSome, names.identified s isSource,
      names.described s isSource]
  · intro p q p' q' identity folder metadata isSome isSome'
    rw [Profile.exactClass_eq_iff isSome, Profile.exactClass_eq_iff isSome', identity, folder,
      metadata]

theorem changedPattern :
    SamePattern (fun s => (sourceProfile s).changedClass)
      (fun d => (destProfile d).changedClass)
      (fun s => (sourceProfile' (left s)).changedClass)
      (fun d => (destProfile' (right d)).changedClass) sources destinations := by
  apply names.pattern
  · intro s isSource
    rw [Profile.changedClass_isSome, Profile.changedClass_isSome, names.identified s isSource]
  · intro p q p' q' identity folder metadata isSome isSome'
    rw [Profile.changedClass_eq_iff isSome, Profile.changedClass_eq_iff isSome', identity,
      folder]

theorem probablePattern :
    SamePattern (fun s => (sourceProfile s).probableClass)
      (fun d => (destProfile d).probableClass)
      (fun s => (sourceProfile' (left s)).probableClass)
      (fun d => (destProfile' (right d)).probableClass) sources destinations := by
  apply names.pattern
  · intro s isSource
    rw [Profile.probableClass_isSome, Profile.probableClass_isSome, names.described s isSource]
  · intro p q p' q' identity folder metadata isSome isSome'
    rw [Profile.probableClass_eq_iff isSome, Profile.probableClass_eq_iff isSome', folder,
      metadata]

/-- When every source has metadata, both placement classes have the same pattern. -/
theorem placementPattern (complete : ∀ s ∈ sources, (sourceProfile s).metadata.isSome) :
    SamePattern (fun s => (sourceProfile s).strictClass)
      (fun d => (destProfile d).strictClass)
      (fun s => (sourceProfile' (left s)).looseClass)
      (fun d => (destProfile' (right d)).looseClass) sources destinations := by
  apply names.pattern
  · intro s isSource
    rw [Profile.looseClass_isSome, Profile.strictClass_isSome, names.identified s isSource,
      complete s isSource, Bool.and_true]
  · intro p q p' q' identity folder metadata isSome isSome'
    rw [Profile.strictClass_eq_iff isSome, Profile.looseClass_eq_iff isSome', identity,
      metadata]

end Renaming

/-! ## The renamed result -/

namespace Reconciliation

variable [DecidableEq σ] [DecidableEq δ] [DecidableEq ι] [LinearOrder φ] [DecidableEq μ]
  [DecidableEq κ] [DecidableEq σ'] [DecidableEq δ'] [DecidableEq ι'] [DecidableEq μ']
  [DecidableEq κ'] {sourceProfile : σ → Profile ι φ μ} {destProfile : δ → Profile ι φ μ}
  {sourceProfile' : σ' → Profile ι' φ μ'} {destProfile' : δ' → Profile ι' φ μ'}
  {left : σ → σ'} {right : δ → δ'} {sources : List σ} {destinations : List δ}
  {placement : Profile ι φ μ → Option κ} {placement' : Profile ι' φ μ' → Option κ'}

section Leftovers

variable (r : Reconciliation placement sourceProfile destProfile sources destinations)
  (names : Renaming sourceProfile destProfile sourceProfile' destProfile' left right
    sources destinations) {pairs : List (σ × δ)}

include names

omit [DecidableEq δ'] [DecidableEq ι'] [DecidableEq μ'] in
theorem unpairedLeft_rename (subset : pairs ⊆ r.paired) :
    unpairedLeft (pairs.map (Prod.map left right)) (sources.map left) =
      (unpairedLeft pairs sources).map left :=
  unpairedLeft_map (fun _ membership => r.paired_sources_subset
    (List.map_subset Prod.fst subset membership)) names.leftInjective

omit [DecidableEq σ'] [DecidableEq ι'] [DecidableEq μ'] in
theorem unpairedRight_rename (subset : pairs ⊆ r.paired) :
    unpairedRight (pairs.map (Prod.map left right)) (destinations.map right) =
      (unpairedRight pairs destinations).map right :=
  unpairedRight_map (fun _ membership => r.paired_destinations_subset
    (List.map_subset Prod.snd subset membership)) names.rightInjective

end Leftovers

/-- The result for the renamed messages. -/
def rename (r : Reconciliation placement sourceProfile destProfile sources destinations)
    (names : Renaming sourceProfile destProfile sourceProfile' destProfile' left right
      sources destinations)
    (placed : SamePattern (fun s => placement (sourceProfile s))
      (fun d => placement (destProfile d)) (fun s => placement' (sourceProfile' (left s)))
      (fun d => placement' (destProfile' (right d))) sources destinations) :
    Reconciliation placement' sourceProfile' destProfile' (sources.map left)
      (destinations.map right) where
  exact := r.exact.map (Prod.map left right)
  changed := r.changed.map (Prod.map left right)
  misplaced := r.misplaced.map (Prod.map left right)
  probable := r.probable.map (Prod.map left right)
  exactPairs := r.exactPairs.rename (fun s => (sourceProfile' s).exactClass)
    (fun d => (destProfile' d).exactClass) left right names.exactPattern
    (List.Subset.refl _) (List.Subset.refl _)
    fun us vs _ _ => Matcher.fifo_run_map left right us vs
  changedPairs := by
    have subset : r.exact ⊆ r.paired := by
      simp only [paired, List.append_assoc]
      exact List.subset_append_left _ _
    rw [r.unpairedLeft_rename names subset, r.unpairedRight_rename names subset]
    exact r.changedPairs.rename (fun s => (sourceProfile' s).changedClass)
      (fun d => (destProfile' d).changedClass) left right names.changedPattern
      (List.filter_subset_self _) (List.filter_subset_self _)
      fun us vs _ _ => Matcher.fifo_run_map left right us vs
  misplacedPairs := by
    have subset : r.exact ++ r.changed ⊆ r.paired := by
      rw [paired, List.append_assoc]
      exact List.subset_append_left _ _
    rw [← List.map_append, r.unpairedLeft_rename names subset,
      r.unpairedRight_rename names subset]
    refine r.misplacedPairs.rename (fun s => placement' (sourceProfile' s))
      (fun d => placement' (destProfile' d)) left right placed
      (List.filter_subset_self _) (List.filter_subset_self _) ?_
    intro us vs areSources areDestinations
    exact Matcher.nearest_run_map _ _ _ _ left right
      (fun s isSource => names.sourceFolder s (List.mem_filter.mp (areSources isSource)).1)
      fun d isDestination =>
        names.destFolder d (List.mem_filter.mp (areDestinations isDestination)).1
  probablePairs := by
    have subset : r.exact ++ r.changed ++ r.misplaced ⊆ r.paired :=
      List.subset_append_left _ r.probable
    rw [← List.map_append, ← List.map_append, r.unpairedLeft_rename names subset,
      r.unpairedRight_rename names subset]
    exact r.probablePairs.rename (fun s => (sourceProfile' s).probableClass)
      (fun d => (destProfile' d).probableClass) left right names.probablePattern
      (List.filter_subset_self _) (List.filter_subset_self _)
      fun us vs _ _ => Matcher.single_run_map left right us vs

/-- The same result, for lists that are written differently. -/
def relist {sources' : List σ} {destinations' : List δ}
    (r : Reconciliation placement sourceProfile destProfile sources destinations)
    (sameSources : sources = sources') (sameDestinations : destinations = destinations') :
    Reconciliation placement sourceProfile destProfile sources' destinations' where
  exact := r.exact
  changed := r.changed
  misplaced := r.misplaced
  probable := r.probable
  exactPairs := by
    subst sameSources sameDestinations
    exact r.exactPairs
  changedPairs := by
    subst sameSources sameDestinations
    exact r.changedPairs
  misplacedPairs := by
    subst sameSources sameDestinations
    exact r.misplacedPairs
  probablePairs := by
    subst sameSources sameDestinations
    exact r.probablePairs

section Relisted

variable {sources' : List σ} {destinations' : List δ}
  (r : Reconciliation placement sourceProfile destProfile sources destinations)
  (sameSources : sources = sources') (sameDestinations : destinations = destinations')

theorem relist_missing : (r.relist sameSources sameDestinations).missing = r.missing := by
  subst sameSources sameDestinations
  rfl

theorem relist_duplicated :
    (r.relist sameSources sameDestinations).duplicated = r.duplicated := by
  subst sameSources sameDestinations
  rfl

theorem relist_extra : (r.relist sameSources sameDestinations).extra = r.extra := by
  subst sameSources sameDestinations
  rfl

theorem relist_records : (r.relist sameSources sameDestinations).records = r.records := by
  subst sameSources sameDestinations
  rfl

end Relisted

section Renamed

variable (r : Reconciliation placement sourceProfile destProfile sources destinations)
  (names : Renaming sourceProfile destProfile sourceProfile' destProfile' left right
    sources destinations)
  (placed : SamePattern (fun s => placement (sourceProfile s))
    (fun d => placement (destProfile d)) (fun s => placement' (sourceProfile' (left s)))
    (fun d => placement' (destProfile' (right d))) sources destinations)

theorem rename_paired : (r.rename names placed).paired =
    r.paired.map (Prod.map left right) := by
  simp only [paired, rename, List.map_append]

theorem rename_missing : (r.rename names placed).missing = r.missing.map left := by
  rw [missing, rename_paired]
  exact r.unpairedLeft_rename names (List.Subset.refl _)

theorem rename_surplus : (r.rename names placed).surplus = r.surplus.map right := by
  rw [surplus, rename_paired]
  exact r.unpairedRight_rename names (List.Subset.refl _)

end Renamed

/-! ### Duplicates -/

section Duplicates

omit [DecidableEq σ] [DecidableEq δ] [LinearOrder φ] [DecidableEq μ] in
/-- A duplicate shares its identity with some source and more destinations. -/
theorem duplicate_iff {d : δ} :
    Duplicate sourceProfile destProfile sources destinations d ↔
      (destProfile d).identity.isSome ∧
        0 < (sources.filter fun s =>
          (sourceProfile s).identity = (destProfile d).identity).length ∧
        (sources.filter fun s =>
          (sourceProfile s).identity = (destProfile d).identity).length <
          (destinations.filter fun d' =>
            (destProfile d').identity = (destProfile d).identity).length := by
  constructor
  · rintro ⟨identity, identified, positive, fewer⟩
    rw [identified]
    exact ⟨rfl, positive, fewer⟩
  · rintro ⟨isSome, positive, fewer⟩
    obtain ⟨identity, identified⟩ := Option.isSome_iff_exists.mp isSome
    rw [identified] at positive fewer
    exact ⟨identity, identified, positive, fewer⟩

omit [DecidableEq σ] [DecidableEq δ] [LinearOrder φ] [DecidableEq μ] [DecidableEq σ']
  [DecidableEq δ'] [DecidableEq μ'] in
/-- Duplicates stay duplicates. -/
theorem duplicate_rename (names : Renaming sourceProfile destProfile sourceProfile'
      destProfile' left right sources destinations)
    {d : δ} (isDestination : d ∈ destinations) :
    Duplicate sourceProfile' destProfile' (sources.map left) (destinations.map right)
        (right d) ↔
      Duplicate sourceProfile destProfile sources destinations d := by
  have sameSources : ((sources.map left).filter fun s =>
      (sourceProfile' s).identity = (destProfile' (right d)).identity) =
      (sources.filter fun s =>
        (sourceProfile s).identity = (destProfile d).identity).map left := by
    rw [List.filter_map]
    congr 1
    apply List.filter_congr
    intro s isSource
    rw [Function.comp_apply, decide_eq_decide, eq_comm,
      names.identityAcross s isSource d isDestination, eq_comm]
  have sameDestinations : ((destinations.map right).filter fun d' =>
      (destProfile' d').identity = (destProfile' (right d)).identity) =
      (destinations.filter fun d' =>
        (destProfile d').identity = (destProfile d).identity).map right := by
    rw [List.filter_map]
    congr 1
    apply List.filter_congr
    intro d' isDestination'
    rw [Function.comp_apply, decide_eq_decide,
      names.identityAmong d isDestination d' isDestination']
  rw [duplicate_iff, duplicate_iff, sameSources, sameDestinations, List.length_map,
    List.length_map]
  refine and_congr_left ?_
  rintro ⟨positive, _⟩
  obtain ⟨s, membership⟩ := List.exists_mem_of_length_pos positive
  obtain ⟨isSource, sameIdentity⟩ := List.mem_filter.mp membership
  have shared := of_decide_eq_true sameIdentity
  rw [(names.identityAcross s isSource d isDestination).mpr shared.symm, ← shared,
    names.identified s isSource]

variable (r : Reconciliation placement sourceProfile destProfile sources destinations)
  (names : Renaming sourceProfile destProfile sourceProfile' destProfile' left right
    sources destinations)
  (placed : SamePattern (fun s => placement (sourceProfile s))
    (fun d => placement (destProfile d)) (fun s => placement' (sourceProfile' (left s)))
    (fun d => placement' (destProfile' (right d))) sources destinations)

theorem rename_duplicated :
    (r.rename names placed).duplicated = r.duplicated.map right := by
  rw [duplicated, rename_surplus, List.filter_map, duplicated]
  congr 1
  apply List.filter_congr
  intro d membership
  rw [Function.comp_apply, decide_eq_decide]
  exact duplicate_rename names (mem_unpairedRight.mp membership).1

theorem rename_extra : (r.rename names placed).extra = r.extra.map right := by
  rw [extra, rename_surplus, List.filter_map, extra]
  congr 1
  apply List.filter_congr
  intro d membership
  rw [Function.comp_apply, decide_eq_decide, not_iff_not]
  exact duplicate_rename names (mem_unpairedRight.mp membership).1

/-- The records of the renamed messages are the renamed records. -/
theorem rename_records : (r.rename names placed).records = r.records.map fun record =>
    (record.1, record.2.1.map left, record.2.2.map right) := by
  simp only [records, rename_missing, rename_duplicated, rename_extra, List.map_append,
    List.map_map]
  simp only [rename, List.map_map]
  rfl

end Duplicates

end Reconciliation

end MailSwiftSync
