import MailSwiftSync.Verification.Specification

/-!
# What the content pass computes

Body fingerprints refine a reconciliation in two ways.  A missing source and an
extra destination in its expected folder are paired when their common fingerprint
is unique on both sides, and an exact pair with different fingerprints becomes a
changed pair.  Nothing else moves, so every message still has one class.
-/

namespace MailSwiftSync

open Foundation

universe u

variable {σ δ ι φ μ κ ν : Type u} [DecidableEq σ] [DecidableEq δ] [DecidableEq ι]
  [LinearOrder φ] [DecidableEq μ] [DecidableEq κ] [DecidableEq ν]

/-- No other item of the list has the same fingerprint. -/
def UniqueIn (fingerprint : σ → ν) (items : List σ) (item : σ) : Prop :=
  ∀ other ∈ items, fingerprint other = fingerprint item → other = item

instance (fingerprint : σ → ν) (items : List σ) (item : σ) :
    Decidable (UniqueIn fingerprint items item) :=
  inferInstanceAs (Decidable (∀ other ∈ items, _ → _))

namespace Reconciliation

variable {placement : Profile ι φ μ → Option κ} {sourceProfile : σ → Profile ι φ μ}
  {destProfile : δ → Profile ι φ μ} {sources : List σ} {destinations : List δ}

section Content

variable (r : Reconciliation placement sourceProfile destProfile sources destinations)
  (sourceBody : σ → ν) (destBody : δ → ν)

/-- A missing source and an extra destination that content identifies. -/
structure Identified (s : σ) (d : δ) : Prop where
  missing : s ∈ r.missing
  extra : d ∈ r.extra
  folder : (sourceProfile s).folder = (destProfile d).folder
  body : sourceBody s = destBody d
  uniqueSource : UniqueIn sourceBody sources s
  uniqueDest : UniqueIn destBody destinations d

/-- The partner content finds for a missing source. -/
def fallbackFor (s : σ) : Option δ :=
  r.extra.find? fun d => (sourceProfile s).folder = (destProfile d).folder ∧
    sourceBody s = destBody d ∧ UniqueIn sourceBody sources s ∧
    UniqueIn destBody destinations d

/-- Pairs that content adds. -/
def fallback : List (σ × δ) :=
  r.missing.filterMap fun s => (r.fallbackFor sourceBody destBody s).map (Prod.mk s)

/-- Exact pairs that content rejects. -/
def differing : List (σ × δ) :=
  r.exact.filter fun pair => sourceBody pair.1 ≠ destBody pair.2

/-- Exact pairs that content confirms. -/
def confirmed : List (σ × δ) :=
  r.exact.filter fun pair => sourceBody pair.1 = destBody pair.2

/-- Sources still missing. -/
def stillMissing : List σ :=
  unpairedLeft (r.fallback sourceBody destBody) r.missing

/-- Destinations still extra. -/
def stillExtra : List δ :=
  unpairedRight (r.fallback sourceBody destBody) r.extra

/-- The mismatch records of the metadata pass that content keeps. -/
def keptRecords : List (MismatchType × Option σ × Option δ) :=
  r.changed.map (fun pair => (.messageIdOnly, some pair.1, some pair.2)) ++
    r.misplaced.map (fun pair => (.presentWrongFolder, some pair.1, some pair.2)) ++
    (r.stillMissing sourceBody destBody).map (fun s => (.missing, some s, none)) ++
    r.duplicated.map (fun d => (.duplicated, none, some d)) ++
    (r.stillExtra sourceBody destBody).map (fun d => (.extra, none, some d))

omit [DecidableEq ι] [LinearOrder φ] [DecidableEq μ] [DecidableEq κ] [DecidableEq ν] in
/-- Whether a record survives the resolution of some pairs. -/
def survives (pairs : List (σ × δ)) (record : MismatchType × Option σ × Option δ) : Bool :=
  match record.1 with
  | .missing => record.2.1.all (· ∉ pairs.map Prod.fst)
  | .extra => record.2.2.all (· ∉ pairs.map Prod.snd)
  | _ => true

/-- The mismatch records after the content pass. -/
def contentRecords : List (MismatchType × Option σ × Option δ) :=
  r.keptRecords sourceBody destBody ++ (r.differing sourceBody destBody).map
    (fun pair => (.messageIdOnly, some pair.1, some pair.2))

/-- Resolving the fallback pairs keeps all other records. -/
theorem filter_survives {pairs : List (σ × δ)}
    (perm : pairs.Perm (r.fallback sourceBody destBody)) :
    r.records.filter (survives pairs) = r.keptRecords sourceBody destBody := by
  rw [records, keptRecords]
  simp only [List.filter_append, List.filter_map, Function.comp_def, survives,
    (perm.map _).mem_iff, stillMissing, stillExtra, unpairedLeft, unpairedRight,
    Option.all_some, List.filter_true]

theorem extra_subset : r.extra ⊆ destinations :=
  fun _ membership => (mem_unpairedRight.mp (r.mem_extra.mp membership).1).1

theorem missing_subset : r.missing ⊆ sources :=
  fun _ membership => (mem_unpairedLeft.mp membership).1

theorem missing_not_exact {s : σ} (isMissing : s ∈ r.missing) :
    s ∉ r.exact.map Prod.fst := by
  intro inExact
  refine (mem_unpairedLeft.mp isMissing).2 ?_
  simp only [paired, List.map_append, List.mem_append]
  exact .inl (.inl (.inl inExact))

theorem extra_not_exact {d : δ} (isExtra : d ∈ r.extra) : d ∉ r.exact.map Prod.snd := by
  intro inExact
  refine (mem_unpairedRight.mp (r.mem_extra.mp isExtra).1).2 ?_
  simp only [paired, List.map_append, List.mem_append]
  exact .inl (.inl (.inl inExact))

theorem fallbackFor_conditions {s : σ} {d : δ}
    (found : r.fallbackFor sourceBody destBody s = some d) :
    d ∈ r.extra ∧ (sourceProfile s).folder = (destProfile d).folder ∧
      sourceBody s = destBody d ∧ UniqueIn sourceBody sources s ∧
      UniqueIn destBody destinations d := by
  rw [fallbackFor] at found
  refine ⟨List.mem_of_find?_eq_some found, ?_⟩
  simpa only [decide_eq_true_eq] using List.find?_some found

theorem fallbackFor_eq_some {s : σ} (isMissing : s ∈ r.missing) {d : δ} :
    r.fallbackFor sourceBody destBody s = some d ↔ r.Identified sourceBody destBody s d := by
  constructor
  · intro found
    obtain ⟨isExtra, folder, body, uniqueSource, uniqueDest⟩ :=
      r.fallbackFor_conditions sourceBody destBody found
    exact ⟨isMissing, isExtra, folder, body, uniqueSource, uniqueDest⟩
  · intro identified
    cases found : r.fallbackFor sourceBody destBody s with
    | none =>
      have notFound := List.find?_eq_none.mp found d identified.extra
      exact absurd (decide_eq_true ⟨identified.folder, identified.body,
        identified.uniqueSource, identified.uniqueDest⟩) notFound
    | some other =>
      obtain ⟨isExtra, -, body, -⟩ := r.fallbackFor_conditions sourceBody destBody found
      have sameBody : destBody other = destBody d := by
        rw [← body, identified.body]
      rw [identified.uniqueDest other (r.extra_subset isExtra) sameBody]

/-- The fallback pairs are exactly the identified ones. -/
theorem mem_fallback {pair : σ × δ} :
    pair ∈ r.fallback sourceBody destBody ↔
      r.Identified sourceBody destBody pair.1 pair.2 := by
  obtain ⟨s, d⟩ := pair
  simp only [fallback, List.mem_filterMap, Option.map_eq_some_iff, Prod.mk.injEq]
  constructor
  · rintro ⟨_, isMissing, _, found, rfl, rfl⟩
    exact (r.fallbackFor_eq_some sourceBody destBody isMissing).mp found
  · intro identified
    exact ⟨s, identified.missing, d,
      (r.fallbackFor_eq_some sourceBody destBody identified.missing).mpr identified, rfl, rfl⟩

theorem fallback_sources : (r.fallback sourceBody destBody).map Prod.fst =
    r.missing.filter fun s => (r.fallbackFor sourceBody destBody s).isSome := by
  rw [fallback, List.map_filterMap, ← List.filterMap_eq_filter]
  apply List.filterMap_congr
  intro s _
  cases found : r.fallbackFor sourceBody destBody s <;> simp [Option.guard, found]

theorem fallback_sources_nodup (nodup : sources.Nodup) :
    ((r.fallback sourceBody destBody).map Prod.fst).Nodup := by
  rw [fallback_sources]
  exact (nodup.filter _).filter _

theorem fallback_nodup (nodup : sources.Nodup) :
    (r.fallback sourceBody destBody).Nodup :=
  (r.fallback_sources_nodup sourceBody destBody nodup).of_map _

theorem fallback_destinations_nodup (nodup : sources.Nodup) :
    ((r.fallback sourceBody destBody).map Prod.snd).Nodup := by
  apply (r.fallback_nodup sourceBody destBody nodup).map_on
  rintro ⟨s, d⟩ inFallback ⟨s', d'⟩ inFallback' equal
  obtain rfl : d = d' := equal
  have identified := (r.mem_fallback sourceBody destBody).mp inFallback
  have identified' := (r.mem_fallback sourceBody destBody).mp inFallback'
  have sameBody : sourceBody s' = sourceBody s := by
    rw [identified'.body, ← identified.body]
  rw [identified.uniqueSource s' (r.missing_subset identified'.missing) sameBody]

theorem missing_perm (nodup : sources.Nodup) :
    r.missing.Perm ((r.fallback sourceBody destBody).map Prod.fst ++
      r.stillMissing sourceBody destBody) := by
  apply perm_unpairedLeft (nodup.filter _) (r.fallback_sources_nodup sourceBody destBody nodup)
  intro s membership
  obtain ⟨pair, inFallback, rfl⟩ := List.mem_map.mp membership
  exact ((r.mem_fallback sourceBody destBody).mp inFallback).missing

theorem extra_perm (sourcesNodup : sources.Nodup) (nodup : destinations.Nodup) :
    r.extra.Perm ((r.fallback sourceBody destBody).map Prod.snd ++
      r.stillExtra sourceBody destBody) := by
  apply perm_unpairedRight ((nodup.filter _).filter _)
    (r.fallback_destinations_nodup sourceBody destBody sourcesNodup)
  intro d membership
  obtain ⟨pair, inFallback, rfl⟩ := List.mem_map.mp membership
  exact ((r.mem_fallback sourceBody destBody).mp inFallback).extra

theorem exact_split :
    r.exact.Perm (r.confirmed sourceBody destBody ++ r.differing sourceBody destBody) := by
  have split := List.filter_append_perm
    (fun pair => decide (sourceBody pair.1 = destBody pair.2)) r.exact
  simpa [confirmed, differing] using split.symm

/-- The classes of the sources after the content pass: matched, probable, missing,
changed. -/
def contentSourceClasses : List (List σ) :=
  [(r.confirmed sourceBody destBody ++ r.fallback sourceBody destBody).map Prod.fst,
    r.probable.map Prod.fst, r.stillMissing sourceBody destBody,
    (r.changed ++ r.misplaced ++ r.differing sourceBody destBody).map Prod.fst]

/-- The classes of the destinations after the content pass: matched, probable, extra,
duplicated, changed. -/
def contentDestinationClasses : List (List δ) :=
  [(r.confirmed sourceBody destBody ++ r.fallback sourceBody destBody).map Prod.snd,
    r.probable.map Prod.snd, r.stillExtra sourceBody destBody, r.duplicated,
    (r.changed ++ r.misplaced ++ r.differing sourceBody destBody).map Prod.snd]

/-- Every source still has exactly one class. -/
theorem contentSourceClasses_perm (nodup : sources.Nodup) :
    sources.Perm (r.contentSourceClasses sourceBody destBody).flatten := by
  refine (r.sources_perm nodup).trans ?_
  have missing := (r.missing_perm sourceBody destBody nodup)
  have exact := (r.exact_split sourceBody destBody).map Prod.fst
  rw [List.perm_iff_count] at missing exact ⊢
  intro s
  have missingCount := missing s
  have exactCount := exact s
  simp only [contentSourceClasses, List.flatten_cons, List.flatten_nil, List.map_append,
    List.count_append, List.count_nil] at missingCount exactCount ⊢
  omega

/-- Every destination still has exactly one class. -/
theorem contentDestinationClasses_perm (sourcesNodup : sources.Nodup)
    (nodup : destinations.Nodup) :
    destinations.Perm (r.contentDestinationClasses sourceBody destBody).flatten := by
  refine (r.destinations_perm nodup).trans ?_
  have extra := (r.extra_perm sourceBody destBody sourcesNodup nodup)
  have exact := (r.exact_split sourceBody destBody).map Prod.snd
  rw [List.perm_iff_count] at extra exact ⊢
  intro d
  have extraCount := extra d
  have exactCount := exact d
  simp only [contentDestinationClasses, List.flatten_cons, List.flatten_nil, List.map_append,
    List.count_append, List.count_nil] at extraCount exactCount ⊢
  omega

theorem contentRecords_sources :
    (r.contentRecords sourceBody destBody).filterMap (fun record => record.2.1) =
      r.changed.map Prod.fst ++ r.misplaced.map Prod.fst ++
        r.stillMissing sourceBody destBody ++
        (r.differing sourceBody destBody).map Prod.fst := by
  simp [contentRecords, keptRecords, List.filterMap_append, List.filterMap_map]

theorem contentRecords_destinations :
    (r.contentRecords sourceBody destBody).filterMap (fun record => record.2.2) =
      r.changed.map Prod.snd ++ r.misplaced.map Prod.snd ++
        (r.duplicated ++ r.stillExtra sourceBody destBody) ++
        (r.differing sourceBody destBody).map Prod.snd := by
  simp [contentRecords, keptRecords, List.filterMap_append, List.filterMap_map]

/-- No source is named by two records of the content pass. -/
theorem contentRecords_sources_nodup (nodup : sources.Nodup) :
    ((r.contentRecords sourceBody destBody).filterMap fun record => record.2.1).Nodup := by
  have classesNodup := (r.contentSourceClasses_perm sourceBody destBody nodup).nodup nodup
  rw [List.nodup_iff_count_le_one] at classesNodup ⊢
  intro s
  have atMostOnce := classesNodup s
  simp only [contentRecords_sources, contentSourceClasses, List.flatten_cons,
    List.flatten_nil, List.map_append, List.count_append, List.count_nil] at atMostOnce ⊢
  omega

/-- No destination is named by two records of the content pass. -/
theorem contentRecords_destinations_nodup (sourcesNodup : sources.Nodup)
    (nodup : destinations.Nodup) :
    ((r.contentRecords sourceBody destBody).filterMap fun record => record.2.2).Nodup := by
  have classesNodup :=
    (r.contentDestinationClasses_perm sourceBody destBody sourcesNodup nodup).nodup nodup
  rw [List.nodup_iff_count_le_one] at classesNodup ⊢
  intro d
  have atMostOnce := classesNodup d
  simp only [contentRecords_destinations, contentDestinationClasses, List.flatten_cons,
    List.flatten_nil, List.map_append, List.count_append, List.count_nil] at atMostOnce ⊢
  omega

/-- When every message is matched, the matches are a bijection into the expected folders
between messages with the same body.  Its pairs agree in identity unless the body alone
identifies both messages. -/
theorem exists_content_equiv (sourcesNodup : sources.Nodup) (nodup : destinations.Nodup)
    (allSources : (r.confirmed sourceBody destBody ++
      r.fallback sourceBody destBody).length = sources.length)
    (allDestinations : (r.confirmed sourceBody destBody ++
      r.fallback sourceBody destBody).length = destinations.length) :
    ∃ partner : {s // s ∈ sources} ≃ {d // d ∈ destinations}, ∀ s : {s // s ∈ sources},
      (sourceProfile s).folder = (destProfile (partner s)).folder ∧
      sourceBody s = destBody (partner s) ∧
      ((sourceProfile s).identity.isSome ∧
          (sourceProfile s).identity = (destProfile (partner s)).identity ∨
        UniqueIn sourceBody sources s ∧ UniqueIn destBody destinations (partner s)) := by
  have left := r.contentSourceClasses_perm sourceBody destBody sourcesNodup
  have right := r.contentDestinationClasses_perm sourceBody destBody sourcesNodup nodup
  have leftSublist : ((r.confirmed sourceBody destBody ++
      r.fallback sourceBody destBody).map Prod.fst).Sublist
        (r.contentSourceClasses sourceBody destBody).flatten :=
    List.sublist_append_left _ _
  have rightSublist : ((r.confirmed sourceBody destBody ++
      r.fallback sourceBody destBody).map Prod.snd).Sublist
        (r.contentDestinationClasses sourceBody destBody).flatten :=
    List.sublist_append_left _ _
  have leftAll := leftSublist.eq_of_length
    (by rw [List.length_map, allSources, left.length_eq])
  have rightAll := rightSublist.eq_of_length
    (by rw [List.length_map, allDestinations, right.length_eq])
  rw [← leftAll] at left
  rw [← rightAll] at right
  obtain ⟨partner, isPair⟩ := exists_equiv_of_pairs left right sourcesNodup nodup
  refine ⟨partner, fun s => ?_⟩
  rcases List.mem_append.mp (isPair s) with isConfirmed | isFallback
  · obtain ⟨isExact, sameBody⟩ := List.mem_filter.mp isConfirmed
    have sameClass := (r.exactPairs.mem_right_class isExact).2
    have classified := r.exactPairs.classified _ isExact
    have agree := (Profile.exactClass_eq_iff classified).mp sameClass
    rw [Profile.exactClass_isSome, Bool.and_eq_true] at classified
    exact ⟨agree.2.1.symm, of_decide_eq_true sameBody, .inl ⟨classified.1, agree.1.symm⟩⟩
  · have identified := (r.mem_fallback sourceBody destBody).mp isFallback
    exact ⟨identified.folder, identified.body,
      .inr ⟨identified.uniqueSource, identified.uniqueDest⟩⟩

end Content

end Reconciliation

end MailSwiftSync
