import MailSwiftSync.Verification.Accounting

/-!
# Copies with different bodies

Messages with equal metadata are paired in the order of their keys, before their bodies are
compared.  Two groups with the same bodies are then found equal when the bodies come in the same
order.
-/

namespace MailSwiftSync

open Foundation

universe u

/-- Lists of one length agree item by item when their pairs do. -/
theorem map_eq_map_iff_zip {α β γ : Type*} {xs : List α} {ys : List β} {f : α → γ} {g : β → γ}
    (sameLength : xs.length = ys.length) :
    xs.map f = ys.map g ↔ ∀ pair ∈ xs.zip ys, f pair.1 = g pair.2 := by
  induction xs generalizing ys with
  | nil =>
    cases ys with
    | nil => simp
    | cons y ys => cases sameLength
  | cons x xs ih =>
    cases ys with
    | nil => cases sameLength
    | cons y ys =>
      rw [List.map_cons, List.map_cons, List.cons.injEq, List.zip_cons_cons,
        List.forall_mem_cons, ih (Nat.succ.inj sameLength)]

/-- The messages of a group: those of one identity, folder and metadata. -/
def groupOf {σ ι φ μ : Type u} [DecidableEq ι] [DecidableEq φ] [DecidableEq μ]
    (profile : σ → Profile ι φ μ) (items : List σ) (group : ι × φ × μ) : List σ :=
  ofClass (fun item => (profile item).exactClass) group items

/-- Messages of one group alone make up that group. -/
theorem groupOf_single {σ ι φ μ : Type u} [DecidableEq ι] [DecidableEq φ] [DecidableEq μ]
    {profile : σ → Profile ι φ μ} {items : List σ} {only : ι × φ × μ}
    (grouped : ∀ item ∈ items, (profile item).exactClass = some only) (group : ι × φ × μ) :
    groupOf profile items group = if group = only then items else [] := by
  split
  · next isGroup =>
    apply List.filter_eq_self.mpr
    intro item isMember
    rw [decide_eq_true_eq, isGroup]
    exact grouped item isMember
  · next otherGroup =>
    apply ofClass_eq_nil
    intro item isMember isClass
    exact otherGroup (Option.some.inj (isClass.symm.trans (grouped item isMember)))

/-- Every group has as many messages on both sides. -/
def SameSizes {σ δ ι φ μ : Type u} [DecidableEq ι] [DecidableEq φ] [DecidableEq μ]
    (sourceProfile : σ → Profile ι φ μ) (destProfile : δ → Profile ι φ μ) (sources : List σ)
    (destinations : List δ) : Prop :=
  ∀ group, (groupOf sourceProfile sources group).length =
    (groupOf destProfile destinations group).length

/-- Some source and some destination have one identity and lack metadata. -/
def BarePair {σ δ ι φ μ : Type u} (sourceProfile : σ → Profile ι φ μ)
    (destProfile : δ → Profile ι φ μ) (sources : List σ) (destinations : List δ) : Prop :=
  ∃ s ∈ sources, ∃ d ∈ destinations, (sourceProfile s).metadata = none ∧
    (destProfile d).metadata = none ∧ (sourceProfile s).identity.isSome = true ∧
      (sourceProfile s).identity = (destProfile d).identity

/-- A matcher for the nearest place serves items at another place. -/
theorem nearest_run_ne_nil {σ δ φ : Type*} [LinearOrder φ] {place : σ → φ} {place' : δ → φ}
    {xs : List σ} {ys : List δ} {x : σ}
    {y : δ} (isItem : x ∈ xs) (isCandidate : y ∈ ys) (elsewhere : place' y ≠ place x) :
    (Matcher.nearest place place').run xs ys ≠ [] := by
  have served : takeNearest place place' ys x ≠ none := by
    rw [Ne, takeNearest_eq_none, nearestPlace, Option.orElse_eq_none]
    rintro ⟨below, above⟩
    rw [List.max?_eq_none_iff, List.filter_eq_nil_iff] at below
    rw [List.min?_eq_none_iff, List.filter_eq_nil_iff] at above
    have isPlace := List.mem_map_of_mem (f := place') isCandidate
    rcases lt_or_gt_of_ne elsewhere with isBelow | isAbove
    · exact below _ isPlace (decide_eq_true isBelow)
    · exact above _ isPlace (decide_eq_true isAbove)
  change drain (takeNearest place place') xs ys ≠ []
  induction xs with
  | nil => cases isItem
  | cons first rest ih =>
    cases taken : takeNearest place place' ys first with
    | none =>
      rw [drain_cons_none taken]
      refine ih ((List.mem_cons.mp isItem).resolve_left ?_)
      rintro rfl
      exact served taken
    | some result =>
      rw [drain_cons_some taken]
      exact List.cons_ne_nil _ _

namespace Reconciliation

variable {σ δ ι φ μ κ ν : Type u} [DecidableEq σ] [DecidableEq δ] [DecidableEq ι] [LinearOrder φ]
  [DecidableEq μ] [DecidableEq κ] [DecidableEq ν] {placement : Profile ι φ μ → Option κ}
  {sourceProfile : σ → Profile ι φ μ} {destProfile : δ → Profile ι φ μ} {sources : List σ}
  {destinations : List δ}
  {sourceBody : σ → ν} {destBody : δ → ν}
  (r : Reconciliation placement sourceProfile destProfile sources destinations)

omit [DecidableEq ν] in
theorem ofClass_exact (group : ι × φ × μ) :
    ofClass (fun pair => (sourceProfile pair.1).exactClass) group r.exact =
      (groupOf sourceProfile sources group).zip (groupOf destProfile destinations group) :=
  r.exactPairs.classes group

variable {r}

/-- No pair differs exactly when the bodies come in the same order. -/
theorem differing_eq_nil_iff (same : SameSizes sourceProfile destProfile sources destinations) :
    r.differing sourceBody destBody = [] ↔ ∀ group,
      (groupOf sourceProfile sources group).map sourceBody =
        (groupOf destProfile destinations group).map destBody := by
  have inGroups : (∀ pair ∈ r.exact, sourceBody pair.1 = destBody pair.2) ↔
      ∀ group, ∀ pair ∈ (groupOf sourceProfile sources group).zip
        (groupOf destProfile destinations group),
        sourceBody pair.1 = destBody pair.2 := by
    constructor
    · intro every group pair isMember
      rw [← r.ofClass_exact, mem_ofClass] at isMember
      exact every pair isMember.1
    · intro every pair isMember
      obtain ⟨group, -, inGroup⟩ := r.exactPairs.class_of_mem isMember
      exact every group pair inGroup
  rw [differing, List.filter_eq_nil_iff]
  simp only [decide_eq_true_eq, not_not, ne_eq]
  rw [inGroups]
  apply forall_congr'
  intro group
  rw [map_eq_map_iff_zip (same group)]

/-- In groups of one size every source has a partner. -/
theorem mem_exact_of_source
    (same : SameSizes sourceProfile destProfile sources destinations) {s : σ}
    (isSource : s ∈ sources) (grouped : (sourceProfile s).exactClass.isSome = true) :
    s ∈ r.exact.map Prod.fst := by
  obtain ⟨group, isGroup⟩ := Option.isSome_iff_exists.mp grouped
  have inGroup : s ∈ groupOf sourceProfile sources group := mem_ofClass.mpr ⟨isSource, isGroup⟩
  rw [← List.map_fst_zip (same group).le, ← r.ofClass_exact] at inGroup
  obtain ⟨pair, isMember, isFirst⟩ := List.mem_map.mp inGroup
  exact List.mem_map.mpr ⟨pair, (mem_ofClass.mp isMember).1, isFirst⟩

/-- In groups of one size every destination has a partner. -/
theorem mem_exact_of_destination
    (same : SameSizes sourceProfile destProfile sources destinations) {d : δ}
    (isDestination : d ∈ destinations) (grouped : (destProfile d).exactClass.isSome = true) :
    d ∈ r.exact.map Prod.snd := by
  obtain ⟨group, isGroup⟩ := Option.isSome_iff_exists.mp grouped
  have inGroup : d ∈ groupOf destProfile destinations group :=
    mem_ofClass.mpr ⟨isDestination, isGroup⟩
  rw [← List.map_snd_zip (same group).ge, ← r.ofClass_exact] at inGroup
  obtain ⟨pair, isMember, isSecond⟩ := List.mem_map.mp inGroup
  exact List.mem_map.mpr ⟨pair, (mem_ofClass.mp isMember).1, isSecond⟩

/-- In groups of one size the sources without a partner are in no group. -/
theorem exactClass_of_unpaired_source
    (same : SameSizes sourceProfile destProfile sources destinations) {s : σ}
    (unpaired : s ∈ unpairedLeft r.exact sources) : (sourceProfile s).exactClass = none := by
  obtain ⟨isSource, free⟩ := mem_unpairedLeft.mp unpaired
  by_contra grouped
  exact free (mem_exact_of_source same isSource (Option.isSome_iff_ne_none.mpr grouped))

theorem exactClass_of_unpaired_destination
    (same : SameSizes sourceProfile destProfile sources destinations) {d : δ}
    (unpaired : d ∈ unpairedRight r.exact destinations) : (destProfile d).exactClass = none := by
  obtain ⟨isDestination, free⟩ := mem_unpairedRight.mp unpaired
  by_contra grouped
  exact free (mem_exact_of_destination same isDestination (Option.isSome_iff_ne_none.mpr grouped))

/-- Besides groups of one size, what is changed or misplaced is a bare pair. -/
theorem other_pairs_iff {r : Reconciliation Profile.looseClass sourceProfile destProfile sources
    destinations} (same : SameSizes sourceProfile destProfile sources destinations) :
    r.changed ++ r.misplaced = [] ↔
      ¬BarePair sourceProfile destProfile sources destinations := by
  have unmeasured : ∀ profile : Profile ι φ μ, profile.exactClass = none →
      profile.identity.isSome = true → profile.metadata = none := by
    rintro ⟨_ | identity, folder, _ | metadata⟩ ungrouped identified
    · rfl
    · cases identified
    · rfl
    · cases ungrouped
  constructor
  · rintro none ⟨s, isSource, d, isDestination, bare, bare', identified, identity⟩
    obtain ⟨noChanged, noMisplaced⟩ := List.append_eq_nil_iff.mp none
    have unpaired : s ∈ unpairedLeft r.exact sources := by
      refine mem_unpairedLeft.mpr ⟨isSource, fun isExact => ?_⟩
      obtain ⟨pair, isPair, rfl⟩ := List.mem_map.mp isExact
      have classified := r.exactPairs.classified pair isPair
      rw [Profile.exactClass_isSome, bare] at classified
      cases (Bool.and_eq_true _ _ ▸ classified).2
    have unpaired' : d ∈ unpairedRight r.exact destinations := by
      refine mem_unpairedRight.mpr ⟨isDestination, fun isExact => ?_⟩
      obtain ⟨pair, isPair, rfl⟩ := List.mem_map.mp isExact
      have classified := r.exactPairs.classified pair isPair
      rw [r.exactPairs.agree isPair, Profile.exactClass_isSome, bare'] at classified
      cases (Bool.and_eq_true _ _ ▸ classified).2
    by_cases sameFolder : (destProfile d).folder = (sourceProfile s).folder
    · have classified : (sourceProfile s).changedClass.isSome = true := by
        rw [Profile.changedClass_isSome, identified]
      obtain ⟨c, isClass⟩ := Option.isSome_iff_exists.mp classified
      have isClass' : (destProfile d).changedClass = some c :=
        ((Profile.changedClass_eq_iff classified).mpr ⟨identity.symm, sameFolder⟩).trans isClass
      have run := r.changedPairs.classes c
      rw [noChanged] at run
      rcases List.zip_eq_nil_iff.mp run.symm with noSource | noDestination
      · exact absurd (mem_ofClass.mpr ⟨unpaired, isClass⟩) (List.eq_nil_iff_forall_not_mem.mp
          noSource s)
      · exact absurd (mem_ofClass.mpr ⟨unpaired', isClass'⟩) (List.eq_nil_iff_forall_not_mem.mp
          noDestination d)
    · have classified : (sourceProfile s).looseClass.isSome = true := by
        rw [Profile.looseClass_isSome, identified]
      obtain ⟨c, isClass⟩ := Option.isSome_iff_exists.mp classified
      have isClass' : (destProfile d).looseClass = some c :=
        ((Profile.looseClass_eq_iff classified).mpr
          ⟨identity.symm, bare'.trans bare.symm⟩).trans isClass
      have run := r.misplacedPairs.classes c
      rw [noMisplaced, noChanged, List.append_nil] at run
      exact nearest_run_ne_nil (mem_ofClass.mpr ⟨unpaired, isClass⟩)
        (mem_ofClass.mpr ⟨unpaired', isClass'⟩) sameFolder run.symm
  · intro noBare
    rw [List.eq_nil_iff_forall_not_mem]
    intro pair isPair
    rcases List.mem_append.mp isPair with isChanged | isMisplaced
    · have unpaired := r.changedPairs.mem_left isChanged
      have unpaired' := r.changedPairs.mem_right isChanged
      have identified := r.changedPairs.classified pair isChanged
      obtain ⟨identity, -⟩ := (Profile.changedClass_eq_iff identified).mp
        (r.changedPairs.agree isChanged).symm
      rw [Profile.changedClass_isSome] at identified
      exact noBare ⟨pair.1, (mem_unpairedLeft.mp unpaired).1, pair.2,
        (mem_unpairedRight.mp unpaired').1,
        unmeasured _ (exactClass_of_unpaired_source same unpaired) identified,
        unmeasured _ (exactClass_of_unpaired_destination same unpaired') (identity ▸ identified),
        identified, identity.symm⟩
    · have isUnpaired := mem_unpairedLeft.mp (r.misplacedPairs.mem_left isMisplaced)
      have isUnpaired' := mem_unpairedRight.mp (r.misplacedPairs.mem_right isMisplaced)
      have identified := r.misplacedPairs.classified pair isMisplaced
      obtain ⟨identity, metadata⟩ := (Profile.looseClass_eq_iff identified).mp
        (r.misplacedPairs.agree isMisplaced).symm
      rw [Profile.looseClass_isSome] at identified
      have unpaired : pair.1 ∈ unpairedLeft r.exact sources := by
        refine mem_unpairedLeft.mpr ⟨isUnpaired.1, fun isExact => isUnpaired.2 ?_⟩
        rw [List.map_append]
        exact List.mem_append_left _ isExact
      have bare := unmeasured _ (exactClass_of_unpaired_source same unpaired) identified
      exact noBare ⟨pair.1, isUnpaired.1, pair.2, isUnpaired'.1, bare, metadata.trans bare,
        identified, identity.symm⟩

/-- The messages of the groups are matched. -/
structure GroupsMatched (r : Reconciliation placement sourceProfile destProfile sources
    destinations) (sourceBody : σ → ν) (destBody : δ → ν) : Prop where
  source : ∀ s ∈ sources, (sourceProfile s).exactClass.isSome = true →
    s ∈ (r.confirmed sourceBody destBody ++ r.fallback sourceBody destBody).map Prod.fst
  destination : ∀ d ∈ destinations, (destProfile d).exactClass.isSome = true →
    d ∈ (r.confirmed sourceBody destBody ++ r.fallback sourceBody destBody).map Prod.snd

theorem confirmed_of_no_difference (agree : r.differing sourceBody destBody = []) :
    r.confirmed sourceBody destBody = r.exact := by
  rw [differing, List.filter_eq_nil_iff] at agree
  rw [confirmed, List.filter_eq_self]
  intro pair isMember
  simpa using agree pair isMember

/-- The messages of the groups are matched when no pair differs. -/
theorem groupsMatched (same : SameSizes sourceProfile destProfile sources destinations)
    (agree : r.differing sourceBody destBody = []) : r.GroupsMatched sourceBody destBody where
  source s isSource grouped := by
    rw [List.map_append, List.mem_append, confirmed_of_no_difference agree]
    exact .inl (mem_exact_of_source same isSource grouped)
  destination d isDestination grouped := by
    rw [List.map_append, List.mem_append, confirmed_of_no_difference agree]
    exact .inl (mem_exact_of_destination same isDestination grouped)

/-- When no pair differs, no record names a source that has an exact partner. -/
theorem not_named_source (agree : r.differing sourceBody destBody = []) {s : σ}
    (isExact : s ∈ r.exact.map Prod.fst) :
    s ∉ (r.contentRecords sourceBody destBody).filterMap fun record => record.2.1 := by
  intro named
  rw [contentRecords_sources, agree, List.map_nil, List.append_nil] at named
  simp only [List.mem_append, List.mem_map] at named
  rcases named with (⟨pair, isChanged, rfl⟩ | ⟨pair, isMisplaced, rfl⟩) | isMissing
  · exact (mem_unpairedLeft.mp (r.changedPairs.mem_left isChanged)).2 isExact
  · have unpaired := (mem_unpairedLeft.mp (r.misplacedPairs.mem_left isMisplaced)).2
    rw [List.map_append, List.mem_append] at unpaired
    exact unpaired (.inl isExact)
  · exact r.missing_not_exact (mem_unpairedLeft.mp isMissing).1 isExact

/-- When no pair differs, no record names a destination that has an exact partner. -/
theorem not_named_destination (agree : r.differing sourceBody destBody = []) {d : δ}
    (isExact : d ∈ r.exact.map Prod.snd) :
    d ∉ (r.contentRecords sourceBody destBody).filterMap fun record => record.2.2 := by
  intro named
  rw [contentRecords_destinations, agree, List.map_nil, List.append_nil] at named
  simp only [List.mem_append, List.mem_map] at named
  rcases named with (⟨pair, isChanged, rfl⟩ | ⟨pair, isMisplaced, rfl⟩) | isDuplicate | isExtra
  · exact (mem_unpairedRight.mp (r.changedPairs.mem_right isChanged)).2 isExact
  · have unpaired := (mem_unpairedRight.mp (r.misplacedPairs.mem_right isMisplaced)).2
    rw [List.map_append, List.mem_append] at unpaired
    exact unpaired (.inl isExact)
  · have surplus := (r.mem_duplicated.mp isDuplicate).1
    refine (mem_unpairedRight.mp surplus).2 ?_
    simp only [paired, List.map_append, List.mem_append]
    exact .inl (.inl (.inl isExact))
  · exact r.extra_not_exact (mem_unpairedRight.mp isExtra).1 isExact

end Reconciliation

namespace ContentInput

variable (platform : Platform) (input : ContentInput)

/-- The bodies of a group on the source, in the order of the keys. -/
def sourceBodies (group : String × String × MetadataFingerprint) : List String :=
  (groupOf (input.sourceProfile platform) input.sources group).map input.sourceBody

/-- The bodies of a group on the destination, in the order of the keys. -/
def destBodies (group : String × String × MetadataFingerprint) : List String :=
  (groupOf (input.destProfile platform) input.destinations group).map input.destBody

/-- Every group has the same bodies on both sides, as often. -/
def SameBodies : Prop :=
  ∀ group, (input.sourceBodies platform group).Perm (input.destBodies platform group)

/-- Some message of the source has the identity of one of the destination, and neither has a
date and a size. -/
def HasBarePair : Prop :=
  BarePair (input.sourceProfile platform) (input.destProfile platform) input.sources
    input.destinations

/-- The messages of the groups are content matches: verification returns, its classes have them
all as matched, no record names one of them, and it counts no changed message. -/
def MatchesCopies : Prop :=
  ∃ state, input.refineByContent platform = .ok state ∧
    detectMismatchesWithContentFingerprints platform input =
      .ok (state.log.mismatches, state.summary) ∧
    (∀ key ∈ input.sources, (input.sourceProfile platform key).exactClass.isSome = true →
      key ∈ state.membership.matchedSource ∧
        ∀ mismatch ∈ state.log.mismatches, mismatch.classification.2.1 ≠ some key) ∧
    (∀ key ∈ input.destinations, (input.destProfile platform key).exactClass.isSome = true →
      key ∈ state.membership.matchedDestination ∧
        ∀ mismatch ∈ state.log.mismatches, mismatch.classification.2.2 ≠ some key) ∧
    state.summary.changedCount = 0

variable {platform input}

theorem SameBodies.sameSizes (same : input.SameBodies platform) :
    SameSizes (input.sourceProfile platform) (input.destProfile platform) input.sources
      input.destinations := by
  intro group
  have lengths := (same group).length_eq
  rwa [sourceBodies, destBodies, List.length_map, List.length_map] at lengths

/-- Groups with the same bodies are found to match exactly when the bodies come in the same order
on both sides and no pair of messages without metadata has one identity. -/
theorem copies_match_iff (covered : input.Covered) (budgets : input.WithinBudgets platform)
    (same : input.SameBodies platform) :
    input.MatchesCopies platform ↔
      (∀ group, input.sourceBodies platform group = input.destBodies platform group) ∧
        ¬input.HasBarePair platform := by
  have sizes := same.sameSizes
  have accepted := (input.refineByContent_ok_iff platform).mpr ⟨covered, budgets, rfl⟩
  have detected := (input.detect_ok_iff platform).mpr ⟨covered, budgets, rfl⟩
  have agreement : (input.reconciliation platform).differing input.sourceBody input.destBody = [] ↔
      ∀ group, input.sourceBodies platform group = input.destBodies platform group :=
    Reconciliation.differing_eq_nil_iff sizes
  have others : (input.reconciliation platform).changed ++
      (input.reconciliation platform).misplaced = [] ↔ ¬input.HasBarePair platform :=
    Reconciliation.other_pairs_iff sizes
  rw [← agreement, ← others]
  constructor
  · rintro ⟨state, refined, -, sources, destinations, unchanged⟩
    rw [accepted] at refined
    cases refined
    have noDifference : ((input.reconciliation platform).changed ++
        (input.reconciliation platform).misplaced ++
        (input.reconciliation platform).differing input.sourceBody input.destBody) = [] :=
      List.length_eq_zero_iff.mp unchanged
    exact (List.append_eq_nil_iff.mp noDifference).symm
  · rintro ⟨agree, noOthers⟩
    have matched := Reconciliation.groupsMatched sizes agree
    have records := input.contentMismatchList_classification platform
    refine ⟨_, accepted, detected, ?_, ?_, ?_⟩
    · intro key isSource grouped
      refine ⟨List.mem_toFinset.mpr (matched.source key isSource grouped), ?_⟩
      intro mismatch isMember named
      apply Reconciliation.not_named_source agree
        (Reconciliation.mem_exact_of_source sizes isSource grouped)
      rw [List.mem_filterMap]
      exact ⟨mismatch.classification, records.subset (List.mem_map_of_mem isMember), named⟩
    · intro key isDestination grouped
      refine ⟨List.mem_toFinset.mpr (matched.destination key isDestination grouped), ?_⟩
      intro mismatch isMember named
      apply Reconciliation.not_named_destination agree
        (Reconciliation.mem_exact_of_destination sizes isDestination grouped)
      rw [List.mem_filterMap]
      exact ⟨mismatch.classification, records.subset (List.mem_map_of_mem isMember), named⟩
    · have noDifference : ((input.reconciliation platform).changed ++
          (input.reconciliation platform).misplaced ++
          (input.reconciliation platform).differing input.sourceBody input.destBody) = [] := by
        rw [noOthers, agree]
        rfl
      exact List.length_eq_zero_iff.mpr noDifference

end ContentInput

/-- A message that stands twice in a folder of both sides. -/
def twoCopies : ReconciliationInput where
  jobId := "job"
  runId := "run"
  sourceMessages :=
    [⟨⟨"INBOX", none, "1"⟩, comparableMessage⟩,
      ⟨⟨"INBOX", none, "2"⟩, comparableMessage⟩].toAList
  destMessages :=
    [⟨⟨"INBOX", none, "7"⟩, comparableMessage⟩,
      ⟨⟨"INBOX", none, "8"⟩, comparableMessage⟩].toAList
  folderMapping := [].toAList

/-- The copies have different bodies, and the destination has the given ones. -/
def storedCopies (first second : String) : ContentInput where
  toReconciliationInput := twoCopies
  sourceFingerprints :=
    [⟨⟨"INBOX", none, "1"⟩, "body 1"⟩, ⟨⟨"INBOX", none, "2"⟩, "body 2"⟩].toAList
  destFingerprints :=
    [⟨⟨"INBOX", none, "7"⟩, first⟩, ⟨⟨"INBOX", none, "8"⟩, second⟩].toAList

theorem storedCopies_covered (first second : String) : (storedCopies first second).Covered :=
  ⟨.of_keys rfl, .of_keys rfl⟩

/-- The one group of the copies. -/
def copiesGroup : String × String × MetadataFingerprint :=
  ("<a@example.org>", "INBOX", ⟨.raw "d", 5⟩)

theorem storedCopies_sourceBodies (first second : String)
    (group : String × String × MetadataFingerprint) :
    (storedCopies first second).sourceBodies plainPlatform group =
      if group = copiesGroup then ["body 1", "body 2"] else [] := by
  have grouped : ∀ key ∈ twoCopies.sources,
      (twoCopies.sourceProfile plainPlatform key).exactClass = some copiesGroup := by
    decide
  have sources : twoCopies.sources = [⟨"INBOX", none, "1"⟩, ⟨"INBOX", none, "2"⟩] := by
    decide
  calc (storedCopies first second).sourceBodies plainPlatform group
    _ = (groupOf (twoCopies.sourceProfile plainPlatform) twoCopies.sources group).map
          (storedCopies first second).sourceBody := rfl
    _ = _ := by
      rw [groupOf_single grouped, sources]
      split <;> rfl

theorem storedCopies_destBodies (first second : String)
    (group : String × String × MetadataFingerprint) :
    (storedCopies first second).destBodies plainPlatform group =
      if group = copiesGroup then [first, second] else [] := by
  have grouped : ∀ key ∈ twoCopies.destinations,
      (twoCopies.destProfile plainPlatform key).exactClass = some copiesGroup := by
    decide
  have destinations :
      twoCopies.destinations = [⟨"INBOX", none, "7"⟩, ⟨"INBOX", none, "8"⟩] := by
    decide
  calc (storedCopies first second).destBodies plainPlatform group
    _ = (groupOf (twoCopies.destProfile plainPlatform) twoCopies.destinations group).map
          (storedCopies first second).destBody := rfl
    _ = _ := by
      rw [groupOf_single grouped, destinations]
      split <;> rfl

/-- Bodies in the same order are found to match. -/
theorem copies_in_order_match :
    (storedCopies "body 1" "body 2").MatchesCopies plainPlatform := by
  have sameOrder : ∀ group, (storedCopies "body 1" "body 2").sourceBodies plainPlatform group =
      (storedCopies "body 1" "body 2").destBodies plainPlatform group := by
    intro group
    rw [storedCopies_sourceBodies, storedCopies_destBodies]
  have measured : ∀ key ∈ twoCopies.sources,
      (twoCopies.sourceProfile plainPlatform key).metadata ≠ none := by
    decide
  apply (ContentInput.copies_match_iff (storedCopies_covered _ _)
    ⟨⟨by decide, by decide⟩, by decide⟩ fun group => .of_eq (sameOrder group)).mpr
  exact ⟨sameOrder, fun ⟨key, isSource, _, _, bare, _⟩ => measured key isSource bare⟩

/-- Bodies in another order are not found to match. -/
theorem crossed_copies_reported :
    ¬∀ (platform : Platform) (input : ContentInput), input.Covered →
      input.WithinBudgets platform → input.SameBodies platform →
        input.MatchesCopies platform := by
  intro always
  have sameBodies : (storedCopies "body 2" "body 1").SameBodies plainPlatform := by
    intro group
    rw [storedCopies_sourceBodies, storedCopies_destBodies]
    split
    · exact List.Perm.swap _ _ _
    · exact List.Perm.refl _
  have covered := storedCopies_covered "body 2" "body 1"
  have budgets : (storedCopies "body 2" "body 1").WithinBudgets plainPlatform :=
    ⟨⟨by decide, by decide⟩, by decide⟩
  obtain ⟨state, refined, -, -, -, unchanged⟩ := always _ _ covered budgets sameBodies
  obtain ⟨-, -, rfl⟩ := (ContentInput.refineByContent_ok_iff _ _).mp refined
  exact absurd unchanged (by decide)

end MailSwiftSync
