import MailSwiftSync.Foundation.HashJoin
import MailSwiftSync.Verification.Mismatch

/-!
# What reconciliation computes

An abstract account of the passes, independent of how they are carried out.
Messages are compared through their profile only: the RFC identity, the folder
on the destination side and the compared metadata.  The passes are four
classwise matchings, each on what the earlier ones left over, so the result is
unique up to order and every message ends in exactly one class.
-/

namespace MailSwiftSync

open Foundation

universe u

variable {σ δ ι φ μ κ : Type u}

/-- What matching may look at. -/
@[ext]
structure Profile (ι φ μ : Type u) where
  identity : Option ι
  folder : φ
  metadata : Option μ
deriving DecidableEq

namespace Profile

/-- Same identity, folder and metadata. -/
def exactClass (profile : Profile ι φ μ) : Option (ι × φ × μ) :=
  profile.identity.bind fun identity =>
    (profile.metadata.map (Prod.mk profile.folder)).map (Prod.mk identity)

/-- Same identity and folder. -/
def changedClass (profile : Profile ι φ μ) : Option (ι × φ) :=
  profile.identity.bind fun identity => (some profile.folder).map (Prod.mk identity)

/-- Same identity and metadata; absent metadata agrees with absent metadata. -/
def looseClass (profile : Profile ι φ μ) : Option (ι × Option μ) :=
  profile.identity.bind fun identity => (some profile.metadata).map (Prod.mk identity)

/-- Same identity and metadata, both present. -/
def strictClass (profile : Profile ι φ μ) : Option (ι × μ) :=
  profile.identity.bind fun identity => profile.metadata.map (Prod.mk identity)

/-- Same folder and metadata, whatever the identity. -/
def probableClass (profile : Profile ι φ μ) : Option (φ × μ) :=
  profile.metadata.map (Prod.mk profile.folder)

/-! ### When two profiles share a class -/

theorem exactClass_isSome (profile : Profile ι φ μ) :
    profile.exactClass.isSome = (profile.identity.isSome && profile.metadata.isSome) := by
  rcases profile with ⟨_ | _, _, _ | _⟩ <;> rfl

variable {profile other : Profile ι φ μ}

theorem exactClass_eq_iff (classified : profile.exactClass.isSome) :
    other.exactClass = profile.exactClass ↔ other.identity = profile.identity ∧
      other.folder = profile.folder ∧ other.metadata = profile.metadata := by
  rcases profile with ⟨_ | identity, folder, _ | metadata⟩
  · cases classified
  · cases classified
  · cases classified
  · rcases other with ⟨_ | identity', folder', _ | metadata'⟩ <;> simp [exactClass]

theorem changedClass_isSome (profile : Profile ι φ μ) :
    profile.changedClass.isSome = profile.identity.isSome := by
  rcases profile with ⟨_ | _, _, _⟩ <;> rfl

theorem changedClass_eq_iff (classified : profile.changedClass.isSome) :
    other.changedClass = profile.changedClass ↔
      other.identity = profile.identity ∧ other.folder = profile.folder := by
  rcases profile with ⟨_ | identity, folder, metadata⟩
  · cases classified
  · rcases other with ⟨_ | identity', folder', metadata'⟩ <;> simp [changedClass]

theorem probableClass_isSome (profile : Profile ι φ μ) :
    profile.probableClass.isSome = profile.metadata.isSome := by
  rcases profile with ⟨_, _, _ | _⟩ <;> rfl

theorem probableClass_eq_iff (classified : profile.probableClass.isSome) :
    other.probableClass = profile.probableClass ↔
      other.folder = profile.folder ∧ other.metadata = profile.metadata := by
  rcases profile with ⟨identity, folder, _ | metadata⟩
  · cases classified
  · rcases other with ⟨identity', folder', _ | metadata'⟩ <;> simp [probableClass]

theorem strictClass_isSome (profile : Profile ι φ μ) :
    profile.strictClass.isSome = (profile.identity.isSome && profile.metadata.isSome) := by
  rcases profile with ⟨_ | _, _, _ | _⟩ <;> rfl

theorem strictClass_eq_iff (classified : profile.strictClass.isSome) :
    other.strictClass = profile.strictClass ↔
      other.identity = profile.identity ∧ other.metadata = profile.metadata := by
  rcases profile with ⟨_ | identity, folder, _ | metadata⟩
  · cases classified
  · cases classified
  · cases classified
  · rcases other with ⟨_ | identity', folder', _ | metadata'⟩ <;> simp [strictClass]

theorem looseClass_isSome (profile : Profile ι φ μ) :
    profile.looseClass.isSome = profile.identity.isSome := by
  rcases profile with ⟨_ | _, _, _⟩ <;> rfl

theorem looseClass_eq_iff (classified : profile.looseClass.isSome) :
    other.looseClass = profile.looseClass ↔
      other.identity = profile.identity ∧ other.metadata = profile.metadata := by
  rcases profile with ⟨_ | identity, folder, metadata⟩
  · cases classified
  · rcases other with ⟨_ | identity', folder', metadata'⟩ <;> simp [looseClass]

end Profile

variable [DecidableEq σ] [DecidableEq δ] [DecidableEq ι] [LinearOrder φ] [DecidableEq μ]
  [DecidableEq κ]

/-- The pairs of the four passes over two ordered message lists: identical
messages, changed messages in their folder, messages in a wrong folder, and
messages paired by unique metadata alone. -/
structure Reconciliation (placement : Profile ι φ μ → Option κ)
    (sourceProfile : σ → Profile ι φ μ) (destProfile : δ → Profile ι φ μ)
    (sources : List σ) (destinations : List δ) where
  exact : List (σ × δ)
  changed : List (σ × δ)
  misplaced : List (σ × δ)
  probable : List (σ × δ)
  exactPairs : Classwise Matcher.fifo (fun s => (sourceProfile s).exactClass)
    (fun d => (destProfile d).exactClass) sources destinations exact
  changedPairs : Classwise Matcher.fifo (fun s => (sourceProfile s).changedClass)
    (fun d => (destProfile d).changedClass) (unpairedLeft exact sources)
    (unpairedRight exact destinations) changed
  misplacedPairs : Classwise
    (Matcher.nearest (fun s => (sourceProfile s).folder) fun d => (destProfile d).folder)
    (fun s => placement (sourceProfile s)) (fun d => placement (destProfile d))
    (unpairedLeft (exact ++ changed) sources)
    (unpairedRight (exact ++ changed) destinations) misplaced
  probablePairs : Classwise Matcher.single (fun s => (sourceProfile s).probableClass)
    (fun d => (destProfile d).probableClass)
    (unpairedLeft (exact ++ changed ++ misplaced) sources)
    (unpairedRight (exact ++ changed ++ misplaced) destinations) probable

namespace Reconciliation

variable {placement : Profile ι φ μ → Option κ} {sourceProfile : σ → Profile ι φ μ}
  {destProfile : δ → Profile ι φ μ} {sources : List σ} {destinations : List δ}

/-- All pairs. -/
def paired (r : Reconciliation placement sourceProfile destProfile sources destinations) :
    List (σ × δ) :=
  r.exact ++ r.changed ++ r.misplaced ++ r.probable

/-- Sources without a partner. -/
def missing (r : Reconciliation placement sourceProfile destProfile sources destinations) :
    List σ :=
  unpairedLeft r.paired sources

/-- Destinations without a partner. -/
def surplus (r : Reconciliation placement sourceProfile destProfile sources destinations) :
    List δ :=
  unpairedRight r.paired destinations

omit [DecidableEq σ] [DecidableEq δ] [LinearOrder φ] [DecidableEq μ] in
/-- A destination whose identity exists on the source but occurs more often on the
destination. -/
def Duplicate (sourceProfile : σ → Profile ι φ μ) (destProfile : δ → Profile ι φ μ)
    (sources : List σ) (destinations : List δ) (d : δ) : Prop :=
  ∃ identity, (destProfile d).identity = some identity ∧
    0 < (ofClass (fun s => (sourceProfile s).identity) identity sources).length ∧
    (ofClass (fun s => (sourceProfile s).identity) identity sources).length <
      (ofClass (fun d => (destProfile d).identity) identity destinations).length

instance (d : δ) : Decidable (Duplicate sourceProfile destProfile sources destinations d) :=
  match identified : (destProfile d).identity with
  | none => isFalse fun ⟨identity, isIdentity, _⟩ => by simp [identified] at isIdentity
  | some identity =>
    decidable_of_iff
      (0 < (ofClass (fun s => (sourceProfile s).identity) identity sources).length ∧
        (ofClass (fun s => (sourceProfile s).identity) identity sources).length <
          (ofClass (fun d => (destProfile d).identity) identity destinations).length)
      (by simp [Duplicate, identified])

/-- Surplus copies of an identity that the source has. -/
def duplicated
    (r : Reconciliation placement sourceProfile destProfile sources destinations) : List δ :=
  r.surplus.filter (Duplicate sourceProfile destProfile sources destinations ·)

/-- All other surplus destinations. -/
def extra (r : Reconciliation placement sourceProfile destProfile sources destinations) :
    List δ :=
  r.surplus.filter (¬Duplicate sourceProfile destProfile sources destinations ·)

/-- The mismatch records, by kind and members. -/
def records (r : Reconciliation placement sourceProfile destProfile sources destinations) :
    List (MismatchType × Option σ × Option δ) :=
  r.changed.map (fun pair => (.messageIdOnly, some pair.1, some pair.2)) ++
    r.misplaced.map (fun pair => (.presentWrongFolder, some pair.1, some pair.2)) ++
    r.missing.map (fun s => (.missing, some s, none)) ++
    r.duplicated.map (fun d => (.duplicated, none, some d)) ++
    r.extra.map (fun d => (.extra, none, some d))

section Records

variable (r : Reconciliation placement sourceProfile destProfile sources destinations)

theorem records_changed :
    r.records.filter (·.1 ∈ [.messageIdOnly, .presentWrongFolder]) =
      r.changed.map (fun pair => (.messageIdOnly, some pair.1, some pair.2)) ++
        r.misplaced.map fun pair => (.presentWrongFolder, some pair.1, some pair.2) := by
  simp [records, List.filter_append, List.filter_map, Function.comp_def]

theorem records_missing :
    r.records.filter (·.1 ∈ [.missing]) = r.missing.map fun s => (.missing, some s, none) := by
  simp [records, List.filter_append, List.filter_map, Function.comp_def]

theorem records_duplicated :
    r.records.filter (·.1 ∈ [.duplicated]) =
      r.duplicated.map fun d => (.duplicated, none, some d) := by
  simp [records, List.filter_append, List.filter_map, Function.comp_def]

theorem records_extra :
    r.records.filter (·.1 ∈ [.extra]) = r.extra.map fun d => (.extra, none, some d) := by
  simp [records, List.filter_append, List.filter_map, Function.comp_def]

/-- The sources that some record names. -/
theorem records_sources :
    r.records.filterMap (fun record => record.2.1) =
      r.changed.map Prod.fst ++ r.misplaced.map Prod.fst ++ r.missing := by
  simp [records, List.filterMap_append, List.filterMap_map]

/-- The destinations that some record names. -/
theorem records_destinations :
    r.records.filterMap (fun record => record.2.2) =
      r.changed.map Prod.snd ++ r.misplaced.map Prod.snd ++ (r.duplicated ++ r.extra) := by
  simp [records, List.filterMap_append, List.filterMap_map]

end Records

theorem mem_duplicated
    (r : Reconciliation placement sourceProfile destProfile sources destinations) {d : δ} :
    d ∈ r.duplicated ↔ d ∈ r.surplus ∧
      Duplicate sourceProfile destProfile sources destinations d := by
  rw [duplicated, List.mem_filter, decide_eq_true_eq]

theorem mem_extra
    (r : Reconciliation placement sourceProfile destProfile sources destinations) {d : δ} :
    d ∈ r.extra ↔ d ∈ r.surplus ∧
      ¬Duplicate sourceProfile destProfile sources destinations d := by
  rw [extra, List.mem_filter, decide_eq_true_eq]

theorem duplicated_nodup
    (r : Reconciliation placement sourceProfile destProfile sources destinations)
    (nodup : destinations.Nodup) : r.duplicated.Nodup :=
  (nodup.filter _).filter _

/-! ## The result is unique -/

section Unique

variable (r r' : Reconciliation placement sourceProfile destProfile sources destinations)

theorem exact_perm : r.exact.Perm r'.exact :=
  r.exactPairs.unique r'.exactPairs

theorem changed_perm : r.changed.Perm r'.changed := by
  have left := unpairedLeft_congr (r.exact_perm r') sources
  have right := unpairedRight_congr (r.exact_perm r') destinations
  apply r.changedPairs.unique
  rw [left, right]
  exact r'.changedPairs

theorem misplaced_perm : r.misplaced.Perm r'.misplaced := by
  have earlier := (r.exact_perm r').append (r.changed_perm r')
  have left := unpairedLeft_congr earlier sources
  have right := unpairedRight_congr earlier destinations
  apply r.misplacedPairs.unique
  rw [left, right]
  exact r'.misplacedPairs

theorem probable_perm : r.probable.Perm r'.probable := by
  have earlier := ((r.exact_perm r').append (r.changed_perm r')).append (r.misplaced_perm r')
  have left := unpairedLeft_congr earlier sources
  have right := unpairedRight_congr earlier destinations
  apply r.probablePairs.unique
  rw [left, right]
  exact r'.probablePairs

theorem paired_perm : r.paired.Perm r'.paired :=
  (((r.exact_perm r').append (r.changed_perm r')).append (r.misplaced_perm r')).append
    (r.probable_perm r')

theorem missing_eq : r.missing = r'.missing :=
  unpairedLeft_congr (r.paired_perm r') sources

theorem surplus_eq : r.surplus = r'.surplus :=
  unpairedRight_congr (r.paired_perm r') destinations

theorem duplicated_eq : r.duplicated = r'.duplicated := by
  rw [duplicated, duplicated, r.surplus_eq r']

theorem extra_eq : r.extra = r'.extra := by
  rw [extra, extra, r.surplus_eq r']

/-- Two reconciliations of the same messages have the same mismatch records. -/
theorem records_perm : r.records.Perm r'.records := by
  rw [records, records, r.missing_eq r', r.duplicated_eq r', r.extra_eq r']
  exact (((((r.changed_perm r').map _).append ((r.misplaced_perm r').map _)).append
    (.refl _)).append (.refl _)).append (.refl _)

end Unique

/-! ## Every message has one class -/

section Partition

variable (r : Reconciliation placement sourceProfile destProfile sources destinations)

theorem paired_sources_subset : r.paired.map Prod.fst ⊆ sources := by
  intro s membership
  obtain ⟨pair, inPairs, rfl⟩ := List.mem_map.mp membership
  simp only [paired, List.mem_append] at inPairs
  rcases inPairs with ((inExact | inChanged) | inMisplaced) | inProbable
  · exact r.exactPairs.mem_left inExact
  · exact (mem_unpairedLeft.mp (r.changedPairs.mem_left inChanged)).1
  · exact (mem_unpairedLeft.mp (r.misplacedPairs.mem_left inMisplaced)).1
  · exact (mem_unpairedLeft.mp (r.probablePairs.mem_left inProbable)).1

theorem paired_destinations_subset : r.paired.map Prod.snd ⊆ destinations := by
  intro d membership
  obtain ⟨pair, inPairs, rfl⟩ := List.mem_map.mp membership
  simp only [paired, List.mem_append] at inPairs
  rcases inPairs with ((inExact | inChanged) | inMisplaced) | inProbable
  · exact r.exactPairs.mem_right inExact
  · exact (mem_unpairedRight.mp (r.changedPairs.mem_right inChanged)).1
  · exact (mem_unpairedRight.mp (r.misplacedPairs.mem_right inMisplaced)).1
  · exact (mem_unpairedRight.mp (r.probablePairs.mem_right inProbable)).1

theorem paired_sources_nodup (nodup : sources.Nodup) : (r.paired.map Prod.fst).Nodup := by
  have exactNodup := r.exactPairs.nodup_left nodup
  have changedNodup := nodup_append_left exactNodup
    (r.changedPairs.nodup_left (nodup.filter _)) fun _ => r.changedPairs.mem_left
  have misplacedNodup := nodup_append_left changedNodup
    (r.misplacedPairs.nodup_left (nodup.filter _)) fun _ => r.misplacedPairs.mem_left
  exact nodup_append_left misplacedNodup
    (r.probablePairs.nodup_left (nodup.filter _)) fun _ => r.probablePairs.mem_left

theorem paired_destinations_nodup (nodup : destinations.Nodup) :
    (r.paired.map Prod.snd).Nodup := by
  have exactNodup := r.exactPairs.nodup_right nodup
  have changedNodup := nodup_append_right exactNodup
    (r.changedPairs.nodup_right (nodup.filter _)) fun _ => r.changedPairs.mem_right
  have misplacedNodup := nodup_append_right changedNodup
    (r.misplacedPairs.nodup_right (nodup.filter _)) fun _ => r.misplacedPairs.mem_right
  exact nodup_append_right misplacedNodup
    (r.probablePairs.nodup_right (nodup.filter _)) fun _ => r.probablePairs.mem_right

/-- Sources are exactly those paired by some pass and those missing. -/
theorem sources_perm (nodup : sources.Nodup) :
    sources.Perm (r.exact.map Prod.fst ++ r.changed.map Prod.fst ++
      r.misplaced.map Prod.fst ++ r.probable.map Prod.fst ++ r.missing) := by
  simpa [paired, missing] using
    perm_unpairedLeft nodup (r.paired_sources_nodup nodup) r.paired_sources_subset

theorem surplus_perm : r.surplus.Perm (r.duplicated ++ r.extra) := by
  have split := List.filter_append_perm
    (fun d => decide (Duplicate sourceProfile destProfile sources destinations d)) r.surplus
  simpa [duplicated, extra] using split.symm

/-- Destinations are exactly those paired by some pass, duplicates and extras. -/
theorem destinations_perm (nodup : destinations.Nodup) :
    destinations.Perm (r.exact.map Prod.snd ++ r.changed.map Prod.snd ++
      r.misplaced.map Prod.snd ++ r.probable.map Prod.snd ++ (r.duplicated ++ r.extra)) := by
  have split : destinations.Perm (r.paired.map Prod.snd ++ r.surplus) :=
    perm_unpairedRight nodup (r.paired_destinations_nodup nodup)
      r.paired_destinations_subset
  simpa [paired] using split.trans (r.surplus_perm.append_left _)

/-- A record's source is one of the sources. -/
theorem source_of_record (nodup : sources.Nodup)
    {record : MismatchType × Option σ × Option δ} (membership : record ∈ r.records) {s : σ}
    (named : record.2.1 = some s) : s ∈ sources := by
  have inRecords : s ∈ r.records.filterMap fun record => record.2.1 :=
    List.mem_filterMap.mpr ⟨record, membership, named⟩
  rw [r.records_sources] at inRecords
  rw [(r.sources_perm nodup).mem_iff]
  simp only [List.mem_append] at inRecords ⊢
  tauto

/-- A record's destination is one of the destinations. -/
theorem destination_of_record (nodup : destinations.Nodup)
    {record : MismatchType × Option σ × Option δ} (membership : record ∈ r.records) {d : δ}
    (named : record.2.2 = some d) : d ∈ destinations := by
  have inRecords : d ∈ r.records.filterMap fun record => record.2.2 :=
    List.mem_filterMap.mpr ⟨record, membership, named⟩
  rw [r.records_destinations] at inRecords
  rw [(r.destinations_perm nodup).mem_iff]
  simp only [List.mem_append] at inRecords ⊢
  tauto

/-- The classes of the sources, listed: exact, probable, missing, changed. -/
def sourceClasses : List (List σ) :=
  [r.exact.map Prod.fst, r.probable.map Prod.fst, r.missing,
    (r.changed ++ r.misplaced).map Prod.fst]

/-- The classes of the destinations, listed: exact, probable, extra, duplicated,
changed. -/
def destinationClasses : List (List δ) :=
  [r.exact.map Prod.snd, r.probable.map Prod.snd, r.extra, r.duplicated,
    (r.changed ++ r.misplaced).map Prod.snd]

theorem sourceClasses_perm (nodup : sources.Nodup) :
    sources.Perm r.sourceClasses.flatten := by
  refine (r.sources_perm nodup).trans ?_
  rw [List.perm_iff_count]
  intro s
  simp only [sourceClasses, List.flatten_cons, List.flatten_nil, List.map_append,
    List.count_append, List.count_nil]
  omega

theorem destinationClasses_perm (nodup : destinations.Nodup) :
    destinations.Perm r.destinationClasses.flatten := by
  refine (r.destinations_perm nodup).trans ?_
  rw [List.perm_iff_count]
  intro d
  simp only [destinationClasses, List.flatten_cons, List.flatten_nil, List.map_append,
    List.count_append, List.count_nil]
  omega

/-- No source is named by two records. -/
theorem records_sources_nodup (nodup : sources.Nodup) :
    (r.records.filterMap fun record => record.2.1).Nodup := by
  rw [r.records_sources]
  apply List.Nodup.sublist _ ((r.sources_perm nodup).nodup nodup)
  simp only [List.append_assoc]
  exact ((List.sublist_append_right _ _).append_left _ |>.append_left _).trans
    (List.sublist_append_right _ _)

/-- No destination is named by two records. -/
theorem records_destinations_nodup (nodup : destinations.Nodup) :
    (r.records.filterMap fun record => record.2.2).Nodup := by
  rw [r.records_destinations]
  apply List.Nodup.sublist _ ((r.destinations_perm nodup).nodup nodup)
  simp only [List.append_assoc]
  exact ((List.sublist_append_right _ _).append_left _ |>.append_left _).trans
    (List.sublist_append_right _ _)

end Partition

end Reconciliation

end MailSwiftSync
