import Mathlib.Data.List.DropRight
import MailSwiftSync.Foundation.Reordering
import MailSwiftSync.Verification.Renaming

/-!
# Reconciling reordered sources

Sources are served in their order, so another order may leave other sources over.
The choice is between interchangeable sources, and the counters do not depend on it,
unless sources of one identity compete for too few destinations while they differ in
metadata or folder.
-/

namespace MailSwiftSync

open Foundation

universe u

variable {α β σ δ ι φ μ κ τ : Type u} [DecidableEq ι] [LinearOrder φ] [DecidableEq μ]

/-! ## When order matters -/

section Condition

variable (profile : α → Profile ι φ μ) (items : List α) (profile' : β → Profile ι φ μ)
  (others : List β)

/-- Some copy of an item has no identical partner on the other side. -/
def Spare (item : α) : Prop :=
  (profile item).metadata.isSome →
    (others.filter fun other => profile' other = profile item).length <
      (items.filter fun other => profile other = profile item).length

/-- The other side has fewer messages of the item's identity in the item's folder. -/
def Crowded (item : α) : Prop :=
  (others.filter fun other =>
      (profile' other).changedClass = (profile item).changedClass).length <
    (items.filter fun other =>
      (profile other).changedClass = (profile item).changedClass).length

/-- A spare copy in a crowded folder. -/
def Stranded (item : α) : Prop :=
  Crowded profile items profile' others item ∧ Spare profile items profile' others item

instance (item : α) : Decidable (Spare profile items profile' others item) :=
  inferInstanceAs (Decidable (_ → _))

instance (item : α) : Decidable (Crowded profile items profile' others item) :=
  inferInstanceAs (Decidable (_ < _))

instance (item : α) : Decidable (Stranded profile items profile' others item) :=
  inferInstanceAs (Decidable (_ ∧ _))

/-- A message that the exact pass leaves over: a later copy than it has identical
partners. -/
def ExactLeft (item : α) : Prop :=
  (profile item).metadata.isSome →
    item ∈ (items.filter fun other => profile other = profile item).drop
      (others.filter fun other => profile' other = profile item).length

instance [DecidableEq α] (item : α) : Decidable (ExactLeft profile items profile' others item) :=
  inferInstanceAs (Decidable (_ → _))

/-- A message that the exact and the changed pass leave over: among the last of its
identity and folder, as many as the other side has fewer. -/
def LeftOver [DecidableEq α] (item : α) : Prop :=
  item ∈ (items.filter fun other =>
      (profile other).changedClass = (profile item).changedClass ∧
        ExactLeft profile items profile' others other).rtake
    ((items.filter fun other =>
        (profile other).changedClass = (profile item).changedClass).length -
      (others.filter fun other =>
        (profile' other).changedClass = (profile item).changedClass).length)

instance [DecidableEq α] (item : α) : Decidable (LeftOver profile items profile' others item) :=
  inferInstanceAs (Decidable (_ ∈ _))

end Condition

/-- Sources that compete for destinations are interchangeable: stranded copies of an
identity in one folder have the same metadata when the folder has a spare destination,
and stranded copies of an identity with the same metadata are expected in one folder
when such a destination is left over in another. -/
structure Repeatable [DecidableEq δ] (sourceProfile : σ → Profile ι φ μ)
    (destProfile : δ → Profile ι φ μ) (sources : List σ) (destinations : List δ) : Prop where
  changed : ∀ s ∈ sources, ∀ s' ∈ sources, ∀ d ∈ destinations,
    (sourceProfile s).identity.isSome →
    (sourceProfile s').changedClass = (sourceProfile s).changedClass →
    (destProfile d).changedClass = (sourceProfile s).changedClass →
    Stranded sourceProfile sources destProfile destinations s →
    Stranded sourceProfile sources destProfile destinations s' →
    Spare destProfile destinations sourceProfile sources d →
      (sourceProfile s').metadata = (sourceProfile s).metadata
  misplaced : ∀ s ∈ sources, ∀ s' ∈ sources, ∀ d ∈ destinations,
    (sourceProfile s).strictClass.isSome →
    (sourceProfile s').strictClass = (sourceProfile s).strictClass →
    (destProfile d).strictClass = (sourceProfile s).strictClass →
    Stranded sourceProfile sources destProfile destinations s →
    Stranded sourceProfile sources destProfile destinations s' →
    LeftOver destProfile destinations sourceProfile sources d →
      (sourceProfile s').folder = (sourceProfile s).folder

section Map

variable {γ γ' : Type u} {profile : α → Profile ι φ μ} {items : List α}
  {profile' : β → Profile ι φ μ} {others : List β} {renamed : γ → Profile ι φ μ}
  {renamed' : γ' → Profile ι φ μ} {a : α → γ} {b : β → γ'}

theorem spare_map (same : ∀ item, renamed (a item) = profile item)
    (same' : ∀ other, renamed' (b other) = profile' other) {item : α} :
    Spare renamed (items.map a) renamed' (others.map b) (a item) ↔
      Spare profile items profile' others item := by
  simp only [Spare, List.filter_map, List.length_map, Function.comp_def, same, same']

omit [DecidableEq μ] in
theorem crowded_map (same : ∀ item, renamed (a item) = profile item)
    (same' : ∀ other, renamed' (b other) = profile' other) {item : α} :
    Crowded renamed (items.map a) renamed' (others.map b) (a item) ↔
      Crowded profile items profile' others item := by
  simp only [Crowded, List.filter_map, List.length_map, Function.comp_def, same, same']

theorem stranded_map (same : ∀ item, renamed (a item) = profile item)
    (same' : ∀ other, renamed' (b other) = profile' other) {item : α} :
    Stranded renamed (items.map a) renamed' (others.map b) (a item) ↔
      Stranded profile items profile' others item :=
  and_congr (crowded_map same same') (spare_map same same')

theorem leftOver_map [DecidableEq α] [DecidableEq γ]
    (same : ∀ item, renamed (a item) = profile item)
    (same' : ∀ other, renamed' (b other) = profile' other)
    (injective : ∀ x ∈ items, ∀ y ∈ items, a x = a y → x = y) {item : α}
    (isItem : item ∈ items) :
    LeftOver renamed (items.map a) renamed' (others.map b) (a item) ↔
      LeftOver profile items profile' others item := by
  have mem_map : ∀ x ∈ items, ∀ {chosen : List α}, chosen ⊆ items →
      (a x ∈ chosen.map a ↔ x ∈ chosen) := by
    intro x isItem chosen subset
    rw [List.mem_map]
    constructor
    · rintro ⟨y, isChosen, equal⟩
      exact injective y (subset isChosen) x isItem equal ▸ isChosen
    · exact fun isChosen => ⟨x, isChosen, rfl⟩
  have exactLeft : ∀ x ∈ items, ExactLeft renamed (items.map a) renamed' (others.map b) (a x) ↔
      ExactLeft profile items profile' others x := by
    intro x isItem
    simp only [ExactLeft, List.filter_map, List.length_map, Function.comp_def, same, same',
      ← List.map_drop]
    rw [mem_map x isItem]
    exact List.Subset.trans (List.drop_subset _ _) (List.filter_subset_self _)
  simp only [LeftOver, List.filter_map, List.length_map, Function.comp_def, same, same',
    List.rtake, ← List.map_drop]
  have kept : (items.filter fun x => (profile x).changedClass = (profile item).changedClass ∧
      ExactLeft renamed (items.map a) renamed' (others.map b) (a x)) =
      items.filter fun x => (profile x).changedClass = (profile item).changedClass ∧
        ExactLeft profile items profile' others x := by
    apply List.filter_congr
    intro x isItem
    rw [decide_eq_decide]
    exact and_congr_right fun _ => exactLeft x isItem
  rw [kept, mem_map item isItem]
  exact List.Subset.trans (List.drop_subset _ _) (List.filter_subset_self _)

/-- Other names for the messages do not matter. -/
theorem Repeatable.map [DecidableEq β] [DecidableEq γ']
    (repeatable : Repeatable profile profile' items others)
    (same : ∀ item, renamed (a item) = profile item)
    (same' : ∀ other, renamed' (b other) = profile' other)
    (injective : ∀ x ∈ others, ∀ y ∈ others, b x = b y → x = y) :
    Repeatable renamed renamed' (items.map a) (others.map b) where
  changed := by
    simp only [List.forall_mem_map, spare_map same' same, stranded_map same same', same,
      same']
    exact repeatable.changed
  misplaced := by
    simp only [List.forall_mem_map, stranded_map same same', same, same']
    intro s isSource s' isSource' d isDest classified sourceClass destClass stranded stranded'
      leftOver
    exact repeatable.misplaced s isSource s' isSource' d isDest classified sourceClass
      destClass stranded stranded' ((leftOver_map same' same injective isDest).mp leftOver)

end Map

namespace Reconciliation

variable [DecidableEq σ] [DecidableEq δ] {sourceProfile : σ → Profile ι φ μ}
  {destProfile : δ → Profile ι φ μ} {sources sources' : List σ} {destinations : List δ}

/-! ## Who is left over -/

section Leftovers

variable (r : Reconciliation Profile.strictClass sourceProfile destProfile sources
  destinations)

omit [DecidableEq σ] [DecidableEq δ] in
/-- Equal profiles are one exact class. -/
theorem filter_eq_ofClass (profile : α → Profile ι φ μ) (items : List α)
    {p : Profile ι φ μ} {c : ι × φ × μ} (isClass : p.exactClass = some c) :
    (items.filter fun item => profile item = p) =
      ofClass (fun item => (profile item).exactClass) c items := by
  apply List.filter_congr
  intro item _
  rw [decide_eq_decide, ← isClass, Profile.exactClass_eq_iff (by simp [isClass])]
  exact Profile.ext_iff

theorem spare_of_unpaired {s : σ} (unpaired : s ∈ unpairedLeft r.exact sources)
    (identified : (sourceProfile s).identity.isSome) :
    Spare sourceProfile sources destProfile destinations s := by
  intro described
  have classified : (sourceProfile s).exactClass.isSome := by
    rw [Profile.exactClass_isSome, identified, described]
    rfl
  obtain ⟨c, isClass⟩ := Option.isSome_iff_exists.mp classified
  rw [filter_eq_ofClass _ _ isClass, filter_eq_ofClass _ _ isClass]
  exact r.exactPairs.outnumbered_left unpaired isClass

/-- The exact pass takes as many sources as destinations of an identity out of a
folder. -/
theorem length_changedClass (nodup : sources.Nodup) (nodup' : destinations.Nodup)
    (c : ι × φ) :
    (ofClass (fun s => (sourceProfile s).changedClass) c sources).length +
        (ofClass (fun d => (destProfile d).changedClass) c
          (unpairedRight r.exact destinations)).length =
      (ofClass (fun d => (destProfile d).changedClass) c destinations).length +
        (ofClass (fun s => (sourceProfile s).changedClass) c
          (unpairedLeft r.exact sources)).length := by
  apply length_ofClass_unpaired nodup nodup' (r.exactPairs.nodup_left nodup)
    (r.exactPairs.nodup_right nodup')
  · intro s membership
    obtain ⟨pair, inPairs, rfl⟩ := List.mem_map.mp membership
    exact r.exactPairs.mem_left inPairs
  · intro d membership
    obtain ⟨pair, inPairs, rfl⟩ := List.mem_map.mp membership
    exact r.exactPairs.mem_right inPairs
  · intro pair inPairs
    have agree := r.exactPairs.agree inPairs
    have classified := r.exactPairs.classified pair inPairs
    obtain ⟨identity, folder, _⟩ := (Profile.exactClass_eq_iff classified).mp agree.symm
    simp only [Profile.changedClass, identity, folder]

omit [DecidableEq σ] [DecidableEq δ] [DecidableEq μ] in
theorem crowded_iff {profile : α → Profile ι φ μ} {items : List α}
    {profile' : β → Profile ι φ μ} {others : List β} {item : α} {c : ι × φ}
    (isClass : (profile item).changedClass = some c) :
    Crowded profile items profile' others item ↔
      (ofClass (fun other => (profile' other).changedClass) c others).length <
        (ofClass (fun other => (profile other).changedClass) c items).length := by
  rw [Crowded, isClass]
  rfl

/-- A source that the changed pass leaves over stands in a crowded folder. -/
theorem crowded_of_unpaired (nodup : sources.Nodup) (nodup' : destinations.Nodup) {s : σ}
    (unpaired : s ∈ unpairedLeft (r.exact ++ r.changed) sources)
    (identified : (sourceProfile s).identity.isSome) :
    Crowded sourceProfile sources destProfile destinations s := by
  rw [← Profile.changedClass_isSome] at identified
  obtain ⟨c, isClass⟩ := Option.isSome_iff_exists.mp identified
  rw [unpairedLeft_append] at unpaired
  have outnumbered := r.changedPairs.outnumbered_left unpaired isClass
  have counts := r.length_changedClass nodup nodup' c
  rw [crowded_iff isClass]
  omega

theorem exactLeft_iff (nodup' : destinations.Nodup) {d : δ} (isDest : d ∈ destinations)
    (identified : (destProfile d).identity.isSome) :
    ExactLeft destProfile destinations sourceProfile sources d ↔
      d ∈ unpairedRight r.exact destinations := by
  cases classOf : (destProfile d).exactClass with
  | none =>
    have undescribed : ¬(destProfile d).metadata.isSome := by
      have classified := congrArg Option.isSome classOf
      rw [Profile.exactClass_isSome, identified, Bool.true_and] at classified
      simp [classified]
    refine iff_of_true (fun described => absurd described undescribed)
      (mem_unpairedRight.mpr ⟨isDest, fun paired => ?_⟩)
    obtain ⟨pair, inPairs, rfl⟩ := List.mem_map.mp paired
    have classified := r.exactPairs.classified pair inPairs
    rw [r.exactPairs.agree inPairs, classOf] at classified
    cases classified
  | some c =>
    have described : (destProfile d).metadata.isSome := by
      have classified := congrArg Option.isSome classOf
      rw [Profile.exactClass_isSome, identified, Bool.true_and] at classified
      exact classified
    rw [r.exactPairs.mem_unpairedRight nodup' classOf, ← filter_eq_ofClass _ _ classOf,
      ← filter_eq_ofClass _ _ classOf]
    exact ⟨fun left => left described, fun last _ => last⟩

theorem spare_of_surplus (nodup' : destinations.Nodup) {d : δ}
    (unpaired : d ∈ unpairedRight r.exact destinations)
    (identified : (destProfile d).identity.isSome) :
    Spare destProfile destinations sourceProfile sources d := by
  intro described
  have last := (r.exactLeft_iff nodup' (mem_unpairedRight.mp unpaired).1 identified).mpr
    unpaired described
  have positive := List.length_pos_of_mem last
  rw [List.length_drop] at positive
  omega

theorem leftOver_of_unpaired (nodup : sources.Nodup) (nodup' : destinations.Nodup) {d : δ}
    (unpaired : d ∈ unpairedRight (r.exact ++ r.changed) destinations)
    (identified : (destProfile d).identity.isSome) :
    LeftOver destProfile destinations sourceProfile sources d := by
  have classified := identified
  rw [← Profile.changedClass_isSome] at classified
  obtain ⟨c, isClass⟩ := Option.isSome_iff_exists.mp classified
  have free : (destinations.filter fun other => (destProfile other).changedClass = some c ∧
      ExactLeft destProfile destinations sourceProfile sources other) =
      ofClass (fun d => (destProfile d).changedClass) c
        (unpairedRight r.exact destinations) := by
    rw [ofClass, unpairedRight, List.filter_filter]
    apply List.filter_congr
    intro other isDest
    rw [← Bool.decide_and, decide_eq_decide]
    refine and_congr_right fun otherClass => ?_
    rw [r.exactLeft_iff nodup' isDest (by
      rw [← Profile.changedClass_isSome, otherClass]
      rfl), mem_unpairedRight]
    exact and_iff_right isDest
  rw [unpairedRight_append,
    r.changedPairs.mem_unpairedRight (nodup'.filter _) isClass] at unpaired
  have counts := r.length_changedClass nodup nodup' c
  rw [LeftOver, isClass, free, List.rtake]
  have drops : (ofClass (fun d => (destProfile d).changedClass) c
      (unpairedRight r.exact destinations)).length -
      ((ofClass (fun d => (destProfile d).changedClass) c destinations).length -
        (ofClass (fun s => (sourceProfile s).changedClass) c sources).length) ≤
      (ofClass (fun s => (sourceProfile s).changedClass) c
        (unpairedLeft r.exact sources)).length := by
    omega
  exact List.drop_subset_drop_left _ drops unpaired

theorem exact_sublist : r.exact.Sublist r.paired := by
  simp only [paired, List.append_assoc]
  exact List.sublist_append_left _ _

theorem changed_sublist : (r.exact ++ r.changed).Sublist r.paired := by
  rw [paired, List.append_assoc]
  exact List.sublist_append_left _ _

end Leftovers

/-! ## The same counters in every order -/

/-- What the passes and the counters see of a source. -/
def kind (sourceProfile : σ → Profile ι φ μ) (tag : σ → τ) (s : σ) : Profile ι φ μ × τ :=
  (sourceProfile s, tag s)

/-- The same messages, with the sources in another order.  Sources are told apart by
their profile and a tag, which an identity determines. -/
structure Reordered (sourceProfile : σ → Profile ι φ μ) (tag : σ → τ)
    (sources sources' : List σ) (destinations : List δ) : Prop where
  perm : (sources.map (kind sourceProfile tag)).Perm
    (sources'.map (kind sourceProfile tag))
  tagged : ∀ s s', (sourceProfile s).identity.isSome →
    sourceProfile s = sourceProfile s' → tag s = tag s'
  nodup : sources.Nodup
  nodup' : sources'.Nodup
  destNodup : destinations.Nodup

section Order

variable {tag : σ → τ}
  (r : Reconciliation Profile.strictClass sourceProfile destProfile sources destinations)
  (r' : Reconciliation Profile.strictClass sourceProfile destProfile sources' destinations)

omit [DecidableEq ι] [LinearOrder φ] [DecidableEq μ] [DecidableEq σ] in
/-- Sources with an identity and the same profile are of one kind. -/
theorem uniform_of_profile
    (tagged : ∀ s s', (sourceProfile s).identity.isSome →
      sourceProfile s = sourceProfile s' → tag s = tag s')
    {items : List σ} (identified : ∀ s ∈ items, (sourceProfile s).identity.isSome)
    (same : ∀ s ∈ items, ∀ s' ∈ items, sourceProfile s = sourceProfile s') :
    Uniform (kind sourceProfile tag) items := by
  intro s membership s' membership'
  have profiles := same s membership s' membership'
  rw [kind, kind, profiles, tagged s s' (identified s membership) profiles]

variable (reordered : Reordered sourceProfile tag sources sources' destinations)

include reordered

/-- Both orders leave the same kinds over once they have served the same kinds. -/
theorem unpairedLeft_kinds {pairs pairs' : List (σ × δ)}
    (same : SameUpToKind (kind sourceProfile tag) pairs pairs')
    (sublist : pairs.Sublist r.paired) (sublist' : pairs'.Sublist r'.paired) :
    ((unpairedLeft pairs sources).map (kind sourceProfile tag)).Perm
      ((unpairedLeft pairs' sources').map (kind sourceProfile tag)) :=
  same.unpairedLeft reordered.perm reordered.nodup reordered.nodup'
    ((r.paired_sources_nodup reordered.nodup).sublist (sublist.map _))
    ((r'.paired_sources_nodup reordered.nodup').sublist (sublist'.map _))
    (fun _ membership => r.paired_sources_subset ((sublist.map _).subset membership))
    fun _ membership => r'.paired_sources_subset ((sublist'.map _).subset membership)

/-- All sources of one exact class are of one kind. -/
theorem exact_sameUpToKind : SameUpToKind (kind sourceProfile tag) r.exact r'.exact := by
  apply r.exactPairs.sameUpToKind r'.exactPairs (kind sourceProfile tag)
    (fun k => k.1.exactClass) fun _ => rfl
  intro c
  apply fifo_sameUpToKind
    (ofClass_kind_perm (fun k => k.1.exactClass) (fun _ => rfl) reordered.perm c)
  refine .inr (.inr (uniform_of_profile reordered.tagged ?_ ?_))
  · intro s membership
    have classified := congrArg Option.isSome (mem_ofClass.mp membership).2
    rw [Profile.exactClass_isSome] at classified
    exact (Bool.and_eq_true_iff.mp classified).1
  · intro s membership s' membership'
    have isClass := (mem_ofClass.mp membership).2
    have isClass' := (mem_ofClass.mp membership').2
    obtain ⟨identity, folder, metadata⟩ := (Profile.exactClass_eq_iff
      (by simp [isClass'])).mp (isClass.trans isClass'.symm)
    exact Profile.ext identity folder metadata

variable (repeatable : Repeatable sourceProfile destProfile sources destinations)

include repeatable

omit reordered in
/-- Sources left over in a crowded folder with a spare destination are of one kind. -/
theorem uniform_changed (destNodup : destinations.Nodup)
    (tagged : ∀ s s', (sourceProfile s).identity.isSome →
      sourceProfile s = sourceProfile s' → tag s = tag s') {c : ι × φ}
    (crowded : (ofClass (fun d => (destProfile d).changedClass) c destinations).length <
      (ofClass (fun s => (sourceProfile s).changedClass) c sources).length)
    {d : δ} (isFree : d ∈ unpairedRight r.exact destinations)
    (isClass : (destProfile d).changedClass = some c) :
    Uniform (kind sourceProfile tag) (ofClass (fun s => (sourceProfile s).changedClass) c
      (unpairedLeft r.exact sources)) := by
  have classOf : ∀ s ∈ ofClass (fun s => (sourceProfile s).changedClass) c
      (unpairedLeft r.exact sources), (sourceProfile s).changedClass = some c :=
    fun s membership => (mem_ofClass.mp membership).2
  have identified : ∀ s ∈ ofClass (fun s => (sourceProfile s).changedClass) c
      (unpairedLeft r.exact sources), (sourceProfile s).identity.isSome := by
    intro s membership
    rw [← Profile.changedClass_isSome, classOf s membership]
    rfl
  apply uniform_of_profile tagged identified
  intro s membership s' membership'
  have sFree := (mem_ofClass.mp membership).1
  have sFree' := (mem_ofClass.mp membership').1
  have sameClass := (classOf s membership).trans (classOf s' membership').symm
  have spare := r.spare_of_surplus destNodup isFree (by
    rw [← Profile.changedClass_isSome, isClass]
    rfl)
  have metadata := repeatable.changed s' (mem_unpairedLeft.mp sFree').1 s
    (mem_unpairedLeft.mp sFree).1 d (mem_unpairedRight.mp isFree).1
    (identified s' membership') sameClass (isClass.trans (classOf s' membership').symm)
    ⟨(crowded_iff (classOf s' membership')).mpr crowded,
      r.spare_of_unpaired sFree' (identified s' membership')⟩
    ⟨(crowded_iff (classOf s membership)).mpr crowded,
      r.spare_of_unpaired sFree (identified s membership)⟩ spare
  obtain ⟨identity, folder⟩ := (Profile.changedClass_eq_iff
    (by simp [classOf s' membership'])).mp sameClass
  exact Profile.ext identity folder metadata

/-- The changed pass serves everybody, nobody, or sources of one kind. -/
theorem changed_sameUpToKind :
    SameUpToKind (kind sourceProfile tag) r.changed r'.changed := by
  have exactSame := r.exact_sameUpToKind r' reordered
  have leftovers := r.unpairedLeft_kinds r' reordered exactSame r.exact_sublist
    r'.exact_sublist
  have matching' := r'.changedPairs
  rw [← exactSame.unpairedRight destinations] at matching'
  apply r.changedPairs.sameUpToKind matching' (kind sourceProfile tag)
    (fun k => k.1.changedClass) fun _ => rfl
  intro c
  apply fifo_sameUpToKind
    (ofClass_kind_perm (fun k => k.1.changedClass) (fun _ => rfl) leftovers c)
  by_cases crowded :
      (ofClass (fun d => (destProfile d).changedClass) c destinations).length <
        (ofClass (fun s => (sourceProfile s).changedClass) c sources).length
  · cases spares : ofClass (fun d => (destProfile d).changedClass) c
        (unpairedRight r.exact destinations) with
    | nil => exact .inr (.inl rfl)
    | cons d rest =>
      have membership : d ∈ ofClass (fun d => (destProfile d).changedClass) c
          (unpairedRight r.exact destinations) := by simp [spares]
      obtain ⟨isFree, isClass⟩ := mem_ofClass.mp membership
      exact .inr (.inr (r.uniform_changed repeatable reordered.destNodup reordered.tagged crowded
        isFree isClass))
  · refine .inl ?_
    have counts := r.length_changedClass reordered.nodup reordered.destNodup c
    change (ofClass (fun s => (sourceProfile s).changedClass) c _).length ≤ _
    omega

omit reordered in
/-- Sources left over with the metadata of a surplus destination are of one kind. -/
theorem uniform_misplaced (nodup : sources.Nodup) (destNodup : destinations.Nodup)
    (tagged : ∀ s s', (sourceProfile s).identity.isSome →
      sourceProfile s = sourceProfile s' → tag s = tag s') {c : ι × μ} {d : δ}
    (isFree : d ∈ unpairedRight (r.exact ++ r.changed) destinations)
    (isClass : (destProfile d).strictClass = some c) :
    Uniform (kind sourceProfile tag) (ofClass (fun s => (sourceProfile s).strictClass) c
      (unpairedLeft (r.exact ++ r.changed) sources)) := by
  have classOf : ∀ s ∈ ofClass (fun s => (sourceProfile s).strictClass) c
      (unpairedLeft (r.exact ++ r.changed) sources),
      (sourceProfile s).strictClass = some c := fun s membership =>
    (mem_ofClass.mp membership).2
  have identified : ∀ profile : Profile ι φ μ, profile.strictClass = some c →
      profile.identity.isSome := by
    intro profile isClass
    have classified := congrArg Option.isSome isClass
    rw [Profile.strictClass_isSome] at classified
    exact (Bool.and_eq_true_iff.mp classified).1
  have beforeChanged : ∀ s ∈ unpairedLeft (r.exact ++ r.changed) sources,
      s ∈ unpairedLeft r.exact sources := by
    intro s membership
    rw [unpairedLeft_append] at membership
    exact (mem_unpairedLeft.mp membership).1
  have dIdentified := identified _ isClass
  apply uniform_of_profile tagged fun s membership => identified _ (classOf s membership)
  intro s membership s' membership'
  have sFree := (mem_ofClass.mp membership).1
  have sFree' := (mem_ofClass.mp membership').1
  have sIdentified := identified _ (classOf s membership)
  have sIdentified' := identified _ (classOf s' membership')
  have sameClass := (classOf s membership).trans (classOf s' membership').symm
  have folder := repeatable.misplaced s' (mem_unpairedLeft.mp sFree').1 s
    (mem_unpairedLeft.mp sFree).1 d (mem_unpairedRight.mp isFree).1
    (by simp [classOf s' membership']) sameClass
    (isClass.trans (classOf s' membership').symm)
    ⟨r.crowded_of_unpaired nodup destNodup sFree' sIdentified',
      r.spare_of_unpaired (beforeChanged s' sFree') sIdentified'⟩
    ⟨r.crowded_of_unpaired nodup destNodup sFree sIdentified,
      r.spare_of_unpaired (beforeChanged s sFree) sIdentified⟩
    (r.leftOver_of_unpaired nodup destNodup isFree dIdentified)
  obtain ⟨identity, metadata⟩ := (Profile.strictClass_eq_iff
    (by simp [classOf s' membership'])).mp sameClass
  exact Profile.ext identity folder metadata

/-- The misplaced pass serves nobody or sources of one kind. -/
theorem misplaced_sameUpToKind :
    SameUpToKind (kind sourceProfile tag) r.misplaced r'.misplaced := by
  have same := (r.exact_sameUpToKind r' reordered).append
    (r.changed_sameUpToKind r' reordered repeatable)
  have leftovers := r.unpairedLeft_kinds r' reordered same r.changed_sublist
    r'.changed_sublist
  have matching' := r'.misplacedPairs
  rw [← same.unpairedRight destinations] at matching'
  apply r.misplacedPairs.sameUpToKind matching' (kind sourceProfile tag)
    (fun k => k.1.strictClass) fun _ => rfl
  intro c
  apply uniform_sameUpToKind
    (Matcher.nearest (fun k : Profile ι φ μ × τ => k.1.folder) fun d => (destProfile d).folder)
  · intro items
    have mapped := Matcher.nearest_run_map (fun s => (sourceProfile s).folder)
      (fun d => (destProfile d).folder) (fun k : Profile ι φ μ × τ => k.1.folder)
      (fun d => (destProfile d).folder) (kind sourceProfile tag) id
      (fun s (_ : s ∈ items) => rfl) fun d (_ : d ∈ ofClass
        (fun d => (destProfile d).strictClass) c
        (unpairedRight (r.exact ++ r.changed) destinations)) => rfl
    rwa [List.map_id] at mapped
  · exact ofClass_kind_perm (fun k => k.1.strictClass) (fun _ => rfl) leftovers c
  · cases surplus : ofClass (fun d => (destProfile d).strictClass) c
        (unpairedRight (r.exact ++ r.changed) destinations) with
    | nil => exact .inl rfl
    | cons d rest =>
      have membership : d ∈ ofClass (fun d => (destProfile d).strictClass) c
          (unpairedRight (r.exact ++ r.changed) destinations) := by simp [surplus]
      obtain ⟨isFree, isClass⟩ := mem_ofClass.mp membership
      exact .inr (r.uniform_misplaced repeatable reordered.nodup reordered.destNodup
        reordered.tagged isFree isClass)

/-- The probable pass makes the one possible pair. -/
theorem probable_sameUpToKind :
    SameUpToKind (kind sourceProfile tag) r.probable r'.probable := by
  have same := ((r.exact_sameUpToKind r' reordered).append
    (r.changed_sameUpToKind r' reordered repeatable)).append
      (r.misplaced_sameUpToKind r' reordered repeatable)
  have leftovers := r.unpairedLeft_kinds r' reordered same
    (List.sublist_append_left _ r.probable) (List.sublist_append_left _ r'.probable)
  have matching' := r'.probablePairs
  rw [← same.unpairedRight destinations] at matching'
  apply r.probablePairs.sameUpToKind matching' (kind sourceProfile tag)
    (fun k => k.1.probableClass) fun _ => rfl
  intro c
  exact single_sameUpToKind
    (ofClass_kind_perm (fun k => k.1.probableClass) (fun _ => rfl) leftovers c)

theorem paired_sameUpToKind :
    SameUpToKind (kind sourceProfile tag) r.paired r'.paired :=
  (((r.exact_sameUpToKind r' reordered).append
    (r.changed_sameUpToKind r' reordered repeatable)).append
      (r.misplaced_sameUpToKind r' reordered repeatable)).append
        (r.probable_sameUpToKind r' reordered repeatable)

theorem missing_kinds : (r.missing.map (kind sourceProfile tag)).Perm
    (r'.missing.map (kind sourceProfile tag)) :=
  r.unpairedLeft_kinds r' reordered (r.paired_sameUpToKind r' reordered repeatable)
    (List.Sublist.refl _) (List.Sublist.refl _)

omit repeatable [LinearOrder φ] [DecidableEq μ] [DecidableEq σ] [DecidableEq δ] in
/-- Duplicates are counted by identity. -/
theorem duplicate_reordered (d : δ) :
    Duplicate sourceProfile destProfile sources destinations d ↔
      Duplicate sourceProfile destProfile sources' destinations d := by
  have counts : ∀ items : List σ, (items.filter fun s =>
      (sourceProfile s).identity = (destProfile d).identity).length =
      ((items.map (kind sourceProfile tag)).filter fun k =>
        k.1.identity = (destProfile d).identity).length := by
    intro items
    rw [List.filter_map, List.length_map]
    rfl
  rw [duplicate_iff, duplicate_iff, counts, counts,
    (reordered.perm.filter _).length_eq]

theorem surplus_reordered : r.surplus = r'.surplus :=
  (r.paired_sameUpToKind r' reordered repeatable).unpairedRight destinations

theorem duplicated_reordered : r.duplicated = r'.duplicated := by
  rw [duplicated, duplicated, r.surplus_reordered r' reordered repeatable]
  apply List.filter_congr
  intro d _
  rw [decide_eq_decide]
  exact duplicate_reordered reordered d

theorem extra_reordered : r.extra = r'.extra := by
  rw [extra, extra, r.surplus_reordered r' reordered repeatable]
  apply List.filter_congr
  intro d _
  rw [decide_eq_decide]
  exact not_congr (duplicate_reordered reordered d)

end Order

end Reconciliation

end MailSwiftSync
