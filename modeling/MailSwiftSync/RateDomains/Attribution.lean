import MailSwiftSync.RateDomains.Slots

/-!
# Attribution of capacity failures

A capacity failure penalizes the mailbox it came from.  An ancestor is penalized after
failures of several of its children, where the children of the global domain are pairs of
endpoints.  Domains without a penalty look the same to admissions as before.
-/

namespace MailSwiftSync

open Foundation

/-- A capacity failure, when it was observed and where it came from. -/
structure CapacityFailure where
  observedAt : Nat
  path : RateDomainPath
  sides : List MailSide

/-- The failure is, for a domain, the failure of a certain child. -/
def CapacityFailure.Implicates (failure : CapacityFailure) (parent child : DomainKey) : Prop :=
  ∃ side ∈ failure.sides, (parent, child) ∈ failure.path.lineage side

/-- Enough distinct children of a domain failed within the window. -/
def Justified (failures : List CapacityFailure) (now : Nat) (key : DomainKey) : Prop :=
  ∃ children : List DomainKey, children.Nodup ∧
    escalationDistinctChildren ≤ children.length ∧
    ∀ child ∈ children, ∃ failure ∈ failures,
      now < failure.observedAt + escalationWindow ∧ failure.Implicates key child

/-! ## Provenance -/

/-- What a domain remembers comes from observed failures. -/
structure Attributable (now : Nat) (failures : List CapacityFailure) (domain : Domain) :
    Prop where
  distinct : (domain.childFailures.map Prod.fst).Nodup
  observed : ∀ child ∈ domain.childFailures, ∃ failure ∈ failures,
    failure.observedAt = child.2 ∧ failure.Implicates domain.key child.1
  cool : domain.lastCapacityFailure = none → domain.blockedUntil ≤ now

namespace Attributable

variable {limiter : RateDomainLimiter} {now later : Nat} {key : DomainKey}
variable {failures more : List CapacityFailure} {domain : Domain}

theorem mono (attributable : Attributable now failures domain) (after : now ≤ later)
    (subset : failures ⊆ more) : Attributable later more domain where
  distinct := attributable.distinct
  observed := by
    intro child isChild
    obtain ⟨failure, isFailure, origin⟩ := attributable.observed child isChild
    exact ⟨failure, subset isFailure, origin⟩
  cool := fun fresh => (attributable.cool fresh).trans after

theorem newDomain : Attributable now failures (limiter.newDomain key now) where
  distinct := List.nodup_nil
  observed := fun _ isChild => absurd isChild List.not_mem_nil
  cool := fun _ => Nat.le_refl now

theorem penalty (attributable : Attributable now failures domain)
    (base floor admittedAt : Nat) :
    Attributable now failures (limiter.penalty base floor admittedAt now domain) where
  distinct := attributable.distinct
  observed := attributable.observed
  cool := fun fresh => absurd fresh (Option.some_ne_none now)

theorem rewarded (attributable : Attributable now failures domain) (admittedAt time : Nat) :
    Attributable now failures (limiter.rewarded admittedAt time domain) := by
  rw [RateDomainLimiter.rewarded]
  split
  · exact ⟨attributable.distinct, attributable.observed, attributable.cool⟩
  · exact attributable

theorem inFlight (attributable : Attributable now failures domain) (count : Nat) :
    Attributable now failures { domain with inFlight := count } :=
  ⟨attributable.distinct, attributable.observed, attributable.cool⟩

theorem noticed (attributable : Attributable now failures domain) {child : DomainKey}
    {failure : CapacityFailure} (isFailure : failure ∈ failures)
    (recent : failure.observedAt = now) (implicates : failure.Implicates domain.key child) :
    Attributable now failures (RateDomainLimiter.noticed child now domain) where
  distinct := by
    rw [RateDomainLimiter.noticed, List.map_append, List.nodup_append]
    refine ⟨(List.filter_sublist.map Prod.fst).nodup attributable.distinct,
      List.nodup_singleton child, ?_⟩
    intro other isOther last isLast same
    obtain ⟨entry, isEntry, rfl⟩ := List.mem_map.mp isOther
    have different := (List.mem_filter.mp isEntry).2
    rw [List.map_singleton, List.mem_singleton] at isLast
    simp [same, isLast] at different
  observed := by
    intro other isOther
    cases List.mem_append.mp isOther with
    | inl earlier => exact attributable.observed other (List.mem_of_mem_filter earlier)
    | inr last =>
      rw [List.mem_singleton.mp last]
      exact ⟨failure, isFailure, recent, implicates⟩
  cool := attributable.cool

end Attributable

namespace RateDomainLimiter

variable {limiter : RateDomainLimiter} {domains : Domains} {key k : DomainKey} {now : Nat}
variable {failures : List CapacityFailure}

theorem window_noticed {domain : Domain} {child : DomainKey} :
    ∀ entry ∈ (noticed child now domain).childFailures, now < entry.2 + escalationWindow := by
  intro entry isEntry
  cases List.mem_append.mp isEntry with
  | inl earlier =>
    have recent := (List.mem_filter.mp earlier).2
    simp only [Bool.and_eq_true, decide_eq_true_eq] at recent
    exact recent.2
  | inr last =>
    rw [List.mem_singleton.mp last]
    exact Nat.lt_add_of_pos_right (by decide)

/-- A domain with enough recent children is penalized for a reason. -/
theorem justified_of_children {domain : Domain}
    (attributable : Attributable now failures domain)
    (recent : ∀ entry ∈ domain.childFailures, now < entry.2 + escalationWindow)
    (enough : escalationDistinctChildren ≤ domain.childFailures.length) :
    Justified failures now domain.key := by
  refine ⟨domain.childFailures.map Prod.fst, attributable.distinct, ?_, ?_⟩
  · rw [List.length_map]
    exact enough
  · intro child isChild
    obtain ⟨entry, isEntry, rfl⟩ := List.mem_map.mp isChild
    obtain ⟨failure, isFailure, sameTime, implicates⟩ := attributable.observed entry isEntry
    refine ⟨failure, isFailure, ?_, implicates⟩
    rw [sameTime]
    exact recent entry isEntry

/-! ## What a path can observe -/

/-- The end of the cooldown of a domain, if it is cooling down. -/
def cooldown (domains : Domains) (key : DomainKey) (time : Nat) : Option Nat :=
  ((domains.find key).map Domain.blockedUntil).filter (time < ·)

/-- Whether a domain is known to have no slot. -/
def saturated (limiter : RateDomainLimiter) (domains : Domains) (key : DomainKey) : Bool :=
  (domains.find key).any fun domain => !limiter.hasSlot domain

theorem cooling_eq (keys : List DomainKey) (time : Nat) :
    ((keys.filterMap domains.find).filter (time < ·.blockedUntil)).map Domain.blockedUntil =
      keys.filterMap (cooldown domains · time) := by
  induction keys with
  | nil => rfl
  | cons key rest ih =>
    rw [List.filterMap_cons, List.filterMap_cons, ← ih, cooldown]
    cases domains.find key with
    | none => rfl
    | some domain =>
      by_cases cooling : time < domain.blockedUntil
      · simp [cooling, Option.filter_some]
      · simp [cooling, Option.filter_some]

theorem saturated_eq (keys : List DomainKey) :
    (keys.filterMap domains.find).any (fun domain => !limiter.hasSlot domain) =
      keys.any (limiter.saturated domains) := by
  induction keys with
  | nil => rfl
  | cons key rest ih =>
    rw [List.filterMap_cons, List.any_cons, ← ih, saturated]
    cases domains.find key with
    | none => rfl
    | some domain => rfl

/-- Cooldowns and free slots decide about an admission. -/
theorem refusal_eq (path : RateDomainPath) (time : Nat) :
    limiter.refusal domains path time =
      if path.all.filterMap (cooldown domains · time) ≠ [] then
        some (.until ((path.all.filterMap (cooldown domains · time)).foldl max 0))
      else if path.all.any (limiter.saturated domains) then some .slot
      else none := by
  rw [← cooling_eq, ← saturated_eq, refusal]
  simp only [ne_eq, List.map_eq_nil_iff]

/-- From some time on, admissions see no difference in a domain. -/
def Alike (limiter : RateDomainLimiter) (now : Nat) (before after : Domains)
    (key : DomainKey) : Prop :=
  limiter.saturated after key = limiter.saturated before key ∧
    ∀ time, now ≤ time → cooldown after key time = cooldown before key time

theorem Alike.trans {first second third : Domains} (left : limiter.Alike now first second key)
    (right : limiter.Alike now second third key) : limiter.Alike now first third key :=
  ⟨right.1.trans left.1, fun time later => (right.2 time later).trans (left.2 time later)⟩

theorem Alike.refusal {before after : Domains} {path : RateDomainPath}
    (alike : ∀ key ∈ path.all, limiter.Alike now before after key) {time : Nat}
    (later : now ≤ time) :
    limiter.refusal after path time = limiter.refusal before path time := by
  have cooldowns : path.all.filterMap (cooldown after · time) =
      path.all.filterMap (cooldown before · time) :=
    List.filterMap_congr fun key isKey => (alike key isKey).2 time later
  have slots : path.all.any (limiter.saturated after) =
      path.all.any (limiter.saturated before) := by
    rw [Bool.eq_iff_iff, List.any_eq_true, List.any_eq_true]
    refine exists_congr fun key => and_congr_right fun isKey => ?_
    rw [(alike key isKey).1]
  rw [refusal_eq, refusal_eq, cooldowns, slots]

theorem hasSlot_idle {domain : Domain} (idle : domain.inFlight = 0) :
    limiter.hasSlot domain = true := by
  rw [hasSlot, idle, asFloat, Nat.cast_zero, limiter.float.round_zero, decide_eq_true_iff]
  exact lt_max_of_lt_right one_pos

theorem forgettable_cool {domain : Domain} (attributable : Attributable now failures domain)
    (forgettable : limiter.forgettable domain now = true) : domain.blockedUntil ≤ now := by
  simp only [RateDomainLimiter.forgettable, Bool.and_eq_true, Bool.or_eq_true,
    Option.isNone_iff_eq_none, decide_eq_true_eq] at forgettable
  cases forgettable.1.2 with
  | inl fresh => exact attributable.cool fresh
  | inr old => exact (Nat.le_add_right _ _).trans old

/-- A domain that is like a fresh one refuses nothing. -/
theorem unobserved {domain : Domain} (idle : domain.inFlight = 0)
    (cool : domain.blockedUntil ≤ now) :
    (some domain).any (fun domain => !limiter.hasSlot domain) = false ∧
      ∀ time, now ≤ time →
        ((some domain).map Domain.blockedUntil).filter (time < ·) = none := by
  constructor
  · rw [Option.any_some, hasSlot_idle idle]
    rfl
  · intro time later
    have past : ¬time < domain.blockedUntil := Nat.not_lt.mpr (cool.trans later)
    rw [Option.map_some, Option.filter_some, decide_eq_false past]
    rfl

theorem alike_entry (attributable : ∀ domain ∈ domains, Attributable now failures domain) :
    limiter.Alike now domains (limiter.entry domains key now) k := by
  have refreshed : limiter.Refreshed now k (domains.find k)
      ((limiter.entry domains key now).find k) := refreshed_entry
  rw [Alike, saturated, saturated]
  simp only [cooldown]
  cases found : domains.find k with
  | none =>
    cases after : (limiter.entry domains key now).find k with
    | none => exact ⟨rfl, fun _ _ => rfl⟩
    | some domain =>
      rw [found, after] at refreshed
      cases refreshed
      exact unobserved rfl (Nat.le_refl now)
  | some domain =>
    cases after : (limiter.entry domains key now).find k with
    | none =>
      rw [found, after] at refreshed
      cases refreshed with
      | forgotten _ forgettable =>
        have cool := forgettable_cool
          (attributable domain (Table.find_eq_some.mp found).1) forgettable
        have nothing : (some domain).any (fun domain => !limiter.hasSlot domain) = false ∧
            _ := unobserved (forgettable_idle forgettable) cool
        exact ⟨nothing.1.symm, fun time later => (nothing.2 time later).symm⟩
    | some other =>
      rw [found, after] at refreshed
      cases refreshed
      exact ⟨rfl, fun _ _ => rfl⟩

/-- Changes that admissions do not look at, or that are elsewhere, are not seen. -/
theorem alike_modify {change : Domain → Domain}
    {keepsKey : ∀ domain, (change domain).key = domain.key}
    (unseen : k = key → ∀ domain, (change domain).blockedUntil = domain.blockedUntil ∧
      limiter.hasSlot (change domain) = limiter.hasSlot domain) :
    limiter.Alike now domains (modify domains key change keepsKey) k := by
  rw [Alike, saturated, saturated]
  simp only [cooldown, find_modify]
  split
  · next isKey =>
      cases domains.find k with
      | none => exact ⟨rfl, fun _ _ => rfl⟩
      | some domain =>
        obtain ⟨sameCooldown, sameSlot⟩ := unseen isKey domain
        simp only [Option.map_some, Option.any_some, sameSlot, sameCooldown]
        exact ⟨trivial, fun _ _ => trivial⟩
  · exact ⟨rfl, fun _ _ => rfl⟩

/-! ## Attributing a failure -/

/-- What attributing a failure has done so far: each penalty has a reason, and domains
without a penalty look the same to admissions. -/
structure Accounted (limiter : RateDomainLimiter) (failures : List CapacityFailure)
    (current : CapacityFailure) (initial : Domains) (penalties : Penalties) : Prop where
  attributable : ∀ domain ∈ penalties.1, Attributable current.observedAt failures domain
  reasons : ∀ key ∈ penalties.2, (∃ side ∈ current.sides, key = (current.path.chain side).mailbox) ∨
    (∃ child, current.Implicates key child) ∧ Justified failures current.observedAt key
  alike : ∀ key, key ∉ penalties.2 →
    limiter.Alike current.observedAt initial penalties.1 key

variable {current : CapacityFailure} {initial : Domains} {keys : List DomainKey}

theorem Accounted.entry (accounted : Accounted limiter failures current initial (domains, keys))
    (key : DomainKey) :
    Accounted limiter failures current initial
      (limiter.entry domains key current.observedAt, keys) where
  attributable := forall_entry accounted.attributable .newDomain
  reasons := accounted.reasons
  alike := fun k spared => (accounted.alike k spared).trans (alike_entry accounted.attributable)

theorem Accounted.noticed (accounted : Accounted limiter failures current initial (domains, keys))
    (isFailure : current ∈ failures) {link : DomainKey × DomainKey}
    (implicates : current.Implicates link.1 link.2) :
    Accounted limiter failures current initial
      (modify domains link.1 (noticed link.2 current.observedAt), keys) where
  attributable := by
    have keeps : ∀ domain, domain.key = link.1 →
        Attributable current.observedAt failures domain →
        Attributable current.observedAt failures
          (RateDomainLimiter.noticed link.2 current.observedAt domain) := by
      intro domain isKey attributable
      refine attributable.noticed isFailure rfl ?_
      rw [isKey]
      exact implicates
    have changed : ∀ domain ∈ modify domains link.1
        (RateDomainLimiter.noticed link.2 current.observedAt),
        Attributable current.observedAt failures domain :=
      forall_modify_key accounted.attributable keeps
    exact changed
  reasons := accounted.reasons
  alike := by
    intro k spared
    have unseen : limiter.Alike current.observedAt domains
        (modify domains link.1 (RateDomainLimiter.noticed link.2 current.observedAt)) k :=
      alike_modify fun _ _ => ⟨rfl, rfl⟩
    exact (accounted.alike k spared).trans unseen

/-- A penalty with a reason is accounted for once it is reported. -/
theorem Accounted.penalize
    (accounted : Accounted limiter failures current initial (domains, keys))
    {base floor admittedAt : Nat} {reported : List DomainKey}
    (reports : (limiter.penalize base floor admittedAt current.observedAt domains key).2 = true →
      key ∈ reported)
    (superset : keys ⊆ reported) (only : ∀ k ∈ reported, k ∈ keys ∨ k = key)
    (reason : (∃ side ∈ current.sides, key = (current.path.chain side).mailbox) ∨
      (∃ child, current.Implicates key child) ∧ Justified failures current.observedAt key) :
    Accounted limiter failures current initial
      ((limiter.penalize base floor admittedAt current.observedAt domains key).1, reported) where
  attributable := by
    refine penalize_invariant (motive := fun domains : Domains =>
      ∀ domain ∈ domains, Attributable current.observedAt failures domain) ?_ ?_
      accounted.attributable key
    · exact fun _ _ held => forall_entry held .newDomain
    · exact fun _ _ held => forall_modify held fun _ attributable => attributable.penalty _ _ _
  reasons := by
    intro k isReported
    cases only k isReported with
    | inl earlier => exact accounted.reasons k earlier
    | inr isKey =>
      rw [isKey]
      exact reason
  alike := by
    intro k spared
    have spared' : k ∉ keys := fun isKey => spared (superset isKey)
    have entered := (accounted.entry key).alike k spared'
    rw [RateDomainLimiter.penalize] at reports ⊢
    split
    · next remembered =>
        rw [if_pos remembered] at reports
        have other : k ≠ key := fun isKey => spared (isKey ▸ reports rfl)
        have unseen : limiter.Alike current.observedAt
            (limiter.entry domains key current.observedAt)
            (modify (limiter.entry domains key current.observedAt) key
              (limiter.penalty base floor admittedAt current.observedAt)) k :=
          alike_modify fun isKey => absurd isKey other
        exact entered.trans unseen
    · exact entered

theorem Accounted.escalate {base floor admittedAt : Nat} {penalties : Penalties}
    (accounted : Accounted limiter failures current initial penalties)
    (isFailure : current ∈ failures) {link : DomainKey × DomainKey}
    (implicates : current.Implicates link.1 link.2) :
    Accounted limiter failures current initial
      (limiter.escalate base floor admittedAt current.observedAt penalties link) := by
  have noticed := (accounted.entry link.1).noticed isFailure implicates
  rw [RateDomainLimiter.escalate]
  split
  · next enough =>
      apply noticed.penalize
      · intro penalized
        rw [penalized, Bool.true_and]
        split
        · exact List.mem_append_right _ (List.mem_singleton_self _)
        · next listed => simpa using listed
      · intro k isKey
        split
        · exact List.mem_append_left _ isKey
        · exact isKey
      · intro k isReported
        split at isReported
        · simpa using isReported
        · exact .inl isReported
      · right
        refine ⟨⟨link.2, implicates⟩, ?_⟩
        obtain ⟨domain, found, many⟩ := (Option.any_eq_true _ _).mp enough
        obtain ⟨isDomain, isKey⟩ := Table.find_eq_some.mp found
        rw [← isKey]
        refine justified_of_children (noticed.attributable domain isDomain) ?_
          (of_decide_eq_true many)
        have changed := find_modify.symm.trans found
        rw [if_pos rfl] at changed
        obtain ⟨old, _, rfl⟩ := Option.map_eq_some_iff.mp changed
        exact window_noticed
  · exact noticed

theorem Accounted.blame {base floor : Nat} {penalties : Penalties} {admission : Admission}
    {side : MailSide} (accounted : Accounted limiter failures current initial penalties)
    (isFailure : current ∈ failures) (isSide : side ∈ current.sides)
    (isPath : current.path = admission.path) :
    Accounted limiter failures current initial
      (limiter.blame base floor admission current.observedAt penalties side) := by
  rw [RateDomainLimiter.blame]
  refine List.foldlRecOn (motive := Accounted limiter failures current initial) _ _ ?_ ?_
  · apply accounted.penalize
    · intro penalized
      rw [if_pos penalized]
      exact List.mem_append_right _ (List.mem_singleton_self _)
    · intro k isKey
      split
      · exact List.mem_append_left _ isKey
      · exact isKey
    · intro k isReported
      split at isReported
      · simpa using isReported
      · exact .inl isReported
    · exact .inl ⟨side, isSide, by rw [isPath]⟩
  · intro penalties held link isLink
    refine held.escalate isFailure ⟨side, isSide, ?_⟩
    rw [isPath]
    exact isLink

/-- Attributing an observed failure is accounted for. -/
theorem accounted_attributed {admission : Admission} {failure : ClassifiedFailure}
    (attributable : ∀ domain ∈ domains, Attributable current.observedAt failures domain)
    (isFailure : current ∈ failures) (isPath : current.path = admission.path)
    (sides : current.sides = failure.sides) :
    Accounted limiter failures current domains
      (limiter.attributed domains admission failure current.observedAt) := by
  have initially : Accounted limiter failures current domains (domains, []) :=
    ⟨attributable, fun _ isKey => absurd isKey List.not_mem_nil,
      fun _ _ => ⟨rfl, fun _ _ => rfl⟩⟩
  rw [attributed]
  split
  · refine List.foldlRecOn (motive := Accounted limiter failures current domains) _ _ initially ?_
    intro penalties held side isSide
    rw [← sides] at isSide
    exact held.blame isFailure isSide isPath
  · exact initially

end RateDomainLimiter

end MailSwiftSync
