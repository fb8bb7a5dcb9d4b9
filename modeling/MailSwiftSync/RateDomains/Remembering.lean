import MailSwiftSync.RateDomains.Attribution

/-!
# A limiter with room

As long as the table stays below its bound, every domain of an admitted path is remembered, and
the counts are those of the live admissions.  What all changes of a domain keep holds of every
domain of the table.
-/

namespace MailSwiftSync

open Foundation

namespace RateDomainLimiter

variable {limiter : RateDomainLimiter} {domains : Domains} {key k : DomainKey} {now : Nat}

/-! ## A full table -/

/-- A full table in which no domain can be forgotten. -/
structure Stuck (limiter : RateDomainLimiter) (domains : Domains) (now : Nat) : Prop where
  full : maxRateDomains ≤ domains.rows.length
  needed : ∀ domain ∈ domains, limiter.forgettable domain now = false

theorem Stuck.pruned (stuck : limiter.Stuck domains now) :
    limiter.pruned domains now = domains := by
  rw [RateDomainLimiter.pruned, if_pos stuck.full]
  refine Table.eq_of_rows (List.filter_eq_self.mpr fun domain isDomain => ?_)
  exact (Bool.not_eq_true' _).mpr (stuck.needed domain isDomain)

theorem stuck_pruned (full : maxRateDomains ≤ (limiter.pruned domains now).rows.length) :
    limiter.Stuck (limiter.pruned domains now) now := by
  refine ⟨full, fun domain isDomain => ?_⟩
  rw [RateDomainLimiter.pruned] at full isDomain
  split at full
  next isFull =>
    rw [if_pos isFull] at isDomain
    exact (Table.mem_delete.mp isDomain).2
  next notFull => exact absurd full notFull

/-- A domain is remembered unless the table is stuck. -/
theorem remembered_or_stuck (limiter : RateDomainLimiter) (domains : Domains) (key : DomainKey)
    (now : Nat) :
    ((limiter.entry domains key now).find key).isSome = true ∨
      limiter.Stuck (limiter.entry domains key now) now := by
  cases found : domains.find key with
  | some domain =>
    left
    rw [entry_known (by rw [found]; rfl), found]
    rfl
  | none =>
    by_cases full : maxRateDomains ≤ (limiter.pruned domains now).rows.length
    · right
      rw [entry_full found full]
      exact stuck_pruned full
    · left
      have isNew : (limiter.newDomain key now).key = key := rfl
      rw [Table.find_insert (entry_room found (Nat.not_le.mp full)), if_pos isNew]
      rfl

theorem Stuck.entry (stuck : limiter.Stuck domains now) :
    limiter.entry domains key now = domains := by
  cases found : domains.find key with
  | some domain => exact entry_known (by rw [found]; rfl)
  | none =>
    have unchanged := stuck.pruned
    rw [entry_full found (by rw [unchanged]; exact stuck.full), unchanged]

/-- A change that leaves something to remember leaves the table stuck. -/
theorem Stuck.modify (stuck : limiter.Stuck domains now) {change : Domain → Domain}
    {keepsKey : ∀ domain, (change domain).key = domain.key}
    (needed : ∀ domain, limiter.forgettable (change domain) now = false) :
    limiter.Stuck (RateDomainLimiter.modify domains key change keepsKey) now := by
  refine ⟨?_, forall_modify stuck.needed fun domain _ => needed domain⟩
  exact stuck.full.trans_eq (List.length_map _).symm

/-- Counting an admission leaves something to remember. -/
theorem Stuck.counted (stuck : limiter.Stuck (limiter.entry domains key now) now) :
    limiter.Stuck (limiter.takeSlot now domains key) now := by
  refine stuck.modify fun domain => ?_
  simp [RateDomainLimiter.forgettable]

theorem Stuck.takeSlot (stuck : limiter.Stuck domains now) :
    limiter.Stuck (limiter.takeSlot now domains key) now := by
  refine Stuck.counted ?_
  rw [stuck.entry]
  exact stuck

theorem Stuck.takeSlots (stuck : limiter.Stuck domains now) (keys : List DomainKey) :
    limiter.Stuck (keys.foldl (limiter.takeSlot now) domains) now := by
  refine List.foldlRecOn (motive := fun domains : Domains => limiter.Stuck domains now) _ _
    stuck ?_
  exact fun _ held _ _ => held.takeSlot

/-- An admission counts in all its domains unless the table is stuck. -/
theorem counted_or_stuck (limiter : RateDomainLimiter) (domains : Domains)
    (keys : List DomainKey) (now : Nat) :
    (∀ k, inFlightOf (keys.foldl (limiter.takeSlot now) domains) k =
        inFlightOf domains k + keys.count k) ∨
      limiter.Stuck (keys.foldl (limiter.takeSlot now) domains) now := by
  induction keys generalizing domains with
  | nil => exact .inl fun _ => rfl
  | cons key keys ih =>
    cases ih (limiter.takeSlot now domains key) with
    | inr stuck => exact .inr stuck
    | inl counted =>
      cases limiter.remembered_or_stuck domains key now with
      | inl remembered =>
        left
        intro k
        rw [List.foldl_cons, counted, inFlightOf_takeSlot remembered, count_cons_key,
          Nat.add_assoc]
      | inr stuck => exact .inr (stuck.counted.takeSlots keys)

/-! ## Every domain -/

/-- At least one job may run, failures lie in the past, and without one there is nothing to wait
for. -/
structure Regular (now : Nat) (domain : Domain) : Prop where
  limit : 1 ≤ domain.limit
  calm : domain.lastCapacityFailure = none →
    domain.blockedUntil ≤ now ∧ domain.consecutiveCapacityFailures = 0
  past : ∀ failed ∈ domain.lastCapacityFailure, failed ≤ now

namespace Regular

variable {domain : Domain} {later : Nat}

theorem mono (regular : Regular now domain) (after : now ≤ later) : Regular later domain where
  limit := regular.limit
  calm := fun fresh => ⟨(regular.calm fresh).1.trans after, (regular.calm fresh).2⟩
  past := fun failed isFailed => (regular.past failed isFailed).trans after

theorem newDomain : Regular now (limiter.newDomain key now) where
  limit := limiter.one_le_domainCeiling key
  calm := fun _ => ⟨le_refl now, rfl⟩
  past := fun _ isFailed => absurd isFailed (Option.not_mem_none _)

theorem inFlight (regular : Regular now domain) (count : Nat) :
    Regular now { domain with inFlight := count } :=
  ⟨regular.limit, regular.calm, regular.past⟩

theorem noticed (regular : Regular now domain) (child : DomainKey) :
    Regular now (RateDomainLimiter.noticed child now domain) :=
  ⟨regular.limit, regular.calm, regular.past⟩

theorem rewarded (regular : Regular now domain) (admittedAt time : Nat) :
    Regular now (limiter.rewarded admittedAt time domain) := by
  rw [RateDomainLimiter.rewarded]
  split
  next =>
    refine ⟨le_min ?_ (limiter.one_le_domainCeiling _), ?_, regular.past⟩
    · have bound : (1 : ℚ) ≤ domain.limit + 1 := by
        have positive := regular.limit
        linarith
      calc (1 : ℚ) = limiter.float.round 1 := limiter.float.round_one.symm
        _ ≤ limiter.float.round (domain.limit + 1) := limiter.float.monotone bound
    · intro fresh
      obtain ⟨cool, none⟩ := regular.calm fresh
      refine ⟨cool, ?_⟩
      dsimp only
      rw [none, ite_self]
  next => exact regular

theorem penalty (regular : Regular now domain) (base floor admittedAt : Nat) :
    Regular now (limiter.penalty base floor admittedAt now domain) where
  limit := by
    rw [RateDomainLimiter.penalty]
    dsimp only
    split
    · exact le_max_right _ _
    · exact regular.limit
  calm := fun fresh => absurd fresh (Option.some_ne_none now)
  past := by
    intro failed isFailed
    rw [← Option.some.inj isFailed]

end Regular

/-- A domain that can be forgotten has an open limit, and nobody waits for it. -/
theorem cool_of_forgettable {domain : Domain} (regular : Regular now domain)
    (forgettable : limiter.forgettable domain now = true) :
    domain.blockedUntil ≤ now ∧ (domain.consecutiveCapacityFailures = 0 ∨
      domain.blockedUntil + escalationResetAfter ≤ now) := by
  simp only [RateDomainLimiter.forgettable, Bool.and_eq_true, Bool.or_eq_true,
    Option.isNone_iff_eq_none, decide_eq_true_eq] at forgettable
  cases forgettable.1.2 with
  | inl fresh => exact ⟨(regular.calm fresh).1, .inl (regular.calm fresh).2⟩
  | inr old => exact ⟨(Nat.le_add_right _ _).trans old, .inr old⟩

/-! ## Held paths -/

section Held

variable {admission : Admission}

/-- All domains of a path have an admission. -/
def Held (admission : Admission) (domains : Domains) : Prop :=
  ∀ key ∈ admission.path.all, 0 < inFlightOf domains key

theorem known_of_inFlight (positive : 0 < inFlightOf domains key) :
    (domains.find key).isSome = true := by
  rw [inFlightOf] at positive
  cases found : domains.find key with
  | none =>
    rw [found] at positive
    exact absurd positive (Nat.lt_irrefl 0)
  | some domain => rfl

theorem Held.known (held : Held admission domains) (isKey : key ∈ admission.path.all) :
    (domains.find key).isSome = true :=
  known_of_inFlight (held key isKey)

theorem Held.modify (held : Held admission domains) {change : Domain → Domain}
    {keepsKey : ∀ domain, (change domain).key = domain.key}
    (keepsCount : ∀ domain, (change domain).inFlight = domain.inFlight) :
    Held admission (RateDomainLimiter.modify domains key change keepsKey) := by
  intro k isKey
  rw [inFlightOf_modify keepsCount]
  exact held k isKey

theorem Held.entry (held : Held admission domains) :
    Held admission (limiter.entry domains key now) := by
  intro k isKey
  rw [inFlightOf_entry]
  exact held k isKey

end Held

end RateDomainLimiter

namespace RateSystem

open RateDomainLimiter

variable {limiter : RateDomainLimiter} {toLowercase : String → String}
variable {before after : RateSystem} {operation : RateOperation}

/-- What all changes of a domain keep, a call keeps for the whole table. -/
theorem Step.forall_domains {property : Nat → Domain → Prop}
    (step : Step limiter toLowercase before operation after)
    (mono : ∀ {now later domain}, now ≤ later → property now domain → property later domain)
    (newDomain : ∀ key now, property now (limiter.newDomain key now))
    (inFlight : ∀ {now domain} count, property now domain →
      property now { domain with inFlight := count })
    (rewarded : ∀ {now domain} admittedAt, property now domain →
      property now (limiter.rewarded admittedAt now domain))
    (penalty : ∀ {now domain} base floor admittedAt, property now domain →
      property now (limiter.penalty base floor admittedAt now domain))
    (noticed : ∀ {now domain} child, property now domain →
      property now (noticed child now domain))
    (held : ∀ domain ∈ before.domains, property before.now domain) :
    ∀ domain ∈ after.domains, property after.now domain := by
  have applied := step.2
  have later : ∀ domain ∈ before.domains, property operation.now domain :=
    fun domain isDomain => mono step.1 (held domain isDomain)
  cases operation with
  | tryAdmit source destination now =>
    cases apply_tryAdmit applied with
    | inl refused =>
      rw [refused.2]
      exact later
    | inr admitted =>
      rw [admitted.2]
      refine List.foldlRecOn (motive := fun domains : Domains =>
        ∀ domain ∈ domains, property now domain) _ _ later ?_
      intro domains held key _
      exact forall_modify (forall_entry held (newDomain key now)) fun _ => inFlight _
  | drop index now =>
    obtain ⟨admission, _, rfl⟩ := Option.map_eq_some_iff.mp applied
    refine List.foldlRecOn (motive := fun domains : Domains =>
      ∀ domain ∈ domains, property now domain) _ _ later ?_
    intro domains held key _ domain isDomain
    exact forall_modify held (fun _ => inFlight _) domain (Table.mem_delete.mp isDomain).1
  | observeSuccess index now =>
    obtain ⟨admission, _, rfl⟩ := Option.map_eq_some_iff.mp applied
    refine List.foldlRecOn (motive := fun domains : Domains =>
      ∀ domain ∈ domains, property now domain) _ _ later ?_
    intro domains held key _
    exact forall_modify held fun _ => rewarded _
  | observeClassified index failure now =>
    obtain ⟨admission, _, rfl⟩ := Option.map_eq_some_iff.mp applied
    refine attributed_invariant (motive := fun domains : Domains =>
      ∀ domain ∈ domains, property now domain) ?_ ?_ ?_ later
    · exact fun _ key held => forall_entry held (newDomain key now)
    · exact fun _ _ _ _ held => forall_modify held fun _ => penalty _ _ _
    · exact fun _ _ _ link _ held => forall_modify held fun _ => noticed link.2

theorem Step.regular (step : Step limiter toLowercase before operation after)
    (regular : ∀ domain ∈ before.domains, Regular before.now domain) :
    ∀ domain ∈ after.domains, Regular after.now domain :=
  step.forall_domains (fun later held => held.mono later) (fun _ _ => .newDomain)
    (fun count held => held.inFlight count) (fun admittedAt held => held.rewarded admittedAt _)
    (fun base floor admittedAt held => held.penalty base floor admittedAt)
    (fun child held => held.noticed child) regular

/-! ## Runs with room -/

/-- A call after which the table is below its bound. -/
def Uncrowded (limiter : RateDomainLimiter) (toLowercase : String → String)
    (before : RateSystem) (operation : RateOperation) (after : RateSystem) : Prop :=
  Step limiter toLowercase before operation after ∧ after.domains.rows.length < maxRateDomains

/-- With room, counts stay exact. -/
theorem Uncrowded.exact (step : Uncrowded limiter toLowercase before operation after)
    (exact : Exact limiter before) : Exact limiter after := by
  have applied := step.1.2
  have room := step.2
  cases operation with
  | tryAdmit source destination now =>
    cases apply_tryAdmit applied with
    | inl refused =>
      rw [refused.2]
      exact exact.observe (fun _ => rfl) exact.limited
    | inr admitted =>
      rw [admitted.2] at room ⊢
      cases limiter.counted_or_stuck before.domains
          (RateDomainPath.new toLowercase source destination).all now with
      | inl counted => exact exact.admitCounted counted admitted.1
      | inr stuck => exact absurd stuck.full (Nat.not_le.mpr room)
  | drop index now => exact step.1.exact trivial exact
  | observeSuccess index now => exact step.1.exact trivial exact
  | observeClassified index failure now => exact step.1.exact trivial exact

/-- What is known of a limiter with room. -/
structure Kept (limiter : RateDomainLimiter) (system : RateSystem) : Prop where
  exact : Exact limiter system
  regular : ∀ domain ∈ system.domains, Regular system.now domain

theorem Uncrowded.kept (step : Uncrowded limiter toLowercase before operation after)
    (kept : Kept limiter before) : Kept limiter after :=
  ⟨step.exact kept.exact, step.1.regular kept.regular⟩

theorem kept_empty : Kept limiter {} :=
  ⟨exact_empty, fun domain isDomain => absurd isDomain (Table.not_mem_empty domain)⟩

/-- The domains of a live admission are held. -/
theorem Kept.held (kept : Kept limiter before) {admission : Admission}
    (isLive : admission ∈ before.live) : Held admission before.domains := by
  intro key isKey
  rw [kept.exact.counted key]
  exact List.countP_pos_iff.mpr ⟨admission, isLive, decide_eq_true isKey⟩

end RateSystem

end MailSwiftSync
