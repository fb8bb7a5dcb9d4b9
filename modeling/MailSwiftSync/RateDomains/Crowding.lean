import Mathlib.Data.Set.Finite.Basic
import MailSwiftSync.RateDomains.Slots

/-!
# A crowded limiter

A throttled mailbox is not forgotten until it succeeds.  After enough of them the table
is full, and an admission is no longer counted in domains that are not in it.
-/

namespace MailSwiftSync

open Foundation
open RateDomainLimiter

namespace RateSystem

variable {domains : Domains} {key k : DomainKey} {now : Nat}

/-! ## The size of the table -/

theorem length_modify {change : Domain → Domain}
    {keepsKey : ∀ domain, (change domain).key = domain.key} :
    (modify domains key change keepsKey).rows.length = domains.rows.length :=
  List.length_map _

theorem length_pruned {limiter : RateDomainLimiter} :
    (limiter.pruned domains now).rows.length ≤ domains.rows.length := by
  rw [pruned]
  split
  · exact List.length_filter_le _ _
  · exact Nat.le_refl _

theorem length_entry {limiter : RateDomainLimiter}
    (bounded : domains.rows.length ≤ maxRateDomains) :
    (limiter.entry domains key now).rows.length ≤ maxRateDomains := by
  cases found : domains.find key with
  | some domain =>
    rw [entry_known (by rw [found]; rfl)]
    exact bounded
  | none =>
    by_cases full : maxRateDomains ≤ (limiter.pruned domains now).rows.length
    · rw [entry_full found full]
      exact length_pruned.trans bounded
    · have room := Nat.not_le.mp full
      rw [(Table.insert_eq_some (entry_room found room)).2, List.length_append]
      exact room

/-- The table never holds more than its bound. -/
theorem Step.bounded {limiter : RateDomainLimiter} {toLowercase : String → String}
    {before after : RateSystem} {operation : RateOperation}
    (step : Step limiter toLowercase before operation after)
    (bounded : before.domains.rows.length ≤ maxRateDomains) :
    after.domains.rows.length ≤ maxRateDomains := by
  have applied := step.2
  cases operation with
  | tryAdmit source destination now =>
    cases apply_tryAdmit applied with
    | inl refused =>
      rw [refused.2]
      exact bounded
    | inr admitted =>
      rw [admitted.2]
      refine List.foldlRecOn (motive := fun domains : Domains =>
        domains.rows.length ≤ maxRateDomains) _ _ bounded ?_
      intro domains held key _
      rw [takeSlot, length_modify]
      exact length_entry held
  | drop index now =>
    obtain ⟨admission, _, rfl⟩ := Option.map_eq_some_iff.mp applied
    refine List.foldlRecOn (motive := fun domains : Domains =>
      domains.rows.length ≤ maxRateDomains) _ _ bounded ?_
    intro domains held key _
    refine (List.length_filter_le _ _).trans ?_
    rw [length_modify]
    exact held
  | observeSuccess index now =>
    obtain ⟨admission, _, rfl⟩ := Option.map_eq_some_iff.mp applied
    refine List.foldlRecOn (motive := fun domains : Domains =>
      domains.rows.length ≤ maxRateDomains) _ _ bounded ?_
    intro domains held key _
    rw [length_modify]
    exact held
  | observeClassified index failure now =>
    obtain ⟨admission, _, rfl⟩ := Option.map_eq_some_iff.mp applied
    refine attributed_invariant (motive := fun domains : Domains =>
      domains.rows.length ≤ maxRateDomains) ?_ ?_ ?_ bounded
    · exact fun _ _ held => length_entry held
    · exact fun _ _ _ _ held => length_modify.trans_le held
    · exact fun _ _ _ _ _ held => length_modify.trans_le held

/-! ## Throttled domains -/

/-- A domain below its ceiling is remembered. -/
def Throttled (domains : Domains) (key : DomainKey) : Prop :=
  ∃ domain, domains.find key = some domain ∧ domain.limit < twoWorkers.domainCeiling key

theorem not_forgettable {domain : Domain}
    (below : domain.limit < twoWorkers.domainCeiling domain.key)
    (now : Nat) : twoWorkers.forgettable domain now = false := by
  rw [RateDomainLimiter.forgettable, decide_eq_false (not_le.mpr below)]
  simp

theorem Throttled.entry (throttled : Throttled domains k) :
    Throttled (twoWorkers.entry domains key now) k := by
  obtain ⟨domain, found, below⟩ := throttled
  have isKey := (Table.find_eq_some.mp found).2
  have refreshed : twoWorkers.Refreshed now k (domains.find k)
      ((twoWorkers.entry domains key now).find k) := refreshed_entry
  rw [found] at refreshed
  cases after : (twoWorkers.entry domains key now).find k with
  | some other =>
    rw [after] at refreshed
    cases refreshed
    exact ⟨domain, after, below⟩
  | none =>
    rw [after] at refreshed
    cases refreshed with
    | forgotten _ forgettable =>
      rw [not_forgettable (by rw [isKey]; exact below)] at forgettable
      cases forgettable

/-- Changes that do not raise a limit to its ceiling. -/
theorem Throttled.modify (throttled : Throttled domains k) {change : Domain → Domain}
    {keepsKey : ∀ domain, (change domain).key = domain.key}
    (keeps : ∀ domain, domain.limit < twoWorkers.domainCeiling domain.key →
      (change domain).limit < twoWorkers.domainCeiling domain.key) :
    Throttled (modify domains key change keepsKey) k := by
  obtain ⟨domain, found, below⟩ := throttled
  have isKey := (Table.find_eq_some.mp found).2
  rw [Throttled, find_modify, found]
  split
  · refine ⟨change domain, rfl, ?_⟩
    rw [← isKey] at below ⊢
    exact keeps domain below
  · exact ⟨domain, rfl, below⟩

theorem Throttled.releaseSlot (throttled : Throttled domains k) :
    Throttled (twoWorkers.releaseSlot now domains key) k := by
  have modified : Throttled (RateDomainLimiter.modify domains key fun domain =>
      { domain with inFlight := domain.inFlight - 1 }) k :=
    throttled.modify fun _ below => below
  obtain ⟨domain, found, below⟩ := modified
  have isKey := (Table.find_eq_some.mp found).2
  have kept : twoWorkers.forgettable domain now = false :=
    not_forgettable (by rw [isKey]; exact below) now
  refine ⟨domain, ?_, below⟩
  rw [RateDomainLimiter.releaseSlot, Table.find_delete, found, Option.filter_some, kept]
  simp

theorem mailbox_ceiling (key : DomainKey) : twoWorkers.domainCeiling key = 2 := by
  obtain ⟨side, level, scope, provider⟩ := key
  cases level <;> rfl

theorem penalty_below (base floor admittedAt : Nat) (domain : Domain)
    (below : domain.limit < twoWorkers.domainCeiling domain.key) :
    (twoWorkers.penalty base floor admittedAt now domain).limit <
      twoWorkers.domainCeiling domain.key := by
  rw [mailbox_ceiling] at below ⊢
  rw [penalty]
  dsimp only
  split
  · have halved : twoWorkers.float.round (domain.limit / 2) = domain.limit / 2 := rfl
    rw [halved]
    apply max_lt
    · linarith
    · norm_num
  · exact below

/-- Attributing a failure releases nothing. -/
theorem Throttled.escalate (base floor admittedAt : Nat) (penalties : Penalties)
    (throttled : Throttled penalties.1 k) (link : DomainKey × DomainKey) :
    Throttled (twoWorkers.escalate base floor admittedAt now penalties link).1 k := by
  refine escalate_invariant (motive := fun domains : Domains => Throttled domains k) ?_ ?_ link ?_
    throttled
  · exact fun _ _ held => held.entry
  · exact fun _ _ held => held.modify (penalty_below base floor admittedAt)
  · exact fun _ held => held.modify fun _ below => below

/-- The first failure of a mailbox throttles it. -/
theorem throttled_of_penalize (base floor admittedAt : Nat) {domain : Domain}
    (found : domains.find key = some domain) (fresh : domain.lastCapacityFailure = none)
    (unlimited : domain.limit = 2) :
    Throttled (twoWorkers.penalize base floor admittedAt now domains key).1 key := by
  have known : twoWorkers.entry domains key now = domains := entry_known (by rw [found]; rfl)
  have present : domains.any (·.key = key) = true := by
    rw [any_key, found]
    rfl
  have penalized : (twoWorkers.penalize base floor admittedAt now domains key).1 =
      RateDomainLimiter.modify domains key (twoWorkers.penalty base floor admittedAt now) := by
    rw [RateDomainLimiter.penalize, known, if_pos present]
  rw [penalized]
  refine ⟨twoWorkers.penalty base floor admittedAt now domain, ?_, ?_⟩
  · refine find_modify.trans ?_
    rw [if_pos rfl, found]
    rfl
  · rw [mailbox_ceiling, penalty]
    dsimp only
    rw [fresh, unlimited]
    norm_num [twoWorkers, FloatRounding.exact]

/-! ## Rounds -/

/-- The user of one of many mailboxes. -/
def crowdUser (index : Nat) : String := String.ofList (List.replicate index 'a')

def crowdSource (index : Nat) : SideIdentity where
  endpoint := "imap.example.org:993"
  user := crowdUser index

def crowdDestination : SideIdentity where
  endpoint := "imap.example.com:993"
  user := "user"

def crowdPath (index : Nat) : RateDomainPath :=
  .new id (crowdSource index) crowdDestination

theorem trim_crowdUser (index : Nat) : trim (crowdUser index) = crowdUser index := by
  simp [trim, crowdUser, isWhitespace]

theorem crowdMailbox_injective :
    Function.Injective fun index => (crowdPath index).source.mailbox := by
  intro left right same
  have scopes : (crowdUser left ++ " @ ") ++ "imap.example.org:993" =
      (crowdUser right ++ " @ ") ++ "imap.example.org:993" := by
    have scopes := congrArg DomainKey.scope same
    simpa only [crowdPath, RateDomainPath.new, sideChain, crowdSource, trim_crowdUser, id]
      using scopes
  have users := congrArg String.length scopes
  simpa [crowdUser] using users

/-- Some mailbox is not in the table. -/
theorem exists_fresh (domains : Domains) :
    ∃ index, domains.find (crowdPath index).source.mailbox = none := by
  obtain ⟨_, ⟨index, rfl⟩, absent⟩ :=
    (Set.infinite_range_of_injective crowdMailbox_injective).exists_notMem_finset
      (domains.rows.map Domain.key).toFinset
  refine ⟨index, Table.find_eq_none.mpr fun domain isDomain sameKey => absent ?_⟩
  exact List.mem_toFinset.mpr (List.mem_map.mpr ⟨domain, isDomain, sameKey⟩)

theorem exists_bound (rows : List Domain) :
    ∃ bound, ∀ domain ∈ rows, domain.blockedUntil ≤ bound := by
  induction rows with
  | nil => exact ⟨0, fun _ isRow => absurd isRow List.not_mem_nil⟩
  | cons row rest ih =>
    obtain ⟨bound, bounded⟩ := ih
    refine ⟨max row.blockedUntil bound, ?_⟩
    intro domain isRow
    cases List.mem_cons.mp isRow with
    | inl same =>
      rw [same]
      exact Nat.le_max_left _ _
    | inr isRest => exact (bounded domain isRest).trans (Nat.le_max_right _ _)

/-- Some time is after all cooldowns. -/
theorem exists_quiet (system : RateSystem) : ∃ now, system.now ≤ now ∧
    ∀ domain ∈ system.domains, domain.blockedUntil ≤ now := by
  obtain ⟨bound, bounded⟩ := exists_bound system.domains.rows
  refine ⟨max system.now bound, Nat.le_max_left _ _, ?_⟩
  exact fun domain isDomain => (bounded domain isDomain).trans (Nat.le_max_right _ _)

/-- An idle limiter admits any path once nothing cools down. -/
theorem refusal_quiet {system : RateSystem} (idle : ∀ key, inFlightOf system.domains key = 0)
    (quiet : ∀ domain ∈ system.domains, domain.blockedUntil ≤ now) (path : RateDomainPath) :
    twoWorkers.refusal system.domains path now = none := by
  have known : ∀ domain ∈ path.all.filterMap system.domains.find,
      domain.blockedUntil ≤ now ∧ domain.inFlight = 0 := by
    intro domain isKnown
    obtain ⟨key, _, found⟩ := List.mem_filterMap.mp isKnown
    have count := idle key
    rw [inFlightOf, found] at count
    exact ⟨quiet domain (Table.find_eq_some.mp found).1, count⟩
  have cooling : (path.all.filterMap system.domains.find).filter (now < ·.blockedUntil) = [] := by
    rw [List.filter_eq_nil_iff]
    intro domain isKnown
    rw [decide_eq_true_iff, not_lt]
    exact (known domain isKnown).1
  have slots : (path.all.filterMap system.domains.find).any
      (fun domain => !twoWorkers.hasSlot domain) = false := by
    rw [List.any_eq_false]
    intro domain isKnown
    have slot : twoWorkers.hasSlot domain = true := by
      rw [hasSlot, (known domain isKnown).2, decide_eq_true_iff]
      exact lt_max_of_lt_right (by norm_num [asFloat, twoWorkers, FloatRounding.exact])
    rw [slot]
    exact Bool.false_ne_true
  simp only [refusal, cooling, slots]
  rfl

theorem Throttled.takeSlots (throttled : Throttled domains k) (keys : List DomainKey) :
    Throttled (keys.foldl (twoWorkers.takeSlot now) domains) k := by
  refine List.foldlRecOn (motive := fun domains : Domains => Throttled domains k) _ _
    throttled ?_
  intro domains held key _
  exact held.entry.modify fun _ below => below

theorem Throttled.releaseSlots (throttled : Throttled domains k) (path : RateDomainPath) :
    Throttled (twoWorkers.releaseSlots domains path now) k := by
  refine List.foldlRecOn (motive := fun domains : Domains => Throttled domains k) _ _
    throttled ?_
  exact fun _ held _ _ => held.releaseSlot

theorem Throttled.attributed (throttled : Throttled domains k) (admission : Admission)
    (failure : ClassifiedFailure) :
    Throttled (twoWorkers.attributed domains admission failure now).1 k := by
  refine attributed_invariant (motive := fun domains : Domains => Throttled domains k) ?_ ?_ ?_
    throttled
  · exact fun _ _ held => held.entry
  · exact fun base floor _ _ held => held.modify (penalty_below base floor admission.admittedAt)
  · exact fun _ _ _ _ _ held => held.modify fun _ below => below

/-- A mailbox is throttled by its first failure. -/
theorem throttled_of_attributed (admission : Admission) {domain : Domain}
    (found : domains.find admission.path.source.mailbox = some domain)
    (fresh : domain.lastCapacityFailure = none) (unlimited : domain.limit = 2) :
    Throttled (twoWorkers.attributed domains admission throttle now).1
      admission.path.source.mailbox := by
  have capacity : throttle.isCapacity = true := rfl
  rw [RateDomainLimiter.attributed, if_pos capacity]
  simp only [throttle, List.foldl_cons, List.foldl_nil, blame]
  refine List.foldlRecOn (motive := fun penalties : Penalties =>
    Throttled penalties.1 admission.path.source.mailbox) _ _ ?_ ?_
  · exact throttled_of_penalize _ _ _ found fresh unlimited
  · exact fun penalties held link _ => held.escalate _ _ _ penalties link

/-- Admission leaves a new mailbox without failures. -/
theorem unthrottled_takeSlots (unknown : domains.find k = none) (keys : List DomainKey) :
    ∀ domain ∈ keys.foldl (twoWorkers.takeSlot now) domains,
      domain.key = k → domain.lastCapacityFailure = none ∧ domain.limit = 2 := by
  refine List.foldlRecOn (motive := fun domains : Domains => ∀ domain ∈ domains,
    domain.key = k → domain.lastCapacityFailure = none ∧ domain.limit = 2) _ _ ?_ ?_
  · exact fun domain isDomain same => absurd same (Table.find_eq_none.mp unknown domain isDomain)
  · intro domains held key _
    exact forall_modify (forall_entry held fun _ => ⟨rfl, mailbox_ceiling key⟩)
      fun _ unthrottled => unthrottled

/-- What the limiter is meant to keep: counts are those of the live admissions. -/
def SlotsExact : Prop :=
  ∀ (limiter : RateDomainLimiter) (toLowercase : String → String)
    (operations : List RateOperation) (system : RateSystem),
    Trace (Step limiter toLowercase) {} operations system →
      ∀ key, inFlightOf system.domains key = system.holders key

theorem observed_step (admission : Admission) (now : Nat) :
    Step twoWorkers id { now, domains, live := [admission] }
      (.observeClassified 0 throttle now) {
        now
        domains := (twoWorkers.attributed domains admission throttle now).1
        live := [admission] } := by
  refine ⟨Nat.le_refl now, ?_⟩
  simp only [RateSystem.apply, List.getElem?_cons_zero, Option.map_some, observeClassified]

theorem dropped_step (admission : Admission) (now : Nat) :
    Step twoWorkers id { now, domains, live := [admission] } (.drop 0 now) {
        now
        domains := twoWorkers.releaseSlots domains admission.path now
        live := [] } :=
  ⟨Nat.le_refl now, rfl⟩

/-- If counts were exact, a further mailbox could always be throttled. -/
theorem exists_round (exact : SlotsExact) {operations : List RateOperation}
    {system : RateSystem} (run : Trace (Step twoWorkers id) {} operations system)
    (idle : system.live = []) {keys : List DomainKey}
    (throttled : ∀ key ∈ keys, Throttled system.domains key) :
    ∃ operations next key, Trace (Step twoWorkers id) {} operations next ∧ next.live = [] ∧
      key ∉ keys ∧ ∀ other ∈ key :: keys, Throttled next.domains other := by
  obtain ⟨index, unknown⟩ := exists_fresh system.domains
  obtain ⟨now, later, quiet⟩ := exists_quiet system
  have counts : ∀ key, inFlightOf system.domains key = 0 := by
    intro key
    rw [exact _ _ _ _ run, holders, idle]
    rfl
  have admitted : Step twoWorkers id system
      (.tryAdmit (crowdSource index) crowdDestination now) {
        now
        domains := (crowdPath index).all.foldl (twoWorkers.takeSlot now) system.domains
        live := [⟨crowdPath index, now⟩] } := by
    refine ⟨later, ?_⟩
    have accepted := refusal_quiet counts quiet (crowdPath index)
    rw [crowdPath] at accepted ⊢
    simp only [RateSystem.apply, tryAdmit, accepted, idle, List.nil_append]
  have runAdmitted := run.snoc admitted
  obtain ⟨domain, found⟩ : ∃ domain, ((crowdPath index).all.foldl (twoWorkers.takeSlot now)
      system.domains).find (crowdPath index).source.mailbox = some domain := by
    have count := exact _ _ _ _ runAdmitted (crowdPath index).source.mailbox
    rw [inFlightOf] at count
    cases found : ((crowdPath index).all.foldl (twoWorkers.takeSlot now)
        system.domains).find (crowdPath index).source.mailbox with
    | some domain => exact ⟨domain, rfl⟩
    | none =>
      simp only [found] at count
      simp [holders, RateDomainPath.all, SideChain.keys] at count
  obtain ⟨isDomain, isMailbox⟩ := Table.find_eq_some.mp found
  obtain ⟨fresh, unlimited⟩ := unthrottled_takeSlots unknown _ domain isDomain isMailbox
  refine ⟨_, _, (crowdPath index).source.mailbox, (runAdmitted.snoc (observed_step _ now)).snoc
    (dropped_step _ now), rfl, ?_, ?_⟩
  · intro isKey
    obtain ⟨old, isOld, _⟩ := throttled _ isKey
    rw [unknown] at isOld
    cases isOld
  · intro other isOther
    apply Throttled.releaseSlots
    cases List.mem_cons.mp isOther with
    | inl isNew =>
      rw [isNew]
      exact throttled_of_attributed ⟨crowdPath index, now⟩ found fresh unlimited
    | inr isKey => exact ((throttled other isKey).takeSlots _).attributed _ _

/-- If counts were exact, any number of mailboxes could be throttled. -/
theorem exists_crowd (exact : SlotsExact) (count : Nat) :
    ∃ operations system, ∃ keys : List DomainKey, Trace (Step twoWorkers id) {} operations system ∧
      system.live = [] ∧ keys.length = count ∧ keys.Nodup ∧
      ∀ key ∈ keys, Throttled system.domains key := by
  induction count with
  | zero => exact ⟨[], {}, [], .nil, rfl, rfl, .nil, fun _ isKey => absurd isKey List.not_mem_nil⟩
  | succ count ih =>
    obtain ⟨operations, system, keys, run, idle, length, nodup, throttled⟩ := ih
    obtain ⟨operations, next, key, runNext, idleNext, isNew, throttledNext⟩ :=
      exists_round exact run idle throttled
    refine ⟨operations, next, key :: keys, runNext, idleNext, ?_, ?_, throttledNext⟩
    · rw [List.length_cons, length]
    · exact List.nodup_cons.mpr ⟨isNew, nodup⟩

/-- Once the table is full of throttled mailboxes, an admission is not counted in domains
that are not in it. -/
theorem slots_not_exact : ¬SlotsExact := by
  intro exact
  obtain ⟨operations, system, keys, run, _, length, nodup, throttled⟩ :=
    exists_crowd exact (maxRateDomains + 1)
  have bounded : system.domains.rows.length ≤ maxRateDomains :=
    run.invariant (fun system => system.domains.rows.length ≤ maxRateDomains)
      (Nat.zero_le _) fun step => step.bounded
  have within : keys ⊆ system.domains.rows.map Domain.key := by
    intro key isKey
    obtain ⟨domain, found, _⟩ := throttled key isKey
    obtain ⟨isDomain, sameKey⟩ := Table.find_eq_some.mp found
    exact List.mem_map.mpr ⟨domain, isDomain, sameKey⟩
  have fits : keys.length ≤ system.domains.rows.length := by
    simpa using (nodup.subperm within).length_le
  omega

end RateSystem

end MailSwiftSync
