import MailSwiftSync.RateDomains.Remembering

/-!
# Forgetting idle domains

A limiter that forgets idle domains is compared with one that keeps every domain it has seen.
What is forgotten has no influence any more: the failures it remembers are over, and every
admission that can still report one was made after them.
-/

namespace MailSwiftSync

open Foundation

namespace RateDomainLimiter

/-! ## A limiter that keeps its domains -/

section Keeping

variable (limiter : RateDomainLimiter)

/-- Make sure a domain is remembered. -/
def keepEntry (domains : Domains) (key : DomainKey) (now : Nat) : Domains :=
  if domains.any (·.key = key) then domains
  else (domains.insert (limiter.newDomain key now)).getD domains

theorem taken_key (domain : Domain) :
    ({ domain with inFlight := domain.inFlight + 1 } : Domain).key = domain.key :=
  rfl

def keepSlot (now : Nat) (domains : Domains) (key : DomainKey) : Domains :=
  modify (limiter.keepEntry domains key now) key
    (fun domain => { domain with inFlight := domain.inFlight + 1 }) taken_key

def keepAdmit (domains : Domains) (path : RateDomainPath) (now : Nat) :
    Except Blocked (Domains × Admission) :=
  match limiter.refusal domains path now with
  | some blocked => .error blocked
  | none => .ok (path.all.foldl (limiter.keepSlot now) domains, { path, admittedAt := now })

theorem returned_key (domain : Domain) :
    ({ domain with inFlight := domain.inFlight - 1 } : Domain).key = domain.key :=
  rfl

/-- Give a slot back, and forget nothing. -/
def keepRelease (domains : Domains) (key : DomainKey) : Domains :=
  modify domains key (fun domain => { domain with inFlight := domain.inFlight - 1 })
    returned_key

theorem penalty_key (base floor admittedAt now : Nat) (domain : Domain) :
    (limiter.penalty base floor admittedAt now domain).key = domain.key :=
  rfl

def keepPenalize (base floor admittedAt now : Nat) (domains : Domains) (key : DomainKey) :
    Domains :=
  modify (limiter.keepEntry domains key now) key (limiter.penalty base floor admittedAt now)
    (limiter.penalty_key base floor admittedAt now)

theorem noticed_key (link : DomainKey × DomainKey) (now : Nat) (domain : Domain) :
    (noticed link.2 now domain).key = domain.key :=
  rfl

def keepEscalate (base floor admittedAt now : Nat) (penalties : Penalties)
    (link : DomainKey × DomainKey) : Penalties :=
  let domains := modify (limiter.keepEntry penalties.1 link.1 now) link.1 (noticed link.2 now)
    (noticed_key link now)
  if (domains.find link.1).any (escalationDistinctChildren ≤ ·.childFailures.length) then
    (limiter.keepPenalize base floor admittedAt now domains link.1,
      if link.1 ∉ penalties.2 then penalties.2 ++ [link.1] else penalties.2)
  else (domains, penalties.2)

def keepBlame (base floor : Nat) (admission : Admission) (now : Nat) (penalties : Penalties)
    (side : MailSide) : Penalties :=
  let mailbox := (admission.path.chain side).mailbox
  (admission.path.lineage side).foldl
    (limiter.keepEscalate base floor admission.admittedAt now)
    (limiter.keepPenalize base floor admission.admittedAt now penalties.1 mailbox,
      penalties.2 ++ [mailbox])

def keepAttributed (domains : Domains) (admission : Admission) (failure : ClassifiedFailure)
    (now : Nat) : Penalties :=
  if failure.isCapacity then
    let base := (failure.retryAfter.or failure.suggestedDelay).getD defaultCapacityDelay
    failure.sides.foldl (limiter.keepBlame base (failure.retryAfter.getD 0) admission now)
      (domains, [])
  else (domains, [])

def keepObserve (domains : Domains) (admission : Admission) (failure : ClassifiedFailure)
    (now : Nat) : Domains × List (DomainKey × Nat) :=
  let penalties := limiter.keepAttributed domains admission failure now
  (penalties.1, penalties.2.filterMap fun key =>
    (penalties.1.find key).map fun domain => (key, domain.blockedUntil))

end Keeping

variable {limiter : RateDomainLimiter} {live : List Admission} {now later : Nat}
variable {key k : DomainKey}

/-! ## Domains that behave alike -/

/-- The throttled children that still count. -/
def recentChildren (now : Nat) (domain : Domain) : List (DomainKey × Nat) :=
  domain.childFailures.filter (now < ·.2 + escalationWindow)

/-- A domain without failures, and one whose failures are over: none of them is later than an
admission that is held. -/
structure Outdated (live : List Admission) (now : Nat) (key : DomainKey)
    (forgetful keeper : Domain) : Prop where
  fresh : forgetful.lastCapacityFailure = none
  cool : forgetful.blockedUntil ≤ now
  unescalated : forgetful.consecutiveCapacityFailures = 0
  keeperCool : keeper.blockedUntil ≤ now
  reset : keeper.consecutiveCapacityFailures = 0 ∨
    keeper.blockedUntil + escalationResetAfter ≤ now
  past : ∀ failed ∈ keeper.lastCapacityFailure, failed ≤ now
  earlier : ∀ failed ∈ keeper.lastCapacityFailure, ∀ admission ∈ live,
    key ∈ admission.path.all → failed ≤ admission.admittedAt

/-- The same last failures. -/
structure SameFailures (forgetful keeper : Domain) : Prop where
  blockedUntil : forgetful.blockedUntil = keeper.blockedUntil
  consecutive : forgetful.consecutiveCapacityFailures = keeper.consecutiveCapacityFailures
  last : forgetful.lastCapacityFailure = keeper.lastCapacityFailure

/-- Two records of a domain with the same influence from now on. -/
structure Mirrors (live : List Admission) (now : Nat) (key : DomainKey)
    (forgetful keeper : Domain) : Prop where
  keys : forgetful.key = key ∧ keeper.key = key
  limit : forgetful.limit = keeper.limit
  inFlight : forgetful.inFlight = keeper.inFlight
  children : recentChildren now forgetful = recentChildren now keeper
  failures : SameFailures forgetful keeper ∨ Outdated live now key forgetful keeper

variable {forgetful keeper : Domain}

theorem recentChildren_mono (notEarlier : now ≤ later) (domain : Domain) :
    recentChildren later domain =
      (recentChildren now domain).filter (later < ·.2 + escalationWindow) := by
  rw [recentChildren, recentChildren, List.filter_filter]
  refine List.filter_congr fun failure _ => ?_
  rw [← Bool.decide_and, decide_eq_decide]
  exact ⟨fun recent => ⟨recent, notEarlier.trans_lt recent⟩, And.left⟩

/-- Time passes, and admissions end. -/
theorem Mirrors.mono {fewer : List Admission} (mirrors : Mirrors live now key forgetful keeper)
    (notEarlier : now ≤ later) (subset : fewer ⊆ live) :
    Mirrors fewer later key forgetful keeper where
  keys := mirrors.keys
  limit := mirrors.limit
  inFlight := mirrors.inFlight
  children := by
    rw [recentChildren_mono notEarlier, recentChildren_mono notEarlier, mirrors.children]
  failures := by
    cases mirrors.failures with
    | inl same => exact .inl same
    | inr outdated =>
      right
      exact {
        fresh := outdated.fresh
        cool := outdated.cool.trans notEarlier
        unescalated := outdated.unescalated
        keeperCool := outdated.keeperCool.trans notEarlier
        reset := outdated.reset.imp_right fun old => old.trans notEarlier
        past := fun failed isFailed => (outdated.past failed isFailed).trans notEarlier
        earlier := fun failed isFailed admission isLive =>
          outdated.earlier failed isFailed admission (subset isLive) }

/-- An admission made now is later than all failures. -/
theorem Mirrors.admission (mirrors : Mirrors live now key forgetful keeper)
    (path : RateDomainPath) :
    Mirrors (live ++ [⟨path, now⟩]) now key forgetful keeper where
  keys := mirrors.keys
  limit := mirrors.limit
  inFlight := mirrors.inFlight
  children := mirrors.children
  failures := by
    cases mirrors.failures with
    | inl same => exact .inl same
    | inr outdated =>
      refine .inr { outdated with earlier := ?_ }
      intro failed isFailed admission isLive isKey
      cases List.mem_append.mp isLive with
      | inl isOld => exact outdated.earlier failed isFailed admission isOld isKey
      | inr isNew =>
        rw [List.mem_singleton.mp isNew]
        exact outdated.past failed isFailed

/-- A domain that is forgotten mirrors a fresh one. -/
theorem Mirrors.forget (mirrors : Mirrors live now key forgetful keeper)
    (forgettable : limiter.forgettable forgetful now = true) (regular : Regular now forgetful)
    (limited : limiter.Limited forgetful)
    (covered : ∀ admission ∈ live, key ∈ admission.path.all → now ≤ admission.admittedAt) :
    Mirrors live now key (limiter.newDomain key 0) keeper := by
  obtain ⟨cool, reset⟩ := cool_of_forgettable regular forgettable
  simp only [RateDomainLimiter.forgettable, Bool.and_eq_true, decide_eq_true_eq,
    List.all_eq_true] at forgettable
  obtain ⟨⟨⟨idle, isOpen⟩, -⟩, expired⟩ := forgettable
  refine ⟨⟨rfl, mirrors.keys.2⟩, ?_, idle.symm.trans mirrors.inFlight, ?_, .inr ?_⟩
  · have isCeiling : forgetful.limit = limiter.domainCeiling forgetful.key :=
      le_antisymm limited.2 isOpen
    rw [← mirrors.limit, isCeiling, mirrors.keys.1]
    rfl
  · rw [← mirrors.children, recentChildren, recentChildren]
    refine (List.filter_eq_nil_iff.mpr fun failure isFailure => ?_).symm
    rw [decide_eq_true_iff, not_lt]
    exact expired failure isFailure
  · cases mirrors.failures with
    | inl same =>
      refine ⟨rfl, Nat.zero_le _, rfl, same.blockedUntil ▸ cool, ?_, ?_, ?_⟩
      · rw [← same.consecutive, ← same.blockedUntil]
        exact reset
      · rw [← same.last]
        exact regular.past
      · intro failed isFailed admission isLive isKey
        rw [← same.last] at isFailed
        exact (regular.past failed isFailed).trans (covered admission isLive isKey)
    | inr outdated =>
      exact ⟨rfl, Nat.zero_le _, rfl, outdated.keeperCool, outdated.reset, outdated.past,
        outdated.earlier⟩

/-- A domain that is created again is like one that is not remembered. -/
theorem Mirrors.create (mirrors : Mirrors live now key (limiter.newDomain key 0) keeper) :
    Mirrors live now key (limiter.newDomain key now) keeper := by
  refine ⟨mirrors.keys, mirrors.limit, mirrors.inFlight, mirrors.children, .inr ?_⟩
  cases mirrors.failures with
  | inl same =>
    refine ⟨rfl, le_rfl, rfl, ?_, .inl same.consecutive.symm, ?_, ?_⟩
    · rw [← same.blockedUntil]
      exact Nat.zero_le _
    · rw [← same.last]
      exact fun failed isFailed => absurd isFailed (Option.not_mem_none _)
    · rw [← same.last]
      exact fun failed isFailed => absurd isFailed (Option.not_mem_none _)
  | inr outdated =>
    exact ⟨rfl, le_rfl, rfl, outdated.keeperCool, outdated.reset, outdated.past, outdated.earlier⟩

/-- The limiter that keeps its domains creates one for the first time. -/
theorem Mirrors.keep (mirrors : Mirrors live now key forgetful (limiter.newDomain key 0)) :
    Mirrors live now key forgetful (limiter.newDomain key now) := by
  refine ⟨mirrors.keys, mirrors.limit, mirrors.inFlight, mirrors.children, .inr ?_⟩
  have noFailure : ∀ failed ∈ (limiter.newDomain key now).lastCapacityFailure, False :=
    fun failed isFailed => absurd isFailed (Option.not_mem_none _)
  cases mirrors.failures with
  | inl same =>
    refine ⟨same.last, ?_, same.consecutive, le_rfl, .inl rfl,
      fun failed isFailed => (noFailure failed isFailed).elim,
      fun failed isFailed => (noFailure failed isFailed).elim⟩
    rw [same.blockedUntil]
    exact Nat.zero_le _
  | inr outdated =>
    exact ⟨outdated.fresh, outdated.cool, outdated.unescalated, le_rfl, .inl rfl,
      fun failed isFailed => (noFailure failed isFailed).elim,
      fun failed isFailed => (noFailure failed isFailed).elim⟩

/-! ## Changes of a domain -/

theorem Mirrors.count (mirrors : Mirrors live now key forgetful keeper) (change : Nat → Nat) :
    Mirrors live now key { forgetful with inFlight := change forgetful.inFlight }
      { keeper with inFlight := change keeper.inFlight } := by
  refine ⟨mirrors.keys, mirrors.limit, congrArg change mirrors.inFlight, mirrors.children, ?_⟩
  cases mirrors.failures with
  | inl same => exact .inl ⟨same.blockedUntil, same.consecutive, same.last⟩
  | inr outdated => exact .inr { outdated with }

theorem noticed_children (child : DomainKey) (domain : Domain) :
    (noticed child now domain).childFailures =
      (recentChildren now domain).filter (·.1 ≠ child) ++ [(child, now)] := by
  rw [noticed, recentChildren, List.filter_filter]

theorem Mirrors.noticed (mirrors : Mirrors live now key forgetful keeper) (child : DomainKey) :
    (RateDomainLimiter.noticed child now forgetful).childFailures =
        (RateDomainLimiter.noticed child now keeper).childFailures ∧
      Mirrors live now key (RateDomainLimiter.noticed child now forgetful)
        (RateDomainLimiter.noticed child now keeper) := by
  have same : (RateDomainLimiter.noticed child now forgetful).childFailures =
      (RateDomainLimiter.noticed child now keeper).childFailures := by
    rw [noticed_children, noticed_children, mirrors.children]
  refine ⟨same, mirrors.keys, mirrors.limit, mirrors.inFlight, ?_, ?_⟩
  · rw [recentChildren, recentChildren, same]
  · cases mirrors.failures with
    | inl same => exact .inl ⟨same.blockedUntil, same.consecutive, same.last⟩
    | inr outdated => exact .inr { outdated with }

variable {admission : Admission}

/-- A failure that an admission reports halves both limits or none. -/
theorem Mirrors.halves (mirrors : Mirrors live now key forgetful keeper)
    (isLive : admission ∈ live) (isKey : key ∈ admission.path.all) :
    forgetful.lastCapacityFailure.all (· ≤ admission.admittedAt) =
      keeper.lastCapacityFailure.all (· ≤ admission.admittedAt) := by
  cases mirrors.failures with
  | inl same => rw [same.last]
  | inr outdated =>
    rw [outdated.fresh, Option.all_none, eq_comm, Option.all_eq_true]
    intro failed isFailed
    exact decide_eq_true (outdated.earlier failed isFailed admission isLive isKey)

theorem Mirrors.rewarded (mirrors : Mirrors live now key forgetful keeper)
    (isLive : admission ∈ live) (isKey : key ∈ admission.path.all) :
    Mirrors live now key (limiter.rewarded admission.admittedAt now forgetful)
      (limiter.rewarded admission.admittedAt now keeper) := by
  rw [RateDomainLimiter.rewarded, RateDomainLimiter.rewarded, mirrors.halves isLive isKey]
  split
  next =>
    refine ⟨mirrors.keys, ?_, mirrors.inFlight, mirrors.children, ?_⟩
    · dsimp only
      rw [mirrors.limit, mirrors.keys.1, mirrors.keys.2]
    · cases mirrors.failures with
      | inl same =>
        refine .inl ⟨same.blockedUntil, ?_, same.last⟩
        dsimp only
        rw [same.blockedUntil, same.consecutive]
      | inr outdated =>
        refine .inr { outdated with
          unescalated := ?_
          reset := .inl ?_ }
        · exact if_pos outdated.cool
        · exact if_pos outdated.keeperCool
  next => exact mirrors

/-- Both escalate in the same way. -/
theorem Mirrors.escalation (mirrors : Mirrors live now key forgetful keeper) :
    (if forgetful.blockedUntil + escalationResetAfter ≤ now then 0
        else forgetful.consecutiveCapacityFailures) =
      if keeper.blockedUntil + escalationResetAfter ≤ now then 0
        else keeper.consecutiveCapacityFailures := by
  cases mirrors.failures with
  | inl same => rw [same.blockedUntil, same.consecutive]
  | inr outdated =>
    rw [outdated.unescalated, ite_self]
    cases outdated.reset with
    | inl none => rw [none, ite_self]
    | inr old => rw [if_pos old]

theorem Mirrors.cooldown (mirrors : Mirrors live now key forgetful keeper) (delay : Nat) :
    max forgetful.blockedUntil (now + delay) = max keeper.blockedUntil (now + delay) := by
  cases mirrors.failures with
  | inl same => rw [same.blockedUntil]
  | inr outdated =>
    rw [max_eq_right (outdated.cool.trans (Nat.le_add_right _ _)),
      max_eq_right (outdated.keeperCool.trans (Nat.le_add_right _ _))]

/-- A penalty leaves the same failures. -/
theorem Mirrors.penalty (mirrors : Mirrors live now key forgetful keeper)
    (isLive : admission ∈ live) (isKey : key ∈ admission.path.all) (base floor : Nat) :
    (limiter.penalty base floor admission.admittedAt now forgetful).blockedUntil =
        (limiter.penalty base floor admission.admittedAt now keeper).blockedUntil ∧
      Mirrors live now key (limiter.penalty base floor admission.admittedAt now forgetful)
        (limiter.penalty base floor admission.admittedAt now keeper) := by
  have same : SameFailures (limiter.penalty base floor admission.admittedAt now forgetful)
      (limiter.penalty base floor admission.admittedAt now keeper) := by
    refine ⟨?_, ?_, rfl⟩
    · rw [RateDomainLimiter.penalty, RateDomainLimiter.penalty]
      dsimp only
      rw [mirrors.escalation, mirrors.cooldown]
    · rw [RateDomainLimiter.penalty, RateDomainLimiter.penalty]
      dsimp only
      rw [mirrors.escalation]
  refine ⟨same.blockedUntil, mirrors.keys, ?_, mirrors.inFlight, mirrors.children, .inl same⟩
  rw [RateDomainLimiter.penalty, RateDomainLimiter.penalty]
  dsimp only
  rw [mirrors.halves isLive isKey, mirrors.limit]

/-! ## Tables that behave alike -/

/-- A domain as it is remembered, or as new when it is not. -/
def recollect (limiter : RateDomainLimiter) (domains : Domains) (key : DomainKey) : Domain :=
  (domains.find key).getD (limiter.newDomain key 0)

variable {domains kept : Domains}

theorem recollect_of_find {domain : Domain} (found : domains.find key = some domain) :
    limiter.recollect domains key = domain := by
  rw [recollect, found, Option.getD_some]

theorem recollect_of_none (unknown : domains.find key = none) :
    limiter.recollect domains key = limiter.newDomain key 0 := by
  rw [recollect, unknown, Option.getD_none]

theorem recollect_inFlight (limiter : RateDomainLimiter) (domains : Domains) (key : DomainKey) :
    (limiter.recollect domains key).inFlight = inFlightOf domains key := by
  rw [recollect, inFlightOf]
  cases domains.find key with
  | none => rfl
  | some domain => rfl

theorem recollect_modify {change : Domain → Domain}
    {keepsKey : ∀ domain, (change domain).key = domain.key}
    (known : (domains.find key).isSome = true) :
    limiter.recollect (modify domains key change keepsKey) k =
      if k = key then change (limiter.recollect domains k) else limiter.recollect domains k := by
  rw [recollect, find_modify, recollect]
  split
  next isKey =>
    rw [← isKey] at known
    obtain ⟨domain, found⟩ := Option.isSome_iff_exists.mp known
    rw [found]
    rfl
  next => rfl

/-- Two tables in which each domain has the same influence from now on. -/
structure Mirroring (limiter : RateDomainLimiter) (live : List Admission) (now : Nat)
    (domains kept : Domains) : Prop where
  mirrors : ∀ key, Mirrors live now key (limiter.recollect domains key) (limiter.recollect kept key)
  regular : ∀ domain ∈ domains, Regular now domain
  limited : ∀ domain ∈ domains, limiter.Limited domain

/-- The admissions through an idle domain are not made before now. -/
def Covered (live : List Admission) (now : Nat) (domains : Domains) : Prop :=
  ∀ key, inFlightOf domains key = 0 →
    ∀ admission ∈ live, key ∈ admission.path.all → now ≤ admission.admittedAt

theorem Mirroring.inFlight (mirroring : Mirroring limiter live now domains kept)
    (key : DomainKey) : inFlightOf kept key = inFlightOf domains key := by
  rw [← recollect_inFlight limiter, ← recollect_inFlight limiter]
  exact (mirroring.mirrors key).inFlight.symm

theorem Mirroring.held (mirroring : Mirroring limiter live now domains kept)
    (held : Held admission domains) : Held admission kept := by
  intro key isKey
  rw [mirroring.inFlight]
  exact held key isKey

theorem Mirroring.mono {fewer : List Admission}
    (mirroring : Mirroring limiter live now domains kept) (notEarlier : now ≤ later)
    (subset : fewer ⊆ live) : Mirroring limiter fewer later domains kept where
  mirrors := fun key => (mirroring.mirrors key).mono notEarlier subset
  regular := fun domain isDomain => (mirroring.regular domain isDomain).mono notEarlier
  limited := mirroring.limited

/-- The same change of a domain that both remember. -/
theorem Mirroring.modify (mirroring : Mirroring limiter live now domains kept)
    (change : Domain → Domain) (keepsKey : ∀ domain, (change domain).key = domain.key)
    (known : (domains.find key).isSome = true) (keptKnown : (kept.find key).isSome = true)
    (mirrors : ∀ {forgetful keeper}, Mirrors live now key forgetful keeper →
      Mirrors live now key (change forgetful) (change keeper))
    (regular : ∀ domain, Regular now domain → Regular now (change domain))
    (limited : ∀ domain, limiter.Limited domain → limiter.Limited (change domain)) :
    Mirroring limiter live now (RateDomainLimiter.modify domains key change keepsKey)
      (RateDomainLimiter.modify kept key change keepsKey) where
  mirrors := by
    intro k
    rw [recollect_modify known, recollect_modify keptKnown]
    split
    next isKey =>
      rw [isKey]
      exact mirrors (mirroring.mirrors key)
    next => exact mirroring.mirrors k
  regular := forall_modify mirroring.regular regular
  limited := forall_modify mirroring.limited limited

/-- Looking a domain up forgets only domains without influence. -/
theorem Mirroring.entry (mirroring : Mirroring limiter live now domains kept)
    (covered : Covered live now domains) (key : DomainKey) :
    Mirroring limiter live now (limiter.entry domains key now) kept where
  mirrors := by
    intro k
    have mirrors := mirroring.mirrors k
    have refreshed : limiter.Refreshed now k (domains.find k)
        ((limiter.entry domains key now).find k) := refreshed_entry
    cases found : domains.find k with
    | none =>
      rw [recollect_of_none found] at mirrors
      rw [found] at refreshed
      cases after : (limiter.entry domains key now).find k with
      | none =>
        rw [recollect_of_none after]
        exact mirrors
      | some domain =>
        rw [after] at refreshed
        cases refreshed
        rw [recollect_of_find after]
        exact mirrors.create
    | some domain =>
      rw [recollect_of_find found] at mirrors
      rw [found] at refreshed
      cases after : (limiter.entry domains key now).find k with
      | none =>
        rw [after] at refreshed
        rw [recollect_of_none after]
        cases refreshed with
        | forgotten _ forgettable =>
          have isDomain := (Table.find_eq_some.mp found).1
          refine mirrors.forget forgettable (mirroring.regular domain isDomain)
            (mirroring.limited domain isDomain) (covered k ?_)
          rw [inFlightOf, found]
          exact forgettable_idle forgettable
      | some other =>
        rw [after] at refreshed
        cases refreshed
        rw [recollect_of_find after]
        exact mirrors
  regular := forall_entry mirroring.regular .newDomain
  limited := forall_entry mirroring.limited limited_newDomain

theorem find_keepEntry : (limiter.keepEntry kept key now).find k =
    if k = key then some ((kept.find key).getD (limiter.newDomain key now)) else kept.find k := by
  rw [keepEntry, any_key]
  cases found : kept.find key with
  | some domain =>
    rw [Option.isSome_some, if_pos rfl]
    split
    next isKey => rw [isKey, found]; rfl
    next => rfl
  | none =>
    obtain ⟨next, inserted⟩ := Table.insert_of_fresh
      (show ∀ domain ∈ kept, domain.key ≠ (limiter.newDomain key now).key from
        Table.find_eq_none.mp found)
    rw [Option.isSome_none, if_neg Bool.false_ne_true, inserted, Option.getD_some,
      Table.find_insert inserted]
    split
    next isNew =>
      have isKey : k = key := Eq.symm isNew
      rw [if_pos isKey]
      rfl
    next notNew =>
      have notKey : k ≠ key := fun isKey => notNew (Eq.symm isKey)
      rw [if_neg notKey]

/-- The limiter that keeps its domains creates one. -/
theorem Mirroring.keepEntry (mirroring : Mirroring limiter live now domains kept)
    (key : DomainKey) :
    Mirroring limiter live now domains (limiter.keepEntry kept key now) where
  mirrors := by
    intro k
    have mirrors := mirroring.mirrors k
    cases found : kept.find k with
    | some domain =>
      have same : (limiter.keepEntry kept key now).find k = some domain := by
        rw [find_keepEntry]
        split
        next isKey => rw [← isKey, found]; rfl
        next => exact found
      rw [recollect_of_find found] at mirrors
      rw [recollect_of_find same]
      exact mirrors
    | none =>
      rw [recollect_of_none found] at mirrors
      have afterwards : (limiter.keepEntry kept key now).find k =
          if k = key then some (limiter.newDomain key now) else none := by
        rw [find_keepEntry]
        split
        next isKey => rw [← isKey, found, Option.getD_none]
        next => exact found
      split at afterwards
      next isKey =>
        rw [recollect_of_find afterwards, ← isKey]
        exact mirrors.keep
      next =>
        rw [recollect_of_none afterwards]
        exact mirrors
  regular := mirroring.regular
  limited := mirroring.limited

/-- Forgetting idle domains. -/
theorem Mirroring.delete (mirroring : Mirroring limiter live now domains kept)
    (covered : Covered live now domains) {forgets : Domain → Bool}
    (idle : ∀ domain, forgets domain = true → limiter.forgettable domain now = true) :
    Mirroring limiter live now (domains.delete forgets) kept where
  mirrors := by
    intro k
    have mirrors := mirroring.mirrors k
    have after : (domains.delete forgets).find k = (domains.find k).filter (!forgets ·) :=
      Table.find_delete
    cases found : domains.find k with
    | none =>
      rw [found, Option.filter_none] at after
      rw [recollect_of_none found] at mirrors
      rw [recollect_of_none after]
      exact mirrors
    | some domain =>
      rw [recollect_of_find found] at mirrors
      rw [found, Option.filter_some] at after
      cases isForgotten : forgets domain with
      | true =>
        have forgettable := idle domain isForgotten
        have isDomain := (Table.find_eq_some.mp found).1
        rw [isForgotten] at after
        rw [recollect_of_none after]
        refine mirrors.forget forgettable (mirroring.regular domain isDomain)
          (mirroring.limited domain isDomain) (covered k ?_)
        rw [inFlightOf, found]
        exact forgettable_idle forgettable
      | false =>
        rw [isForgotten] at after
        rw [recollect_of_find after]
        exact mirrors
  regular := fun domain isDomain => mirroring.regular domain (Table.mem_delete.mp isDomain).1
  limited := fun domain isDomain => mirroring.limited domain (Table.mem_delete.mp isDomain).1

/-! ## Calls -/

/-- Slots are taken alike, unless the table is stuck. -/
theorem Mirroring.takeSlots (mirroring : Mirroring limiter live now domains kept)
    (covered : Covered live now domains) (keys : List DomainKey) :
    Mirroring limiter live now (keys.foldl (limiter.takeSlot now) domains)
        (keys.foldl (limiter.keepSlot now) kept) ∨
      limiter.Stuck (keys.foldl (limiter.takeSlot now) domains) now := by
  induction keys generalizing domains kept with
  | nil => exact .inl mirroring
  | cons key keys ih =>
    cases limiter.remembered_or_stuck domains key now with
    | inr stuck => exact .inr (stuck.counted.takeSlots keys)
    | inl remembered =>
      have keptRemembered : ((limiter.keepEntry kept key now).find key).isSome = true := by
        rw [find_keepEntry, if_pos rfl]
        rfl
      have entered := (mirroring.entry covered key).keepEntry key
      refine ih ?_ ?_
      · exact entered.modify (fun domain => { domain with inFlight := domain.inFlight + 1 })
          (fun _ => rfl) remembered keptRemembered (fun held => held.count (· + 1))
          (fun _ regular => regular.inFlight _) fun _ limited => limited
      · intro k isIdle
        rw [inFlightOf_takeSlot remembered] at isIdle
        exact covered k (Nat.eq_zero_of_add_eq_zero_right isIdle)

/-- The slots of an admission that ended are given back alike. -/
theorem Mirroring.releases (mirroring : Mirroring limiter live now domains kept)
    {keys : List DomainKey} (counts : ∀ k,
      live.countP (fun admission => k ∈ admission.path.all) + keys.count k ≤
        inFlightOf domains k) :
    Mirroring limiter live now (keys.foldl (limiter.releaseSlot now) domains)
      (keys.foldl keepRelease kept) := by
  induction keys generalizing domains kept with
  | nil => exact mirroring
  | cons key keys ih =>
    have isHeld : 0 < inFlightOf domains key := by
      have count := counts key
      rw [count_cons_key, if_pos rfl] at count
      omega
    have known := known_of_inFlight isHeld
    have keptKnown := known_of_inFlight ((mirroring.inFlight key).symm ▸ isHeld)
    have released : Mirroring limiter live now
        (RateDomainLimiter.modify domains key fun domain =>
          { domain with inFlight := domain.inFlight - 1 }) (keepRelease kept key) :=
      mirroring.modify (fun domain => { domain with inFlight := domain.inFlight - 1 })
        (fun _ => rfl) known keptKnown (fun held => held.count (· - 1))
        (fun _ regular => regular.inFlight _) fun _ limited => limited
    have covered : Covered live now (RateDomainLimiter.modify domains key fun domain =>
        { domain with inFlight := domain.inFlight - 1 }) := by
      intro k isIdle admission isLive isKey
      have through : 0 < live.countP fun admission => k ∈ admission.path.all :=
        List.countP_pos_iff.mpr ⟨admission, isLive, decide_eq_true isKey⟩
      have count := counts k
      rw [count_cons_key] at count
      rw [← recollect_inFlight limiter, recollect_modify known] at isIdle
      split at isIdle
      next isKey' =>
        have left : inFlightOf domains k - 1 = 0 := by
          rw [← recollect_inFlight limiter]
          exact isIdle
        rw [if_pos isKey'] at count
        omega
      next =>
        rw [recollect_inFlight] at isIdle
        omega
    refine ih (released.delete covered fun domain isForgotten => ?_) fun k => ?_
    · rw [Bool.and_eq_true] at isForgotten
      exact isForgotten.2
    · have count := counts k
      rw [count_cons_key] at count
      rw [inFlightOf_releaseSlot]
      omega

/-- A success is rewarded alike. -/
theorem Mirroring.rewards (mirroring : Mirroring limiter live now domains kept)
    (isLive : admission ∈ live) (held : Held admission domains) :
    Mirroring limiter live now (limiter.observeSuccess domains admission now)
      (limiter.observeSuccess kept admission now) := by
  have rewarded : ∀ keys ⊆ admission.path.all, ∀ domains kept,
      Mirroring limiter live now domains kept → Held admission domains →
      Mirroring limiter live now
        (keys.foldl (fun domains key => RateDomainLimiter.modify domains key
          (limiter.rewarded admission.admittedAt now)
          (limiter.rewarded_key admission.admittedAt now)) domains)
        (keys.foldl (fun domains key => RateDomainLimiter.modify domains key
          (limiter.rewarded admission.admittedAt now)
          (limiter.rewarded_key admission.admittedAt now)) kept) := by
    intro keys within
    induction keys with
    | nil => exact fun _ _ mirroring _ => mirroring
    | cons key keys ih =>
      intro domains kept mirroring held
      have isKey := within List.mem_cons_self
      have keptHeld := mirroring.held held
      refine ih (fun other isOther => within (List.mem_cons_of_mem _ isOther)) _ _ ?_ ?_
      · exact mirroring.modify _ _ (held.known isKey) (keptHeld.known isKey)
          (fun mirrors => mirrors.rewarded isLive isKey)
          (fun _ regular => regular.rewarded _ _) fun _ limited => limited_rewarded limited _
      · intro k isOther
        rw [RateSystem.inFlightOf_rewarded]
        exact held k isOther
  exact rewarded admission.path.all (List.Subset.refl _) domains kept mirroring held

/-! ## Failures -/

section Failures

variable {admission : Admission} {left right : Penalties} {base floor : Nat}

/-- A failure attributed alike so far: the same domains are penalized, until the same time. -/
structure Blaming (limiter : RateDomainLimiter) (live : List Admission) (admission : Admission)
    (now : Nat) (left right : Penalties) : Prop where
  mirroring : Mirroring limiter live now left.1 right.1
  held : Held admission left.1
  reported : right.2 = left.2
  cooldowns : ∀ key ∈ left.2, key ∈ admission.path.all ∧
    (limiter.recollect left.1 key).blockedUntil = (limiter.recollect right.1 key).blockedUntil

theorem keepEntry_known (known : (domains.find key).isSome = true) :
    limiter.keepEntry domains key now = domains := by
  rw [keepEntry, any_key, if_pos known]

/-- A change of a domain of the path. -/
theorem Blaming.modify (blaming : Blaming limiter live admission now left right)
    (isKey : key ∈ admission.path.all) (change : Domain → Domain)
    (keepsKey : ∀ domain, (change domain).key = domain.key)
    (mirrors : ∀ {forgetful keeper}, Mirrors live now key forgetful keeper →
      Mirrors live now key (change forgetful) (change keeper))
    (regular : ∀ domain, Regular now domain → Regular now (change domain))
    (limited : ∀ domain, limiter.Limited domain → limiter.Limited (change domain))
    (keepsCount : ∀ domain, (change domain).inFlight = domain.inFlight)
    {keys : List DomainKey} (only : ∀ k ∈ keys, k ∈ left.2 ∨ k = key)
    (same : key ∈ keys → (change (limiter.recollect left.1 key)).blockedUntil =
      (change (limiter.recollect right.1 key)).blockedUntil) :
    Blaming limiter live admission now
      (RateDomainLimiter.modify left.1 key change keepsKey, keys)
      (RateDomainLimiter.modify right.1 key change keepsKey, keys) := by
  have known := blaming.held.known isKey
  have keptKnown := (blaming.mirroring.held blaming.held).known isKey
  refine ⟨blaming.mirroring.modify change keepsKey known keptKnown mirrors regular limited,
    @Held.modify _ _ _ blaming.held change keepsKey keepsCount, rfl, fun k isReported => ?_⟩
  dsimp only
  rw [recollect_modify known, recollect_modify keptKnown]
  split
  next isSame =>
    rw [isSame] at isReported ⊢
    exact ⟨isKey, same isReported⟩
  next notSame =>
    cases only k isReported with
    | inl earlier => exact blaming.cooldowns k earlier
    | inr isSame => exact absurd isSame notSame

/-- A penalty of a domain of the path. -/
theorem Blaming.penalize (blaming : Blaming limiter live admission now left right)
    (isLive : admission ∈ live) (isKey : key ∈ admission.path.all) {keys : List DomainKey}
    (only : ∀ k ∈ keys, k ∈ left.2 ∨ k = key) (base floor : Nat) :
    (limiter.penalize base floor admission.admittedAt now left.1 key).2 = true ∧
      Blaming limiter live admission now
        ((limiter.penalize base floor admission.admittedAt now left.1 key).1, keys)
        (limiter.keepPenalize base floor admission.admittedAt now right.1 key, keys) := by
  have known := blaming.held.known isKey
  have keptKnown := (blaming.mirroring.held blaming.held).known isKey
  rw [RateDomainLimiter.penalize, keepPenalize, entry_known known, keepEntry_known keptKnown,
    any_key, if_pos known]
  refine ⟨rfl, blaming.modify isKey (limiter.penalty base floor admission.admittedAt now)
    (fun _ => rfl) ?_ (fun _ regular => regular.penalty _ _ _)
    (fun _ limited => limited_penalty limited _ _ _) (fun _ => rfl) only ?_⟩
  · exact fun mirrors => (mirrors.penalty isLive isKey base floor).2
  · exact fun _ => ((blaming.mirroring.mirrors key).penalty isLive isKey base floor).1

/-- An ancestor learns about a throttled child. -/
theorem Blaming.noticed (blaming : Blaming limiter live admission now left right)
    (isKey : key ∈ admission.path.all) (child : DomainKey) :
    Blaming limiter live admission now
      (RateDomainLimiter.modify left.1 key (RateDomainLimiter.noticed child now), left.2)
      (RateDomainLimiter.modify right.1 key (RateDomainLimiter.noticed child now), left.2) :=
  blaming.modify isKey (RateDomainLimiter.noticed child now) (fun _ => rfl)
    (fun mirrors => (mirrors.noticed child).2) (fun _ regular => regular.noticed child)
    (fun _ limited => limited) (fun _ => rfl) (fun _ isReported => .inl isReported)
    fun isReported => (blaming.cooldowns key isReported).2

theorem find_noticed {domain : Domain} (found : domains.find key = some domain)
    (child : DomainKey) :
    (RateDomainLimiter.modify domains key (RateDomainLimiter.noticed child now)).find key =
      some (RateDomainLimiter.noticed child now domain) := by
  refine (@find_modify domains key key (RateDomainLimiter.noticed child now)
    fun _ => rfl).trans ?_
  rw [if_pos rfl, found]
  rfl

/-- Both count the same throttled children. -/
theorem Blaming.children (blaming : Blaming limiter live admission now left right)
    (isKey : key ∈ admission.path.all) (child : DomainKey) (enough : Nat) :
    ((RateDomainLimiter.modify left.1 key (RateDomainLimiter.noticed child now)).find key).any
        (enough ≤ ·.childFailures.length) =
      ((RateDomainLimiter.modify right.1 key (RateDomainLimiter.noticed child now)).find key).any
        (enough ≤ ·.childFailures.length) := by
  obtain ⟨domain, found⟩ := Option.isSome_iff_exists.mp (blaming.held.known isKey)
  obtain ⟨keeper, keptFound⟩ := Option.isSome_iff_exists.mp
    ((blaming.mirroring.held blaming.held).known isKey)
  have mirrors := blaming.mirroring.mirrors key
  rw [recollect_of_find found, recollect_of_find keptFound] at mirrors
  rw [find_noticed found, find_noticed keptFound, Option.any_some, Option.any_some,
    (mirrors.noticed child).1]

/-- One ancestor is told alike. -/
theorem Blaming.escalate (blaming : Blaming limiter live admission now left right)
    (isLive : admission ∈ live) {link : DomainKey × DomainKey}
    (isKey : link.1 ∈ admission.path.all) :
    Blaming limiter live admission now
      (limiter.escalate base floor admission.admittedAt now left link)
      (limiter.keepEscalate base floor admission.admittedAt now right link) := by
  have known := blaming.held.known isKey
  have keptKnown := (blaming.mirroring.held blaming.held).known isKey
  have noticed := blaming.noticed isKey link.2
  rw [RateDomainLimiter.escalate, keepEscalate, entry_known known, keepEntry_known keptKnown,
    ← blaming.children isKey link.2]
  dsimp only
  split
  next =>
    have only : ∀ k ∈ (if link.1 ∉ left.2 then left.2 ++ [link.1] else left.2),
        k ∈ left.2 ∨ k = link.1 := by
      intro k isReported
      split at isReported
      next => simpa using isReported
      next => exact .inl isReported
    obtain ⟨penalized, after⟩ := noticed.penalize isLive isKey only base floor
    rw [penalized, Bool.true_and, blaming.reported]
    simp only [decide_eq_true_eq]
    exact after
  next =>
    rw [blaming.reported]
    exact noticed

theorem lineage_mem {path : RateDomainPath} {side : MailSide} {link : DomainKey × DomainKey}
    (isLink : link ∈ path.lineage side) : link.1 ∈ path.all := by
  simp only [RateDomainPath.lineage, List.mem_cons, List.not_mem_nil, or_false] at isLink
  cases side with
  | source =>
    rcases isLink with rfl | rfl | rfl | rfl <;>
      simp [RateDomainPath.all, RateDomainPath.chain, SideChain.keys]
  | destination =>
    rcases isLink with rfl | rfl | rfl | rfl <;>
      simp [RateDomainPath.all, RateDomainPath.chain, SideChain.keys]

/-- One side is blamed alike. -/
theorem Blaming.blame (blaming : Blaming limiter live admission now left right)
    (isLive : admission ∈ live) (side : MailSide) :
    Blaming limiter live admission now (limiter.blame base floor admission now left side)
      (limiter.keepBlame base floor admission now right side) := by
  have isMailbox : (admission.path.chain side).mailbox ∈ admission.path.all := by
    cases side <;> simp [RateDomainPath.all, RateDomainPath.chain, SideChain.keys]
  have only : ∀ k ∈ left.2 ++ [(admission.path.chain side).mailbox],
      k ∈ left.2 ∨ k = (admission.path.chain side).mailbox := by
    intro k isReported
    simpa using isReported
  have escalated : ∀ links : List (DomainKey × DomainKey),
      (∀ link ∈ links, link.1 ∈ admission.path.all) → ∀ left right : Penalties,
      Blaming limiter live admission now left right →
      Blaming limiter live admission now
        (links.foldl (limiter.escalate base floor admission.admittedAt now) left)
        (links.foldl (limiter.keepEscalate base floor admission.admittedAt now) right) := by
    intro links within
    induction links with
    | nil => exact fun _ _ blaming => blaming
    | cons link links ih =>
      intro left right blaming
      exact ih (fun other isOther => within other (List.mem_cons_of_mem _ isOther)) _ _
        (blaming.escalate isLive (within link List.mem_cons_self))
  obtain ⟨penalized, after⟩ := blaming.penalize isLive isMailbox only base floor
  rw [RateDomainLimiter.blame, keepBlame]
  rw [penalized, if_pos rfl, blaming.reported]
  exact escalated _ (fun link isLink => lineage_mem isLink) _ _ after

/-- A failure is attributed alike. -/
theorem Mirroring.attributed (mirroring : Mirroring limiter live now domains kept)
    (isLive : admission ∈ live) (held : Held admission domains) (failure : ClassifiedFailure) :
    Blaming limiter live admission now (limiter.attributed domains admission failure now)
      (limiter.keepAttributed kept admission failure now) := by
  have initially : Blaming limiter live admission now (domains, []) (kept, []) :=
    ⟨mirroring, held, rfl, fun _ isReported => absurd isReported List.not_mem_nil⟩
  have blamed : ∀ base floor, ∀ sides : List MailSide, ∀ left right : Penalties,
      Blaming limiter live admission now left right →
      Blaming limiter live admission now
        (sides.foldl (limiter.blame base floor admission now) left)
        (sides.foldl (limiter.keepBlame base floor admission now) right) := by
    intro base floor sides
    induction sides with
    | nil => exact fun _ _ blaming => blaming
    | cons side sides ih =>
      intro left right blaming
      rw [List.foldl_cons, List.foldl_cons]
      exact ih (limiter.blame base floor admission now left side)
        (limiter.keepBlame base floor admission now right side) (blaming.blame isLive side)
  rw [RateDomainLimiter.attributed, keepAttributed]
  split
  next => exact blamed _ _ failure.sides _ _ initially
  next => exact initially

/-- Both report the same cooldowns. -/
theorem Mirroring.observed (mirroring : Mirroring limiter live now domains kept)
    (isLive : admission ∈ live) (held : Held admission domains) (failure : ClassifiedFailure) :
    Mirroring limiter live now (limiter.observeClassified domains admission failure now).1
        (limiter.keepObserve kept admission failure now).1 ∧
      (limiter.observeClassified domains admission failure now).2 =
        (limiter.keepObserve kept admission failure now).2 := by
  have blaming := mirroring.attributed isLive held failure
  refine ⟨blaming.mirroring, ?_⟩
  rw [observeClassified, keepObserve]
  dsimp only
  rw [blaming.reported]
  refine List.filterMap_congr fun key isReported => ?_
  obtain ⟨isKey, same⟩ := blaming.cooldowns key isReported
  obtain ⟨domain, found⟩ := Option.isSome_iff_exists.mp (blaming.held.known isKey)
  obtain ⟨keeper, keptFound⟩ := Option.isSome_iff_exists.mp
    ((blaming.mirroring.held blaming.held).known isKey)
  rw [recollect_of_find found, recollect_of_find keptFound] at same
  rw [found, keptFound, Option.map_some, Option.map_some, same]

end Failures

/-! ## Observations -/

/-- Admissions see no difference between the tables. -/
theorem Mirroring.alike (mirroring : Mirroring limiter live now domains kept) (key : DomainKey) :
    limiter.Alike now kept domains key := by
  have mirrors := mirroring.mirrors key
  have isSaturated : ∀ domains : Domains,
      limiter.saturated domains key = !limiter.hasSlot (limiter.recollect domains key) := by
    intro domains
    rw [saturated, recollect]
    cases domains.find key with
    | none =>
      rw [Option.any_none, Option.getD_none, hasSlot_idle rfl]
      rfl
    | some domain => rfl
  have isCooldown : ∀ (domains : Domains) (time : Nat), cooldown domains key time =
      (some (limiter.recollect domains key).blockedUntil).filter (time < ·) := by
    intro domains time
    rw [cooldown, recollect]
    cases domains.find key with
    | none =>
      have past : ¬time < (limiter.newDomain key 0).blockedUntil := Nat.not_lt_zero time
      rw [Option.map_none, Option.getD_none, Option.filter_none, Option.filter_some,
        decide_eq_false past]
      rfl
    | some domain => rfl
  constructor
  · rw [isSaturated, isSaturated, hasSlot, hasSlot, mirrors.limit, mirrors.inFlight]
  · intro time notEarlier
    rw [isCooldown, isCooldown]
    cases mirrors.failures with
    | inl same => rw [same.blockedUntil]
    | inr outdated =>
      have cool : ¬time < (limiter.recollect domains key).blockedUntil :=
        Nat.not_lt.mpr (outdated.cool.trans notEarlier)
      have keeperCool : ¬time < (limiter.recollect kept key).blockedUntil :=
        Nat.not_lt.mpr (outdated.keeperCool.trans notEarlier)
      rw [Option.filter_some, Option.filter_some, decide_eq_false cool,
        decide_eq_false keeperCool,
        if_neg Bool.false_ne_true, if_neg Bool.false_ne_true]

theorem Mirroring.refusal (mirroring : Mirroring limiter live now domains kept)
    (path : RateDomainPath) :
    limiter.refusal domains path now = limiter.refusal kept path now :=
  Alike.refusal (fun key _ => mirroring.alike key) le_rfl

/-- The limit of a domain, which is its ceiling when the domain is absent. -/
def limitOf (limiter : RateDomainLimiter) (domains : Domains) (key : DomainKey) : ℚ :=
  (domains.find key).elim (limiter.domainCeiling key) (·.limit)

theorem Mirroring.limitOf (mirroring : Mirroring limiter live now domains kept)
    (key : DomainKey) : limiter.limitOf domains key = limiter.limitOf kept key := by
  have isLimit : ∀ domains : Domains,
      limiter.limitOf domains key = (limiter.recollect domains key).limit := by
    intro domains
    rw [RateDomainLimiter.limitOf, recollect]
    cases domains.find key with
    | none => rfl
    | some domain => rfl
  rw [isLimit, isLimit]
  exact (mirroring.mirrors key).limit

end RateDomainLimiter

/-! ## Runs -/

/-- What a call returns. -/
inductive RateAnswer where
  | admitted
  | blocked (reason : Blocked)
  | penalized (cooldowns : List (DomainKey × Nat))
  | done
deriving DecidableEq

namespace RateSystem

open RateDomainLimiter

section Answers

variable (limiter : RateDomainLimiter) (toLowercase : String → String)

def answer (system : RateSystem) : RateOperation → RateAnswer
  | .tryAdmit source destination now =>
    match limiter.tryAdmit system.domains
      (RateDomainPath.new toLowercase source destination) now with
    | .error reason => .blocked reason
    | .ok _ => .admitted
  | .observeClassified index failure now =>
    match system.live[index]? with
    | some admission =>
      .penalized (limiter.observeClassified system.domains admission failure now).2
    | none => .done
  | .drop _ _ | .observeSuccess _ _ => .done

/-- The state after a call, when no domain is ever removed. -/
def keepApply (system : RateSystem) : RateOperation → Option RateSystem
  | .tryAdmit source destination now =>
    match limiter.keepAdmit system.domains
      (RateDomainPath.new toLowercase source destination) now with
    | .error _ => some { system with now }
    | .ok (domains, admission) =>
      some { now, domains, live := system.live ++ [admission] }
  | .drop index now => system.live[index]?.map fun admission =>
    { now
      domains := admission.path.all.foldl keepRelease system.domains
      live := system.live.eraseIdx index }
  | .observeSuccess index now => system.live[index]?.map fun admission =>
    { system with now, domains := limiter.observeSuccess system.domains admission now }
  | .observeClassified index failure now => system.live[index]?.map fun admission =>
    { system with
      now
      domains := (limiter.keepObserve system.domains admission failure now).1 }

def keepAnswer (system : RateSystem) : RateOperation → RateAnswer
  | .tryAdmit source destination now =>
    match limiter.keepAdmit system.domains
      (RateDomainPath.new toLowercase source destination) now with
    | .error reason => .blocked reason
    | .ok _ => .admitted
  | .observeClassified index failure now =>
    match system.live[index]? with
    | some admission =>
      .penalized (limiter.keepObserve system.domains admission failure now).2
    | none => .done
  | .drop _ _ | .observeSuccess _ _ => .done

/-- A call with its answer, after which the table is below its bound. -/
def Answered (before : RateSystem) (call : RateOperation × RateAnswer) (after : RateSystem) :
    Prop :=
  Uncrowded limiter toLowercase before call.1 after ∧
    before.answer limiter toLowercase call.1 = call.2

/-- A call with its answer, when no domain is ever removed. -/
def KeepAnswered (before : RateSystem) (call : RateOperation × RateAnswer)
    (after : RateSystem) : Prop :=
  before.now ≤ call.1.now ∧ before.keepApply limiter toLowercase call.1 = some after ∧
    before.keepAnswer limiter toLowercase call.1 = call.2

end Answers

variable {limiter : RateDomainLimiter} {toLowercase : String → String}
variable {before after keptBefore : RateSystem} {operation : RateOperation}

/-- A limiter that forgets and one that does not, in the same use. -/
structure Paired (limiter : RateDomainLimiter) (system kept : RateSystem) : Prop where
  now : kept.now = system.now
  live : kept.live = system.live
  exact : Exact limiter system
  mirroring : Mirroring limiter system.live system.now system.domains kept.domains

theorem paired_empty : Paired limiter {} {} where
  now := rfl
  live := rfl
  exact := exact_empty
  mirroring := by
    refine ⟨fun key => ⟨⟨rfl, rfl⟩, rfl, rfl, rfl, .inl ⟨rfl, rfl, rfl⟩⟩, ?_, ?_⟩
    · exact fun domain isDomain => absurd isDomain (Table.not_mem_empty domain)
    · exact fun domain isDomain => absurd isDomain (Table.not_mem_empty domain)

/-- No idle domain has an admission. -/
theorem Exact.covered (exact : Exact limiter before) (now : Nat) (path : RateDomainPath) :
    Covered (before.live ++ [⟨path, now⟩]) now before.domains := by
  intro key isIdle admission isLive isKey
  cases List.mem_append.mp isLive with
  | inl isOld =>
    have through : 0 < before.holders key :=
      List.countP_pos_iff.mpr ⟨admission, isOld, decide_eq_true isKey⟩
    rw [← exact.counted key, isIdle] at through
    exact absurd through (Nat.lt_irrefl 0)
  | inr isNew =>
    rw [List.mem_singleton.mp isNew]

/-- An admission on both limiters. -/
theorem Paired.tryAdmit {source destination : SideIdentity} {now : Nat}
    (paired : Paired limiter before keptBefore)
    (uncrowded : Uncrowded limiter toLowercase before (.tryAdmit source destination now) after) :
    ∃ kept,
      keptBefore.keepApply limiter toLowercase (.tryAdmit source destination now) = some kept ∧
      keptBefore.keepAnswer limiter toLowercase (.tryAdmit source destination now) =
        before.answer limiter toLowercase (.tryAdmit source destination now) ∧
      Paired limiter after kept := by
  have exact := uncrowded.exact paired.exact
  have mirroring : Mirroring limiter before.live now before.domains keptBefore.domains :=
    paired.mirroring.mono uncrowded.1.1 (List.Subset.refl _)
  have sameRefusal := mirroring.refusal (RateDomainPath.new toLowercase source destination)
  rw [keepApply, keepAnswer, answer, keepAdmit, RateDomainLimiter.tryAdmit, ← sameRefusal]
  cases apply_tryAdmit uncrowded.1.2 with
  | inl refused =>
    obtain ⟨⟨blocked, isBlocked⟩, rfl⟩ := refused
    rw [isBlocked]
    exact ⟨_, rfl, rfl, rfl, paired.live, exact, mirroring⟩
  | inr admitted =>
    obtain ⟨isAdmitted, rfl⟩ := admitted
    rw [isAdmitted]
    refine ⟨_, rfl, rfl, rfl, ?_, exact, ?_⟩
    · exact congrArg (· ++ [_]) paired.live
    · have admits : Mirroring limiter
          (before.live ++ [⟨RateDomainPath.new toLowercase source destination, now⟩]) now
          before.domains keptBefore.domains :=
        ⟨fun key => (mirroring.mirrors key).admission _, mirroring.regular, mirroring.limited⟩
      cases admits.takeSlots (paired.exact.covered now _)
          (RateDomainPath.new toLowercase source destination).all with
      | inl taken => exact taken
      | inr stuck => exact absurd stuck.full (Nat.not_le.mpr uncrowded.2)

/-- The end of an admission on both limiters. -/
theorem Paired.drop {index now : Nat} (paired : Paired limiter before keptBefore)
    (uncrowded : Uncrowded limiter toLowercase before (.drop index now) after) :
    ∃ kept, keptBefore.keepApply limiter toLowercase (.drop index now) = some kept ∧
      Paired limiter after kept := by
  have exact := uncrowded.exact paired.exact
  have mirroring : Mirroring limiter before.live now before.domains keptBefore.domains :=
    paired.mirroring.mono uncrowded.1.1 (List.Subset.refl _)
  obtain ⟨admission, isLive, rfl⟩ := Option.map_eq_some_iff.mp uncrowded.1.2
  obtain ⟨inBounds, isAdmission⟩ := List.getElem?_eq_some_iff.mp isLive
  have perm : (admission :: before.live.eraseIdx index).Perm before.live := by
    rw [← isAdmission]
    exact List.getElem_cons_eraseIdx_perm inBounds
  rw [keepApply, paired.live, isLive]
  refine ⟨_, rfl, rfl, rfl, exact, ?_⟩
  have fewer := mirroring.mono (le_refl now) (List.eraseIdx_sublist before.live index).subset
  refine fewer.releases fun key => ?_
  have holds := perm.countP_eq fun admission => decide (key ∈ admission.path.all)
  rw [List.countP_cons] at holds
  have counted : inFlightOf before.domains key = before.live.countP _ := paired.exact.counted key
  rw [counted, ← holds,
    count_all (paired.exact.paths admission (List.mem_of_getElem? isLive))]
  simp only [decide_eq_true_eq, le_refl]

/-- One call on both limiters has the same answer and keeps them paired. -/
theorem Paired.call (paired : Paired limiter before keptBefore)
    (uncrowded : Uncrowded limiter toLowercase before operation after) :
    ∃ kept, keptBefore.keepApply limiter toLowercase operation = some kept ∧
      keptBefore.keepAnswer limiter toLowercase operation =
        before.answer limiter toLowercase operation ∧
      Paired limiter after kept := by
  have exact := uncrowded.exact paired.exact
  have mirroring := paired.mirroring.mono uncrowded.1.1 (List.Subset.refl _)
  have kept : Kept limiter before := ⟨paired.exact, fun domain isDomain =>
    paired.mirroring.regular domain isDomain⟩
  cases operation with
  | tryAdmit source destination now => exact paired.tryAdmit uncrowded
  | drop index now =>
    obtain ⟨kept, applied, after⟩ := paired.drop uncrowded
    exact ⟨kept, applied, rfl, after⟩
  | observeSuccess index now =>
    obtain ⟨admission, isLive, rfl⟩ := Option.map_eq_some_iff.mp uncrowded.1.2
    rw [keepApply, paired.live, isLive]
    have isMember := List.mem_of_getElem? isLive
    exact ⟨_, rfl, rfl, rfl, rfl, exact, mirroring.rewards isMember (kept.held isMember)⟩
  | observeClassified index failure now =>
    obtain ⟨admission, isLive, rfl⟩ := Option.map_eq_some_iff.mp uncrowded.1.2
    have isMember := List.mem_of_getElem? isLive
    obtain ⟨after, sameCooldowns⟩ := mirroring.observed isMember (kept.held isMember) failure
    rw [keepApply, keepAnswer, answer, paired.live, isLive]
    refine ⟨_, rfl, ?_, rfl, rfl, exact, after⟩
    exact congrArg RateAnswer.penalized sameCooldowns.symm

theorem Paired.step {call : RateOperation × RateAnswer}
    (paired : Paired limiter before keptBefore)
    (step : Answered limiter toLowercase before call after) :
    ∃ kept, KeepAnswered limiter toLowercase keptBefore call kept ∧
      Paired limiter after kept := by
  obtain ⟨kept, applied, sameAnswer, afterwards⟩ := paired.call step.1
  exact ⟨kept, ⟨paired.now.trans_le step.1.1.1, applied, sameAnswer.trans step.2⟩, afterwards⟩

/-- Every history of a limiter that forgets idle domains, while its table has room, is a history
with the same answers of the limiter that removes none; afterwards both have the same limits and
the same cooldowns. -/
theorem forgetting_is_unobservable {calls : List (RateOperation × RateAnswer)}
    {system : RateSystem} (run : Trace (Answered limiter toLowercase) {} calls system) :
    ∃ kept, Trace (KeepAnswered limiter toLowercase) {} calls kept ∧
      kept.now = system.now ∧ kept.live = system.live ∧
      ∀ key, limiter.limitOf system.domains key = limiter.limitOf kept.domains key ∧
        ∀ time, system.now ≤ time →
          cooldown system.domains key time = cooldown kept.domains key time := by
  obtain ⟨kept, keptRun, paired⟩ : ∃ kept,
      Trace (KeepAnswered limiter toLowercase) {} calls kept ∧ Paired limiter system kept :=
    run.simulation paired_empty fun step paired => paired.step step
  exact ⟨kept, keptRun, paired.now, paired.live, fun key =>
    ⟨paired.mirroring.limitOf key, (paired.mirroring.alike key).2⟩⟩

/-- Calls are answered. -/
theorem exists_answered {start : RateSystem} {operations : List RateOperation}
    (run : Trace (Uncrowded limiter toLowercase) start operations system) :
    ∃ calls, calls.map Prod.fst = operations ∧
      Trace (Answered limiter toLowercase) start calls system := by
  induction run with
  | nil => exact ⟨[], rfl, .nil⟩
  | @snoc _ before _ operation run step ih =>
    obtain ⟨calls, rfl, answered⟩ := ih
    exact ⟨calls ++ [(operation, before.answer limiter toLowercase operation)],
      List.map_append, answered.snoc ⟨step, rfl⟩⟩

/-- A mailbox fails, recovers and is forgotten, and fails once more afterwards. -/
theorem forgotten_failure_unobserved : ∃ (calls again : List (RateOperation × RateAnswer))
    (idle system kept : RateSystem), Trace (Answered twoWorkers id) {} calls idle ∧
      idle.domains.rows = [] ∧ Trace (Answered twoWorkers id) idle again system ∧
      again.length = 2 ∧ Trace (KeepAnswered twoWorkers id) {} (calls ++ again) kept ∧
      kept.live = system.live := by
  let fits : RateSystem → RateOperation → RateSystem → Prop :=
    fun _ _ after => after.domains.rows.length < maxRateDomains
  let source : SideIdentity := ⟨"imap.example.org:993", "user", "", ""⟩
  let destination : SideIdentity := ⟨"imap.example.com:993", "user", "", ""⟩
  have evaluated : (List.foldlM (callOn fits) {} [.tryAdmit source destination 1,
      .observeClassified 0 throttle 2, .drop 0 3, .tryAdmit source destination (seconds 10),
      .observeSuccess 0 (seconds 11), .drop 0 (seconds 5000)]).toOption.any (fun idle =>
        decide (idle.domains.rows = []) && (List.foldlM (callOn fits) idle
          [.tryAdmit source destination (seconds 5001),
            .observeClassified 0 throttle (seconds 5002)]).toOption.any fun _ => true) = true := by
    decide +kernel
  obtain ⟨idle, ran, evaluated⟩ := accepted_of_any evaluated
  obtain ⟨forgotten, goesOn⟩ := Bool.and_eq_true_iff.mp evaluated
  obtain ⟨system, continued, -⟩ := accepted_of_any goesOn
  obtain ⟨calls, -, answered⟩ := exists_answered (run_of_calls ran)
  obtain ⟨again, isAgain, answeredAgain⟩ := exists_answered (run_of_calls continued)
  obtain ⟨kept, keptRun, -, sameLive, -⟩ :=
    forgetting_is_unobservable (answered.append answeredAgain)
  refine ⟨calls, again, idle, system, kept, answered, of_decide_eq_true forgotten,
    answeredAgain, ?_, keptRun, sameLive⟩
  rw [← List.length_map Prod.fst, isAgain]
  rfl

end RateSystem

end MailSwiftSync
