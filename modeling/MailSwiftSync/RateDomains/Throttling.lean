import MailSwiftSync.RateDomains.Attribution

/-!
# Throttled tenants

Failures of one tenant on one pair of endpoints stay with the tenant: admissions that do
not go through its own domains are decided as if the failures had not happened.
-/

namespace MailSwiftSync

open Foundation

/-! ## Runs -/

/-- The capacity failure a call reports, if any. -/
def RateSystem.reported (system : RateSystem) : RateOperation → List CapacityFailure
  | .observeClassified index failure now =>
    if failure.isCapacity then
      system.live[index]?.toList.map fun admission =>
        { observedAt := now, path := admission.path, sides := failure.sides }
    else []
  | _ => []

/-- A limiter in use, and the capacity failures it was told about. -/
structure RateHistory where
  system : RateSystem := {}
  failures : List CapacityFailure := []

namespace RateHistory

open RateDomainLimiter

/-- One call, with what it reports. -/
def Step (limiter : RateDomainLimiter) (toLowercase : String → String) (before : RateHistory)
    (operation : RateOperation) (after : RateHistory) : Prop :=
  RateSystem.Step limiter toLowercase before.system operation after.system ∧
    after.failures = before.failures ++ before.system.reported operation

/-- Everything the domains remember comes from the history. -/
def Sound (history : RateHistory) : Prop :=
  ∀ domain ∈ history.system.domains,
    Attributable history.system.now history.failures domain

variable {limiter : RateDomainLimiter} {toLowercase : String → String}
variable {before after : RateHistory} {operation : RateOperation}

theorem Step.failures_of_silent (step : Step limiter toLowercase before operation after)
    (silent : before.system.reported operation = []) : after.failures = before.failures := by
  rw [step.2, silent, List.append_nil]

variable {failure : ClassifiedFailure}

/-- An observation attributes the failure, which joins the history. -/
theorem Step.observed {index : Nat} {time : Nat}
    (step : Step limiter toLowercase before (.observeClassified index failure time) after) :
    ∃ admission, before.system.live[index]? = some admission ∧
      after.system = { before.system with
        now := time
        domains := (limiter.attributed before.system.domains admission failure time).1 } ∧
      (failure.isCapacity = true → after.failures = before.failures ++
        [{ observedAt := time, path := admission.path, sides := failure.sides }]) ∧
      (failure.isCapacity = false → after.failures = before.failures) := by
  obtain ⟨admission, held, applied⟩ := Option.map_eq_some_iff.mp step.1.2
  refine ⟨admission, held, applied.symm, ?_, ?_⟩
  · intro capacity
    rw [step.2, RateSystem.reported, if_pos capacity, held]
    rfl
  · intro other
    apply step.failures_of_silent
    rw [RateSystem.reported, if_neg (by rw [other]; exact Bool.false_ne_true)]

theorem attributed_of_other {domains : Domains} {admission : Admission}
    {time : Nat} (other : failure.isCapacity = false) :
    limiter.attributed domains admission failure time = (domains, []) := by
  rw [attributed, if_neg (by rw [other]; exact Bool.false_ne_true)]

theorem Step.earlier (step : Step limiter toLowercase before operation after)
    (sound : before.Sound) : ∀ domain ∈ before.system.domains,
      Attributable operation.now after.failures domain := by
  intro domain isDomain
  refine (sound domain isDomain).mono step.1.1 ?_
  rw [step.2]
  exact List.subset_append_left _ _

theorem Step.accounted {index : Nat} {time : Nat} {admission : Admission}
    (step : Step limiter toLowercase before (.observeClassified index failure time) after)
    (sound : before.Sound) (held : before.system.live[index]? = some admission)
    (isCapacity : failure.isCapacity = true) :
    Accounted limiter after.failures ⟨time, admission.path, failure.sides⟩
      before.system.domains
      (limiter.attributed before.system.domains admission failure time) := by
  obtain ⟨other, isOther, _, capacity, _⟩ := step.observed
  obtain rfl : other = admission := Option.some.inj (isOther.symm.trans held)
  refine accounted_attributed (step.earlier sound) ?_ rfl rfl
  rw [capacity isCapacity]
  exact List.mem_append_right _ (List.mem_singleton_self _)

/-- One call keeps the provenance. -/
theorem Step.sound (step : Step limiter toLowercase before operation after)
    (sound : before.Sound) : after.Sound := by
  have applied := step.1.2
  have earlier := step.earlier sound
  cases operation with
  | tryAdmit source destination now =>
    rw [Sound]
    cases RateSystem.apply_tryAdmit applied with
    | inl refused =>
      rw [refused.2]
      exact earlier
    | inr admitted =>
      rw [admitted.2]
      refine List.foldlRecOn (motive := fun domains : Domains =>
        ∀ domain ∈ domains, Attributable now after.failures domain) _ _ earlier ?_
      intro domains held key _
      exact forall_modify (forall_entry held .newDomain) fun _ attributable =>
        attributable.inFlight _
  | drop index now =>
    obtain ⟨admission, _, isAfter⟩ := Option.map_eq_some_iff.mp applied
    rw [Sound, ← isAfter]
    refine List.foldlRecOn (motive := fun domains : Domains =>
      ∀ domain ∈ domains, Attributable now after.failures domain) _ _ earlier ?_
    intro domains held key _ domain isDomain
    refine forall_modify held ?_ domain (Table.mem_delete.mp isDomain).1
    exact fun _ attributable => attributable.inFlight _
  | observeSuccess index now =>
    obtain ⟨admission, _, isAfter⟩ := Option.map_eq_some_iff.mp applied
    rw [Sound, ← isAfter]
    refine List.foldlRecOn (motive := fun domains : Domains =>
      ∀ domain ∈ domains, Attributable now after.failures domain) _ _ earlier ?_
    intro domains held key _
    exact forall_modify held fun _ attributable => attributable.rewarded _ _
  | observeClassified index failure time =>
    obtain ⟨admission, held, isAfter, _⟩ := step.observed
    rw [Sound, isAfter]
    cases isCapacity : failure.isCapacity with
    | false =>
      rw [attributed_of_other isCapacity]
      exact earlier
    | true =>
      exact (step.accounted sound held isCapacity).attributable

theorem sound_of_run {operations : List RateOperation} {history : RateHistory}
    (run : Trace (Step limiter toLowercase) {} operations history) : history.Sound :=
  run.invariant Sound (fun domain isDomain => absurd isDomain (Table.not_mem_empty domain))
    Step.sound

end RateHistory

/-! ## Levels -/

/-- The domains of a path are at their levels. -/
structure RateDomainPath.Leveled (path : RateDomainPath) : Prop where
  global : path.global.level = .global
  provider : ∀ side, (path.chain side).provider.level = .provider
  tenant : ∀ side, (path.chain side).tenant.level = .tenant
  credential : ∀ side, (path.chain side).credential.level = .credential
  mailbox : ∀ side, (path.chain side).mailbox.level = .mailbox

theorem RateDomainPath.leveled_new (toLowercase : String → String)
    (source destination : SideIdentity) :
    (RateDomainPath.new toLowercase source destination).Leveled := by
  constructor
  · rfl
  all_goals
    intro side
    cases side <;> rfl

/-- The parents of a lineage, by level. -/
theorem CapacityFailure.Implicates.cases {failure : CapacityFailure} {parent child : DomainKey}
    (implicates : failure.Implicates parent child) (leveled : failure.path.Leveled) :
    ∃ side ∈ failure.sides,
      parent = (failure.path.chain side).credential ∧ parent.level = .credential ∨
      parent = (failure.path.chain side).tenant ∧ parent.level = .tenant ∨
      parent.level = .provider ∧ child = (failure.path.chain side).tenant ∨
      parent.level = .global ∧ child = failure.path.providerPair := by
  obtain ⟨side, isSide, isLink⟩ := implicates
  refine ⟨side, isSide, ?_⟩
  simp only [RateDomainPath.lineage, List.mem_cons, List.not_mem_nil, or_false,
    Prod.mk.injEq] at isLink
  obtain ⟨rfl, _⟩ | ⟨rfl, _⟩ | ⟨rfl, rfl⟩ | ⟨rfl, rfl⟩ := isLink
  · exact .inl ⟨rfl, leveled.credential side⟩
  · exact .inr (.inl ⟨rfl, leveled.tenant side⟩)
  · exact .inr (.inr (.inl ⟨leveled.provider side, rfl⟩))
  · exact .inr (.inr (.inr ⟨leveled.global, rfl⟩))

/-- The domains that belong to the tenant of a chain. -/
def SideChain.ownDomains (chain : SideChain) : List DomainKey :=
  [chain.tenant, chain.credential, chain.mailbox]

/-- The recent capacity failures name one side and come from one tenant at one endpoint. -/
def OneTenant (failures : List CapacityFailure) (now : Nat) (side : MailSide)
    (tenant : DomainKey) (endpoint : String) : Prop :=
  ∀ failure ∈ failures, now < failure.observedAt + escalationWindow →
    failure.sides = [side] ∧ (failure.path.chain side).tenant = tenant ∧
      (failure.path.chain side).provider.scope = endpoint

/-- The recent capacity failures come from one pair of endpoints. -/
def OnePair (failures : List CapacityFailure) (now : Nat) (source destination : String) :
    Prop :=
  ∀ failure ∈ failures, now < failure.observedAt + escalationWindow →
    failure.path.source.provider.scope = source ∧
      failure.path.destination.provider.scope = destination

/-- Nothing is justified by the failures of a single child. -/
theorem not_justified {failures : List CapacityFailure} {now : Nat} {key : DomainKey}
    (sole : DomainKey)
    (single : ∀ failure ∈ failures, now < failure.observedAt + escalationWindow →
      ∀ child, failure.Implicates key child → child = sole) :
    ¬Justified failures now key := by
  intro justified
  obtain ⟨children, nodup, enough, failed⟩ := justified
  have same : children = List.replicate children.length sole := by
    apply List.eq_replicate_of_mem
    intro child isChild
    obtain ⟨failure, isFailure, recent, implicates⟩ := failed child isChild
    exact single failure isFailure recent child implicates
  rw [same, List.nodup_replicate] at nodup
  exact absurd (enough.trans nodup) (by decide)

/-- A broad domain is not penalized for one tenant on one pair of endpoints. -/
theorem level_of_justified {failures : List CapacityFailure} {now : Nat} {side : MailSide}
    {tenant key : DomainKey} {endpoint source destination : String}
    (leveled : ∀ failure ∈ failures, failure.path.Leveled)
    (oneTenant : OneTenant failures now side tenant endpoint)
    (onePair : OnePair failures now source destination) (justified : Justified failures now key) :
    key.level ≠ .provider ∧ key.level ≠ .global := by
  constructor
  · intro isProvider
    refine not_justified tenant ?_ justified
    intro failure isFailure recent child implicates
    obtain ⟨sides, sameTenant, _⟩ := oneTenant failure isFailure recent
    obtain ⟨other, isOther, origin⟩ := implicates.cases (leveled failure isFailure)
    rw [sides, List.mem_singleton] at isOther
    subst isOther
    simp only [isProvider, reduceCtorEq, and_false, false_and, or_false, false_or,
      true_and] at origin
    rw [origin, sameTenant]
  · intro isGlobal
    refine not_justified ⟨none, .provider, source ++ " → " ++ destination, "global"⟩ ?_ justified
    intro failure isFailure recent child implicates
    obtain ⟨sameSource, sameDestination⟩ := onePair failure isFailure recent
    obtain ⟨_, _, origin⟩ := implicates.cases (leveled failure isFailure)
    simp only [isGlobal, reduceCtorEq, and_false, false_and, false_or, true_and] at origin
    rw [origin, RateDomainPath.providerPair, sameSource, sameDestination]

namespace RateHistory

open RateDomainLimiter

variable {limiter : RateDomainLimiter} {toLowercase : String → String}
variable {before after : RateHistory} {operation : RateOperation}

/-- All paths of a history are those of jobs. -/
structure Leveled (history : RateHistory) : Prop where
  live : ∀ admission ∈ history.system.live, admission.path.Leveled
  failed : ∀ failure ∈ history.failures, failure.path.Leveled

theorem Step.leveled (step : Step limiter toLowercase before operation after)
    (leveled : before.Leveled) : after.Leveled := by
  have applied := step.1.2
  cases operation with
  | tryAdmit source destination now =>
    refine ⟨?_, by rw [step.failures_of_silent rfl]; exact leveled.failed⟩
    cases RateSystem.apply_tryAdmit applied with
    | inl refused =>
      rw [refused.2]
      exact leveled.live
    | inr admitted =>
      rw [admitted.2]
      intro admission isLive
      cases List.mem_append.mp isLive with
      | inl earlier => exact leveled.live admission earlier
      | inr last =>
        rw [List.mem_singleton.mp last]
        exact RateDomainPath.leveled_new toLowercase source destination
  | drop index now =>
    obtain ⟨admission, _, isAfter⟩ := Option.map_eq_some_iff.mp applied
    refine ⟨?_, by rw [step.failures_of_silent rfl]; exact leveled.failed⟩
    rw [← isAfter]
    exact fun other isOther => leveled.live other (List.mem_of_mem_eraseIdx isOther)
  | observeSuccess index now =>
    obtain ⟨admission, _, isAfter⟩ := Option.map_eq_some_iff.mp applied
    refine ⟨?_, by rw [step.failures_of_silent rfl]; exact leveled.failed⟩
    rw [← isAfter]
    exact leveled.live
  | observeClassified index failure time =>
    obtain ⟨admission, held, isAfter, capacity, other⟩ := step.observed
    refine ⟨by rw [isAfter]; exact leveled.live, ?_⟩
    cases isCapacity : failure.isCapacity with
    | false =>
      rw [other isCapacity]
      exact leveled.failed
    | true =>
      rw [capacity isCapacity]
      intro failure isFailure
      cases List.mem_append.mp isFailure with
      | inl earlier => exact leveled.failed failure earlier
      | inr last =>
        rw [List.mem_singleton.mp last]
        exact leveled.live admission (List.mem_of_getElem? held)

variable {operations : List RateOperation}

theorem leveled_of_run {history : RateHistory}
    (run : Trace (Step limiter toLowercase) {} operations history) : history.Leveled :=
  run.invariant Leveled
    ⟨fun _ isLive => absurd isLive List.not_mem_nil,
      fun _ isFailure => absurd isFailure List.not_mem_nil⟩ Step.leveled

/-- The domains a failure penalizes, while one tenant on one endpoint pair fails. -/
theorem penalized_own {failures : List CapacityFailure} {current : CapacityFailure}
    {initial : Domains} {penalties : Penalties} {side : MailSide} {tenant : DomainKey}
    {endpoint source destination : String}
    (accounted : Accounted limiter failures current initial penalties)
    (isFailure : current ∈ failures) (leveled : ∀ failure ∈ failures, failure.path.Leveled)
    (oneTenant : OneTenant failures current.observedAt side tenant endpoint)
    (onePair : OnePair failures current.observedAt source destination) {key : DomainKey}
    (penalized : key ∈ penalties.2) : key ∈ (current.path.chain side).ownDomains := by
  have now : current.observedAt < current.observedAt + escalationWindow :=
    Nat.lt_add_of_pos_right (by decide)
  have sides := (oneTenant current isFailure now).1
  simp only [SideChain.ownDomains, List.mem_cons, List.not_mem_nil, or_false]
  cases accounted.reasons key penalized with
  | inl ofMailbox =>
    obtain ⟨other, isOther, isMailbox⟩ := ofMailbox
    rw [sides, List.mem_singleton] at isOther
    rw [isMailbox, isOther]
    exact .inr (.inr rfl)
  | inr ofAncestor =>
    obtain ⟨⟨child, implicates⟩, justified⟩ := ofAncestor
    obtain ⟨notProvider, notGlobal⟩ :=
      level_of_justified leveled oneTenant onePair justified
    obtain ⟨other, isOther, origin⟩ := implicates.cases (leveled current isFailure)
    rw [sides, List.mem_singleton] at isOther
    subst isOther
    obtain ⟨isCredential, _⟩ | ⟨isTenant, _⟩ | ⟨isProvider, _⟩ | ⟨isGlobal, _⟩ := origin
    · exact .inr (.inl isCredential)
    · exact .inl isTenant
    · exact absurd isProvider notProvider
    · exact absurd isGlobal notGlobal

/-- While all recent capacity failures name one side, one tenant at one endpoint and one
endpoint pair, a further one penalizes only domains of the tenant, and admissions that go
through none of them are decided as before.  Ancestors are penalized only after enough
distinct children failed. -/
theorem throttling_stays_with_tenant {operations : List RateOperation} {history next : RateHistory}
    {index time : Nat} {failure : ClassifiedFailure} {admission : Admission}
    (run : Trace (Step limiter toLowercase) {} operations history)
    (step : Step limiter toLowercase history (.observeClassified index failure time) next)
    (held : history.system.live[index]? = some admission) :
    (∀ side tenant endpoint source destination,
      OneTenant next.failures time side tenant endpoint →
      OnePair next.failures time source destination →
        (∀ penalized ∈
          (limiter.observeClassified history.system.domains admission failure time).2,
          penalized.1 ∈ (admission.path.chain side).ownDomains) ∧
        ∀ path : RateDomainPath,
          (∀ key ∈ path.all, key ∉ (admission.path.chain side).ownDomains) →
          ∀ later, time ≤ later → limiter.refusal next.system.domains path later =
            limiter.refusal history.system.domains path later) ∧
    ∀ penalized ∈ (limiter.observeClassified history.system.domains admission failure time).2,
      penalized.1.level ≠ .mailbox → Justified next.failures time penalized.1 := by
  have sound := sound_of_run run
  have leveled := (leveled_of_run (run.snoc step)).failed
  obtain ⟨other, isOther, isNext, capacity, _⟩ := step.observed
  obtain rfl : other = admission := Option.some.inj (isOther.symm.trans held)
  have listed : ∀ penalized ∈
      (limiter.observeClassified history.system.domains other failure time).2,
      penalized.1 ∈ (limiter.attributed history.system.domains other failure time).2 := by
    intro penalized isPenalized
    obtain ⟨key, isKey, found⟩ := List.mem_filterMap.mp isPenalized
    obtain ⟨_, _, rfl⟩ := Option.map_eq_some_iff.mp found
    exact isKey
  rw [isNext]
  cases isCapacity : failure.isCapacity with
  | false =>
    rw [attributed_of_other isCapacity] at listed ⊢
    constructor
    · intro side tenant endpoint source destination _ _
      refine ⟨?_, fun _ _ _ _ => rfl⟩
      exact fun penalized isPenalized => absurd (listed penalized isPenalized) List.not_mem_nil
    · exact fun penalized isPenalized => absurd (listed penalized isPenalized) List.not_mem_nil
  | true =>
    have accounted := step.accounted sound held isCapacity
    have isFailure : ⟨time, other.path, failure.sides⟩ ∈ next.failures := by
      rw [capacity isCapacity]
      exact List.mem_append_right _ (List.mem_singleton_self _)
    constructor
    · intro side tenant endpoint source destination oneTenant onePair
      have own : ∀ key ∈ (limiter.attributed history.system.domains other failure time).2,
          key ∈ (other.path.chain side).ownDomains :=
        fun _ => penalized_own accounted isFailure leveled oneTenant onePair
      refine ⟨fun penalized isPenalized => own _ (listed penalized isPenalized), ?_⟩
      intro path outside later after
      apply Alike.refusal _ after
      intro key isKey
      exact accounted.alike key fun penalized => outside key isKey (own key penalized)
    · intro penalized isPenalized notMailbox
      cases accounted.reasons penalized.1 (listed penalized isPenalized) with
      | inl ofMailbox =>
        obtain ⟨side, _, isMailbox⟩ := ofMailbox
        rw [isMailbox] at notMailbox
        exact absurd ((leveled _ isFailure).mailbox side) notMailbox
      | inr ofAncestor => exact ofAncestor.2

/-! ## Runs of examples -/

instance (failures : List CapacityFailure) (now : Nat) (side : MailSide) (tenant : DomainKey)
    (endpoint : String) : Decidable (OneTenant failures now side tenant endpoint) :=
  inferInstanceAs (Decidable (∀ _ ∈ failures, _ → _))

instance (failures : List CapacityFailure) (now : Nat) (source destination : String) :
    Decidable (OnePair failures now source destination) :=
  inferInstanceAs (Decidable (∀ _ ∈ failures, _ → _))

/-- The history after a call. -/
def call (limiter : RateDomainLimiter) (history : RateHistory) (operation : RateOperation) :
    Except Unit RateHistory :=
  if history.system.now ≤ operation.now then
    match history.system.apply limiter id operation with
    | some system => .ok ⟨system, history.failures ++ history.system.reported operation⟩
    | none => .error ()
  else .error ()

theorem step_of_call (called : call limiter before operation = .ok after) :
    Step limiter id before operation after := by
  rw [call] at called
  split at called
  · next later =>
      split at called
      · next system applied =>
          cases called
          exact ⟨⟨later, applied⟩, rfl⟩
      · cases called
  · cases called

theorem run_of_calls {history : RateHistory}
    (called : operations.foldlM (call limiter) {} = .ok history) :
    Trace (Step limiter id) {} operations history :=
  (Trace.of_foldlM called).weaken step_of_call

/-- A run that ends with an observation, by evaluation. -/
theorem observed_of_calls {failure : ClassifiedFailure}
    {time : Nat} {property : RateHistory → RateHistory → Admission → Prop}
    [∀ history next admission, Decidable (property history next admission)]
    (evaluated : ((operations.foldlM (call limiter) {}).toOption.any fun history =>
      (call limiter history (.observeClassified 0 failure time)).toOption.any fun next =>
        history.system.live[0]?.any fun admission =>
          decide (property history next admission)) = true) :
    ∃ history next admission, Trace (Step limiter id) {} operations history ∧
      Step limiter id history (.observeClassified 0 failure time) next ∧
      history.system.live[0]? = some admission ∧ property history next admission := by
  obtain ⟨history, ran, evaluated⟩ := accepted_of_any evaluated
  obtain ⟨next, called, evaluated⟩ := accepted_of_any evaluated
  obtain ⟨admission, held, holds⟩ := (Option.any_eq_true _ _).mp evaluated
  exact ⟨history, next, admission, run_of_calls ran, step_of_call called, held,
    of_decide_eq_true holds⟩

/-- An account at a source host. -/
def accountAt (endpoint user : String) (tenant : String := "") : SideIdentity :=
  { endpoint, user, tenant }

/-- Two mailboxes of one tenant on their way to different hosts; the first one failed. -/
def twoDestinations : List RateOperation := [
  .tryAdmit (accountAt "imap.example.org:993" "anna@example.org")
    (accountAt "imap.example.com:993" "anna") 1,
  .observeClassified 0 RateSystem.throttle 2,
  .drop 0 3,
  .tryAdmit (accountAt "imap.example.org:993" "ben@example.org")
    (accountAt "imap.example.net:993" "ben") 4]

/-- A mailbox of another tenant at the same source host. -/
def unrelatedPath : RateDomainPath :=
  .new id (accountAt "imap.example.org:993" "carl@example.edu")
    (accountAt "imap.example.com:993" "carl")

/-- One mailbox that is migrated under a tenant label. -/
def labelled : List RateOperation := [
  .tryAdmit (accountAt "imap.example.org:993" "anna" "first")
    (accountAt "imap.example.com:993" "anna") 1]

/-- The same mailbox under another label. -/
def relabelledPath : RateDomainPath :=
  .new id (accountAt "imap.example.org:993" "anna" "second")
    (accountAt "imap.example.com:993" "anna")

/-- A tenant with two destinations pauses an unrelated tenant, and a mailbox is paused
under all tenants it is used with. -/
theorem tenant_pauses_others :
    (∃ history next admission, Trace (Step RateSystem.twoWorkers id) {} twoDestinations history ∧
      Step RateSystem.twoWorkers id history
        (.observeClassified 0 RateSystem.throttle 5) next ∧
      history.system.live[0]? = some admission ∧
      OneTenant next.failures 5 .source admission.path.source.tenant "imap.example.org:993" ∧
      (∃ penalized ∈ (RateSystem.twoWorkers.observeClassified history.system.domains admission
        RateSystem.throttle 5).2, penalized.1 ∉ admission.path.source.ownDomains) ∧
      (∀ key ∈ unrelatedPath.all, key ∉ admission.path.source.ownDomains) ∧
      RateSystem.twoWorkers.refusal history.system.domains unrelatedPath 5 = none ∧
      RateSystem.twoWorkers.refusal next.system.domains unrelatedPath 5 ≠ none) ∧
    ∃ history next admission, Trace (Step RateSystem.twoWorkers id) {} labelled history ∧
      Step RateSystem.twoWorkers id history
        (.observeClassified 0 RateSystem.throttle 2) next ∧
      history.system.live[0]? = some admission ∧
      OneTenant next.failures 2 .source admission.path.source.tenant "imap.example.org:993" ∧
      OnePair next.failures 2 "imap.example.org:993" "imap.example.com:993" ∧
      relabelledPath.source.tenant ≠ admission.path.source.tenant ∧
      RateSystem.twoWorkers.refusal history.system.domains relabelledPath 2 = none ∧
      RateSystem.twoWorkers.refusal next.system.domains relabelledPath 2 ≠ none := by
  constructor
  · apply observed_of_calls
    decide +kernel
  · apply observed_of_calls
    decide +kernel

/-- Two mailboxes of one tenant on their way to one host; the first one failed. -/
def colleagues : List RateOperation :=
  labelled ++ [.observeClassified 0 RateSystem.throttle 2, .drop 0 3,
    .tryAdmit (accountAt "imap.example.org:993" "ben" "first")
      (accountAt "imap.example.com:993" "ben") 4]

/-- The second failure of a tenant penalizes only its own domains. -/
theorem second_failure_stays : ∃ history next admission,
    Trace (Step RateSystem.twoWorkers id) {} colleagues history ∧
    Step RateSystem.twoWorkers id history (.observeClassified 0 RateSystem.throttle 5) next ∧
    history.system.live[0]? = some admission ∧
    (RateSystem.twoWorkers.observeClassified history.system.domains admission
      RateSystem.throttle 5).2 ≠ [] ∧
    ∀ penalized ∈ (RateSystem.twoWorkers.observeClassified history.system.domains admission
      RateSystem.throttle 5).2, penalized.1 ∈ admission.path.source.ownDomains := by
  obtain ⟨history, next, admission, run, step, held, oneTenant, onePair, some⟩ :
      ∃ history next admission, Trace (Step RateSystem.twoWorkers id) {} colleagues history ∧
        Step RateSystem.twoWorkers id history
          (.observeClassified 0 RateSystem.throttle 5) next ∧
        history.system.live[0]? = some admission ∧
        OneTenant next.failures 5 .source admission.path.source.tenant "imap.example.org:993" ∧
        OnePair next.failures 5 "imap.example.org:993" "imap.example.com:993" ∧
        (RateSystem.twoWorkers.observeClassified history.system.domains admission
          RateSystem.throttle 5).2 ≠ [] := by
    apply observed_of_calls
    decide +kernel
  have stays := (throttling_stays_with_tenant run step held).1 _ _ _ _ _ oneTenant onePair
  exact ⟨history, next, admission, run, step, held, some, stays.1⟩

end RateHistory

end MailSwiftSync
