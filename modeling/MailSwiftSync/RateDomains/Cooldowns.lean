import MailSwiftSync.RateDomains.Remembering

/-!
# Limits and cooldowns

A limit stays between one job and the ceiling of its domain.  The end of a cooldown is never moved
forward, by a failure only as far as it may, and a delay that a server asked for is kept for its
mailbox.
-/

namespace MailSwiftSync

open Foundation

namespace RateDomainLimiter

variable {limiter : RateDomainLimiter} {domains initial : Domains} {key k : DomainKey}
variable {now cap : Nat}

/-! ## The end of a cooldown -/

/-- The end of the cooldown of a domain, which is now when the domain is absent. -/
def blockedUntil (domains : Domains) (key : DomainKey) (now : Nat) : Nat :=
  (domains.find key).elim now (·.blockedUntil)

/-- Domains whose cooldowns end as before or later, by a bounded time from now. -/
structure Advanced (now cap : Nat) (initial domains : Domains) : Prop where
  regular : ∀ domain ∈ domains, Regular now domain
  later : ∀ key, blockedUntil initial key now ≤ blockedUntil domains key now
  capped : ∀ key, blockedUntil domains key now ≤ max (blockedUntil initial key now) (now + cap)

theorem Advanced.refl (regular : ∀ domain ∈ domains, Regular now domain) :
    Advanced now cap domains domains :=
  ⟨regular, fun _ => le_rfl, fun _ => le_max_left _ _⟩

theorem Advanced.trans {middle : Domains} (first : Advanced now cap initial middle)
    (second : Advanced now cap middle domains) : Advanced now cap initial domains where
  regular := second.regular
  later := fun key => (first.later key).trans (second.later key)
  capped := fun key => (second.capped key).trans
    (max_le (first.capped key) (le_max_right _ _))

/-- Looking a domain up moves no cooldown: one that is forgotten is over. -/
theorem advanced_entry (regular : ∀ domain ∈ domains, Regular now domain) :
    Advanced now cap domains (limiter.entry domains key now) := by
  have moved : ∀ k, blockedUntil domains k now ≤
        blockedUntil (limiter.entry domains key now) k now ∧
      blockedUntil (limiter.entry domains key now) k now ≤
        max (blockedUntil domains k now) (now + cap) := by
    intro k
    have refreshed : limiter.Refreshed now k (domains.find k)
        ((limiter.entry domains key now).find k) := refreshed_entry
    rw [blockedUntil, blockedUntil]
    cases found : domains.find k with
    | none =>
      rw [found] at refreshed
      cases after : (limiter.entry domains key now).find k with
      | none => exact ⟨le_rfl, le_max_left _ _⟩
      | some domain =>
        rw [after] at refreshed
        cases refreshed
        exact ⟨le_rfl, le_max_left _ _⟩
    | some domain =>
      rw [found] at refreshed
      cases after : (limiter.entry domains key now).find k with
      | none =>
        rw [after] at refreshed
        cases refreshed with
        | forgotten _ forgettable =>
          have isDomain := (Table.find_eq_some.mp found).1
          refine ⟨(cool_of_forgettable (regular domain isDomain) forgettable).1, ?_⟩
          exact (Nat.le_add_right now cap).trans (le_max_right _ _)
      | some other =>
        rw [after] at refreshed
        cases refreshed
        exact ⟨le_rfl, le_max_left _ _⟩
  exact ⟨forall_entry regular .newDomain, fun k => (moved k).1, fun k => (moved k).2⟩

/-- A change that moves the cooldown of a domain back by a bounded time. -/
theorem advanced_modify {change : Domain → Domain}
    {keepsKey : ∀ domain, (change domain).key = domain.key}
    (regular : ∀ domain ∈ domains, Regular now domain)
    (keeps : ∀ domain, Regular now domain → Regular now (change domain))
    (later : ∀ domain, domain.blockedUntil ≤ (change domain).blockedUntil)
    (capped : ∀ domain, (change domain).blockedUntil ≤ max domain.blockedUntil (now + cap)) :
    Advanced now cap domains (modify domains key change keepsKey) := by
  have moved : ∀ k, blockedUntil domains k now ≤
        blockedUntil (modify domains key change keepsKey) k now ∧
      blockedUntil (modify domains key change keepsKey) k now ≤
        max (blockedUntil domains k now) (now + cap) := by
    intro k
    rw [blockedUntil, blockedUntil, find_modify]
    cases domains.find k with
    | none =>
      rw [Option.map_none, ite_self]
      exact ⟨le_rfl, le_max_left _ _⟩
    | some domain =>
      split
      · exact ⟨later domain, capped domain⟩
      · exact ⟨le_rfl, le_max_left _ _⟩
  exact ⟨forall_modify regular keeps, fun k => (moved k).1, fun k => (moved k).2⟩

/-- A change of other columns. -/
theorem advanced_same {change : Domain → Domain}
    {keepsKey : ∀ domain, (change domain).key = domain.key}
    (regular : ∀ domain ∈ domains, Regular now domain)
    (keeps : ∀ domain, Regular now domain → Regular now (change domain))
    (same : ∀ domain, (change domain).blockedUntil = domain.blockedUntil) :
    Advanced now cap domains (modify domains key change keepsKey) :=
  advanced_modify regular keeps (fun domain => (same domain).ge)
    fun domain => (same domain).trans_le (le_max_left _ _)

theorem advanced_penalty (regular : ∀ domain ∈ domains, Regular now domain)
    (base floor admittedAt : Nat) :
    Advanced now (max maxCooldown floor) domains
      (modify domains key (limiter.penalty base floor admittedAt now)) := by
  refine advanced_modify regular (fun _ held => held.penalty base floor admittedAt) ?_ ?_
  · exact fun domain => le_max_left _ _
  · intro domain
    rw [penalty]
    refine max_le_max le_rfl (Nat.add_le_add_left (max_le_max (min_le_right _ _) le_rfl) now)

/-- Forgetting moves no cooldown: one that is forgotten is over. -/
theorem advanced_delete {forgets : Domain → Bool}
    (regular : ∀ domain ∈ domains, Regular now domain)
    (idle : ∀ domain, forgets domain = true → limiter.forgettable domain now = true) :
    Advanced now cap domains (domains.delete forgets) := by
  have moved : ∀ k, blockedUntil domains k now ≤ blockedUntil (domains.delete forgets) k now ∧
      blockedUntil (domains.delete forgets) k now ≤
        max (blockedUntil domains k now) (now + cap) := by
    intro k
    rw [blockedUntil, blockedUntil, Table.find_delete]
    cases found : domains.find k with
    | none => exact ⟨le_rfl, le_max_left _ _⟩
    | some domain =>
      rw [Option.filter_some]
      cases isForgotten : forgets domain with
      | true =>
        have isDomain := (Table.find_eq_some.mp found).1
        refine ⟨(cool_of_forgettable (regular domain isDomain)
          (idle domain isForgotten)).1, ?_⟩
        exact (Nat.le_add_right now cap).trans (le_max_right _ _)
      | false => exact ⟨le_rfl, le_max_left _ _⟩
  exact ⟨fun domain isDomain => regular domain (Table.mem_delete.mp isDomain).1,
    fun k => (moved k).1, fun k => (moved k).2⟩

theorem advanced_releaseSlot (regular : ∀ domain ∈ domains, Regular now domain) :
    Advanced now cap domains (limiter.releaseSlot now domains key) := by
  have released : Advanced now cap domains (modify domains key fun domain =>
      { domain with inFlight := domain.inFlight - 1 }) :=
    advanced_same regular (fun _ held => held.inFlight _) fun _ => rfl
  refine released.trans (@advanced_delete limiter _ _ _ _ released.regular ?_)
  intro domain isForgotten
  rw [Bool.and_eq_true] at isForgotten
  exact isForgotten.2

/-! ## Calls -/

/-- Calls one after the other. -/
theorem Advanced.foldl {α : Type} {call : Domains → α → Domains} (items : List α)
    (advances : ∀ domains, ∀ item ∈ items, (∀ domain ∈ domains, Regular now domain) →
      Advanced now cap domains (call domains item))
    (regular : ∀ domain ∈ domains, Regular now domain) :
    Advanced now cap domains (items.foldl call domains) := by
  refine List.foldlRecOn (motive := Advanced now cap domains) _ _ (.refl regular) ?_
  exact fun middle held item isItem => held.trans (advances middle item isItem held.regular)

theorem advanced_rewarded (regular : ∀ domain ∈ domains, Regular now domain)
    (admittedAt : Nat) :
    Advanced now cap domains (modify domains key (limiter.rewarded admittedAt now)
      (limiter.rewarded_key admittedAt now)) := by
  refine advanced_same regular (fun _ held => held.rewarded admittedAt now) fun domain => ?_
  rw [rewarded]
  split <;> rfl

section Attribution

variable {admittedAt base floor : Nat} {penalties : Penalties}

/-- A penalty moves a cooldown at most as far as it may. -/
theorem advanced_penalize (regular : ∀ domain ∈ domains, Regular now domain) (key : DomainKey) :
    Advanced now (max maxCooldown floor) domains
      (limiter.penalize base floor admittedAt now domains key).1 :=
  penalize_invariant (motive := Advanced now (max maxCooldown floor) domains)
    (fun _ _ held => held.trans (advanced_entry held.regular))
    (fun _ _ held => held.trans (advanced_penalty held.regular _ _ _)) (.refl regular) key

theorem advanced_escalate (regular : ∀ domain ∈ penalties.1, Regular now domain)
    (link : DomainKey × DomainKey) :
    Advanced now (max maxCooldown floor) penalties.1
      (limiter.escalate base floor admittedAt now penalties link).1 :=
  escalate_invariant (motive := Advanced now (max maxCooldown floor) penalties.1)
    (fun _ _ held => held.trans (advanced_entry held.regular))
    (fun _ _ held => held.trans (advanced_penalty held.regular _ _ _)) link
    (fun _ held => held.trans
      (advanced_same held.regular (fun _ regular => regular.noticed link.2) fun _ => rfl))
    (.refl regular)

theorem advanced_lineage {keys : List DomainKey}
    (regular : ∀ domain ∈ domains, Regular now domain) (links : List (DomainKey × DomainKey)) :
    Advanced now (max maxCooldown floor) domains
      (links.foldl (limiter.escalate base floor admittedAt now) (domains, keys)).1 := by
  refine List.foldlRecOn (motive := fun current : Penalties =>
    Advanced now (max maxCooldown floor) domains current.1) _ _ (.refl regular) ?_
  exact fun _ held link _ => held.trans (advanced_escalate held.regular link)

theorem advanced_blame (regular : ∀ domain ∈ penalties.1, Regular now domain)
    (admission : Admission) (side : MailSide) :
    Advanced now (max maxCooldown floor) penalties.1
      (limiter.blame base floor admission now penalties side).1 := by
  have penalized := @advanced_penalize limiter _ _ admission.admittedAt base floor regular
    (admission.path.chain side).mailbox
  exact penalized.trans (advanced_lineage penalized.regular _)

theorem advanced_sides (regular : ∀ domain ∈ penalties.1, Regular now domain)
    (admission : Admission) (sides : List MailSide) :
    Advanced now (max maxCooldown floor) penalties.1
      (sides.foldl (limiter.blame base floor admission now) penalties).1 := by
  refine List.foldlRecOn (motive := fun current : Penalties =>
    Advanced now (max maxCooldown floor) penalties.1 current.1) _ _ (.refl regular) ?_
  exact fun _ held side _ => held.trans (advanced_blame held.regular admission side)

end Attribution

/-! ## The delay a server asked for -/

section Requested

variable {base floor : Nat} {penalties : Penalties} {admission : Admission}

theorem Held.blame (held : Held admission penalties.1) (side : MailSide) :
    Held admission (limiter.blame base floor admission now penalties side).1 :=
  blame_invariant (motive := Held admission) (fun _ _ before => before.entry)
    (fun _ _ before => before.modify fun _ => rfl) (fun _ _ _ before => before.modify fun _ => rfl)
    held

theorem RateDomainPath.mailbox_mem (path : RateDomainPath) (side : MailSide) :
    (path.chain side).mailbox ∈ path.all := by
  cases side <;> simp [RateDomainPath.all, RateDomainPath.chain, SideChain.keys]

/-- A remembered domain is penalized. -/
theorem find_penalize {admittedAt : Nat} {domain : Domain}
    (found : domains.find key = some domain) :
    (limiter.penalize base floor admittedAt now domains key).1.find key =
      some (limiter.penalty base floor admittedAt now domain) := by
  have known : (domains.find key).isSome = true := by rw [found]; rfl
  rw [penalize, entry_known known, any_key, if_pos known]
  refine (@find_modify domains key key (limiter.penalty base floor admittedAt now)
    fun _ => rfl).trans ?_
  rw [if_pos rfl, found]
  rfl

/-- A blamed mailbox is blocked for as long as the server asked. -/
theorem requested_blame (regular : ∀ domain ∈ penalties.1, Regular now domain)
    (held : Held admission penalties.1) (side : MailSide) :
    now + floor ≤ blockedUntil (limiter.blame base floor admission now penalties side).1
      (admission.path.chain side).mailbox now := by
  have known := held.known (RateDomainPath.mailbox_mem admission.path side)
  obtain ⟨domain, found⟩ := Option.isSome_iff_exists.mp known
  have penalized := @advanced_penalize limiter _ _ admission.admittedAt base floor regular
    (admission.path.chain side).mailbox
  refine le_trans ?_ ((advanced_lineage penalized.regular _).later _)
  rw [blockedUntil, find_penalize found]
  exact (Nat.add_le_add_left (le_max_right _ _) now).trans (le_max_right _ _)

/-- The mailbox of each blamed side is blocked for as long as the server asked. -/
theorem requested_sides (regular : ∀ domain ∈ penalties.1, Regular now domain)
    (held : Held admission penalties.1) {sides : List MailSide} {side : MailSide}
    (isSide : side ∈ sides) :
    now + floor ≤ blockedUntil (sides.foldl (limiter.blame base floor admission now) penalties).1
      (admission.path.chain side).mailbox now := by
  induction sides generalizing penalties with
  | nil => exact absurd isSide List.not_mem_nil
  | cons first sides ih =>
    have blamed := @advanced_blame limiter _ base floor _ regular admission first
    cases List.mem_cons.mp isSide with
    | inl isFirst =>
      have continued := @advanced_sides limiter now base floor _ blamed.regular admission sides
      rw [isFirst, List.foldl_cons]
      exact (requested_blame regular held first).trans (continued.later _)
    | inr isLater =>
      have stillHeld : Held admission
          (limiter.blame base floor admission now penalties first).1 := held.blame first
      rw [List.foldl_cons]
      exact @ih (limiter.blame base floor admission now penalties first) blamed.regular
        stillHeld isLater

end Requested

end RateDomainLimiter

namespace RateSystem

open RateDomainLimiter

variable {limiter : RateDomainLimiter} {toLowercase : String → String}
variable {before after : RateSystem} {operation : RateOperation}

/-! ## Runs -/

/-- How far a call may move the end of a cooldown. -/
def longestPenalty : RateOperation → Nat
  | .observeClassified _ failure _ =>
    if failure.isCapacity then max maxCooldown (failure.retryAfter.getD 0) else 0
  | _ => 0

/-- The end of the cooldown of a domain, or the current time. -/
def blockedUntil (system : RateSystem) (key : DomainKey) : Nat :=
  RateDomainLimiter.blockedUntil system.domains key system.now

/-- A call moves cooldowns at most as far as it may. -/
theorem Step.advanced (step : Step limiter toLowercase before operation after)
    (regular : ∀ domain ∈ before.domains, Regular before.now domain) :
    after.now = operation.now ∧
      Advanced operation.now (longestPenalty operation) before.domains after.domains := by
  have applied := step.2
  have later : ∀ domain ∈ before.domains, Regular operation.now domain :=
    fun domain isDomain => (regular domain isDomain).mono step.1
  cases operation with
  | tryAdmit source destination now =>
    cases apply_tryAdmit applied with
    | inl refused =>
      rw [refused.2]
      exact ⟨rfl, .refl later⟩
    | inr admitted =>
      rw [admitted.2]
      refine ⟨rfl, .foldl _ (fun domains key _ held => ?_) later⟩
      have entered : Advanced now 0 domains (limiter.entry domains key now) :=
        advanced_entry held
      exact entered.trans
        (advanced_same entered.regular (fun _ regular => regular.inFlight _) fun _ => rfl)
  | drop index now =>
    obtain ⟨admission, _, rfl⟩ := Option.map_eq_some_iff.mp applied
    exact ⟨rfl, .foldl _ (fun _ _ _ held => advanced_releaseSlot held) later⟩
  | observeSuccess index now =>
    obtain ⟨admission, _, rfl⟩ := Option.map_eq_some_iff.mp applied
    exact ⟨rfl, .foldl _ (fun _ _ _ held => advanced_rewarded held _) later⟩
  | observeClassified index failure now =>
    obtain ⟨admission, _, rfl⟩ := Option.map_eq_some_iff.mp applied
    refine ⟨rfl, ?_⟩
    rw [observeClassified, attributed, longestPenalty]
    split
    · exact @advanced_sides limiter now _ _ (before.domains, []) later admission failure.sides
    · exact .refl later

/-- A call never moves the end of a cooldown forward, nor back by more than a penalty. -/
theorem Step.cooldowns (step : Step limiter toLowercase before operation after)
    (regular : ∀ domain ∈ before.domains, Regular before.now domain) (key : DomainKey) :
    before.blockedUntil key ≤ after.blockedUntil key ∧
      after.blockedUntil key ≤
        max (before.blockedUntil key) (operation.now + longestPenalty operation) := by
  obtain ⟨isNow, advanced⟩ := step.advanced regular
  have waits : before.blockedUntil key ≤
        RateDomainLimiter.blockedUntil before.domains key operation.now ∧
      RateDomainLimiter.blockedUntil before.domains key operation.now ≤
        max (before.blockedUntil key) operation.now := by
    rw [blockedUntil, RateDomainLimiter.blockedUntil, RateDomainLimiter.blockedUntil]
    cases before.domains.find key with
    | none => exact ⟨step.1, le_max_right _ _⟩
    | some domain => exact ⟨le_rfl, le_max_left _ _⟩
  have after_eq : after.blockedUntil key =
      RateDomainLimiter.blockedUntil after.domains key operation.now := by
    rw [blockedUntil, isNow]
  rw [after_eq]
  refine ⟨waits.1.trans (advanced.later key), (advanced.capped key).trans (max_le ?_ ?_)⟩
  · exact waits.2.trans (max_le_max le_rfl (Nat.le_add_right _ _))
  · exact le_max_right _ _

/-- No run moves the end of a cooldown forward. -/
theorem blockedUntil_of_run {operations : List RateOperation}
    (run : Trace (Uncrowded limiter toLowercase) before operations after)
    (regular : ∀ domain ∈ before.domains, Regular before.now domain) (key : DomainKey) :
    before.blockedUntil key ≤ after.blockedUntil key := by
  have kept : (∀ domain ∈ after.domains, Regular after.now domain) ∧
      before.blockedUntil key ≤ after.blockedUntil key := by
    refine run.invariant (fun current => (∀ domain ∈ current.domains, Regular current.now domain) ∧
      before.blockedUntil key ≤ current.blockedUntil key) ⟨regular, le_rfl⟩ ?_
    intro current operation next step held
    exact ⟨step.1.regular held.1, held.2.trans (step.1.cooldowns held.1 key).1⟩
  exact kept.2

/-- The delay a server asked for, once the failure is observed. -/
theorem Uncrowded.requested {index time delay : Nat} {failure : ClassifiedFailure}
    {admission : Admission} {side : MailSide}
    (step : Uncrowded limiter toLowercase before (.observeClassified index failure time) after)
    (kept : Kept limiter before) (isCapacity : failure.isCapacity = true)
    (isRequested : failure.retryAfter = some delay) (isSide : side ∈ failure.sides)
    (isLive : before.live[index]? = some admission) :
    time + delay ≤ after.blockedUntil (admission.path.chain side).mailbox := by
  obtain ⟨other, isOther, rfl⟩ := Option.map_eq_some_iff.mp step.1.2
  obtain rfl : other = admission := Option.some.inj (isOther.symm.trans isLive)
  have later : ∀ domain ∈ before.domains, Regular time domain :=
    fun domain isDomain => (kept.regular domain isDomain).mono step.1.1
  have held : Held other before.domains := kept.held (List.mem_of_getElem? isLive)
  rw [blockedUntil, observeClassified, attributed, if_pos isCapacity, isRequested]
  exact requested_sides later held isSide

/-- A path through a domain that is cooling down is refused. -/
theorem refused_of_cooldown {system : RateSystem} {path : RateDomainPath} {key : DomainKey}
    {now : Nat} (isKey : key ∈ path.all) (notEarlier : system.now ≤ now)
    (isCooling : now < system.blockedUntil key) :
    ∃ blocked, limiter.tryAdmit system.domains path now = .error blocked := by
  rw [blockedUntil, RateDomainLimiter.blockedUntil] at isCooling
  cases found : system.domains.find key with
  | none =>
    rw [found] at isCooling
    exact absurd isCooling (Nat.not_lt.mpr notEarlier)
  | some domain =>
    rw [found] at isCooling
    have isKnown : domain ∈ path.all.filterMap system.domains.find :=
      List.mem_filterMap.mpr ⟨key, isKey, found⟩
    have cooling : (path.all.filterMap system.domains.find).filter (now < ·.blockedUntil) ≠ [] :=
      List.ne_nil_of_mem (List.mem_filter.mpr ⟨isKnown, decide_eq_true isCooling⟩)
    have refused : limiter.refusal system.domains path now = some _ := if_pos cooling
    rw [tryAdmit, refused]
    exact ⟨_, rfl⟩

/-- While the table has room, limits stay between one job and the ceiling of their domain, the end
of a cooldown never moves forward and no penalty moves it back by more than it may, and a delay
that a server asked for keeps the paths of its mailbox closed. -/
theorem cooldowns_are_kept {operations : List RateOperation} {system : RateSystem}
    (run : Trace (Uncrowded limiter toLowercase) {} operations system) :
    (∀ domain ∈ system.domains,
      1 ≤ domain.limit ∧ domain.limit ≤ limiter.domainCeiling domain.key) ∧
    (∀ later final, Trace (Uncrowded limiter toLowercase) system later final →
      ∀ key, system.blockedUntil key ≤ final.blockedUntil key) ∧
    (∀ operation after, Uncrowded limiter toLowercase system operation after →
      ∀ key, after.blockedUntil key ≤
        max (system.blockedUntil key) (operation.now + longestPenalty operation)) ∧
    ∀ index failure time after admission side delay,
      Uncrowded limiter toLowercase system (.observeClassified index failure time) after →
      system.live[index]? = some admission → failure.isCapacity = true →
      side ∈ failure.sides → failure.retryAfter = some delay →
      ∀ later final, Trace (Uncrowded limiter toLowercase) after later final →
        ∀ source destination now, final.now ≤ now → now < time + delay →
          (admission.path.chain side).mailbox ∈
            (RateDomainPath.new toLowercase source destination).all →
          ∃ blocked, limiter.tryAdmit final.domains
            (RateDomainPath.new toLowercase source destination) now = .error blocked := by
  have kept : Kept limiter system :=
    run.invariant (Kept limiter) kept_empty fun step => step.kept
  refine ⟨?_, ?_, ?_, ?_⟩
  · intro domain isDomain
    exact ⟨(kept.regular domain isDomain).limit, (kept.exact.limited domain isDomain).2⟩
  · exact fun later final continued key => blockedUntil_of_run continued kept.regular key
  · exact fun operation after step key => (step.1.cooldowns kept.regular key).2
  · intro index failure time after admission side delay step isLive isCapacity isSide isRequested
      later final continued source destination now notEarlier tooEarly isMailbox
    have requested := step.requested kept isCapacity isRequested isSide isLive
    have held := blockedUntil_of_run continued (step.kept kept).regular
      (admission.path.chain side).mailbox
    exact refused_of_cooldown isMailbox notEarlier (tooEarly.trans_le (requested.trans held))

/-- A source that asks for a minute. -/
def requestedThrottle : ClassifiedFailure where
  sides := [.source]
  failureClass := .capacity
  retryAfter := some (seconds 60)

/-- The mailbox of the failure is refused within the minute, whatever happens meanwhile. -/
theorem requested_minute_kept : ∃ (operations : List RateOperation) (system : RateSystem),
    Trace (Uncrowded twoWorkers id) {} operations system ∧
      ∃ blocked, twoWorkers.tryAdmit system.domains (RateDomainPath.new id
        ⟨"imap.example.org:993", "user", "", ""⟩ ⟨"imap.example.net:993", "other", "", ""⟩)
        (seconds 50) = .error blocked := by
  let fits : RateSystem → RateOperation → RateSystem → Prop :=
    fun _ _ after => after.domains.rows.length < maxRateDomains
  let later : List RateOperation := [.drop 0 3, .tryAdmit ⟨"imap.example.edu:993", "user", "", ""⟩
    ⟨"imap.example.com:993", "user", "", ""⟩ 4, .observeSuccess 0 5]
  have evaluated : ((callOn fits {} (.tryAdmit ⟨"imap.example.org:993", "user", "", ""⟩
        ⟨"imap.example.com:993", "user", "", ""⟩ 1)).toOption.any fun system =>
      (callOn fits system (.observeClassified 0 requestedThrottle 2)).toOption.any fun after =>
        (later.foldlM (callOn fits) after).toOption.any fun final =>
          system.live[0]?.any fun admission => decide (final.now ≤ seconds 50 ∧
            (admission.path.chain .source).mailbox ∈ (RateDomainPath.new id
              ⟨"imap.example.org:993", "user", "", ""⟩
              ⟨"imap.example.net:993", "other", "", ""⟩).all)) = true := by decide +kernel
  obtain ⟨system, admitted, evaluated⟩ := accepted_of_any evaluated
  obtain ⟨after, observed, evaluated⟩ := accepted_of_any evaluated
  obtain ⟨final, ran, evaluated⟩ := accepted_of_any evaluated
  obtain ⟨admission, isLive, holds⟩ := (Option.any_eq_true _ _).mp evaluated
  obtain ⟨notLater, isSource⟩ := of_decide_eq_true holds
  have run : Trace (Uncrowded twoWorkers id) {} _ system :=
    Trace.snoc .nil (step_of_call admitted)
  have step : Uncrowded twoWorkers id system _ after := step_of_call observed
  have continued : Trace (Uncrowded twoWorkers id) after later final := run_of_calls ran
  exact ⟨_, final, (run.snoc step).append continued,
    (cooldowns_are_kept run).2.2.2 0 requestedThrottle 2 after admission .source (seconds 60)
      step isLive rfl (List.mem_singleton_self _) rfl later final continued _ _ (seconds 50)
      notLater (by decide) isSource⟩

end RateSystem

end MailSwiftSync
