import MailSwiftSync.RateDomains.Limiter

/-!
# Slots of rate domains

An admission takes a slot in each of its nine domains and gives it back when it is
dropped.  The counts are those of the live admissions as long as the limiter has room to
remember every domain of the paths it admits.
-/

namespace MailSwiftSync

open Foundation

/-! ## Keys of a path -/

namespace RateDomainPath

variable {toLowercase : String → String} {source destination : SideIdentity}

/-- The nine domains of a path are different. -/
theorem nodup_all : (new toLowercase source destination).all.Nodup := by
  simp [new, all, SideChain.keys, sideChain]

end RateDomainPath

namespace RateDomainLimiter

variable {limiter : RateDomainLimiter} {domains : Domains} {key k : DomainKey} {now : Nat}

/-! ## Remembering domains -/

/-- What is remembered of a domain: the same, nothing instead of a fresh-like one, or a
fresh one. -/
inductive Refreshed (limiter : RateDomainLimiter) (now : Nat) (key : DomainKey) :
    Option Domain → Option Domain → Prop where
  | same (domain : Option Domain) : Refreshed limiter now key domain domain
  | forgotten (domain : Domain) (forgettable : limiter.forgettable domain now = true) :
      Refreshed limiter now key (some domain) none
  | created : Refreshed limiter now key none (some (limiter.newDomain key now))

variable {change : Domain → Domain} {keepsKey : ∀ domain, (change domain).key = domain.key}

theorem find_modify :
    (modify domains key change keepsKey).find k =
      if k = key then (domains.find k).map change else domains.find k := by
  rw [modify, Table.find_update]
  cases found : domains.find k with
  | none => split <;> rfl
  | some domain =>
    have isKey := (Table.find_eq_some.mp found).2
    simp only [Option.map_some, isKey, decide_eq_true_eq]
    split <;> rfl

theorem any_key : domains.any (·.key = key) = (domains.find key).isSome := by
  cases found : domains.find key with
  | none =>
    rw [Table.find_eq_none] at found
    simpa using found
  | some domain =>
    obtain ⟨isDomain, isKey⟩ := Table.find_eq_some.mp found
    simp only [Option.isSome_some, Table.any_eq_true, decide_eq_true_eq]
    exact ⟨domain, isDomain, isKey⟩

/-- The table a domain is added to. -/
def pruned (limiter : RateDomainLimiter) (domains : Domains) (now : Nat) : Domains :=
  if maxRateDomains ≤ domains.rows.length then domains.delete (limiter.forgettable · now)
  else domains

theorem entry_known (known : (domains.find key).isSome = true) :
    limiter.entry domains key now = domains := by
  rw [entry, any_key, if_pos known]

theorem entry_full (unknown : domains.find key = none)
    (full : maxRateDomains ≤ (limiter.pruned domains now).rows.length) :
    limiter.entry domains key now = limiter.pruned domains now := by
  have absent : ¬(domains.find key).isSome = true := by simp [unknown]
  rw [entry, any_key, if_neg absent]
  exact if_pos full

theorem refreshed_pruned :
    limiter.Refreshed now k (domains.find k) ((limiter.pruned domains now).find k) := by
  rw [pruned]
  split
  · rw [Table.find_delete]
    cases domains.find k with
    | none => exact .same none
    | some domain =>
      cases forgettable : limiter.forgettable domain now with
      | true =>
        rw [Option.filter_some, forgettable]
        exact .forgotten domain forgettable
      | false =>
        rw [Option.filter_some, forgettable]
        exact .same (some domain)
  · exact .same _

theorem find_pruned_none (unknown : domains.find key = none) :
    (limiter.pruned domains now).find key = none := by
  rw [pruned]
  split
  · rw [Table.find_delete, unknown]
    rfl
  · exact unknown

theorem entry_room (unknown : domains.find key = none)
    (room : (limiter.pruned domains now).rows.length < maxRateDomains) :
    (limiter.pruned domains now).insert (limiter.newDomain key now) =
      some (limiter.entry domains key now) := by
  have absent : ¬(domains.find key).isSome = true := by simp [unknown]
  have fresh : ∀ domain ∈ limiter.pruned domains now,
      domain.key ≠ (limiter.newDomain key now).key :=
    Table.find_eq_none.mp (find_pruned_none unknown)
  obtain ⟨next, inserted⟩ := Table.insert_of_fresh fresh
  have entered : limiter.entry domains key now =
      ((limiter.pruned domains now).insert (limiter.newDomain key now)).getD
        (limiter.pruned domains now) := by
    rw [entry, any_key, if_neg absent]
    exact if_neg (Nat.not_le.mpr room)
  rw [entered, inserted, Option.getD_some]

/-- Looking a domain up creates or forgets at most domains that are like fresh ones. -/
theorem refreshed_entry :
    limiter.Refreshed now k (domains.find k) ((limiter.entry domains key now).find k) := by
  cases found : domains.find key with
  | some domain =>
    rw [entry_known (by rw [found]; rfl)]
    exact .same _
  | none =>
    by_cases full : maxRateDomains ≤ (limiter.pruned domains now).rows.length
    · rw [entry_full found full]
      exact refreshed_pruned
    · rw [Table.find_insert (entry_room found (Nat.not_le.mp full))]
      split
      · next isKey =>
          have isKey : key = k := isKey
          subst isKey
          rw [found]
          exact .created
      · exact refreshed_pruned

/-! ## Counting -/

/-- The recorded count of a domain, zero when it is absent. -/
def inFlightOf (domains : Domains) (key : DomainKey) : Nat :=
  (domains.find key).elim 0 (·.inFlight)

variable {domain : Domain}

theorem forgettable_idle (forgettable : limiter.forgettable domain now = true) :
    domain.inFlight = 0 := by
  simp only [RateDomainLimiter.forgettable, Bool.and_eq_true, decide_eq_true_eq] at forgettable
  exact forgettable.1.1.1

theorem Refreshed.inFlight {before after : Option Domain}
    (refreshed : limiter.Refreshed now key before after) :
    after.elim 0 (·.inFlight) = before.elim 0 (·.inFlight) := by
  cases refreshed with
  | same => rfl
  | forgotten domain forgettable => exact (forgettable_idle forgettable).symm
  | created => rfl

theorem inFlightOf_entry :
    inFlightOf (limiter.entry domains key now) k = inFlightOf domains k :=
  refreshed_entry.inFlight

/-- Changes of other columns keep the counts. -/
theorem inFlightOf_modify (keepsCount : ∀ domain, (change domain).inFlight = domain.inFlight) :
    inFlightOf (modify domains key change keepsKey) k = inFlightOf domains k := by
  rw [inFlightOf, find_modify, inFlightOf]
  split
  · cases domains.find k with
    | none => rfl
    | some domain => exact keepsCount domain
  · rfl

theorem inFlightOf_takeSlot
    (remembered : ((limiter.entry domains key now).find key).isSome = true) :
    inFlightOf (limiter.takeSlot now domains key) k =
      inFlightOf domains k + if k = key then 1 else 0 := by
  have entered : inFlightOf (limiter.entry domains key now) k = inFlightOf domains k :=
    inFlightOf_entry
  rw [← entered, inFlightOf, takeSlot, find_modify, inFlightOf]
  split
  · next isKey =>
      subst isKey
      obtain ⟨domain, found⟩ := Option.isSome_iff_exists.mp remembered
      rw [found]
      rfl
  · rfl

theorem inFlightOf_releaseSlot :
    inFlightOf (limiter.releaseSlot now domains key) k =
      inFlightOf domains k - if k = key then 1 else 0 := by
  rw [inFlightOf, releaseSlot, Table.find_delete, find_modify, inFlightOf]
  cases found : domains.find k with
  | none =>
    rw [Option.map_none, ite_self, Option.filter_none]
    exact (Nat.zero_sub _).symm
  | some domain =>
    have isKey := (Table.find_eq_some.mp found).2
    split
    · next same =>
        rw [Option.map_some, Option.filter_some]
        split
        · rfl
        · next forgotten =>
            simp only [Bool.not_eq_true', Bool.not_eq_false, Bool.and_eq_true,
              decide_eq_true_eq] at forgotten
            have idle := forgettable_idle forgotten.2
            exact idle.symm
    · next other =>
        have kept : (decide (domain.key = key) && limiter.forgettable domain now) = false := by
          simp [isKey, other]
        rw [Option.filter_some, kept]
        rfl

theorem count_cons_key (keys : List DomainKey) :
    (key :: keys).count k = (if k = key then 1 else 0) + keys.count k := by
  rw [List.count_cons, Nat.add_comm]
  simp only [beq_iff_eq, eq_comm (a := key)]

theorem inFlightOf_releaseSlots (keys : List DomainKey) :
    inFlightOf (keys.foldl (limiter.releaseSlot now) domains) k =
      inFlightOf domains k - keys.count k := by
  induction keys generalizing domains with
  | nil => rfl
  | cons key keys ih =>
    rw [List.foldl_cons, ih, inFlightOf_releaseSlot, count_cons_key, Nat.sub_sub]

/-! ## Room -/

/-- The domains outside of some keys that cannot be forgotten. -/
def retained (limiter : RateDomainLimiter) (domains : Domains) (keys : List DomainKey)
    (now : Nat) : List Domain :=
  domains.rows.filter fun domain => domain.key ∉ keys && !limiter.forgettable domain now

/-- Whether all of some keys can be remembered together. -/
def Room (limiter : RateDomainLimiter) (domains : Domains) (keys : List DomainKey)
    (now : Nat) : Prop :=
  (limiter.retained domains keys now).length + keys.length ≤ maxRateDomains

instance (keys : List DomainKey) : Decidable (limiter.Room domains keys now) :=
  inferInstanceAs (Decidable (_ ≤ _))

variable {keys : List DomainKey}

theorem retained_pruned :
    limiter.retained (limiter.pruned domains now) keys now = limiter.retained domains keys now := by
  rw [retained, pruned]
  split
  · rw [Table.delete, List.filter_filter, retained]
    apply List.filter_congr
    intro domain _
    cases limiter.forgettable domain now <;> simp
  · rfl

theorem retained_entry (isKey : key ∈ keys) :
    limiter.retained (limiter.entry domains key now) keys now =
      limiter.retained domains keys now := by
  cases found : domains.find key with
  | some domain => rw [entry_known (by rw [found]; rfl)]
  | none =>
    by_cases full : maxRateDomains ≤ (limiter.pruned domains now).rows.length
    · rw [entry_full found full, retained_pruned]
    · have rows := (Table.insert_eq_some (entry_room found (Nat.not_le.mp full))).2
      have outside : (decide ((limiter.newDomain key now).key ∉ keys) &&
          !limiter.forgettable (limiter.newDomain key now) now) = false := by
        simp [newDomain, isKey]
      rw [retained, rows, List.filter_append, List.filter_singleton, outside, ← retained_pruned]
      exact List.append_nil _

theorem retained_modify (isKey : key ∈ keys) :
    limiter.retained (modify domains key change keepsKey) keys now =
      limiter.retained domains keys now := by
  have rowwise : ∀ rows : List Domain, ((rows.map fun domain =>
      if decide (domain.key = key) = true then change domain else domain).filter fun domain =>
        domain.key ∉ keys && !limiter.forgettable domain now) =
      rows.filter fun domain => domain.key ∉ keys && !limiter.forgettable domain now := by
    intro rows
    induction rows with
    | nil => rfl
    | cons domain rest ih =>
      rw [List.map_cons, List.filter_cons, List.filter_cons, ih]
      by_cases same : domain.key = key
      · simp [same, keepsKey, isKey]
      · simp [same]
  exact rowwise domains.rows

/-- With room for all keys, there is room for one that is not remembered yet. -/
theorem pruned_room (room : limiter.Room domains keys now) (isKey : key ∈ keys)
    (unknown : domains.find key = none) :
    (limiter.pruned domains now).rows.length < maxRateDomains := by
  by_cases full : maxRateDomains ≤ domains.rows.length
  · have kept : ∀ domain ∈ (limiter.pruned domains now).rows,
        limiter.forgettable domain now = false := by
      rw [pruned, if_pos full]
      exact fun domain isDomain => (Table.mem_delete.mp isDomain).2
    have outside : ((limiter.pruned domains now).rows.filter fun domain =>
        !decide (domain.key ∈ keys)) = limiter.retained domains keys now := by
      rw [← retained_pruned, retained]
      apply List.filter_congr
      intro domain isDomain
      simp [kept domain isDomain]
    have absent : ∀ domain ∈ limiter.pruned domains now, domain.key ≠ key :=
      Table.find_eq_none.mp (find_pruned_none unknown)
    have inside := Table.length_filter_lt isKey absent
    have split : (limiter.pruned domains now).rows.length = _ :=
      List.length_eq_length_filter_add fun domain => decide (domain.key ∈ keys)
    rw [outside] at split
    rw [Room] at room
    omega
  · rw [pruned, if_neg full]
    exact Nat.not_le.mp full

/-- With room for all keys, each of them is remembered when it is looked up. -/
theorem entry_remembers (room : limiter.Room domains keys now) (isKey : key ∈ keys) :
    ((limiter.entry domains key now).find key).isSome = true := by
  cases found : domains.find key with
  | some domain =>
    rw [entry_known (by rw [found]; rfl), found]
    rfl
  | none =>
    by_cases full : maxRateDomains ≤ (limiter.pruned domains now).rows.length
    · exact absurd full (Nat.not_le.mpr (pruned_room room isKey found))
    · have isNew : (limiter.newDomain key now).key = key := rfl
      rw [Table.find_insert (entry_room found (Nat.not_le.mp full)), if_pos isNew]
      rfl

theorem room_takeSlot (room : limiter.Room domains keys now) (isKey : key ∈ keys) :
    limiter.Room (limiter.takeSlot now domains key) keys now := by
  rw [Room, takeSlot, retained_modify isKey, retained_entry isKey]
  exact room

/-- With room for all keys, each admission counts in all its domains. -/
theorem inFlightOf_takeSlots {some : List DomainKey} (within : ∀ key ∈ some, key ∈ keys)
    (room : limiter.Room domains keys now) :
    inFlightOf (some.foldl (limiter.takeSlot now) domains) k =
      inFlightOf domains k + some.count k := by
  induction some generalizing domains with
  | nil => rfl
  | cons key rest ih =>
    have isKey := within key List.mem_cons_self
    rw [List.foldl_cons, ih (fun other isOther => within other (List.mem_cons_of_mem _ isOther))
      (room_takeSlot room isKey), inFlightOf_takeSlot (entry_remembers room isKey),
      count_cons_key, Nat.add_assoc]

/-! ## Rows -/

variable {property : Domain → Prop}

/-- What holds of all rows and of fresh ones holds of all rows after a lookup. -/
theorem forall_entry (held : ∀ domain ∈ domains, property domain)
    (fresh : property (limiter.newDomain key now)) :
    ∀ domain ∈ limiter.entry domains key now, property domain := by
  have heldPruned : ∀ domain ∈ limiter.pruned domains now, property domain := by
    rw [pruned]
    split
    · exact fun domain isDomain => held domain (Table.mem_delete.mp isDomain).1
    · exact held
  cases found : domains.find key with
  | some domain =>
    rw [entry_known (by rw [found]; rfl)]
    exact held
  | none =>
    by_cases full : maxRateDomains ≤ (limiter.pruned domains now).rows.length
    · rw [entry_full found full]
      exact heldPruned
    · intro domain isDomain
      cases (Table.mem_insert (entry_room found (Nat.not_le.mp full))).mp isDomain with
      | inl isOld => exact heldPruned domain isOld
      | inr isNew =>
        rw [isNew]
        exact fresh

theorem forall_modify_key (held : ∀ domain ∈ domains, property domain)
    (keeps : ∀ domain, domain.key = key → property domain → property (change domain)) :
    ∀ domain ∈ modify domains key change keepsKey, property domain := by
  intro domain isDomain
  obtain ⟨old, isOld, rfl⟩ := Table.mem_update.mp isDomain
  split
  · next isKey => exact keeps old (of_decide_eq_true isKey) (held old isOld)
  · exact held old isOld

theorem forall_modify (held : ∀ domain ∈ domains, property domain)
    (keeps : ∀ domain, property domain → property (change domain)) :
    ∀ domain ∈ modify domains key change keepsKey, property domain :=
  forall_modify_key held fun domain _ => keeps domain

section Attribution

variable {motive : Domains → Prop} {admittedAt base floor : Nat} {penalties : Penalties}

theorem penalize_invariant
    (entered : ∀ domains key, motive domains → motive (limiter.entry domains key now))
    (penalized : ∀ domains key, motive domains →
      motive (modify domains key (limiter.penalty base floor admittedAt now)))
    (initially : motive domains) (key : DomainKey) :
    motive (limiter.penalize base floor admittedAt now domains key).1 := by
  rw [penalize]
  split
  · exact penalized _ _ (entered _ _ initially)
  · exact entered _ _ initially

theorem escalate_invariant
    (entered : ∀ domains key, motive domains → motive (limiter.entry domains key now))
    (penalized : ∀ domains key, motive domains →
      motive (modify domains key (limiter.penalty base floor admittedAt now)))
    (link : DomainKey × DomainKey)
    (notified : ∀ domains, motive domains →
      motive (modify domains link.1 (noticed link.2 now)))
    (initially : motive penalties.1) :
    motive (limiter.escalate base floor admittedAt now penalties link).1 := by
  rw [escalate]
  split
  · exact penalize_invariant entered penalized (notified _ (entered _ _ initially)) link.1
  · exact notified _ (entered _ _ initially)

theorem blame_invariant {admission : Admission} {side : MailSide}
    (entered : ∀ domains key, motive domains → motive (limiter.entry domains key now))
    (penalized : ∀ domains key, motive domains →
      motive (modify domains key (limiter.penalty base floor admission.admittedAt now)))
    (notified : ∀ domains, ∀ link ∈ admission.path.lineage side, motive domains →
      motive (modify domains link.1 (noticed link.2 now)))
    (initially : motive penalties.1) :
    motive (limiter.blame base floor admission now penalties side).1 := by
  rw [blame]
  refine List.foldlRecOn (motive := fun penalties : Penalties => motive penalties.1) _ _ ?_ ?_
  · exact penalize_invariant entered penalized initially _
  · intro _ held link isLink
    exact escalate_invariant entered penalized link (fun _ => notified _ link isLink) held

/-- What lookups, penalties and notices preserve, the attribution of a failure preserves. -/
theorem attributed_invariant {admission : Admission} {failure : ClassifiedFailure}
    (entered : ∀ domains key, motive domains → motive (limiter.entry domains key now))
    (penalized : ∀ base floor domains key, motive domains →
      motive (modify domains key (limiter.penalty base floor admission.admittedAt now)))
    (notified : ∀ domains, ∀ side ∈ failure.sides, ∀ link ∈ admission.path.lineage side,
      motive domains → motive (modify domains link.1 (noticed link.2 now)))
    (initially : motive domains) :
    motive (limiter.attributed domains admission failure now).1 := by
  rw [attributed]
  split
  · refine List.foldlRecOn (motive := fun penalties : Penalties => motive penalties.1) _ _
      initially ?_
    intro _ held side isSide
    exact blame_invariant entered (penalized _ _) (fun _ => notified _ side isSide) held
  · exact initially

end Attribution

/-! ## Limits -/

/-- A limit is a float below the ceiling of its domain. -/
def Limited (limiter : RateDomainLimiter) (domain : Domain) : Prop :=
  limiter.float.round domain.limit = domain.limit ∧
    domain.limit ≤ limiter.domainCeiling domain.key

theorem one_le_asFloat (count : Nat) : 1 ≤ limiter.asFloat (max count 1) := by
  have bound : (1 : ℚ) ≤ (max count 1 : Nat) := by exact_mod_cast Nat.le_max_right count 1
  calc (1 : ℚ) = limiter.float.round 1 := limiter.float.round_one.symm
    _ ≤ limiter.asFloat (max count 1) := limiter.float.monotone bound

theorem domainCeiling_cases (limiter : RateDomainLimiter) (key : DomainKey) :
    ∃ count, limiter.domainCeiling key = limiter.asFloat (max count 1) := by
  have chosen : ∀ configured : Option Nat, ∃ count,
      configured.elim (limiter.asFloat (max limiter.ceiling 1)) (fun limit =>
        min (limiter.asFloat (max limiter.ceiling 1)) (limiter.asFloat (max limit 1))) =
        limiter.asFloat (max count 1) := by
    intro configured
    cases configured with
    | none => exact ⟨limiter.ceiling, rfl⟩
    | some limit =>
      cases min_choice (limiter.asFloat (max limiter.ceiling 1))
          (limiter.asFloat (max limit 1)) with
      | inl left => exact ⟨limiter.ceiling, left⟩
      | inr right => exact ⟨limit, right⟩
  exact chosen _

theorem one_le_domainCeiling (limiter : RateDomainLimiter) (key : DomainKey) :
    1 ≤ limiter.domainCeiling key := by
  obtain ⟨count, isCeiling⟩ := limiter.domainCeiling_cases key
  rw [isCeiling]
  exact one_le_asFloat count

theorem round_domainCeiling (key : DomainKey) :
    limiter.float.round (limiter.domainCeiling key) = limiter.domainCeiling key := by
  obtain ⟨count, isCeiling⟩ := limiter.domainCeiling_cases key
  rw [isCeiling]
  exact limiter.float.round_round _

theorem limited_newDomain : limiter.Limited (limiter.newDomain key now) :=
  ⟨round_domainCeiling key, le_refl _⟩

theorem limited_rewarded (limited : limiter.Limited domain)
    (admittedAt : Nat) : limiter.Limited (limiter.rewarded admittedAt now domain) := by
  rw [rewarded]
  split
  · refine ⟨?_, min_le_right _ _⟩
    cases min_choice (limiter.float.round (domain.limit + 1))
        (limiter.domainCeiling domain.key) with
    | inl left =>
      simp only [left]
      exact limiter.float.round_round _
    | inr right =>
      simp only [right]
      exact round_domainCeiling domain.key
  · exact limited

theorem limited_penalty (limited : limiter.Limited domain) (base floor admittedAt : Nat) :
    limiter.Limited (limiter.penalty base floor admittedAt now domain) := by
  have ceiling := limiter.one_le_domainCeiling domain.key
  have halved : limiter.float.round (domain.limit / 2) ≤ limiter.domainCeiling domain.key := by
    rw [← round_domainCeiling]
    apply limiter.float.monotone
    have bound := limited.2
    linarith
  rw [Limited, penalty]
  dsimp only
  split
  · refine ⟨?_, max_le halved ceiling⟩
    cases max_choice (limiter.float.round (domain.limit / 2)) 1 with
    | inl left =>
      rw [left]
      exact limiter.float.round_round _
    | inr right =>
      rw [right]
      exact limiter.float.round_one
  · exact limited

/-- A domain with a slot stays within its ceiling. -/
theorem within_of_hasSlot (limited : limiter.Limited domain)
    (slot : limiter.hasSlot domain = true) :
    ((domain.inFlight + 1 : Nat) : ℚ) ≤ limiter.domainCeiling domain.key := by
  have slot : limiter.asFloat domain.inFlight < max (⌊domain.limit⌋ : ℚ) 1 :=
    of_decide_eq_true slot
  obtain ⟨whole, isWhole, isFloat⟩ : ∃ whole : ℤ, max (⌊domain.limit⌋ : ℚ) 1 = whole ∧
      limiter.float.round whole = whole := by
    cases max_choice (⌊domain.limit⌋ : ℚ) 1 with
    | inl left => exact ⟨⌊domain.limit⌋, left, limiter.float.round_floor _ limited.1⟩
    | inr right => exact ⟨1, by rw [right]; norm_num, by simpa using limiter.float.round_one⟩
  have below : (domain.inFlight : ℚ) < whole := by
    by_contra notBelow
    have bound := limiter.float.monotone (not_lt.mp notBelow)
    rw [isFloat] at bound
    rw [isWhole, asFloat] at slot
    exact absurd slot (not_lt.mpr bound)
  have succ : ((domain.inFlight + 1 : Nat) : ℚ) ≤ whole := by
    have below : (domain.inFlight : ℤ) < whole := by exact_mod_cast below
    exact_mod_cast below
  calc ((domain.inFlight + 1 : Nat) : ℚ) ≤ whole := succ
    _ = max (⌊domain.limit⌋ : ℚ) 1 := isWhole.symm
    _ ≤ limiter.domainCeiling domain.key :=
      max_le ((Int.floor_le _).trans limited.2) (limiter.one_le_domainCeiling _)

end RateDomainLimiter

/-! ## Runs -/

/-- A limiter in use: its domains and the admissions that are held. -/
structure RateSystem where
  now : Nat := 0
  domains : Domains := .empty
  live : List Admission := []

/-- A call on the limiter, at a time; held admissions are named by position. -/
inductive RateOperation where
  | tryAdmit (source destination : SideIdentity) (now : Nat)
  | drop (index now : Nat)
  | observeSuccess (index now : Nat)
  | observeClassified (index : Nat) (failure : ClassifiedFailure) (now : Nat)

def RateOperation.now : RateOperation → Nat
  | tryAdmit _ _ now => now
  | drop _ now => now
  | observeSuccess _ now => now
  | observeClassified _ _ now => now

namespace RateSystem

variable (limiter : RateDomainLimiter) (toLowercase : String → String)

/-- The state after a call. -/
def apply (system : RateSystem) : RateOperation → Option RateSystem
  | .tryAdmit source destination now =>
    match limiter.tryAdmit system.domains
      (RateDomainPath.new toLowercase source destination) now with
    | .error _ => some { system with now }
    | .ok (domains, admission) =>
      some { now, domains, live := system.live ++ [admission] }
  | .drop index now => system.live[index]?.map fun admission =>
    { now
      domains := limiter.releaseSlots system.domains admission.path now
      live := system.live.eraseIdx index }
  | .observeSuccess index now => system.live[index]?.map fun admission =>
    { system with now, domains := limiter.observeSuccess system.domains admission now }
  | .observeClassified index failure now => system.live[index]?.map fun admission =>
    { system with
      now
      domains := (limiter.observeClassified system.domains admission failure now).1 }

/-- One call, while the clock does not go back. -/
def Step (before : RateSystem) (operation : RateOperation) (after : RateSystem) : Prop :=
  before.now ≤ operation.now ∧ before.apply limiter toLowercase operation = some after

/-- The condition under which admissions count in all their domains: the domains outside of
a path that is not refused leave room for it, those that can be forgotten apart. -/
def HasRoom (system : RateSystem) : RateOperation → Prop
  | .tryAdmit source destination now =>
    limiter.refusal system.domains (RateDomainPath.new toLowercase source destination) now =
        none →
      limiter.Room system.domains (RateDomainPath.new toLowercase source destination).all now
  | _ => True

instance (system : RateSystem) (operation : RateOperation) :
    Decidable (system.HasRoom limiter toLowercase operation) := by
  cases operation with
  | tryAdmit => exact inferInstanceAs (Decidable (_ → _))
  | _ => exact .isTrue trivial

/-- The live admissions that go through a domain. -/
def holders (system : RateSystem) (key : DomainKey) : Nat :=
  system.live.countP fun admission => key ∈ admission.path.all

/-- Counts are exact, and within the ceilings. -/
structure Exact (system : RateSystem) : Prop where
  counted : ∀ key, RateDomainLimiter.inFlightOf system.domains key = system.holders key
  within : ∀ key, (RateDomainLimiter.inFlightOf system.domains key : ℚ) ≤
    limiter.domainCeiling key
  limited : ∀ domain ∈ system.domains, limiter.Limited domain
  paths : ∀ admission ∈ system.live, admission.path.all.Nodup

variable {limiter toLowercase} {before after : RateSystem} {operation : RateOperation}

open RateDomainLimiter

theorem count_all {keys : List DomainKey} (nodup : keys.Nodup) (key : DomainKey) :
    keys.count key = if key ∈ keys then 1 else 0 := by
  split
  · next isKey => exact List.count_eq_one_of_mem nodup isKey
  · next notKey => exact List.count_eq_zero_of_not_mem notKey

/-- An admitted path is below the ceilings of all its domains. -/
theorem within_of_admitted (exact : Exact limiter before) {path : RateDomainPath} {now : Nat}
    (admitted : limiter.refusal before.domains path now = none) {key : DomainKey}
    (isKey : key ∈ path.all) :
    ((inFlightOf before.domains key + 1 : Nat) : ℚ) ≤ limiter.domainCeiling key := by
  rw [inFlightOf]
  cases found : before.domains.find key with
  | none => simpa using limiter.one_le_domainCeiling key
  | some domain =>
    obtain ⟨isDomain, sameKey⟩ := Table.find_eq_some.mp found
    have known : domain ∈ path.all.filterMap before.domains.find :=
      List.mem_filterMap.mpr ⟨key, isKey, found⟩
    have slot : limiter.hasSlot domain = true := by
      simp only [refusal] at admitted
      split at admitted
      · cases admitted
      · split at admitted
        · cases admitted
        · next slots =>
            have slots := List.any_eq_false.mp (Bool.eq_false_iff.mpr slots) domain known
            simpa using slots
    rw [← sameKey]
    exact within_of_hasSlot (exact.limited domain isDomain) slot

variable {source destination : SideIdentity}

/-- An admission that takes a slot in each of its domains. -/
theorem Exact.admitCounted (exact : Exact limiter before) {now : Nat}
    (taken : ∀ key, inFlightOf ((RateDomainPath.new toLowercase source destination).all.foldl
      (limiter.takeSlot now) before.domains) key = inFlightOf before.domains key +
        (RateDomainPath.new toLowercase source destination).all.count key)
    (admitted : limiter.refusal before.domains
      (RateDomainPath.new toLowercase source destination) now = none) :
    Exact limiter {
      now
      domains := (RateDomainPath.new toLowercase source destination).all.foldl
        (limiter.takeSlot now) before.domains
      live := before.live ++ [⟨RateDomainPath.new toLowercase source destination, now⟩] } := by
  have nodup : (RateDomainPath.new toLowercase source destination).all.Nodup :=
    RateDomainPath.nodup_all
  have counts : ∀ key, inFlightOf ((RateDomainPath.new toLowercase source destination).all.foldl
      (limiter.takeSlot now) before.domains) key = inFlightOf before.domains key +
        if key ∈ (RateDomainPath.new toLowercase source destination).all then 1 else 0 := by
    intro key
    rw [taken, count_all nodup]
  constructor
  · intro key
    rw [counts, exact.counted, holders, holders, List.countP_append, List.countP_singleton]
    simp only [decide_eq_true_eq]
  · intro key
    rw [counts]
    split
    · next isKey => exact within_of_admitted exact admitted isKey
    · exact exact.within key
  · refine List.foldlRecOn (motive := fun domains : Domains =>
      ∀ domain ∈ domains, limiter.Limited domain) _ _ exact.limited ?_
    intro domains limited key _
    exact forall_modify (forall_entry limited limited_newDomain) fun _ held => held
  · intro admission isLive
    cases List.mem_append.mp isLive with
    | inl earlier => exact exact.paths admission earlier
    | inr last =>
      rw [List.mem_singleton.mp last]
      exact nodup

theorem Exact.admitPair (exact : Exact limiter before) {now : Nat}
    (room : limiter.Room before.domains (RateDomainPath.new toLowercase source destination).all
      now) (admitted : limiter.refusal before.domains
      (RateDomainPath.new toLowercase source destination) now = none) :
    Exact limiter {
      now
      domains := (RateDomainPath.new toLowercase source destination).all.foldl
        (limiter.takeSlot now) before.domains
      live := before.live ++ [⟨RateDomainPath.new toLowercase source destination, now⟩] } :=
  exact.admitCounted (fun _ => inFlightOf_takeSlots (fun _ isKey => isKey) room) admitted

theorem Exact.release (exact : Exact limiter before) {index now : Nat} {admission : Admission}
    (held : before.live[index]? = some admission) :
    Exact limiter {
      now
      domains := limiter.releaseSlots before.domains admission.path now
      live := before.live.eraseIdx index } := by
  obtain ⟨inBounds, isAdmission⟩ := List.getElem?_eq_some_iff.mp held
  have isLive : admission ∈ before.live := List.mem_of_getElem? held
  have perm : (admission :: before.live.eraseIdx index).Perm before.live := by
    rw [← isAdmission]
    exact List.getElem_cons_eraseIdx_perm inBounds
  have counts : ∀ key, inFlightOf (limiter.releaseSlots before.domains admission.path now) key =
      inFlightOf before.domains key - if key ∈ admission.path.all then 1 else 0 := by
    intro key
    rw [releaseSlots, inFlightOf_releaseSlots, count_all (exact.paths admission isLive)]
  constructor
  · intro key
    have holds := perm.countP_eq fun admission => decide (key ∈ admission.path.all)
    rw [List.countP_cons] at holds
    simp only [decide_eq_true_eq] at holds
    rw [counts, exact.counted, holders, holders, ← holds, Nat.add_sub_cancel]
  · intro key
    rw [counts]
    have fewer : ((inFlightOf before.domains key -
        if key ∈ admission.path.all then 1 else 0 : Nat) : ℚ) ≤
          (inFlightOf before.domains key : ℚ) := by
      exact_mod_cast Nat.sub_le _ _
    exact fewer.trans (exact.within key)
  · refine List.foldlRecOn (motive := fun domains : Domains =>
      ∀ domain ∈ domains, limiter.Limited domain) _ _ exact.limited ?_
    intro domains limited key _ domain isDomain
    refine forall_modify limited ?_ domain (Table.mem_delete.mp isDomain).1
    exact fun _ held => held
  · exact fun other isOther => exact.paths other (List.mem_of_mem_eraseIdx isOther)

/-- Observations change no counts. -/
theorem Exact.observe (exact : Exact limiter before) {now : Nat} {domains : Domains}
    (counts : ∀ key, inFlightOf domains key = inFlightOf before.domains key)
    (limited : ∀ domain ∈ domains, limiter.Limited domain) :
    Exact limiter { before with now, domains } where
  counted := fun key => (counts key).trans (exact.counted key)
  within := by
    intro key
    rw [counts]
    exact exact.within key
  limited := limited
  paths := exact.paths

theorem inFlightOf_rewarded {domains : Domains} {admittedAt now : Nat} {key k : DomainKey} :
    inFlightOf (modify domains key (limiter.rewarded admittedAt now)
      (limiter.rewarded_key admittedAt now)) k = inFlightOf domains k := by
  apply inFlightOf_modify
  intro domain
  rw [rewarded]
  split <;> rfl

/-- An admission is refused and changes nothing, or takes a slot in every domain. -/
theorem apply_tryAdmit {now : Nat}
    (applied : before.apply limiter toLowercase (.tryAdmit source destination now) =
      some after) :
    ((∃ blocked, limiter.refusal before.domains
        (RateDomainPath.new toLowercase source destination) now = some blocked) ∧
      after = { before with now }) ∨
    (limiter.refusal before.domains (RateDomainPath.new toLowercase source destination) now =
        none ∧
      after = {
        now
        domains := (RateDomainPath.new toLowercase source destination).all.foldl
          (limiter.takeSlot now) before.domains
        live := before.live ++
          [⟨RateDomainPath.new toLowercase source destination, now⟩] }) := by
  simp only [apply, tryAdmit] at applied
  cases refused : limiter.refusal before.domains
      (RateDomainPath.new toLowercase source destination) now with
  | some blocked =>
    simp only [refused, Option.some.injEq] at applied
    exact .inl ⟨⟨blocked, rfl⟩, applied.symm⟩
  | none =>
    simp only [refused, Option.some.injEq] at applied
    exact .inr ⟨rfl, applied.symm⟩

/-- One call keeps the counts exact. -/
theorem Step.exact (step : Step limiter toLowercase before operation after)
    (room : before.HasRoom limiter toLowercase operation) (exact : Exact limiter before) :
    Exact limiter after := by
  have applied := step.2
  cases operation with
  | tryAdmit source destination now =>
    cases apply_tryAdmit applied with
    | inl refused =>
      rw [refused.2]
      exact exact.observe (fun _ => rfl) exact.limited
    | inr admitted =>
      rw [admitted.2]
      exact exact.admitPair (room admitted.1) admitted.1
  | drop index now =>
    obtain ⟨admission, held, rfl⟩ := Option.map_eq_some_iff.mp applied
    exact exact.release held
  | observeSuccess index now =>
    obtain ⟨admission, held, rfl⟩ := Option.map_eq_some_iff.mp applied
    apply exact.observe
    · intro key
      refine List.foldlRecOn (motive := fun domains : Domains =>
        inFlightOf domains key = inFlightOf before.domains key) _ _ rfl ?_
      exact fun domains same _ _ => inFlightOf_rewarded.trans same
    · refine List.foldlRecOn (motive := fun domains : Domains =>
        ∀ domain ∈ domains, limiter.Limited domain) _ _ exact.limited ?_
      intro domains limited key _
      exact forall_modify limited fun _ held => limited_rewarded held _
  | observeClassified index failure now =>
    obtain ⟨admission, held, rfl⟩ := Option.map_eq_some_iff.mp applied
    apply exact.observe
    · intro key
      refine attributed_invariant (motive := fun domains : Domains =>
        inFlightOf domains key = inFlightOf before.domains key) ?_ ?_ ?_ rfl
      · exact fun _ _ same => inFlightOf_entry.trans same
      · intro _ _ _ _ same
        refine (inFlightOf_modify ?_).trans same
        exact fun _ => rfl
      · intro _ _ _ _ _ same
        refine (inFlightOf_modify ?_).trans same
        exact fun _ => rfl
    · refine attributed_invariant (motive := fun domains : Domains =>
        ∀ domain ∈ domains, limiter.Limited domain) ?_ ?_ ?_ exact.limited
      · exact fun _ _ limited => forall_entry limited limited_newDomain
      · exact fun _ _ _ _ limited =>
          forall_modify limited fun _ held => limited_penalty held _ _ _
      · exact fun _ _ _ _ _ limited => forall_modify limited fun _ held => held

theorem exact_empty : Exact limiter {} where
  counted := fun _ => rfl
  within := fun key => zero_le_one.trans (limiter.one_le_domainCeiling key)
  limited := fun domain isDomain => absurd isDomain (Table.not_mem_empty domain)
  paths := fun _ isLive => absurd isLive List.not_mem_nil

/-- While the limiter has room for the paths it admits, the recorded count of every domain
is that of the live admissions through it, and no domain has more than its ceiling. -/
theorem slots_are_exact {operations : List RateOperation} {system : RateSystem}
    (run : Trace (fun before operation after => Step limiter toLowercase before operation after ∧
      before.HasRoom limiter toLowercase operation) {} operations system) (key : DomainKey) :
    inFlightOf system.domains key = system.holders key ∧
      (system.holders key : ℚ) ≤ limiter.domainCeiling key := by
  have exact : Exact limiter system :=
    run.invariant (Exact limiter) exact_empty fun step => step.1.exact step.2
  refine ⟨exact.counted key, ?_⟩
  rw [← exact.counted key]
  exact exact.within key

/-- A limiter for two workers, without configured ceilings. -/
def twoWorkers : RateDomainLimiter where
  ceiling := 2
  float := .exact

/-- The capacity failure of a source mailbox. -/
def throttle : ClassifiedFailure where
  sides := [.source]
  failureClass := .capacity

section Evaluation

variable (allowed : RateSystem → RateOperation → RateSystem → Prop)
  [∀ before operation after, Decidable (allowed before operation after)]

def callOn (before : RateSystem) (operation : RateOperation) : Except Unit RateSystem :=
  ((before.apply twoWorkers id operation).filter fun after =>
    before.now ≤ operation.now ∧ allowed before operation after).elim (.error ()) .ok

variable {allowed}

theorem step_of_call {before after : RateSystem} {operation : RateOperation}
    (called : callOn allowed before operation = .ok after) :
    Step twoWorkers id before operation after ∧ allowed before operation after := by
  rw [callOn] at called
  cases kept : (before.apply twoWorkers id operation).filter fun after =>
      before.now ≤ operation.now ∧ allowed before operation after with
  | none =>
    rw [kept] at called
    cases called
  | some next =>
    rw [kept] at called
    cases called
    obtain ⟨applied, isAllowed⟩ := Option.filter_eq_some_iff.mp kept
    have isAllowed := of_decide_eq_true isAllowed
    exact ⟨⟨isAllowed.1, applied⟩, isAllowed.2⟩

/-- A run of calls that meet a condition, by evaluation. -/
theorem run_of_calls {start system : RateSystem} {operations : List RateOperation}
    (ran : operations.foldlM (callOn allowed) start = .ok system) :
    Trace (fun before operation after => Step twoWorkers id before operation after ∧
      allowed before operation after) start operations system :=
  (Trace.of_foldlM ran).weaken step_of_call

end Evaluation

/-- Of two admissions between the same hosts the second goes on when the first has ended. -/
theorem later_admission_counts : ∃ (operations : List RateOperation) (system : RateSystem)
    (key : DomainKey), Trace (fun before operation after =>
        Step twoWorkers id before operation after ∧
        before.HasRoom twoWorkers id operation) {} operations system ∧
      system.holders key = 1 ∧ inFlightOf system.domains key = 1 := by
  obtain ⟨system, ran, isHeld⟩ : ∃ system, List.foldlM
      (callOn fun before operation _ => before.HasRoom twoWorkers id operation) {} [
        .tryAdmit ⟨"imap.example.org:993", "anna", "", ""⟩
          ⟨"imap.example.com:993", "anna", "", ""⟩ 1,
        .tryAdmit ⟨"imap.example.org:993", "ben", "", ""⟩
          ⟨"imap.example.com:993", "ben", "", ""⟩ 2,
        .drop 0 3] = .ok system ∧
      decide (system.holders ⟨none, .global, "", "global"⟩ = 1) = true :=
    accepted_of_any (by decide +kernel)
  have isHeld := of_decide_eq_true isHeld
  exact ⟨_, system, _, run_of_calls ran, isHeld,
    (slots_are_exact (run_of_calls ran) _).1.trans isHeld⟩

end RateSystem

end MailSwiftSync
