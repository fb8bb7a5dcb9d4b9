import Mathlib.Data.Rat.Floor
import MailSwiftSync.Foundation.Table
import MailSwiftSync.Foundation.Transition
import MailSwiftSync.Message

/-!
# Rate domains

Every job runs inside a path of rate domains: the global one and, for each side, a
provider, a tenant, a credential and a mailbox.  A domain has a concurrency limit and a
cooldown.  Times are nanoseconds of a monotonic clock.
-/

namespace MailSwiftSync

open Foundation

/-! ## Keys -/

/-- The mail server a name is about. -/
inductive MailSide where
  | source
  | destination
deriving DecidableEq, Repr

/-- Levels of the hierarchy. -/
inductive DomainLevel where
  | global
  | provider
  | tenant
  | credential
  | mailbox
deriving DecidableEq, Repr

/-- One rate domain. -/
structure DomainKey where
  side : Option MailSide
  level : DomainLevel
  scope : String
  provider : String
deriving DecidableEq, Repr

/-- The domains of one side, from the broadest to the narrowest. -/
structure SideChain where
  provider : DomainKey
  tenant : DomainKey
  credential : DomainKey
  mailbox : DomainKey
deriving DecidableEq, Repr

def SideChain.keys (chain : SideChain) : List DomainKey :=
  [chain.provider, chain.tenant, chain.credential, chain.mailbox]

/-- Identity of one side of a job. -/
structure SideIdentity where
  endpoint : String
  user : String
  tenant : String := ""
  principal : String := ""

/-- The part before the first occurrence of a character, and the part after it. -/
def splitOnce (separator : Char) (text : List Char) : Option (List Char × List Char) :=
  if separator ∈ text then
    some (text.takeWhile (· ≠ separator), (text.dropWhile (· ≠ separator)).drop 1)
  else none

/-- The part after the last occurrence of a character. -/
def afterLast (separator : Char) (text : List Char) : Option (List Char) :=
  (splitOnce separator text.reverse).map fun parts => parts.1.reverse

/-- `trim_end_matches('.')`. -/
def trimEndDots (text : List Char) : List Char :=
  (text.reverse.dropWhile (· = '.')).reverse

/-- Domains by which hosted providers are known. -/
def providerDomains : List (String × List String) :=
  [("gmail", ["gmail.com", "googlemail.com"]),
    ("microsoft365", ["office365.com", "outlook.com", "exchange.microsoft.com"])]

/-- The provider of a host name, by whole labels. -/
def providerOfHost (host : List Char) : String :=
  ((providerDomains.find? fun entry => entry.2.any fun domain =>
    host = domain.toList || ('.' :: domain.toList).isSuffixOf host).map (·.1)).getD "generic"

/-- The provider an endpoint belongs to. -/
def canonicalProvider (endpoint : String) : String :=
  let text := (trim endpoint).toList
  let ofHost (host : List Char) : String :=
    let host := (trimEndDots host).map Char.toLower
    if host = [] then "generic" else providerOfHost host
  if ['['].isPrefixOf text then "generic"
  else
    match splitOnce ':' text with
    | some (host, port) => if port.all Char.isDigit then ofHost host else "generic"
    | none => ofHost text

section Paths

variable (toLowercase : String → String)

/-- The tenant an account belongs to. -/
def tenantScope (identity : SideIdentity) : String :=
  let user := toLowercase (trim identity.user)
  let tenant :=
    if trim identity.tenant = "" then
      (afterLast '@' user.toList).elim "" fun domain => String.ofList (trimEndDots domain)
    else String.ofList ((trim identity.tenant).toList.map Char.toLower)
  if tenant = "" then "(no domain) @ " ++ identity.endpoint
  else tenant ++ " @ " ++ identity.endpoint

def sideChain (side : MailSide) (identity : SideIdentity) : SideChain :=
  let provider := canonicalProvider identity.endpoint
  let user := toLowercase (trim identity.user)
  let principal := if trim identity.principal = "" then user else trim identity.principal
  let key (level : DomainLevel) (scope : String) : DomainKey :=
    { side := some side, level, scope, provider }
  { provider := key .provider identity.endpoint
    tenant := key .tenant (tenantScope toLowercase identity)
    credential := key .credential (principal ++ " in " ++ tenantScope toLowercase identity)
    mailbox := key .mailbox (user ++ " @ " ++ identity.endpoint) }

end Paths

/-- The domains one job must be admitted through. -/
structure RateDomainPath where
  global : DomainKey
  source : SideChain
  destination : SideChain
deriving DecidableEq

namespace RateDomainPath

def new (toLowercase : String → String) (source destination : SideIdentity) :
    RateDomainPath where
  global := { side := none, level := .global, scope := "", provider := "global" }
  source := sideChain toLowercase .source source
  destination := sideChain toLowercase .destination destination

def all (path : RateDomainPath) : List DomainKey :=
  path.global :: (path.source.keys ++ path.destination.keys)

def chain (path : RateDomainPath) : MailSide → SideChain
  | .source => path.source
  | .destination => path.destination

/-- The child a failure counts as for the global domain: its pair of endpoints. -/
def providerPair (path : RateDomainPath) : DomainKey where
  side := none
  level := .provider
  scope := path.source.provider.scope ++ " → " ++ path.destination.provider.scope
  provider := "global"

/-- The ancestors of the mailbox of a side, narrowest first, each with the child a failure
of the mailbox counts as. -/
def lineage (path : RateDomainPath) (side : MailSide) : List (DomainKey × DomainKey) :=
  let chain := path.chain side
  [(chain.credential, chain.mailbox), (chain.tenant, chain.credential),
    (chain.provider, chain.tenant), (path.global, path.providerPair)]

end RateDomainPath

/-! ## Domains -/

/-- Nanoseconds. -/
def seconds (count : Nat) : Nat := count * 10 ^ 9

def maxRateDomains : Nat := 4096

def escalationResetAfter : Nat := seconds 300

def escalationWindow : Nat := seconds 120

def escalationDistinctChildren : Nat := 2

def maxCooldown : Nat := seconds 120

def defaultCapacityDelay : Nat := seconds 5

/-- Rounding to the nearest `f64`, as far as the limiter depends on it. -/
structure FloatRounding where
  round : ℚ → ℚ
  monotone : Monotone round
  round_round : ∀ x, round (round x) = round x
  round_floor : ∀ x, round x = x → round ⌊x⌋ = ⌊x⌋
  round_zero : round 0 = 0
  round_one : round 1 = 1

/-- No rounding, as for the halves and small counts of the examples. -/
def FloatRounding.exact : FloatRounding where
  round := fun x => x
  monotone := fun _ _ bound => bound
  round_round := fun _ => rfl
  round_floor := fun _ _ => rfl
  round_zero := rfl
  round_one := rfl

/-- A domain the limiter remembers. -/
structure Domain where
  key : DomainKey
  limit : ℚ
  inFlight : Nat
  blockedUntil : Nat
  lastCapacityFailure : Option Nat
  consecutiveCapacityFailures : Nat
  childFailures : List (DomainKey × Nat)
deriving DecidableEq

/-- Configured ceilings, by provider. -/
structure ProviderRateCeilings where
  provider : String → Option Nat := fun _ => none
  tenant : String → Option Nat := fun _ => none
  credential : String → Option Nat := fun _ => none

/-- The fixed part of a limiter. -/
structure RateDomainLimiter where
  ceiling : Nat
  providerCeilings : ProviderRateCeilings := {}
  float : FloatRounding

/-- The domains a limiter remembers. -/
abbrev Domains := Table Domain.key

/-- Why a path cannot be admitted right now. -/
inductive Blocked where
  | until (time : Nat)
  | slot
deriving DecidableEq, Repr

/-- A held admission. -/
structure Admission where
  path : RateDomainPath
  admittedAt : Nat
deriving DecidableEq

/-- The failure classes of the controller. -/
inductive FailureClass where
  | cancellation
  | authentication
  | quota
  | capacity
  | transport
  | configuration
  | message
  | verification
  | unknown
deriving DecidableEq, Repr

/-- A failure classified at the execution boundary. -/
structure ClassifiedFailure where
  sides : List MailSide
  failureClass : FailureClass
  retryAfter : Option Nat := none
  suggestedDelay : Option Nat := none

def ClassifiedFailure.isCapacity (failure : ClassifiedFailure) : Bool :=
  failure.sides ≠ [] && failure.failureClass = .capacity

namespace RateDomainLimiter

variable (limiter : RateDomainLimiter)

/-- A count as `f64`. -/
def asFloat (count : Nat) : ℚ := limiter.float.round count

def domainCeiling (key : DomainKey) : ℚ :=
  let configured := match key.level with
    | .provider => limiter.providerCeilings.provider key.provider
    | .tenant => limiter.providerCeilings.tenant key.provider
    | .credential => limiter.providerCeilings.credential key.provider
    | .global | .mailbox => none
  configured.elim (limiter.asFloat (max limiter.ceiling 1)) fun limit =>
    min (limiter.asFloat (max limiter.ceiling 1)) (limiter.asFloat (max limit 1))

/-- A domain nothing is known about. -/
def newDomain (key : DomainKey) (now : Nat) : Domain where
  key := key
  limit := limiter.domainCeiling key
  inFlight := 0
  blockedUntil := now
  lastCapacityFailure := none
  consecutiveCapacityFailures := 0
  childFailures := []

/-- Whether a domain has a slot. -/
def hasSlot (domain : Domain) : Bool :=
  limiter.asFloat domain.inFlight < max (⌊domain.limit⌋ : ℚ) 1

/-- Nothing about this domain differs from a fresh one. -/
def forgettable (domain : Domain) (now : Nat) : Bool :=
  domain.inFlight = 0 && limiter.domainCeiling domain.key ≤ domain.limit &&
    (domain.lastCapacityFailure.isNone ||
      domain.blockedUntil + escalationResetAfter ≤ now) &&
    domain.childFailures.all fun failure => failure.2 + escalationWindow ≤ now

/-- Make sure a domain is remembered, unless there is no room for it. -/
def entry (domains : Domains) (key : DomainKey) (now : Nat) : Domains :=
  if domains.any (·.key = key) then domains
  else
    let pruned := if maxRateDomains ≤ domains.rows.length
      then domains.delete (limiter.forgettable · now) else domains
    if maxRateDomains ≤ pruned.rows.length then pruned
    else (pruned.insert (limiter.newDomain key now)).getD pruned

/-- Change a domain, if it is remembered. -/
def modify (domains : Domains) (key : DomainKey) (change : Domain → Domain)
    (keepsKey : ∀ domain, (change domain).key = domain.key := by intro _; rfl) : Domains :=
  domains.update (·.key = key) change keepsKey

/-! ## Admission -/

/-- Why a path is refused. -/
def refusal (domains : Domains) (path : RateDomainPath) (now : Nat) : Option Blocked :=
  let known := path.all.filterMap domains.find
  let cooling := known.filter (now < ·.blockedUntil)
  if cooling ≠ [] then some (.until ((cooling.map (·.blockedUntil)).foldl max 0))
  else if known.any (fun domain => !limiter.hasSlot domain) then some .slot
  else none

/-- Count one more admission in a domain. -/
def takeSlot (now : Nat) (domains : Domains) (key : DomainKey) : Domains :=
  modify (limiter.entry domains key now) key fun domain =>
    { domain with inFlight := domain.inFlight + 1 }

/-- Hold a slot in every domain of a path. -/
def tryAdmit (domains : Domains) (path : RateDomainPath) (now : Nat) :
    Except Blocked (Domains × Admission) :=
  match limiter.refusal domains path now with
  | some blocked => .error blocked
  | none => .ok (path.all.foldl (limiter.takeSlot now) domains, { path, admittedAt := now })

/-- Give a slot back, and forget a domain that is like a fresh one. -/
def releaseSlot (now : Nat) (domains : Domains) (key : DomainKey) : Domains :=
  (modify domains key fun domain =>
    { domain with inFlight := domain.inFlight - 1 }).delete fun domain =>
      domain.key = key && limiter.forgettable domain now

def releaseSlots (domains : Domains) (path : RateDomainPath) (now : Nat) : Domains :=
  path.all.foldl (limiter.releaseSlot now) domains

/-! ## Observation -/

/-- Additive increase after a launch that outlived the last failure. -/
def rewarded (admittedAt now : Nat) (domain : Domain) : Domain :=
  if domain.lastCapacityFailure.all (· ≤ admittedAt) then
    { domain with
      limit := min (limiter.float.round (domain.limit + 1)) (limiter.domainCeiling domain.key)
      consecutiveCapacityFailures :=
        if domain.blockedUntil ≤ now then 0 else domain.consecutiveCapacityFailures }
  else domain

theorem rewarded_key (admittedAt now : Nat) (domain : Domain) :
    (limiter.rewarded admittedAt now domain).key = domain.key := by
  rw [rewarded]
  split <;> rfl

def observeSuccess (domains : Domains) (admission : Admission) (now : Nat) : Domains :=
  admission.path.all.foldl (fun domains key =>
    modify domains key (limiter.rewarded admission.admittedAt now)
      (limiter.rewarded_key admission.admittedAt now)) domains

/-- Multiplicative decrease and an escalating cooldown. -/
def penalty (base floor admittedAt now : Nat) (domain : Domain) : Domain :=
  let failures := if domain.blockedUntil + escalationResetAfter ≤ now then 0
    else domain.consecutiveCapacityFailures
  let cooldown := max (min (base * 2 ^ min failures 5) maxCooldown) floor
  { domain with
    limit := if domain.lastCapacityFailure.all (· ≤ admittedAt)
      then max (limiter.float.round (domain.limit / 2)) 1 else domain.limit
    blockedUntil := max domain.blockedUntil (now + cooldown)
    consecutiveCapacityFailures := min (failures + 1) 255
    lastCapacityFailure := some now }

/-- Penalize a domain, if there is room to remember it. -/
def penalize (base floor admittedAt now : Nat) (domains : Domains) (key : DomainKey) :
    Domains × Bool :=
  let entered := limiter.entry domains key now
  if entered.any (·.key = key) then
    (modify entered key (limiter.penalty base floor admittedAt now), true)
  else (entered, false)

/-- Domains, and the keys penalized so far. -/
abbrev Penalties := Domains × List DomainKey

/-- A domain that learned about a throttled child. -/
def noticed (child : DomainKey) (now : Nat) (domain : Domain) : Domain :=
  { domain with
    childFailures := (domain.childFailures.filter fun failure =>
      failure.1 ≠ child && now < failure.2 + escalationWindow) ++ [(child, now)] }

/-- Tell an ancestor which of its children was throttled, and penalize it once enough
distinct children are. -/
def escalate (base floor admittedAt now : Nat) (penalties : Penalties)
    (link : DomainKey × DomainKey) : Penalties :=
  let domains := modify (limiter.entry penalties.1 link.1 now) link.1 (noticed link.2 now)
  if (domains.find link.1).any (escalationDistinctChildren ≤ ·.childFailures.length) then
    let penalized := limiter.penalize base floor admittedAt now domains link.1
    (penalized.1, if penalized.2 && link.1 ∉ penalties.2 then penalties.2 ++ [link.1]
      else penalties.2)
  else (domains, penalties.2)

/-- Attribute a failure to the mailbox of a side and to its ancestors. -/
def blame (base floor : Nat) (admission : Admission) (now : Nat) (penalties : Penalties)
    (side : MailSide) : Penalties :=
  let mailbox := (admission.path.chain side).mailbox
  let penalized := limiter.penalize base floor admission.admittedAt now penalties.1 mailbox
  (admission.path.lineage side).foldl
    (limiter.escalate base floor admission.admittedAt now)
    (penalized.1, if penalized.2 then penalties.2 ++ [mailbox] else penalties.2)

/-- Attribute a failure to the sides it names. -/
def attributed (domains : Domains) (admission : Admission) (failure : ClassifiedFailure)
    (now : Nat) : Penalties :=
  if failure.isCapacity then
    let base := (failure.retryAfter.or failure.suggestedDelay).getD defaultCapacityDelay
    failure.sides.foldl (limiter.blame base (failure.retryAfter.getD 0) admission now)
      (domains, [])
  else (domains, [])

/-- Attribute a failure, and report each penalized domain with the end of its cooldown. -/
def observeClassified (domains : Domains) (admission : Admission)
    (failure : ClassifiedFailure) (now : Nat) : Domains × List (DomainKey × Nat) :=
  let penalties := limiter.attributed domains admission failure now
  (penalties.1, penalties.2.filterMap fun key =>
    (penalties.1.find key).map fun domain => (key, domain.blockedUntil))

end RateDomainLimiter

end MailSwiftSync
