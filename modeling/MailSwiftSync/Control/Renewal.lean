import MailSwiftSync.Control.Workers

/-!
# Renewing a lease

While a worker runs an assignment, it renews the lease in the background.  It measures the lease
from before each request is sent, and raises `stop` when a renewal is refused, or has failed and
another one would come too late.  The loop waits for a third of the lease between two renewals, but
what a renewal itself takes is not foreseen.
-/

namespace MailSwiftSync.Control

/-! ## The loop -/

/-- Instants and durations are in nanoseconds, on the clock of the service. -/
def nanosPerSecond : Nat := 1000000000

def httpTimeout : Nat := 30 * nanosPerSecond

structure AgentConfig where
  leaseSeconds : Nat
  renewEvery : Nat

/-- Three chances to renew before the lease runs out. -/
def AgentConfig.new (leaseSeconds : Nat) : AgentConfig where
  leaseSeconds
  renewEvery := max (leaseSeconds / 3) 1 * nanosPerSecond

def AgentConfig.lease (config : AgentConfig) : Nat := config.leaseSeconds * nanosPerSecond

inductive ControlError where
  | leaseLost
  | unauthorized
  | other (message : String)
deriving DecidableEq, Repr

/-- A request for a renewal: how long it takes, after how much of that the service handles it, and
its answer. -/
structure Renewal where
  duration : Nat
  handling : Nat
  answer : Except ControlError Unit
  handled : handling ≤ duration
  timeout : duration ≤ httpTimeout

/-- When a request that was accepted had been sent and handled. -/
structure Accepted where
  sent : Nat
  handled : Nat

/-- The renewals that were accepted, the last deadline, when the loop returned, and whether it had
raised `stop`. -/
structure Watch where
  accepted : List Accepted
  expires : Nat
  returned : Nat
  stop : Bool

/-- Renew until the run finishes, which it does some time after the last of the renewals. -/
def keepRenewing (config : AgentConfig) (finishing : Nat) : Nat → Nat → List Renewal → Watch
  | now, expires, [] => { accepted := [], expires, returned := now + finishing, stop := false }
  | now, expires, renewal :: later =>
    let attempted := now + config.renewEvery
    let now := attempted + renewal.duration
    match renewal.answer with
    | .ok () =>
      let watch := keepRenewing config finishing now (attempted + config.lease) later
      { watch with
        accepted := { sent := attempted, handled := attempted + renewal.handling } ::
          watch.accepted }
    | .error (.other _) =>
      if expires ≤ now + config.renewEvery then
        { accepted := [], expires, returned := now, stop := true }
      else keepRenewing config finishing now expires later
    | .error _ => { accepted := [], expires, returned := now, stop := true }

/-- A lease with its run: the request, what passes until the renewals begin, and what comes of
them. -/
structure LeasedRun where
  requested : Nat
  setup : Nat
  handling : Nat
  renewals : List Renewal
  finishing : Nat
  handled : handling ≤ setup

namespace LeasedRun

variable (run : LeasedRun) (config : AgentConfig)

def watch : Watch :=
  keepRenewing config run.finishing (run.requested + run.setup) (run.requested + config.lease)
    run.renewals

/-- The request for the lease and the renewals that were accepted. -/
def accepted : List Accepted :=
  { sent := run.requested, handled := run.requested + run.handling } :: (run.watch config).accepted

/-- `stop` is raised, if the run has not finished, no later than the deadline of the last request
that was accepted: by the deadline of each there is another one, or the loop has returned. -/
def StopsInTime : Prop :=
  ((run.accepted config).map (·.sent) ++ [(run.watch config).returned]).IsChain
    fun earlier later => later ≤ earlier + config.lease

/-- `lease_expires_at`; the service counts whole seconds. -/
def leaseExpiresAt (request : Accepted) : Nat :=
  (request.handled / nanosPerSecond + config.leaseSeconds) * nanosPerSecond

/-- The deadlines of the worker are not after those of the service. -/
def DeadlinesBeforeService : Prop :=
  ∀ request ∈ run.accepted config, request.sent + config.lease ≤ leaseExpiresAt config request

/-- The request for the lease takes no longer than others, and the run finishes before the next
renewal. -/
structure Regular : Prop where
  setup : run.setup ≤ httpTimeout
  finishing : run.finishing ≤ config.renewEvery

end LeasedRun

/-! ## The age of the lease -/

/-- The renewals keep pace with the lease, which is of some age when the wait for the next one
begins: no accepted one is sent, no other one comes back and the run does not finish later than
the lease lasts. -/
def KeepsPace (config : AgentConfig) (finishing : Nat) : Nat → List Renewal → Prop
  | age, [] => age + finishing ≤ config.lease
  | age, renewal :: later =>
    match renewal.answer with
    | .ok () =>
      age + config.renewEvery ≤ config.lease ∧
        KeepsPace config finishing renewal.duration later
    | .error (.other _) =>
      age + config.renewEvery + renewal.duration ≤ config.lease ∧
        (age + config.renewEvery + renewal.duration + config.renewEvery < config.lease →
          KeepsPace config finishing (age + config.renewEvery + renewal.duration) later)
    | .error _ => age + config.renewEvery + renewal.duration ≤ config.lease

/-- A request is handled in a second that began after it was sent. -/
def InLaterSecond (sent handling : Nat) : Prop :=
  sent ≤ (sent + handling) / nanosPerSecond * nanosPerSecond

/-- So are the renewals that are accepted, after a request that was sent some time ago. -/
def RenewedInLaterSecond (config : AgentConfig) : Nat → Nat → List Renewal → Prop
  | _, _, [] => True
  | sent, age, renewal :: later =>
    match renewal.answer with
    | .ok () =>
      InLaterSecond (sent + age + config.renewEvery) renewal.handling ∧
        RenewedInLaterSecond config (sent + age + config.renewEvery) renewal.duration later
    | .error (.other _) =>
      age + config.renewEvery + renewal.duration + config.renewEvery < config.lease →
        RenewedInLaterSecond config sent (age + config.renewEvery + renewal.duration) later
    | .error _ => True

/-- The request for the lease and the renewals that are accepted. -/
def LeasedRun.HandledInLaterSecond (run : LeasedRun) (config : AgentConfig) : Prop :=
  InLaterSecond run.requested run.handling ∧
    RenewedInLaterSecond config run.requested run.setup run.renewals

theorem isChain_pair {lease first second : Nat} :
    [first, second].IsChain (fun earlier later => later ≤ earlier + lease) ↔
      second ≤ first + lease := by
  rw [List.isChain_cons_cons]
  exact and_iff_left (.singleton second)

theorem keepRenewing_chain_iff {config : AgentConfig} {finishing : Nat} (renewals : List Renewal) :
    ∀ sent age : Nat,
      (sent :: ((keepRenewing config finishing (sent + age) (sent + config.lease)
        renewals).accepted.map (·.sent) ++ [(keepRenewing config finishing (sent + age)
          (sent + config.lease) renewals).returned])).IsChain
        (fun earlier later => later ≤ earlier + config.lease) ↔
      KeepsPace config finishing age renewals := by
  induction renewals with
  | nil =>
    intro sent age
    rw [keepRenewing, KeepsPace, List.map_nil, List.nil_append, isChain_pair]
    dsimp only
    omega
  | cons renewal later ih =>
    intro sent age
    rw [keepRenewing, KeepsPace]
    cases renewal.answer with
    | ok _ =>
      dsimp only
      rw [List.map_cons, List.cons_append, List.isChain_cons_cons,
        ih (sent + age + config.renewEvery) renewal.duration]
      apply and_congr_left'
      dsimp only
      omega
    | error error =>
      cases error with
      | leaseLost =>
        rw [List.map_nil, List.nil_append, isChain_pair]
        dsimp only
        omega
      | unauthorized =>
        rw [List.map_nil, List.nil_append, isChain_pair]
        dsimp only
        omega
      | other message =>
        dsimp only
        split
        · next tooLate =>
            rw [List.map_nil, List.nil_append, isChain_pair]
            dsimp only
            constructor
            · intro inTime
              exact ⟨by omega, fun early => absurd tooLate (by omega)⟩
            · intro inTime
              omega
        · next early =>
            have rest := ih sent (age + config.renewEvery + renewal.duration)
            rw [← Nat.add_assoc, ← Nat.add_assoc] at rest
            rw [rest]
            exact ⟨fun keeps => ⟨by omega, fun _ => keeps⟩, fun keeps => keeps.2 (by omega)⟩

/-- The deadline of a request is not after that of the service exactly when the service handles the
request in a later second. -/
theorem deadline_le_iff {config : AgentConfig} {sent handling : Nat} :
    sent + config.lease ≤ LeasedRun.leaseExpiresAt config ⟨sent, sent + handling⟩ ↔
      InLaterSecond sent handling := by
  rw [LeasedRun.leaseExpiresAt, AgentConfig.lease, Nat.add_mul]
  exact Nat.add_le_add_iff_right

theorem keepRenewing_deadlines_iff {config : AgentConfig} {finishing : Nat}
    (renewals : List Renewal) :
    ∀ sent age : Nat,
      (∀ request ∈ (keepRenewing config finishing (sent + age) (sent + config.lease)
          renewals).accepted,
        request.sent + config.lease ≤ LeasedRun.leaseExpiresAt config request) ↔
      RenewedInLaterSecond config sent age renewals := by
  induction renewals with
  | nil =>
    intro sent age
    exact iff_of_true (fun _ isIn => absurd isIn List.not_mem_nil) trivial
  | cons renewal later ih =>
    intro sent age
    rw [keepRenewing, RenewedInLaterSecond]
    cases renewal.answer with
    | ok _ =>
      dsimp only
      rw [List.forall_mem_cons, deadline_le_iff,
        ih (sent + age + config.renewEvery) renewal.duration]
    | error error =>
      cases error with
      | leaseLost => exact iff_of_true (fun _ isIn => absurd isIn List.not_mem_nil) trivial
      | unauthorized => exact iff_of_true (fun _ isIn => absurd isIn List.not_mem_nil) trivial
      | other message =>
        dsimp only
        split
        · next tooLate =>
            exact iff_of_true (fun _ isIn => absurd isIn List.not_mem_nil)
              fun early => absurd tooLate (by omega)
        · next early =>
            have rest := ih sent (age + config.renewEvery + renewal.duration)
            rw [← Nat.add_assoc, ← Nat.add_assoc] at rest
            rw [rest]
            exact ⟨fun handled _ => handled, fun handled => handled (by omega)⟩

namespace LeasedRun

variable {run : LeasedRun} {config : AgentConfig}

theorem stopsInTime_iff :
    run.StopsInTime config ↔ KeepsPace config run.finishing run.setup run.renewals :=
  keepRenewing_chain_iff run.renewals run.requested run.setup

theorem deadlinesBeforeService_iff :
    run.DeadlinesBeforeService config ↔ run.HandledInLaterSecond config := by
  rw [DeadlinesBeforeService, accepted, List.forall_mem_cons, deadline_le_iff,
    HandledInLaterSecond]
  exact and_congr_right' (keepRenewing_deadlines_iff run.renewals run.requested run.setup)

end LeasedRun

/-! ## Lengths of leases -/

/-- A wait takes a third of the lease, in whole seconds. -/
theorem renewEvery_new {leaseSeconds : Nat} (admitted : 30 ≤ leaseSeconds) :
    (AgentConfig.new leaseSeconds).renewEvery = leaseSeconds / 3 * nanosPerSecond := by
  rw [AgentConfig.new]
  dsimp only
  rw [max_eq_left (by omega)]

/-- Waits of exactly a third that are each longer than three requests leave room for one failure,
and the second one is noticed in time. -/
theorem keepsPace_of_thirds {third : Nat} (long : 90 ≤ third) {finishing : Nat}
    (inWait : finishing ≤ (AgentConfig.new (3 * third)).renewEvery) (renewals : List Renewal) :
    ∀ age : Nat, (age ≤ httpTimeout ∨ third * nanosPerSecond ≤ age ∧
        age ≤ third * nanosPerSecond + 2 * httpTimeout) →
      KeepsPace (AgentConfig.new (3 * third)) finishing age renewals := by
  have wait : (AgentConfig.new (3 * third)).renewEvery = third * nanosPerSecond := by
    rw [renewEvery_new (by omega), Nat.mul_div_cancel_left third (by decide)]
  have lease : (AgentConfig.new (3 * third)).lease = 3 * (third * nanosPerSecond) :=
    Nat.mul_assoc 3 third nanosPerSecond
  have room : 3 * httpTimeout ≤ third * nanosPerSecond := by
    rw [httpTimeout, nanosPerSecond]
    omega
  rw [wait] at inWait
  induction renewals with
  | nil =>
    intro age young
    rw [KeepsPace, lease]
    omega
  | cons renewal later ih =>
    intro age young
    have timeout := renewal.timeout
    rw [KeepsPace, wait, lease]
    cases renewal.answer with
    | ok _ => exact ⟨by omega, ih _ (.inl timeout)⟩
    | error error =>
      cases error with
      | leaseLost =>
        dsimp only
        omega
      | unauthorized =>
        dsimp only
        omega
      | other message => exact ⟨by omega, fun early => ih _ (.inr (by omega))⟩

/-- A renewal that fails after some seconds. -/
def failedRenewal (seconds : Nat) (timeout : seconds ≤ 30) : Renewal where
  duration := seconds * nanosPerSecond
  handling := 0
  answer := .error (.other "the control plane did not answer")
  handled := Nat.zero_le _
  timeout := Nat.mul_le_mul_right nanosPerSecond timeout

/-- Two failures at once and a slow one: the third renewal begins when a third of the lease, rounded
down, has passed three times. -/
def thirdFailureRun : LeasedRun where
  requested := 0
  setup := 0
  handling := 0
  renewals := [failedRenewal 0 (by decide), failedRenewal 0 (by decide),
    failedRenewal 30 (by decide)]
  finishing := 0
  handled := Nat.zero_le _

/-- Slow from the beginning: the second renewal begins just before the last third is over, if a
third is short enough. -/
def slowRun (third : Nat) : LeasedRun where
  requested := 0
  setup := min 30 (third - 1) * nanosPerSecond
  handling := 0
  renewals := [failedRenewal (min 30 (third - 1 - min 30 (third - 1))) (Nat.min_le_left _ _),
    failedRenewal 30 (by decide)]
  finishing := 0
  handled := Nat.zero_le _

theorem slowRun_regular (third : Nat) (config : AgentConfig) : (slowRun third).Regular config where
  setup := Nat.mul_le_mul_right nanosPerSecond (Nat.min_le_left 30 (third - 1))
  finishing := Nat.zero_le _

theorem thirdFailureRun_late {leaseSeconds : Nat} (admitted : 30 ≤ leaseSeconds)
    (remainder : ¬3 ∣ leaseSeconds) :
    ¬thirdFailureRun.StopsInTime (AgentConfig.new leaseSeconds) := by
  rw [LeasedRun.stopsInTime_iff]
  intro keeps
  have wait := renewEvery_new admitted
  have lease : (AgentConfig.new leaseSeconds).lease = leaseSeconds * nanosPerSecond := rfl
  simp only [thirdFailureRun, failedRenewal, KeepsPace, wait, lease, nanosPerSecond] at keeps
  omega

theorem slowRun_late {third : Nat} (admitted : 10 ≤ third) (short : third < 90) :
    ¬(slowRun third).StopsInTime (AgentConfig.new (3 * third)) := by
  rw [LeasedRun.stopsInTime_iff]
  intro keeps
  have wait : (AgentConfig.new (3 * third)).renewEvery = third * nanosPerSecond := by
    rw [renewEvery_new (by omega), Nat.mul_div_cancel_left third (by decide)]
  have lease : (AgentConfig.new (3 * third)).lease = 3 * third * nanosPerSecond := rfl
  simp only [slowRun, failedRenewal, KeepsPace, wait, lease, nanosPerSecond] at keeps
  omega

/-- The leases under which no sequence of renewals makes the worker stop too late. -/
theorem stopsInTime_forall_iff {leaseSeconds : Nat} (admitted : 30 ≤ leaseSeconds) :
    (∀ run : LeasedRun, run.Regular (AgentConfig.new leaseSeconds) →
      run.StopsInTime (AgentConfig.new leaseSeconds)) ↔ 3 ∣ leaseSeconds ∧ 270 ≤ leaseSeconds := by
  constructor
  · intro inTime
    by_cases remainder : 3 ∣ leaseSeconds
    · refine ⟨remainder, ?_⟩
      obtain ⟨third, rfl⟩ := remainder
      by_contra short
      exact slowRun_late (by omega) (by omega) (inTime (slowRun third) (slowRun_regular _ _))
    · exact absurd (inTime thirdFailureRun ⟨Nat.zero_le _, Nat.zero_le _⟩)
        (thirdFailureRun_late admitted remainder)
  · intro ⟨⟨third, isThird⟩, long⟩ run regular
    rw [LeasedRun.stopsInTime_iff]
    rw [isThird] at regular ⊢
    exact keepsPace_of_thirds (by omega) regular.finishing run.renewals run.setup
      (.inl regular.setup)

/-- A run is stopped in time, under deadlines that are not after those of the service, exactly when
its renewals keep pace with the lease and every accepted request is handled in a later second than
it was sent.  No renewals of at most half a minute fall behind exactly when the lease is a multiple
of three seconds and at least 270. -/
theorem worker_stops_in_time_iff {leaseSeconds : Nat} (admitted : 30 ≤ leaseSeconds) :
    (∀ run : LeasedRun,
      (run.StopsInTime (AgentConfig.new leaseSeconds) ∧
        run.DeadlinesBeforeService (AgentConfig.new leaseSeconds)) ↔
      (KeepsPace (AgentConfig.new leaseSeconds) run.finishing run.setup run.renewals ∧
        run.HandledInLaterSecond (AgentConfig.new leaseSeconds))) ∧
    ((∀ run : LeasedRun, run.Regular (AgentConfig.new leaseSeconds) →
      run.StopsInTime (AgentConfig.new leaseSeconds)) ↔
        3 ∣ leaseSeconds ∧ 270 ≤ leaseSeconds) :=
  ⟨fun _ => and_congr LeasedRun.stopsInTime_iff LeasedRun.deadlinesBeforeService_iff,
    stopsInTime_forall_iff admitted⟩

/-- The default lease, with requests that take as long as they may. -/
theorem default_lease_stops_in_time : (slowRun 100).StopsInTime (AgentConfig.new 300) :=
  (worker_stops_in_time_iff (by decide : 30 ≤ 300)).2.mpr ⟨by decide, by decide⟩ (slowRun 100)
    (slowRun_regular _ _)

/-- A lease that is handed out in the second in which it was requested. -/
def sameSecondRun : LeasedRun where
  requested := 900000000
  setup := 100000000
  handling := 50000000
  renewals := []
  finishing := 0
  handled := by decide

/-- A lease of 90 seconds, after 119 of which the worker stops, and one of 300 whose deadline is
later for the worker than for the service. -/
theorem slow_renewal_outlasts_lease :
    ((slowRun 30).watch (AgentConfig.new 90)).expires = 90 * nanosPerSecond ∧
      ((slowRun 30).watch (AgentConfig.new 90)).returned = 119 * nanosPerSecond ∧
      ¬((slowRun 30).StopsInTime (AgentConfig.new 90) ∧
        (slowRun 30).DeadlinesBeforeService (AgentConfig.new 90)) ∧
      ¬sameSecondRun.DeadlinesBeforeService (AgentConfig.new 300) := by
  refine ⟨by decide +kernel, by decide +kernel, fun inTime => ?_, fun before => ?_⟩
  · exact slowRun_late (by decide : 10 ≤ 30) (by decide) inTime.1
  · exact absurd (before ⟨900000000, 950000000⟩ List.mem_cons_self) (by decide +kernel)

end MailSwiftSync.Control
