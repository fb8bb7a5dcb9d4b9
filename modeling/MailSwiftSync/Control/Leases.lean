import MailSwiftSync.Control.Assignments

/-!
# Fenced leases

An assignment is leased, renewed and reported by workers that do not know of each other, and
returned to the queue by operators.  Its events follow a cycle that only a result leaves, and each
round has a fencing token of its own.
-/

namespace MailSwiftSync.Control

open Foundation

/-! ## The cycle -/

/-- Where an assignment is in the cycle. -/
inductive LeasePhase where
  | queued
  | leased
  | needsReconciliation
  | finished
  | cancelled
deriving DecidableEq, Repr

def AssignmentState.phase : AssignmentState → LeasePhase
  | .queued => .queued
  | .leased _ _ => .leased
  | .needsReconciliation => .needsReconciliation
  | .completed => .finished
  | .failed => .finished
  | .cancelled => .cancelled

namespace LeaseEvent

/-- The phase an event takes an assignment from. -/
def source : LeaseEvent → LeasePhase
  | leased => .queued
  | renewed => .leased
  | reported => .leased
  | reconciled => .leased
  | requeued => .needsReconciliation

/-- The phase an event takes an assignment to. -/
def target : LeaseEvent → LeasePhase
  | leased => .leased
  | renewed => .leased
  | reported => .finished
  | reconciled => .needsReconciliation
  | requeued => .queued

theorem source_ne_finished (event : LeaseEvent) : event.source ≠ .finished := by
  cases event with
  | leased => exact LeasePhase.noConfusion
  | renewed => exact LeasePhase.noConfusion
  | reported => exact LeasePhase.noConfusion
  | reconciled => exact LeasePhase.noConfusion
  | requeued => exact LeasePhase.noConfusion

theorem eq_requeued_of_source {event : LeaseEvent}
    (isSource : event.source = .needsReconciliation) : event = .requeued := by
  cases event with
  | leased => cases isSource
  | renewed => cases isSource
  | reported => cases isSource
  | reconciled => cases isSource
  | requeued => rfl

end LeaseEvent

namespace Assignment

variable {row : Assignment} {time : Int}

theorem isOverdue_iff :
    row.isOverdue time = true ↔ ∃ worker expiresAt, row.state = .leased worker expiresAt ∧
      expiresAt + reassignGraceSeconds ≤ time := by
  rw [isOverdue]
  cases isState : row.state with
  | leased worker expiresAt =>
    rw [AssignmentState.leaseExpiresAt, Option.any_some, decide_eq_true_eq]
    constructor
    · intro late
      exact ⟨worker, expiresAt, rfl, late⟩
    · intro ⟨_, _, same, late⟩
      cases same
      exact late
  | queued => simp [AssignmentState.leaseExpiresAt]
  | needsReconciliation => simp [AssignmentState.leaseExpiresAt]
  | completed => simp [AssignmentState.leaseExpiresAt]
  | failed => simp [AssignmentState.leaseExpiresAt]
  | cancelled => simp [AssignmentState.leaseExpiresAt]

theorem isHeldBy_iff {worker : String} {fencingToken : Int} :
    row.isHeldBy worker fencingToken time = true ↔
      ∃ expiresAt, row.state = .leased worker expiresAt ∧ row.fencingToken = fencingToken ∧
        time < expiresAt := by
  rw [isHeldBy]
  cases isState : row.state with
  | leased holder expiresAt =>
    simp only [AssignmentState.leaseWorkerId, AssignmentState.leaseExpiresAt, Option.any_some,
      Option.some.injEq, Bool.and_eq_true, decide_eq_true_eq, AssignmentState.leased.injEq]
    constructor
    · intro ⟨⟨isHolder, isToken⟩, inTime⟩
      exact ⟨expiresAt, ⟨isHolder, rfl⟩, isToken, inTime⟩
    · intro ⟨_, ⟨isHolder, same⟩, isToken, inTime⟩
      exact ⟨⟨isHolder, isToken⟩, same ▸ inTime⟩
  | queued => simp [AssignmentState.leaseWorkerId]
  | needsReconciliation => simp [AssignmentState.leaseWorkerId]
  | completed => simp [AssignmentState.leaseWorkerId]
  | failed => simp [AssignmentState.leaseWorkerId]
  | cancelled => simp [AssignmentState.leaseWorkerId]

end Assignment

theorem AssignmentState.phase_leased {state : AssignmentState} {worker : String}
    {expiresAt : Int} (isLeased : state = .leased worker expiresAt) : state.phase = .leased := by
  rw [isLeased]
  rfl

variable {occurrence : Occurrence}

/-- Events take assignments around the cycle. -/
theorem Occurs.phases (occurs : Occurs occurrence) :
    occurrence.before.state.phase = occurrence.event.source ∧
      occurrence.after.state.phase = occurrence.event.target := by
  cases occurs with
  | leased _ queued => exact ⟨congrArg AssignmentState.phase queued, rfl⟩
  | renewed _ held =>
    obtain ⟨_, isLeased, _⟩ := Assignment.isHeldBy_iff.mp held
    exact ⟨AssignmentState.phase_leased isLeased, rfl⟩
  | @reported _ _ _ _ outcome _ _ _ _ _ held =>
    obtain ⟨_, isLeased, _⟩ := Assignment.isHeldBy_iff.mp held
    cases outcome with
    | completed => exact ⟨AssignmentState.phase_leased isLeased, rfl⟩
    | failed => exact ⟨AssignmentState.phase_leased isLeased, rfl⟩
  | reconciled _ overdue =>
    obtain ⟨_, _, isLeased, _⟩ := Assignment.isOverdue_iff.mp overdue
    exact ⟨AssignmentState.phase_leased isLeased, rfl⟩
  | requeued needsReconciliation =>
    exact ⟨congrArg AssignmentState.phase needsReconciliation, rfl⟩

section

variable {row next : Assignment} {occurrence first : Occurrence}
variable {occurrences : List Occurrence}

theorem Happens.source (happens : Happens row occurrence next) :
    row.state.phase = occurrence.event.source :=
  happens.2.1 ▸ happens.1.phases.1

theorem Happens.target (happens : Happens row occurrence next) :
    next.state.phase = occurrence.event.target :=
  happens.2.2 ▸ happens.1.phases.2

/-- Nothing happens to an assignment with a result. -/
theorem not_happens_of_finished (finished : row.state.phase = .finished) :
    ¬Happens row occurrence next :=
  fun happens => occurrence.event.source_ne_finished (happens.source.symm.trans finished)

theorem trace_of_finished (finished : row.state.phase = .finished)
    (trace : Trace Happens row occurrences next) : occurrences = [] ∧ next = row := by
  cases occurrences with
  | nil => exact ⟨rfl, trace.of_nil⟩
  | cons occurrence rest =>
    obtain ⟨middle, happens, _⟩ := Trace.of_cons trace
    exact absurd happens (not_happens_of_finished finished)

/-- A lease that was handed out is renewed, then reconciled long enough after it expired, and then
requeued, before the assignment is leased again. -/
theorem requeued_before_next_lease {between after : List Occurrence} {second : Occurrence}
    (trace : Trace Happens row (between ++ second :: after) next) (isFirst : first.after = row)
    (isLeased : row.state.phase = .leased) (isSecond : second.event = .leased) :
    ∃ renewals reconciled requeued more, between = renewals ++ reconciled :: requeued :: more ∧
      (∀ renewal ∈ renewals, renewal.event = .renewed) ∧
      (Occurs reconciled ∧ reconciled.event = .reconciled) ∧
      (∃ worker expiresAt,
        ((first :: renewals).getLast (List.cons_ne_nil _ _)).after.state =
          .leased worker expiresAt ∧
        expiresAt + reassignGraceSeconds ≤ reconciled.time) ∧
      Occurs requeued ∧ requeued.event = .requeued := by
  induction between generalizing row first with
  | nil =>
    obtain ⟨_, happens, _⟩ := Trace.of_cons trace
    have source := happens.source.symm.trans isLeased
    rw [isSecond] at source
    cases source
  | cons occurrence rest ih =>
    obtain ⟨middle, happens, later⟩ := Trace.of_cons trace
    have source := happens.source.symm.trans isLeased
    have target := happens.target
    cases isEvent : occurrence.event with
    | leased =>
      rw [isEvent] at source
      cases source
    | requeued =>
      rw [isEvent] at source
      cases source
    | renewed =>
      rw [isEvent] at target
      obtain ⟨renewals, reconciled, requeued, more, rfl, areRenewals, others⟩ :=
        ih later happens.2.2 target
      refine ⟨occurrence :: renewals, reconciled, requeued, more, rfl, ?_, others⟩
      intro renewal isRenewal
      cases List.mem_cons.mp isRenewal with
      | inl same => rw [same, isEvent]
      | inr isRest => exact areRenewals renewal isRest
    | reported =>
      rw [isEvent] at target
      obtain ⟨isNil, _⟩ := trace_of_finished target later
      exact absurd isNil (List.append_ne_nil_of_right_ne_nil _ (List.cons_ne_nil _ _))
    | reconciled =>
      rw [isEvent] at target
      obtain ⟨occurs, isBefore, _⟩ := happens
      have overdue : row.isOverdue occurrence.time = true := by
        rw [← isBefore]
        cases occurs with
        | reconciled _ overdue => exact overdue
        | _ => cases isEvent
      obtain ⟨worker, expiresAt, isState, late⟩ := Assignment.isOverdue_iff.mp overdue
      cases rest with
      | nil =>
        obtain ⟨_, happens, _⟩ := Trace.of_cons later
        have source := happens.source.symm.trans target
        rw [isSecond] at source
        cases source
      | cons requeued more =>
        obtain ⟨_, happens, _⟩ := Trace.of_cons later
        have isRequeue := LeaseEvent.eq_requeued_of_source (happens.source.symm.trans target)
        refine ⟨[], occurrence, requeued, more, rfl, fun _ isNone => absurd isNone
          List.not_mem_nil, ⟨occurs, isEvent⟩, ⟨worker, expiresAt, ?_, late⟩, happens.1,
          isRequeue⟩
        rw [List.getLast_singleton, isFirst]
        exact isState

/-! ## Fencing tokens -/

/-- Workers and fencing tokens of leases. -/
def grantsOf (occurrences : List Occurrence) : List (String × Nat) :=
  occurrences.filterMap Occurrence.grant

theorem grantsOf_append (earlier later : List Occurrence) :
    grantsOf (earlier ++ later) = grantsOf earlier ++ grantsOf later :=
  List.filterMap_append

theorem grantsOf_singleton_of_ne (other : occurrence.event ≠ .leased) :
    grantsOf [occurrence] = [] := by
  rw [grantsOf, List.filterMap_cons, Occurrence.grant, if_neg other]
  rfl

theorem grantsOf_leased {store : Store} {call : StoreOperation × Environment} {worker : String}
    {expiresAt time : Int} :
    grantsOf [{
      store, call
      event := .leased
      before := row
      after := row.leased worker expiresAt time }] = [(worker, row.fencingToken + 1)] :=
  rfl

/-- The leases so far are numbered by their fencing tokens, and the current one is the last. -/
structure Granted (row : Assignment) (occurrences : List Occurrence) : Prop where
  token : row.fencingToken = (grantsOf occurrences).length
  numbered : (grantsOf occurrences).map (·.2) = List.range' 1 (grantsOf occurrences).length
  latest : ∀ worker expiresAt, row.state = .leased worker expiresAt →
    (grantsOf occurrences).getLast? = some (worker, row.fencingToken)

theorem Assignment.IsNew.granted (isNew : row.IsNew) : Granted row [] where
  token := isNew.token
  numbered := rfl
  latest worker expiresAt isLeased := by
    rw [isNew.queued] at isLeased
    cases isLeased

/-- Every lease takes the next fencing token. -/
theorem Granted.happens (granted : Granted row occurrences)
    (happens : Happens row occurrence next) : Granted next (occurrences ++ [occurrence]) := by
  obtain ⟨occurs, rfl, rfl⟩ := happens
  have keeps : occurrence.event ≠ .leased →
      occurrence.after.fencingToken = occurrence.before.fencingToken →
      (∀ worker expiresAt, occurrence.after.state = .leased worker expiresAt →
        ∃ expiresAt, occurrence.before.state = .leased worker expiresAt) →
      Granted occurrence.after (occurrences ++ [occurrence]) := by
    intro other sameToken sameWorker
    have same : grantsOf (occurrences ++ [occurrence]) = grantsOf occurrences := by
      rw [grantsOf_append, grantsOf_singleton_of_ne other, List.append_nil]
    constructor
    · rw [sameToken, same]
      exact granted.token
    · rw [same]
      exact granted.numbered
    · intro worker expiresAt isLeased
      obtain ⟨earlier, wasLeased⟩ := sameWorker worker expiresAt isLeased
      rw [same, sameToken]
      exact granted.latest worker earlier wasLeased
  cases occurs with
  | @leased store env worker seconds requestId row sameTenant queued active approved =>
    constructor
    · rw [grantsOf_append, grantsOf_leased, List.length_append, List.length_singleton,
        ← granted.token]
      rfl
    · rw [grantsOf_append, grantsOf_leased, List.map_append, granted.numbered,
        List.length_append, List.length_singleton, List.range'_concat, ← granted.token,
        Nat.one_mul, Nat.add_comm 1]
      rfl
    · intro holder expiresAt isLeased
      cases isLeased
      rw [grantsOf_append, grantsOf_leased, List.getLast?_concat]
      rfl
  | renewed _ held =>
    obtain ⟨expiresAt, isLeased, _⟩ := Assignment.isHeldBy_iff.mp held
    refine keeps LeaseEvent.noConfusion rfl ?_
    intro worker later same
    cases same
    exact ⟨expiresAt, isLeased⟩
  | @reported _ _ _ _ outcome =>
    refine keeps LeaseEvent.noConfusion rfl ?_
    intro worker later same
    cases outcome with
    | completed => cases same
    | failed => cases same
  | reconciled =>
    refine keeps LeaseEvent.noConfusion rfl ?_
    intro worker later same
    cases same
  | requeued =>
    refine keeps LeaseEvent.noConfusion rfl ?_
    intro worker later same
    cases same

end

/-! ## Runs -/

/-- The store after some calls. -/
def storeAfter (libraries : Libraries) (start : Store)
    (calls : List (StoreOperation × Environment)) : Store :=
  calls.foldl (fun store call => perform libraries call.2 call.1 store) start

/-- An assignment after some calls. -/
def rowAfter (libraries : Libraries) (start : Store) (id : String)
    (calls : List (StoreOperation × Environment)) : Option Assignment :=
  (storeAfter libraries start calls).assignments.find id

/-- Everything that happens to an assignment in a run. -/
inductive Life (libraries : Libraries) (start : Store) (id : String) :
    List (StoreOperation × Environment) → List Occurrence → Prop
  | start : Life libraries start id [] []
  | call {calls : List (StoreOperation × Environment)} {call : StoreOperation × Environment}
      {earlier occurrences : List Occurrence} (life : Life libraries start id calls earlier)
      (passes : Passes (storeAfter libraries start calls) call (rowAfter libraries start id calls)
        occurrences (rowAfter libraries start id (calls ++ [call]))) :
      Life libraries start id (calls ++ [call]) (earlier ++ occurrences)

section

variable {libraries : Libraries} {start : Store} {id : String}
variable {calls : List (StoreOperation × Environment)} {call : StoreOperation × Environment}
variable {occurrences : List Occurrence} {row next : Assignment}

theorem storeAfter_snoc (calls : List (StoreOperation × Environment))
    (call : StoreOperation × Environment) :
    storeAfter libraries start (calls ++ [call]) =
      perform libraries call.2 call.1 (storeAfter libraries start calls) := by
  rw [storeAfter, List.foldl_append]
  rfl

/-- Every assignment has a life in every run. -/
theorem exists_life (calls : List (StoreOperation × Environment)) :
    ∃ occurrences, Life libraries start id calls occurrences := by
  induction calls using List.reverseRecOn with
  | nil => exact ⟨[], .start⟩
  | append_singleton earlier call ih =>
    obtain ⟨occurrences, life⟩ := ih
    have advances : Advances (storeAfter libraries start earlier) call
        (storeAfter libraries start (earlier ++ [call])) id := by
      rw [storeAfter_snoc]
      exact advances_perform call.1 _ id
    obtain ⟨more, passes⟩ := advances
    exact ⟨occurrences ++ more, .call life passes⟩

theorem Passes.of_some {store : Store} {before after : Option Assignment}
    (passes : Passes store call before occurrences after) (isBefore : before = some row) :
    ∃ next, after = some next ∧ Trace Happens row occurrences next ∧
      ∀ occurrence ∈ occurrences, occurrence.store = store ∧ occurrence.call = call := by
  cases passes with
  | absent => cases isBefore
  | created isCreate isNew => cases isBefore
  | present trace here =>
    cases isBefore
    exact ⟨_, rfl, trace, here⟩

/-- A life begins with a new assignment. -/
theorem Life.trace (life : Life libraries start id calls occurrences)
    (unassigned : start.assignments = .empty) :
    (rowAfter libraries start id calls = none ∧ occurrences = []) ∨
      ∃ created row, created.IsNew ∧ rowAfter libraries start id calls = some row ∧
        Trace Happens created occurrences row := by
  induction life with
  | start =>
    left
    rw [rowAfter, storeAfter, List.foldl_nil, unassigned]
    exact ⟨rfl, rfl⟩
  | @call calls call earlier occurrences life passes ih =>
    cases ih with
    | inl nothing =>
      obtain ⟨absent, isNil⟩ := nothing
      rw [absent] at passes
      generalize rowAfter libraries start id (calls ++ [call]) = after at passes ⊢
      cases passes with
      | absent =>
        left
        exact ⟨rfl, by rw [isNil]; rfl⟩
      | @created row isCreate isNew =>
        right
        exact ⟨row, row, isNew, rfl, by rw [isNil]; exact .nil⟩
    | inr living =>
      obtain ⟨created, row, isNew, isRow, trace⟩ := living
      obtain ⟨next, isNext, later, _⟩ := passes.of_some isRow
      right
      exact ⟨created, next, isNew, isNext, trace.append later⟩

theorem Granted.of_trace {created : Assignment} (isNew : created.IsNew)
    (trace : Trace Happens created occurrences row) : Granted row occurrences := by
  induction trace with
  | nil => exact isNew.granted
  | snoc _ last ih => exact ih.happens last

theorem Life.granted (life : Life libraries start id calls occurrences)
    (unassigned : start.assignments = .empty)
    (isRow : rowAfter libraries start id calls = some row) : Granted row occurrences := by
  cases life.trace unassigned with
  | inl nothing =>
    rw [nothing.1] at isRow
    cases isRow
  | inr living =>
    obtain ⟨created, found, isNew, isFound, trace⟩ := living
    rw [isFound] at isRow
    cases isRow
    exact .of_trace isNew trace

/-! ## What never happens again -/

/-- Fencing tokens do not fall, and a result stays. -/
theorem rowAfter_append (isRow : rowAfter libraries start id calls = some row)
    (more : List (StoreOperation × Environment)) :
    ∃ occurrences later, rowAfter libraries start id (calls ++ more) = some later ∧
      Trace Happens row occurrences later := by
  induction more using List.reverseRecOn with
  | nil =>
    rw [List.append_nil]
    exact ⟨[], row, isRow, .nil⟩
  | append_singleton earlier call ih =>
    obtain ⟨occurrences, middle, isMiddle, trace⟩ := ih
    have advances : Advances (storeAfter libraries start (calls ++ earlier)) call
        (storeAfter libraries start (calls ++ earlier ++ [call])) id := by
      rw [storeAfter_snoc]
      exact advances_perform call.1 _ id
    obtain ⟨further, passes⟩ := advances
    obtain ⟨later, isLater, trace', _⟩ := passes.of_some isMiddle
    rw [← List.append_assoc]
    exact ⟨occurrences ++ further, later, isLater, trace.append trace'⟩

theorem Happens.fencingToken_le
    (happens : Happens row occurrence next) : row.fencingToken ≤ next.fencingToken := by
  obtain ⟨occurs, rfl, rfl⟩ := happens
  cases occurs with
  | leased => exact Nat.le_succ _
  | renewed => exact Nat.le_refl _
  | reported => exact Nat.le_refl _
  | reconciled => exact Nat.le_refl _
  | requeued => exact Nat.le_refl _

theorem fencingToken_le_of_trace (trace : Trace Happens row occurrences next) :
    row.fencingToken ≤ next.fencingToken :=
  trace.invariant (fun later => row.fencingToken ≤ later.fencingToken) (Nat.le_refl _)
    fun happens bound => bound.trans happens.fencingToken_le

/-- A result ends a life. -/
theorem nothing_after_report {earlier later : List Occurrence}
    (trace : Trace Happens row (earlier ++ occurrence :: later) next)
    (isReport : occurrence.event = .reported) : later = [] := by
  obtain ⟨middle, _, rest⟩ := trace.of_append
  obtain ⟨after, happens, last⟩ := rest.of_cons
  exact (trace_of_finished (happens.target.trans (congrArg LeaseEvent.target isReport)) last).1

theorem reported_once (trace : Trace Happens row occurrences next) :
    (occurrences.filter (·.event = .reported)).length ≤ 1 := by
  induction trace with
  | nil => exact Nat.zero_le 1
  | @snoc occurrences middle next occurrence earlier happens ih =>
    rw [List.filter_append, List.length_append]
    cases isNil : occurrences.filter (·.event = .reported) with
    | nil =>
      rw [List.length_nil, Nat.zero_add]
      exact List.length_filter_le _ [occurrence]
    | cons report others =>
      have isIn : report ∈ occurrences.filter (·.event = .reported) := by
        rw [isNil]
        exact List.mem_cons_self
      obtain ⟨isIn, isReport⟩ := List.mem_filter.mp isIn
      obtain ⟨before, after, parts⟩ := List.append_of_mem isIn
      have whole := Trace.snoc earlier happens
      rw [parts, List.append_assoc, List.cons_append] at whole
      have nothing := nothing_after_report whole (of_decide_eq_true isReport)
      exact absurd nothing (List.append_ne_nil_of_right_ne_nil _ (List.cons_ne_nil _ _))

/-! ## Presented tokens -/

/-- The worker, the assignment and the fencing token of a call that is fenced. -/
def StoreOperation.presented : StoreOperation → Option (WorkerIdentity × String × Int)
  | .renewLease worker assignment fencingToken _ _ => some (worker, assignment, fencingToken)
  | .complete worker assignment fencingToken _ _ _ => some (worker, assignment, fencingToken)
  | _ => none

variable {worker : WorkerIdentity}

theorem exists_active_worker {store : Store} {expiresAt : Int}
    (active : store.workerNotRevoked row = true)
    (isLeased : row.state = .leased worker.id expiresAt)
    (sameTenant : row.tenant = worker.tenant) : store.hasActiveWorker worker = true := by
  simp only [Store.workerNotRevoked, Table.any_eq_true, Bool.and_eq_true, decide_eq_true_eq,
    isLeased, AssignmentState.leaseWorkerId, Option.some.injEq] at active
  obtain ⟨found, isFound, ⟨isIt, inTenant⟩, isActive⟩ := active
  rw [Store.hasActiveWorker, Table.any_eq_true]
  refine ⟨found, isFound, ?_⟩
  simp only [Bool.and_eq_true, decide_eq_true_eq]
  exact ⟨⟨isIt.symm, inTenant.trans sameTenant⟩, isActive⟩

/-- What a fenced call changes is held by the worker that presents the token. -/
theorem Occurs.presented (occurs : Occurs occurrence) {assignment : String} {fencingToken : Int}
    (isFenced : occurrence.call.1.presented = some (worker, assignment, fencingToken)) :
    assignment = occurrence.before.id ∧ occurrence.before.tenant = worker.tenant ∧
      occurrence.before.fencingToken = fencingToken ∧
      occurrence.store.hasActiveWorker worker = true ∧
      ∃ expiresAt, occurrence.before.state = .leased worker.id expiresAt ∧
        occurrence.time < expiresAt := by
  cases occurs with
  | leased => cases isFenced
  | renewed sameTenant held active =>
    cases isFenced
    obtain ⟨expiresAt, isLeased, isToken, inTime⟩ := Assignment.isHeldBy_iff.mp held
    exact ⟨rfl, sameTenant, isToken, exists_active_worker active isLeased sameTenant, expiresAt,
      isLeased, inTime⟩
  | reported sameTenant held active =>
    cases isFenced
    obtain ⟨expiresAt, isLeased, isToken, inTime⟩ := Assignment.isHeldBy_iff.mp held
    exact ⟨rfl, sameTenant, isToken, exists_active_worker active isLeased sameTenant, expiresAt,
      isLeased, inTime⟩
  | @reconciled _ call _ inTenant =>
    obtain ⟨operation, env⟩ := call
    cases operation with
    | renewLease => cases inTenant
    | complete => cases inTenant
    | _ => cases isFenced
  | requeued => cases isFenced

theorem grantsOf_of_presented
    (here : ∀ occurrence ∈ occurrences, Occurs occurrence ∧
      occurrence.call.1.presented.isSome = true) : grantsOf occurrences = [] := by
  rw [grantsOf, List.filterMap_eq_nil_iff]
  intro occurrence isIn
  obtain ⟨occurs, isFenced⟩ := here occurrence isIn
  rw [Occurrence.grant, if_neg]
  intro isLease
  cases occurs with
  | leased => cases isFenced
  | renewed => cases isLease
  | reported => cases isLease
  | reconciled => cases isLease
  | requeued => cases isLease

theorem occurs_of_trace (trace : Trace Happens row occurrences next) :
    ∀ occurrence ∈ occurrences, Occurs occurrence := by
  induction trace with
  | nil => exact fun _ isNone => absurd isNone List.not_mem_nil
  | snoc _ last ih =>
    intro occurrence isIn
    cases List.mem_append.mp isIn with
    | inl isEarlier => exact ih occurrence isEarlier
    | inr isLast =>
      cases List.mem_singleton.mp isLast
      exact last.1

/-! ## What workers are told -/

/-- A lease that is handed out is in the store. -/
theorem row_of_lease {env : Environment} {seconds : Int}
    {requestId : String} {given : Lease} {store later : Store}
    (leased : lease libraries env worker seconds requestId store = (.ok (some given), later)) :
    ∃ row expiresAt, later.assignments.find given.assignmentId = some row ∧
      row.state = .leased worker.id expiresAt ∧ row.fencingToken = given.fencingToken := by
  simp only [lease, Effect.bind_eq_ok, Effect.ofExcept_eq_ok, Effect.transact_eq_ok] at leased
  obtain ⟨_, _, ⟨_, rfl⟩, result, middle, ran, rfl, rfl⟩ := leased
  simp only [Store.lease] at ran
  split at ran
  · split at ran
    · simp only [pure_eq_ok, Prod.mk.injEq, Except.ok.injEq, reduceCtorEq, false_and] at ran
    · next candidate isCandidate =>
        simp only [bind_eq_ok, pure_eq_ok, Prod.mk.injEq, Prod.exists, Except.ok.injEq,
          Option.some.injEq] at ran
        obtain ⟨lease, after, handed, rfl, rfl⟩ := ran
        simp only [Store.leaseAssignment, queriedRow, bind_eq_ok, pure_eq_ok, needed_eq_ok,
          Prod.mk.injEq] at handed
        obtain ⟨row, foundRow, _, _, _, _, rfl, rfl⟩ := handed
        have isRow := List.mem_of_find?_eq_some foundRow
        have isOf := List.find?_some foundRow
        have isId : row.id = candidate.id := by
          rw [Assignment.isOf, Bool.and_eq_true, decide_eq_true_eq, decide_eq_true_eq] at isOf
          exact isOf.2
        obtain ⟨old, isOld, same⟩ := List.mem_map.mp isRow
        split at same
        · cases same
          exact ⟨_, _, Table.find_eq_some.mpr ⟨isRow, isId⟩, rfl, rfl⟩
        · next miss =>
            cases same
            exact absurd isOf miss
  · simp only [pure_eq_ok, Prod.mk.injEq, reduceCtorEq, false_and] at ran

/-- A result that is accepted is in the store. -/
theorem row_of_complete {env : Environment}
    {assignment requestId : String} {fencingToken : Int} {outcome : Outcome} {result : Json}
    {store later : Store}
    (completed : complete libraries env worker assignment fencingToken outcome result requestId
      store = (.ok (), later)) :
    ∃ before expiresAt after, store.assignments.find assignment = some before ∧
      before.state = .leased worker.id expiresAt ∧
      later.assignments.find assignment = some after ∧ after.state = outcome.state := by
  simp only [complete, Effect.bind_eq_ok, Effect.ofExcept_eq_ok] at completed
  obtain ⟨text, _, ⟨_, rfl⟩, _, _, ⟨_, rfl⟩, ran⟩ := completed
  simp only [fenced] at ran
  split at ran
  · next changed accepted =>
      simp only [Prod.mk.injEq, true_and] at ran
      cases ran
      simp only [Store.complete, bind_eq_ok, ensure_eq_ok, pure_eq_ok, Prod.mk.injEq,
        Table.any_eq_true] at accepted
      obtain ⟨_, ⟨row, isRow, held⟩, _, rfl⟩ := accepted
      have parts := held
      simp only [Bool.and_eq_true, Assignment.isOf, decide_eq_true_eq] at parts
      obtain ⟨⟨⟨_, isId⟩, isHeld⟩, _⟩ := parts
      obtain ⟨expiresAt, isLeased, _⟩ := Assignment.isHeldBy_iff.mp isHeld
      refine ⟨row, expiresAt, row.reported outcome text (env.now 0),
        Table.find_eq_some.mpr ⟨isRow, isId⟩, isLeased, Table.find_eq_some.mpr ⟨?_, isId⟩, rfl⟩
      exact List.mem_map.mpr ⟨row, isRow, if_pos held⟩
  · cases ran

end

/-! ## The protocol -/

/-- What an assignment can rely on. -/
structure Fenced (libraries : Libraries) (start : Store) (id : String)
    (calls : List (StoreOperation × Environment)) (occurrences : List Occurrence) : Prop where
  /-- The fencing token counts the leases, which have the tokens from one on. -/
  token : ∀ row, rowAfter libraries start id calls = some row →
    row.fencingToken = (grantsOf occurrences).length ∧
      (grantsOf occurrences).map (·.2) = List.range' 1 row.fencingToken
  /-- A worker that is handed a lease has the last of them. -/
  handedOut : ∀ earlier env worker seconds requestId given later,
    calls = earlier ++ [(.lease worker seconds requestId, env)] →
    lease libraries env worker seconds requestId (storeAfter libraries start earlier) =
      (.ok (some given), later) →
    given.assignmentId = id →
    (grantsOf occurrences).getLast? = some (worker.id, given.fencingToken)
  /-- Later fencing tokens are not smaller. -/
  neverDecreases : ∀ row more, rowAfter libraries start id calls = some row →
    ∃ later, rowAfter libraries start id (calls ++ more) = some later ∧
      row.fencingToken ≤ later.fencingToken
  /-- A lease has a worker and an expiry, and nothing else has. -/
  holder : ∀ row, rowAfter libraries start id calls = some row →
    (row.state.asStr = "leased" ↔
      row.state.leaseWorkerId.isSome = true ∧ row.state.leaseExpiresAt.isSome = true)
  /-- Renewals and results are accepted from the worker of the last lease, with its token, while
  it is not revoked and the lease has not expired. -/
  fenced : ∀ earlier call worker assignment (fencingToken : Int), calls = earlier ++ [call] →
    call.1.presented = some (worker, assignment, fencingToken) →
    rowAfter libraries start id calls ≠ rowAfter libraries start id earlier →
    assignment = id ∧ (storeAfter libraries start earlier).hasActiveWorker worker = true ∧
      ∃ row expiresAt, rowAfter libraries start id earlier = some row ∧
        row.tenant = worker.tenant ∧ row.fencingToken = fencingToken ∧
        (grantsOf occurrences).getLast? = some (worker.id, row.fencingToken) ∧
        row.state = .leased worker.id expiresAt ∧ call.2.now 0 < expiresAt
  /-- Before another lease, the last one was reconciled when it had been expired for the grace,
  and somebody requeued the assignment. -/
  requeued : ∀ before first between second after,
    occurrences = before ++ first :: between ++ second :: after →
    first.event = .leased → second.event = .leased →
    ∃ renewals reconciled requeued more, between = renewals ++ reconciled :: requeued :: more ∧
      (∀ renewal ∈ renewals, renewal.event = .renewed) ∧
      reconciled.event = .reconciled ∧
      (∃ worker expiresAt,
        ((first :: renewals).getLast (List.cons_ne_nil _ _)).after.state =
          .leased worker expiresAt ∧
        expiresAt + reassignGraceSeconds ≤ reconciled.time) ∧
      requeued.event = .requeued ∧
      ∃ reason actor, requeued.call.1 = .requeueAssignment requeued.before.tenant
        requeued.before.projectId requeued.before.id reason actor
  /-- A result is accepted at most once, and stays. -/
  once : (occurrences.filter (·.event = .reported)).length ≤ 1
  final : ∀ row more, rowAfter libraries start id calls = some row →
    row.state = .completed ∨ row.state = .failed →
    rowAfter libraries start id (calls ++ more) = some row
  /-- An accepted result is the end of a lease. -/
  recorded : ∀ earlier env worker fencingToken outcome result requestId later,
    calls = earlier ++ [(.complete worker id fencingToken outcome result requestId, env)] →
    complete libraries env worker id fencingToken outcome result requestId
      (storeAfter libraries start earlier) = (.ok (), later) →
    ∃ row, rowAfter libraries start id calls = some row ∧ row.state = outcome.state ∧
      (occurrences.filter (·.event = .reported)).length = 1
  /-- Leases are for the plan that is approved when they are handed out. -/
  approved : ∀ row, rowAfter libraries start id calls = some row →
    ∀ occurrence ∈ occurrences, occurrence.event = .leased →
      ∃ project ∈ occurrence.store.projects, project.id = row.projectId ∧
        project.approvedRevision = some project.planRevision ∧
        project.planRevision = row.planRevision

section

variable {libraries : Libraries} {start : Store} {id : String}
variable {calls : List (StoreOperation × Environment)} {call : StoreOperation × Environment}
variable {occurrences : List Occurrence} {row next : Assignment}

/-- The plan of an assignment stays the same. -/
theorem Happens.same_plan (happens : Happens row occurrence next) :
    row.projectId = next.projectId ∧ row.planRevision = next.planRevision := by
  obtain ⟨occurs, rfl, rfl⟩ := happens
  cases occurs with
  | leased => exact ⟨rfl, rfl⟩
  | renewed => exact ⟨rfl, rfl⟩
  | reported => exact ⟨rfl, rfl⟩
  | reconciled => exact ⟨rfl, rfl⟩
  | requeued => exact ⟨rfl, rfl⟩

theorem approved_of_trace (trace : Trace Happens row occurrences next) :
    ∀ occurrence ∈ occurrences, occurrence.event = .leased →
      ∃ project ∈ occurrence.store.projects, project.id = next.projectId ∧
        project.approvedRevision = some project.planRevision ∧
        project.planRevision = next.planRevision := by
  induction trace with
  | nil => exact fun _ isNone => absurd isNone List.not_mem_nil
  | @snoc _ middle next last _ happens ih =>
    intro occurrence isIn isLease
    obtain ⟨sameProject, sameRevision⟩ := happens.same_plan
    cases List.mem_append.mp isIn with
    | inl isEarlier =>
      rw [← sameProject, ← sameRevision]
      exact ih occurrence isEarlier isLease
    | inr isLast =>
      cases List.mem_singleton.mp isLast
      obtain ⟨occurs, rfl, rfl⟩ := happens
      cases occurs with
      | leased _ _ _ approved => exact exists_project_of_planStillApproved approved
      | _ => cases isLease

/-- What finishes an assignment is a report. -/
theorem exists_report (trace : Trace Happens row occurrences next)
    (unfinished : row.state.phase ≠ .finished) (finished : next.state.phase = .finished) :
    ∃ occurrence ∈ occurrences, occurrence.event = .reported := by
  cases trace with
  | nil => exact absurd finished unfinished
  | @snoc _ middle _ last _ happens =>
    refine ⟨last, List.mem_append_right _ (List.mem_singleton_self last), ?_⟩
    have target := happens.target.symm.trans finished
    cases isEvent : last.event with
    | reported => rfl
    | leased =>
      rw [isEvent] at target
      cases target
    | renewed =>
      rw [isEvent] at target
      cases target
    | reconciled =>
      rw [isEvent] at target
      cases target
    | requeued =>
      rw [isEvent] at target
      cases target

theorem AssignmentState.holder_iff (state : AssignmentState) :
    state.asStr = "leased" ↔
      state.leaseWorkerId.isSome = true ∧ state.leaseExpiresAt.isSome = true := by
  cases state with
  | leased worker expiresAt => exact iff_of_true rfl ⟨rfl, rfl⟩
  | queued => exact iff_of_false (by decide) (by decide)
  | needsReconciliation => exact iff_of_false (by decide) (by decide)
  | completed => exact iff_of_false (by decide) (by decide)
  | failed => exact iff_of_false (by decide) (by decide)
  | cancelled => exact iff_of_false (by decide) (by decide)

theorem phase_finished_iff {state : AssignmentState} :
    state.phase = .finished ↔ state = .completed ∨ state = .failed := by
  cases state with
  | completed => exact iff_of_true rfl (.inl rfl)
  | failed => exact iff_of_true rfl (.inr rfl)
  | queued => exact iff_of_false (by decide) (by decide)
  | needsReconciliation => exact iff_of_false (by decide) (by decide)
  | cancelled => exact iff_of_false (by decide) (by decide)
  | leased worker expiresAt =>
    apply iff_of_false
    · intro isFinished
      cases isFinished
    · intro isResult
      cases isResult with
      | inl same => cases same
      | inr same => cases same

/-- A run ends with a call. -/
theorem Life.of_snoc (life : Life libraries start id (calls ++ [call]) occurrences) :
    ∃ earlier later, occurrences = earlier ++ later ∧ Life libraries start id calls earlier ∧
      Passes (storeAfter libraries start calls) call (rowAfter libraries start id calls) later
        (rowAfter libraries start id (calls ++ [call])) := by
  generalize all : calls ++ [call] = labels at life
  cases life with
  | start => exact absurd all (List.append_ne_nil_of_right_ne_nil _ (List.cons_ne_nil _ _))
  | @call calls' call' earlier later life passes =>
    obtain ⟨same, sameCall⟩ := List.append_inj' all rfl
    cases same
    cases sameCall
    exact ⟨earlier, later, rfl, life, passes⟩

/-- Whom a fenced call that changes something comes from. -/
theorem Life.presented (life : Life libraries start id (calls ++ [call]) occurrences)
    (unassigned : start.assignments = .empty)
    {worker : WorkerIdentity} {assignment : String} {fencingToken : Int}
    (isFenced : call.1.presented = some (worker, assignment, fencingToken))
    (changed : rowAfter libraries start id (calls ++ [call]) ≠ rowAfter libraries start id calls) :
    assignment = id ∧ (storeAfter libraries start calls).hasActiveWorker worker = true ∧
      ∃ row expiresAt, rowAfter libraries start id calls = some row ∧
        row.tenant = worker.tenant ∧ row.fencingToken = fencingToken ∧
        (grantsOf occurrences).getLast? = some (worker.id, row.fencingToken) ∧
        row.state = .leased worker.id expiresAt ∧ call.2.now 0 < expiresAt := by
  obtain ⟨earlier, later, rfl, life, passes⟩ := life.of_snoc
  cases isRow : rowAfter libraries start id calls with
  | none =>
    rw [isRow] at passes changed
    generalize rowAfter libraries start id (calls ++ [call]) = after at passes changed
    cases passes with
    | absent => exact absurd rfl changed
    | created isCreate =>
      obtain ⟨_, _, _, _, isCreate⟩ := isCreate
      rw [isCreate] at isFenced
      cases isFenced
  | some row =>
    have isId : row.id = id := (Table.find_eq_some.mp isRow).2
    obtain ⟨next, isNext, trace, here⟩ := passes.of_some isRow
    have granted := life.granted unassigned isRow
    have areFenced : grantsOf later = [] := by
      apply grantsOf_of_presented
      intro occurrence isIn
      refine ⟨occurs_of_trace trace occurrence isIn, ?_⟩
      rw [(here occurrence isIn).2, isFenced]
      rfl
    cases later with
    | nil =>
      rw [isNext, isRow, trace.of_nil] at changed
      exact absurd rfl changed
    | cons first rest =>
      obtain ⟨_, ⟨occurs, rfl, rfl⟩, _⟩ := trace.of_cons
      obtain ⟨isStore, isCall⟩ := here first List.mem_cons_self
      have presented := isFenced
      rw [← isCall] at presented
      obtain ⟨isIt, sameTenant, isToken, active, expiresAt, isLeased, inTime⟩ :=
        occurs.presented presented
      rw [isStore] at active
      rw [Occurrence.time, isCall] at inTime
      refine ⟨isIt.trans isId, active, first.before, expiresAt, rfl, sameTenant, isToken, ?_,
        isLeased, inTime⟩
      rw [grantsOf_append, areFenced, List.append_nil]
      exact granted.latest worker.id expiresAt isLeased

theorem Life.requeued {before between after : List Occurrence} {first second : Occurrence}
    (life : Life libraries start id calls (before ++ first :: between ++ second :: after))
    (unassigned : start.assignments = .empty) (isFirst : first.event = .leased)
    (isSecond : second.event = .leased) :
    ∃ renewals reconciled requeued more, between = renewals ++ reconciled :: requeued :: more ∧
      (∀ renewal ∈ renewals, renewal.event = .renewed) ∧
      reconciled.event = .reconciled ∧
      (∃ worker expiresAt,
        ((first :: renewals).getLast (List.cons_ne_nil _ _)).after.state =
          .leased worker expiresAt ∧
        expiresAt + reassignGraceSeconds ≤ reconciled.time) ∧
      requeued.event = .requeued ∧
      ∃ reason actor, requeued.call.1 = .requeueAssignment requeued.before.tenant
        requeued.before.projectId requeued.before.id reason actor := by
  cases life.trace unassigned with
  | inl nothing => simp at nothing
  | inr living =>
    obtain ⟨created, row, _, _, trace⟩ := living
    rw [List.append_assoc, List.cons_append] at trace
    obtain ⟨_, _, fromFirst⟩ := trace.of_append
    obtain ⟨_, happens, rest⟩ := fromFirst.of_cons
    obtain ⟨renewals, reconciled, requeued, more, parts, areRenewals, isReconciled, expiry,
      occurs, isRequeued⟩ := requeued_before_next_lease rest happens.2.2
        (happens.target.trans (congrArg LeaseEvent.target isFirst)) isSecond
    refine ⟨renewals, reconciled, requeued, more, parts, areRenewals, isReconciled.2, expiry,
      isRequeued, ?_⟩
    cases occurs with
    | requeued => exact ⟨_, _, rfl⟩
    | _ => cases isRequeued

theorem Life.handedOut {env : Environment} {worker : WorkerIdentity} {seconds : Int}
    {requestId : String} {given : Lease} {later : Store}
    (life : Life libraries start id (calls ++ [(.lease worker seconds requestId, env)]) occurrences)
    (unassigned : start.assignments = .empty)
    (leased : lease libraries env worker seconds requestId (storeAfter libraries start calls) =
      (.ok (some given), later)) (isIt : given.assignmentId = id) :
    (grantsOf occurrences).getLast? = some (worker.id, given.fencingToken) := by
  obtain ⟨row, expiresAt, isRow, isLeased, isToken⟩ := row_of_lease leased
  have isAfter : rowAfter libraries start id
      (calls ++ [(.lease worker seconds requestId, env)]) = some row := by
    rw [rowAfter, storeAfter_snoc, ← isIt]
    change (lease libraries env worker seconds requestId
      (storeAfter libraries start calls)).2.assignments.find _ = _
    rw [leased]
    exact isRow
  rw [← isToken]
  exact (life.granted unassigned isAfter).latest worker.id expiresAt isLeased

theorem Life.reported_once (life : Life libraries start id calls occurrences)
    (unassigned : start.assignments = .empty) :
    (occurrences.filter (·.event = .reported)).length ≤ 1 := by
  cases life.trace unassigned with
  | inl nothing =>
    rw [nothing.2]
    exact Nat.zero_le 1
  | inr living =>
    obtain ⟨_, _, _, _, trace⟩ := living
    exact Control.reported_once trace

theorem Life.recorded {env : Environment} {worker : WorkerIdentity} {fencingToken : Int}
    {outcome : Outcome} {result : Json} {requestId : String} {later : Store}
    (life : Life libraries start id
      (calls ++ [(.complete worker id fencingToken outcome result requestId, env)]) occurrences)
    (unassigned : start.assignments = .empty)
    (completed : complete libraries env worker id fencingToken outcome result requestId
      (storeAfter libraries start calls) = (.ok (), later)) :
    ∃ row, rowAfter libraries start id
        (calls ++ [(.complete worker id fencingToken outcome result requestId, env)]) = some row ∧
      row.state = outcome.state ∧ (occurrences.filter (·.event = .reported)).length = 1 := by
  obtain ⟨_, _, row, _, _, isRow, isOutcome⟩ := row_of_complete completed
  have isAfter : rowAfter libraries start id
      (calls ++ [(.complete worker id fencingToken outcome result requestId, env)]) =
        some row := by
    rw [rowAfter, storeAfter_snoc]
    change (complete libraries env worker id fencingToken outcome result requestId
      (storeAfter libraries start calls)).2.assignments.find _ = _
    rw [completed]
    exact isRow
  refine ⟨row, isAfter, isOutcome, Nat.le_antisymm (life.reported_once unassigned) ?_⟩
  have finished : row.state.phase = .finished := by
    rw [isOutcome]
    cases outcome with
    | completed => rfl
    | failed => rfl
  cases life.trace unassigned with
  | inl nothing =>
    rw [nothing.1] at isAfter
    cases isAfter
  | inr living =>
    obtain ⟨created, found, isNew, isFound, trace⟩ := living
    rw [isFound] at isAfter
    cases isAfter
    have unfinished : created.state.phase ≠ .finished := by
      rw [isNew.queued]
      exact LeasePhase.noConfusion
    obtain ⟨report, isIn, isReport⟩ := exists_report trace unfinished finished
    exact List.length_pos_of_mem (List.mem_filter.mpr ⟨isIn, decide_eq_true isReport⟩)

end

/-- In every run every assignment has a life, and in each its leases are fenced. -/
theorem leases_are_fenced {libraries : Libraries} {start : Store}
    (unassigned : start.assignments = .empty) (calls : List (StoreOperation × Environment))
    (id : String) :
    (∃ occurrences, Life libraries start id calls occurrences) ∧
      ∀ occurrences, Life libraries start id calls occurrences →
        Fenced libraries start id calls occurrences := by
  refine ⟨exists_life calls, fun occurrences life => ?_⟩
  constructor
  case token =>
    intro row isRow
    have granted := life.granted unassigned isRow
    refine ⟨granted.token, ?_⟩
    rw [granted.token]
    exact granted.numbered
  case handedOut =>
    intro earlier env worker seconds requestId given later isRun leased isIt
    rw [isRun] at life
    exact life.handedOut unassigned leased isIt
  case neverDecreases =>
    intro row more isRow
    obtain ⟨_, later, isLater, trace⟩ := rowAfter_append isRow more
    exact ⟨later, isLater, fencingToken_le_of_trace trace⟩
  case holder => exact fun row _ => row.state.holder_iff
  case fenced =>
    intro earlier call worker assignment fencingToken isRun isFenced changed
    rw [isRun] at life changed
    exact life.presented unassigned isFenced changed
  case requeued =>
    intro before first between second after parts isFirst isSecond
    rw [parts] at life
    exact life.requeued unassigned isFirst isSecond
  case once => exact life.reported_once unassigned
  case final =>
    intro row more isRow isResult
    obtain ⟨_, later, isLater, trace⟩ := rowAfter_append isRow more
    obtain ⟨_, same⟩ := trace_of_finished (phase_finished_iff.mpr isResult) trace
    rw [isLater, same]
  case recorded =>
    intro earlier env worker fencingToken outcome result requestId later isRun completed
    rw [isRun] at life ⊢
    exact life.recorded unassigned completed
  case approved =>
    intro row isRow
    cases life.trace unassigned with
    | inl nothing =>
      rw [nothing.1] at isRow
      cases isRow
    | inr living =>
      obtain ⟨_, found, _, isFound, trace⟩ := living
      rw [isFound] at isRow
      cases isRow
      exact approved_of_trace trace

namespace TwoLeases

def environment (time : Int) : Environment where
  now _ := time
  id _ := .replicate 12 0
  token _ := .replicate 32 0
  salt := .replicate 16 0

def operator : Actor where
  requestId := "req_AAAAAAAAAAAAAAAA"
  label := "user:usr_AAAAAAAAAAAAAAAA"

def assignment : String := "asg_AAAAAAAAAAAAAAAA"

/-- The first lease expires without a result; after the grace the assignment is requeued and leased
again, and the first token is refused. -/
def calls : List (StoreOperation × Environment) :=
  [(.createProject "acme" "Migration" (.object []) operator, environment 1000),
    (.approveProject "acme" ReviewedPlan.project 1 "usr_AQEBAQEBAQEBAQEB" operator,
      environment 1000),
    (.createAssignments "acme" ReviewedPlan.project ["mailbox-1"] operator, environment 1000),
    (.lease ReviewedPlan.worker 60 operator.requestId, environment 1000),
    (.requeueAssignment "acme" ReviewedPlan.project assignment "worker is gone" operator,
      environment 1119),
    (.requeueAssignment "acme" ReviewedPlan.project assignment "worker is gone" operator,
      environment 1120),
    (.lease ReviewedPlan.worker 60 operator.requestId, environment 1130),
    (.complete ReviewedPlan.worker assignment 1 .failed (.object []) operator.requestId,
      environment 1140),
    (.complete ReviewedPlan.worker assignment 2 .completed (.object []) operator.requestId,
      environment 1150)]

end TwoLeases

theorem second_lease_completed :
    ∃ occurrences,
      Life ReviewedPlan.libraries ReviewedPlan.store TwoLeases.assignment TwoLeases.calls
        occurrences ∧
      (grantsOf occurrences).map (·.2) = [1, 2] := by
  obtain ⟨⟨occurrences, life⟩, fenced⟩ :=
    leases_are_fenced (rfl : ReviewedPlan.store.assignments = .empty) TwoLeases.calls
      TwoLeases.assignment
  have completed : (rowAfter ReviewedPlan.libraries ReviewedPlan.store TwoLeases.assignment
      TwoLeases.calls).any (fun row => row.fencingToken = 2 && row.state = .completed) = true := by
    decide +kernel
  cases isRow : rowAfter ReviewedPlan.libraries ReviewedPlan.store TwoLeases.assignment
      TwoLeases.calls with
  | none =>
    rw [isRow] at completed
    cases completed
  | some row =>
    rw [isRow, Option.any_some, Bool.and_eq_true, decide_eq_true_eq] at completed
    have tokens := ((fenced occurrences life).token row isRow).2
    rw [completed.1] at tokens
    exact ⟨occurrences, life, tokens⟩

end MailSwiftSync.Control
