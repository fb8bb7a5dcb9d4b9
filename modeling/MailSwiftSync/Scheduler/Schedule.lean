import MailSwiftSync.Foundation.Transition
import MailSwiftSync.RateDomains.Limiter
import MailSwiftSync.Scheduler.Queues

/-!
# Scheduling a batch

The scheduler takes tasks from a job source, asks the rate limiter for admission, hands
admitted tasks to workers and parks the others.  It is modelled one loop iteration at a
time, interleaved with the workers; answers of the limiter, the clock, cancellation and
the results of attempts come from outside.
-/

namespace MailSwiftSync

open Foundation

/-! ## The job source -/

/-- One mailbox job, with what the scheduler and its source know about it. -/
structure MailboxTask where
  index : Nat
  jobId : String
  childRunId : String
  checkpoint : Option String
  ratePath : RateDomainPath
  attempt : Nat := 0
  preparationError : Option String := none
  resumeAt : Option Nat := none
deriving DecidableEq

/-- Where plans come from: the loader with its own state, and the rate domains of plans. -/
structure JobLoader (σ Job : Type) where
  load : σ → List String → σ × Except String (List (Except String Job))
  ratePath : Job → RateDomainPath
  defaultPath : RateDomainPath

def loadPage : Nat := 64

/-- Unscheduled jobs, read from their source only as the queues need them. -/
structure JobSource (σ Job : Type) where
  jobIds : List String
  childRunIds : List String
  checkpoints : List (Option String)
  loaderState : σ
  resumeAt : String → Option Nat
  next : Nat := 0
  page : List (Nat × Except String Job) := []

namespace JobSource

variable {σ Job : Type} (loader : JobLoader σ Job)

/-- The task of a job. -/
def task (index : Nat) (jobId childRunId : String) (checkpoint : Option String)
    (resumeAt : Option Nat) : Except String Job → MailboxTask
  | .ok job =>
    { index, jobId, childRunId, checkpoint, ratePath := loader.ratePath job, resumeAt }
  | .error error =>
    { index, jobId, childRunId, checkpoint := none, ratePath := loader.defaultPath
      preparationError := some error, resumeAt }

/-- The next task of the page, unless its job has no durable identity. -/
def takeFromPage (source : JobSource σ Job) :
    Option (Except Unit MailboxTask) × JobSource σ Job :=
  match source.page with
  | [] => (none, source)
  | (index, job) :: page =>
    match source.jobIds[index]?, source.childRunIds[index]? with
    | some jobId, some childRunId =>
      (some (.ok (task loader index jobId childRunId
          (source.checkpoints[index]?.getD none) (source.resumeAt jobId) job)),
        { source with
          page
          resumeAt := fun other =>
            if other = jobId then none else source.resumeAt other })
    | _, _ => (some (.error ()), { source with page })

/-- The next task, or an error if the source failed or a job has no durable identity. -/
def nextTask (source : JobSource σ Job) :
    Option (Except Unit MailboxTask) × JobSource σ Job :=
  if source.page = [] then
    if source.jobIds.length ≤ source.next then (none, source)
    else
      let last := min (source.next + loadPage) source.jobIds.length
      match loader.load source.loaderState ((source.jobIds.take last).drop source.next) with
      | (loaderState, .ok loaded) =>
        if loaded.length = last - source.next then
          takeFromPage loader { source with
            loaderState
            page := (List.range' source.next (last - source.next)).zip loaded
            next := last }
        else (some (.error ()), { source with loaderState, next := source.jobIds.length })
      | (loaderState, .error _) =>
        (some (.error ()), { source with loaderState, next := source.jobIds.length })
  else takeFromPage loader source

/-- The page holds the jobs after those that were handed out. -/
structure Consistent (source : JobSource σ Job) (taken : Nat) : Prop where
  page : source.page.map Prod.fst = List.range' taken source.page.length
  position : taken + source.page.length = source.next
  bound : source.next ≤ source.jobIds.length

variable {source : JobSource σ Job} {taken : Nat}

/-- What taking a task from a page can do. -/
theorem Consistent.takeFromPage (consistent : source.Consistent taken) (filled : source.page ≠ []) :
    (takeFromPage loader source).2.jobIds = source.jobIds ∧
      ((takeFromPage loader source).1 = some (.error ()) ∨
        ∃ task, (takeFromPage loader source).1 = some (.ok task) ∧ task.index = taken ∧
          (takeFromPage loader source).2.Consistent (taken + 1)) := by
  cases paged : source.page with
  | nil => exact absurd paged filled
  | cons entry page =>
    obtain ⟨index, job⟩ := entry
    obtain ⟨pages, position, bound⟩ := consistent
    rw [paged, List.map_cons, List.length_cons, List.range'_succ, List.cons.injEq] at pages
    rw [paged, List.length_cons] at position
    simp only [JobSource.takeFromPage, paged]
    cases source.jobIds[index]? with
    | none => exact ⟨rfl, .inl rfl⟩
    | some jobId =>
      cases source.childRunIds[index]? with
      | none => exact ⟨rfl, .inl rfl⟩
      | some childRunId =>
        refine ⟨rfl, .inr ⟨_, rfl, ?_, pages.2, ?_, bound⟩⟩
        · cases job with
          | ok job => exact pages.1
          | error error => exact pages.1
        · show taken + 1 + page.length = source.next
          omega

theorem length_page {start count : Nat} {loaded : List (Except String Job)}
    (complete : loaded.length = count) :
    ((List.range' start count).zip loaded).length = count := by
  rw [List.length_zip, List.length_range', complete, Nat.min_self]

theorem page_ne_nil {start count : Nat} {loaded : List (Except String Job)} (more : 0 < count)
    (complete : loaded.length = count) : (List.range' start count).zip loaded ≠ [] := by
  apply List.ne_nil_of_length_pos
  rw [length_page complete]
  exact more

/-- A loaded page follows what was handed out. -/
theorem consistent_page (source : JobSource σ Job) (position : taken = source.next)
    (below : source.next < source.jobIds.length) {loaded : List (Except String Job)}
    (complete : loaded.length =
      min (source.next + loadPage) source.jobIds.length - source.next) (loaderState : σ) :
    Consistent { source with
      loaderState
      page := (List.range' source.next
        (min (source.next + loadPage) source.jobIds.length - source.next)).zip loaded
      next := min (source.next + loadPage) source.jobIds.length } taken where
  page := by
    rw [length_page complete, List.map_fst_zip, position]
    rw [List.length_range', complete]
  position := by
    show taken + ((List.range' source.next _).zip loaded).length = _
    rw [length_page complete, position]
    exact Nat.add_sub_of_le (Nat.le_min.mpr ⟨Nat.le_add_right _ _, below.le⟩)
  bound := Nat.min_le_right _ _

/-- What asking for a task can do. -/
theorem Consistent.nextTask (consistent : source.Consistent taken) :
    (nextTask loader source).2.jobIds = source.jobIds ∧
      ((nextTask loader source).1 = some (.error ()) ∨
        ((nextTask loader source) = (none, source) ∧ taken = source.jobIds.length) ∨
        ∃ task, (nextTask loader source).1 = some (.ok task) ∧ task.index = taken ∧
          (nextTask loader source).2.Consistent (taken + 1)) := by
  rw [JobSource.nextTask]
  by_cases empty : source.page = []
  · rw [if_pos empty]
    have position := consistent.position
    rw [empty, List.length_nil, Nat.add_zero] at position
    by_cases done : source.jobIds.length ≤ source.next
    · rw [if_pos done]
      exact ⟨rfl, .inr (.inl ⟨rfl, position.trans (consistent.bound.antisymm done)⟩)⟩
    · rw [if_neg done]
      have below := Nat.not_le.mp done
      dsimp only
      split
      · next loaderState loaded _ =>
          split
          · next complete =>
              have more : 0 < min (source.next + loadPage) source.jobIds.length -
                  source.next := by
                rw [loadPage]
                omega
              obtain ⟨sameJobs, outcome⟩ :=
                (consistent_page source position below complete loaderState).takeFromPage loader
                  (page_ne_nil more complete)
              refine ⟨sameJobs, ?_⟩
              cases outcome with
              | inl failed => exact .inl failed
              | inr handed => exact .inr (.inr handed)
          · exact ⟨rfl, .inl rfl⟩
      · exact ⟨rfl, .inl rfl⟩
  · rw [if_neg empty]
    obtain ⟨sameJobs, outcome⟩ := consistent.takeFromPage loader empty
    refine ⟨sameJobs, ?_⟩
    cases outcome with
    | inl failed => exact .inl failed
    | inr handed => exact .inr (.inr handed)

end JobSource

/-! ## The loop -/

/-- Where the scheduler is in its loop. -/
inductive SchedulePhase where
  | turning
  | cancelling
  | maturing (now : Nat)
  | filling (now : Nat)
  | dispatching
  | checking
  | waiting
  | ended
deriving DecidableEq

/-- What a worker leaves for the scheduler. -/
inductive WorkerReport where
  | finished
  | retry (task : MailboxTask) (delay : Nat)
  | panicked
deriving DecidableEq

/-- The task a report gives back. -/
def WorkerReport.task : WorkerReport → Option MailboxTask
  | retry task _ => some task
  | _ => none

def WorkerReport.isPanicked : WorkerReport → Bool
  | panicked => true
  | _ => false

/-- How a task was settled. -/
inductive Settlement where
  | finished
  | cancelled
  | failed (reason : String)
deriving DecidableEq

/-- What the limiter answers to a task. -/
inductive AdmissionAnswer where
  | admitted
  | blockedUntil (time : Nat)
  | blockedSlot
  | unavailable
deriving DecidableEq

/-- How an attempt ends. -/
inductive AttemptEnd where
  | finished
  | retry (delay : Nat)
  | panicked
deriving DecidableEq

/-- The scheduler with its queues and workers.  The last three fields record what was
taken from the source, what was settled, and what a panicking worker held. -/
structure Schedule (σ Job : Type) where
  phase : SchedulePhase := .turning
  ready : FairQueue MailboxTask := {}
  timers : TimerQueue MailboxTask := {}
  slotWaiting : List MailboxTask := []
  sourceOpen : Bool := true
  alive : Nat
  busy : Nat := 0
  workerPanicked : Bool := false
  enqueueFailed : Bool := false
  source : JobSource σ Job
  threads : Nat
  running : List MailboxTask := []
  reports : List WorkerReport := []
  taken : List MailboxTask := []
  settled : List (MailboxTask × Settlement) := []
  lost : List MailboxTask := []

/-- One iteration of an inner loop, an event the scheduler waits for, or the end of an
attempt. -/
inductive ScheduleAction where
  | turn (now : Nat) (cancelled : Bool)
  | cancelNext
  | mature
  | fill
  | dispatch (answer : AdmissionAnswer)
  | check
  | receive (now : Nat) (cancelled : Bool)
  | disconnect
  | release
  | timeout
  | attemptEnds (position : Nat) (outcome : AttemptEnd)

/-- Fixed numbers of a run. -/
structure ScheduleLimits where
  concurrency : Nat

namespace ScheduleLimits

/-- One thread for each transfer and each verification. -/
def new (concurrency verificationWorkers : Nat) : ScheduleLimits where
  concurrency := max concurrency 1 + verificationWorkers

def lookahead (limits : ScheduleLimits) : Nat := max (limits.concurrency * 2) 1

def maxParked (limits : ScheduleLimits) : Nat := max (limits.concurrency * 64) 256

end ScheduleLimits

namespace Schedule

variable {σ Job : Type}

def requeue (ready : FairQueue MailboxTask) (task : MailboxTask) (front : Bool) :
    FairQueue MailboxTask :=
  ready.push task.ratePath.source.tenant.scope task front

/-- Slot-limited tasks compete again, ahead of their tenants' newer work. -/
def requeueWaiting (schedule : Schedule σ Job) : Schedule σ Job :=
  { schedule with
    ready := schedule.slotWaiting.reverse.foldl (requeue · · true) schedule.ready
    slotWaiting := [] }

/-- Cancellation settles everything that waits. -/
def cancelAll (schedule : Schedule σ Job) : Schedule σ Job :=
  { schedule with
    settled := schedule.settled ++
      (schedule.ready.items ++ schedule.timers.items ++ schedule.slotWaiting).map
        fun task => (task, .cancelled)
    ready := {}
    timers := { schedule.timers with heap := [], tasks := .empty }
    slotWaiting := [] }

/-- Ask the source for a task; a failure closes it. -/
def take (loader : JobLoader σ Job) (schedule : Schedule σ Job)
    (use : Schedule σ Job → MailboxTask → Schedule σ Job) : Schedule σ Job :=
  match schedule.source.nextTask loader with
  | (some (.ok task), source) =>
    use { schedule with source, taken := schedule.taken ++ [task] } task
  | (some (.error ()), source) =>
    { schedule with source, enqueueFailed := true, sourceOpen := false }
  | (none, source) => { schedule with source, sourceOpen := false }

def settle (settlement : Settlement) (schedule : Schedule σ Job) (task : MailboxTask) :
    Schedule σ Job :=
  { schedule with settled := schedule.settled ++ [(task, settlement)] }

/-- Queue a fresh task, or hold it until its recorded deadline. -/
def enqueue (now : Nat) (schedule : Schedule σ Job) (task : MailboxTask) : Schedule σ Job :=
  let fresh := { task with resumeAt := none }
  match task.resumeAt with
  | some time =>
    if now < time then { schedule with timers := schedule.timers.park time fresh }
    else { schedule with ready := requeue schedule.ready fresh false }
  | none => { schedule with ready := requeue schedule.ready fresh false }

/-- Act on the answer of the limiter to a task taken off the ready queue. -/
def admitTask (schedule : Schedule σ Job) (task : MailboxTask) :
    AdmissionAnswer → Schedule σ Job
  | .admitted =>
    if schedule.threads = 0 then
      { schedule with alive := 0, lost := schedule.lost ++ [task], phase := .checking }
    else { schedule with running := schedule.running ++ [task], busy := schedule.busy + 1 }
  | .blockedUntil time => { schedule with timers := schedule.timers.park time task }
  | .blockedSlot =>
    if 0 < schedule.busy then
      { schedule with slotWaiting := schedule.slotWaiting ++ [task] }
    else settle (.failed
      "rate-domain concurrency accounting is inconsistent; job not started") schedule task
  | .unavailable => settle (.failed
      "rate-domain limiter is unavailable; job not started") schedule task

/-- Act on a report. -/
def handle (now : Nat) (cancelled : Bool) (schedule : Schedule σ Job) :
    WorkerReport → Schedule σ Job
  | .finished => schedule
  | .retry task delay =>
    if cancelled then settle .cancelled schedule task
    else { schedule with timers := schedule.timers.park (now + delay) task }
  | .panicked => { schedule with alive := schedule.alive - 1, workerPanicked := true }

/-- A worker ends the attempt of a task. -/
def endAttempt (schedule : Schedule σ Job) (task : MailboxTask) : AttemptEnd → Schedule σ Job
  | .finished =>
    { settle .finished schedule task with reports := schedule.reports ++ [.finished] }
  | .retry delay =>
    { schedule with
      reports := schedule.reports ++ [.retry { task with attempt := task.attempt + 1 } delay] }
  | .panicked =>
    { schedule with
      reports := schedule.reports ++ [.panicked]
      lost := schedule.lost ++ [task]
      threads := schedule.threads - 1 }

/-- Nothing is left to schedule. -/
def drained (schedule : Schedule σ Job) : Bool :=
  !schedule.sourceOpen && schedule.ready.len = 0 && schedule.timers.len = 0

/-- The state after an action, if it is the next one in the loop. -/
def apply (limits : ScheduleLimits) (loader : JobLoader σ Job) (schedule : Schedule σ Job) :
    ScheduleAction → Option (Schedule σ Job)
  | .turn now cancelled =>
    if schedule.phase = .turning then
      if cancelled then some { schedule.cancelAll with phase := .cancelling }
      else some { schedule with phase := .maturing now }
    else none
  | .cancelNext =>
    if schedule.phase = .cancelling then
      if schedule.sourceOpen then some (schedule.take loader (settle .cancelled))
      else some { schedule with phase := .checking }
    else none
  | .mature =>
    match schedule.phase with
    | .maturing now =>
      match schedule.timers.popDue now with
      | (some task, timers) =>
        some { schedule with timers, ready := requeue schedule.ready task false }
      | (none, timers) => some { schedule with timers, phase := .filling now }
    | _ => none
  | .fill =>
    match schedule.phase with
    | .filling now =>
      if schedule.sourceOpen && schedule.ready.len < limits.lookahead &&
          schedule.ready.len + schedule.timers.len + schedule.slotWaiting.length <
            limits.maxParked then
        some (schedule.take loader (enqueue now))
      else some { schedule with phase := .dispatching }
    | _ => none
  | .dispatch answer =>
    if schedule.phase = .dispatching then
      if schedule.busy < schedule.alive then
        match schedule.ready.popNext with
        | (some task, ready) => some (admitTask { schedule with ready } task answer)
        | (none, ready) => some { schedule with ready, phase := .checking }
      else some { schedule with phase := .checking }
    else none
  | .check =>
    if schedule.phase = .checking then
      if schedule.busy = 0 ∧
          (schedule.alive = 0 ∨ schedule.drained = true ∧ schedule.slotWaiting = []) then
        some { schedule with phase := .ended }
      else some { schedule with phase := .waiting }
    else none
  | .receive now cancelled =>
    match schedule.phase, schedule.reports with
    | .waiting, report :: reports =>
      some (requeueWaiting { handle now cancelled
        { schedule with busy := schedule.busy - 1, reports } report with phase := .turning })
    | _, _ => none
  | .disconnect =>
    if schedule.phase = .waiting ∧ schedule.reports = [] ∧ schedule.threads = 0 then
      some { schedule with phase := .ended }
    else none
  | .release =>
    if schedule.phase = .waiting then
      some (requeueWaiting { schedule with phase := .turning })
    else none
  | .timeout =>
    if schedule.phase = .waiting then some { schedule with phase := .turning } else none
  | .attemptEnds position outcome =>
    if schedule.threads = 0 then none
    else schedule.running[position]?.map fun task =>
      endAttempt { schedule with running := schedule.running.eraseIdx position } task outcome

/-- The scheduler before its first turn. -/
def start (limits : ScheduleLimits) (source : JobSource σ Job) : Schedule σ Job where
  alive := limits.concurrency
  threads := limits.concurrency
  source := { source with next := 0, page := [] }

end Schedule

end MailSwiftSync
