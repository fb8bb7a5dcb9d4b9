import MailSwiftSync.Scheduler.Schedule

/-!
# Conservation of work

Every task the scheduler takes from its source is in exactly one place: queued, parked,
waiting for a slot, with a worker, settled, or lost with a worker that panicked.  When the
loop ends without a failure, every job is settled exactly once.
-/

namespace MailSwiftSync

open Foundation

/-- How often a job occurs among tasks. -/
def tally (tasks : List MailboxTask) (index : Nat) : Nat :=
  tasks.countP (·.index = index)

@[simp] theorem tally_nil (index : Nat) : tally [] index = 0 := rfl

@[simp] theorem tally_append (left right : List MailboxTask) (index : Nat) :
    tally (left ++ right) index = tally left index + tally right index :=
  List.countP_append

theorem tally_cons (task : MailboxTask) (tasks : List MailboxTask) (index : Nat) :
    tally (task :: tasks) index = tally tasks index + tally [task] index := by
  rw [← List.singleton_append, tally_append, Nat.add_comm]

theorem tally_perm {left right : List MailboxTask} (perm : left.Perm right) (index : Nat) :
    tally left index = tally right index :=
  perm.countP_eq _

/-- Only the job of a task counts. -/
theorem tally_congr {task other : MailboxTask} (same : task.index = other.index) (index : Nat) :
    tally [task] index = tally [other] index := by
  rw [tally, tally, List.countP_singleton, List.countP_singleton, same]

theorem tally_eraseIdx {tasks : List MailboxTask} {position : Nat} {task : MailboxTask}
    (held : tasks[position]? = some task) (index : Nat) :
    tally tasks index = tally (tasks.eraseIdx position) index + tally [task] index := by
  obtain ⟨inBounds, isTask⟩ := List.getElem?_eq_some_iff.mp held
  rw [← tally_cons, ← isTask]
  exact (tally_perm (List.getElem_cons_eraseIdx_perm inBounds) index).symm

namespace Schedule

variable {σ Job : Type} {limits : ScheduleLimits} {loader : JobLoader σ Job}
variable {jobIds : List String} {hand : List MailboxTask} {schedule : Schedule σ Job}
variable {task : MailboxTask}

/-- Tasks a worker has or has given back. -/
def inFlight (schedule : Schedule σ Job) : List MailboxTask :=
  schedule.running ++ schedule.reports.filterMap WorkerReport.task

/-- All places a task can be in. -/
def places (schedule : Schedule σ Job) : List MailboxTask :=
  schedule.ready.items ++ schedule.timers.items ++ schedule.slotWaiting ++ schedule.inFlight ++
    schedule.settled.map Prod.fst ++ schedule.lost

theorem tally_places (schedule : Schedule σ Job) (index : Nat) :
    tally schedule.places index =
      tally schedule.ready.items index + tally schedule.timers.items index +
        tally schedule.slotWaiting index + tally schedule.running index +
        tally (schedule.reports.filterMap WorkerReport.task) index +
        tally (schedule.settled.map Prod.fst) index + tally schedule.lost index := by
  simp only [places, inFlight, tally_append, Nat.add_assoc]

/-- The tasks taken from the source are in their places or at hand. -/
structure Holding (jobIds : List String) (hand : List MailboxTask) (schedule : Schedule σ Job) :
    Prop where
  ready : schedule.ready.WellFormed
  timers : schedule.timers.WellFormed
  placed : ∀ index, tally schedule.taken index = tally schedule.places index + tally hand index
  indices : schedule.taken.map (·.index) = List.range schedule.taken.length
  jobs : schedule.source.jobIds = jobIds
  consistent : schedule.enqueueFailed = false →
    schedule.source.Consistent schedule.taken.length
  exhausted : schedule.enqueueFailed = false → schedule.sourceOpen = false →
    schedule.taken.length = jobIds.length
  opened : schedule.sourceOpen = true → schedule.enqueueFailed = false

namespace Holding

theorem phase (holding : Holding jobIds hand schedule) (phase : SchedulePhase) :
    Holding jobIds hand { schedule with phase } :=
  { holding with }

theorem settle (holding : Holding jobIds [task] schedule) (settlement : Settlement) :
    Holding jobIds [] (settle settlement schedule task) :=
  { holding with
    placed := by
      intro index
      have placed := holding.placed index
      rw [tally_places] at placed ⊢
      simp only [Schedule.settle, List.map_append, List.map_singleton, tally_append, tally_nil]
      omega }

theorem park (holding : Holding jobIds [task] schedule) (time : Nat) {other : MailboxTask}
    (same : other.index = task.index) :
    Holding jobIds [] { schedule with timers := schedule.timers.park time other } :=
  { holding with
    timers := holding.timers.park
    placed := by
      intro index
      have placed := holding.placed index
      have parked : tally (schedule.timers.park time other).items index = _ :=
        tally_perm holding.timers.items_park index
      rw [tally_cons, tally_congr same] at parked
      rw [tally_places] at placed ⊢
      simp only [parked, tally_nil]
      omega }

theorem requeue (holding : Holding jobIds [task] schedule) (front : Bool) {other : MailboxTask}
    (same : other.index = task.index) :
    Holding jobIds [] { schedule with ready := requeue schedule.ready other front } :=
  { holding with
    ready := holding.ready.push
    placed := by
      intro index
      have placed := holding.placed index
      have queued : tally (Schedule.requeue schedule.ready other front).items index = _ :=
        tally_perm FairQueue.items_push index
      rw [tally_cons, tally_congr same] at queued
      rw [tally_places] at placed ⊢
      simp only [queued, tally_nil]
      omega }

theorem enqueue (holding : Holding jobIds [task] schedule) (now : Nat) :
    Holding jobIds [] (enqueue now schedule task) := by
  rw [Schedule.enqueue]
  split
  · split
    · exact holding.park _ rfl
    · exact holding.requeue false rfl
  · exact holding.requeue false rfl

/-- A task off the ready queue is at hand. -/
theorem popReady (holding : Holding jobIds [] schedule) {ready : FairQueue MailboxTask}
    (wellFormed : ready.WellFormed) (items : schedule.ready.items.Perm (task :: ready.items)) :
    Holding jobIds [task] { schedule with ready } :=
  { holding with
    ready := wellFormed
    placed := by
      intro index
      have placed := holding.placed index
      have popped := tally_perm items index
      rw [tally_cons] at popped
      rw [tally_places] at placed ⊢
      simp only [tally_nil] at placed ⊢
      omega }

/-- A task off the timers is at hand. -/
theorem popTimers (holding : Holding jobIds [] schedule) {timers : TimerQueue MailboxTask}
    (wellFormed : timers.WellFormed) (items : schedule.timers.items.Perm (task :: timers.items)) :
    Holding jobIds [task] { schedule with timers } :=
  { holding with
    timers := wellFormed
    placed := by
      intro index
      have placed := holding.placed index
      have popped := tally_perm items index
      rw [tally_cons] at popped
      rw [tally_places] at placed ⊢
      simp only [tally_nil] at placed ⊢
      omega }

theorem cancelAll (holding : Holding jobIds [] schedule) :
    Holding jobIds [] schedule.cancelAll :=
  { holding with
    ready := FairQueue.wellFormed_empty
    timers := ⟨.refl _, fun parked isParked => absurd isParked (Table.not_mem_empty parked)⟩
    placed := by
      intro index
      have placed := holding.placed index
      have cancelled : ∀ tasks : List MailboxTask,
          (tasks.map fun task => (task, Settlement.cancelled)).map Prod.fst = tasks := by
        intro tasks
        rw [List.map_map]
        exact List.map_id tasks
      rw [tally_places] at placed ⊢
      simp only [Schedule.cancelAll, List.map_append, cancelled, tally_append]
      have noReady : tally (FairQueue.items {}) index = 0 := rfl
      have noTimers : tally (TimerQueue.items { schedule.timers with
        heap := [], tasks := .empty }) index = 0 := rfl
      rw [noReady, noTimers]
      simp only [tally_nil] at placed ⊢
      omega }

/-- Slot-limited tasks move to the ready queue. -/
theorem requeueWaiting (holding : Holding jobIds hand schedule) :
    Holding jobIds hand schedule.requeueWaiting := by
  have moved : ∀ (tasks : List MailboxTask) (ready : FairQueue MailboxTask), ready.WellFormed →
      (tasks.foldl (Schedule.requeue · · true) ready).WellFormed ∧
      ∀ index, tally (tasks.foldl (Schedule.requeue · · true) ready).items index =
        tally ready.items index + tally tasks index := by
    intro tasks
    induction tasks with
    | nil => exact fun ready wellFormed => ⟨wellFormed, fun _ => rfl⟩
    | cons task tasks ih =>
      intro ready wellFormed
      obtain ⟨kept, counted⟩ := ih (Schedule.requeue ready task true) wellFormed.push
      refine ⟨kept, fun index => ?_⟩
      have queued : tally (Schedule.requeue ready task true).items index = _ :=
        tally_perm FairQueue.items_push index
      rw [tally_cons] at queued
      rw [List.foldl_cons, counted, queued, tally_cons task tasks]
      omega
  obtain ⟨kept, counted⟩ := moved schedule.slotWaiting.reverse schedule.ready holding.ready
  exact { holding with
    ready := kept
    placed := by
      intro index
      have placed := holding.placed index
      have reversed := tally_perm (List.reverse_perm schedule.slotWaiting) index
      rw [tally_places] at placed ⊢
      simp only [Schedule.requeueWaiting, counted, reversed, tally_nil]
      omega }

/-- Taking a task from the source puts it at hand, and a failure or the end closes the
source. -/
theorem take (holding : Holding jobIds [] schedule) (isOpen : schedule.sourceOpen = true)
    {use : Schedule σ Job → MailboxTask → Schedule σ Job}
    (uses : ∀ (next : Schedule σ Job) (task : MailboxTask), Holding jobIds [task] next →
      Holding jobIds [] (use next task)) :
    Holding jobIds [] (schedule.take loader use) := by
  have sound := holding.opened isOpen
  obtain ⟨sameJobs, outcome⟩ := (holding.consistent sound).nextTask loader
  rw [Schedule.take]
  cases asked : schedule.source.nextTask loader with
  | mk result source =>
    rw [asked] at sameJobs outcome
    obtain failed | ⟨done, finished⟩ | ⟨task, handed, isNext, consistent⟩ := outcome
    · obtain rfl : result = some (.error ()) := failed
      exact { holding with
        jobs := sameJobs.trans holding.jobs
        consistent := fun absurd => nomatch absurd
        exhausted := fun absurd => nomatch absurd
        opened := fun absurd => nomatch absurd }
    · obtain ⟨rfl, rfl⟩ := Prod.mk.inj done
      exact { holding with
        exhausted := fun _ _ => finished.trans (congrArg List.length holding.jobs)
        opened := fun absurd => nomatch absurd }
    · obtain rfl : result = some (.ok task) := handed
      refine uses _ task { holding with
        jobs := sameJobs.trans holding.jobs
        placed := ?_, indices := ?_, consistent := ?_, exhausted := ?_ }
      · intro index
        have placed := holding.placed index
        rw [tally_places] at placed ⊢
        simp only [tally_append, tally_nil] at placed ⊢
        omega
      · rw [List.map_append, List.length_append, List.length_singleton, List.range_succ,
          holding.indices, List.map_singleton, isNext]
      · intro _
        rw [List.length_append]
        exact consistent
      · intro _ closed
        rw [isOpen] at closed
        cases closed

end Holding

/-! ## Workers -/

/-- The counters agree with the workers, their tasks and their reports. -/
structure Staffed (limits : ScheduleLimits) (schedule : Schedule σ Job) : Prop where
  busy : schedule.busy = schedule.running.length + schedule.reports.length
  alive : schedule.threads + schedule.reports.countP WorkerReport.isPanicked = schedule.alive
  lost : schedule.threads + schedule.lost.length = limits.concurrency
  panicked : schedule.workerPanicked = false → schedule.alive = limits.concurrency

/-- Some thread can receive a task while fewer are busy than alive. -/
theorem Staffed.threads_pos (staffed : Staffed limits schedule)
    (free : schedule.busy < schedule.alive) : schedule.threads ≠ 0 := by
  intro gone
  have busy := staffed.busy
  have alive := staffed.alive
  have few : schedule.reports.countP WorkerReport.isPanicked ≤ schedule.reports.length :=
    List.countP_le_length
  omega

/-- What holds between any two actions. -/
structure Invariant (limits : ScheduleLimits) (jobIds : List String)
    (schedule : Schedule σ Job) : Prop where
  holding : Holding jobIds [] schedule
  staffed : Staffed limits schedule
  slots : schedule.slotWaiting ≠ [] → 0 < schedule.busy
  ended : schedule.phase = .ended → schedule.alive = 0 ∨
    schedule.busy = 0 ∧ schedule.drained = true ∧ schedule.slotWaiting = []

/-- Everything but the queues, the source and the settlements is as before. -/
structure Frame (before after : Schedule σ Job) : Prop where
  phase : after.phase = before.phase
  slotWaiting : after.slotWaiting = before.slotWaiting
  alive : after.alive = before.alive
  busy : after.busy = before.busy
  workerPanicked : after.workerPanicked = before.workerPanicked
  threads : after.threads = before.threads
  running : after.running = before.running
  reports : after.reports = before.reports
  lost : after.lost = before.lost

theorem frame_settle (settlement : Settlement) (schedule : Schedule σ Job) (task : MailboxTask) :
    Frame schedule (settle settlement schedule task) :=
  ⟨rfl, rfl, rfl, rfl, rfl, rfl, rfl, rfl, rfl⟩

theorem frame_enqueue (now : Nat) (schedule : Schedule σ Job) (task : MailboxTask) :
    Frame schedule (enqueue now schedule task) := by
  rw [enqueue]
  split
  · split
    · exact ⟨rfl, rfl, rfl, rfl, rfl, rfl, rfl, rfl, rfl⟩
    · exact ⟨rfl, rfl, rfl, rfl, rfl, rfl, rfl, rfl, rfl⟩
  · exact ⟨rfl, rfl, rfl, rfl, rfl, rfl, rfl, rfl, rfl⟩

theorem frame_take {use : Schedule σ Job → MailboxTask → Schedule σ Job}
    (uses : ∀ next task, Frame next (use next task)) :
    Frame schedule (schedule.take loader use) := by
  rw [take]
  split
  · next task source _ =>
      obtain ⟨phase, slotWaiting, alive, busy, workerPanicked, threads, running, reports, lost⟩ :=
        uses { schedule with source, taken := schedule.taken ++ [task] } task
      exact ⟨phase, slotWaiting, alive, busy, workerPanicked, threads, running, reports, lost⟩
  · exact ⟨rfl, rfl, rfl, rfl, rfl, rfl, rfl, rfl, rfl⟩
  · exact ⟨rfl, rfl, rfl, rfl, rfl, rfl, rfl, rfl, rfl⟩

theorem Staffed.frame {after : Schedule σ Job} (staffed : Staffed limits schedule)
    (frame : Frame schedule after) : Staffed limits after where
  busy := by rw [frame.busy, frame.running, frame.reports, staffed.busy]
  alive := by rw [frame.threads, frame.reports, frame.alive, staffed.alive]
  lost := by rw [frame.threads, frame.lost, staffed.lost]
  panicked := by
    rw [frame.workerPanicked, frame.alive]
    exact staffed.panicked

namespace Invariant

/-- A framed change inside of the loop. -/
theorem frame {after : Schedule σ Job} (invariant : Invariant limits jobIds schedule)
    (holding : Holding jobIds [] after) (frame : Frame schedule after)
    (going : schedule.phase ≠ .ended) : Invariant limits jobIds after where
  holding := holding
  staffed := invariant.staffed.frame frame
  slots := by
    rw [frame.slotWaiting, frame.busy]
    exact invariant.slots
  ended := by
    rw [frame.phase]
    exact fun ended => absurd ended going

theorem phase (invariant : Invariant limits jobIds schedule) {phase : SchedulePhase}
    (going : phase ≠ .ended) : Invariant limits jobIds { schedule with phase } where
  holding := invariant.holding.phase phase
  staffed := { invariant.staffed with }
  slots := invariant.slots
  ended := fun ended => absurd ended going

theorem requeueWaiting (holding : Holding jobIds [] schedule) (staffed : Staffed limits schedule)
    (going : schedule.phase ≠ .ended) : Invariant limits jobIds schedule.requeueWaiting where
  holding := holding.requeueWaiting
  staffed := { staffed with }
  slots := fun waiting => absurd rfl waiting
  ended := fun ended => absurd ended going

end Invariant

/-- An answer of the limiter to a task that is at hand. -/
theorem Invariant.admitTask (holding : Holding jobIds [task] schedule)
    (staffed : Staffed limits schedule) (slots : schedule.slotWaiting ≠ [] → 0 < schedule.busy)
    (going : schedule.phase ≠ .ended) (free : schedule.busy < schedule.alive)
    (answer : AdmissionAnswer) : Invariant limits jobIds (admitTask schedule task answer) := by
  have failed : ∀ reason, Invariant limits jobIds (settle (.failed reason) schedule task) :=
    fun reason => ⟨holding.settle _, { staffed with }, slots, fun ended => absurd ended going⟩
  cases answer with
  | admitted =>
    rw [Schedule.admitTask, if_neg (staffed.threads_pos free)]
    refine ⟨{ holding with placed := ?_ }, { staffed with busy := ?_ }, ?_,
      fun ended => absurd ended going⟩
    · intro index
      have placed := holding.placed index
      rw [tally_places] at placed ⊢
      simp only [tally_append, tally_nil]
      omega
    · show schedule.busy + 1 = (schedule.running ++ [task]).length + schedule.reports.length
      rw [staffed.busy, List.length_append, List.length_singleton]
      omega
    · exact fun _ => Nat.succ_pos _
  | blockedUntil time =>
    exact ⟨holding.park time rfl, { staffed with }, slots, fun ended => absurd ended going⟩
  | blockedSlot =>
    rw [Schedule.admitTask]
    split
    · next busy =>
        refine ⟨{ holding with placed := ?_ }, { staffed with }, fun _ => busy,
          fun ended => absurd ended going⟩
        intro index
        have placed := holding.placed index
        rw [tally_places] at placed ⊢
        simp only [tally_append, tally_nil]
        omega
    · exact failed _
  | unavailable => exact failed _

/-- A report, as it is acted on. -/
theorem Invariant.receive (invariant : Invariant limits jobIds schedule) {report : WorkerReport}
    {reports : List WorkerReport} (received : schedule.reports = report :: reports) (now : Nat)
    (cancelled : Bool) :
    Invariant limits jobIds (Schedule.requeueWaiting { handle now cancelled
      { schedule with busy := schedule.busy - 1, reports } report with phase := .turning }) := by
  obtain ⟨holding, ⟨busy, alive, lost, panicked⟩, _, _⟩ := invariant
  have free : schedule.busy - 1 = schedule.running.length + reports.length := by
    rw [busy, received, List.length_cons]
    omega
  rw [received, List.countP_cons] at alive
  have placed : ∀ index, tally schedule.taken index =
      tally (places { schedule with busy := schedule.busy - 1, reports }) index +
        tally report.task.toList index := by
    intro index
    have placed := holding.placed index
    rw [tally_places] at placed ⊢
    rw [received] at placed
    cases report <;>
      simp only [List.filterMap_cons, WorkerReport.task, Option.toList, tally_nil] at placed ⊢
    · omega
    · rw [tally_cons] at placed
      omega
    · omega
  cases report with
  | finished =>
    refine requeueWaiting { holding with placed } ⟨free, ?_, lost, panicked⟩ nofun
    simpa [handle, WorkerReport.isPanicked] using alive
  | retry task delay =>
    have staffed : Staffed limits { schedule with busy := schedule.busy - 1, reports } :=
      ⟨free, by simpa [WorkerReport.isPanicked] using alive, lost, panicked⟩
    have atHand : Holding jobIds [task] { schedule with busy := schedule.busy - 1, reports } :=
      { holding with placed }
    rw [handle]
    split
    · exact requeueWaiting ((atHand.settle .cancelled).phase .turning) { staffed with } nofun
    · exact requeueWaiting ((atHand.park (now + delay) rfl).phase .turning) { staffed with } nofun
  | panicked =>
    refine requeueWaiting { holding with placed } ⟨free, ?_, lost, nofun⟩ nofun
    show schedule.threads + reports.countP WorkerReport.isPanicked = schedule.alive - 1
    rw [← alive]
    simp [WorkerReport.isPanicked]

/-- A worker ends an attempt, whatever the scheduler does. -/
theorem Invariant.endAttempt (invariant : Invariant limits jobIds schedule) {position : Nat}
    (held : schedule.running[position]? = some task) (threads : schedule.threads ≠ 0)
    (outcome : AttemptEnd) :
    Invariant limits jobIds (endAttempt
      { schedule with running := schedule.running.eraseIdx position } task outcome) := by
  obtain ⟨holding, ⟨busy, alive, lost, panicked⟩, slots, ended⟩ := invariant
  have inBounds := (List.getElem?_eq_some_iff.mp held).1
  have fewer : (schedule.running.eraseIdx position).length + 1 = schedule.running.length := by
    rw [List.length_eraseIdx_of_lt inBounds]
    omega
  have placed : ∀ index, tally schedule.taken index =
      tally (places { schedule with running := schedule.running.eraseIdx position }) index +
        tally [task] index := by
    intro index
    have placed := holding.placed index
    rw [tally_places, tally_eraseIdx held] at placed
    rw [tally_places]
    rw [tally_nil] at placed
    simp only
    omega
  have counted : ∀ report : WorkerReport, schedule.busy =
      (schedule.running.eraseIdx position).length + (schedule.reports ++ [report]).length := by
    intro report
    rw [busy, List.length_append, List.length_singleton]
    omega
  cases outcome with
  | finished =>
    refine ⟨{ holding with placed := ?_ }, ⟨counted _, ?_, lost, panicked⟩, slots, ended⟩
    · intro index
      have placed := placed index
      rw [tally_places] at placed ⊢
      simp only [Schedule.endAttempt, settle, List.filterMap_append, List.map_append,
        tally_append] at placed ⊢
      simp only [List.map_singleton, List.filterMap_cons, List.filterMap_nil,
        WorkerReport.task, tally_nil] at placed ⊢
      omega
    · simpa [Schedule.endAttempt, settle, WorkerReport.isPanicked] using alive
  | retry delay =>
    refine ⟨{ holding with placed := ?_ }, ⟨counted _, ?_, lost, panicked⟩, slots, ended⟩
    · intro index
      have placed := placed index
      have same : tally [{ task with attempt := task.attempt + 1 }] index = tally [task] index :=
        tally_congr rfl index
      rw [tally_places] at placed ⊢
      simp only [Schedule.endAttempt, List.filterMap_append, tally_append] at placed ⊢
      simp only [List.filterMap_cons, List.filterMap_nil, WorkerReport.task,
        tally_nil] at placed ⊢
      omega
    · simpa [Schedule.endAttempt, WorkerReport.isPanicked] using alive
  | panicked =>
    refine ⟨{ holding with placed := ?_ }, ⟨counted _, ?_, ?_, panicked⟩, slots, ended⟩
    · intro index
      have placed := placed index
      rw [tally_places] at placed ⊢
      simp only [Schedule.endAttempt, List.filterMap_append, tally_append] at placed ⊢
      simp only [List.filterMap_cons, List.filterMap_nil, WorkerReport.task,
        tally_nil] at placed ⊢
      omega
    · show schedule.threads - 1 + (schedule.reports ++ [_]).countP _ = schedule.alive
      rw [List.countP_append, List.countP_singleton, ← alive]
      simp only [WorkerReport.isPanicked, if_true]
      omega
    · show schedule.threads - 1 + (schedule.lost ++ [task]).length = limits.concurrency
      rw [List.length_append, List.length_singleton, ← lost]
      omega

/-! ## Runs -/

/-- One action of the scheduler or of a worker. -/
def Step (limits : ScheduleLimits) (loader : JobLoader σ Job) (before : Schedule σ Job)
    (action : ScheduleAction) (after : Schedule σ Job) : Prop :=
  before.apply limits loader action = some after

variable {before after : Schedule σ Job}

/-- A cancelled source is settled job by job. -/
theorem Invariant.cancelNext (invariant : Invariant limits jobIds before)
    (step : Step limits loader before .cancelNext after) : Invariant limits jobIds after := by
  simp only [Step, apply] at step
  split at step
  · next cancelling =>
      have going : before.phase ≠ .ended := by
        rw [cancelling]
        exact nofun
      split at step
      · next isOpen =>
          cases step
          exact invariant.frame
            (invariant.holding.take isOpen fun _ _ atHand => atHand.settle .cancelled)
            (frame_take (frame_settle .cancelled)) going
      · cases step
        exact invariant.phase nofun
  · cases step

/-- A timer that is due makes its task ready. -/
theorem Invariant.mature (invariant : Invariant limits jobIds before)
    (step : Step limits loader before .mature after) : Invariant limits jobIds after := by
  simp only [Step, apply] at step
  split at step
  · next now maturing =>
      cases invariant.holding.timers.popDue now with
      | inl nothing =>
        rw [nothing] at step
        cases step
        exact invariant.phase nofun
      | inr due =>
        obtain ⟨task, timers, popped, wellFormed, items⟩ := due
        rw [popped] at step
        cases step
        refine invariant.frame
          ((invariant.holding.popTimers wellFormed items).requeue false rfl)
          ⟨rfl, rfl, rfl, rfl, rfl, rfl, rfl, rfl, rfl⟩ ?_
        rw [maturing]
        exact nofun
  · cases step

/-- A task that is enqueued is ready or parked. -/
theorem Invariant.fill (invariant : Invariant limits jobIds before)
    (step : Step limits loader before .fill after) : Invariant limits jobIds after := by
  simp only [Step, apply] at step
  split at step
  · next now filling =>
      have going : before.phase ≠ .ended := by
        rw [filling]
        exact nofun
      split at step
      · next wanted =>
          cases step
          simp only [Bool.and_eq_true] at wanted
          exact invariant.frame
            (invariant.holding.take wanted.1.1 fun _ _ atHand => atHand.enqueue now)
            (frame_take (frame_enqueue now)) going
      · cases step
        exact invariant.phase nofun
  · cases step

/-- A task that is dispatched goes where the limiter says. -/
theorem Invariant.dispatch {answer : AdmissionAnswer} (invariant : Invariant limits jobIds before)
    (step : Step limits loader before (.dispatch answer) after) :
    Invariant limits jobIds after := by
  simp only [Step, apply] at step
  split at step
  · next dispatching =>
      split at step
      · next free =>
          cases invariant.holding.ready.popNext with
          | inl nothing =>
            rw [nothing.1] at step
            cases step
            exact invariant.phase nofun
          | inr next =>
            obtain ⟨task, ready, popped, wellFormed, items⟩ := next
            rw [popped] at step
            cases step
            refine Invariant.admitTask (invariant.holding.popReady wellFormed items)
              { invariant.staffed with } invariant.slots ?_ free answer
            show before.phase ≠ .ended
            rw [dispatching]
            exact nofun
      · cases step
        exact invariant.phase nofun
  · cases step

/-- The loop ends with nothing at work. -/
theorem Invariant.check (invariant : Invariant limits jobIds before)
    (step : Step limits loader before .check after) : Invariant limits jobIds after := by
  simp only [Step, apply] at step
  split at step
  · split at step
    · next done =>
        cases step
        refine ⟨invariant.holding.phase _, { invariant.staffed with }, invariant.slots, ?_⟩
        intro _
        cases done.2 with
        | inl dead => exact .inl dead
        | inr drained => exact .inr ⟨done.1, drained⟩
    · cases step
      exact invariant.phase nofun
  · cases step

theorem Step.invariant {action : ScheduleAction}
    (step : Step limits loader before action after) (invariant : Invariant limits jobIds before) :
    Invariant limits jobIds after := by
  cases action with
  | turn now cancelled =>
    simp only [Step, apply] at step
    split at step
    · split at step
      · cases step
        exact ⟨invariant.holding.cancelAll.phase _, { invariant.staffed with },
          fun waiting => absurd rfl waiting, nofun⟩
      · cases step
        exact invariant.phase nofun
    · cases step
  | cancelNext => exact invariant.cancelNext step
  | mature => exact invariant.mature step
  | fill => exact invariant.fill step
  | dispatch answer => exact invariant.dispatch step
  | check => exact invariant.check step
  | receive now cancelled =>
    simp only [Step, apply] at step
    split at step
    · next report reports _ received =>
        cases step
        exact invariant.receive received now cancelled
    · cases step
  | disconnect =>
    simp only [Step, apply] at step
    split at step
    · next gone =>
        cases step
        refine ⟨invariant.holding.phase _, { invariant.staffed with }, invariant.slots, ?_⟩
        intro _
        left
        show before.alive = 0
        rw [← invariant.staffed.alive, gone.2.1, gone.2.2]
        rfl
    · cases step
  | release =>
    simp only [Step, apply] at step
    split at step
    · cases step
      exact .requeueWaiting (invariant.holding.phase _) { invariant.staffed with } nofun
    · cases step
  | timeout =>
    simp only [Step, apply] at step
    split at step
    · cases step
      exact invariant.phase nofun
    · cases step
  | attemptEnds position outcome =>
    simp only [Step, apply] at step
    split at step
    · cases step
    · next threads =>
        obtain ⟨task, held, rfl⟩ := Option.map_eq_some_iff.mp step
        exact invariant.endAttempt held threads outcome

theorem invariant_start (source : JobSource σ Job) :
    Invariant limits source.jobIds (start limits source) where
  holding := {
    ready := FairQueue.wellFormed_empty
    timers := TimerQueue.wellFormed_empty
    placed := fun _ => rfl
    indices := rfl
    jobs := rfl
    consistent := fun _ => ⟨rfl, rfl, Nat.zero_le _⟩
    exhausted := nofun
    opened := fun _ => rfl }
  staffed := ⟨rfl, rfl, rfl, fun _ => rfl⟩
  slots := fun waiting => absurd rfl waiting
  ended := nofun

theorem Holding.tally_taken (holding : Holding jobIds hand schedule) (index : Nat) :
    tally schedule.taken index = if index < schedule.taken.length then 1 else 0 := by
  have counted : tally schedule.taken index =
      (schedule.taken.map (·.index)).count index := by
    rw [tally, List.count, List.countP_map]
    exact List.countP_congr fun task _ => by simp
  rw [counted, holding.indices]
  split
  · next bound => exact List.count_eq_one_of_mem List.nodup_range (List.mem_range.mpr bound)
  · next beyond =>
      exact List.count_eq_zero_of_not_mem fun member => beyond (List.mem_range.mp member)

/-- Without a panic, no task is lost. -/
theorem Staffed.lost_eq_nil (staffed : Staffed limits schedule)
    (calm : schedule.workerPanicked = false)
    (pending : WorkerReport.panicked ∉ schedule.reports) : schedule.lost = [] := by
  have none : schedule.reports.countP WorkerReport.isPanicked = 0 := by
    rw [List.countP_eq_zero]
    intro report isReport panicked
    cases report with
    | panicked => exact pending isReport
    | finished => cases panicked
    | retry task delay => cases panicked
  have alive := staffed.alive
  rw [none, staffed.panicked calm] at alive
  have lost := staffed.lost
  exact List.eq_nil_of_length_eq_zero (by omega)

/-- At the end of an undisturbed run everything is settled. -/
theorem Invariant.settled_of_ended (invariant : Invariant limits jobIds schedule)
    (staff : 0 < limits.concurrency) (ended : schedule.phase = .ended)
    (calm : schedule.workerPanicked = false) (sound : schedule.enqueueFailed = false)
    {index : Nat} (isJob : index < jobIds.length) :
    tally (schedule.settled.map Prod.fst) index = 1 := by
  obtain ⟨holding, staffed, _, outcome⟩ := invariant
  cases outcome ended with
  | inl dead =>
    rw [staffed.panicked calm] at dead
    omega
  | inr done =>
    obtain ⟨idle, drained, noWaiting⟩ := done
    simp only [Schedule.drained, Bool.and_eq_true, Bool.not_eq_true', decide_eq_true_eq]
      at drained
    obtain ⟨⟨closed, noReady⟩, noTimers⟩ := drained
    have busy := staffed.busy
    rw [idle] at busy
    have noRunning : schedule.running = [] := List.eq_nil_of_length_eq_zero (by omega)
    have noReports : schedule.reports = [] := List.eq_nil_of_length_eq_zero (by omega)
    have ready : schedule.ready.items = [] := by
      rw [holding.ready.counted] at noReady
      exact List.eq_nil_of_length_eq_zero noReady
    have timers : schedule.timers.items = [] := by
      rw [← TimerQueue.length_items] at noTimers
      exact List.eq_nil_of_length_eq_zero noTimers
    have lost := staffed.lost_eq_nil calm (by rw [noReports]; exact List.not_mem_nil)
    have placed := holding.placed index
    rw [holding.tally_taken, holding.exhausted sound closed, if_pos isJob, tally_places,
      ready, timers, noWaiting, noRunning, noReports, lost] at placed
    simp only [List.filterMap_nil, tally_nil] at placed
    omega

/-- Every task taken from the source is in exactly one place; a task is lost only with a
worker that panicked.  When the loop ends undisturbed, every job was settled exactly once,
and whenever it waits with slot-limited tasks some worker is busy. -/
theorem batch_conserves_work {concurrency verificationWorkers : Nat} {source : JobSource σ Job}
    {actions : List ScheduleAction}
    (run : Trace (Step (.new concurrency verificationWorkers) loader)
      (start (.new concurrency verificationWorkers) source) actions schedule) :
    (∀ task ∈ schedule.taken, tally schedule.places task.index = 1) ∧
    (schedule.workerPanicked = false → WorkerReport.panicked ∉ schedule.reports →
      schedule.lost = []) ∧
    (schedule.phase = .ended → schedule.workerPanicked = false →
      schedule.enqueueFailed = false → ∀ index < source.jobIds.length,
        tally (schedule.settled.map Prod.fst) index = 1) ∧
    (schedule.phase = .waiting → schedule.slotWaiting ≠ [] →
      0 < schedule.busy ∧ schedule.busy = schedule.running.length + schedule.reports.length) := by
  have invariant : Invariant (.new concurrency verificationWorkers) source.jobIds schedule :=
    run.invariant (Invariant _ _) (invariant_start source) Step.invariant
  refine ⟨?_, ?_, ?_, ?_⟩
  · intro task isTaken
    have placed := invariant.holding.placed task.index
    have listed : task.index ∈ schedule.taken.map (·.index) :=
      List.mem_map.mpr ⟨task, isTaken, rfl⟩
    rw [invariant.holding.indices, List.mem_range] at listed
    rw [invariant.holding.tally_taken, if_pos listed, tally_nil] at placed
    exact placed.symm
  · exact invariant.staffed.lost_eq_nil
  · intro ended calm sound index isJob
    refine invariant.settled_of_ended ?_ ended calm sound isJob
    exact (Nat.le_max_right concurrency 1).trans (Nat.le_add_right _ _)
  · exact fun _ waiting => ⟨invariant.slots waiting, invariant.staffed.busy⟩

/-! ## Runs of an example -/

/-- A loader that prepares every job. -/
def plainLoader : JobLoader Unit Unit where
  load := fun _ ids => ((), .ok (ids.map fun _ => .ok ()))
  ratePath := fun _ => .new id ⟨"imap.example.org:993", "user", "", ""⟩
    ⟨"imap.example.com:993", "user", "", ""⟩
  defaultPath := .new id ⟨"", "", "", ""⟩ ⟨"", "", "", ""⟩

def oneJob : JobSource Unit Unit where
  jobIds := ["job"]
  childRunIds := ["run"]
  checkpoints := [none]
  loaderState := ()
  resumeAt := fun _ => none

def twoJobs : JobSource Unit Unit where
  jobIds := ["first", "second"]
  childRunIds := ["run", "other"]
  checkpoints := [none, none]
  loaderState := ()
  resumeAt := fun _ => none

def actOn (limits : ScheduleLimits) (schedule : Schedule Unit Unit) (action : ScheduleAction) :
    Except Unit (Schedule Unit Unit) :=
  (schedule.apply limits plainLoader action).elim (.error ()) .ok

/-- A run, by evaluation. -/
theorem run_of_actions (limits : ScheduleLimits) (source : JobSource Unit Unit)
    (actions : List ScheduleAction) (property : Schedule Unit Unit → Bool)
    (evaluated : (actions.foldlM (actOn limits) (start limits source)).toOption.any property =
      true) :
    ∃ schedule, Trace (Step limits plainLoader) (start limits source) actions schedule ∧
      property schedule = true := by
  obtain ⟨schedule, ran, holds⟩ := accepted_of_any evaluated
  refine ⟨schedule, (Trace.of_foldlM ran).weaken ?_, holds⟩
  intro before action after acted
  rw [actOn] at acted
  cases applied : before.apply limits plainLoader action with
  | none =>
    rw [applied] at acted
    cases acted
  | some next =>
    rw [applied] at acted
    cases acted
    exact applied

/-- The job is taken from the source and given to the worker. -/
def launch : List ScheduleAction :=
  [.turn 0 false, .mature, .fill, .fill, .fill, .dispatch .admitted]

/-- A task whose worker panics is in no queue, with no worker and not settled. -/
theorem panic_loses_task : ∃ schedule,
    Trace (Step (.new 1 0) plainLoader) (start (.new 1 0) oneJob)
      (launch ++ [.attemptEnds 0 .panicked]) schedule ∧
    ∃ task ∈ schedule.taken, tally (schedule.ready.items ++ schedule.timers.items ++
      schedule.slotWaiting ++ schedule.inFlight ++ schedule.settled.map Prod.fst) task.index =
        0 := by
  obtain ⟨schedule, run, holds⟩ := run_of_actions (.new 1 0) oneJob
    (launch ++ [.attemptEnds 0 .panicked]) (fun schedule => decide (∃ task ∈ schedule.taken,
      tally (schedule.ready.items ++ schedule.timers.items ++ schedule.slotWaiting ++
        schedule.inFlight ++ schedule.settled.map Prod.fst) task.index = 0)) (by decide +kernel)
  exact ⟨schedule, run, of_decide_eq_true holds⟩

/-- The second job waits for a slot until the first is to be retried, and both run in the end. -/
def bothJobs : List ScheduleAction :=
  [.turn 0 false, .mature, .fill, .fill, .fill, .fill, .dispatch .admitted,
    .dispatch .blockedSlot, .dispatch .admitted, .check, .attemptEnds 0 (.retry 5),
    .receive 1 false, .turn 1 false, .mature, .fill, .dispatch .admitted, .dispatch .admitted,
    .check, .timeout, .turn 6 false, .mature, .mature, .fill, .dispatch .admitted,
    .dispatch .admitted, .check, .attemptEnds 0 .finished, .attemptEnds 0 .finished,
    .receive 7 false, .turn 7 false, .mature, .fill, .dispatch .admitted, .check,
    .receive 8 false, .turn 8 false, .mature, .fill, .dispatch .admitted, .check]

/-- A batch of two jobs that finishes. -/
theorem finished_batch : ∃ schedule,
    Trace (Step (.new 2 0) plainLoader) (start (.new 2 0) twoJobs) bothJobs schedule ∧
      schedule.phase = .ended ∧
      ∀ index < 2, tally (schedule.settled.map Prod.fst) index = 1 := by
  obtain ⟨schedule, run, holds⟩ := run_of_actions (.new 2 0) twoJobs bothJobs
    (fun schedule => decide (schedule.phase = .ended) && !schedule.workerPanicked &&
      !schedule.enqueueFailed) (by decide +kernel)
  simp only [Bool.and_eq_true, decide_eq_true_eq, Bool.not_eq_true'] at holds
  exact ⟨schedule, run, holds.1.1, (batch_conserves_work run).2.2.1 holds.1.1 holds.1.2 holds.2⟩

end Schedule

end MailSwiftSync
