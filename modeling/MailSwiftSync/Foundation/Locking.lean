import MailSwiftSync.Foundation.Programs

/-!
# Programs under a lock

Processes run programs whose operations take turns in any order.  A program may ask for the one
lock, and holds it from then until it ends or its process dies.  What holds whenever the lock is
free is then an invariant, provided that every program restores it while it holds the lock, has it
restored wherever its process may die, and keeps away from it otherwise.
-/

namespace Foundation

/-- An operation, or the request for the lock. -/
inductive LockOp (Op : Type) where
  | acquire
  | call (op : Op)

/-- The lock is granted or refused. -/
def LockOp.Answer (ε : Type) (Answer : Op → Type) : LockOp Op → Type
  | acquire => Except ε Unit
  | call op => Answer op

/-- Programs of one kind of process. -/
abbrev Session (Op ε : Type) (Answer : Op → Type) (α : Type) : Type :=
  Program (LockOp Op) (LockOp.Answer ε Answer) α

/-- Processes around a world. -/
structure Locking (ι σ Op ε : Type) (Answer : Op → Type) (α : Type) where
  /-- What a process may set out to do. -/
  starts : ι → Session Op ε Answer α → Prop
  /-- How the world answers a process. -/
  serves : ι → σ → (op : Op) → Answer op → σ → Prop
  /-- What the death of a process does to the world. -/
  dies : ι → σ → σ → Prop
  /-- What happens to the world while nobody holds the lock. -/
  outside : σ → σ → Prop

/-- The world, who holds the lock, and what each process has yet to do. -/
structure LockState (ι σ Op ε : Type) (Answer : Op → Type) (α : Type) where
  world : σ
  holder : Option ι
  running : ι → Option (Session Op ε Answer α)

/-- What processes must keep to. -/
structure LockRules (ι σ Op : Type) where
  /-- What others may do to the world while a process holds the lock. -/
  rely : ι → σ → σ → Prop
  /-- When a process that holds the lock may ask for an operation. -/
  admits : ι → σ → Op → Prop
  /-- The operations that need no lock. -/
  aside : Op → Prop
  /-- What holds whenever the lock is free. -/
  inv : σ → Prop

namespace Locking

variable {ι σ Op ε α : Type} {Answer : Op → Type}

/-- Nobody runs. -/
def atRest (world : σ) : LockState ι σ Op ε Answer α :=
  { world, holder := none, running := fun _ => none }

section Steps

variable [DecidableEq ι]

/-- A process ends, and gives back what it holds. -/
def release (process : ι) (holder : Option ι) : Option ι :=
  if holder = some process then none else holder

/-- One operation of one process, or something that happens around them. -/
inductive Step (system : Locking ι σ Op ε Answer α) :
    LockState ι σ Op ε Answer α → LockState ι σ Op ε Answer α → Prop where
  | start {state process program} (idle : state.running process = none)
      (starts : system.starts process program) :
      Step system state
        { state with running := Function.update state.running process (some program) }
  | acquire {state process next} (asks : state.running process = some (.ask .acquire next))
      (free : state.holder = none) :
      Step system state
        { state with
          holder := some process
          running := Function.update state.running process (some (next (.ok ()))) }
  | refuse {state process next} (error : ε)
      (asks : state.running process = some (.ask .acquire next)) :
      Step system state
        { state with
          running := Function.update state.running process (some (next (.error error))) }
  | call {state process op next answer after}
      (asks : state.running process = some (.ask (.call op) next))
      (served : system.serves process state.world op answer after) :
      Step system state
        { state with
          world := after
          running := Function.update state.running process (some (next answer)) }
  | finish {state process value} (ended : state.running process = some (.done value)) :
      Step system state
        { state with
          holder := release process state.holder
          running := Function.update state.running process none }
  | die {state process after} (death : system.dies process state.world after) :
      Step system state
        { world := after
          holder := release process state.holder
          running := Function.update state.running process none }
  | outside {state after} (free : state.holder = none)
      (changed : system.outside state.world after) :
      Step system state { state with world := after }

/-- What happens after a state. -/
def Reaches (system : Locking ι σ Op ε Answer α) :
    LockState ι σ Op ε Answer α → LockState ι σ Op ε Answer α → Prop :=
  Relation.ReflTransGen (Step system)

theorem release_self (process : ι) : release process (some process) = none := if_pos rfl

theorem release_ne {process : ι} {holder : Option ι} (other : holder ≠ some process) :
    release process holder = holder := if_neg other

theorem release_ne_some (process : ι) (holder : Option ι) :
    release process holder ≠ some process := by
  by_cases held : holder = some process
  · rw [held, release_self]
    exact nofun
  · rwa [release_ne held]

/-- Releasing makes nobody else a holder. -/
theorem release_eq_some {process other : ι} {holder : Option ι} (different : other ≠ process) :
    release process holder = some other ↔ holder = some other := by
  rw [release]
  split
  · next held =>
      rw [held, Option.some.injEq]
      exact ⟨nofun, fun same => absurd same.symm different⟩
  · exact Iff.rfl

end Steps

section Discipline

variable (system : Locking ι σ Op ε Answer α) (rules : LockRules ι σ Op)

/-- The contract of a process that holds the lock: it does not ask for the lock again. -/
def contract (process : ι) : Contract σ (LockOp Op) (LockOp.Answer ε Answer) where
  rely := rules.rely process
  serves := fun world op =>
    match op with
    | .acquire => fun _ _ => False
    | .call op => fun answer after => system.serves process world op answer after
  admits := fun world op =>
    match op with
    | .acquire => False
    | .call op => rules.admits process world op

/-- Inside its section, a process restores the invariant. -/
def Inside (process : ι) (program : Session Op ε Answer α) (world : σ) : Prop :=
  (contract system rules process).Safe (fun _ => rules.inv) program world

/-- An operation that may be asked for without the lock. -/
def Harmless (process : ι) (op : Op) : Prop :=
  ∀ world answer after, system.serves process world op answer after →
    (rules.inv world → rules.inv after) ∧
      ∀ other, other ≠ process → rules.rely other world after

/-- Before its section, a process keeps away from what the lock protects. -/
def Outside (process : ι) : Session Op ε Answer α → Prop
  | .done _ => True
  | .ask .acquire next =>
    (∀ world, rules.inv world → Inside system rules process (next (.ok ())) world) ∧
      ∀ error, Outside process (next (.error error))
  | .ask (.call op) next =>
    rules.aside op ∧ ∀ answer, Outside process (next answer)

/-- How processes must behave. -/
structure Discipline : Prop where
  fair : ∀ process, (contract system rules process).Fair
  started : ∀ process program, system.starts process program →
    Outside system rules process program
  harmless : ∀ process op, rules.aside op → Harmless system rules process op
  crashSafe : ∀ process world op after, rules.admits process world op →
    system.dies process world after → rules.inv after
  death : ∀ process world after, system.dies process world after →
    (rules.inv world → rules.inv after) ∧
      ∀ other, other ≠ process → rules.rely other world after
  around : ∀ world after, system.outside world after → rules.inv world → rules.inv after

/-- What a process still has to do is safe. -/
def Behaves (state : LockState ι σ Op ε Answer α) (process : ι) : Prop :=
  match state.running process with
  | none => state.holder ≠ some process
  | some program =>
    (state.holder = some process → Inside system rules process program state.world) ∧
      (state.holder ≠ some process → Outside system rules process program)

/-- What holds in every state of every run. -/
structure Orderly (state : LockState ι σ Op ε Answer α) : Prop where
  restored : state.holder = none → rules.inv state.world
  behaves : ∀ process, Behaves system rules state process

variable {system rules}

theorem orderly_atRest {world : σ} (initially : rules.inv world) :
    Orderly system rules (atRest world) where
  restored := fun _ => initially
  behaves := by
    intro process holds
    cases holds

theorem outside_done (process : ι) (value : α) :
    Outside system rules process (.done value) := trivial

section Frame

variable {state next : LockState ι σ Op ε Answer α} {process : ι}

/-- Another process is as it was. -/
theorem Behaves.frame (discipline : Discipline system rules)
    (behaves : Behaves system rules state process)
    (running : next.running process = state.running process)
    (holder : next.holder = some process ↔ state.holder = some process)
    (world : state.holder = some process → rules.rely process state.world next.world) :
    Behaves system rules next process := by
  unfold Behaves at behaves ⊢
  rw [running]
  cases isRunning : state.running process with
  | none =>
    rw [isRunning] at behaves
    exact fun held => behaves (holder.mp held)
  | some program =>
    rw [isRunning] at behaves
    refine ⟨?_, fun free => behaves.2 (free ∘ holder.mpr)⟩
    intro held
    have before := holder.mp held
    exact (behaves.1 before).later (discipline.fair process) (world before)

theorem behaves_none (idle : next.running process = none) (free : next.holder ≠ some process) :
    Behaves system rules next process := by
  unfold Behaves
  rw [idle]
  exact free

theorem behaves_inside {program : Session Op ε Answer α}
    (running : next.running process = some program) (held : next.holder = some process)
    (inside : Inside system rules process program next.world) :
    Behaves system rules next process := by
  unfold Behaves
  rw [running]
  exact ⟨fun _ => inside, fun free => absurd held free⟩

theorem behaves_outside {program : Session Op ε Answer α}
    (running : next.running process = some program) (free : next.holder ≠ some process)
    (outside : Outside system rules process program) :
    Behaves system rules next process := by
  unfold Behaves
  rw [running]
  exact ⟨fun held => absurd held free, fun _ => outside⟩

end Frame

variable {state : LockState ι σ Op ε Answer α}

theorem Orderly.running {process : ι}
    {program : Session Op ε Answer α} (orderly : Orderly system rules state)
    (running : state.running process = some program) :
    (state.holder = some process → Inside system rules process program state.world) ∧
      (state.holder ≠ some process → Outside system rules process program) := by
  have behaves := orderly.behaves process
  unfold Behaves at behaves
  rw [running] at behaves
  exact behaves

/-- Only a process that holds the lock asks for what needs it, and only where that is admitted. -/
theorem Orderly.admitted {process : ι} {op : Op}
    {next : Answer op → Session Op ε Answer α} (discipline : Discipline system rules)
    (orderly : Orderly system rules state)
    (asks : state.running process = some (.ask (.call op) next)) (needs : ¬ rules.aside op) :
    state.holder = some process ∧ rules.admits process state.world op := by
  have running := orderly.running asks
  by_cases held : state.holder = some process
  · exact ⟨held, (running.1 held state.world ((discipline.fair process).refl _)).1⟩
  · exact absurd (running.2 held).1 needs

/-- Where every admitted operation finds the invariant, it always holds. -/
theorem Orderly.always (discipline : Discipline system rules) (orderly : Orderly system rules state)
    (admitted : ∀ process world op, rules.admits process world op → rules.inv world) :
    rules.inv state.world := by
  cases isHeld : state.holder with
  | none => exact orderly.restored isHeld
  | some process =>
    have behaves := orderly.behaves process
    unfold Behaves at behaves
    cases isRunning : state.running process with
    | none =>
      rw [isRunning] at behaves
      exact absurd isHeld behaves
    | some program =>
      rw [isRunning] at behaves
      have inside := behaves.1 isHeld
      cases program with
      | done value => exact inside state.world ((discipline.fair process).refl _)
      | ask op next =>
        have here := (inside state.world ((discipline.fair process).refl _)).1
        cases op with
        | acquire => exact here.elim
        | call op => exact admitted process state.world op here

theorem Orderly.outside (orderly : Orderly system rules state)
    (discipline : Discipline system rules) {after : σ} (free : state.holder = none)
    (changed : system.outside state.world after) :
    Orderly system rules { state with world := after } where
  restored := fun _ => discipline.around state.world after changed (orderly.restored free)
  behaves := by
    intro process
    refine (orderly.behaves process).frame discipline rfl Iff.rfl ?_
    intro held
    exact absurd (free.symm.trans held) nofun

section Steps

variable [DecidableEq ι] {state next : LockState ι σ Op ε Answer α} {process : ι}

theorem Orderly.start (orderly : Orderly system rules state)
    (discipline : Discipline system rules) {program : Session Op ε Answer α}
    (idle : state.running process = none) (starts : system.starts process program) :
    Orderly system rules
      { state with running := Function.update state.running process (some program) } where
  restored := orderly.restored
  behaves := by
    intro other
    by_cases same : other = process
    · subst same
      have free := orderly.behaves other
      unfold Behaves at free
      rw [idle] at free
      exact behaves_outside (Function.update_self ..) free
        (discipline.started other program starts)
    · exact (orderly.behaves other).frame discipline (Function.update_of_ne same ..) Iff.rfl
        fun _ => (discipline.fair other).refl _

theorem Orderly.acquire (orderly : Orderly system rules state)
    (discipline : Discipline system rules)
    {next : Except ε Unit → Session Op ε Answer α}
    (asks : state.running process = some (.ask .acquire next)) (free : state.holder = none) :
    Orderly system rules
      { state with
        holder := some process
        running := Function.update state.running process (some (next (.ok ()))) } where
  restored := nofun
  behaves := by
    intro other
    by_cases same : other = process
    · subst same
      have outside := (orderly.running asks).2 (by rw [free]; exact nofun)
      exact behaves_inside (Function.update_self ..) rfl
        (outside.1 state.world (orderly.restored free))
    · apply (orderly.behaves other).frame discipline (Function.update_of_ne same ..)
      · rw [free]
        exact ⟨fun held => absurd (Option.some.inj held).symm same, fun held => nomatch held⟩
      · exact fun _ => (discipline.fair other).refl _

theorem Orderly.refuse (orderly : Orderly system rules state)
    (discipline : Discipline system rules)
    {next : Except ε Unit → Session Op ε Answer α} (error : ε)
    (asks : state.running process = some (.ask .acquire next)) :
    Orderly system rules
      { state with
        running := Function.update state.running process (some (next (.error error))) } where
  restored := orderly.restored
  behaves := by
    intro other
    by_cases same : other = process
    · subst same
      have running := orderly.running asks
      have free : state.holder ≠ some other := by
        intro held
        exact (running.1 held state.world ((discipline.fair other).refl _)).1
      exact behaves_outside (Function.update_self ..) free ((running.2 free).2 error)
    · exact (orderly.behaves other).frame discipline (Function.update_of_ne same ..) Iff.rfl
        fun _ => (discipline.fair other).refl _

/-- Others are not disturbed by an operation, and what the lock protects is as it must be. -/
theorem Orderly.call (orderly : Orderly system rules state)
    (discipline : Discipline system rules) {op : Op}
    {next : Answer op → Session Op ε Answer α} {answer : Answer op} {after : σ}
    (asks : state.running process = some (.ask (.call op) next))
    (served : system.serves process state.world op answer after) :
    Orderly system rules
      { state with
        world := after
        running := Function.update state.running process (some (next answer)) } := by
  have running := orderly.running asks
  by_cases held : state.holder = some process
  · have inside := (running.1 held state.world ((discipline.fair process).refl _)).2 answer after
      served
    constructor
    · exact fun free => absurd (held.symm.trans free) nofun
    · intro other
      by_cases same : other = process
      · subst same
        exact behaves_inside (Function.update_self ..) held inside
      · refine (orderly.behaves other).frame discipline (Function.update_of_ne same ..) Iff.rfl ?_
        intro otherHeld
        exact absurd (Option.some.inj (otherHeld.symm.trans held)) same
  · have outside := running.2 held
    have harmless := discipline.harmless process op outside.1 state.world answer after served
    constructor
    · exact fun free => harmless.1 (orderly.restored free)
    · intro other
      by_cases same : other = process
      · subst same
        exact behaves_outside (Function.update_self ..) held (outside.2 answer)
      · exact (orderly.behaves other).frame discipline (Function.update_of_ne same ..) Iff.rfl
          fun _ => harmless.2 other same

theorem Orderly.finish (orderly : Orderly system rules state)
    (discipline : Discipline system rules) {value : α}
    (ended : state.running process = some (.done value)) :
    Orderly system rules
      { state with
        holder := release process state.holder
        running := Function.update state.running process none } := by
  have running := orderly.running ended
  constructor
  · intro free
    by_cases held : state.holder = some process
    · exact running.1 held state.world ((discipline.fair process).refl _)
    · exact orderly.restored ((release_ne held).symm.trans free)
  · intro other
    by_cases same : other = process
    · subst same
      exact behaves_none (Function.update_self ..) (release_ne_some other _)
    · exact (orderly.behaves other).frame discipline (Function.update_of_ne same ..)
        (release_eq_some same) fun _ => (discipline.fair other).refl _

/-- Wherever a process dies, the invariant holds again. -/
theorem Orderly.die (orderly : Orderly system rules state)
    (discipline : Discipline system rules) {after : σ}
    (death : system.dies process state.world after) :
    Orderly system rules
      { world := after
        holder := release process state.holder
        running := Function.update state.running process none } := by
  have spared := discipline.death process state.world after death
  constructor
  · intro free
    by_cases held : state.holder = some process
    · have behaves := orderly.behaves process
      unfold Behaves at behaves
      cases isRunning : state.running process with
      | none =>
        rw [isRunning] at behaves
        exact absurd held behaves
      | some program =>
        rw [isRunning] at behaves
        have inside := behaves.1 held
        cases program with
        | done value => exact spared.1 (inside state.world ((discipline.fair process).refl _))
        | ask op next =>
          have admitted := (inside state.world ((discipline.fair process).refl _)).1
          cases op with
          | acquire => exact admitted.elim
          | call op => exact discipline.crashSafe process _ op after admitted death
    · exact spared.1 (orderly.restored ((release_ne held).symm.trans free))
  · intro other
    by_cases same : other = process
    · subst same
      exact behaves_none (Function.update_self ..) (release_ne_some other _)
    · exact (orderly.behaves other).frame discipline (Function.update_of_ne same ..)
        (release_eq_some same) fun _ => spared.2 other same

/-- Every step keeps the order. -/
theorem Orderly.step (orderly : Orderly system rules state)
    (discipline : Discipline system rules) (step : Step system state next) :
    Orderly system rules next := by
  cases step with
  | start idle starts => exact orderly.start discipline idle starts
  | acquire asks free => exact orderly.acquire discipline asks free
  | refuse error asks => exact orderly.refuse discipline error asks
  | call asks served => exact orderly.call discipline asks served
  | finish ended => exact orderly.finish discipline ended
  | die death => exact orderly.die discipline death
  | outside free changed => exact orderly.outside discipline free changed

/-- Every run keeps the order. -/
theorem Orderly.reaches (orderly : Orderly system rules state)
    (discipline : Discipline system rules) (reaches : Reaches system state next) :
    Orderly system rules next := by
  induction reaches with
  | refl => exact orderly
  | tail _ last ih => exact ih.step discipline last

end Steps

end Discipline

section Alone

variable [DecidableEq ι] {system : Locking ι σ Op ε Answer α}

/-- A process that runs alone. -/
def alone (process : ι) (held : Bool) (program : Session Op ε Answer α) (world : σ) :
    LockState ι σ Op ε Answer α where
  world := world
  holder := if held then some process else none
  running := Function.update (fun _ => none) process (some program)

variable {process : ι} {held : Bool} {program : Session Op ε Answer α} {world : σ}

theorem alone_running : (alone process held program world).running process = some program := by
  change Function.update (fun _ => none) process (some program) process = some program
  exact Function.update_self ..

theorem alone_update (left : Option (Session Op ε Answer α)) :
    Function.update (alone process held program world).running process left =
      Function.update (fun _ => none) process left :=
  Function.update_idem ..

theorem alone_acquire (next : Except ε Unit → Session Op ε Answer α) :
    Step system (alone process false (.ask .acquire next) world)
      (alone process true (next (.ok ())) world) := by
  have step : Step system (alone process false (.ask .acquire next) world) _ :=
    .acquire alone_running rfl
  rw [alone_update] at step
  exact step

theorem alone_call {op : Op} {answer : Answer op} {after : σ}
    (next : Answer op → Session Op ε Answer α)
    (served : system.serves process world op answer after) :
    Step system (alone process held (.ask (.call op) next) world)
      (alone process held (next answer) after) := by
  have step : Step system (alone process held (.ask (.call op) next) world) _ :=
    .call alone_running served
  rw [alone_update] at step
  exact step

theorem alone_start (starts : system.starts process program) :
    Step system (atRest world) (alone process false program world) :=
  .start rfl starts

section Proceeding

variable (answers : σ → (op : Op) → Answer op × σ) (allowed : σ → Op → Bool)

/-- Some steps of a process that runs alone, in a world that answers in a certain way. -/
def proceed : Nat → Bool → Session Op ε Answer α → σ → Option (Bool × Session Op ε Answer α × σ)
  | 0, held, program, world => some (held, program, world)
  | _ + 1, _, .done _, _ => none
  | steps + 1, held, .ask .acquire next, world =>
    if held then none else proceed steps true (next (.ok ())) world
  | steps + 1, held, .ask (.call op) next, world =>
    if allowed world op then
      proceed steps held (next (answers world op).1) (answers world op).2
    else none

variable {answers allowed}

/-- These steps are a run. -/
theorem proceed_reaches
    (conforms : ∀ world op, allowed world op = true →
      system.serves process world op (answers world op).1 (answers world op).2)
    {steps : Nat} {after : Bool × Session Op ε Answer α × σ}
    (proceeds : proceed answers allowed steps held program world = some after) :
    Reaches system (alone process held program world)
      (alone process after.1 after.2.1 after.2.2) := by
  induction steps generalizing held program world with
  | zero =>
    cases proceeds
    exact .refl
  | succ steps ih =>
    cases program with
    | done value => cases proceeds
    | ask op next =>
      rw [proceed.eq_def] at proceeds
      cases op with
      | acquire =>
        cases held with
        | true => cases proceeds
        | false => exact .head (alone_acquire next) (ih proceeds)
      | call op =>
        dsimp only at proceeds
        split at proceeds
        · next isAllowed =>
            exact .head (alone_call next (conforms world op isAllowed)) (ih proceeds)
        · cases proceeds

end Proceeding

end Alone

end Locking

end Foundation
