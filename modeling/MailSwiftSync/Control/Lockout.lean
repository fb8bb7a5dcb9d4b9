import MailSwiftSync.Control.Accounts
import MailSwiftSync.Foundation.Transition

/-!
# Locked accounts

A login reads the account and verifies the password before it takes the lock of the database
again, so that other calls commit in between.  The commit of a right password does not look at
the lock of the account again: where no commit depends on that, a lock holds until it expires
and bounds the wrong passwords.
-/

namespace MailSwiftSync.Control

open Foundation

/-! ## Calls in parallel -/

/-- How a call for an account ends; a rejection either counts or, where the account is disabled
or has no password, does not. -/
inductive LoginAnswer where
  | locked
  | rejected (locks : Bool)
  | refused
  | opened
  | failed
deriving DecidableEq

/-- Answers to the caller that read `Rejected`. -/
def LoginAnswer.isRejection : LoginAnswer → Bool
  | rejected _ | refused => true
  | _ => false

/-- A call that ended. -/
structure AnsweredLogin where
  userId : String
  readAt : Int
  endedAt : Int
  answer : LoginAnswer
deriving DecidableEq

/-- When the lock that a call set expires. -/
def AnsweredLogin.expiry (call : AnsweredLogin) : Int := call.readAt + lockoutSeconds

/-- The store, the calls past their check, and those that ended. -/
structure LoginSystem where
  store : Store
  inFlight : List LoginAttempt := []
  answered : List AnsweredLogin := []

/-- Steps of login calls. -/
inductive LoginEvent where
  | read (time : Int) (email password requestId : String)
  | commit (index : Nat) (env : Environment)

/-- Whether one more wrong password locks an account. -/
def Store.locksNext (store : Store) (userId : String) : Bool :=
  (store.users.find userId).any fun user => lockoutFailures ≤ user.failedLogins + 1

/-- Whether an account is enabled and has a password. -/
def Store.takesPassword (store : Store) (userId : String) : Bool :=
  (store.users.find userId).any fun user => user.isActive && user.passwordHash.isSome

namespace LoginAttempt

variable (attempt : LoginAttempt)

/-- The right password of an account that is not disabled. -/
def isRight : Bool := attempt.verified && !attempt.disabled

/-- The answer to a call that commits. -/
def answer (store : Store) : Except LoginError (String × Int) → LoginAnswer
  | .ok _ => .opened
  | .error .rejected =>
    if attempt.disabled then .refused else .rejected (store.locksNext attempt.userId)
  | .error _ => .failed

/-- A call as it ends. -/
def ended (time : Int) (answer : LoginAnswer) : AnsweredLogin where
  userId := attempt.userId
  readAt := attempt.time
  endedAt := time
  answer := answer

end LoginAttempt

namespace LoginSystem

variable (libraries : Libraries) (system : LoginSystem)

/-- The first part of a call. -/
def read (time : Int) (email password requestId : String) : LoginSystem :=
  match system.store.accountOf (trim email) with
  | none => system
  | some user =>
    match beginLogin libraries time email password requestId system.store with
    | .ok attempt => { system with inFlight := system.inFlight ++ [attempt] }
    | .error error =>
      { system with
        answered := system.answered ++ [{
          userId := user.id
          readAt := time
          endedAt := time
          answer := if error = .locked then .locked else .refused }] }

/-- The second part of a call. -/
def commit (index : Nat) (env : Environment) : LoginSystem :=
  match system.inFlight[index]? with
  | none => system
  | some attempt =>
    let (result, store) := commitLogin libraries env attempt system.store
    { store
      inFlight := system.inFlight.eraseIdx index
      answered := system.answered ++
        [attempt.ended (env.now 0) (attempt.answer system.store result)] }

def step : LoginEvent → LoginSystem
  | .read time email password requestId => system.read libraries time email password requestId
  | .commit index env => system.commit libraries index env

/-- The answers to the calls for an account. -/
def answersOf (userId : String) : List LoginAnswer :=
  (system.answered.filter (·.userId = userId)).map (·.answer)

/-- The runs of parallel calls. -/
def Runs (libraries : Libraries) (store : Store) (events : List LoginEvent)
    (system : LoginSystem) : Prop :=
  Trace (fun before event next => next = step libraries before event) { store } events system

end LoginSystem

/-! ## Commits that come in time -/

/-- The commit of a call is not one that the lock should have stopped: the right password comes
when the lock is over, and after a lockout with no failure to forget; another lockout does not
shorten a lock.  The clock does not go back. -/
structure LoginAttempt.InTime (attempt : LoginAttempt) (now : Int) (system : LoginSystem) :
    Prop where
  clock : ∀ call ∈ system.answered, call.endedAt ≤ now
  unlocked : attempt.isRight = true → ∀ user ∈ system.store.users.find attempt.userId,
    ∀ expiry ∈ user.lockedUntil, expiry ≤ now
  uncounted : attempt.isRight = true → .rejected true ∈ system.answersOf attempt.userId →
    ∀ user ∈ system.store.users.find attempt.userId, user.failedLogins = 0
  lengthens : system.store.locksNext attempt.userId = true →
    ∀ user ∈ system.store.users.find attempt.userId, ∀ expiry ∈ user.lockedUntil,
      expiry ≤ now ∨ expiry ≤ attempt.time + lockoutSeconds

theorem LoginAttempt.inTime_iff {attempt : LoginAttempt} {now : Int} {system : LoginSystem} :
    attempt.InTime now system ↔
      (∀ call ∈ system.answered, call.endedAt ≤ now) ∧
      (attempt.isRight = true → ∀ user ∈ system.store.users.find attempt.userId,
        ∀ expiry ∈ user.lockedUntil, expiry ≤ now) ∧
      (attempt.isRight = true → .rejected true ∈ system.answersOf attempt.userId →
        ∀ user ∈ system.store.users.find attempt.userId, user.failedLogins = 0) ∧
      (system.store.locksNext attempt.userId = true →
        ∀ user ∈ system.store.users.find attempt.userId, ∀ expiry ∈ user.lockedUntil,
          expiry ≤ now ∨ expiry ≤ attempt.time + lockoutSeconds) :=
  ⟨fun ⟨clock, unlocked, uncounted, lengthens⟩ => ⟨clock, unlocked, uncounted, lengthens⟩,
    fun ⟨clock, unlocked, uncounted, lengthens⟩ => ⟨clock, unlocked, uncounted, lengthens⟩⟩

instance (attempt : LoginAttempt) (now : Int) (system : LoginSystem) :
    Decidable (attempt.InTime now system) :=
  decidable_of_iff' _ LoginAttempt.inTime_iff

namespace LoginSystem

/-- Commits come in time. -/
def Allows (system : LoginSystem) : LoginEvent → Prop
  | .read _ _ _ _ => True
  | .commit index env =>
    ∀ attempt ∈ system.inFlight[index]?, attempt.InTime (env.now 0) system

instance (system : LoginSystem) : DecidablePred system.Allows
  | .read _ _ _ _ => inferInstanceAs (Decidable True)
  | .commit index env => inferInstanceAs
      (Decidable (∀ attempt ∈ system.inFlight[index]?, attempt.InTime (env.now 0) system))

/-- The lockout of an account. -/
structure LockoutHolds (libraries : Libraries) (userId : String) (system : LoginSystem) :
    Prop where
  /-- After a lock no call opens a session that commits before the lock expires. -/
  closed : system.answered.Pairwise fun lock session =>
    lock.userId = userId → session.userId = userId → lock.answer = .rejected true →
      session.endedAt < lock.expiry → session.answer ≠ .opened
  /-- The lock stays in force until then, and calls that read the account are told. -/
  inForce : ∀ lock ∈ system.answered, lock.userId = userId → lock.answer = .rejected true →
    (∀ call ∈ system.answered, call.endedAt < lock.expiry) →
      ∀ time email password requestId user, system.store.accountOf (trim email) = some user →
        user.id = userId → time < lock.expiry →
          beginLogin libraries time email password requestId system.store = .error .locked
  /-- From one lock to the next no more wrong passwords are rejected than set it. -/
  bounded : ∀ earlier between later, system.answersOf userId =
      earlier ++ .rejected true :: (between ++ .rejected true :: later) →
    .rejected true ∉ between →
      between.countP LoginAnswer.isRejection + 1 ≤ lockoutFailures

end LoginSystem

/-! ## Counting -/

/-- The rejections after the last lock among some answers, if there was one. -/
def failuresSince (answers : List LoginAnswer) : Option Nat :=
  answers.foldl (fun count answer =>
    match answer with
    | .rejected true => some 0
    | .rejected false | .refused => count.map (· + 1)
    | _ => count) none

theorem failuresSince_snoc (answers : List LoginAnswer) (answer : LoginAnswer) :
    failuresSince (answers ++ [answer]) =
      match answer with
      | .rejected true => some 0
      | .rejected false | .refused => (failuresSince answers).map (· + 1)
      | _ => failuresSince answers := by
  rw [failuresSince, List.foldl_append]
  rfl

/-- Without a lock in between, every rejection counts. -/
theorem failuresSince_between {earlier between : List LoginAnswer}
    (noLock : .rejected true ∉ between) :
    failuresSince (earlier ++ .rejected true :: between) =
      some (between.countP LoginAnswer.isRejection) := by
  induction between using List.reverseRecOn with
  | nil => exact failuresSince_snoc _ _
  | append_singleton between answer ih =>
    rw [List.mem_append, List.mem_singleton, not_or] at noLock
    rw [← List.cons_append, ← List.append_assoc, failuresSince_snoc, ih noLock.1,
      List.countP_append]
    cases answer with
    | rejected locks =>
      cases locks with
      | true => exact absurd rfl noLock.2
      | false => rfl
    | _ => rfl

/-- Nothing is counted before the first lock. -/
theorem lock_of_failuresSince {answers : List LoginAnswer} {count : Nat}
    (isCount : failuresSince answers = some count) : .rejected true ∈ answers := by
  induction answers using List.reverseRecOn generalizing count with
  | nil => cases isCount
  | append_singleton answers answer ih =>
    rw [failuresSince_snoc] at isCount
    have earlier : ∀ {before}, failuresSince answers = some before →
        .rejected true ∈ answers ++ [answer] :=
      fun isBefore => List.mem_append_left _ (ih isBefore)
    cases answer with
    | rejected locks =>
      cases locks with
      | true => exact List.mem_append_right _ (List.mem_singleton_self _)
      | false =>
        obtain ⟨before, isBefore, _⟩ := Option.map_eq_some_iff.mp isCount
        exact earlier isBefore
    | refused =>
      obtain ⟨before, isBefore, _⟩ := Option.map_eq_some_iff.mp isCount
      exact earlier isBefore
    | _ => exact earlier isCount

/-! ## Commits -/

section

variable {libraries : Libraries} {env : Environment} {attempt : LoginAttempt} {store : Store}
  {userId : String}

/-- The account after an update of it. -/
theorem find_updated {change : User → User} (keepsKey : ∀ user, (change user).id = user.id) :
    (store.users.update (·.id = userId) change keepsKey).find userId =
      (store.users.find userId).map change := by
  rw [Table.find_update]
  cases found : store.users.find userId with
  | none => rfl
  | some user =>
    obtain ⟨_, isKey⟩ := Table.find_eq_some.mp found
    rw [Option.map_some, Option.map_some, if_pos (decide_eq_true isKey)]

variable (libraries env attempt store) in
/-- What a commit answers and does to the account. -/
theorem commitLogin_cases :
    (attempt.isRight = true ∧
      attempt.answer store (commitLogin libraries env attempt store).1 = .opened ∧
      (commitLogin libraries env attempt store).2.users.find attempt.userId =
        (store.users.find attempt.userId).map User.succeeded) ∨
    (attempt.disabled = false ∧
      attempt.answer store (commitLogin libraries env attempt store).1 =
        .rejected (store.locksNext attempt.userId) ∧
      (commitLogin libraries env attempt store).2.users.find attempt.userId =
        (store.users.find attempt.userId).map (User.failed attempt.time)) ∨
    (attempt.disabled = true ∧
      attempt.answer store (commitLogin libraries env attempt store).1 = .refused ∧
      (commitLogin libraries env attempt store).2.users = store.users) ∨
    (attempt.answer store (commitLogin libraries env attempt store).1 = .failed ∧
      (commitLogin libraries env attempt store).2.users = store.users) := by
  rw [commitLogin]
  split
  · cases isDisabled : attempt.disabled with
    | true =>
      refine .inr (.inr (.inl ⟨rfl, ?_, rfl⟩))
      rw [LoginAttempt.answer, if_pos isDisabled]
    | false =>
      refine .inr (.inl ⟨rfl, ?_, find_updated (User.failed_id attempt.time)⟩)
      rw [LoginAttempt.answer, isDisabled]
      rfl
  · next right =>
      dsimp only
      split
      · next ran =>
          simp only [insertSession, bind_eq_ok, pure_eq_ok, Prod.mk.injEq] at ran
          obtain ⟨sessions, _, _, rfl⟩ := ran
          refine .inl ⟨?_, rfl, find_updated fun user : User => (rfl : user.succeeded.id = user.id)⟩
          simpa [LoginAttempt.isRight] using right
      · exact .inr (.inr (.inr ⟨rfl, rfl⟩))

/-- Other accounts are left alone. -/
theorem find_commitLogin_other (other : userId ≠ attempt.userId) :
    (commitLogin libraries env attempt store).2.users.find userId = store.users.find userId := by
  have untouched : ∀ {change : User → User} (keepsKey : ∀ user, (change user).id = user.id),
      (store.users.update (·.id = attempt.userId) change keepsKey).find userId =
        store.users.find userId := by
    intro change keepsKey
    rw [Table.find_update]
    cases found : store.users.find userId with
    | none => rfl
    | some user =>
      obtain ⟨_, isKey⟩ := Table.find_eq_some.mp found
      have notIt : ¬user.id = attempt.userId := isKey ▸ other
      rw [Option.map_some, decide_eq_false notIt]
      rfl
  rw [commitLogin]
  split
  · dsimp only [Store.record]
    split
    · rfl
    · exact untouched (User.failed_id attempt.time)
  · dsimp only
    split
    · next ran =>
        simp only [insertSession, bind_eq_ok, pure_eq_ok, Prod.mk.injEq] at ran
        obtain ⟨sessions, _, _, rfl⟩ := ran
        exact untouched fun user : User => (rfl : user.succeeded.id = user.id)
    · rfl

/-- A login neither disables nor enables an account. -/
theorem takesPassword_commitLogin :
    (commitLogin libraries env attempt store).2.takesPassword userId =
      store.takesPassword userId := by
  by_cases other : userId = attempt.userId
  · subst other
    have mapped : ∀ {change : User → User} {later : Store},
        (∀ user, (change user).isActive = user.isActive ∧
          (change user).passwordHash = user.passwordHash) →
        later.users.find attempt.userId = (store.users.find attempt.userId).map change →
        later.takesPassword attempt.userId = store.takesPassword attempt.userId := by
      intro change later keeps found
      rw [Store.takesPassword, Store.takesPassword, found]
      cases store.users.find attempt.userId with
      | none => rfl
      | some user => simp only [Option.map_some, Option.any_some, keeps user]
    obtain ⟨_, _, found⟩ | ⟨_, _, found⟩ | ⟨_, _, users⟩ | ⟨_, users⟩ :=
      commitLogin_cases libraries env attempt store
    · exact mapped (fun user => ⟨(rfl : user.succeeded.isActive = user.isActive), rfl⟩) found
    · refine mapped (fun user => ?_) found
      rw [User.failed]
      split
      · exact ⟨rfl, rfl⟩
      · exact ⟨rfl, rfl⟩
    · rw [Store.takesPassword, users, Store.takesPassword]
    · rw [Store.takesPassword, users, Store.takesPassword]
  · rw [Store.takesPassword, find_commitLogin_other other, Store.takesPassword]

/-! ## The lock -/

/-- Every lock that was set stands, unless its time is over. -/
def Held (userId : String) (system : LoginSystem) : Prop :=
  ∀ lock ∈ system.answered, lock.userId = userId → lock.answer = .rejected true →
    (∃ call ∈ system.answered, lock.expiry ≤ call.endedAt) ∨
      ∃ user ∈ system.store.users.find userId, ∃ expiry ∈ user.lockedUntil, lock.expiry ≤ expiry

/-- The failures since the last lock are what the account says, and too few for another lock. -/
def Counted (store : Store) (userId : String) (answers : List LoginAnswer) : Prop :=
  ∀ count, failuresSince answers = some count →
    count < lockoutFailures ∧ ∃ user ∈ store.users.find userId, user.failedLogins = count

/-- Only accounts that take passwords count failures. -/
def Consistent (takesPassword : Bool) (answers : List LoginAnswer) : Prop :=
  (.refused ∈ answers → takesPassword = false) ∧
    ∀ locks, .rejected locks ∈ answers → takesPassword = true

/-- What holds of an account in every state of a run of commits that come in time. -/
structure Guarded (takesPassword : Bool) (userId : String) (system : LoginSystem) : Prop where
  account : system.store.takesPassword userId = takesPassword
  attempts : ∀ attempt ∈ system.inFlight, attempt.userId = userId →
    attempt.disabled = !takesPassword
  consistent : Consistent takesPassword (system.answersOf userId)
  counted : Counted system.store userId (system.answersOf userId)
  bounded : ∀ answers, answers <+: system.answersOf userId → ∀ count,
    failuresSince answers = some count → count < lockoutFailures
  held : Held userId system
  closed : system.answered.Pairwise fun lock session =>
    lock.userId = userId → session.userId = userId → lock.answer = .rejected true →
      session.endedAt < lock.expiry → session.answer ≠ .opened

variable {system : LoginSystem} {takesPassword : Bool} {now : Int}

/-- A commit keeps the count. -/
theorem counted_commitLogin {answers : List LoginAnswer} (counted : Counted store userId answers)
    (consistent : Consistent (!attempt.disabled) answers) (isIt : attempt.userId = userId)
    (uncounted : attempt.isRight = true → .rejected true ∈ answers →
      ∀ user ∈ store.users.find userId, user.failedLogins = 0) :
    Counted (commitLogin libraries env attempt store).2 userId
      (answers ++ [attempt.answer store (commitLogin libraries env attempt store).1]) := by
  subst isIt
  intro count isCount
  rw [failuresSince_snoc] at isCount
  obtain ⟨right, answer, found'⟩ | ⟨_, answer, found'⟩ | ⟨isDisabled, answer, users⟩ |
      ⟨answer, users⟩ := commitLogin_cases libraries env attempt store
  · rw [answer] at isCount
    obtain ⟨below, user, found, same⟩ := counted count isCount
    have zero := uncounted right (lock_of_failuresSince isCount) user found
    refine ⟨below, user.succeeded, ?_, ?_⟩
    · rw [found', found]
      rfl
    · rw [← same, zero]
      rfl
  · rw [answer] at isCount
    cases locks : store.locksNext attempt.userId with
    | true =>
      rw [locks] at isCount
      obtain rfl := Option.some.inj isCount
      obtain ⟨user, found, isLast⟩ := (Option.any_eq_true _ _).mp locks
      refine ⟨by decide, user.failed attempt.time, by rw [found', found]; rfl, ?_⟩
      rw [User.failed, if_pos (of_decide_eq_true isLast)]
    | false =>
      rw [locks] at isCount
      obtain ⟨before, isBefore, rfl⟩ := Option.map_eq_some_iff.mp isCount
      obtain ⟨_, user, found, same⟩ := counted before isBefore
      have below : ¬lockoutFailures ≤ user.failedLogins + 1 := by
        rw [Store.locksNext, found] at locks
        exact of_decide_eq_false locks
      refine ⟨by omega, user.failed attempt.time, by rw [found', found]; rfl, ?_⟩
      rw [User.failed, if_neg below, same]
  · rw [answer] at isCount
    obtain ⟨before, isBefore, _⟩ := Option.map_eq_some_iff.mp isCount
    have enabled := consistent.2 true (lock_of_failuresSince isBefore)
    rw [isDisabled] at enabled
    cases enabled
  · rw [answer] at isCount
    rw [users]
    exact counted count isCount

/-- A commit that answers with a lock sets it. -/
theorem lock_commitLogin
    (locked : attempt.answer store (commitLogin libraries env attempt store).1 = .rejected true) :
    ∃ user ∈ (commitLogin libraries env attempt store).2.users.find attempt.userId,
      user.lockedUntil = some (attempt.time + lockoutSeconds) := by
  obtain ⟨_, answer, _⟩ | ⟨_, answer, found'⟩ | ⟨_, answer, _⟩ | ⟨answer, _⟩ :=
    commitLogin_cases libraries env attempt store
  · cases answer.symm.trans locked
  · have locks := LoginAnswer.rejected.inj (answer.symm.trans locked)
    obtain ⟨user, found, isLast⟩ := (Option.any_eq_true _ _).mp locks
    refine ⟨user.failed attempt.time, by rw [found', found]; rfl, ?_⟩
    rw [User.failed, if_pos (of_decide_eq_true isLast)]
  · cases answer.symm.trans locked
  · cases answer.symm.trans locked

/-- A lock that stands is left alone or made longer by a commit in time. -/
theorem inForce_commitLogin {bound : Int} (inTime : attempt.InTime now system)
    (inForce : ∃ user ∈ system.store.users.find userId, ∃ expiry ∈ user.lockedUntil,
      bound ≤ expiry) :
    bound ≤ now ∨ ∃ user ∈ (commitLogin libraries env attempt system.store).2.users.find userId,
      ∃ expiry ∈ user.lockedUntil, bound ≤ expiry := by
  obtain ⟨user, found, expiry, isExpiry, within⟩ := inForce
  by_cases other : userId = attempt.userId
  · subst other
    obtain ⟨right, _, _⟩ | ⟨_, _, found'⟩ | ⟨_, _, users⟩ | ⟨_, users⟩ :=
      commitLogin_cases libraries env attempt system.store
    · exact .inl (within.trans (inTime.unlocked right user found expiry isExpiry))
    · have failed : user.failed attempt.time ∈
          (commitLogin libraries env attempt system.store).2.users.find attempt.userId := by
        rw [found', found]
        rfl
      by_cases isLast : lockoutFailures ≤ user.failedLogins + 1
      · have locks : system.store.locksNext attempt.userId = true := by
          rw [Store.locksNext, found]
          exact decide_eq_true isLast
        rcases inTime.lengthens locks user found expiry isExpiry with ended | longer
        · exact .inl (within.trans ended)
        · refine .inr ⟨_, failed, attempt.time + lockoutSeconds, ?_, within.trans longer⟩
          rw [User.failed, if_pos isLast]
          rfl
      · refine .inr ⟨_, failed, expiry, ?_, within⟩
        rw [User.failed, if_neg isLast]
        exact isExpiry
    · rw [users]
      exact .inr ⟨user, found, expiry, isExpiry, within⟩
    · rw [users]
      exact .inr ⟨user, found, expiry, isExpiry, within⟩
  · rw [find_commitLogin_other other]
    exact .inr ⟨user, found, expiry, isExpiry, within⟩

/-- A commit in time keeps the locks. -/
theorem held_commitLogin {inFlight : List LoginAttempt} (held : Held userId system)
    (inTime : attempt.InTime now system) :
    Held userId ⟨(commitLogin libraries env attempt system.store).2, inFlight, system.answered ++
      [attempt.ended now
        (attempt.answer system.store (commitLogin libraries env attempt system.store).1)]⟩ := by
  intro lock isLock isOf locked
  rcases List.mem_append.mp isLock with isOld | isNew
  · rcases held lock isOld isOf locked with ⟨call, isCall, ended⟩ | inForce
    · exact .inl ⟨call, List.mem_append_left _ isCall, ended⟩
    · refine (inForce_commitLogin inTime inForce).imp_left fun ended => ?_
      exact ⟨_, List.mem_append_right _ (List.mem_singleton_self _), ended⟩
  · obtain rfl := List.mem_singleton.mp isNew
    obtain ⟨user, found, isExpiry⟩ := lock_commitLogin locked
    exact .inr ⟨user, isOf ▸ found, _, isExpiry, le_refl _⟩

/-- A commit in time opens no session that a lock forbids. -/
theorem closed_commitLogin (held : Held userId system) (inTime : attempt.InTime now system)
    (isIt : attempt.userId = userId) {lock : AnsweredLogin} (isLock : lock ∈ system.answered)
    (isOf : lock.userId = userId) (locked : lock.answer = .rejected true)
    (early : now < lock.expiry) :
    attempt.answer system.store (commitLogin libraries env attempt system.store).1 ≠ .opened := by
  subst isIt
  intro opened
  obtain ⟨right, _, _⟩ | ⟨_, answer, _⟩ | ⟨_, answer, _⟩ | ⟨answer, _⟩ :=
    commitLogin_cases libraries env attempt system.store
  · rcases held lock isLock isOf locked with ⟨call, isCall, ended⟩ | inForce
    · exact absurd (ended.trans (inTime.clock call isCall)) early.not_ge
    · obtain ⟨user, found, expiry, isExpiry, within⟩ := inForce
      exact absurd (within.trans (inTime.unlocked right user found expiry isExpiry)) early.not_ge
  · cases answer.symm.trans opened
  · cases answer.symm.trans opened
  · cases answer.symm.trans opened

/-! ## Runs -/

/-- The answers after one more. -/
theorem answersOf_answered (call : AnsweredLogin) (store : Store)
    (inFlight : List LoginAttempt) :
    LoginSystem.answersOf ⟨store, inFlight, system.answered ++ [call]⟩ userId =
      system.answersOf userId ++ if call.userId = userId then [call.answer] else [] := by
  simp only [LoginSystem.answersOf, List.filter_append, List.map_append]
  congr 1
  by_cases isIt : call.userId = userId
  · rw [if_pos isIt, List.filter_singleton, decide_eq_true isIt]
    rfl
  · rw [if_neg isIt, List.filter_singleton, decide_eq_false isIt]
    rfl

theorem guarded_start (userId : String) (store : Store) :
    Guarded (store.takesPassword userId) userId { store } where
  account := rfl
  attempts _ isAttempt := nomatch isAttempt
  consistent := ⟨fun isAnswer => (nomatch isAnswer), fun _ isAnswer => (nomatch isAnswer)⟩
  counted := by
    intro count isCount
    cases isCount
  bounded := by
    intro answers isPrefix count isCount
    obtain rfl := List.prefix_nil.mp isPrefix
    cases isCount
  held _ isLock := nomatch isLock
  closed := .nil

/-- One more call ends. -/
theorem Guarded.answer (guarded : Guarded takesPassword userId system) (call : AnsweredLogin)
    {later : Store} {inFlight : List LoginAttempt}
    (account : later.takesPassword userId = system.store.takesPassword userId)
    (attempts : ∀ attempt ∈ inFlight, attempt ∈ system.inFlight)
    (consistent : call.userId = userId → Consistent takesPassword [call.answer])
    (counted : Counted later userId
      (system.answersOf userId ++ if call.userId = userId then [call.answer] else []))
    (held : Held userId ⟨later, inFlight, system.answered ++ [call]⟩)
    (closed : call.userId = userId → ∀ lock ∈ system.answered, lock.userId = userId →
      lock.answer = .rejected true → call.endedAt < lock.expiry → call.answer ≠ .opened) :
    Guarded takesPassword userId ⟨later, inFlight, system.answered ++ [call]⟩ where
  account := account.trans guarded.account
  attempts attempt isAttempt := guarded.attempts attempt (attempts attempt isAttempt)
  consistent := by
    rw [answersOf_answered]
    split
    · next isIt =>
        obtain ⟨refused, rejected⟩ := consistent isIt
        refine ⟨fun isAnswer => ?_, fun locks isAnswer => ?_⟩
        · exact (List.mem_append.mp isAnswer).elim guarded.consistent.1 refused
        · exact (List.mem_append.mp isAnswer).elim (guarded.consistent.2 locks) (rejected locks)
    · rw [List.append_nil]
      exact guarded.consistent
  counted := by
    rw [answersOf_answered]
    exact counted
  bounded := by
    rw [answersOf_answered]
    intro answers isPrefix count isCount
    split at counted
    · next isIt =>
        rw [if_pos isIt, List.prefix_concat_iff] at isPrefix
        rcases isPrefix with rfl | isPrefix
        · exact (counted count isCount).1
        · exact guarded.bounded answers isPrefix count isCount
    · next notIt =>
        rw [if_neg notIt, List.append_nil] at isPrefix
        exact guarded.bounded answers isPrefix count isCount
  held := held
  closed := by
    refine List.pairwise_append.mpr ⟨guarded.closed, List.pairwise_singleton _ _, ?_⟩
    intro lock isLock session isSession isOf isSessionOf locked early
    obtain rfl := List.mem_singleton.mp isSession
    exact closed isSessionOf lock isLock isOf locked early

/-- What the first part of a call knows of the account. -/
theorem beginLogin_cases (libraries : Libraries) (time : Int) {email : String}
    (password requestId : String) {user : User}
    (isAccount : store.accountOf (trim email) = some user) :
    (∃ attempt, beginLogin libraries time email password requestId store = .ok attempt ∧
      attempt.userId = user.id ∧ attempt.disabled = !store.takesPassword user.id ∧
      user.lockedUntil.any (time < ·) = false) ∨
    (beginLogin libraries time email password requestId store = .error .rejected ∧
      store.takesPassword user.id = false) ∨
    (beginLogin libraries time email password requestId store = .error .locked ∧
      user.lockedUntil.any (time < ·) = true) := by
  have found : store.users.find user.id = some user :=
    Table.find_eq_some.mpr ⟨List.mem_of_find?_eq_some isAccount, rfl⟩
  rw [Store.takesPassword, found, Option.any_some]
  cases hash : user.passwordHash with
  | none =>
    simp only [beginLogin, isAccount, hash]
    exact .inr (.inl ⟨trivial, Bool.and_false _⟩)
  | some stored =>
    simp only [beginLogin, isAccount, hash]
    split
    · next locked => exact .inr (.inr ⟨rfl, locked⟩)
    · next notLocked =>
        exact .inl ⟨_, rfl, rfl, congrArg (!·) (Bool.and_true _).symm,
          Bool.eq_false_iff.mpr notLocked⟩

/-- A call that ends when it reads the account changes no count and sets no lock. -/
theorem Guarded.turnedAway (guarded : Guarded takesPassword userId system)
    (call : AnsweredLogin) (isAnswer : call.answer = .locked ∨
      call.answer = .refused ∧ system.store.takesPassword call.userId = false) :
    Guarded takesPassword userId
      ⟨system.store, system.inFlight, system.answered ++ [call]⟩ := by
  have consistent : call.userId = userId → Consistent takesPassword [call.answer] := by
    intro isIt
    rcases isAnswer with locked | ⟨refused, noPassword⟩
    · rw [locked]
      exact ⟨fun isRefused => (nomatch isRefused), fun _ isRejected => (nomatch isRejected)⟩
    · rw [refused, ← guarded.account, ← isIt]
      exact ⟨fun _ => noPassword, fun _ isRejected => (nomatch isRejected)⟩
  refine guarded.answer call rfl (fun _ isAttempt => isAttempt) consistent ?_ ?_ ?_
  · intro count isCount
    split at isCount
    · next isIt =>
        rw [failuresSince_snoc] at isCount
        rcases isAnswer with locked | ⟨refused, _⟩
        · rw [locked] at isCount
          exact guarded.counted count isCount
        · rw [refused] at isCount
          obtain ⟨before, isBefore, _⟩ := Option.map_eq_some_iff.mp isCount
          have enabled := guarded.consistent.2 true (lock_of_failuresSince isBefore)
          have noPassword := (consistent isIt).1 (refused ▸ List.mem_singleton_self _)
          cases enabled.symm.trans noPassword
    · rw [List.append_nil] at isCount
      exact guarded.counted count isCount
  · intro lock isLock isOf locked
    rcases List.mem_append.mp isLock with isOld | isNew
    · refine (guarded.held lock isOld isOf locked).imp_left fun ⟨other, isOther, ended⟩ => ?_
      exact ⟨other, List.mem_append_left _ isOther, ended⟩
    · obtain rfl := List.mem_singleton.mp isNew
      rcases isAnswer with isLocked | ⟨refused, _⟩
      · cases isLocked.symm.trans locked
      · cases refused.symm.trans locked
  · intro _ lock _ _ _ _ opened
    rcases isAnswer with isLocked | ⟨refused, _⟩
    · cases isLocked.symm.trans opened
    · cases refused.symm.trans opened

theorem Guarded.read (guarded : Guarded takesPassword userId system) (time : Int)
    (email password requestId : String) :
    Guarded takesPassword userId (system.read libraries time email password requestId) := by
  rw [LoginSystem.read]
  cases isAccount : system.store.accountOf (trim email) with
  | none => exact guarded
  | some user =>
    obtain ⟨attempt, begun, isOf, isDisabled, _⟩ | ⟨begun, noPassword⟩ | ⟨begun, _⟩ :=
      beginLogin_cases libraries time password requestId isAccount
    · rw [begun]
      refine { guarded with attempts := ?_ }
      intro other isOther isOf'
      rcases List.mem_append.mp isOther with isOld | isNew
      · exact guarded.attempts other isOld isOf'
      · obtain rfl := List.mem_singleton.mp isNew
        rw [isDisabled, ← guarded.account, ← isOf', isOf]
    · rw [begun]
      exact guarded.turnedAway ⟨user.id, time, time, .refused⟩ (.inr ⟨rfl, noPassword⟩)
    · rw [begun]
      exact guarded.turnedAway ⟨user.id, time, time, .locked⟩ (.inl rfl)

theorem consistent_commitLogin : Consistent (!attempt.disabled)
    [attempt.answer store (commitLogin libraries env attempt store).1] := by
  obtain ⟨_, answer, _⟩ | ⟨enabled, answer, _⟩ | ⟨isDisabled, answer, _⟩ | ⟨answer, _⟩ :=
    commitLogin_cases libraries env attempt store
  · rw [answer]
    exact ⟨fun isRefused => (nomatch isRefused), fun _ isRejected => (nomatch isRejected)⟩
  · rw [answer, enabled]
    exact ⟨fun isRefused => (nomatch isRefused), fun _ _ => rfl⟩
  · rw [answer, isDisabled]
    exact ⟨fun _ => rfl, fun _ isRejected => (nomatch isRejected)⟩
  · rw [answer]
    exact ⟨fun isRefused => (nomatch isRefused), fun _ isRejected => (nomatch isRejected)⟩

theorem Guarded.commit (guarded : Guarded takesPassword userId system) {index : Nat}
    (allowed : system.Allows (.commit index env)) :
    Guarded takesPassword userId (system.commit libraries index env) := by
  rw [LoginSystem.commit]
  cases isAttempt : system.inFlight[index]? with
  | none => exact guarded
  | some attempt =>
    have inTime := allowed attempt isAttempt
    have isDisabled := guarded.attempts attempt (List.mem_of_getElem? isAttempt)
    have counted : Counted (commitLogin libraries env attempt system.store).2 userId
        (system.answersOf userId ++ if attempt.userId = userId then
          [attempt.answer system.store
            (commitLogin libraries env attempt system.store).1] else []) := by
      split
      · next isIt =>
          refine counted_commitLogin guarded.counted ?_ isIt ?_
          · rw [isDisabled isIt, Bool.not_not]
            exact guarded.consistent
          · intro right isLock user found
            exact inTime.uncounted right (isIt ▸ isLock) user (isIt ▸ found)
      · next notIt =>
          rw [List.append_nil, Counted, find_commitLogin_other (Ne.symm notIt)]
          exact guarded.counted
    refine guarded.answer (attempt.ended (env.now 0) (attempt.answer system.store
      (commitLogin libraries env attempt system.store).1)) takesPassword_commitLogin
      (fun other isOther => List.mem_of_mem_eraseIdx isOther) ?_ counted
      (held_commitLogin guarded.held inTime) fun isIt lock isLock isOf locked early =>
        closed_commitLogin guarded.held inTime isIt isLock isOf locked early
    intro isIt
    rw [← Bool.not_not takesPassword, ← isDisabled isIt]
    exact consistent_commitLogin

theorem Guarded.step (guarded : Guarded takesPassword userId system) {event : LoginEvent}
    (allowed : system.Allows event) :
    Guarded takesPassword userId (system.step libraries event) := by
  cases event with
  | read time email password requestId => exact guarded.read time email password requestId
  | commit index env => exact guarded.commit allowed

/-- The lockout of an account holds where no commit should have been stopped. -/
theorem Guarded.lockoutHolds (guarded : Guarded takesPassword userId system) :
    system.LockoutHolds libraries userId where
  closed := guarded.closed
  inForce := by
    intro lock isLock isOf locked notOver time email password requestId user isAccount isIt early
    subst isIt
    have enabled : system.store.takesPassword user.id = true := by
      refine guarded.account.trans (guarded.consistent.2 true ?_)
      exact List.mem_map.mpr ⟨lock, List.mem_filter.mpr ⟨isLock, decide_eq_true isOf⟩, locked⟩
    have found : system.store.users.find user.id = some user :=
      Table.find_eq_some.mpr ⟨List.mem_of_find?_eq_some isAccount, rfl⟩
    rcases guarded.held lock isLock isOf locked with ⟨call, isCall, ended⟩ | inForce
    · exact absurd ended (notOver call isCall).not_ge
    · obtain ⟨other, isOther, expiry, isExpiry, within⟩ := inForce
      obtain rfl := Option.some.inj (found.symm.trans isOther)
      have standing : user.lockedUntil.any (time < ·) = true := by
        rw [isExpiry]
        exact decide_eq_true (early.trans_le within)
      obtain ⟨_, _, _, _, notLocked⟩ | ⟨_, noPassword⟩ | ⟨begun, _⟩ :=
        beginLogin_cases libraries time password requestId isAccount
      · cases standing.symm.trans notLocked
      · cases enabled.symm.trans noPassword
      · exact begun
  bounded := by
    intro earlier between later answers noLock
    have isPrefix : earlier ++ .rejected true :: between <+: system.answersOf userId := by
      rw [answers]
      exact ⟨.rejected true :: later, by simp⟩
    exact guarded.bounded _ isPrefix _ (failuresSince_between noLock)

end

/-- In a run whose commits come in time every lock holds until it expires, and from one lock to
the next no more wrong passwords are rejected than set it. -/
theorem lockout_holds_of_inTime {libraries : Libraries} {store : Store} {events : List LoginEvent}
    {system : LoginSystem}
    (run : Trace (fun before event next =>
      before.Allows event ∧ next = LoginSystem.step libraries before event) { store } events
      system) (userId : String) : system.LockoutHolds libraries userId := by
  have guarded : Guarded (store.takesPassword userId) userId system := by
    refine run.invariant (Guarded _ userId) (guarded_start userId store) ?_
    rintro before event after ⟨allowed, stepped⟩ guarded
    rw [stepped]
    exact guarded.step allowed
  exact guarded.lockoutHolds

/-! ## Parallel guessing -/

namespace ParallelGuessing

/-- The digest of the session token, and a password hash that shows the password. -/
def libraries : Libraries where
  sha256 bytes :=
    if bytes = utf8 "mss_s_AgICAgICAgICAgICAgICAgICAgICAgICAgICAgICAgI" then
      #v[22, 16, 150, 24, 122, 161, 190, 141, 113, 96, 13, 200, 197, 247, 209, 149,
        196, 181, 9, 26, 102, 229, 134, 91, 150, 186, 191, 124, 27, 245, 19, 112]
    else .zero
  argon2 password _ := .ok ("$argon2id$" ++ password)
  verifiesArgon2 password stored := stored = "$argon2id$" ++ password
  jsonText _ := ""
  jsonOf _ := .error ""
  debugText text := text
  base64Url := base64OfEqual

def environment (time : Int) : Environment where
  now _ := time
  id _ := .replicate 12 0
  token _ := .replicate 32 2
  salt := .replicate 16 0

def userId : String := "usr_AAAAAAAAAAAAAAAA"

/-- An account with a password. -/
def store : Store :=
  (bootstrapAdministrator libraries (environment 0) "admin@msp.example" "Admin"
    "correct horse battery" {}).2

def read (time : Int) (password : String) : LoginEvent :=
  .read time "admin@msp.example" password "req_AAAAAAAAAAAAAAAA"

def commit (time : Int) : LoginEvent := .commit 0 (environment time)

/-- A call that nothing comes between. -/
def login (time : Int) (password : String) : List LoginEvent := [read time password, commit time]

/-- Ten wrong passwords are read before the first call commits; then the right one follows twice,
while the account is locked and when it no longer is. -/
def guessed : List LoginEvent :=
  List.replicate 10 (read 0 "wrong") ++ List.replicate 10 (commit 1) ++
    [read 2 "correct horse battery"] ++ login 900 "correct horse battery"

def after (events : List LoginEvent) : LoginSystem :=
  events.foldl (LoginSystem.step libraries) { store }

/-- Five wrong passwords and the right one are read, then the calls commit. -/
def overtaken : List LoginEvent :=
  List.replicate 5 (read 0 "wrong") ++ [read 0 "correct horse battery"] ++
    List.replicate 6 (commit 1)

/-- Five wrong passwords lock the account; when the lock is over, four wrong passwords, the
right one and five wrong ones follow. -/
def resumed : List LoginEvent :=
  (List.replicate 5 (login 0 "wrong")).flatten ++ (List.replicate 4 (login 1000 "wrong")).flatten ++
    login 1000 "correct horse battery" ++ (List.replicate 5 (login 1000 "wrong")).flatten

end ParallelGuessing

/-- Ten guesses in parallel lock the account twice, the right password is locked out, and opens
a session when the second lock is over. -/
theorem guesses_bounded :
    ∃ system : LoginSystem,
      system.answersOf ParallelGuessing.userId =
        List.replicate 4 (.rejected false) ++ .rejected true ::
          (List.replicate 4 (.rejected false) ++ .rejected true :: [.locked, .opened]) ∧
      system.LockoutHolds ParallelGuessing.libraries ParallelGuessing.userId := by
  have allowed : Trace.allowedAlong (LoginSystem.step ParallelGuessing.libraries)
      (fun system event => decide (system.Allows event)) { store := ParallelGuessing.store }
      ParallelGuessing.guessed = true := by decide +kernel
  have run : Trace (fun before event next => before.Allows event ∧
      next = LoginSystem.step ParallelGuessing.libraries before event) _ ParallelGuessing.guessed
      (ParallelGuessing.after ParallelGuessing.guessed) :=
    (Trace.of_allowedAlong allowed).weaken fun step => step.imp_left of_decide_eq_true
  exact ⟨ParallelGuessing.after ParallelGuessing.guessed, by decide +kernel,
    lockout_holds_of_inTime run ParallelGuessing.userId⟩

/-- A call that read the account before the lock opens a session while the account is locked,
and a success starts the count anew. -/
theorem lock_overtaken_and_count_restarted :
    (¬∀ (libraries : Libraries) (store : Store) (events : List LoginEvent)
      (system : LoginSystem) (earlier between later : List AnsweredLogin)
      (lock session : AnsweredLogin), LoginSystem.Runs libraries store events system →
      system.answered = earlier ++ lock :: (between ++ session :: later) →
      lock.userId = session.userId → lock.answer = .rejected true →
      lock.endedAt < lock.expiry → session.endedAt < lock.expiry →
      session.answer ≠ .opened) ∧
    ¬∀ (libraries : Libraries) (store : Store) (events : List LoginEvent)
      (system : LoginSystem) (userId : String) (earlier between later : List LoginAnswer),
      LoginSystem.Runs libraries store events system →
      system.answersOf userId = earlier ++ .rejected true :: (between ++ .rejected true :: later) →
      .rejected true ∉ between → between.count (.rejected false) + 1 ≤ lockoutFailures := by
  constructor
  · intro holds
    have answered : (ParallelGuessing.after ParallelGuessing.overtaken).answered =
        List.replicate 4 ⟨ParallelGuessing.userId, 0, 1, .rejected false⟩ ++
          ⟨ParallelGuessing.userId, 0, 1, .rejected true⟩ ::
            ([] ++ [⟨ParallelGuessing.userId, 0, 1, .opened⟩]) := by
      decide +kernel
    exact holds _ _ _ _ _ _ _ _ _ (Trace.of_foldl _ _) answered rfl rfl (by decide) (by decide) rfl
  · intro holds
    have answers : (ParallelGuessing.after ParallelGuessing.resumed).answersOf
        ParallelGuessing.userId =
        List.replicate 4 (.rejected false) ++ .rejected true ::
          ((List.replicate 4 (.rejected false) ++ .opened :: List.replicate 4 (.rejected false)) ++
            [.rejected true]) := by
      decide +kernel
    have bound := holds _ _ _ _ _ _ _ _ (Trace.of_foldl _ _) answers (by decide)
    exact absurd bound (by decide)

end MailSwiftSync.Control
