import MailSwiftSync.Control.Api
import MailSwiftSync.Foundation.Transition

/-!
# The last administrator

Requests that manage users first resolve their caller and its permission, and run their
operation in a later step.  Removing a grant counts the administrators that remain in its own
transaction; disabling a user relies on the caller, who is not the target, still being one.
-/

namespace MailSwiftSync.Control

open Foundation

/-! ## Requests in two steps -/

/-- The requests that manage users, with their decoded bodies. -/
inductive UserRequest where
  | createUser (email displayName : String) (password : Option String)
  | disableUser (userId : String)
  | addGrant (userId : String) (role : Role) (tenant : Option String)
  | removeGrant (userId : String) (role : Role) (tenant : Option String)

/-- The caller, when it may administer the service. -/
def Call.administrator (call : Call) (action resource : String) : Handler Principal := do
  let principal ← call.principal
  call.require principal .serviceAdmin none action resource
  return principal

namespace UserRequest

/-- The first step: the caller and its permission. -/
def check (call : Call) : UserRequest → Handler Principal
  | .createUser _ _ _ => call.administrator "user.create" "user"
  | .disableUser userId => call.checkDisableUser userId
  | .addGrant userId _ _ => call.administrator "grant.add" ("user:" ++ userId)
  | .removeGrant userId _ _ => call.administrator "grant.remove" ("user:" ++ userId)

/-- The second step: the store after the operation. -/
def run (call : Call) (principal : Principal) : UserRequest → Store → Store
  | .createUser email displayName password, store =>
    (Control.createUser call.libraries (call.env 2) email displayName password
      (call.actor principal) store).2
  | .disableUser userId, store =>
    (Control.disableUser call.libraries (call.env 2) userId (call.actor principal) store).2
  | .addGrant userId role tenant, store =>
    (Control.addGrant call.libraries (call.env 2) userId role tenant
      (call.actor principal) store).2
  | .removeGrant userId role tenant, store =>
    (Control.removeGrant call.libraries (call.env 2) userId role tenant
      (call.actor principal) store).2

end UserRequest

/-- A request past its checks. -/
structure WaitingRequest where
  call : Call
  request : UserRequest
  principal : Principal

/-- The store and the requests past their checks. -/
structure UserSystem where
  store : Store
  waiting : List WaitingRequest := []

/-- Steps of the service. -/
inductive UserEvent where
  | signIn (call : Call)
  | check (call : Call) (request : UserRequest)
  | run (index : Nat)

namespace UserSystem

def step (system : UserSystem) : UserEvent → UserSystem
  | .signIn call => { system with store := (call.login system.store).2 }
  | .check call request =>
    match request.check call system.store with
    | (.ok principal, store) =>
      { store, waiting := system.waiting ++ [{ call, request, principal }] }
    | (.error _, store) => { system with store }
  | .run index =>
    match system.waiting[index]? with
    | some waiting =>
      { store := waiting.request.run waiting.call waiting.principal system.store
        waiting := system.waiting.eraseIdx index }
    | none => system

end UserSystem

/-! ## What keeps administrators -/

namespace Store

/-- Some user holds the administrator role and is not disabled. -/
def HasAdministrator (store : Store) : Prop := store.activeAdministrators ≠ []

instance (store : Store) : Decidable store.HasAdministrator :=
  inferInstanceAs (Decidable (store.activeAdministrators ≠ []))

/-- Some user other than a given one holds the administrator role and is not disabled. -/
def HasOtherAdministrator (store : Store) (userId : String) : Prop :=
  ∃ grant ∈ store.activeAdministrators, grant.userId ≠ userId

instance (store : Store) (userId : String) : Decidable (store.HasOtherAdministrator userId) :=
  inferInstanceAs (Decidable (∃ grant ∈ store.activeAdministrators, _))

theorem hasActiveUser_iff {store : Store} {userId : String} :
    store.hasActiveUser userId = true ↔
      ∃ user ∈ store.users, user.id = userId ∧ user.disabledAt = none := by
  simp only [hasActiveUser, Table.any_eq_true, Bool.and_eq_true, decide_eq_true_eq,
    User.isActive]

theorem mem_activeAdministrators {store : Store} {grant : RoleGrant} :
    grant ∈ store.activeAdministrators ↔
      grant ∈ store.grants ∧ grant.role = .administrator ∧
        store.hasActiveUser grant.userId = true := by
  simp only [activeAdministrators, Table.mem_select, Bool.and_eq_true, decide_eq_true_eq]

theorem hasAdministrator_iff {store : Store} :
    store.HasAdministrator ↔ ∃ grant, grant ∈ store.activeAdministrators := by
  constructor
  · intro isNonempty
    exact List.exists_mem_of_ne_nil _ isNonempty
  · intro ⟨grant, isGrant⟩
    exact List.ne_nil_of_mem isGrant

/-- The same grants and the same active users. -/
def SameStaff (store later : Store) : Prop :=
  later.grants = store.grants ∧
    ∀ userId, later.hasActiveUser userId = store.hasActiveUser userId

instance : IsPreorder Store SameStaff where
  refl _ := ⟨rfl, fun _ => rfl⟩
  trans _ _ _ first second :=
    ⟨second.1.trans first.1, fun userId => (second.2 userId).trans (first.2 userId)⟩

theorem SameStaff.activeAdministrators {store later : Store} (same : SameStaff store later) :
    later.activeAdministrators = store.activeAdministrators := by
  simp only [Store.activeAdministrators, same.1, same.2]

/-- A rewriting of accounts that disables none and enables none. -/
theorem sameStaff_update {store later : Store} {condition : User → Bool} (change : User → User)
    (keepsKey : ∀ user, (change user).id = user.id) (sameGrants : later.grants = store.grants)
    (updated : later.users = store.users.update condition change keepsKey)
    (keepsDisabled : ∀ user, (change user).disabledAt = user.disabledAt) :
    SameStaff store later := by
  refine ⟨sameGrants, fun userId => ?_⟩
  simp only [hasActiveUser, updated, Table.any, Table.update, List.any_map]
  congr 1
  funext user
  simp only [Function.comp, User.isActive]
  split
  · rw [keepsKey, keepsDisabled]
  · rfl

end Store

section

variable {libraries : Libraries} {env : Environment} {call : Call}

open Store (SameStaff)

theorem sameStaff_commitLogin (attempt : LoginAttempt) :
    Effect.Keeps SameStaff (commitLogin libraries env attempt) := by
  intro store
  rw [commitLogin]
  split
  · cases attempt.disabled with
    | true => exact ⟨rfl, fun _ => rfl⟩
    | false =>
      refine Store.sameStaff_update (User.failed attempt.time) (User.failed_id attempt.time)
        rfl rfl fun user => ?_
      rw [User.failed]
      split
      · rfl
      · rfl
  · dsimp only
    split
    · next ran =>
        simp only [insertSession, bind_eq_ok, pure_eq_ok, Prod.mk.injEq] at ran
        obtain ⟨sessions, _, _, rfl⟩ := ran
        exact Store.sameStaff_update User.succeeded (fun _ => rfl) rfl rfl fun _ => rfl
    · exact refl_of SameStaff store

theorem sameStaff_body {α : Type} (decode : List UInt8 → Except String α) :
    Effect.Keeps SameStaff (call.body decode) :=
  .bind (.ofExcept _) fun _ => .ofExcept _

theorem sameStaff_signIn : Effect.Keeps SameStaff call.login :=
  .bind (sameStaff_body _) fun _ =>
    .bind (.mapError (.bind (.reading _) fun attempt => sameStaff_commitLogin attempt) _)
      fun _ => .pure _

theorem sameStaff_principal : Effect.Keeps SameStaff call.principal :=
  .bind (.ofExcept _) fun _ =>
    .bind (.mapError (fun _ => ⟨rfl, fun _ => rfl⟩) _) fun _ => .ofExcept _

theorem sameStaff_require (principal : Principal) (permission : Permission)
    (tenant : Option String) (action resource : String) :
    Effect.Keeps SameStaff (call.require principal permission tenant action resource) := by
  rw [Call.require]
  split
  · exact .pure _
  · exact .bind (fun _ => ⟨rfl, fun _ => rfl⟩) fun _ => .ofExcept _

theorem sameStaff_administrator (action resource : String) :
    Effect.Keeps SameStaff (call.administrator action resource) :=
  .bind sameStaff_principal fun _ => .bind (sameStaff_require _ _ _ _ _) fun _ => .pure _

theorem sameStaff_check (request : UserRequest) :
    Effect.Keeps SameStaff (request.check call) := by
  cases request with
  | createUser email displayName password => exact sameStaff_administrator _ _
  | disableUser userId =>
    exact .bind sameStaff_principal fun _ => .bind (sameStaff_require _ _ _ _ _) fun _ =>
      .bind (.ofExcept _) fun _ => .pure _
  | addGrant userId role tenant => exact sameStaff_administrator _ _
  | removeGrant userId role tenant => exact sameStaff_administrator _ _

/-! ## Operations -/

/-- An operation that keeps administrators. -/
def Retains (store later : Store) : Prop := store.HasAdministrator → later.HasAdministrator

instance : IsPreorder Store Retains where
  refl _ := id
  trans _ _ _ first second := second ∘ first

theorem retains_of_sameStaff {store later : Store} (same : SameStaff store later) :
    Retains store later := by
  intro hasAdministrator
  rwa [Store.HasAdministrator, same.activeAdministrators]

theorem retains_record (store : Store) (entry : AuditEntry) :
    Retains store (store.record libraries entry) :=
  retains_of_sameStaff ⟨rfl, fun _ => rfl⟩

theorem retains_createUser (email displayName : String) (password : Option String)
    (actor : Actor) :
    Effect.Keeps Retains (createUser libraries env email displayName password actor) := by
  refine .bind (.ofExcept _) fun email => .bind (.ofExcept _) fun displayName =>
    .bind (.ofExcept _) fun hash =>
      .bind (keeps_mutate libraries retains_record ?_) fun _ => .pure _
  intro store value changed accepted hasAdministrator
  simp only [bind_eq_ok, pure_eq_ok, Prod.mk.injEq, insertRow_eq_ok] at accepted
  obtain ⟨users, ⟨_, inserted⟩, _, rfl⟩ := accepted
  obtain ⟨grant, isGrant⟩ := Store.hasAdministrator_iff.mp hasAdministrator
  obtain ⟨isGrant, isAdministrator, active⟩ := Store.mem_activeAdministrators.mp isGrant
  obtain ⟨user, isUser, isOwner⟩ := Store.hasActiveUser_iff.mp active
  exact Store.hasAdministrator_iff.mpr ⟨grant, Store.mem_activeAdministrators.mpr ⟨isGrant,
    isAdministrator, Store.hasActiveUser_iff.mpr
      ⟨user, (Table.mem_insert inserted).mpr (.inl isUser), isOwner⟩⟩⟩

theorem retains_addGrant (userId : String) (role : Role) (tenant : Option String)
    (actor : Actor) :
    Effect.Keeps Retains (addGrant libraries env userId role tenant actor) := by
  refine .bind (.ofExcept _) fun _ => keeps_mutate libraries retains_record ?_
  intro store value changed accepted hasAdministrator
  simp only [Store.addGrant, bind_eq_ok, pure_eq_ok, Prod.mk.injEq, insertRow_eq_ok] at accepted
  obtain ⟨_, _, grants, ⟨_, inserted⟩, _, rfl⟩ := accepted
  obtain ⟨grant, isGrant⟩ := Store.hasAdministrator_iff.mp hasAdministrator
  obtain ⟨isGrant, isAdministrator, active⟩ := Store.mem_activeAdministrators.mp isGrant
  exact Store.hasAdministrator_iff.mpr ⟨grant, Store.mem_activeAdministrators.mpr
    ⟨(Table.mem_insert inserted).mpr (.inl isGrant), isAdministrator, active⟩⟩

/-- Removing an administrator grant counts what remains; another role does not matter. -/
theorem retains_removeGrant (userId : String) (role : Role) (tenant : Option String)
    (actor : Actor) :
    Effect.Keeps Retains (removeGrant libraries env userId role tenant actor) := by
  refine keeps_mutate libraries retains_record ?_
  intro store value changed accepted hasAdministrator
  simp only [Store.removeGrant, bind_eq_ok, pure_eq_ok, Prod.mk.injEq, ensure_eq_ok,
    Bool.or_eq_true, decide_eq_true_eq, Bool.not_eq_true', List.isEmpty_eq_false_iff] at accepted
  obtain ⟨_, _, _, remaining, _, rfl⟩ := accepted
  refine remaining.elim (fun notAdministrator => ?_) id
  obtain ⟨grant, isGrant⟩ := Store.hasAdministrator_iff.mp hasAdministrator
  obtain ⟨isGrant, isAdministrator, active⟩ := Store.mem_activeAdministrators.mp isGrant
  refine Store.hasAdministrator_iff.mpr ⟨grant, Store.mem_activeAdministrators.mpr
    ⟨Table.mem_delete.mpr ⟨isGrant, ?_⟩, isAdministrator, active⟩⟩
  rw [decide_eq_false_iff_not]
  intro removed
  have isRole : grant.role = role := congrArg (·.2.1) removed
  exact notAdministrator (isRole.symm.trans isAdministrator)

/-- Disabling a user keeps the other administrators. -/
theorem hasAdministrator_disableUser {userId : String} {actor : Actor} {store : Store}
    (other : store.HasOtherAdministrator userId) :
    (disableUser libraries env userId actor store).2.HasAdministrator := by
  obtain ⟨grant, isGrant, different⟩ := other
  obtain ⟨isGrant, isAdministrator, active⟩ := Store.mem_activeAdministrators.mp isGrant
  rw [disableUser, mutate]
  split
  · next ran =>
      simp only [Store.disableUser, bind_eq_ok, pure_eq_ok, Prod.mk.injEq] at ran
      obtain ⟨_, _, _, rfl⟩ := ran
      refine Store.hasAdministrator_iff.mpr ⟨grant, Store.mem_activeAdministrators.mpr
        ⟨isGrant, isAdministrator, ?_⟩⟩
      obtain ⟨user, isUser, isOwner, enabled⟩ := Store.hasActiveUser_iff.mp active
      have untouched : (user.id = userId && user.isActive) = false := by
        simp [isOwner, different]
      have stays : user ∈ store.users.update (fun user => user.id = userId && user.isActive)
          (User.disabled (env.now 0)) :=
        Table.mem_update_of_untouched (by intro _; rfl) isUser untouched
      exact Store.hasActiveUser_iff.mpr ⟨user, stays, isOwner, enabled⟩
  · exact Store.hasAdministrator_iff.mpr ⟨grant, Store.mem_activeAdministrators.mpr
      ⟨isGrant, isAdministrator, active⟩⟩

/-! ## Runs -/

/-- The user a request disables. -/
def UserRequest.target : UserRequest → Option String
  | .disableUser userId => some userId
  | _ => none

/-- When the operation of a request runs that disables a user, the user is not the only active
administrator. -/
def UserSystem.sparesLastAdministrator (system : UserSystem) : UserEvent → Bool
  | .run index => system.waiting[index]?.all fun waiting =>
    waiting.request.target.all fun userId => system.store.HasOtherAdministrator userId
  | _ => true

/-- A step of the service that spares the last administrator. -/
def SparingStep (system : UserSystem) (event : UserEvent) (next : UserSystem) : Prop :=
  system.sparesLastAdministrator event = true ∧ next = system.step event

theorem SparingStep.hasAdministrator {system next : UserSystem} {event : UserEvent}
    (stepped : SparingStep system event next) (had : system.store.HasAdministrator) :
    next.store.HasAdministrator := by
  obtain ⟨spares, rfl⟩ := stepped
  cases event with
  | signIn call => exact retains_of_sameStaff (sameStaff_signIn system.store) had
  | check call request =>
    have same : SameStaff system.store (request.check call system.store).2 :=
      sameStaff_check request system.store
    simp only [UserSystem.step]
    split
    · next checked =>
        rw [checked] at same
        exact retains_of_sameStaff same had
    · next checked =>
        rw [checked] at same
        exact retains_of_sameStaff same had
  | run index =>
    simp only [UserSystem.step]
    split
    · next waiting isWaiting =>
        cases isRequest : waiting.request with
        | createUser email displayName password =>
          exact retains_createUser email displayName password _ system.store had
        | disableUser userId =>
          rw [UserSystem.sparesLastAdministrator, isWaiting] at spares
          simp only [Option.all_some, isRequest, UserRequest.target, decide_eq_true_eq]
            at spares
          exact hasAdministrator_disableUser spares
        | addGrant userId role tenant =>
          exact retains_addGrant userId role tenant _ system.store had
        | removeGrant userId role tenant =>
          exact retains_removeGrant userId role tenant _ system.store had
    · exact had

/-- The store after the bootstrap has an administrator. -/
theorem hasAdministrator_bootstrap {email displayName password id : String} {store : Store}
    (bootstrapped : bootstrapAdministrator libraries env email displayName password {} =
      (.ok id, store)) : store.HasAdministrator := by
  simp only [bootstrapAdministrator, Effect.bind_eq_ok, Effect.ofExcept_eq_ok,
    Effect.transact_eq_ok, bind_eq_ok, pure_eq_ok, insertRow_eq_ok, Prod.mk.injEq]
    at bootstrapped
  obtain ⟨email, _, _, displayName, _, _, hash, _, _, _, _, users, ⟨_, insertedUser⟩, grants,
    ⟨_, insertedGrant⟩, rfl, rfl⟩ := bootstrapped
  refine Store.hasAdministrator_iff.mpr ⟨_, Store.mem_activeAdministrators.mpr
    ⟨(Table.mem_insert insertedGrant).mpr (.inr rfl), rfl, Store.hasActiveUser_iff.mpr
      ⟨_, (Table.mem_insert insertedUser).mpr (.inr rfl), rfl, rfl⟩⟩⟩

/-- In every run that spares the last administrator, somebody active stays administrator. -/
theorem administrator_stays {email displayName password id : String} {store : Store}
    (bootstrapped : bootstrapAdministrator libraries env email displayName password {} =
      (.ok id, store)) {events : List UserEvent} {system : UserSystem}
    (run : Trace SparingStep { store } events system) : system.store.HasAdministrator :=
  run.invariant (fun system => system.store.HasAdministrator)
    (hasAdministrator_bootstrap bootstrapped) SparingStep.hasAdministrator

end

/-! ## Two administrators disable each other -/

namespace TwoAdministrators

def firstToken : String := "mss_s_AAAAAAAAAAAAAAAAAAAAAAAAAAAAAAAAAAAAAAAAAAA"

def secondToken : String := "mss_s_AQEBAQEBAQEBAQEBAQEBAQEBAQEBAQEBAQEBAQEBAQE"

/-- The digests of the two session tokens, and a password hash that shows the password. -/
def libraries : Libraries where
  sha256 bytes :=
    if bytes = utf8 firstToken then
      #v[248, 29, 24, 1, 191, 37, 150, 189, 210, 37, 151, 155, 68, 73, 150, 209,
        159, 89, 115, 225, 175, 2, 94, 24, 182, 69, 82, 16, 61, 45, 229, 56]
    else if bytes = utf8 secondToken then
      #v[243, 39, 36, 244, 48, 69, 55, 220, 224, 174, 242, 207, 140, 209, 93, 149,
        220, 75, 107, 148, 127, 240, 201, 239, 32, 28, 56, 221, 179, 155, 220, 34]
    else .zero
  argon2 password _ := .ok ("$argon2id$" ++ password)
  verifiesArgon2 password stored := stored = "$argon2id$" ++ password
  jsonText _ := ""
  jsonOf _ := .error ""
  debugText text := text
  base64Url := base64OfEqual

def firstLogin : LoginBody where
  email := "admin@msp.example"
  password := "correct horse battery"

def secondLogin : LoginBody where
  email := "second@msp.example"
  password := "staple horse battery"

def loginText (body : LoginBody) : List UInt8 :=
  utf8 ("\x7b\"email\":\"" ++ body.email ++ "\",\"password\":\"" ++ body.password ++ "\"\x7d")

/-- Decoders that know the two logins. -/
def decoders : Decoders where
  loginBody bytes :=
    if bytes = loginText firstLogin then .ok firstLogin
    else if bytes = loginText secondLogin then .ok secondLogin
    else .error ""

/-- A draw of random bytes, at the start of a year. -/
def environment (draw : UInt8) : Environment where
  now _ := 1767225600
  id _ := .replicate 12 draw
  token _ := .replicate 32 draw
  salt := .replicate 16 draw

def call (authorization : Option String) (body : List UInt8) (draw : UInt8) : Call where
  libraries := libraries
  decoders := decoders
  request := {
    authorization
    contentType := some "application/json"
    body }
  requestId := "req_AAAAAAAAAAAAAAAA"
  env _ := environment draw

def firstId : String := "usr_AAAAAAAAAAAAAAAA"

def secondId : String := "usr_AQEBAQEBAQEBAQEB"

/-- The store after the bootstrap. -/
def bootstrapped : Store :=
  (bootstrapAdministrator libraries (environment 0) firstLogin.email "Admin"
    firstLogin.password {}).2

theorem isBootstrapped :
    bootstrapAdministrator libraries (environment 0) firstLogin.email "Admin"
      firstLogin.password {} = (.ok firstId, bootstrapped) :=
  Prod.ext (by decide +kernel) rfl

/-- The first administrator makes a second one; then the request of each to disable the other
passes its checks before either runs. -/
def events : List UserEvent :=
  [.signIn (call none (loginText firstLogin) 0),
    .check (call (some ("Bearer " ++ firstToken)) [] 1)
      (.createUser secondLogin.email "Second" (some secondLogin.password)),
    .run 0,
    .check (call (some ("Bearer " ++ firstToken)) [] 1) (.addGrant secondId .administrator none),
    .run 0,
    .signIn (call none (loginText secondLogin) 1),
    .check (call (some ("Bearer " ++ firstToken)) [] 2) (.disableUser secondId),
    .check (call (some ("Bearer " ++ secondToken)) [] 2) (.disableUser firstId),
    .run 0,
    .run 0]

/-- The states of the run. -/
def after (steps : Nat) : UserSystem :=
  (events.take steps).foldl UserSystem.step { store := bootstrapped }

end TwoAdministrators

/-- After the first of the two requests, the first administrator is left. -/
theorem first_administrator_stays : (TwoAdministrators.after 9).store.HasAdministrator :=
  administrator_stays TwoAdministrators.isBootstrapped
    (Trace.of_allowedAlong (by decide +kernel))

/-- Two administrators who disable each other leave none. -/
theorem last_administrator_disabled :
    ¬∀ (libraries : Libraries) (env : Environment) (email displayName password id : String)
      (store : Store) (events : List UserEvent) (system : UserSystem),
      bootstrapAdministrator libraries env email displayName password {} = (.ok id, store) →
      Trace (fun before event next => next = UserSystem.step before event) { store } events
        system → system.store.HasAdministrator := by
  intro stays
  have none : ¬(TwoAdministrators.after 10).store.HasAdministrator := by decide +kernel
  exact none (stays _ _ _ _ _ _ _ _ _ TwoAdministrators.isBootstrapped (Trace.of_foldl _ _))

end MailSwiftSync.Control
