import MailSwiftSync.Control.Store

/-!
# Users, sessions, grants, tenants and API keys
-/

namespace MailSwiftSync.Control

open Foundation

def sessionSeconds : Int := 12 * 60 * 60

def maxApiKeyDays : Int := 365

def lockoutFailures : Nat := 5

def lockoutSeconds : Int := 15 * 60

/-! ## Rows -/

namespace User

def isActive (user : User) : Bool := user.disabledAt = none

/-- After a wrong password: one more failure, or the lock. -/
def failed (time : Int) (user : User) : User :=
  if lockoutFailures ≤ user.failedLogins + 1 then
    { user with lockedUntil := some (time + lockoutSeconds), failedLogins := 0 }
  else { user with failedLogins := user.failedLogins + 1 }

/-- After the right password. -/
def succeeded (user : User) : User := { user with failedLogins := 0, lockedUntil := none }

def disabled (time : Int) (user : User) : User := { user with disabledAt := some time }

@[simp] theorem failed_id (time : Int) (user : User) : (user.failed time).id = user.id := by
  rw [failed]
  split
  · rfl
  · rfl

end User

def Session.revoked (time : Int) (session : Session) : Session :=
  { session with revokedAt := some time }

def ApiKey.revoked (time : Int) (key : ApiKey) : ApiKey := { key with revokedAt := some time }

def ApiKey.used (time : Int) (key : ApiKey) : ApiKey := { key with lastUsedAt := some time }

/-- The order of a nullable column. -/
def nullsFirst : Option String → Option String → Bool
  | none, _ => true
  | some _, none => false
  | some first, some second => first ≤ second

/-- `ORDER BY role,tenant_id`. -/
def RoleGrant.sortsBefore (grant other : RoleGrant) : Bool :=
  grant.role.asStr < other.role.asStr ||
    (grant.role = other.role && nullsFirst grant.tenant other.tenant)

def RoleGrant.grant (grant : RoleGrant) : Grant where
  role := grant.role
  tenant := grant.tenant

namespace Store

variable (store : Store)

def hasUser (userId : String) : Bool := store.users.any fun user => user.id = userId

def hasActiveUser (userId : String) : Bool :=
  store.users.any fun user => user.id = userId && user.isActive

def hasTenant (tenant : String) : Bool := store.tenants.any fun row => row.id = tenant

def grantsOf (userId : String) : List Grant :=
  ((store.grants.select fun grant => grant.userId = userId).mergeSort
    RoleGrant.sortsBefore).map RoleGrant.grant

/-- The administrator grants of users that are not disabled. -/
def activeAdministrators : List RoleGrant :=
  store.grants.select fun grant =>
    grant.role = .administrator && store.hasActiveUser grant.userId

/-- The account of an email address. -/
def accountOf (email : String) : Option User :=
  store.users.rows.find? fun user => asciiLowercase user.email = asciiLowercase email

end Store

section

variable (libraries : Libraries) (env : Environment)

/-! ## Sessions -/

/-- Insert a session; the token and when it expires. -/
def insertSession (userId method : String) (time : Int) : Edit (String × Int) := fun store => do
  let token := newToken libraries .session (env.token 0)
  let sessions ← insertRow store.sessions
    { tokenHash := tokenHash libraries token
      userId, method
      createdAt := time
      expiresAt := time + sessionSeconds }
    (store.hasUser userId)
  return ((token, time + sessionSeconds), { store with sessions })

/-- The first administrator; refused once any user exists. -/
def bootstrapAdministrator (email displayName password : String) : Operation String := do
  let email ← .ofExcept (validateEmail email)
  let displayName ← .ofExcept (validateName displayName "display name")
  let hash ← .ofExcept ((hashPassword libraries password env.salt).mapError .invalid)
  let id := newId libraries "usr" (env.id 0)
  .transact fun store => do
    ensure store.users.rows.isEmpty
      (.conflict "the control plane already has users; add administrators through the API")
    let users ← insertRow store.users
      { id, email, displayName, passwordHash := some hash, createdAt := env.now 0 } true
    let grants ← insertRow store.grants
      { userId := id
        role := .administrator
        tenant := none
        grantedBy := "bootstrap"
        createdAt := env.now 0 } true
    return (id, { store with users, grants }.record libraries
      { time := env.now 0
        requestId := "bootstrap"
        actor := "bootstrap"
        tenant := none
        action := "user.bootstrap_administrator"
        resource := "user:" ++ id
        allowed := true
        detail := email })

/-- Why a login fails. -/
inductive LoginError where
  | rejected
  | locked
  | internal (reason : String)
deriving DecidableEq, Repr

/-- `Debug` of a store error. -/
def StoreError.debug : StoreError → String
  | .conflict reason => "Conflict(" ++ libraries.debugText reason ++ ")"
  | .invalid reason => "Invalid(" ++ libraries.debugText reason ++ ")"
  | .notFound => "NotFound"
  | .internal reason => "Internal(" ++ libraries.debugText reason ++ ")"

/-- What a login call knows when it commits. -/
structure LoginAttempt where
  time : Int
  userId : String
  verified : Bool
  disabled : Bool
  requestId : String
deriving DecidableEq

def LoginAttempt.entry (attempt : LoginAttempt) (allowed : Bool) (detail : String) :
    AuditEntry where
  time := attempt.time
  requestId := attempt.requestId
  actor := "user:" ++ attempt.userId
  tenant := none
  action := "session.login"
  resource := "user:" ++ attempt.userId
  allowed := allowed
  detail := detail

/-- The first part of a login: read the account and verify the password. -/
def beginLogin (time : Int) (email password requestId : String) (store : Store) :
    Except LoginError LoginAttempt :=
  match store.accountOf (trim email) with
  | none => .error .rejected
  | some user =>
    match user.passwordHash with
    | none => .error .rejected
    | some stored =>
      if user.lockedUntil.any (time < ·) then .error .locked
      else .ok {
        time
        userId := user.id
        verified := verifyPassword libraries password stored
        disabled := !user.isActive
        requestId }

/-- The second part of a login: count the failure, or open a session. -/
def commitLogin (attempt : LoginAttempt) : Effect Store LoginError (String × Int) := fun store =>
  if !attempt.verified || attempt.disabled then
    let users := if attempt.disabled then store.users else
      store.users.update (fun user => user.id = attempt.userId) (User.failed attempt.time)
        (User.failed_id attempt.time)
    (.error .rejected, { store with users }.record libraries
      (attempt.entry false (if attempt.disabled then "account disabled" else "wrong password")))
  else
    let cleared := { store with
      users := store.users.update (fun user => user.id = attempt.userId) User.succeeded }
    match insertSession libraries env attempt.userId "password" attempt.time cleared with
    | .ok (session, opened) =>
      (.ok session, opened.record libraries (attempt.entry true "password"))
    | .error error => (.error (.internal (error.debug libraries)), store)

/-- Verify a password and open a session. -/
def login (email password requestId : String) : Effect Store LoginError (String × Int) := do
  let attempt ← .reading (beginLogin libraries (env.now 0) email password requestId)
  commitLogin libraries env attempt

/-- Open a session for a user already authenticated another way. -/
def openSession (userId method : String) (actor : Actor) : Operation (String × Int) :=
  .transact fun store => do
    let (session, opened) ← insertSession libraries env userId method (env.now 0) store
    return (session, opened.record libraries
      (actor.entry (env.now 0) none "session.login" ("user:" ++ userId) method true))

def logout (token : String) (actor : Actor) : Operation Unit :=
  .modify fun store => { store with
    sessions := store.sessions.update
      (fun session => session.tokenHash = tokenHash libraries token && session.revokedAt = none)
      (Session.revoked (env.now 0)) }.record libraries
        (actor.entry (env.now 0) none "session.logout" "session" "" true)

/-! ## Callers -/

namespace Store

variable (store : Store)

/-- The session a token names. -/
def sessionOf (time : Int) (token : String) : Option Session :=
  store.sessions.rows.find? fun session =>
    session.tokenHash = tokenHash libraries token && session.revokedAt = none &&
      time < session.expiresAt && store.hasActiveUser session.userId

/-- The API key a token names. -/
def apiKeyOf (time : Int) (token : String) : Option ApiKey :=
  store.apiKeys.rows.find? fun key =>
    key.keyHash = tokenHash libraries token && key.revokedAt = none &&
      time < key.expiresAt && store.hasActiveUser key.ownerUserId

/-- The caller a bearer token authenticates. -/
def caller (time : Int) (token : String) : Option Principal :=
  match TokenKind.ofToken token with
  | some .session => (store.sessionOf libraries time token).map fun session =>
    { userId := session.userId
      grants := store.grantsOf session.userId
      via := .session }
  | some .apiKey => (store.apiKeyOf libraries time token).map fun key =>
    { userId := key.ownerUserId
      grants := store.grantsOf key.ownerUserId
      via := .apiKey key.id key.tenant ((splitText ',' key.scopes).filterMap Permission.parse) }
  | _ => none

end Store

/-- Resolve a bearer token; the use of a key is noted once a minute. -/
def principal (token : String) : Operation (Option Principal) := fun store =>
  let used (key : ApiKey) : Bool :=
    TokenKind.ofToken token = some .apiKey &&
      (store.apiKeyOf libraries (env.now 0) token).any (·.id = key.id) &&
      key.lastUsedAt.all fun last => 60 ≤ env.now 0 - last
  (.ok (store.caller libraries (env.now 0) token),
    { store with apiKeys := store.apiKeys.update used (ApiKey.used (env.now 0)) })

/-! ## Users -/

/-- A user as the service shows it. -/
structure UserView where
  id : String
  email : String
  displayName : String
  hasPassword : Bool
  disabled : Bool
  grants : List Grant
deriving DecidableEq

def Store.viewUser (store : Store) (userId : String) : Except StoreError UserView := do
  let user ← needed (store.users.find userId) .notFound
  return {
    id := userId
    email := user.email
    displayName := user.displayName
    hasPassword := user.passwordHash.isSome
    disabled := !user.isActive
    grants := store.grantsOf userId }

def user (userId : String) : Operation UserView := .reading (·.viewUser userId)

def users : Operation (List UserView) := .reading fun store =>
  (store.users.rows.mergeSort fun first second =>
    asciiLowercase first.email ≤ asciiLowercase second.email).mapM
      fun user => store.viewUser user.id

/-- Create a user. -/
def createUser (email displayName : String) (password : Option String) (actor : Actor) :
    Operation String := do
  let email ← .ofExcept (validateEmail email)
  let displayName ← .ofExcept (validateName displayName "display name")
  let hash ← .ofExcept ((password.mapM fun password =>
    hashPassword libraries password env.salt).mapError StoreError.invalid)
  let id := newId libraries "usr" (env.id 0)
  mutate libraries (env.now 1) actor none "user.create" ("user:" ++ id) email fun store => do
    let users ← insertRow store.users
      { id, email, displayName, passwordHash := hash, createdAt := env.now 0 }
      (store.accountOf email).isNone
    return ((), { store with users })
  return id

/-- Disable a user and revoke all sessions and keys of the user. -/
def Store.disableUser (time : Int) (userId : String) : Edit Unit := fun store => do
  ensure (store.hasActiveUser userId) .notFound
  return ((), { store with
    users := store.users.update (fun user => user.id = userId && user.isActive)
      (User.disabled time)
    sessions := store.sessions.update
      (fun session => session.userId = userId && session.revokedAt = none) (Session.revoked time)
    apiKeys := store.apiKeys.update
      (fun key => key.ownerUserId = userId && key.revokedAt = none) (ApiKey.revoked time) })

def disableUser (userId : String) (actor : Actor) : Operation Unit :=
  mutate libraries (env.now 1) actor none "user.disable" ("user:" ++ userId) ""
    (Store.disableUser (env.now 0) userId)

def Store.addGrant (time : Int) (userId : String) (role : Role) (tenant : Option String)
    (grantedBy : String) : Edit Unit := fun store => do
  ensure (store.hasUser userId && tenant.all store.hasTenant) .notFound
  let grants ← insertRow store.grants
    { userId, role, tenant, grantedBy, createdAt := time } (role.isGlobal == tenant.isNone)
  return ((), { store with grants })

def addGrant (userId : String) (role : Role) (tenant : Option String) (actor : Actor) :
    Operation Unit := do
  .ofExcept (ensure (role.isGlobal == tenant.isNone) (.invalid
    (if role.isGlobal then "the administrator role is service-wide and takes no tenant"
    else "the " ++ role.asStr ++ " role needs a tenant")))
  mutate libraries (env.now 1) actor tenant "grant.add" ("user:" ++ userId) role.asStr
    (Store.addGrant (env.now 0) userId role tenant actor.label)

def Store.removeGrant (userId : String) (role : Role) (tenant : Option String) : Edit Unit :=
  fun store => do
    let removed (grant : RoleGrant) : Bool := grant.index = (userId, role, tenant.getD "")
    ensure (store.grants.any removed) .notFound
    let remaining : Store := { store with grants := store.grants.delete removed }
    ensure (role ≠ .administrator || !remaining.activeAdministrators.isEmpty)
      (.conflict "the last active administrator cannot be removed")
    return ((), remaining)

def removeGrant (userId : String) (role : Role) (tenant : Option String) (actor : Actor) :
    Operation Unit :=
  mutate libraries (env.now 0) actor tenant "grant.remove" ("user:" ++ userId) role.asStr
    (Store.removeGrant userId role tenant)

/-! ## Tenants -/

def createTenant (name : String) (actor : Actor) : Operation Tenant := do
  let name ← .ofExcept (validateName name "tenant name")
  let tenant : Tenant := { id := newId libraries "ten" (env.id 0), name, createdAt := env.now 0 }
  mutate libraries (env.now 1) actor (some tenant.id) "tenant.create" ("tenant:" ++ tenant.id)
    name fun store => do
      let tenants ← insertRow store.tenants tenant (!store.tenants.any (·.name = name))
      return ((), { store with tenants })
  return tenant

/-- Tenants, limited to the visible ones when given. -/
def tenants (visible : Option (List String)) : Operation (List Tenant) :=
  .reading fun store => .ok
    ((store.tenants.rows.mergeSort fun first second => first.name ≤ second.name).filter
      fun tenant => visible.all (·.contains tenant.id))

def tenantExists (tenant : String) : Operation Bool :=
  .reading fun store => .ok (store.hasTenant tenant)

/-! ## API keys -/

/-- An API key as the service shows it. -/
structure ApiKeyView where
  id : String
  name : String
  tenant : String
  scopes : List String
  createdAt : Int
  expiresAt : Int
  revoked : Bool
  lastUsedAt : Option Int
deriving DecidableEq

def ApiKey.view (key : ApiKey) : ApiKeyView where
  id := key.id
  name := key.name
  tenant := key.tenant
  scopes := splitText ',' key.scopes
  createdAt := key.createdAt
  expiresAt := key.expiresAt
  revoked := key.revokedAt.isSome
  lastUsedAt := key.lastUsedAt

/-- Issue a key for a user in a tenant; the secret is returned once. -/
def createApiKey (principal : Principal) (tenant name : String) (scopes : List Permission)
    (lifetimeDays : Int) (actor : Actor) : Operation (ApiKeyView × String) := do
  let name ← .ofExcept (validateName name "key name")
  .ofExcept (ensure (!scopes.isEmpty) (.invalid "an API key needs at least one scope"))
  .ofExcept (ensure (1 ≤ lifetimeDays && lifetimeDays ≤ maxApiKeyDays)
    (.invalid ("API keys expire after 1 to " ++ toString maxApiKeyDays ++ " days")))
  .ofExcept (scopes.forM fun scope =>
    ensure (scope.grantableToApiKey && principal.allows scope (some tenant))
      (.invalid ("you cannot issue a key with the " ++ scope.asStr ++ " scope in this tenant")))
  let token := newToken libraries .apiKey (env.token 0)
  let scopeList := scopes.map Permission.asStr
  let key : ApiKey := {
    id := newId libraries "key" (env.id 0)
    keyHash := tokenHash libraries token
    ownerUserId := principal.userId
    tenant, name
    scopes := ",".intercalate scopeList
    createdAt := env.now 0
    expiresAt := env.now 0 + lifetimeDays * 86400 }
  mutate libraries (env.now 1) actor (some tenant) "api_key.create" ("api_key:" ++ key.id)
    key.scopes fun store => do
      let apiKeys ← insertRow store.apiKeys key
        (!store.apiKeys.any (·.keyHash = key.keyHash) && store.hasUser key.ownerUserId &&
          store.hasTenant tenant)
      return ((), { store with apiKeys })
  return ({ key.view with scopes := scopeList }, token)

/-- The keys of an owner, or all. -/
def apiKeys (owner : Option String) : Operation (List ApiKeyView) :=
  .reading fun store => .ok
    (((store.apiKeys.select fun key => owner.all (key.ownerUserId = ·)).mergeSort
      fun first second => second.createdAt ≤ first.createdAt).map ApiKey.view)

/-- Revoke a key, of an owner or any. -/
def revokeApiKey (keyId : String) (owner : Option String) (actor : Actor) : Operation Unit :=
  mutate libraries (env.now 1) actor none "api_key.revoke" ("api_key:" ++ keyId) ""
    fun store => do
      let revocable (key : ApiKey) : Bool :=
        key.id = keyId && owner.all (key.ownerUserId = ·) && key.revokedAt = none
      ensure (store.apiKeys.any revocable) .notFound
      return ((), { store with
        apiKeys := store.apiKeys.update revocable (ApiKey.revoked (env.now 0)) })

end

end MailSwiftSync.Control
