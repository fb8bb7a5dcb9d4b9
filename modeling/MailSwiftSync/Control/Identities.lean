import MailSwiftSync.Control.Accounts

/-!
# Signing in with an identity provider

Pending sign-ins and linked identities.  The exchange with the provider, and the verification
of what it signed, stay outside.
-/

namespace MailSwiftSync.Control

open Foundation

def pendingSeconds : Int := 10 * 60

def maxPending : Nat := 10000

/-- What the configuration says about a provider. -/
structure Provider where
  name : String
  issuer : String
  linkVerifiedEmail : Bool
  allowedEmailDomains : List String
deriving DecidableEq

/-- What a verified token says. -/
structure Identity where
  subject : String
  email : Option String
  emailVerified : Bool
deriving DecidableEq

/-- The part of an email address after its last `@`, in lower case. -/
def emailDomain (email : String) : Option String :=
  (splitOnce '@' email.toList.reverse).map fun (domain, _) =>
    asciiLowercase (String.ofList domain.reverse)

def Provider.allowsEmail (provider : Provider) (email : String) : Bool :=
  provider.allowedEmailDomains.isEmpty ||
    (emailDomain email).any provider.allowedEmailDomains.contains

section

variable (libraries : Libraries) (env : Environment)

/-- Remember a sign-in until its answer comes; those that expired are dropped first. -/
def savePending (state provider nonce verifier : String) : Operation Unit := fun store =>
  let store := { store with
    pending := store.pending.delete fun pending => pending.expiresAt ≤ env.now 0 }
  if maxPending ≤ store.pending.rows.length then
    (.error (.conflict "too many sign-ins are in progress; try again shortly"), store)
  else
    match insertRow store.pending
      { stateHash := tokenHash libraries state
        provider, nonce, verifier
        expiresAt := env.now 0 + pendingSeconds } true with
    | .ok pending => (.ok (), { store with pending })
    | .error error => (.error error, store)

/-- Consume a pending sign-in. -/
def takePending (state : String) : Operation (Option OidcPending) := fun store =>
  let isIt (pending : OidcPending) : Bool := pending.stateHash = tokenHash libraries state
  (.ok (store.pending.rows.find? fun pending => isIt pending && env.now 0 < pending.expiresAt),
    { store with pending := store.pending.delete isIt })

/-- The enabled user an identity is linked to. -/
def Store.linkedUser (store : Store) (issuer subject : String) : Option String :=
  ((store.identities.find (issuer, subject)).filter
    fun identity => store.hasActiveUser identity.userId).map (·.userId)

/-- The enabled user an identity without a link may be linked to. -/
def Store.linkableUser (store : Store) (provider : Provider) (identity : Identity) :
    Option String := do
  let email ← identity.email
  guard ((store.identities.find (provider.issuer, identity.subject)).isNone &&
    provider.linkVerifiedEmail && identity.emailVerified && provider.allowsEmail email)
  let user ← store.users.rows.find? fun user =>
    asciiLowercase user.email = asciiLowercase email && user.isActive &&
      !store.identities.any fun linked =>
        linked.userId = user.id && linked.issuer = provider.issuer
  return user.id

/-- The enabled user an identity signs in as. -/
def userForIdentity (provider : Provider) (identity : Identity) (requestId : String) :
    Operation (Option String) := fun store =>
  match store.linkedUser provider.issuer identity.subject with
  | some userId => (.ok (some userId), store)
  | none =>
    match store.linkableUser provider identity with
    | none => (.ok none, store)
    | some userId =>
      match insertRow store.identities
        { issuer := provider.issuer
          subject := identity.subject
          userId
          linkedAt := env.now 0 } (store.hasUser userId) with
      | .error error => (.error error, store)
      | .ok identities =>
        (.ok (some userId), { store with identities }.record libraries
          { time := env.now 0
            requestId
            actor := "user:" ++ userId
            tenant := none
            action := "identity.link"
            resource := "user:" ++ userId
            allowed := true
            detail := "oidc:" ++ provider.name ++ " verified email" })

end

end MailSwiftSync.Control
