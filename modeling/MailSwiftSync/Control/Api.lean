import MailSwiftSync.Control.Identities
import MailSwiftSync.Control.Workers

/-!
# Requests

A request authenticates the caller, checks the permission it needs in the tenant it touches,
and audits the decision.  Decoding of bodies comes from outside.
-/

namespace MailSwiftSync.Control

open Foundation

/-! ## Responses -/

/-- What a response says. -/
inductive Body where
  | error (message : String)
  | session (token : String) (expiresAt : Int)

/-- A response; its reason phrase is that of its status. -/
structure Response where
  status : Nat
  body : Body
  headers : List (String × String) := []

namespace Response

def created (body : Body) : Response where
  status := 201
  body := body

def error (status : Nat) (message : String) : Response where
  status := status
  body := .error message

def notFound : Response := error 404 "not found"

def unauthorized : Response :=
  { error 401 "a valid bearer token is required" with
    headers := [("WWW-Authenticate", "Bearer realm=\"mailswiftsync-control\"")] }

def forbidden : Response := error 403 "you do not have permission for this action"

def ofStoreError : StoreError → Response
  | .notFound => notFound
  | .conflict message => error 409 message
  | .invalid message => error 422 message
  | .internal _ => error 500 "internal error"

end Response

/-! ## Requests -/

/-- The body of a request to sign in. -/
structure LoginBody where
  email : String
  password : String

/-- A request as it arrives. -/
structure Request where
  authorization : Option String
  contentType : Option String
  body : List UInt8

/-- Decoders of bodies. -/
structure Decoders where
  loginBody : List UInt8 → Except String LoginBody

/-- One request being evaluated, with what each of its steps gets from outside. -/
structure Call where
  libraries : Libraries
  decoders : Decoders
  request : Request
  requestId : String
  env : Nat → Environment

/-- A part of the evaluation: it may answer at once. -/
abbrev Handler := Effect Store Response

/-- An operation of the store, its errors as responses. -/
def Handler.ofOperation {α : Type} (operation : Operation α) : Handler α :=
  operation.mapError Response.ofStoreError

/-- Answer at once. -/
def Handler.answer {α : Type} (response : Response) : Handler α := .ofExcept (.error response)

/-- Answer at once unless a condition holds. -/
def Handler.require (condition : Bool) (response : Response) : Handler Unit :=
  .ofExcept (if condition then .ok () else .error response)

namespace Call

variable (call : Call) {α : Type}

def bearer : Option String := do
  let value ← call.request.authorization
  let (scheme, token) ← splitOnce ' ' value.toList
  guard (asciiLowercase (String.ofList scheme) = "bearer")
  return trim (String.ofList token)

/-- The token of the request. -/
def token : Handler String :=
  .ofExcept (call.bearer.elim (.error .unauthorized) .ok)

/-- The caller. -/
def principal : Handler Principal := do
  let token ← call.token
  let found ← .ofOperation (Control.principal call.libraries (call.env 0) token)
  .ofExcept (found.elim (.error .unauthorized) .ok)

def actor (principal : Principal) : Actor where
  requestId := call.requestId
  label := principal.actor

/-- Audit a decision. -/
def audit (step : Nat) (actor : String) (tenant : Option String) (action resource : String)
    (allowed : Bool) : Handler Unit :=
  .ofOperation (Control.audit call.libraries
    { time := (call.env step).now 0
      requestId := call.requestId
      actor, tenant, action, resource, allowed
      detail := "" })

/-- Require a permission, auditing a refusal; a caller who cannot see the tenant at all gets
not-found instead of forbidden. -/
def require (principal : Principal) (permission : Permission) (tenant : Option String)
    (action resource : String) : Handler Unit :=
  if principal.allows permission tenant then pure ()
  else do
    call.audit 1 principal.actor tenant action resource false
    .answer (if tenant.any (!principal.seesTenant ·) then .notFound else .forbidden)

/-- Decode the body. -/
def body (decode : List UInt8 → Except String α) : Handler α := do
  let isJson := call.request.contentType.any fun value =>
    (splitText ';' value).head?.any fun media =>
      asciiLowercase (trim media) = "application/json"
  .require isJson (.error 415 "send the body as application/json")
  .ofExcept ((decode call.request.body).mapError fun error =>
    .error 422 ("invalid request body: " ++ error))

/-! ## Signing in and out -/

def login : Handler Response := do
  let body ← call.body call.decoders.loginBody
  let (token, expiresAt) ← (Control.login call.libraries (call.env 0) body.email body.password
    call.requestId).mapError fun error =>
      match error with
      | .internal _ => .error 500 "internal error"
      | _ => .error 401 "the email address or password is not correct"
  return .created (.session token expiresAt)

/-! ## Tenants, users and keys -/

/-- The checks of a request to disable a user. -/
def checkDisableUser (user : String) : Handler Principal := do
  let principal ← call.principal
  call.require principal .serviceAdmin none "user.disable" ("user:" ++ user)
  .require (user ≠ principal.userId) (.error 409 "you cannot disable your own account")
  return principal

end Call

end MailSwiftSync.Control
