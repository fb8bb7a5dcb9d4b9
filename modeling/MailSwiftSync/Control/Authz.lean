import Mathlib.Data.List.Basic

/-!
# Roles and permissions

Grants are additive within their scope: the administrator role is service-wide, every other
role is held per tenant.  An API key acts as its owner, narrowed to one tenant and to the
scopes of the key.
-/

namespace MailSwiftSync.Control

/-- The permissions a request may need. -/
inductive Permission where
  | serviceAdmin
  | tenantRead
  | projectRead
  | projectWrite
  | projectApprove
  | assignmentRead
  | assignmentCreate
  | workerManage
  | evidenceRead
  | auditRead
deriving DecidableEq, Repr

namespace Permission

def all : List Permission :=
  [serviceAdmin, tenantRead, projectRead, projectWrite, projectApprove, assignmentRead,
    assignmentCreate, workerManage, evidenceRead, auditRead]

def asStr : Permission → String
  | serviceAdmin => "service:admin"
  | tenantRead => "tenant:read"
  | projectRead => "project:read"
  | projectWrite => "project:write"
  | projectApprove => "project:approve"
  | assignmentRead => "assignment:read"
  | assignmentCreate => "assignment:create"
  | workerManage => "worker:manage"
  | evidenceRead => "evidence:read"
  | auditRead => "audit:read"

def parse (value : String) : Option Permission :=
  all.find? fun permission => permission.asStr = value

/-- Service administration always needs a session. -/
def grantableToApiKey (permission : Permission) : Bool :=
  permission ≠ serviceAdmin

end Permission

/-- The roles. -/
inductive Role where
  | administrator
  | manager
  | engineer
  | technician
  | auditor
  | customer
deriving DecidableEq, Repr

namespace Role

def asStr : Role → String
  | administrator => "administrator"
  | manager => "manager"
  | engineer => "engineer"
  | technician => "technician"
  | auditor => "auditor"
  | customer => "customer"

/-- Whether a role is granted service-wide. -/
def isGlobal (role : Role) : Bool := role = administrator

open Permission in
def permissions : Role → List Permission
  | administrator => Permission.all
  | manager =>
    [tenantRead, projectRead, projectWrite, projectApprove, assignmentRead, assignmentCreate,
      workerManage, evidenceRead, auditRead]
  | engineer => [tenantRead, projectRead, assignmentRead, assignmentCreate, evidenceRead]
  | technician => [tenantRead, projectRead, assignmentRead, evidenceRead]
  | auditor => [tenantRead, projectRead, assignmentRead, evidenceRead, auditRead]
  | customer => [tenantRead, projectRead, evidenceRead]

end Role

/-- One role held by a user, service-wide or in a tenant. -/
structure Grant where
  role : Role
  tenant : Option String
deriving DecidableEq, Repr

/-- How a caller is authenticated. -/
inductive Credential where
  | session
  | apiKey (keyId tenant : String) (scopes : List Permission)
deriving DecidableEq, Repr

/-- The authenticated caller of one request. -/
structure Principal where
  userId : String
  grants : List Grant
  via : Credential
deriving DecidableEq, Repr

namespace Principal

variable (principal : Principal)

/-- The label in the audit log: the user, and the key when one was used. -/
def actor : String :=
  match principal.via with
  | .session => "user:" ++ principal.userId
  | .apiKey keyId _ _ => "user:" ++ principal.userId ++ " key:" ++ keyId

/-- What the grants give in a tenant, before any narrowing. -/
def granted (tenant : Option String) : List Permission :=
  (principal.grants.filter fun grant =>
    grant.tenant = none || (tenant ≠ none && grant.tenant = tenant)).flatMap
      fun grant => grant.role.permissions

/-- Whether the caller may do something in a tenant. -/
def allows (permission : Permission) (tenant : Option String) : Bool :=
  permission ∈ principal.granted tenant &&
    match principal.via with
    | .session => true
    | .apiKey _ keyTenant scopes => tenant = some keyTenant && permission ∈ scopes

/-- Whether the caller can see a tenant at all. -/
def seesTenant (tenant : String) : Bool :=
  principal.allows .tenantRead (some tenant)

end Principal

end MailSwiftSync.Control
