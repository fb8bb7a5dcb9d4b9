import MailSwiftSync.Engine.ExtraOptions
import MailSwiftSync.Engine.FolderMapping
import MailSwiftSync.Ledger.CaseCollisions

/-!
# Profiles

A profile is the plan of one mailbox: the identity of both sides and the settings that are the
same for a whole batch.  A form is a profile with the passwords of a session.
-/

namespace MailSwiftSync.Queue

/-! ## Fields -/

inductive Engine where
  | auto
  | dovecot
  | imapSync
deriving DecidableEq, Repr

inductive DovecotMigrationStrategy where
  | initialMirror
  | incrementalMirror
  | finalPreservationPass
  | destinationAlreadyActive
deriving DecidableEq, Repr

/-- The fields of a profile that no row of a batch has of its own. -/
structure PlanSettings where
  sourcePort : String := ""
  sourceTls : String := "imaps"
  sourceCaBundle : String := ""
  sourceCertificatePinSha256 : String := ""
  allowInsecureSourceTransport : Bool := false
  sourceAuth : String := "password"
  destinationAuth : String := "password"
  destinationPort : String := ""
  destinationCaBundle : String := ""
  destinationCertificatePinSha256 : String := ""
  imapsyncPath : String := "imapsync"
  engine : Engine := .auto
  doveadmPath : String := "doveadm"
  dovecotConfig : String := ""
  batchConcurrency : Nat := 2
  batchVerificationWorkers : Nat := 0
  batchRetryCount : Nat := 0
  batchProcessStartsPerSecond : Nat := 2
  maxMessagesPerSecond : Nat := 0
  maxBytesPerSecond : Nat := 0
  bodyHashVerification : Bool := false
  bodyHashMaxBytes : Nat := 8 * 1024 * 1024
  bodyHashMaxTotalBytes : Nat := 512 * 1024 * 1024
  migrationTimeoutHours : Nat := 24
  automap : Bool := false
  folderMappingRules : List FolderMappingRule := []
  addheader : Bool := false
  justfolders : Bool := false
  syncInternaldates : Bool := true
  useuid : Bool := false
  usecache : Bool := false
  fastio1 : Bool := false
  fastio2 : Bool := false
  allowsizemismatch : Bool := false
  dovecotStrategy : DovecotMigrationStrategy := .finalPreservationPass
  delete2 : Bool := false
deriving DecidableEq, Repr

/-- The plan of one mailbox. -/
structure Profile extends PlanSettings where
  name : String := ""
  sourceHost : String := ""
  sourceUser : String := ""
  sourceRateTenant : String := ""
  sourceCredentialId : String := ""
  sourceOauthRefreshCredentialId : String := ""
  destinationHost : String := ""
  destinationUser : String := ""
  destinationRateTenant : String := ""
  destinationCredentialId : String := ""
  destinationOauthRefreshCredentialId : String := ""
  destinationTls : String := "imaps"
  extraOptions : String := ""
deriving DecidableEq, Repr

def defaultDestinationTls : String := "imaps"

/-- The engine a run uses. -/
def Profile.effectiveEngine (profile : Profile) : Engine :=
  match profile.engine with
  | .auto => .imapSync
  | selected => selected

/-- The destination of a profile. -/
def Profile.destination (profile : Profile) : DestinationProfile where
  destinationUser := profile.destinationUser
  destinationHost := profile.destinationHost
  destinationTls := profile.destinationTls
  destinationPort := profile.destinationPort

/-- A profile and the passwords of a session. -/
structure Form where
  profile : Profile := { name := "New migration" }
  sourcePassword : String := ""
  destinationPassword : String := ""
  dryRun : Bool := true
deriving DecidableEq, Repr

/-- Clone the non-secret migration defaults for a row of a batch. -/
def Form.cloneWithoutCredentials (form : Form) : Form where
  profile := form.profile
  dryRun := form.dryRun

/-! ## Validation -/

def authMethodIsOauth (method : String) : Bool :=
  method = "oauth2"

def defaultImapPort (tlsMode : String) : Nat :=
  if tlsMode = "starttls" ∨ tlsMode = "plain" then 143 else 993

/-- Whether an endpoint belongs to Microsoft 365, which refuses passwords. -/
def isMicrosoft365Endpoint (platform : LedgerPlatform) (endpoint tlsMode : String) : Bool :=
  match platform.parts endpoint (defaultImapPort tlsMode) with
  | .error _ => false
  | .ok (host, _) =>
    let host := LedgerPlatform.dnsName host
    ["outlook.office365.com", "exchange.microsoft.com"].any fun domain =>
      host = domain || ("." ++ domain).toList.isSuffixOf host.toList

def validateCertificatePin (value label : String) : Except String Unit :=
  let pin := trim value
  if pin = "" then .ok ()
  else if pin.utf8ByteSize ≠ 64 || !pin.toList.all fun c =>
      c.isDigit || ('a' ≤ c && c ≤ 'f') || ('A' ≤ c && c ≤ 'F') then
    .error (label ++ " must be a 64-character SHA-256 certificate fingerprint")
  else .ok ()

/-- Whether a configured port is empty or a number of a port. -/
def validPort (port : String) : Bool :=
  trim port = "" || (parseU16 (trim port)).any (· ≠ 0)

/-- The checks on a field that must be filled in. -/
def validateRequired (field : String × String) : Except String Unit :=
  if trim field.2 = "" then .error (field.1 ++ " is required.")
  else if field.2.toList.any isControl then
    .error (field.1 ++ " cannot contain control characters.")
  else .ok ()

def validateAuthMethod (field : String × String) : Except String Unit :=
  if field.2 = "" ∨ field.2 = "password" ∨ field.2 = "oauth2" then .ok ()
  else .error (field.1 ++ " must be password or OAuth 2.0 access token.")

def validateKeyringId (field : String × String) : Except String Unit :=
  if (trim field.2).toList.any isControl || (trim field.2).utf8ByteSize > 256 then
    .error (field.1 ++ " must not contain control characters and must be at most 256 bytes.")
  else .ok ()

def validateRateTenant (field : String × String) : Except String Unit :=
  if field.2.utf8ByteSize > 256 || field.2.toList.any isControl then
    .error (field.1 ++ " must not contain control characters and must be at most 256 bytes.")
  else .ok ()

def validateNoControl (field : String × String) : Except String Unit :=
  if field.2.toList.any isControl then
    .error (field.1 ++ " cannot contain control characters.")
  else .ok ()

namespace Form

variable (platform : LedgerPlatform) (form : Form)

/-- The fields that must be filled in; passwords only before anything runs. -/
def required (requireCredentials : Bool) : List (String × String) :=
  let profile := form.profile
  let sourceAutomaticRefresh := authMethodIsOauth profile.sourceAuth &&
    trim profile.sourceOauthRefreshCredentialId ≠ ""
  let destinationAutomaticRefresh := authMethodIsOauth profile.destinationAuth &&
    trim profile.destinationOauthRefreshCredentialId ≠ ""
  [("Source IMAP host", profile.sourceHost), ("Source username", profile.sourceUser),
    ("Destination IMAP host", profile.destinationHost),
    ("Destination username", profile.destinationUser)] ++
  (if requireCredentials && !sourceAutomaticRefresh then
    [(if authMethodIsOauth profile.sourceAuth then "Source OAuth 2.0 access token"
      else "Source password", form.sourcePassword)] else []) ++
  if requireCredentials && profile.effectiveEngine ≠ .dovecot && !destinationAutomaticRefresh then
    [(if authMethodIsOauth profile.destinationAuth then "Destination OAuth 2.0 access token"
      else "Destination password", form.destinationPassword)] else []

def validateMicrosoft365 (label host tlsMode method : String) : Except String Unit :=
  if isMicrosoft365Endpoint platform host tlsMode && method ≠ "oauth2" then
    .error (label ++ " Microsoft 365 IMAP requires OAuth 2.0 / Modern Authentication; " ++
      "Basic Authentication and app passwords are not supported")
  else .ok ()

/-- The checks on ports, transport and certificate pins. -/
def validateTransport : Except String Unit := do
  let profile := form.profile
  if !validPort profile.sourcePort then
    .error "Source IMAP port must be a number between 1 and 65535."
  if profile.sourceTls ∉ ["imaps", "starttls", "plain"] then
    .error "Source TLS mode must be imaps, starttls, or plain."
  if !validPort profile.destinationPort then
    .error "Destination IMAP port must be a number between 1 and 65535."
  if profile.destinationTls ∉ ["", "imaps", "starttls"] then
    .error "Destination TLS mode must be imaps or starttls."
  validateCertificatePin profile.sourceCertificatePinSha256 "Source certificate pin"
  validateCertificatePin profile.destinationCertificatePinSha256 "Destination certificate pin"
  if trim profile.sourceCertificatePinSha256 ≠ "" ∨
      trim profile.destinationCertificatePinSha256 ≠ "" then
    .error (if profile.effectiveEngine = .dovecot then
      "Certificate pinning is not currently supported by the Dovecot engine; remove the pin or " ++
        "select an engine with transfer-level pin enforcement."
      else "Certificate pins are verified by MailSwiftSync's probe but cannot currently be " ++
        "enforced by the qualified imapsync transfer; remove the pin until a pin-enforcing " ++
        "engine backend is qualified.")

/-- The checks on the two endpoints, which must not be one mailbox. -/
def validateEndpoints (required : List (String × String)) : Except String Unit := do
  let profile := form.profile
  let _ ← (platform.parts profile.sourceHost (defaultImapPort profile.sourceTls)).mapError
    ("Source IMAP host is not a valid endpoint: " ++ ·)
  let _ ← (platform.parts profile.destinationHost
    (defaultImapPort (effectiveDestinationTls profile.destinationTls))).mapError
    ("Destination IMAP host is not a valid endpoint: " ++ ·)
  if !(1 ≤ profile.migrationTimeoutHours && profile.migrationTimeoutHours ≤ 720) then
    .error "Migration timeout must be between 1 and 720 hours."
  required.forM validateRequired
  let sourceStore ← platform.casefoldedDestinationIdentity profile.sourceUser profile.sourceHost
    profile.sourceTls profile.sourcePort
  let destinationStore ← platform.casefoldedDestinationIdentity profile.destinationUser
    profile.destinationHost (effectiveDestinationTls profile.destinationTls)
    profile.destinationPort
  if sourceStore = destinationStore then
    .error ("Source and destination identify the same IMAP mailbox at the same normalized host " ++
      "and port. Choose distinct mailbox identities or endpoints.")

/-- Validate a plan; `toLowercase` is the lower case of Unicode characters. -/
def validateInternal (toLowercase : Char → List Char) (requireCredentials : Bool) :
    Except String Unit := do
  let profile := form.profile
  if profile.effectiveEngine = .dovecot &&
      (authMethodIsOauth profile.sourceAuth || authMethodIsOauth profile.destinationAuth) then
    .error ("OAuth 2.0 authentication is currently supported for imapsync only; Dovecot native " ++
      "execution requires password authentication.")
  [("Source authentication", profile.sourceAuth),
    ("Destination authentication", profile.destinationAuth)].forM validateAuthMethod
  validateMicrosoft365 platform "Source" profile.sourceHost profile.sourceTls profile.sourceAuth
  validateMicrosoft365 platform "Destination" profile.destinationHost
    (effectiveDestinationTls profile.destinationTls) profile.destinationAuth
  form.validateTransport
  form.validateEndpoints platform (form.required requireCredentials)
  [("Source keyring ID", profile.sourceCredentialId),
    ("Destination keyring ID", profile.destinationCredentialId)].forM validateKeyringId
  [("Source provider tenant scope", profile.sourceRateTenant),
    ("Destination provider tenant scope", profile.destinationRateTenant)].forM validateRateTenant
  validateFolderMappingRules toLowercase profile.folderMappingRules
  if requireCredentials && profile.sourceTls = "plain" &&
      !profile.allowInsecureSourceTransport then
    .error ("Plain IMAP requires an explicit cleartext-transport acknowledgement before any " ++
      "authenticated operation, including dry preflight.")
  [("Source IMAP host", profile.sourceHost), ("Destination IMAP host", profile.destinationHost),
    ("Source username", profile.sourceUser), ("Destination username", profile.destinationUser),
    ("Source credential", form.sourcePassword),
    ("Destination credential", form.destinationPassword)].forM validateNoControl
  let _ ← canonicalExtraOptions profile.extraOptions.toList

/-- Validate the plan of an imported row, which may lack credentials. -/
def validateForImport (toLowercase : Char → List Char) : Except String Unit :=
  form.validateInternal platform toLowercase false

end Form

end MailSwiftSync.Queue
