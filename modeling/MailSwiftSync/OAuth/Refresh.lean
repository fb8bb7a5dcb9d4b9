import MailSwiftSync.Foundation.Locking
import MailSwiftSync.Message
import MailSwiftSync.Queue.Profiles

/-!
# Refreshing OAuth access tokens

A provider that rotates refresh tokens consumes the old token on every exchange.  Launches and
the helpers of running transfers exchange the token of a keyring credential under one lock; a
rotated token goes to a recovery file before it goes to the keyring.  Each function is a program
of operations that may fail and between which the process may die.
-/

namespace MailSwiftSync.OAuth

open Foundation Queue

/-- The registered application credentials and the refresh token. -/
structure OAuthRefreshConfig where
  tokenEndpoint : String
  clientId : String
  clientSecret : String
  refreshToken : String
deriving DecidableEq, Repr

structure RefreshedToken where
  accessToken : String
  /-- Present only when the provider rotates refresh tokens on use. -/
  refreshToken : Option String
  expiresIn : Option Nat
deriving DecidableEq, Repr

/-- A rotated token whose keyring write did not succeed, kept by its process. -/
structure OAuthRefreshRecovery where
  config : OAuthRefreshConfig
  accessToken : String
  expiresIn : Option Nat
deriving DecidableEq, Repr

/-- The recovery file. -/
structure RecoveryRecord where
  formatVersion : Nat
  previousConfigSha256 : Option String := none
  previousConfigHmacSha256 : Option String := none
  rotatedConfig : String
deriving DecidableEq, Repr

/-- The JSON crate and the digests. -/
structure RefreshPlatform where
  encodeConfig : OAuthRefreshConfig → String
  parseConfig : String → Except String OAuthRefreshConfig
  /-- A record of the current version. -/
  encodeRecord (previousConfigHmacSha256 rotatedConfig : String) : String
  parseRecord : String → Except String RecoveryRecord
  hmacSha256 : String → String
  sha256 : String → String

/-! ## Operations -/

/-- What these programs ask for; everything is about one keyring credential. -/
inductive RefreshOp where
  | openKeyringEntry
  | keyringGet
  | keyringSet (text : String)
  | recoveryDirectory
  | recoveryExists
  | readRecovery
  | writeRecovery (text : String)
  | removeRecovery
  | fingerprintKey
  | exchange (config : OAuthRefreshConfig)
  | takeRefreshRecovery (source : Bool)
  | putRefreshRecovery (source : Bool) (recovery : OAuthRefreshRecovery)
  | clearRefreshRecovery (source : Bool)
  | lockRunConfig (path : String)
  | readRunConfig (path : String)
  | writeRunConfig (path text : String)
  | writeAccessToken (path text : String)

def RefreshOp.Answer : RefreshOp → Type
  | openKeyringEntry => Except String Unit
  | keyringGet => Except String String
  | keyringSet _ => Except String Unit
  | recoveryDirectory => Except String Unit
  | recoveryExists => Except String Bool
  | readRecovery => Except String String
  | writeRecovery _ => Except String Unit
  | removeRecovery => Except String Unit
  | fingerprintKey => Except String Unit
  | exchange _ => Except String RefreshedToken
  | takeRefreshRecovery _ => Option OAuthRefreshRecovery
  | putRefreshRecovery _ _ => Unit
  | clearRefreshRecovery _ => Unit
  | lockRunConfig _ => Except String Unit
  | readRunConfig _ => Except String String
  | writeRunConfig _ _ => Except String Unit
  | writeAccessToken _ _ => Except String Unit

/-- Programs that may fail. -/
abbrev Refresh (α : Type) : Type :=
  ExceptT String (Session RefreshOp String RefreshOp.Answer) α

/-- One operation. -/
def ask (op : RefreshOp) : Session RefreshOp String RefreshOp.Answer op.Answer :=
  Program.call (LockOp.call op)

/-- An operation that cannot fail. -/
def surely {α : Type} (session : Session RefreshOp String RefreshOp.Answer α) : Refresh α :=
  Program.bind session fun value => .done (.ok value)

/-- `map_err`. -/
def mapErr {α : Type} (describe : String → String) (attempt : Refresh α) : Refresh α :=
  Program.bind attempt fun
    | .ok value => .done (.ok value)
    | .error error => .done (.error (describe error))

/-- Something decided without asking. -/
def decided {α : Type} (result : Except String α) : Refresh α := .done result

/-! ## Configurations and recovery records -/

def maxRefreshConfigBytes : Nat := 64 * 1024

section Durable

variable (platform : RefreshPlatform)

def decodeRefreshConfig (json : String) : Except String OAuthRefreshConfig :=
  if json.utf8ByteSize > maxRefreshConfigBytes then
    .error ("stored OAuth refresh configuration exceeds the " ++ toString maxRefreshConfigBytes ++
      "-byte limit")
  else
    match platform.parseConfig json with
    | .error error => .error ("stored OAuth refresh configuration is corrupt: " ++ error)
    | .ok stored =>
      if (trim stored.tokenEndpoint).isEmpty then
        .error "stored OAuth refresh configuration has an empty token endpoint"
      else if stored.refreshToken.isEmpty || (trim stored.refreshToken).isEmpty then
        .error "stored OAuth refresh configuration has an empty refresh token"
      else .ok stored

/-- The fingerprint under the key of this installation. -/
def oauthRefreshConfigDigest (config : OAuthRefreshConfig) : Refresh String := do
  ask .fingerprintKey
  decided (.ok (platform.hmacSha256 (platform.encodeConfig config)))

def oauthRefreshLegacySha256 (config : OAuthRefreshConfig) : String :=
  platform.sha256 (platform.encodeConfig config)

inductive PreviousOAuthConfigFingerprint where
  | legacySha256 (digest : String)
  | hmacSha256 (digest : String)
deriving DecidableEq, Repr

structure PendingOAuthRefreshRecovery where
  previousConfigFingerprint : PreviousOAuthConfigFingerprint
  rotatedConfig : OAuthRefreshConfig
deriving DecidableEq, Repr

def encodeOauthRefreshRecovery (previous rotated : OAuthRefreshConfig) : Refresh String := do
  let previousConfigHmacSha256 ← oauthRefreshConfigDigest platform previous
  decided (.ok (platform.encodeRecord previousConfigHmacSha256 (platform.encodeConfig rotated)))

/-- The fingerprint that a record of its version must have. -/
def RecoveryRecord.fingerprint (record : RecoveryRecord) :
    Except String PreviousOAuthConfigFingerprint :=
  match record.formatVersion with
  | 1 =>
    match record.previousConfigSha256 with
    | some digest => .ok (.legacySha256 digest)
    | none => .error "legacy OAuth recovery record is missing its config fingerprint"
  | 2 =>
    match record.previousConfigHmacSha256 with
    | some digest => .ok (.hmacSha256 digest)
    | none => .error "OAuth recovery record is missing its keyed config fingerprint"
  | _ => .error "protected OAuth recovery record has an unsupported version"

/-- What a recovery file says. -/
def decodeOauthRefreshRecovery (stored : String) :
    Except String PendingOAuthRefreshRecovery := do
  let record ← (platform.parseRecord stored).mapError
    ("protected OAuth recovery record is invalid: " ++ ·)
  let previousConfigFingerprint ← record.fingerprint
  let rotatedConfig ← decodeRefreshConfig platform record.rotatedConfig
  return { previousConfigFingerprint, rotatedConfig }

/-- A file that exists is read. -/
def readExistingRecovery : Refresh (Option PendingOAuthRefreshRecovery) := do
  let stored ← mapErr ("could not read protected OAuth recovery config: " ++ ·)
    (ask .readRecovery)
  let recovery ← decided (decodeOauthRefreshRecovery platform stored)
  decided (.ok (some recovery))

def readPendingOauthRefreshRecovery : Refresh (Option PendingOAuthRefreshRecovery) := do
  let present ← mapErr ("could not inspect protected OAuth recovery config: " ++ ·)
    (ask .recoveryExists)
  match present with
  | true => readExistingRecovery platform
  | false => decided (.ok none)

/-! ## Persisting -/

/-- What the keyring returned must be what was stored. -/
def verifyStored (config verified : OAuthRefreshConfig) : Refresh Unit := do
  let verifiedDigest ← oauthRefreshConfigDigest platform verified
  let digest ← oauthRefreshConfigDigest platform config
  decided (if verifiedDigest ≠ digest then
    .error "OS keyring returned a different OAuth refresh configuration"
  else .ok ())

def persistAndVerifyKeyringRefreshConfig (config : OAuthRefreshConfig) : Refresh Unit := do
  mapErr ("OS keyring could not store the rotated OAuth refresh config: " ++ ·)
    (ask (.keyringSet (platform.encodeConfig config)))
  let stored ← mapErr ("could not verify OAuth refresh config in OS keyring: " ++ ·)
    (ask .keyringGet)
  let verified ← decided ((decodeRefreshConfig platform stored).mapError
    ("OS keyring returned an invalid OAuth refresh config: " ++ ·))
  verifyStored platform config verified

def oauthRefreshPersistAttempts : Nat := 3

/-- The attempts that are left, after the last error. -/
def persistAttempts (persist : Refresh Unit) : Nat → Option String → Refresh Unit
  | 0, lastError =>
    decided (.error (lastError.getD "OAuth refresh configuration persistence failed"))
  | attempts + 1, _ =>
    Program.bind persist fun
      | .ok () => .done (.ok ())
      | .error error => persistAttempts persist attempts (some error)

def persistRotatedRefreshConfigWithRetry (config : OAuthRefreshConfig)
    (persist : OAuthRefreshConfig → Refresh Unit) : Refresh Unit :=
  persistAttempts (persist config) oauthRefreshPersistAttempts none

def clearOauthRefreshRecovery : Refresh Unit :=
  mapErr ("could not remove recovered OAuth configuration: " ++ ·) (ask .removeRecovery)

/-- Whether the keyring still holds the consumed token, and whether it holds the rotated one. -/
def currentMatches (recovery : PendingOAuthRefreshRecovery)
    (currentKeyringConfig : OAuthRefreshConfig) : Refresh (Bool × Bool) :=
  match recovery.previousConfigFingerprint with
  | .hmacSha256 previous => do
      let current ← oauthRefreshConfigDigest platform currentKeyringConfig
      let rotated ← oauthRefreshConfigDigest platform recovery.rotatedConfig
      decided (.ok (current == previous, current == rotated))
  | .legacySha256 previous =>
    let current := oauthRefreshLegacySha256 platform currentKeyringConfig
    let rotated := oauthRefreshLegacySha256 platform recovery.rotatedConfig
    decided (.ok (current == previous, current == rotated))

/-- The keyring receives the rotated token, unless it has it. -/
def restorePending (persist : OAuthRefreshConfig → Refresh Unit)
    (rotatedConfig : OAuthRefreshConfig) : Bool × Bool → Refresh Unit
  | (true, _) =>
    mapErr (fun error => "could not restore the pending rotated OAuth credential to the " ++
        "keyring after bounded retries; protected recovery remains for the next attempt: " ++
        error)
      (persistRotatedRefreshConfigWithRetry rotatedConfig persist)
  | (false, true) => decided (.ok ())
  | (false, false) =>
    decided (.error ("the OAuth keyring entry changed since a rotation recovery was saved; " ++
      "refusing to overwrite it, and retaining the protected recovery file for operator " ++
      "review"))

def replayPending (currentKeyringConfig : OAuthRefreshConfig)
    (persist : OAuthRefreshConfig → Refresh Unit) (recovery : PendingOAuthRefreshRecovery) :
    Refresh (Option OAuthRefreshConfig) := do
  let isCurrent ← currentMatches platform recovery currentKeyringConfig
  restorePending persist recovery.rotatedConfig isCurrent
  clearOauthRefreshRecovery
  decided (.ok (some recovery.rotatedConfig))

def recoverPendingOauthRefresh (currentKeyringConfig : OAuthRefreshConfig)
    (persist : OAuthRefreshConfig → Refresh Unit) : Refresh (Option OAuthRefreshConfig) := do
  let pending ← readPendingOauthRefreshRecovery platform
  match pending with
  | none => decided (.ok none)
  | some recovery => replayPending platform currentKeyringConfig persist recovery

/-- The file of the run, where there is one. -/
def updateRunConfig (runConfigPath : Option String) (encoded : String) : Refresh Unit :=
  match runConfigPath with
  | none => decided (.ok ())
  | some path =>
    mapErr (fun error => "provider rotated the OAuth refresh token; durable recovery was " ++
        "saved but the per-run config could not be updated: " ++ error)
      (ask (.writeRunConfig path encoded))

def persistRotatedOauthRefresh (runConfigPath : Option String)
    (previousConfig config : OAuthRefreshConfig) (persist : OAuthRefreshConfig → Refresh Unit) :
    Refresh Unit := do
  let recovery ← encodeOauthRefreshRecovery platform previousConfig config
  mapErr (fun error => "provider rotated the OAuth refresh token but protected durable recovery " ++
      "could not be written: " ++ error)
    (ask (.writeRecovery recovery))
  updateRunConfig runConfigPath (platform.encodeConfig config)
  mapErr (fun error => "could not persist the rotated OAuth config to the OS keyring after " ++
      "bounded retries; protected recovery remains for the next attempt: " ++ error)
    (persistRotatedRefreshConfigWithRetry config persist)
  clearOauthRefreshRecovery

end Durable

/-! ## Launches -/

section Launch

variable (platform : RefreshPlatform)

def sideName (source : Bool) : String := if source then "source" else "destination"

/-- The keyring ID of a side's refresh configuration. -/
def refreshCredentialId (form : Form) (source : Bool) : String :=
  trim (if source then form.profile.sourceOauthRefreshCredentialId
    else form.profile.destinationOauthRefreshCredentialId)

def oauthRefreshKeyringEntry (form : Form) (source : Bool) : Refresh Unit :=
  mapErr (fun error => "Could not open OS keyring entry `" ++ refreshCredentialId form source ++
    "`: " ++ error) (ask .openKeyringEntry)

def storeOauthRefreshConfig (form : Form) (source : Bool) (config : OAuthRefreshConfig) :
    Refresh Unit := do
  oauthRefreshKeyringEntry form source
  mapErr ("Could not store the OAuth refresh configuration in the OS keyring: " ++ ·)
    (ask (.keyringSet (platform.encodeConfig config)))
  surely (ask (.clearRefreshRecovery source))

def loadOauthRefreshConfig (form : Form) (source : Bool) : Refresh OAuthRefreshConfig := do
  oauthRefreshKeyringEntry form source
  let stored ← mapErr
    ("Could not load the OAuth refresh configuration from the OS keyring: " ++ ·)
    (ask .keyringGet)
  decided (decodeRefreshConfig platform stored)

inductive OAuthRefreshOutcome where
  | notConfigured
  | refreshed (expiresIn : Option Nat)
deriving DecidableEq, Repr

/-- The session password of a side. -/
def setPassword (form : Form) (source : Bool) (password : String) : Form :=
  if source then { form with sourcePassword := password }
  else { form with destinationPassword := password }

def refreshed (form : Form) (source : Bool) (accessToken : String) (expiresIn : Option Nat) :
    Refresh (OAuthRefreshOutcome × Form) :=
  decided (.ok (.refreshed expiresIn, setPassword form source accessToken))

/-- The process keeps what it could not persist, and says so. -/
def retain (source : Bool) (recovery : OAuthRefreshRecovery) (error : String) :
    Refresh (OAuthRefreshOutcome × Form) := do
  surely (ask (.putRefreshRecovery source recovery))
  decided (.error error)

/-- A rotation that this process could not persist comes before another exchange. -/
def replayRefreshRecovery (form : Form) (source : Bool) (recovery : OAuthRefreshRecovery) :
    Refresh (OAuthRefreshOutcome × Form) :=
  Program.bind (persistRotatedRefreshConfigWithRetry recovery.config
      (storeOauthRefreshConfig platform form source)) fun
    | .ok () => refreshed form source recovery.accessToken recovery.expiresIn
    | .error error => retain source recovery
        ("[oauth_refresh_rotation_persistence_pending] CRITICAL: OAuth refresh " ++
          "rotation succeeded but the rotated refresh token could not be persisted; no new " ++
          "token exchange was attempted. Retry keyring persistence before resuming the " ++
          "migration (persistence error: " ++ error ++ ")")

/-- What the provider returned is persisted, or kept by this process. -/
def keepRotated (form : Form) (source : Bool) (previous : OAuthRefreshConfig)
    (refreshedToken : RefreshedToken) (rotatedRefreshToken : String) :
    Refresh (OAuthRefreshOutcome × Form) :=
  let rotated := { previous with refreshToken := rotatedRefreshToken }
  Program.bind (persistRotatedOauthRefresh platform none previous rotated
      (storeOauthRefreshConfig platform form source)) fun
    | .ok () => refreshed form source refreshedToken.accessToken refreshedToken.expiresIn
    | .error error => retain source
        { config := rotated
          accessToken := refreshedToken.accessToken
          expiresIn := refreshedToken.expiresIn }
        ("[oauth_refresh_rotation_persistence_pending] CRITICAL: OAuth refresh " ++
          "rotation succeeded but the rotated refresh token could not be persisted; the " ++
          "original refresh token may already be consumed. Retry keyring persistence before " ++
          "resuming the migration (persistence error: " ++ error ++ ")")

def exchangeForLaunch (form : Form) (source : Bool) (config : OAuthRefreshConfig) :
    Refresh (OAuthRefreshOutcome × Form) := do
  let refreshedToken ← mapErr
    (fun error => "Could not refresh the " ++ sideName source ++ " OAuth access token: " ++ error)
    (ask (.exchange config))
  match (refreshedToken : RefreshedToken).refreshToken with
  | some rotatedRefreshToken =>
    keepRotated platform form source config refreshedToken rotatedRefreshToken
  | none => refreshed form source refreshedToken.accessToken refreshedToken.expiresIn

/-- The stored token, or the one that a helper could not bring to the keyring. -/
def currentForLaunch (form : Form) (source : Bool) : Refresh OAuthRefreshConfig := do
  let config ← loadOauthRefreshConfig platform form source
  ask .recoveryDirectory
  let recovered ← recoverPendingOauthRefresh platform config
    (storeOauthRefreshConfig platform form source)
  decided (.ok (recovered.getD config))

/-- The section of a launch. -/
def refreshHoldingLock (form : Form) (source : Bool) : Refresh (OAuthRefreshOutcome × Form) := do
  let kept ← surely (ask (.takeRefreshRecovery source))
  match (kept : Option OAuthRefreshRecovery) with
  | some recovery => replayRefreshRecovery platform form source recovery
  | none => do
      let config ← currentForLaunch platform form source
      exchangeForLaunch platform form source config

/-- The lock of the credential. -/
def acquireOauthRefreshLock : Refresh Unit :=
  mapErr ("could not coordinate OAuth refresh: " ++ ·) (Program.call LockOp.acquire)

/-- Whether a side uses OAuth with automatic refresh. -/
def refreshConfigured (form : Form) (source : Bool) : Bool :=
  authMethodIsOauth (if source then form.profile.sourceAuth else form.profile.destinationAuth) &&
    !(refreshCredentialId form source).isEmpty

/-- Exchange a configured refresh token for a fresh access token and install it as the session
credential for this side. -/
def refreshOauthAccessToken (form : Form) (source : Bool) :
    Refresh (OAuthRefreshOutcome × Form) :=
  if refreshConfigured form source then do
    acquireOauthRefreshLock
    refreshHoldingLock platform form source
  else decided (.ok (.notConfigured, form))

end Launch

/-! ## Helpers -/

section Helper

variable (platform : RefreshPlatform)

/-- The latest token of the keyring. -/
def currentForHelper : Refresh OAuthRefreshConfig := do
  ask .recoveryDirectory
  mapErr ("could not open the OAuth refresh keyring entry: " ++ ·) (ask .openKeyringEntry)
  let latest ← mapErr ("could not read the latest OAuth refresh configuration: " ++ ·)
    (ask .keyringGet)
  let latestConfig ← decided ((decodeRefreshConfig platform latest).mapError
    ("the latest OS keyring OAuth configuration is invalid: " ++ ·))
  let recovered ← recoverPendingOauthRefresh platform latestConfig
    (persistAndVerifyKeyringRefreshConfig platform)
  decided (.ok (recovered.getD latestConfig))

/-- What a helper reports. -/
def helperMessage (expiresIn : Option Nat) (rotated : Bool) : String :=
  "Wrote a fresh access token to the owner-only file" ++
    (match expiresIn with
      | some seconds => "; it expires in " ++ toString seconds ++ " seconds"
      | none => "") ++ "." ++
    (if rotated then " The provider rotated the refresh token; the per-run configuration and " ++
      "configured OS keyring entry were updated." else "")

def keepRotatedForHelper (configPath : String) (config : OAuthRefreshConfig)
    (rotated : Option String) : Refresh Unit :=
  match rotated with
  | none => decided (.ok ())
  | some rotated =>
    persistRotatedOauthRefresh platform (some configPath) config
      { config with refreshToken := rotated } (persistAndVerifyKeyringRefreshConfig platform)

/-- The section of a helper. -/
def helperHoldingLock (configPath outputPath : String) : Refresh String := do
  let config ← currentForHelper platform
  let refreshedToken ← mapErr ("OAuth access token refresh failed: " ++ ·)
    (ask (.exchange config))
  keepRotatedForHelper platform configPath config (refreshedToken : RefreshedToken).refreshToken
  mapErr ("could not write the access token file: " ++ ·)
    (ask (.writeAccessToken outputPath (refreshedToken : RefreshedToken).accessToken))
  decided (.ok (helperMessage (refreshedToken : RefreshedToken).expiresIn
    (refreshedToken : RefreshedToken).refreshToken.isSome))

/-- `oauth-access-token` for a keyring credential: what imapsync calls when it reconnects. -/
def oauthAccessTokenCommand (configPath outputPath : String) : Refresh String := do
  mapErr ("could not lock OAuth refresh configuration: " ++ ·) (ask (.lockRunConfig configPath))
  let stored ← mapErr ("OAuth refresh configuration file: " ++ ·)
    (ask (.readRunConfig configPath))
  let _ ← decided (decodeRefreshConfig platform stored)
  acquireOauthRefreshLock
  helperHoldingLock platform configPath outputPath

end Helper

end MailSwiftSync.OAuth
