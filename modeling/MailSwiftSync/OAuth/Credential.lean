import Mathlib.Data.List.Basic
import MailSwiftSync.OAuth.Refresh

/-!
# A credential and its provider

What the keyring, the recovery file and the provider hold for one credential, what each process
keeps for itself, and how they answer.  A write that reports an error may have happened or not,
the answer to an exchange may be lost, and what a process keeps dies with it.
-/

namespace MailSwiftSync.OAuth

open Foundation

/-- What is stored for a credential, and what its provider knows. -/
structure Credential where
  keyring : Option String
  recovery : Option String
  /-- The newest refresh token; the provider accepts no other. -/
  live : String
  /-- Refresh tokens that were consumed or replaced. -/
  retired : List String
  /-- Whether the newest refresh token has reached the recovery file or the keyring. -/
  saved : Bool
  /-- The configurations of the run: granted, rotated to or taken back. -/
  issued : List OAuthRefreshConfig
deriving DecidableEq, Repr

/-- The credential, what each process keeps for its two sides, and the files of the runs. -/
structure World (ι : Type) where
  credential : Credential
  registry : ι → Bool → Option OAuthRefreshRecovery := fun _ _ => none
  runConfigs : String → Option String := fun _ => none

section Serving

variable (platform : RefreshPlatform)

/-- The refresh token of a stored configuration. -/
def tokenOf (text : String) : Option String :=
  (platform.parseConfig text).toOption.map (·.refreshToken)

/-- The rotated refresh token of a recovery file. -/
def rotatedTokenOf (text : String) : Option String :=
  (platform.parseRecord text).toOption.bind fun record => tokenOf platform record.rotatedConfig

namespace Credential

def setKeyring (text : String) (credential : Credential) : Credential :=
  { credential with
    keyring := some text
    saved := tokenOf platform text == some credential.live || credential.saved }

def setRecovery (text : String) (credential : Credential) : Credential :=
  { credential with
    recovery := some text
    saved := rotatedTokenOf platform text == some credential.live || credential.saved }

def removeRecovery (credential : Credential) : Credential :=
  { credential with recovery := none }

/-- The provider issues a new refresh token and consumes the old one. -/
def rotate (config : OAuthRefreshConfig) (credential : Credential) : Credential :=
  { credential with
    live := config.refreshToken
    retired := credential.live :: credential.retired
    saved := false
    issued := config :: credential.issued }

/-- A token that was never issued. -/
def Unused (token : String) (credential : Credential) : Prop :=
  token ≠ credential.live ∧ token ∉ credential.retired

instance (token : String) (credential : Credential) : Decidable (Unused token credential) :=
  inferInstanceAs (Decidable (_ ∧ _))

/-- A write that fails may have happened. -/
def Wrote (before written : Credential) (answer : Except String Unit) (after : Credential) :
    Prop :=
  match answer with
  | .ok () => after = written
  | .error _ => after = before ∨ after = written

/-- The newest token is exchanged, with or without rotation; other tokens are refused. -/
def Exchanged (config : OAuthRefreshConfig) (before : Credential)
    (answer : Except String RefreshedToken) (after : Credential) : Prop :=
  match answer with
  | .ok refreshedToken =>
    config.refreshToken = before.live ∧
      match refreshedToken.refreshToken with
      | some token =>
        Unused token before ∧ after = before.rotate { config with refreshToken := token }
      | none => after = before
  | .error _ =>
    after = before ∨
      config.refreshToken = before.live ∧ ∃ token, Unused token before ∧
        after = before.rotate { config with refreshToken := token }

/-- What an operation finds in the credential and does to it. -/
def Answers (before : Credential) : (op : RefreshOp) → op.Answer → Credential → Prop
  | .keyringGet => fun answer after =>
    after = before ∧ ∀ text, answer = .ok text → before.keyring = some text
  | .keyringSet text => Wrote before (before.setKeyring platform text)
  | .recoveryExists => fun answer after =>
    after = before ∧ ∀ present, answer = .ok present → before.recovery.isSome = present
  | .readRecovery => fun answer after =>
    after = before ∧ ∀ text, answer = .ok text → before.recovery = some text
  | .writeRecovery text => Wrote before (before.setRecovery platform text)
  | .removeRecovery => Wrote before before.removeRecovery
  | .exchange config => Exchanged config before
  | .takeRefreshRecovery _ => fun answer after =>
    after = { before with issued := (answer.map (·.config)).toList ++ before.issued }
  | _ => fun _ after => after = before

end Credential

namespace World

variable {ι : Type} [DecidableEq ι] (process : ι)

/-- What the process keeps for one side. -/
def keep (source : Bool) (recovery : Option OAuthRefreshRecovery)
    (registry : ι → Bool → Option OAuthRefreshRecovery) :
    ι → Bool → Option OAuthRefreshRecovery :=
  Function.update registry process (Function.update (registry process) source recovery)

/-- A file that a failed write may have replaced. -/
def WroteFile (before after : String → Option String) (path text : String)
    (answer : Except String Unit) : Prop :=
  match answer with
  | .ok () => after = Function.update before path (some text)
  | .error _ => after = before ∨ after = Function.update before path (some text)

/-- How the world answers a process. -/
def Serves (world : World ι) (op : RefreshOp) (answer : op.Answer) (after : World ι) : Prop :=
  world.credential.Answers platform op answer after.credential ∧
    match op, answer with
    | .takeRefreshRecovery source, answer =>
      answer = world.registry process source ∧
        after.registry = keep process source none world.registry ∧
        after.runConfigs = world.runConfigs
    | .putRefreshRecovery source recovery, _ =>
      after.registry = keep process source (some recovery) world.registry ∧
        after.runConfigs = world.runConfigs
    | .clearRefreshRecovery source, _ =>
      after.registry = keep process source none world.registry ∧
        after.runConfigs = world.runConfigs
    | .readRunConfig path, answer =>
      (∀ text, answer = .ok text → world.runConfigs path = some text) ∧
        after.registry = world.registry ∧ after.runConfigs = world.runConfigs
    | .writeRunConfig path text, answer =>
      after.registry = world.registry ∧
        WroteFile world.runConfigs after.runConfigs path text answer
    | _, _ => after.registry = world.registry ∧ after.runConfigs = world.runConfigs

/-- A process dies with what it keeps. -/
def Dies (world after : World ι) : Prop :=
  after = { world with registry := Function.update world.registry process fun _ => none }

/-- The operator stores the configuration of a new grant, or deletes the entry; the process this
is done in forgets what it kept for that side. -/
def Managed (world after : World ι) : Prop :=
  ∃ process source, after.registry = keep process source none world.registry ∧
    after.runConfigs = world.runConfigs ∧
    ((∃ config : OAuthRefreshConfig, world.credential.Unused config.refreshToken ∧
        after.credential = (world.credential.rotate config).setKeyring platform
          (platform.encodeConfig config)) ∨
      after.credential = { world.credential with keyring := none, saved := false })

end World

/-! ## Sessions -/

/-- What processes do with the credential: launches of either side, and helpers. -/
inductive StartsSession (keyringId : String) :
    Session RefreshOp String RefreshOp.Answer Unit → Prop where
  | launch (form : Queue.Form) (source : Bool)
      (isId : refreshCredentialId form source = keyringId) :
      StartsSession keyringId
        (Program.bind (refreshOauthAccessToken platform form source) fun _ => .done ())
  | helper (configPath outputPath : String) :
      StartsSession keyringId
        (Program.bind (oauthAccessTokenCommand platform configPath outputPath) fun _ => .done ())

/-- Two configurations that a fingerprint does not tell apart. -/
def SameDigest (first second : OAuthRefreshConfig) : Prop :=
  platform.sha256 (platform.encodeConfig first) = platform.sha256 (platform.encodeConfig second) ∨
    platform.hmacSha256 (platform.encodeConfig first) =
      platform.hmacSha256 (platform.encodeConfig second)

/-- No digests of these configurations collide. -/
def Apart (configs : List OAuthRefreshConfig) : Prop :=
  ∀ first ∈ configs, ∀ second ∈ configs, SameDigest platform first second → first = second

/-- A recovery that a process takes back is not overtaken by a later rotation, and no digests of
the configurations of the run collide. -/
def InOrder (before after : Credential) : (op : RefreshOp) → op.Answer → Prop
  | .takeRefreshRecovery _ => fun answer =>
    Apart platform after.issued ∧ ∀ recovery : OAuthRefreshRecovery, answer = some recovery →
      before.saved = true → recovery.config.refreshToken = before.live
  | .exchange _ => fun _ => Apart platform after.issued
  | _ => fun _ => True

variable (ι : Type) [DecidableEq ι] (keyringId : String)

/-- Any number of processes around one credential. -/
def refreshing : Locking ι (World ι) RefreshOp String RefreshOp.Answer Unit where
  starts := fun _ => StartsSession platform keyringId
  serves := fun process world => World.Serves platform process world
  dies := World.Dies
  outside := World.Managed platform

/-- The runs in which no process takes back a recovery that was overtaken, and no digests of
configurations collide. -/
def refreshingInOrder : Locking ι (World ι) RefreshOp String RefreshOp.Answer Unit :=
  { refreshing platform ι keyringId with
    serves := fun process world op answer after =>
      World.Serves platform process world op answer after ∧
        InOrder platform world.credential after.credential op answer
    outside := fun world after =>
      World.Managed platform world after ∧ Apart platform after.credential.issued }

end Serving

end MailSwiftSync.OAuth
