import Mathlib.Logic.Function.Basic
import MailSwiftSync.OAuth.Credential

/-!
# What must be kept of a credential

Once the newest refresh token has reached the recovery file or the keyring, it stays with the
credential: it is in the keyring, or the recovery file holds it and applies to what the keyring
holds.  Each write of a session keeps this, where its configuration is the newest one.
-/

namespace MailSwiftSync.OAuth

open Foundation

/-- The JSON crate reads back what it wrote. -/
structure RefreshPlatform.Faithful (platform : RefreshPlatform) : Prop where
  config : ∀ config, platform.parseConfig (platform.encodeConfig config) = .ok config
  record : ∀ digest rotated, platform.parseRecord (platform.encodeRecord digest rotated) =
    .ok { formatVersion := 2, previousConfigHmacSha256 := some digest, rotatedConfig := rotated }

section Kept

variable (platform : RefreshPlatform)

/-- The configuration that a fingerprint is of. -/
def Fits (config : OAuthRefreshConfig) : PreviousOAuthConfigFingerprint → Prop
  | .legacySha256 digest => platform.sha256 (platform.encodeConfig config) = digest
  | .hmacSha256 digest => platform.hmacSha256 (platform.encodeConfig config) = digest

namespace Credential

/-- What the keyring entry is. -/
def Holds (credential : Credential) (config : OAuthRefreshConfig) : Prop :=
  ∃ text, credential.keyring = some text ∧ platform.parseConfig text = .ok config

/-- A recovery file that says which configuration replaces which. -/
def Replaces (credential : Credential) (previous rotated : OAuthRefreshConfig) : Prop :=
  ∃ text record fingerprint, credential.recovery = some text ∧
    platform.parseRecord text = .ok record ∧ record.fingerprint = .ok fingerprint ∧
    Fits platform previous fingerprint ∧ platform.parseConfig record.rotatedConfig = .ok rotated

/-- The newest token is in the keyring, or the recovery file replaces what is there with it. -/
def Kept (credential : Credential) : Prop :=
  ∃ config, credential.Holds platform config ∧
    (config.refreshToken = credential.live ∨
      ∃ rotated, credential.Replaces platform config rotated ∧
        rotated.refreshToken = credential.live)

/-- What every session keeps. -/
structure Intact (credential : Credential) : Prop where
  kept : credential.saved = true → credential.Kept platform
  newest : credential.live ∉ credential.retired
  apart : Apart platform credential.issued
  held : ∀ config, credential.Holds platform config → config ∈ credential.issued
  /-- A recovery file replaces a configuration whose token was consumed. -/
  pending : ∀ stored recovery, credential.recovery = some stored →
    decodeOauthRefreshRecovery platform stored = .ok recovery →
    recovery.rotatedConfig ∈ credential.issued ∧
      ∃ previous ∈ credential.issued, previous.refreshToken ∈ credential.retired ∧
        Fits platform previous recovery.previousConfigFingerprint

/-- A configuration that may be written. -/
structure Current (config : OAuthRefreshConfig) (credential : Credential) : Prop where
  intact : credential.Intact platform
  isIssued : config ∈ credential.issued
  live : credential.saved = true → config.refreshToken = credential.live

/-- The configuration that is in the keyring and needs no recovery. -/
structure Ready (config : OAuthRefreshConfig) (credential : Credential) : Prop
    extends Current platform config credential where
  held : credential.Holds platform config

/-- The newest token after an exchange: it replaces what the keyring holds. -/
structure Rotated (previous rotated : OAuthRefreshConfig) (credential : Credential) : Prop where
  intact : credential.Intact platform
  held : credential.Holds platform previous
  consumed : previous.refreshToken ∈ credential.retired
  isIssued : rotated ∈ credential.issued
  live : rotated.refreshToken = credential.live

end Credential

section Facts

variable {platform} {credential : Credential} {config previous rotated : OAuthRefreshConfig}

theorem decodeRefreshConfig_parses {json : String}
    (decoded : decodeRefreshConfig platform json = .ok config) :
    platform.parseConfig json = .ok config := by
  rw [decodeRefreshConfig] at decoded
  split at decoded
  · cases decoded
  · split at decoded
    · cases decoded
    · next stored isStored =>
        rw [isStored]
        split at decoded
        · cases decoded
        · split at decoded
          · cases decoded
          · exact decoded

theorem sameDigest_of_fits {fingerprint : PreviousOAuthConfigFingerprint}
    (fits : Fits platform config fingerprint) (fitted : Fits platform previous fingerprint) :
    SameDigest platform config previous := by
  cases fingerprint with
  | legacySha256 digest => exact .inl (fits.trans fitted.symm)
  | hmacSha256 digest => exact .inr (fits.trans fitted.symm)

theorem encodeConfig_injective (faithful : platform.Faithful) :
    Function.Injective platform.encodeConfig := by
  intro first second same
  have isFirst := faithful.config first
  rw [same, faithful.config second] at isFirst
  exact (Except.ok.inj isFirst).symm

theorem decodeOauthRefreshRecovery_eq_ok {stored : String}
    {recovery : PendingOAuthRefreshRecovery}
    (decoded : decodeOauthRefreshRecovery platform stored = .ok recovery) :
    ∃ record, platform.parseRecord stored = .ok record ∧
      record.fingerprint = .ok recovery.previousConfigFingerprint ∧
      platform.parseConfig record.rotatedConfig = .ok recovery.rotatedConfig := by
  obtain ⟨record, isRecord, decoded⟩ := bind_eq_ok.mp decoded
  obtain ⟨fingerprint, isFingerprint, decoded⟩ := bind_eq_ok.mp decoded
  obtain ⟨config, isConfig, decoded⟩ := bind_eq_ok.mp decoded
  cases Except.ok.inj decoded
  cases parsed : platform.parseRecord stored with
  | error error =>
    rw [parsed] at isRecord
    cases isRecord
  | ok parsedRecord =>
    rw [parsed] at isRecord
    cases isRecord
    exact ⟨record, rfl, isFingerprint, decodeRefreshConfig_parses isConfig⟩

namespace Credential

theorem Holds.unique (held : credential.Holds platform config)
    (alsoHeld : credential.Holds platform previous) : config = previous := by
  obtain ⟨text, isText, isConfig⟩ := held
  obtain ⟨other, isOther, isPrevious⟩ := alsoHeld
  cases Option.some.inj (isText.symm.trans isOther)
  exact Except.ok.inj (isConfig.symm.trans isPrevious)

/-- What a recovery file replaces, once it is read. -/
theorem Replaces.eq_rotated (replaces : credential.Replaces platform previous rotated)
    {stored : String} {recovery : PendingOAuthRefreshRecovery}
    (isStored : credential.recovery = some stored)
    (decoded : decodeOauthRefreshRecovery platform stored = .ok recovery) :
    rotated = recovery.rotatedConfig := by
  obtain ⟨record, isRecord, _, isRotated⟩ := decodeOauthRefreshRecovery_eq_ok decoded
  obtain ⟨text, other, _, isText, isOther, _, _, isOtherRotated⟩ := replaces
  cases Option.some.inj (isStored.symm.trans isText)
  cases Except.ok.inj (isRecord.symm.trans isOther)
  exact Except.ok.inj (isOtherRotated.symm.trans isRotated)

/-- Without a recovery file the keyring holds the newest token. -/
theorem Intact.ready_of_none (intact : credential.Intact platform)
    (none : credential.recovery = none) (held : credential.Holds platform config) :
    credential.Ready platform config where
  intact := intact
  isIssued := intact.held config held
  held := held
  live := by
    intro saved
    obtain ⟨other, otherHeld, live | ⟨rotated, ⟨text, _, _, isText, _⟩, _⟩⟩ := intact.kept saved
    · rwa [held.unique otherHeld]
    · cases none.symm.trans isText

section Recovering

variable {stored : String} {recovery : PendingOAuthRefreshRecovery}

/-- What a recovery fits was consumed. -/
theorem Intact.retired_of_fits (intact : credential.Intact platform)
    (isStored : credential.recovery = some stored)
    (decoded : decodeOauthRefreshRecovery platform stored = .ok recovery)
    (isIssued : config ∈ credential.issued)
    (fits : Fits platform config recovery.previousConfigFingerprint) :
    config.refreshToken ∈ credential.retired := by
  obtain ⟨_, previous, wasIssued, consumed, fitted⟩ :=
    intact.pending stored recovery isStored decoded
  rw [intact.apart config isIssued previous wasIssued (sameDigest_of_fits fits fitted)]
  exact consumed

/-- A recovery that replaces what the keyring holds has the newest token. -/
theorem Intact.current_of_fits (intact : credential.Intact platform)
    (isStored : credential.recovery = some stored)
    (decoded : decodeOauthRefreshRecovery platform stored = .ok recovery)
    (held : credential.Holds platform config)
    (fits : Fits platform config recovery.previousConfigFingerprint) :
    credential.Current platform recovery.rotatedConfig where
  intact := intact
  isIssued := (intact.pending stored recovery isStored decoded).1
  live := by
    intro saved
    obtain ⟨other, otherHeld, live | ⟨rotated, rotates, live⟩⟩ := intact.kept saved
    · cases held.unique otherHeld
      have consumed := intact.retired_of_fits isStored decoded (intact.held config held) fits
      exact absurd (live ▸ consumed) intact.newest
    · rw [← rotates.eq_rotated isStored decoded]
      exact live

/-- A recovery that the keyring already has is the newest token. -/
theorem Intact.ready_of_rotated (intact : credential.Intact platform)
    (isStored : credential.recovery = some stored)
    (decoded : decodeOauthRefreshRecovery platform stored = .ok recovery)
    (held : credential.Holds platform recovery.rotatedConfig) :
    credential.Ready platform recovery.rotatedConfig where
  intact := intact
  isIssued := intact.held _ held
  held := held
  live := by
    intro saved
    obtain ⟨other, otherHeld, live | ⟨rotated, rotates, live⟩⟩ := intact.kept saved
    · rwa [held.unique otherHeld]
    · rw [← rotates.eq_rotated isStored decoded]
      exact live

end Recovering

/-! ## Writes -/

theorem setKeyring_holds (faithful : platform.Faithful) (config : OAuthRefreshConfig)
    (credential : Credential) :
    (credential.setKeyring platform (platform.encodeConfig config)).Holds platform config :=
  ⟨_, rfl, faithful.config config⟩

theorem setKeyring_saved (faithful : platform.Faithful)
    (saved : (credential.setKeyring platform (platform.encodeConfig config)).saved = true) :
    credential.saved = true ∨ config.refreshToken = credential.live := by
  rw [setKeyring, tokenOf, faithful.config] at saved
  simpa [Except.toOption, or_comm] using saved

/-- The keyring receives a configuration that may be written. -/
theorem Current.setKeyring (current : credential.Current platform config)
    (faithful : platform.Faithful) :
    (credential.setKeyring platform (platform.encodeConfig config)).Ready platform config where
  held := setKeyring_holds faithful config credential
  isIssued := current.isIssued
  live := fun saved => (setKeyring_saved faithful saved).elim current.live id
  intact :=
    { kept := fun saved => ⟨config, setKeyring_holds faithful config credential,
        .inl ((setKeyring_saved faithful saved).elim current.live id)⟩
      newest := current.intact.newest
      apart := current.intact.apart
      held := by
        intro other otherHeld
        rw [otherHeld.unique (setKeyring_holds faithful config credential)]
        exact current.isIssued
      pending := current.intact.pending }

/-- A recovery file that is no longer needed. -/
theorem Ready.removeRecovery (ready : credential.Ready platform config) :
    credential.removeRecovery.Ready platform config where
  held := ready.held
  isIssued := ready.isIssued
  live := ready.live
  intact :=
    { ready.intact with
      kept := fun saved => ⟨config, ready.held, .inl (ready.live saved)⟩
      pending := nofun }

/-- More configurations may be in the run. -/
theorem Intact.widen (intact : credential.Intact platform) {configs : List OAuthRefreshConfig}
    (keeps : credential.issued ⊆ configs) (apart : Apart platform configs) :
    ({ credential with issued := configs } : Credential).Intact platform where
  kept := intact.kept
  newest := intact.newest
  apart := apart
  held := fun config held => keeps (intact.held config held)
  pending := by
    intro stored recovery isStored decoded
    obtain ⟨isIssued, previous, wasIssued, rest⟩ := intact.pending stored recovery isStored decoded
    exact ⟨keeps isIssued, previous, keeps wasIssued, rest⟩

theorem Intact.rotate (intact : credential.Intact platform)
    (isUnused : credential.Unused rotated.refreshToken)
    (apart : Apart platform (rotated :: credential.issued)) :
    (credential.rotate rotated).Intact platform where
  kept := nofun
  apart := apart
  held := (intact.widen (List.subset_cons_self _ _) apart).held
  pending := by
    intro stored recovery isStored decoded
    obtain ⟨isIssued, previous, wasIssued, consumed, fits⟩ :=
      (intact.widen (List.subset_cons_self _ _) apart).pending stored recovery isStored decoded
    exact ⟨isIssued, previous, wasIssued, List.mem_cons_of_mem _ consumed, fits⟩
  newest := by
    intro retired
    cases List.mem_cons.mp retired with
    | inl same => exact isUnused.1 same
    | inr earlier => exact isUnused.2 earlier

/-- The provider answers with a new token. -/
theorem Ready.rotate (ready : credential.Ready platform config)
    (exchanged : config.refreshToken = credential.live)
    (isUnused : credential.Unused rotated.refreshToken)
    (apart : Apart platform (rotated :: credential.issued)) :
    (credential.rotate rotated).Rotated platform config rotated where
  intact := ready.intact.rotate isUnused apart
  held := ready.held
  consumed := List.mem_cons.mpr (.inl exchanged)
  isIssued := List.mem_cons_self
  live := rfl

/-- The recovery file of a rotation. -/
def rotationRecord (platform : RefreshPlatform) (previous rotated : OAuthRefreshConfig) : String :=
  platform.encodeRecord (platform.hmacSha256 (platform.encodeConfig previous))
    (platform.encodeConfig rotated)

theorem decode_rotationRecord (faithful : platform.Faithful)
    {recovery : PendingOAuthRefreshRecovery}
    (decoded : decodeOauthRefreshRecovery platform (rotationRecord platform previous rotated) =
      .ok recovery) :
    recovery.rotatedConfig = rotated ∧
      Fits platform previous recovery.previousConfigFingerprint := by
  obtain ⟨record, isRecord, isFingerprint, isRotated⟩ := decodeOauthRefreshRecovery_eq_ok decoded
  rw [rotationRecord, faithful.record] at isRecord
  cases isRecord
  rw [← Except.ok.inj isFingerprint]
  exact ⟨Except.ok.inj (isRotated.symm.trans (faithful.config rotated)), rfl⟩

/-- The recovery file receives the new token. -/
theorem Rotated.setRecovery (isRotated : credential.Rotated platform previous rotated)
    (faithful : platform.Faithful) :
    (credential.setRecovery platform (rotationRecord platform previous rotated)).Current platform
      rotated where
  isIssued := isRotated.isIssued
  live := fun _ => isRotated.live
  intact :=
    { isRotated.intact with
      kept := fun _ => ⟨previous, isRotated.held, .inr ⟨rotated,
        ⟨_, _, _, rfl, faithful.record _ _, rfl, rfl, faithful.config rotated⟩, isRotated.live⟩⟩
      pending := by
        intro stored recovery isStored decoded
        cases isStored
        obtain ⟨same, fits⟩ := decode_rotationRecord faithful decoded
        rw [same]
        exact ⟨isRotated.isIssued, previous, isRotated.intact.held previous isRotated.held,
          isRotated.consumed, fits⟩ }

end Credential

end Facts

end Kept

end MailSwiftSync.OAuth
