import MailSwiftSync.Foundation.QuotedFields
import MailSwiftSync.OAuth.Sections

/-!
# No rotated token is lost

Launches and helpers of any number of processes, in any order, with crashes anywhere: the newest
refresh token that was saved stays with its credential, and no consumed token is exchanged in its
place.
-/

namespace MailSwiftSync.OAuth

open Foundation Queue

section Runs

variable {platform : RefreshPlatform} {ι : Type} [DecidableEq ι] {keyringId : String}

/-- A section that keeps the credential intact, once the lock is held. -/
theorem Succeeds.outside {α : Type} {attempt : Refresh α}
    (succeeds : Succeeds platform (Credential.Intact platform) attempt
      (fun _ => Credential.Intact platform) (Credential.Intact platform)) (process : ι) :
    (refreshingInOrder platform ι keyringId).Outside (refreshRules platform) process
      (Program.bind (acquireOauthRefreshLock >>= fun _ => attempt : Refresh α) fun _ =>
        .done ()) := by
  refine ⟨?_, fun _ => Locking.outside_done process ()⟩
  intro world intact
  have ended : Meets platform (Credential.Intact platform)
      (Program.bind attempt fun _ => (.done () : Session RefreshOp String RefreshOp.Answer Unit))
      fun _ => Credential.Intact platform := by
    apply Meets.bind succeeds
    intro result
    cases result with
    | ok value => exact Meets.done fun _ holds => holds
    | error error => exact Meets.done fun _ holds => holds
  exact ended ι keyringId process world intact

theorem outside_helper (faithful : platform.Faithful) (process : ι)
    (configPath outputPath stored : String) :
    (refreshingInOrder platform ι keyringId).Outside (refreshRules platform) process
      (Program.bind (decided (decodeRefreshConfig platform stored) >>= fun _ =>
        acquireOauthRefreshLock >>= fun _ =>
          helperHoldingLock platform configPath outputPath : Refresh String) fun _ =>
        .done ()) := by
  cases decodeRefreshConfig platform stored with
  | error error => exact Locking.outside_done process ()
  | ok config => exact (helperHoldingLock_succeeds faithful configPath outputPath).outside process

theorem started_outside (faithful : platform.Faithful) (process : ι)
    {session : Session RefreshOp String RefreshOp.Answer Unit}
    (starts : StartsSession platform keyringId session) :
    (refreshingInOrder platform ι keyringId).Outside (refreshRules platform) process session := by
  cases starts with
  | launch form source isId =>
    rw [refreshOauthAccessToken]
    cases refreshConfigured form source with
    | false => exact Locking.outside_done process ()
    | true => exact (refreshHoldingLock_succeeds faithful form source).outside process
  | helper configPath outputPath =>
    refine ⟨trivial, ?_⟩
    intro locked
    cases locked with
    | error error => exact Locking.outside_done process ()
    | ok done =>
      refine ⟨trivial, ?_⟩
      intro stored
      cases stored with
      | error error => exact Locking.outside_done process ()
      | ok stored => exact outside_helper faithful process configPath outputPath stored

theorem Managed.intact (faithful : platform.Faithful) {before after : World ι}
    (managed : World.Managed platform before after)
    (apart : Apart platform after.credential.issued)
    (intact : before.credential.Intact platform) : after.credential.Intact platform := by
  obtain ⟨_, _, _, _, ⟨config, isUnused, stored⟩ | deleted⟩ := managed
  · rw [stored] at apart ⊢
    have current : (before.credential.rotate config).Current platform config :=
      ⟨intact.rotate isUnused apart, List.mem_cons_self, fun _ => rfl⟩
    exact (current.setKeyring faithful).intact
  · rw [deleted]
    exact { intact with
      kept := nofun
      held := nofun }

theorem refreshing_discipline (faithful : platform.Faithful) :
    (refreshingInOrder platform ι keyringId).Discipline (refreshRules platform) where
  fair := fair_leavesCredential ι keyringId
  started := fun process _ starts => started_outside faithful process starts
  harmless := by
    intro process op aside world answer after served
    cases op with
    | lockRunConfig path =>
      have same : after.credential = world.credential := served.1.1
      refine ⟨?_, fun _ _ => same⟩
      intro intact
      change after.credential.Intact platform
      rw [same]
      exact intact
    | readRunConfig path =>
      have same : after.credential = world.credential := served.1.1
      refine ⟨?_, fun _ _ => same⟩
      intro intact
      change after.credential.Intact platform
      rw [same]
      exact intact
    | _ => exact aside.elim
  crashSafe := by
    intro process world op after admitted death
    rw [show after = _ from death]
    exact admitted.1
  death := by
    intro process world after death
    rw [show after = _ from death]
    exact ⟨id, fun _ _ => rfl⟩
  around := fun world after managed intact => Managed.intact faithful managed.1 managed.2 intact

variable {start : World ι} {state : LockState ι (World ι) RefreshOp String RefreshOp.Answer Unit}

/-- Wherever processes stop, the newest refresh token that was saved is in the keyring, or in a
recovery file that applies to what the keyring holds. -/
theorem newest_token_kept (faithful : platform.Faithful)
    (intact : start.credential.Intact platform)
    (reaches : Locking.Reaches (refreshingInOrder platform ι keyringId) (Locking.atRest start)
      state) (saved : state.world.credential.saved = true) :
    state.world.credential.Kept platform := by
  have discipline : (refreshingInOrder platform ι keyringId).Discipline (refreshRules platform) :=
    refreshing_discipline faithful
  have orderly := (Locking.orderly_atRest intact).reaches discipline reaches
  exact (orderly.always discipline fun _ _ _ admitted => admitted.1).kept saved

/-- No process presents a consumed token while the newest one is saved, and only the process that
holds the lock exchanges. -/
theorem newest_token_exchanged (faithful : platform.Faithful)
    (intact : start.credential.Intact platform)
    (reaches : Locking.Reaches (refreshingInOrder platform ι keyringId) (Locking.atRest start)
      state) {process : ι} {config : OAuthRefreshConfig}
    {next : Except String RefreshedToken → Session RefreshOp String RefreshOp.Answer Unit}
    (asks : state.running process = some (.ask (.call (.exchange config)) next)) :
    state.holder = some process ∧ (state.world.credential.saved = true →
      config.refreshToken = state.world.credential.live) := by
  have discipline : (refreshingInOrder platform ι keyringId).Discipline (refreshRules platform) :=
    refreshing_discipline faithful
  have orderly := (Locking.orderly_atRest intact).reaches discipline reaches
  have admitted := orderly.admitted discipline asks id
  exact ⟨admitted.1, admitted.2.2⟩

end Runs

/-! ## One credential -/

namespace OneCredential

/-- The JSON of a configuration. -/
def configLiterals : List (List Char) :=
  ["\x7b\"token_endpoint\":".toList, ",\"client_id\":".toList, ",\"client_secret\":".toList,
    ",\"refresh_token\":".toList]

def recordLiterals : List (List Char) :=
  ["\x7b\"format_version\":2,\"previous_config_hmac_sha256\":".toList,
    ",\"rotated_config\":".toList]

def json : RefreshPlatform where
  encodeConfig config := String.ofList (writeFields (configLiterals.zip
    [config.tokenEndpoint.toList, config.clientId.toList, config.clientSecret.toList,
      config.refreshToken.toList]))
  parseConfig text :=
    match readFields configLiterals text.toList with
    | some [tokenEndpoint, clientId, clientSecret, refreshToken] =>
      .ok
        { tokenEndpoint := String.ofList tokenEndpoint
          clientId := String.ofList clientId
          clientSecret := String.ofList clientSecret
          refreshToken := String.ofList refreshToken }
    | _ => .error "expected a configuration"
  encodeRecord digest rotated := String.ofList (writeFields (recordLiterals.zip
    [digest.toList, rotated.toList]))
  parseRecord text :=
    match readFields recordLiterals text.toList with
    | some [digest, rotated] =>
      .ok
        { formatVersion := 2
          previousConfigHmacSha256 := some (String.ofList digest)
          rotatedConfig := String.ofList rotated }
    | _ => .error "expected a recovery record"
  hmacSha256 := id
  sha256 := id

/-- Fields are read after their literals. -/
theorem readFields_zip {literals fields : List (List Char)}
    (sameLength : literals.length = fields.length) :
    readFields literals (writeFields (literals.zip fields)) = some fields := by
  have reads := readFields_writeFields (literals.zip fields)
  rwa [List.map_fst_zip sameLength.le, List.map_snd_zip sameLength.ge] at reads

theorem parse_encodeConfig (config : OAuthRefreshConfig) :
    json.parseConfig (json.encodeConfig config) = .ok config := by
  rw [json]
  dsimp only
  rw [String.toList_ofList, readFields_zip]
  · simp only [String.ofList_toList]
  · rfl

theorem parse_encodeRecord (digest rotated : String) :
    json.parseRecord (json.encodeRecord digest rotated) =
      .ok { formatVersion := 2, previousConfigHmacSha256 := some digest,
            rotatedConfig := rotated } := by
  rw [json]
  dsimp only
  rw [String.toList_ofList, readFields_zip]
  · simp only [String.ofList_toList]
  · rfl

theorem json_faithful : json.Faithful where
  config := parse_encodeConfig
  record := parse_encodeRecord

theorem json_apart (configs : List OAuthRefreshConfig) : Apart json configs :=
  fun _ _ _ _ same => encodeConfig_injective json_faithful (or_self_iff.mp same)

/-- The configuration that the operator stored. -/
def granted : OAuthRefreshConfig where
  tokenEndpoint := "https://t.example"
  clientId := "app"
  clientSecret := ""
  refreshToken := "a1"

/-- The configuration that an earlier exchange rotated to. -/
def renewed : OAuthRefreshConfig := { granted with refreshToken := "b2" }

section Run

variable (platform : RefreshPlatform)

/-- The provider has rotated the token of an exchange. -/
def exchanged : Credential where
  keyring := some (platform.encodeConfig granted)
  recovery := none
  live := "b2"
  retired := ["a1"]
  saved := false
  issued := [renewed, granted]

/-- The exchange crashed once its recovery file was written. -/
def start : World Unit where
  credential := (exchanged platform).setRecovery platform
    (Credential.rotationRecord platform granted renewed)
  runConfigs := fun path => if path = "run.json" then some (platform.encodeConfig granted) else none

/-- A provider that rotates once. -/
def answers (world : World Unit) : (op : RefreshOp) → op.Answer × World Unit
  | .openKeyringEntry => (.ok (), world)
  | .keyringGet =>
    (match world.credential.keyring with
      | some text => .ok text
      | none => .error "No matching entry found in secure storage", world)
  | .keyringSet text =>
    (.ok (), { world with credential := world.credential.setKeyring platform text })
  | .recoveryDirectory => (.ok (), world)
  | .recoveryExists => (.ok world.credential.recovery.isSome, world)
  | .readRecovery =>
    (match world.credential.recovery with
      | some text => .ok text
      | none => .error "could not open secret file", world)
  | .writeRecovery text =>
    (.ok (), { world with credential := world.credential.setRecovery platform text })
  | .removeRecovery => (.ok (), { world with credential := world.credential.removeRecovery })
  | .fingerprintKey => (.ok (), world)
  | .exchange config =>
    if config.refreshToken = world.credential.live ∧ world.credential.Unused "c3" then
      (.ok { accessToken := "access", refreshToken := some "c3", expiresIn := some 3600 },
        { world with credential := world.credential.rotate { config with refreshToken := "c3" } })
    else (.error "token endpoint rejected the token request (HTTP 400: invalid_grant)", world)
  | .takeRefreshRecovery _ => (none, world)
  | .putRefreshRecovery _ _ => ((), world)
  | .clearRefreshRecovery _ => ((), world)
  | .lockRunConfig _ => (.ok (), world)
  | .readRunConfig path =>
    (match world.runConfigs path with
      | some text => .ok text
      | none => .error "could not open secret file", world)
  | .writeRunConfig path text =>
    (.ok (), { world with runConfigs := Function.update world.runConfigs path (some text) })
  | .writeAccessToken _ _ => (.ok (), world)

/-- A helper keeps nothing for later. -/
def ofHelper (_ : World Unit) : RefreshOp → Bool
  | .takeRefreshRecovery _ => false
  | .putRefreshRecovery _ _ => false
  | .clearRefreshRecovery _ => false
  | _ => true

/-- A helper of a run. -/
def helper : Session RefreshOp String RefreshOp.Answer Unit :=
  Program.bind (oauthAccessTokenCommand platform "run.json" "token") fun _ => .done ()

/-- Where a helper is after some of its operations. -/
def after (steps : Nat) :
    Option (Bool × Session RefreshOp String RefreshOp.Answer Unit × World Unit) :=
  Locking.proceed (answers platform) ofHelper steps false (helper platform) (start platform)

/-- What a process asks the provider for. -/
def exchanges : Session RefreshOp String RefreshOp.Answer Unit → Option OAuthRefreshConfig
  | .ask (.call (.exchange config)) _ => some config
  | _ => none

variable {platform}

/-- Texts of a moderate size. -/
def Moderate (platform : RefreshPlatform) : Prop :=
  ∀ config ∈ [granted, renewed],
    (platform.encodeConfig config).utf8ByteSize ≤ maxRefreshConfigBytes

theorem decode_config (faithful : platform.Faithful) (moderate : Moderate platform)
    {config : OAuthRefreshConfig} (isConfig : config ∈ [granted, renewed]) :
    decodeRefreshConfig platform (platform.encodeConfig config) = .ok config := by
  have filled : ∀ config ∈ [granted, renewed], trim config.tokenEndpoint ≠ "" ∧
      config.refreshToken ≠ "" ∧ trim config.refreshToken ≠ "" := by decide +kernel
  obtain ⟨hasEndpoint, hasToken, isToken⟩ := filled config isConfig
  rw [decodeRefreshConfig, if_neg (not_lt.mpr (moderate config isConfig)), faithful.config]
  simp [hasEndpoint, hasToken, isToken]

theorem decode_recovery (faithful : platform.Faithful) (moderate : Moderate platform) :
    decodeOauthRefreshRecovery platform (Credential.rotationRecord platform granted renewed) =
      .ok
        { previousConfigFingerprint := .hmacSha256
            (platform.hmacSha256 (platform.encodeConfig granted))
          rotatedConfig := renewed } := by
  rw [decodeOauthRefreshRecovery, Credential.rotationRecord, faithful.record]
  simp [Except.mapError, RecoveryRecord.fingerprint, decode_config faithful moderate, bind,
    Except.bind, pure, Except.pure]

theorem start_saved (faithful : platform.Faithful) : (start platform).credential.saved = true := by
  simp [start, exchanged, Credential.setRecovery, rotatedTokenOf, tokenOf,
    Credential.rotationRecord, faithful.record, faithful.config, Except.toOption, renewed]

/-- The helper brings the newest token to the keyring, asks the provider for another, and keeps it
in the recovery file first. -/
theorem after_recovering (faithful : platform.Faithful) (moderate : Moderate platform) :
    (∃ stopped, after platform 15 = some stopped ∧ exchanges stopped.2.1 = some renewed ∧
      stopped.2.2.credential.saved = true ∧ stopped.2.2.credential.live = "b2") ∧
    ∃ stopped, after platform 18 = some stopped ∧ stopped.2.2.credential.saved = true ∧
      stopped.2.2.credential.keyring = some (platform.encodeConfig renewed) ∧
      stopped.2.2.credential.live = "c3" := by
  have isGranted := decode_config faithful moderate List.mem_cons_self
  have isRenewed := decode_config faithful moderate
    (List.mem_cons_of_mem granted (List.mem_singleton_self renewed))
  have saved := start_saved faithful
  rw [start] at saved
  have token : renewed.refreshToken = "b2" := rfl
  simp [after, helper, oauthAccessTokenCommand, helperHoldingLock, currentForHelper,
    recoverPendingOauthRefresh, readPendingOauthRefreshRecovery, readExistingRecovery,
    replayPending, currentMatches, restorePending, persistRotatedRefreshConfigWithRetry,
    oauthRefreshPersistAttempts, persistAttempts, persistAndVerifyKeyringRefreshConfig,
    verifyStored, clearOauthRefreshRecovery, keepRotatedForHelper, persistRotatedOauthRefresh,
    encodeOauthRefreshRecovery, oauthRefreshConfigDigest, acquireOauthRefreshLock, mapErr, ask,
    decided, bind, ExceptT.bind, ExceptT.mk, ExceptT.bindCont, Program.bind, Program.call,
    Except.mapError, Locking.proceed, answers, ofHelper, exchanges, start, exchanged,
    Credential.setRecovery, Credential.setKeyring, Credential.removeRecovery, Credential.rotate,
    Credential.Unused, rotatedTokenOf, tokenOf, Except.toOption, faithful.config, faithful.record,
    isGranted, isRenewed, decode_recovery faithful moderate, token]

end Run

/-- What is read is what is stored. -/
theorem stored_of_read {stored : Option String} {missing text : String}
    (isRead : (match stored with
      | some text => .ok text
      | none => .error missing : Except String String) = .ok text) : stored = some text := by
  cases stored with
  | none => cases isRead
  | some other => exact congrArg some (Except.ok.inj isRead)

theorem answers_conform (world : World Unit) (op : RefreshOp)
    (isAllowed : ofHelper world op = true) :
    (refreshingInOrder json Unit "work").serves () world op (answers json world op).1
      (answers json world op).2 := by
  cases op with
  | keyringGet => exact ⟨⟨⟨rfl, fun _ isRead => stored_of_read isRead⟩, rfl, rfl⟩, trivial⟩
  | recoveryExists => exact ⟨⟨⟨rfl, fun _ isPresent => Except.ok.inj isPresent⟩, rfl, rfl⟩, trivial⟩
  | readRecovery => exact ⟨⟨⟨rfl, fun _ isRead => stored_of_read isRead⟩, rfl, rfl⟩, trivial⟩
  | exchange config =>
    rw [answers]
    split
    · next exchanged => exact ⟨⟨⟨exchanged.1, exchanged.2, rfl⟩, rfl, rfl⟩, json_apart _⟩
    · exact ⟨⟨.inl rfl, rfl, rfl⟩, json_apart _⟩
  | readRunConfig path => exact ⟨⟨rfl, fun _ isRead => stored_of_read isRead, rfl, rfl⟩, trivial⟩
  | takeRefreshRecovery source => cases isAllowed
  | putRefreshRecovery source recovery => cases isAllowed
  | clearRefreshRecovery source => cases isAllowed
  | _ => exact ⟨⟨rfl, rfl, rfl⟩, trivial⟩

theorem after_reaches {steps : Nat}
    {stopped : Bool × Session RefreshOp String RefreshOp.Answer Unit × World Unit}
    (isStopped : after json steps = some stopped) :
    Locking.Reaches (refreshingInOrder json Unit "work") (Locking.atRest (start json))
      (Locking.alone () stopped.1 stopped.2.1 stopped.2.2) :=
  .head (Locking.alone_start (.helper "run.json" "token"))
    (Locking.proceed_reaches answers_conform isStopped)

theorem start_intact : (start json).credential.Intact json := by
  have isRotated : (exchanged json).Rotated json granted renewed :=
    { intact :=
        { kept := nofun
          newest := by decide
          apart := json_apart _
          held := by
            intro config held
            rw [held.unique ⟨_, rfl, json_faithful.config granted⟩]
            exact List.mem_cons_of_mem _ List.mem_cons_self
          pending := nofun }
      held := ⟨_, rfl, json_faithful.config granted⟩
      consumed := List.mem_cons_self
      isIssued := List.mem_cons_self
      live := rfl }
  exact (isRotated.setRecovery json_faithful).intact

theorem json_moderate : Moderate json := by
  unfold Moderate
  decide +kernel

/-- The keyring has a consumed token, but the newest one is kept. -/
theorem rotated_kept :
    ∃ stopped, after json 18 = some stopped ∧ stopped.2.2.credential.live = "c3" ∧
      stopped.2.2.credential.keyring = some (json.encodeConfig renewed) ∧
      stopped.2.2.credential.Kept json := by
  obtain ⟨-, stopped, isStopped, saved, held, live⟩ := after_recovering json_faithful json_moderate
  exact ⟨stopped, isStopped, live, held,
    newest_token_kept json_faithful start_intact (after_reaches isStopped) saved⟩

theorem of_exchanges {session : Session RefreshOp String RefreshOp.Answer Unit}
    {config : OAuthRefreshConfig} (asks : exchanges session = some config) :
    ∃ next, session = .ask (.call (.exchange config)) next := by
  unfold exchanges at asks
  split at asks
  · next next =>
      cases asks
      exact ⟨next, rfl⟩
  · cases asks

/-- The helper has recovered the newest token, and presents it while it holds the lock. -/
theorem helper_exchanges :
    ∃ stopped, after json 15 = some stopped ∧ exchanges stopped.2.1 = some renewed ∧
      (Locking.alone () stopped.1 stopped.2.1 stopped.2.2).holder = some () ∧
      renewed.refreshToken = stopped.2.2.credential.live := by
  obtain ⟨⟨stopped, isStopped, asks, saved, _⟩, -⟩ :=
    after_recovering json_faithful json_moderate
  obtain ⟨next, isNext⟩ := of_exchanges asks
  have running : (Locking.alone () stopped.1 stopped.2.1 stopped.2.2).running () =
      some (.ask (.call (.exchange renewed)) next) := by
    rw [Locking.alone_running, isNext]
  have presented := newest_token_exchanged json_faithful start_intact (after_reaches isStopped)
    running
  exact ⟨stopped, isStopped, asks, presented.1, presented.2 saved⟩

end OneCredential

end MailSwiftSync.OAuth
