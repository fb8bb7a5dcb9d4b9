import MailSwiftSync.OAuth.Kept

/-!
# Sessions keep the newest token

The contract of a session that holds the lock of its credential, and what each of its pieces keeps:
wherever the process dies, nothing that was saved is lost, and only the newest token is exchanged.
-/

namespace MailSwiftSync.OAuth

open Foundation

section Contract

variable (platform : RefreshPlatform)

/-- What an operation may be asked for: where the process may die, nothing is lost, and only the
newest token is exchanged. -/
def Admitted (credential : Credential) (op : RefreshOp) : Prop :=
  credential.Intact platform ∧ match op with
    | .exchange config => credential.saved = true → config.refreshToken = credential.live
    | _ => True

/-- Others leave the credential alone; before they have the lock, sessions only look at the file
of their run. -/
def refreshRules {ι : Type} : LockRules ι (World ι) RefreshOp where
  rely := fun _ before after => after.credential = before.credential
  admits := fun _ world => Admitted platform world.credential
  aside := fun op =>
    match op with
    | .lockRunConfig _ => True
    | .readRunConfig _ => True
    | _ => False
  inv := fun world => world.credential.Intact platform

/-- What holds before and after a piece of a session. -/
def Meets {α : Type} (pre : Credential → Prop)
    (session : Session RefreshOp String RefreshOp.Answer α) (post : α → Credential → Prop) :
    Prop :=
  ∀ (ι : Type) [DecidableEq ι] (keyringId : String) (process : ι) (world : World ι),
    pre world.credential →
      ((refreshingInOrder platform ι keyringId).contract (refreshRules platform) process).Safe
        (fun value later => post value later.credential) session world

/-- The same for a piece that may fail. -/
def Succeeds {α : Type} (pre : Credential → Prop) (attempt : Refresh α)
    (post : α → Credential → Prop) (failed : Credential → Prop) : Prop :=
  Meets platform pre attempt fun result credential =>
    match result with
    | .ok value => post value credential
    | .error _ => failed credential

section Rules

variable {platform} {α β : Type} {pre failed : Credential → Prop} {post : α → Credential → Prop}

theorem fair_leavesCredential (ι : Type) [DecidableEq ι] (keyringId : String) (process : ι) :
    ((refreshingInOrder platform ι keyringId).contract (refreshRules platform) process).Fair where
  refl := fun _ => rfl
  trans := fun _ _ _ first second => second.trans first

theorem Meets.done {value : α} (holds : ∀ credential, pre credential → post value credential) :
    Meets platform pre (.done value) post := by
  intro ι _ keyringId process world isPre later same
  rw [show later.credential = world.credential from same]
  exact holds _ isPre

variable {session : Session RefreshOp String RefreshOp.Answer α}

theorem Meets.assuming {pre' : Credential → Prop} (meets : Meets platform pre session post)
    (stronger : ∀ credential, pre' credential → pre credential) :
    Meets platform pre' session post :=
  fun ι _ keyringId process world isPre =>
    meets ι keyringId process world (stronger _ isPre)

theorem Meets.weaken {post' : α → Credential → Prop} (meets : Meets platform pre session post)
    (weaker : ∀ value credential, post value credential → post' value credential) :
    Meets platform pre session post' :=
  fun ι _ keyringId process world isPre =>
    (meets ι keyringId process world isPre).weaken fun value later => weaker value later.credential

theorem Meets.bind
    {next : α → Session RefreshOp String RefreshOp.Answer β} {post' : β → Credential → Prop}
    (first : Meets platform pre session post)
    (second : ∀ value, Meets platform (post value) (next value) post') :
    Meets platform pre (session.bind next) post' :=
  fun ι _ keyringId process world isPre =>
    (first ι keyringId process world isPre).bind (fair_leavesCredential ι keyringId process)
      fun value later => second value ι keyringId process later

/-- One operation. -/
theorem Meets.ask {op : RefreshOp} {post : op.Answer → Credential → Prop}
    (admitted : ∀ credential, pre credential → Admitted platform credential op)
    (answered : ∀ before answer after, pre before → before.Answers platform op answer after →
      InOrder platform before after op answer → post answer after) :
    Meets platform pre (OAuth.ask op) post := by
  intro ι _ keyringId process world isPre later same
  have here : pre later.credential := by
    rw [show later.credential = world.credential from same]
    exact isPre
  refine ⟨admitted _ here, ?_⟩
  intro answer after served last same
  rw [show last.credential = after.credential from same]
  exact answered _ answer _ here served.1.1 served.2

theorem Succeeds.bind {attempt : Refresh α} {next : α → Refresh β}
    {post' : β → Credential → Prop} (first : Succeeds platform pre attempt post failed)
    (second : ∀ value, Succeeds platform (post value) (next value) post' failed) :
    Succeeds platform pre (attempt >>= next) post' failed := by
  rw [Succeeds, Program.except_bind]
  apply Meets.bind first
  intro result
  cases result with
  | ok value => exact second value
  | error error => exact Meets.done fun _ holds => holds

theorem Succeeds.mapErr {attempt : Refresh α} {describe : String → String}
    (meets : Succeeds platform pre attempt post failed) :
    Succeeds platform pre (OAuth.mapErr describe attempt) post failed := by
  apply Meets.bind meets
  intro result
  cases result with
  | ok value => exact Meets.done fun _ holds => holds
  | error error => exact Meets.done fun _ holds => holds

theorem Succeeds.surely (meets : Meets platform pre session post) :
    Succeeds platform pre (OAuth.surely session) post failed :=
  meets.bind fun _ => Meets.done fun _ holds => holds

theorem Succeeds.decided {result : Except String α}
    (holds : ∀ value credential, result = .ok value → pre credential → post value credential)
    (fails : ∀ credential, pre credential → failed credential) :
    Succeeds platform pre (OAuth.decided result) post failed := by
  cases result with
  | ok value => exact Meets.done fun credential isPre => holds value credential rfl isPre
  | error error => exact Meets.done fun credential isPre => fails credential isPre

end Rules

section Pieces

variable {platform} {α : Type} {pre : Credential → Prop}
  {config previous rotated : OAuthRefreshConfig}

/-- An operation that leaves the credential as it is. -/
theorem Meets.aside {op : RefreshOp}
    (admitted : ∀ credential, pre credential → Admitted platform credential op)
    (same : ∀ (before : Credential) answer after, before.Answers platform op answer after →
      after = before) : Meets platform pre (OAuth.ask op) fun _ => pre := by
  apply Meets.ask admitted
  intro before answer after isPre answers _
  rw [same before answer after answers]
  exact isPre

/-- A piece that fails as it succeeds. -/
theorem Succeeds.same {attempt : Refresh α} (meets : Meets platform pre attempt fun _ => pre) :
    Succeeds platform pre attempt (fun _ => pre) pre := by
  apply meets.weaken
  intro result credential holds
  cases result with
  | ok value => exact holds
  | error error => exact holds

theorem Succeeds.failing {attempt : Refresh α} {post : α → Credential → Prop}
    {failed failed' : Credential → Prop} (meets : Succeeds platform pre attempt post failed)
    (weaker : ∀ credential, failed credential → failed' credential) :
    Succeeds platform pre attempt post failed' := by
  apply meets.weaken
  intro result credential holds
  cases result with
  | ok value => exact holds
  | error error => exact weaker credential holds

theorem digest_succeeds (config : OAuthRefreshConfig)
    (intact : ∀ credential, pre credential → credential.Intact platform) :
    Succeeds platform pre (oauthRefreshConfigDigest platform config)
      (fun digest credential => pre credential ∧
        digest = platform.hmacSha256 (platform.encodeConfig config)) pre := by
  apply Succeeds.bind
  · exact Succeeds.same (Meets.aside (fun _ isPre => ⟨intact _ isPre, trivial⟩)
      fun _ _ _ answers => answers)
  · intro _
    apply Succeeds.decided
    · intro digest credential isDigest isPre
      exact ⟨isPre, (Except.ok.inj isDigest).symm⟩
    · exact fun _ isPre => isPre

theorem keyringGet_succeeds
    (intact : ∀ credential, pre credential → credential.Intact platform) :
    Succeeds platform pre (OAuth.ask .keyringGet)
      (fun text credential => pre credential ∧ credential.keyring = some text) pre := by
  apply Meets.ask fun _ isPre => ⟨intact _ isPre, trivial⟩
  intro before answer after isPre answers _
  cases answers.1
  cases answer with
  | ok text => exact ⟨isPre, answers.2 text rfl⟩
  | error error => exact isPre

/-- The keyring receives a configuration, or may have. -/
theorem keyringSet_succeeds (faithful : platform.Faithful) (config : OAuthRefreshConfig) :
    Succeeds platform (Credential.Current platform config)
      (OAuth.ask (.keyringSet (platform.encodeConfig config)))
      (fun _ => Credential.Ready platform config) (Credential.Current platform config) := by
  apply Meets.ask fun _ current => ⟨current.intact, trivial⟩
  intro before answer after current answers _
  cases answer with
  | ok done =>
    cases answers
    exact current.setKeyring faithful
  | error error =>
    cases answers with
    | inl same => exact same ▸ current
    | inr written => exact written ▸ (current.setKeyring faithful).toCurrent

theorem clearOauthRefreshRecovery_succeeds (config : OAuthRefreshConfig) :
    Succeeds platform (Credential.Ready platform config) clearOauthRefreshRecovery
      (fun _ => Credential.Ready platform config) (Credential.Ready platform config) := by
  apply Succeeds.mapErr
  apply Succeeds.same
  apply Meets.ask fun _ ready => ⟨ready.intact, trivial⟩
  intro before answer after ready answers _
  cases answer with
  | ok done =>
    cases answers
    exact ready.removeRecovery
  | error error =>
    cases answers with
    | inl same => exact same ▸ ready
    | inr removed => exact removed ▸ ready.removeRecovery

/-! ## Persisting -/

/-- A way to bring a configuration to the keyring. -/
def Persists (platform : RefreshPlatform) (persist : OAuthRefreshConfig → Refresh Unit) : Prop :=
  ∀ config, Succeeds platform (Credential.Current platform config) (persist config)
    (fun _ => Credential.Ready platform config) (Credential.Current platform config)

theorem openKeyringEntry_succeeds (form : Queue.Form) (source : Bool)
    (intact : ∀ credential, pre credential → credential.Intact platform) :
    Succeeds platform pre (oauthRefreshKeyringEntry form source) (fun _ => pre) pre :=
  Succeeds.mapErr (Succeeds.same (Meets.aside (fun _ isPre => ⟨intact _ isPre, trivial⟩)
    fun _ _ _ answers => answers))

theorem storeOauthRefreshConfig_persists (faithful : platform.Faithful) (form : Queue.Form)
    (source : Bool) : Persists platform (storeOauthRefreshConfig platform form source) := by
  intro config
  apply Succeeds.bind (openKeyringEntry_succeeds form source fun _ current => current.intact)
  intro _
  apply Succeeds.bind (Succeeds.mapErr (keyringSet_succeeds faithful config))
  intro _
  exact Succeeds.surely (Meets.aside (fun _ ready => ⟨ready.intact, trivial⟩)
    fun _ _ _ answers => answers)

theorem verifyStored_succeeds (config verified : OAuthRefreshConfig) :
    Succeeds platform (Credential.Ready platform config) (verifyStored platform config verified)
      (fun _ => Credential.Ready platform config) (Credential.Ready platform config) := by
  apply Succeeds.bind (digest_succeeds verified fun _ ready => ready.intact)
  intro verifiedDigest
  apply Succeeds.bind ((digest_succeeds config fun _ ready => ready.intact).assuming
    fun _ => And.left)
  intro digest
  exact Succeeds.decided (fun _ _ _ holds => holds.1) fun _ holds => holds.1

theorem persistAndVerifyKeyringRefreshConfig_persists (faithful : platform.Faithful) :
    Persists platform (persistAndVerifyKeyringRefreshConfig platform) := by
  intro config
  apply Succeeds.bind (Succeeds.mapErr (keyringSet_succeeds faithful config))
  intro _
  have ends := fun credential => @Credential.Ready.toCurrent platform config credential
  apply Succeeds.bind (Succeeds.mapErr
    ((keyringGet_succeeds fun _ ready => ready.intact).failing ends))
  intro stored
  apply Succeeds.bind (Succeeds.decided (fun _ _ _ holds => holds.1) fun _ holds => ends _ holds.1)
  intro verified
  exact (verifyStored_succeeds config verified).failing ends

variable {persist : OAuthRefreshConfig → Refresh Unit}

/-- Every further attempt finds what the failed one left. -/
theorem persistAttempts_succeeds
    (persists : Persists platform persist) (config : OAuthRefreshConfig) (attempts : Nat)
    (lastError : Option String) :
    Succeeds platform (Credential.Current platform config)
      (persistAttempts (persist config) attempts lastError)
      (fun _ => Credential.Ready platform config) (Credential.Current platform config) := by
  induction attempts generalizing lastError with
  | zero => exact Meets.done fun _ current => current
  | succ attempts ih =>
    apply Meets.bind (persists config)
    intro result
    cases result with
    | ok done => exact Meets.done fun _ ready => ready
    | error error => exact ih (some error)

theorem persistRotatedRefreshConfigWithRetry_succeeds (persists : Persists platform persist)
    (config : OAuthRefreshConfig) :
    Succeeds platform (Credential.Current platform config)
      (persistRotatedRefreshConfigWithRetry config persist)
      (fun _ => Credential.Ready platform config) (Credential.Intact platform) :=
  (persistAttempts_succeeds persists config _ _).failing fun _ current => current.intact

/-! ## Recovering -/

/-- The keyring entry has been read. -/
structure Credential.Read (platform : RefreshPlatform) (config : OAuthRefreshConfig)
    (credential : Credential) : Prop where
  intact : credential.Intact platform
  held : credential.Holds platform config

/-- What the recovery file says, where there is one. -/
def Credential.FileIs (platform : RefreshPlatform) (credential : Credential) :
    Option PendingOAuthRefreshRecovery → Prop
  | none => credential.recovery = none
  | some recovery => ∃ stored, credential.recovery = some stored ∧
      decodeOauthRefreshRecovery platform stored = .ok recovery

theorem readExistingRecovery_succeeds (config : OAuthRefreshConfig) :
    Succeeds platform (Credential.Read platform config) (readExistingRecovery platform)
      (fun pending credential => credential.Read platform config ∧
        credential.FileIs platform pending) (Credential.Intact platform) := by
  have read : Succeeds platform (Credential.Read platform config) (OAuth.ask .readRecovery)
      (fun text credential => credential.Read platform config ∧ credential.recovery = some text)
      (Credential.Intact platform) := by
    apply Meets.ask fun _ read => ⟨read.intact, trivial⟩
    intro before answer after read answers _
    cases answers.1
    cases answer with
    | ok text => exact ⟨read, answers.2 text rfl⟩
    | error error => exact read.intact
  apply Succeeds.bind (Succeeds.mapErr read)
  intro stored
  have decodes : Succeeds platform
      (fun credential => credential.Read platform config ∧ credential.recovery = some stored)
      (OAuth.decided (decodeOauthRefreshRecovery platform stored))
      (fun recovery credential => credential.Read platform config ∧
        credential.FileIs platform (some recovery)) (Credential.Intact platform) := by
    apply Succeeds.decided
    · exact fun recovery credential decoded holds => ⟨holds.1, stored, holds.2, decoded⟩
    · exact fun _ holds => holds.1.intact
  apply Succeeds.bind decodes
  intro recovery
  exact Meets.done fun _ holds => holds

theorem readPendingOauthRefreshRecovery_succeeds (config : OAuthRefreshConfig) :
    Succeeds platform (Credential.Read platform config) (readPendingOauthRefreshRecovery platform)
      (fun pending credential => credential.Read platform config ∧
        credential.FileIs platform pending) (Credential.Intact platform) := by
  have inspect : Succeeds platform (Credential.Read platform config) (OAuth.ask .recoveryExists)
      (fun present credential => credential.Read platform config ∧
        credential.recovery.isSome = present) (Credential.Intact platform) := by
    apply Meets.ask fun _ read => ⟨read.intact, trivial⟩
    intro before answer after read answers _
    cases answers.1
    cases answer with
    | ok present => exact ⟨read, answers.2 present rfl⟩
    | error error => exact read.intact
  apply Succeeds.bind (Succeeds.mapErr inspect)
  intro present
  cases present with
  | true => exact (readExistingRecovery_succeeds config).assuming fun _ => And.left
  | false =>
    apply Meets.done
    intro credential holds
    exact ⟨holds.1, Option.isSome_eq_false_iff.mp holds.2 |> Option.isNone_iff_eq_none.mp⟩

/-- The recovery file has been read. -/
structure Credential.Pending (platform : RefreshPlatform) (config : OAuthRefreshConfig)
    (recovery : PendingOAuthRefreshRecovery) (credential : Credential) : Prop
    extends Credential.Read platform config credential where
  file : credential.FileIs platform (some recovery)

theorem Credential.Pending.eq_rotated {credential : Credential}
    {recovery : PendingOAuthRefreshRecovery} (pending : credential.Pending platform config recovery)
    (same : SameDigest platform config recovery.rotatedConfig) :
    config = recovery.rotatedConfig := by
  obtain ⟨stored, isStored, decoded⟩ := pending.file
  exact pending.intact.apart config (pending.intact.held config pending.held) _
    (pending.intact.pending stored recovery isStored decoded).1 same

/-- A fingerprint is compared with what it may be of. -/
theorem currentMatches_succeeds (recovery : PendingOAuthRefreshRecovery)
    (config : OAuthRefreshConfig) :
    Succeeds platform (Credential.Pending platform config recovery)
      (currentMatches platform recovery config)
      (fun isCurrent credential => credential.Pending platform config recovery ∧
        (isCurrent.1 = true → Fits platform config recovery.previousConfigFingerprint) ∧
        (isCurrent.2 = true → config = recovery.rotatedConfig))
      (Credential.Pending platform config recovery) := by
  rw [currentMatches]
  cases recovery.previousConfigFingerprint with
  | legacySha256 previous =>
    apply Meets.done
    intro credential pending
    refine ⟨pending, fun isCurrent => beq_iff_eq.mp isCurrent, ?_⟩
    exact fun isRotated => pending.eq_rotated (.inl (beq_iff_eq.mp isRotated))
  | hmacSha256 previous =>
    apply Succeeds.bind (digest_succeeds config fun _ pending => pending.intact)
    intro current
    apply Succeeds.bind ((digest_succeeds recovery.rotatedConfig
      fun _ holds => holds.1.intact).failing fun _ => And.left)
    intro rotated
    apply Meets.done
    intro credential holds
    cases holds.2
    cases holds.1.2
    refine ⟨holds.1.1, fun isCurrent => beq_iff_eq.mp isCurrent, ?_⟩
    exact fun isRotated => holds.1.1.eq_rotated (.inr (beq_iff_eq.mp isRotated))

theorem restorePending_succeeds
    (persists : Persists platform persist) (recovery : PendingOAuthRefreshRecovery)
    (config : OAuthRefreshConfig) (isCurrent : Bool × Bool) :
    Succeeds platform
      (fun credential => credential.Pending platform config recovery ∧
        (isCurrent.1 = true → Fits platform config recovery.previousConfigFingerprint) ∧
        (isCurrent.2 = true → config = recovery.rotatedConfig))
      (restorePending persist recovery.rotatedConfig isCurrent)
      (fun _ => Credential.Ready platform recovery.rotatedConfig) (Credential.Intact platform) := by
  cases isCurrent with
  | mk previous rotated =>
    cases previous with
    | true =>
      apply Succeeds.mapErr
      apply (persistRotatedRefreshConfigWithRetry_succeeds persists _).assuming
      intro credential ⟨pending, fits, _⟩
      obtain ⟨stored, isStored, decoded⟩ := pending.file
      exact pending.intact.current_of_fits isStored decoded pending.held (fits rfl)
    | false =>
      cases rotated with
      | true =>
        apply Meets.done
        intro credential ⟨pending, _, same⟩
        obtain ⟨stored, isStored, decoded⟩ := pending.file
        have held := pending.held
        rw [same rfl] at held
        exact pending.intact.ready_of_rotated isStored decoded held
      | false => exact Meets.done fun _ holds => holds.1.intact

theorem recoverPendingOauthRefresh_succeeds
    (persists : Persists platform persist) (config : OAuthRefreshConfig) :
    Succeeds platform (Credential.Read platform config)
      (recoverPendingOauthRefresh platform config persist)
      (fun recovered => Credential.Ready platform (recovered.getD config))
      (Credential.Intact platform) := by
  apply Succeeds.bind (readPendingOauthRefreshRecovery_succeeds config)
  intro pending
  cases pending with
  | none => exact Meets.done fun _ holds => holds.1.intact.ready_of_none holds.2 holds.1.held
  | some recovery =>
    have matching := (currentMatches_succeeds recovery config).failing
      fun credential (pending : credential.Pending platform config recovery) => pending.intact
    apply Succeeds.bind (matching.assuming fun _ holds => ⟨holds.1, holds.2⟩)
    intro isCurrent
    apply Succeeds.bind (restorePending_succeeds persists recovery config isCurrent)
    intro _
    apply Succeeds.bind ((clearOauthRefreshRecovery_succeeds recovery.rotatedConfig).failing
      fun _ ready => ready.intact)
    intro _
    exact Meets.done fun _ ready => ready

/-! ## Exchanging -/

/-- What an exchange leaves. -/
def Credential.AfterExchange (platform : RefreshPlatform) (config : OAuthRefreshConfig)
    (rotated : Option String) (credential : Credential) : Prop :=
  match rotated with
  | some token => credential.Rotated platform config { config with refreshToken := token }
  | none => credential.Ready platform config

theorem exchange_succeeds (config : OAuthRefreshConfig) :
    Succeeds platform (Credential.Ready platform config) (OAuth.ask (.exchange config))
      (fun (refreshedToken : RefreshedToken) =>
        Credential.AfterExchange platform config refreshedToken.refreshToken)
      (Credential.Intact platform) := by
  apply Meets.ask fun _ ready => ⟨ready.intact, ready.live⟩
  intro before answer after ready answers apart
  cases answer with
  | ok refreshedToken =>
    obtain ⟨isLive, answers⟩ := answers
    change Credential.AfterExchange platform config refreshedToken.refreshToken after
    cases isRotated : refreshedToken.refreshToken with
    | none =>
      rw [isRotated] at answers
      cases answers
      exact ready
    | some token =>
      rw [isRotated] at answers
      obtain ⟨isUnused, rfl⟩ := answers
      exact ready.rotate isLive isUnused apart
  | error error =>
    obtain rfl | ⟨_, token, isUnused, rfl⟩ := answers
    · exact ready.intact
    · exact ready.intact.rotate isUnused apart

theorem encodeOauthRefreshRecovery_succeeds (previous rotated : OAuthRefreshConfig) :
    Succeeds platform (Credential.Rotated platform previous rotated)
      (encodeOauthRefreshRecovery platform previous rotated)
      (fun text credential => credential.Rotated platform previous rotated ∧
        text = Credential.rotationRecord platform previous rotated)
      (Credential.Intact platform) := by
  apply Succeeds.bind ((digest_succeeds previous fun _ isRotated => isRotated.intact).failing
    fun _ isRotated => isRotated.intact)
  intro digest
  apply Meets.done
  intro credential holds
  cases holds.2
  exact ⟨holds.1, rfl⟩

theorem updateRunConfig_succeeds (runConfigPath : Option String) (encoded : String)
    (intact : ∀ credential, pre credential → credential.Intact platform) :
    Succeeds platform pre (updateRunConfig runConfigPath encoded) (fun _ => pre) pre := by
  cases runConfigPath with
  | none => exact Meets.done fun _ isPre => isPre
  | some path =>
    exact Succeeds.mapErr (Succeeds.same (Meets.aside
      (fun _ isPre => ⟨intact _ isPre, trivial⟩) fun _ _ _ answers => answers))

/-- The new token reaches the recovery file before anything else. -/
theorem writeRecovery_succeeds (faithful : platform.Faithful)
    (previous rotated : OAuthRefreshConfig) :
    Succeeds platform (Credential.Rotated platform previous rotated)
      (OAuth.ask (.writeRecovery (Credential.rotationRecord platform previous rotated)))
      (fun _ => Credential.Current platform rotated) (Credential.Intact platform) := by
  apply Meets.ask fun _ isRotated => ⟨isRotated.intact, trivial⟩
  intro before answer after isRotated answers _
  cases answer with
  | ok done =>
    cases answers
    exact isRotated.setRecovery faithful
  | error error =>
    cases answers with
    | inl same => exact same ▸ isRotated.intact
    | inr written => exact written ▸ (isRotated.setRecovery faithful).intact

theorem persistRotatedOauthRefresh_succeeds (faithful : platform.Faithful)
    (persists : Persists platform persist)
    (runConfigPath : Option String) (previous rotated : OAuthRefreshConfig) :
    Succeeds platform (Credential.Rotated platform previous rotated)
      (persistRotatedOauthRefresh platform runConfigPath previous rotated persist)
      (fun _ => Credential.Ready platform rotated) (Credential.Intact platform) := by
  apply Succeeds.bind (encodeOauthRefreshRecovery_succeeds previous rotated)
  intro recovery
  have write : Succeeds platform
      (fun credential => credential.Rotated platform previous rotated ∧
        recovery = Credential.rotationRecord platform previous rotated)
      (OAuth.ask (.writeRecovery recovery))
      (fun _ => Credential.Current platform rotated) (Credential.Intact platform) := by
    intro ι _ keyringId process world holds
    cases holds.2
    exact writeRecovery_succeeds faithful previous rotated ι keyringId process world holds.1
  apply Succeeds.bind (Succeeds.mapErr write)
  intro _
  apply Succeeds.bind ((updateRunConfig_succeeds runConfigPath _
    fun _ current => current.intact).failing fun _ current => current.intact)
  intro _
  apply Succeeds.bind (Succeeds.mapErr
    (persistRotatedRefreshConfigWithRetry_succeeds persists rotated))
  intro _
  exact (clearOauthRefreshRecovery_succeeds rotated).failing fun _ ready => ready.intact

/-! ## Sessions -/

theorem loadOauthRefreshConfig_succeeds (form : Queue.Form) (source : Bool) :
    Succeeds platform (Credential.Intact platform) (loadOauthRefreshConfig platform form source)
      (fun config => Credential.Read platform config) (Credential.Intact platform) := by
  apply Succeeds.bind (openKeyringEntry_succeeds form source fun _ intact => intact)
  intro _
  apply Succeeds.bind (Succeeds.mapErr (keyringGet_succeeds fun _ intact => intact))
  intro stored
  apply Succeeds.decided
  · exact fun config credential decoded holds =>
      ⟨holds.1, stored, holds.2, decodeRefreshConfig_parses decoded⟩
  · exact fun _ holds => holds.1

theorem recoveryDirectory_succeeds
    (intact : ∀ credential, pre credential → credential.Intact platform) :
    Succeeds platform pre (OAuth.ask .recoveryDirectory) (fun _ => pre)
      (Credential.Intact platform) := by
  have asks : Meets platform pre (OAuth.ask .recoveryDirectory) (fun _ => pre) :=
    Meets.aside (fun _ isPre => ⟨intact _ isPre, trivial⟩) fun _ _ _ answers => answers
  exact (Succeeds.same asks).failing intact

theorem currentForLaunch_succeeds (faithful : platform.Faithful) (form : Queue.Form)
    (source : Bool) :
    Succeeds platform (Credential.Intact platform) (currentForLaunch platform form source)
      (fun config => Credential.Ready platform config) (Credential.Intact platform) := by
  apply Succeeds.bind (loadOauthRefreshConfig_succeeds form source)
  intro config
  apply Succeeds.bind (recoveryDirectory_succeeds fun _ read => read.intact)
  intro _
  apply Succeeds.bind (recoverPendingOauthRefresh_succeeds
    (storeOauthRefreshConfig_persists faithful form source) config)
  intro recovered
  exact Meets.done fun _ ready => ready

theorem currentForHelper_succeeds (faithful : platform.Faithful) :
    Succeeds platform (Credential.Intact platform) (currentForHelper platform)
      (fun config => Credential.Ready platform config) (Credential.Intact platform) := by
  apply Succeeds.bind (recoveryDirectory_succeeds fun _ intact => intact)
  intro _
  have opens : Succeeds platform (Credential.Intact platform) (OAuth.ask .openKeyringEntry)
      (fun _ => Credential.Intact platform) (Credential.Intact platform) :=
    Succeeds.same (Meets.aside (fun _ intact => ⟨intact, trivial⟩) fun _ _ _ answers => answers)
  apply Succeeds.bind (Succeeds.mapErr opens)
  intro _
  apply Succeeds.bind (Succeeds.mapErr (keyringGet_succeeds fun _ intact => intact))
  intro latest
  have decodes : Succeeds platform
      (fun credential => credential.Intact platform ∧ credential.keyring = some latest)
      (OAuth.decided ((decodeRefreshConfig platform latest).mapError
        ("the latest OS keyring OAuth configuration is invalid: " ++ ·)))
      (fun config => Credential.Read platform config) (Credential.Intact platform) := by
    cases decoded : decodeRefreshConfig platform latest with
    | ok config =>
      exact Meets.done fun _ holds =>
        ⟨holds.1, latest, holds.2, decodeRefreshConfig_parses decoded⟩
    | error error => exact Meets.done fun _ holds => holds.1
  apply Succeeds.bind decodes
  intro latestConfig
  apply Succeeds.bind (recoverPendingOauthRefresh_succeeds
    (persistAndVerifyKeyringRefreshConfig_persists faithful) latestConfig)
  intro recovered
  exact Meets.done fun _ ready => ready

theorem retain_succeeds (source : Bool) (recovery : OAuthRefreshRecovery) (error : String) :
    Succeeds platform (Credential.Intact platform) (retain source recovery error)
      (fun _ => Credential.Intact platform) (Credential.Intact platform) := by
  have puts : Meets platform (Credential.Intact platform)
      (OAuth.ask (.putRefreshRecovery source recovery)) (fun _ => Credential.Intact platform) :=
    Meets.aside (fun _ intact => ⟨intact, trivial⟩) fun _ _ _ answers => answers
  apply Succeeds.bind (Succeeds.surely puts)
  intro _
  exact Meets.done fun _ intact => intact

theorem keepRotated_succeeds (faithful : platform.Faithful) (form : Queue.Form) (source : Bool)
    (previous : OAuthRefreshConfig) (refreshedToken : RefreshedToken) (token : String) :
    Succeeds platform
      (Credential.Rotated platform previous { previous with refreshToken := token })
      (keepRotated platform form source previous refreshedToken token)
      (fun _ => Credential.Intact platform) (Credential.Intact platform) := by
  apply Meets.bind (persistRotatedOauthRefresh_succeeds faithful
    (storeOauthRefreshConfig_persists faithful form source) none previous _)
  intro result
  cases result with
  | ok done => exact Meets.done fun _ ready => ready.intact
  | error error => exact retain_succeeds source _ _

theorem exchangeForLaunch_succeeds (faithful : platform.Faithful) (form : Queue.Form)
    (source : Bool) (config : OAuthRefreshConfig) :
    Succeeds platform (Credential.Ready platform config)
      (exchangeForLaunch platform form source config) (fun _ => Credential.Intact platform)
      (Credential.Intact platform) := by
  apply Succeeds.bind (Succeeds.mapErr (exchange_succeeds config))
  intro refreshedToken
  cases refreshedToken with
  | mk accessToken rotated expiresIn =>
    cases rotated with
    | none => exact Meets.done fun _ ready => ready.intact
    | some token => exact keepRotated_succeeds faithful form source config _ token

/-- What a process takes back has not been overtaken. -/
theorem takeRefreshRecovery_meets (source : Bool) :
    Meets platform (Credential.Intact platform) (OAuth.ask (.takeRefreshRecovery source))
      (fun (kept : Option OAuthRefreshRecovery) credential =>
        credential.Intact platform ∧
          ∀ recovery, kept = some recovery → credential.Current platform recovery.config) := by
  apply Meets.ask fun _ intact => ⟨intact, trivial⟩
  intro before answer after intact answers fresh
  cases answers
  have intact := intact.widen (List.subset_append_right _ _) fresh.1
  refine ⟨intact, ?_⟩
  rintro recovery rfl
  exact ⟨intact, List.mem_cons_self, fresh.2 recovery rfl⟩

theorem replayRefreshRecovery_succeeds (faithful : platform.Faithful) (form : Queue.Form)
    (source : Bool) (recovery : OAuthRefreshRecovery) :
    Succeeds platform (Credential.Current platform recovery.config)
      (replayRefreshRecovery platform form source recovery)
      (fun _ => Credential.Intact platform) (Credential.Intact platform) := by
  apply Meets.bind (persistRotatedRefreshConfigWithRetry_succeeds
    (storeOauthRefreshConfig_persists faithful form source) recovery.config)
  intro result
  cases result with
  | ok done => exact Meets.done fun _ ready => ready.intact
  | error error => exact retain_succeeds source recovery _

/-- A launch. -/
theorem refreshHoldingLock_succeeds (faithful : platform.Faithful) (form : Queue.Form)
    (source : Bool) :
    Succeeds platform (Credential.Intact platform) (refreshHoldingLock platform form source)
      (fun _ => Credential.Intact platform) (Credential.Intact platform) := by
  apply Succeeds.bind (Succeeds.surely (takeRefreshRecovery_meets source))
  intro kept
  cases kept with
  | some recovery =>
    exact (replayRefreshRecovery_succeeds faithful form source recovery).assuming
      fun _ holds => holds.2 recovery rfl
  | none =>
    apply (Succeeds.bind (currentForLaunch_succeeds faithful form source) ?_).assuming
      fun _ holds => holds.1
    exact fun config => exchangeForLaunch_succeeds faithful form source config

/-- A helper. -/
theorem helperHoldingLock_succeeds (faithful : platform.Faithful)
    (configPath outputPath : String) :
    Succeeds platform (Credential.Intact platform)
      (helperHoldingLock platform configPath outputPath) (fun _ => Credential.Intact platform)
      (Credential.Intact platform) := by
  apply Succeeds.bind (currentForHelper_succeeds faithful)
  intro config
  apply Succeeds.bind (Succeeds.mapErr (exchange_succeeds config))
  intro refreshedToken
  have kept : Succeeds platform
      (Credential.AfterExchange platform config refreshedToken.refreshToken)
      (keepRotatedForHelper platform configPath config refreshedToken.refreshToken)
      (fun _ => Credential.Intact platform) (Credential.Intact platform) := by
    cases refreshedToken.refreshToken with
    | none => exact Meets.done fun _ ready => ready.intact
    | some token =>
      exact (persistRotatedOauthRefresh_succeeds faithful
        (persistAndVerifyKeyringRefreshConfig_persists faithful) _ _ _).weaken
          fun result credential holds => by
            cases result with
            | ok done => exact holds.intact
            | error error => exact holds
  apply Succeeds.bind kept
  intro _
  have writes : Succeeds platform (Credential.Intact platform)
      (OAuth.ask (.writeAccessToken outputPath refreshedToken.accessToken))
      (fun _ => Credential.Intact platform) (Credential.Intact platform) :=
    Succeeds.same (Meets.aside (fun _ intact => ⟨intact, trivial⟩) fun _ _ _ answers => answers)
  apply Succeeds.bind (Succeeds.mapErr writes)
  intro _
  exact Meets.done fun _ intact => intact

end Pieces

end Contract

end MailSwiftSync.OAuth
