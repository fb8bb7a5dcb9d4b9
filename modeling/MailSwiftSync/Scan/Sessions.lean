import MailSwiftSync.Scan.Completed

/-!
# Scans, retries and sessions

A folder scan is tried again when the folder changed meanwhile and when the session is lost.  The
stage is sound all the time, and at the end of a scan that succeeds the folder is completed with a
snapshot that it had at the beginning and at the end.
-/

namespace MailSwiftSync.Scan

open Foundation Imap DurableStage

variable {parseDate : DateParser} {testimony : Testimony} {wire : Wire} {scan : FolderScan}
  {snapshot : FolderSnapshot} {selection finish : Selection} {start began : Nat}

/-! ## Selections -/

/-- The snapshot of a selection. -/
theorem demandIdentity_eq_ok :
    demandIdentity scan selection = .ok snapshot ↔
      selection.uidvalidity = some snapshot.uidvalidity ∧
        selection.uidnext = some snapshot.uidnext ∧
        selection.existsCount = snapshot.existsCount ∧
        selection.modseq.bind ModseqSnapshot.watermark = snapshot.highestModseq := by
  rw [demandIdentity]
  cases snapshot with
  | mk uidvalidity uidnext existsCount highestModseq =>
    cases selection.uidvalidity with
    | none => simp
    | some validity =>
      cases selection.uidnext with
      | none => simp
      | some next => simp

/-- Flags are asked for when there is a watermark. -/
theorem flags_of_identity (identity : demandIdentity scan selection = .ok snapshot) :
    selection.modseq.any (·.isTracked) = snapshot.highestModseq.isSome := by
  rw [← (demandIdentity_eq_ok.mp identity).2.2.2]
  cases selection.modseq with
  | none => rfl
  | some modseq =>
    cases modseq with
    | tracked _ => rfl
    | unsupported => rfl

/-- A folder that did not change has the snapshot again. -/
theorem identity_of_unchanged (identity : demandIdentity scan selection = .ok snapshot)
    (unchanged : Unchanged snapshot selection finish)
    (sameSupport : selection.modseq = none → finish.modseq = none) :
    demandIdentity scan finish = .ok snapshot := by
  rw [demandIdentity_eq_ok] at identity ⊢
  obtain ⟨sameValidity, sameNext, sameCount, sameModseq⟩ := unchanged
  refine ⟨sameValidity, sameNext, sameCount, ?_⟩
  cases isModseq : selection.modseq with
  | none =>
    rw [sameSupport isModseq, ← identity.2.2.2, isModseq]
  | some modseq =>
    rw [sameModseq (by rw [isModseq]; rfl), identity.2.2.2]

theorem modseq_of_read {tag : Text} {condstoreEnabled : Bool} {operation : String}
    {rawResponse : Bytes}
    (isRead : readSelection scan tag condstoreEnabled operation rawResponse = .ok selection) :
    selection.modseq.isSome = condstoreEnabled := by
  rw [readSelection] at isRead
  dsimp only at isRead
  split at isRead
  · cases isRead
  · obtain ⟨selected, -, isRead⟩ := bind_eq_ok.mp isRead
    cases condstoreEnabled with
    | false =>
      cases isRead
      rfl
    | true =>
      obtain ⟨modseq, isModseq, isRead⟩ := bind_eq_ok.mp isRead
      cases isRead
      cases isParsed : parseSelectModseq scan.host scan.mailbox (fromUtf8Lossy rawResponse) with
      | error message =>
        rw [isParsed] at isModseq
        cases isModseq
      | ok modseq =>
        rw [isParsed] at isModseq
        cases isModseq
        rfl

/-- A folder is selected, and had what the selection says. -/
theorem meets_selectFolder {pre failed : ScanWorld parseDate → Prop} {tag : Text}
    {condstoreEnabled : Bool} {operation : String} (answers : Answers wire scan testimony)
    (stable : Stable pre) (kept : ∀ world, pre world → failed world) :
    Effect.Meets pre (selectFolder wire scan tag condstoreEnabled operation)
      (fun selection world => selection.modseq.isSome = condstoreEnabled ∧ pre world ∧
        ∃ before, pre before ∧ before.time < world.time ∧
          ∀ snapshot, demandIdentity scan selection = .ok snapshot →
            testimony.seen before.time scan.folder snapshot)
      failed := by
  refine Effect.Meets.bind_ofExcept kept fun quotedMailbox isQuoted => ?_
  refine meets_answer stable kept fun rawResponse => ?_
  apply Effect.Meets.ofExcept
  · intro world selection ⟨holds, before, earlier, isBefore, isAnswer⟩ isRead
    exact ⟨modseq_of_read isRead, holds, before, earlier, isBefore,
      fun snapshot identity => answers.seen isQuoted isAnswer isRead identity⟩
  · exact fun world holds => kept world holds.1

/-! ## A scan -/

/-- A folder was scanned: it is completed, and had its snapshot at two times. -/
def Scanned (testimony : Testimony) (folder : StagedFolder) (began count : Nat)
    (world : ScanWorld parseDate) : Prop :=
  ∃ snapshot start finish, ∃ log : Log, count = snapshot.existsCount ∧ began ≤ start ∧
    start ≤ finish ∧ finish < world.time ∧ testimony.seen start folder snapshot ∧
    testimony.seen finish folder snapshot ∧ testimony.Backs finish folder snapshot log ∧
    Holding testimony folder snapshot began log true world

theorem meets_completeMailbox {log : Log} {completed : Bool} {lastUid : Nat} :
    Effect.Meets (Holding testimony scan.folder snapshot began log completed)
      (StageMessageSink.completeMailbox wire scan.side scan.mailbox snapshot lastUid :
        Scanning parseDate Unit)
      (fun _ => Holding testimony scan.folder snapshot began log true)
      (SoundWorld testimony began) := by
  refine meets_quiet (keeps_ask _) stable_holding (fun _ holding => holding.1) fun now => ?_
  refine meets_commit stable_holding (fun _ holding => holding.1)
    fun world stage holding completes => ?_
  obtain ⟨sound, staged⟩ := holding.1.stage.completeMailbox holding.2 completes
  exact ⟨holding.1.commit sound, staged⟩

/-- The end of a scan whose folder is unchanged. -/
theorem meets_finish {finish : Nat} {log : Log} {reused : Bool} (later : began ≤ start)
    (inOrder : start ≤ finish) (seen : testimony.seen start scan.folder snapshot)
    (seenAgain : testimony.seen finish scan.folder snapshot)
    (backs : testimony.Backs finish scan.folder snapshot log) :
    Effect.Meets (Holding testimony scan.folder snapshot (finish + 1) log reused)
      (do
        if !reused then
          classified (StageMessageSink.completeMailbox wire scan.side scan.mailbox snapshot
            (snapshot.uidnext - 1))
        return snapshot.existsCount : FetchingMailbox parseDate Nat)
      (Scanned testimony scan.folder began) (SoundWorld testimony (finish + 1)) := by
  have returns : Effect.Meets (Holding testimony scan.folder snapshot (finish + 1) log true)
      (return snapshot.existsCount : FetchingMailbox parseDate Nat)
      (Scanned testimony scan.folder began) (SoundWorld testimony (finish + 1)) := by
    apply Effect.Meets.pure
    intro world holding
    have passed : finish < world.time := holding.1.started
    exact ⟨snapshot, start, finish, log, rfl, later, inOrder, passed, seen, seenAgain, backs,
      holding.1.since ((later.trans inOrder).trans (Nat.le_succ finish)), holding.2⟩
  cases reused with
  | true => exact returns
  | false =>
    exact Effect.Meets.bind (meets_completeMailbox.mapError classifyMailboxFetchError)
      fun _ => returns

/-- A scan with a snapshot that the folder had. -/
theorem meets_fetchSelectedMailbox (answers : Answers wire scan testimony) (later : began ≤ start)
    (seen : testimony.seen start scan.folder snapshot)
    (identity : demandIdentity scan selection = .ok snapshot) :
    Effect.Meets (SoundWorld testimony start)
      (fetchSelectedMailbox wire scan selection.modseq.isSome selection snapshot :
        FetchingMailbox parseDate Nat)
      (Scanned testimony scan.folder began) (SoundWorld testimony start) := by
  refine meets_quiet (Effect.Keeps.mapError (Effect.Keeps.modify fun _ => ⟨le_rfl, rfl, rfl⟩) _)
    stable_soundWorld (fun _ => id) fun _ => ?_
  refine Effect.Meets.bind ((meets_fetchRows answers seen (flags_of_identity identity)).mapError
    classifyMailboxFetchError) fun reused => ?_
  refine Effect.Meets.of_exists fun log => Effect.Meets.of_fact (fun _ holds => holds.1)
    fun isAll => Effect.Meets.assuming (fun _ holds => holds.2) ?_
  have kept : ∀ world : ScanWorld parseDate,
      Holding testimony scan.folder snapshot start log reused world →
        SoundWorld testimony start world :=
    fun _ holding => holding.1
  refine meets_quiet (Effect.Keeps.mapError (Effect.Keeps.reading _) _) stable_holding kept
    fun staged => ?_
  refine Effect.Meets.bind_ensure kept fun _ => ?_
  refine meets_quiet (Effect.Keeps.mapError (Effect.Keeps.reading _) _) stable_holding kept
    fun pageNumber => ?_
  refine Effect.Meets.bind
    ((meets_selectFolder answers stable_holding kept).mapError classifyMailboxFetchError)
    fun finish => ?_
  refine Effect.Meets.of_fact (fun _ holds => holds.1) fun sameSupport => ?_
  refine Effect.Meets.bind_ensure (fun _ holds => holds.2.1.1) fun unchanged => ?_
  have again : demandIdentity scan finish = .ok snapshot := by
    apply identity_of_unchanged identity unchanged
    intro isNone
    rw [isNone] at sameSupport
    exact Option.not_isSome_iff_eq_none.mp (Bool.eq_false_iff.mp sameSupport)
  -- The time of the second SELECT is when the scan ends.
  intro world ⟨_, holding, before, earlier, isBefore, seenAgain⟩
  have inOrder := earlier.1.started
  exact (meets_finish later inOrder seen (seenAgain snapshot again) earlier.2.backs).weaken
    (fun _ => id) (fun _ _ => id) (fun _ sound => sound.since (inOrder.trans (Nat.le_succ _))) world
    ⟨{ holding.1 with started := isBefore }, holding.2⟩

/-- One scan of a folder. -/
theorem meets_fetchMailboxWithExistingStream (answers : Answers wire scan testimony) :
    Effect.Meets (SoundWorld testimony began)
      (fetchMailboxWithExistingStream wire scan : FetchingMailbox parseDate Nat)
      (Scanned testimony scan.folder began) (SoundWorld testimony began) := by
  have kept : ∀ world : ScanWorld parseDate, SoundWorld testimony began world →
      SoundWorld testimony began world := fun _ => id
  refine meets_quiet (Effect.Keeps.mapError (keeps_ask _) _) stable_soundWorld kept fun _ => ?_
  refine meets_quiet (Effect.Keeps.mapError (keeps_ensure _ _) _) stable_soundWorld kept fun _ => ?_
  refine meets_quiet (Effect.Keeps.mapError (Effect.Keeps.reading _) _) stable_soundWorld kept
    fun condstoreEnabled => ?_
  refine Effect.Meets.bind
    ((meets_selectFolder answers stable_soundWorld kept).mapError classifyMailboxFetchError)
    fun selection => ?_
  refine Effect.Meets.of_fact (fun _ holds => holds.1) fun isEnabled => ?_
  refine Effect.Meets.bind_mapError_ofExcept (fun _ holds => holds.2.1)
    fun snapshot identity => ?_
  rw [← isEnabled]
  intro world ⟨_, sound, before, earlier, isBefore, seen⟩
  exact (meets_fetchSelectedMailbox answers earlier.started (seen snapshot identity)
    identity).weaken (fun _ => id) (fun _ _ => id) (fun _ sound => sound.since earlier.started)
    world { sound with started := isBefore.le }

/-! ## Retries -/

theorem meets_rollbackMailbox (wire : Wire) (side : StagedMessageSide) (mailbox : String) :
    Effect.Meets (SoundWorld testimony began)
      (StageMessageSink.rollbackMailbox wire side mailbox : Scanning parseDate Unit)
      (fun _ => SoundWorld testimony began) (SoundWorld testimony began) := by
  have commits : Effect.Meets (SoundWorld testimony began)
      (commit wire (fun stage => .ok (stage.deleteMailbox side mailbox)) : Scanning parseDate Unit)
      (fun _ => SoundWorld testimony began) (SoundWorld testimony began) := by
    refine meets_commit stable_soundWorld (fun _ => id) fun world stage sound deleted => ?_
    obtain rfl := Except.ok.inj deleted
    exact sound.commit (sound.stage.deleteFolders side (· = mailbox))
  refine Effect.Meets.bind commits fun _ => ?_
  refine meets_quiet (keeps_resetMailboxCount _) stable_soundWorld (fun _ => id) fun _ => ?_
  exact Effect.Meets.of_keeps (Effect.Keeps.modify fun _ => ⟨le_rfl, rfl, rfl⟩) stable_soundWorld
    fun _ => id

/-- A scan that is tried again. -/
theorem meets_fetchWithAttempts (answers : Answers wire scan testimony) (attempts : Nat)
    (lastError : Option String) :
    Effect.Meets (SoundWorld testimony began)
      (fetchWithAttempts wire scan attempts lastError : FetchingMailbox parseDate Nat)
      (Scanned testimony scan.folder began) (SoundWorld testimony began) := by
  induction attempts generalizing lastError with
  | zero =>
    apply Effect.Meets.ofExcept
    · intro world value _ isOk
      cases isOk
    · exact fun _ => id
  | succ attempts ih =>
    intro world sound
    have scanned := meets_fetchMailboxWithExistingStream answers world sound
    rw [fetchWithAttempts]
    dsimp only
    cases ran : fetchMailboxWithExistingStream wire scan world with
    | mk result later =>
      rw [ran] at scanned
      cases result with
      | ok count => exact scanned
      | error error =>
        have rolledBack := meets_rollbackMailbox wire scan.side scan.mailbox later scanned
        dsimp only
        cases back : StageMessageSink.rollbackMailbox wire scan.side scan.mailbox later with
        | mk result last =>
          rw [back] at rolledBack
          cases result with
          | error message => exact rolledBack
          | ok done =>
            cases error with
            | changed message => exact ih (some message) last rolledBack
            | control _ => exact rolledBack
            | sessionFatal _ => exact rolledBack
            | folder _ => exact rolledBack

theorem meets_fetchMailboxWithStabilityRetry (answers : Answers wire scan testimony) :
    Effect.Meets (SoundWorld testimony began)
      (fetchMailboxWithStabilityRetry wire scan : FetchingMailbox parseDate Nat)
      (Scanned testimony scan.folder began) (SoundWorld testimony began) :=
  meets_fetchWithAttempts answers _ _

theorem meets_reconnectSession (wire : Wire) (error : String) :
    Effect.Meets (SoundWorld testimony began)
      (reconnectSession wire error : FetchingMailbox parseDate Unit)
      (fun _ => SoundWorld testimony began) (SoundWorld testimony began) := by
  intro world sound
  have passed : ∀ condstoreEnabled, SoundWorld testimony began
      { world with
        consecutiveReconnects := world.consecutiveReconnects + 1
        time := world.time + 1
        condstoreEnabled } :=
    fun _ => stable_soundWorld world _ ⟨Nat.le_succ _, rfl, rfl⟩ sound
  rw [reconnectSession]
  cases wire.reconnect world.time with
  | ok condstoreEnabled => exact passed condstoreEnabled
  | error message => exact passed world.condstoreEnabled

/-- A scan over as many sessions as it takes. -/
theorem meets_fetchWithSessions (answers : Answers wire scan testimony) (fuel : Nat) :
    Effect.Meets (SoundWorld testimony began)
      (fetchWithSessions wire scan fuel : FetchingMailbox parseDate Nat)
      (Scanned testimony scan.folder began) (SoundWorld testimony began) := by
  induction fuel with
  | zero =>
    intro world sound
    exact meets_fetchMailboxWithStabilityRetry answers world sound
  | succ fuel ih =>
    intro world sound
    have scanned := meets_fetchMailboxWithStabilityRetry answers world sound
    rw [fetchWithSessions]
    dsimp only
    cases ran : fetchMailboxWithStabilityRetry wire scan world with
    | mk result later =>
      rw [ran] at scanned
      cases result with
      | ok count => exact scanned
      | error error =>
        cases error with
        | changed _ => exact scanned
        | control _ => exact scanned
        | folder _ => exact scanned
        | sessionFatal message =>
          dsimp only
          by_cases more :
              later.consecutiveReconnects < maxConsecutiveSessionReconnects
          · have reconnected := meets_reconnectSession wire message later scanned
            rw [if_pos more]
            cases again : reconnectSession wire message later with
            | mk result last =>
              rw [again] at reconnected
              cases result with
              | ok done => exact ih last reconnected
              | error _ => exact reconnected
          · rw [if_neg more]
            exact scanned

/-- The scan of a folder, with all that it tries. -/
theorem meets_fetchMailboxWithSessionReconnect (answers : Answers wire scan testimony) :
    Effect.Meets (SoundWorld testimony began)
      (fetchMailboxWithSessionReconnect wire scan : FetchingMailbox parseDate Nat)
      (Scanned testimony scan.folder began) (SoundWorld testimony began) :=
  meets_fetchWithSessions answers _

end MailSwiftSync.Scan
