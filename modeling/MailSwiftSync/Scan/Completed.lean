import MailSwiftSync.Scan.Progress

/-!
# Scans that succeed

The rows of a folder come from a completed scan of the same snapshot, from the committed pages of an
unfinished one, or from nothing.  In each case a scan that succeeds leaves the folder completed, and
the folder had its snapshot at the end of the scan.
-/

namespace MailSwiftSync.Scan

open Foundation Imap DurableStage

variable {parseDate : DateParser} {testimony : Testimony} {wire : Wire} {scan : FolderScan}
  {snapshot : FolderSnapshot} {start now : Nat} {log : Log} {completed : Bool}
  {stage : DurableStage parseDate}

/-! ## What is used again -/

variable {side : StagedMessageSide}

/-- A folder that is used again is completed. -/
theorem staged_of_reusable {mailbox : String} {count : Nat} (sound : SoundStage testimony now stage)
    (reusable : stage.reusableCompletedMailbox side mailbox snapshot = .ok (some count)) :
    ∃ log, StagedAs testimony now stage (side, mailbox) snapshot log true ∧ log.length = count := by
  rw [reusableCompletedMailbox] at reusable
  split at reusable
  · cases reusable
  · obtain ⟨_, -, reusable⟩ := bind_eq_ok.mp reusable
    split at reusable
    · cases reusable
    · next cursor isCursor =>
        have fits := Except.ok.inj reusable
        split at fits
        · next proved =>
            simp only [Bool.and_eq_true, decide_eq_true_eq] at proved
            obtain rfl := Option.some.inj fits
            cases sound (side, mailbox) with
            | inl nothing =>
              rw [nothing.1] at isCursor
              cases isCursor
            | inr something =>
              obtain ⟨snapshot', log, completed, staged⟩ := something
              obtain ⟨cursor', isCursor', isSnapshot, isCompleted, -⟩ := staged.cursor
              rw [isCursor] at isCursor'
              obtain rfl := Option.some.inj isCursor'
              obtain rfl : snapshot' = snapshot := isSnapshot.symm.trans proved.1.1.1.1.1
              obtain rfl : completed = true := isCompleted.symm.trans proved.1.1.1.1.2
              exact ⟨log, staged, staged.all rfl⟩
        · cases fits

/-- Only a folder with a watermark is used again. -/
theorem tracked_of_reusable {mailbox : String} {count : Nat}
    (reusable : stage.reusableCompletedMailbox side mailbox snapshot = .ok (some count)) :
    snapshot.highestModseq.isSome = true := by
  rw [reusableCompletedMailbox] at reusable
  split at reusable
  · cases reusable
  · next tracked => exact Option.isSome_iff_ne_none.mpr (by simpa using tracked)

theorem tracked_of_resumable {mailbox : String} {resumed : Nat × Nat}
    (resumable : stage.resumableMailboxPrefix side mailbox snapshot = .ok (some resumed)) :
    snapshot.highestModseq.isSome = true := by
  rw [resumableMailboxPrefix] at resumable
  split at resumable
  · cases resumable
  · next tracked => exact Option.isSome_iff_ne_none.mpr (by simpa using tracked)

/-- A folder that is resumed has its first messages. -/
theorem staged_of_resumable {mailbox : String} {count lastUid : Nat}
    (sound : SoundStage testimony now stage)
    (resumable : stage.resumableMailboxPrefix side mailbox snapshot =
      .ok (some (count, lastUid))) :
    ∃ log, StagedAs testimony now stage (side, mailbox) snapshot log false ∧
      log.length = count ∧ log.lastUid = lastUid ∧ 0 < count := by
  rw [resumableMailboxPrefix] at resumable
  split at resumable
  · cases resumable
  · obtain ⟨_, -, resumable⟩ := bind_eq_ok.mp resumable
    split at resumable
    · cases resumable
    · next cursor isCursor =>
        have fits := Except.ok.inj resumable
        split at fits
        · next proved =>
            simp only [Bool.and_eq_true, decide_eq_true_eq, Bool.not_eq_true'] at proved
            obtain ⟨rfl, rfl⟩ := Prod.mk.inj (Option.some.inj fits)
            cases sound (side, mailbox) with
            | inl nothing =>
              rw [nothing.1] at isCursor
              cases isCursor
            | inr something =>
              obtain ⟨snapshot', log, completed, staged⟩ := something
              obtain ⟨cursor', isCursor', isSnapshot, isCompleted, isLast⟩ := staged.cursor
              rw [isCursor] at isCursor'
              obtain rfl := Option.some.inj isCursor'
              obtain ⟨⟨⟨⟨⟨⟨proved, -⟩, -⟩, -⟩, -⟩, -⟩, -⟩ := proved
              obtain ⟨⟨⟨⟨⟨sameSnapshot, isOpen⟩, -⟩, -⟩, -⟩, isPositive⟩ := proved
              obtain rfl : snapshot' = snapshot := isSnapshot.symm.trans sameSnapshot
              obtain rfl : completed = false := isCompleted.symm.trans isOpen
              refine ⟨log, staged, ?_, (isLast rfl).symm, isPositive⟩
              rw [sameSnapshot]
              exact staged.countRows.symm
        · cases fits

/-! ## Rows -/

/-- A folder has the messages of a log. -/
def Holding (testimony : Testimony) (folder : StagedFolder) (snapshot : FolderSnapshot)
    (start : Nat) (log : Log) (completed : Bool) (world : ScanWorld parseDate) : Prop :=
  SoundWorld testimony start world ∧
    StagedAs testimony world.time world.stage folder snapshot log completed

variable {folder : StagedFolder}

theorem stable_holding :
    Stable (Holding testimony folder snapshot start log completed :
      ScanWorld parseDate → Prop) := by
  intro world later passes holding
  refine ⟨stable_soundWorld world later passes holding.1, ?_⟩
  rw [passes.stage]
  exact holding.2.mono passes.time

theorem Holding.progress {world : ScanWorld parseDate}
    (holding : Holding testimony folder snapshot start log false world) :
    Progress testimony folder snapshot start log [] world where
  sound := holding.1
  staged := holding.2
  placed := nofun
  increasing := .nil
  above := nofun
  valid := nofun
  fits := holding.2.backs.fits

theorem Progress.holding {todo : List Nat} {world : ScanWorld parseDate}
    (progress : Progress testimony folder snapshot start log todo world) :
    Holding testimony folder snapshot start log false world :=
  ⟨progress.sound, progress.staged⟩

/-- Messages that are staged already are counted. -/
theorem meets_admitStaged {mailbox doing : String} {count : Nat} {α : Type} {value : α} :
    Effect.Meets (Holding testimony folder snapshot start log completed) (do
        StageMessageSink.admitStaged mailbox count doing
        return value : Scanning parseDate α) (fun result world => result = value ∧
        Holding testimony folder snapshot start log completed world) (SoundWorld testimony start) :=
  meets_quiet (keeps_admitStaged _ _ _) stable_holding (fun _ holding => holding.1)
    fun _ => Effect.Meets.pure fun _ holding => ⟨rfl, holding⟩

theorem meets_reuseCompletedMailbox :
    Effect.Meets (SoundWorld testimony start)
      (StageMessageSink.reuseCompletedMailbox scan.side scan.mailbox snapshot :
        Scanning parseDate Bool)
      (fun reused world => match reused with
        | true => ∃ log, Holding testimony scan.folder snapshot start log true world
        | false => SoundWorld testimony start world)
      (SoundWorld testimony start) := by
  refine Effect.Meets.bind (Effect.Meets.reading (fun world reusable sound isReusable =>
    And.intro sound isReusable) fun world => id) fun reusable => ?_
  cases reusable with
  | none => exact Effect.Meets.pure fun world holds => holds.1
  | some count =>
    have admits : Effect.Meets
        (fun world => ∃ log, Holding testimony scan.folder snapshot start log true world)
        (do
          StageMessageSink.admitStaged scan.mailbox count "reusing a completed folder"
          return true : Scanning parseDate Bool)
        (fun reused world => match reused with
          | true => ∃ log, Holding testimony scan.folder snapshot start log true world
          | false => SoundWorld testimony start world)
        (SoundWorld testimony start) := by
      refine Effect.Meets.of_exists fun log =>
        meets_admitStaged.weaken (fun _ => id) ?_ fun _ => id
      intro reused later ⟨isReused, holding⟩
      rw [isReused]
      exact ⟨log, holding⟩
    refine admits.assuming fun world ⟨sound, isReusable⟩ => ?_
    obtain ⟨log, staged, -⟩ := staged_of_reusable sound.stage isReusable
    exact ⟨log, sound, staged⟩

theorem meets_resumeMailboxPrefix :
    Effect.Meets (SoundWorld testimony start)
      (StageMessageSink.resumeMailboxPrefix scan.side scan.mailbox snapshot :
        Scanning parseDate (Option (Nat × Nat)))
      (fun resumed world => match resumed with
        | some (count, lastUid) => ∃ log : Log, log.length = count ∧ log.lastUid = lastUid ∧
            Holding testimony scan.folder snapshot start log false world
        | none => SoundWorld testimony start world)
      (SoundWorld testimony start) := by
  refine Effect.Meets.bind (Effect.Meets.reading (fun world resumable sound isResumable =>
    And.intro sound isResumable) fun world => id) fun resumable => ?_
  cases resumable with
  | none => exact Effect.Meets.pure fun world holds => holds.1
  | some found =>
    have admits : Effect.Meets
        (fun world => ∃ log : Log, (log.length = found.1 ∧ log.lastUid = found.2) ∧
          Holding testimony scan.folder snapshot start log false world)
        (do
          StageMessageSink.admitStaged scan.mailbox found.1 "resuming a folder"
          return some found : Scanning parseDate (Option (Nat × Nat)))
        (fun resumed world => match resumed with
          | some (count, lastUid) => ∃ log : Log, log.length = count ∧ log.lastUid = lastUid ∧
              Holding testimony scan.folder snapshot start log false world
          | none => SoundWorld testimony start world)
        (SoundWorld testimony start) := by
      refine Effect.Meets.of_exists fun log => Effect.Meets.of_fact (fun _ holds => holds.1)
        fun isFound => meets_admitStaged.weaken (fun _ holds => holds.2) ?_ fun _ => id
      intro resumed later ⟨isResumed, holding⟩
      rw [isResumed]
      exact ⟨log, isFound.1, isFound.2, holding⟩
    refine admits.assuming fun world ⟨sound, isResumable⟩ => ?_
    obtain ⟨log, staged, isCount, isLast, -⟩ := staged_of_resumable sound.stage isResumable
    exact ⟨log, ⟨isCount, isLast⟩, sound, staged⟩

theorem meets_beginMailboxScan :
    Effect.Meets (SoundWorld testimony start)
      (StageMessageSink.beginMailboxScan wire scan.side scan.mailbox snapshot :
        Scanning parseDate Unit)
      (fun _ => Holding testimony scan.folder snapshot start [] false)
      (SoundWorld testimony start) := by
  refine meets_quiet (keeps_ask _) stable_soundWorld (fun _ => id) fun now => ?_
  have commits : Effect.Meets (SoundWorld testimony start)
      (commit wire (DurableStage.beginMailboxScan scan.side scan.mailbox snapshot now) :
        Scanning parseDate Unit)
      (fun _ => Holding testimony scan.folder snapshot start [] false)
      (SoundWorld testimony start) := by
    refine meets_commit stable_soundWorld (fun _ => id) fun world stage sound begins => ?_
    obtain ⟨next, staged⟩ := sound.stage.beginMailboxScan begins
    exact ⟨sound.commit next, staged⟩
  refine Effect.Meets.bind commits fun _ => ?_
  refine meets_quiet (keeps_resetMailboxCount _) stable_holding (fun _ holding => holding.1)
    fun _ => ?_
  exact Effect.Meets.of_keeps (keeps_activate _) stable_holding fun _ holding => holding.1

theorem meets_recordPermanentFlags {permanentFlags : Option String} :
    Effect.Meets (Holding testimony folder snapshot start log completed)
      (StageMessageSink.recordPermanentFlags wire scan.side scan.mailbox permanentFlags :
        Scanning parseDate Unit) (fun _ => Holding testimony folder snapshot start log completed)
      (SoundWorld testimony start) := by
  refine meets_commit stable_holding (fun _ holding => holding.1)
    fun world stage holding recorded => ?_
  obtain rfl := Except.ok.inj recorded
  have alike : ∀ folder, Alike world.stage
      (world.stage.recordPermanentFlags scan.side scan.mailbox permanentFlags) folder :=
    fun folder => ⟨rfl, rfl⟩
  exact ⟨holding.1.commit (soundStage_of_alike holding.1.stage alike),
    holding.2.of_alike (alike folder)⟩

/-- From the first message that is not staged, a folder is enumerated to its end. -/
theorem meets_enumerateUidPages (answers : Answers wire scan testimony)
    (seen : testimony.seen start scan.folder snapshot) {resumed : Option (Nat × Nat)}
    (isResumed : (resumed = none ∧ log = []) ∨ resumed = some (log.length, log.lastUid)) :
    Effect.Meets (Holding testimony scan.folder snapshot start log false)
      (enumerateUidPages wire scan snapshot snapshot.highestModseq.isSome resumed :
        Scanning parseDate Nat)
      (fun enumerated world => ∃ all : Log, all.length = enumerated ∧
        Holding testimony scan.folder snapshot start all false world)
      (SoundWorld testimony start) := by
  have enumerates : ∀ planner lastUid, Bounded log lastUid → Effect.Meets
      (Holding testimony scan.folder snapshot start log false)
      (enumerateFrom wire scan snapshot snapshot.highestModseq.isSome planner (log.length + 1)
        log.length lastUid 0 : Scanning parseDate Nat)
      (fun enumerated world => ∃ all : Log, all.length = enumerated ∧
        Holding testimony scan.folder snapshot start all false world)
      (SoundWorld testimony start) := by
    intro planner lastUid bounded
    apply (meets_enumerateFrom answers seen planner bounded 0).weaken
    · exact fun world holding => holding.progress
    · exact fun enumerated world ⟨all, isAll, progress⟩ => ⟨all, isAll, progress.holding⟩
    · exact fun _ => id
  unfold enumerateUidPages
  cases isResumed with
  | inl none =>
    obtain ⟨rfl, rfl⟩ := none
    exact enumerates _ none nofun
  | inr isPrefix =>
    obtain rfl := isPrefix
    refine Effect.Meets.of_fact (fun world holding => holding.2.backs.le_lastUid)
      fun isLast => ?_
    refine Effect.Meets.ite (fun _ => ?_) fun _ => ?_
    · exact enumerates _ (some log.lastUid) fun entry isEntry => ⟨_, rfl, isLast entry isEntry⟩
    · rw [fail]
      apply Effect.Meets.ofExcept
      · intro world value holding isOk
        cases isOk
      · exact fun world holding => holding.1

/-- What the rows of a folder begin with. -/
def Admitted (testimony : Testimony) (folder : StagedFolder) (snapshot : FolderSnapshot)
    (start : Nat) (admitted : Bool × Option (Nat × Nat)) (world : ScanWorld parseDate) : Prop :=
  ∃ log : Log, (admitted.1 = true ∧ log.length = snapshot.existsCount ∨
      admitted.1 = false ∧ ((admitted.2 = none ∧ log = []) ∨
        admitted.2 = some (log.length, log.lastUid))) ∧
    Holding testimony folder snapshot start log admitted.1 world

theorem meets_admitRows :
    Effect.Meets (SoundWorld testimony start)
      (admitRows wire scan snapshot : Scanning parseDate _)
      (Admitted testimony scan.folder snapshot start) (SoundWorld testimony start) := by
  have begins : Effect.Meets (SoundWorld testimony start) (do
      StageMessageSink.beginMailboxScan wire scan.side scan.mailbox snapshot
      return (false, none) : Scanning parseDate (Bool × Option (Nat × Nat)))
      (Admitted testimony scan.folder snapshot start) (SoundWorld testimony start) :=
    Effect.Meets.bind meets_beginMailboxScan fun _ =>
      Effect.Meets.pure fun world holding => ⟨[], .inr ⟨rfl, .inl ⟨rfl, rfl⟩⟩, holding⟩
  cases bodies : scan.maxBodyBytes with
  | some limit =>
    rw [admitRows, bodies]
    exact begins
  | none =>
    rw [admitRows, bodies]
    refine Effect.Meets.bind meets_reuseCompletedMailbox fun reused => ?_
    cases reused with
    | true =>
      exact Effect.Meets.pure fun world ⟨log, holding⟩ =>
        ⟨log, .inl ⟨rfl, holding.2.all rfl⟩, holding⟩
    | false =>
      refine Effect.Meets.bind meets_resumeMailboxPrefix fun resumed => ?_
      cases resumed with
      | none => exact begins
      | some found =>
        refine Effect.Meets.pure fun world ⟨log, isCount, isLast, holding⟩ =>
          ⟨log, .inr ⟨rfl, .inr ?_⟩, holding⟩
        rw [isCount, isLast]

/-- A scan that goes on has all messages of the folder. -/
theorem meets_fetchRows (answers : Answers wire scan testimony) {selection : Selection}
    (seen : testimony.seen start scan.folder snapshot)
    (flags : selection.modseq.any (·.isTracked) = snapshot.highestModseq.isSome) :
    Effect.Meets (SoundWorld testimony start)
      (fetchRows wire scan snapshot selection : Scanning parseDate Bool)
      (fun reused world => ∃ log : Log, log.length = snapshot.existsCount ∧
        Holding testimony scan.folder snapshot start log reused world)
      (SoundWorld testimony start) := by
  rw [fetchRows, flags]
  refine Effect.Meets.bind meets_admitRows fun admitted => ?_
  refine Effect.Meets.of_exists fun log => Effect.Meets.of_fact (fun _ holds => holds.1)
    fun isAdmitted => Effect.Meets.assuming (fun _ holds => holds.2) ?_
  obtain ⟨reused, resumed⟩ := admitted
  refine Effect.Meets.bind meets_recordPermanentFlags fun _ => ?_
  cases isAdmitted with
  | inl all =>
    obtain ⟨isReused, isAll⟩ := all
    obtain rfl : reused = true := isReused
    refine Effect.Meets.bind_ensure (fun _ holding => holding.1) fun _ => ?_
    exact Effect.Meets.pure fun world holding => ⟨log, isAll, holding⟩
  | inr fetched =>
    obtain ⟨isFetched, isResumed⟩ := fetched
    obtain rfl : reused = false := isFetched
    refine Effect.Meets.bind (meets_enumerateUidPages answers seen isResumed)
      fun enumerated => ?_
    refine Effect.Meets.bind_ensure (fun _ ⟨_, _, holding⟩ => holding.1) fun isAll => ?_
    exact Effect.Meets.pure fun world ⟨all, isCount, holding⟩ =>
      ⟨all, isCount.trans isAll, holding⟩

end MailSwiftSync.Scan
