import MailSwiftSync.Scan.Stages

/-!
# Soundness of a scan

Whatever a folder scan meets, the stage stays sound, now and in every state its file has had.  A
scan that succeeds leaves the folder completed with the messages that the server told of.
-/

namespace MailSwiftSync.Scan

open Foundation Imap DurableStage

variable {parseDate : DateParser} {testimony : Testimony} {start : Nat}

/-! ## Worlds -/

/-- Some time is reached, and the stage is sound, as it was whenever it was committed. -/
structure SoundWorld (testimony : Testimony) (start : Nat) (world : ScanWorld parseDate) :
    Prop where
  started : start ≤ world.time
  stage : SoundStage testimony world.time world.stage
  commits : ∀ commit ∈ world.commits, commit.1 ≤ world.time ∧
    SoundStage testimony commit.1 commit.2

/-- Time passes, and the stage stays. -/
structure Passes (world later : ScanWorld parseDate) : Prop where
  time : world.time ≤ later.time
  stage : later.stage = world.stage
  commits : later.commits = world.commits

instance : IsPreorder (ScanWorld parseDate) Passes where
  refl _ := ⟨le_rfl, rfl, rfl⟩
  trans _ _ _ first second := ⟨first.time.trans second.time, second.stage.trans first.stage,
    second.commits.trans first.commits⟩

/-- What stays true while time passes. -/
def Stable (condition : ScanWorld parseDate → Prop) : Prop :=
  ∀ world later, Passes world later → condition world → condition later

theorem SoundWorld.since {earlier : Nat} {world : ScanWorld parseDate}
    (sound : SoundWorld testimony start world) (before : earlier ≤ start) :
    SoundWorld testimony earlier world :=
  { sound with started := before.trans sound.started }

theorem stable_soundWorld : Stable (SoundWorld testimony start : ScanWorld parseDate → Prop) := by
  intro world later passes sound
  constructor
  · exact sound.started.trans passes.time
  · rw [passes.stage]
    exact sound.stage.mono passes.time
  · rw [passes.commits]
    intro commit isCommit
    have before := sound.commits commit isCommit
    exact ⟨before.1.trans passes.time, before.2⟩

theorem SoundWorld.commit {world : ScanWorld parseDate} {stage : DurableStage parseDate}
    (sound : SoundWorld testimony start world)
    (soundStage : SoundStage testimony world.time stage) :
    SoundWorld testimony start
      { world with stage, commits := world.commits ++ [(world.time, stage)] } where
  started := sound.started
  stage := soundStage
  commits commit isCommit := by
    cases List.mem_append.mp isCommit with
    | inl isOld => exact sound.commits commit isOld
    | inr isNew =>
      rw [List.mem_singleton.mp isNew]
      exact ⟨le_rfl, soundStage⟩

/-! ## Steps that leave the stage -/

section Quiet

variable {α : Type}

theorem keeps_ask (read : Nat → Except String α) :
    Effect.Keeps Passes (ask read : Scanning parseDate α) :=
  fun _ => ⟨Nat.le_succ _, rfl, rfl⟩

theorem keeps_ensure (condition : Prop) [Decidable condition] (message : String) :
    Effect.Keeps Passes (Effect.ensure condition message : Scanning parseDate Unit) :=
  Effect.Keeps.ofExcept _

theorem keeps_addCurrentAttemptMessages (count : Nat) :
    Effect.Keeps Passes
      (StageMessageSink.addCurrentAttemptMessages count : Scanning parseDate Unit) := by
  apply Effect.Keeps.transact
  intro world value changed ran
  split at ran
  · cases ran
  · split at ran
    · cases ran
    · dsimp only at ran
      split at ran
      · cases ran
      · cases ran
        exact ⟨le_rfl, rfl, rfl⟩

theorem keeps_resetMailboxCount (mailbox : String) :
    Effect.Keeps Passes
      (StageMessageSink.resetMailboxCount mailbox : Scanning parseDate Unit) :=
  Effect.Keeps.modify fun _ => ⟨le_rfl, rfl, rfl⟩

theorem keeps_activate (mailbox : String) :
    Effect.Keeps Passes (StageMessageSink.activate mailbox : Scanning parseDate Unit) :=
  Effect.Keeps.modify fun _ => ⟨le_rfl, rfl, rfl⟩

theorem keeps_admitStaged (mailbox : String) (count : Nat) (doing : String) :
    Effect.Keeps Passes
      (StageMessageSink.admitStaged mailbox count doing : Scanning parseDate Unit) := by
  refine Effect.Keeps.bind (Effect.Keeps.reading _) fun current => ?_
  refine Effect.Keeps.bind (keeps_ensure _ _) fun _ => ?_
  refine Effect.Keeps.bind (keeps_resetMailboxCount mailbox) fun _ => ?_
  refine Effect.Keeps.bind (keeps_activate mailbox) fun _ => ?_
  exact keeps_addCurrentAttemptMessages count

theorem keeps_bodyFingerprints (wire : Wire) (scan : FolderScan) (rawResponse : Bytes)
    (uidvalidity : Nat) (messages : ExtractedMessages) :
    Effect.Keeps Passes (bodyFingerprints wire scan rawResponse uidvalidity messages :
      Scanning parseDate _) := by
  rw [bodyFingerprints]
  split
  · exact Effect.Keeps.pure _
  · refine Effect.Keeps.bind (Effect.Keeps.ofExcept _) fun page => ?_
    refine Effect.Keeps.bind (keeps_ask _) fun _ => ?_
    refine Effect.Keeps.bind (keeps_ensure _ _) fun _ => ?_
    exact Effect.Keeps.pure _

variable {β : Type} {pre failed : ScanWorld parseDate → Prop}
  {post : β → ScanWorld parseDate → Prop} {next : α → Scanning parseDate β}

/-- A step that leaves the stage comes first. -/
theorem meets_quiet {ε : Type} {first : Effect (ScanWorld parseDate) ε α}
    {next : α → Effect (ScanWorld parseDate) ε β} (quiet : Effect.Keeps Passes first)
    (stable : Stable pre) (kept : ∀ world, pre world → failed world)
    (isNext : ∀ value, Effect.Meets pre (next value) post failed) :
    Effect.Meets pre (first >>= next) post failed :=
  Effect.Meets.bind (Effect.Meets.of_keeps quiet stable kept) isNext

/-- An answer is that of some time before. -/
theorem meets_answer {read : Nat → Except String α} (stable : Stable pre)
    (kept : ∀ world, pre world → failed world)
    (isNext : ∀ value, Effect.Meets
      (fun world => pre world ∧ ∃ before, pre before ∧ before.time < world.time ∧
        read before.time = .ok value) (next value) post failed) :
    Effect.Meets pre (ask read >>= next) post failed := by
  apply Effect.Meets.bind _ isNext
  intro world holds
  have passed := stable world _ (keeps_ask read world) holds
  rw [ask] at passed ⊢
  cases isRead : read world.time with
  | ok value => exact ⟨passed, world, holds, Nat.lt_succ_self _, isRead⟩
  | error message => exact kept _ passed

end Quiet

/-- A transaction that is written, or leaves the stage. -/
theorem meets_commit {wire : Wire} {pre : ScanWorld parseDate → Prop}
    {post : Unit → ScanWorld parseDate → Prop} {failed : ScanWorld parseDate → Prop}
    {change : DurableStage parseDate → Except String (DurableStage parseDate)}
    (stable : Stable pre) (kept : ∀ world, pre world → failed world)
    (changes : ∀ world stage, pre world → change world.stage = .ok stage →
      post () { world with stage, commits := world.commits ++ [(world.time, stage)] }) :
    Effect.Meets pre (commit wire change) post failed := by
  refine meets_quiet (keeps_ask _) stable kept fun _ => ?_
  apply Effect.Meets.transact
  · intro world value later holds ran
    obtain ⟨stage, isStage, ran⟩ := bind_eq_ok.mp ran
    cases ran
    exact changes world stage holds isStage
  · exact kept

end MailSwiftSync.Scan
