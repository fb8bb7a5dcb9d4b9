import MailSwiftSync.Ledger.Cutover
import MailSwiftSync.Ledger.Destination

/-!
# Completion of runs

A run of a mailbox ends in the transaction that records the mailbox state, so that
neither is terminal without the other.  Only the evidence commit can verify a mailbox,
and it replaces the evidence projection of the mailbox in the same transaction.
-/

namespace MailSwiftSync

/-! ## Checkpoints -/

def maxDovecotCheckpointBytes : Nat := 4096

def dovecotCheckpointContextBytes : Nat := 64

def isHexDigit (c : Char) : Bool :=
  c.isDigit || ('a' ≤ c && c ≤ 'f') || ('A' ≤ c && c ≤ 'F')

/-- `str::split_once('.')`. -/
def splitOnceAtDot (value : String) : Option (String × String) :=
  if '.' ∈ value.toList then
    some (String.ofList (value.toList.takeWhile (· ≠ '.')),
      String.ofList ((value.toList.dropWhile (· ≠ '.')).drop 1))
  else none

namespace LedgerPlatform

variable (platform : LedgerPlatform)

/-- The bytes of a little-endian 32-bit number. -/
def fromLeBytes (bytes : List Nat) : Nat :=
  bytes.foldr (fun byte rest => byte + 256 * rest) 0

/-- The documented state format of dsync: an empty state, or a header, records of 44
bytes and a checksum. -/
def validDsyncState (decoded : List Nat) : Bool :=
  decoded = [0, 0, 0, 0] ||
    (8 ≤ decoded.length && decoded.take 4 = [1, 0, 0, 0] && (decoded.length - 8) % 44 = 0 &&
      platform.crc32 (decoded.take (decoded.length - 4)) =
        fromLeBytes (decoded.drop (decoded.length - 4)))

/-- Whether the padding of a Base64 text is where it belongs. -/
def paddingIsValid (value : List Char) : Bool :=
  let padding := value.dropWhile (· ≠ '=')
  if padding = [] then value.length % 4 ≠ 1
  else value.length % 4 = 0 && padding.length ≤ 2 && padding.all (· = '=')

/-- The alphabet has no whitespace, so that the separate check for it finds nothing more. -/
def validDovecotCheckpointRaw (value : String) : Bool :=
  let chars := value.toList
  value = trim value && 8 ≤ value.utf8ByteSize &&
    value.utf8ByteSize ≤ maxDovecotCheckpointBytes &&
    String.ofList (chars.map Char.toLower) ∉ ["success", "successful", "completed"] &&
    chars.all (fun c => c.isAlphanum || c = '+' || c = '/' || c = '=') &&
    paddingIsValid chars &&
    (platform.base64Decode
      (value ++ String.ofList (List.replicate ((4 - chars.length % 4) % 4) '='))).any
        platform.validDsyncState

def encodeDovecotCheckpoint (state context : String) : Option String :=
  if platform.validDovecotCheckpointRaw state &&
      context.utf8ByteSize = dovecotCheckpointContextBytes && context.toList.all isHexDigit &&
      (state ++ "." ++ context).utf8ByteSize ≤ maxDovecotCheckpointBytes then
    some (state ++ "." ++ context)
  else none

def validDovecotCheckpoint (value : String) : Bool :=
  match splitOnceAtDot value with
  | some (state, context) => platform.encodeDovecotCheckpoint state context = some value
  | none => platform.validDovecotCheckpointRaw value

end LedgerPlatform

/-! ## Stored texts and numbers -/

def maxEventDetailBytes : Nat := 16 * 1024

def eventDetailTruncationSuffix : String := " [diagnostic detail truncated by MailSwiftSync]"

/-- The longest prefix of whole characters within a number of bytes. -/
def takeBytes (limit : Nat) : List Char → List Char
  | [] => []
  | c :: rest => if c.utf8Size ≤ limit then c :: takeBytes (limit - c.utf8Size) rest else []

/-- The stored form of a run's detail. -/
def boundedEventDetail (detail : String) : String :=
  if detail.utf8ByteSize ≤ maxEventDetailBytes then detail
  else
    String.ofList (takeBytes (maxEventDetailBytes - eventDetailTruncationSuffix.utf8ByteSize)
      detail.toList) ++ eventDetailTruncationSuffix

/-- `i64::try_from` on an unsigned number. -/
def fitsI64 (value : Nat) : Bool :=
  value < 2 ^ 63

/-- Whether every counter of some evidence has a column value. -/
def MailboxEvidence.fitsLedger (value : MailboxEvidence) : Bool :=
  [value.sourceMessages, value.destinationMessages, value.sourceBytes,
    value.destinationBytes, value.unmatchedMessages.getD 0, value.failedMessages,
    value.sourceFolders, value.destinationFolders, value.missingMessages,
    value.extraMessages, value.modifiedMessages, value.probableMessages,
    value.rfcMessageIdMatches, value.syntheticIdentityMatches].all fitsI64 &&
  value.flagVerification.all fun flags =>
    [flags.comparedMessages, flags.mismatchedMessages, flags.exceptedMessages].all fitsI64

/-- Bounds and control-character checks for one persisted mismatch row. -/
def mismatchRowIsInvalid (jobId runId : String) (mismatch : MessageMismatch) : Bool :=
  let longer (limit : Nat) (value : Option String) : Bool :=
    value.any (limit < ·.utf8ByteSize)
  mismatch.jobId ≠ jobId || mismatch.runId ≠ runId || mismatch.id = "" ||
    256 < mismatch.id.utf8ByteSize || longer 256 mismatch.sourceUid ||
    longer 256 mismatch.destUid || longer 4096 mismatch.sourceFolder ||
    longer 4096 mismatch.destinationFolder || longer 4096 mismatch.sourceMessageId ||
    longer 4096 mismatch.destMessageId || longer 256 mismatch.sourceDate ||
    longer 256 mismatch.destDate || longer 128 mismatch.sourceFingerprint ||
    longer 128 mismatch.destinationFingerprint ||
    [mismatch.sourceUid, mismatch.destUid, mismatch.sourceFolder,
      mismatch.destinationFolder, mismatch.sourceMessageId, mismatch.destMessageId,
      mismatch.sourceDate, mismatch.destDate, mismatch.sourceFingerprint,
      mismatch.destinationFingerprint].any (·.any (·.toList.any isControl))

/-- Whether the numbers of a mismatch row have column values. -/
def mismatchFitsLedger (mismatch : MessageMismatch) : Bool :=
  [mismatch.sourceSizeBytes, mismatch.destSizeBytes, mismatch.sourceUidvalidity,
    mismatch.destinationUidvalidity].all (·.all fitsI64)

namespace Ledger

open Foundation

variable (platform : LedgerPlatform) (ledger : Ledger)

/-! ## Runs without a mailbox transition -/

/-- The status columns of a run that ended. -/
def ended (status : RunStatus) (detail : String) (_ : RunProgress) : RunProgress :=
  { status, detail }

/-- Close a batch or a failed audit. -/
def finishRun (runId : RunId) (status : RunStatus) (detail : String) :
    Except LedgerError Ledger := do
  require (status ∈ [.completed, .failed, .cancelled, .abandoned, .verificationFailed])
    .invalidQuery
  let run ← demand ((ledger.runs.find runId).filter (·.status = .running))
  require (!ledger.runs.any fun child =>
    child.parentRunId = some runId && child.status.isActive) .invalidQuery
  require (status ≠ .completed || !ledger.runs.any fun child =>
    child.parentRunId = some runId && child.status ≠ .completed) .invalidQuery
  return ((ledger.setRuns (fun run => run.id = runId && run.status = .running)
    (ended status (boundedEventDetail detail))).clearProcesses runId).emit run.projectId
      (some runId) .runFinished

/-- Close a batch child that a hold kept from starting. -/
def cancelHeldChildRun (projectId : ProjectId) (jobId : JobId) (runId : RunId)
    (detail : String) : Except LedgerError Ledger := do
  let _ ← demand ((ledger.runs.find runId).filter fun run =>
    run.projectId = projectId && run.jobId = some jobId && run.status = .queued)
  return (ledger.setRuns (·.id = runId)
    (ended .cancelled (boundedEventDetail detail))).emit projectId (some runId) .runHeld

/-! ## Terminal transitions of a mailbox -/

/-- The stored preflight digest is a SHA-256 in hexadecimal. -/
def digestIsValid (preflightPlan : String) : Bool :=
  preflightPlan.utf8ByteSize = 64 && preflightPlan.toList.all isHexDigit

/-- The mailbox states each terminal run status goes with. -/
def terminalPairIsValid (runStatus : RunStatus) (mailboxState : MailboxState) : Bool :=
  match runStatus with
  | .completed => mailboxState ∈
      [.ready, .completed, .deltaRequired, .verificationDifference, .attention]
  | .failed => mailboxState ∈ [.failed, .attention]
  | .cancelled => mailboxState ∈ [.cancelled, .attention]
  | .verificationFailed => mailboxState ∈ [.attention, .verificationDifference]
  | _ => false

/-- The mailbox columns of a run that ended; plan and checkpoint are `COALESCE`d. -/
def settled (state : MailboxState) (detail : String)
    (preflightPlan checkpoint : Option String) (progress : MailboxProgress) :
    MailboxProgress :=
  { progress with
    state
    attentionReason := attentionReasonFor state detail
    preflightPlan := preflightPlan.or progress.preflightPlan
    checkpoint := checkpoint.or progress.checkpoint }

/-- The run a terminal transition ends: one that is running, or queued when it ends
without a result. -/
def runToEnd (projectId : ProjectId) (jobId : JobId) (runId : RunId)
    (runStatus : RunStatus) : Option Run :=
  (ledger.runs.find runId).filter fun run =>
    run.projectId = projectId && run.jobId = some jobId &&
      (run.status = .running || (run.status = .queued &&
        runStatus ∈ [.cancelled, .failed, .verificationFailed]))

/-- Complete a mailbox run without evidence. -/
def finishRunForMailboxWithPreflightPlanAndCheckpoint (projectId : ProjectId)
    (jobId : JobId) (runId : RunId) (runStatus : RunStatus) (mailboxState : MailboxState)
    (detail : String) (preflightPlan checkpoint : Option String) :
    Except LedgerError Ledger := do
  require (preflightPlan.all digestIsValid)
    (.rejection "preflight plan digest is not 64 hexadecimal characters")
  require (checkpoint.all platform.validDovecotCheckpoint)
    (.rejection "Dovecot checkpoint is malformed")
  require (checkpoint.isNone || runStatus = .completed)
    (.rejection "a checkpoint can only be committed with a completed run")
  require (runStatus ∈ [.completed, .failed, .cancelled, .verificationFailed])
    (.rejection "unknown terminal run status")
  require (mailboxState ∈ [.ready, .completed, .verified, .deltaRequired,
      .verificationDifference, .failed, .cancelled, .attention])
    (.rejection "unknown terminal mailbox state")
  let job ← demand (ledger.jobIn projectId jobId)
  require (terminalPairIsValid runStatus mailboxState)
    (.rejection "run status and mailbox state are not a valid terminal pair")
  require (mailboxState ≠ .verified)
    (.rejection "verified requires the evidence commit path")
  require (job.state = mailboxState || validMailboxTransition job.state mailboxState)
    (.rejection "mailbox state transition is not allowed")
  let _ ← demand (ledger.runToEnd projectId jobId runId runStatus)
  return (((ledger.setRuns (·.id = runId)
    (ended runStatus (boundedEventDetail detail))).setJobs (·.id = jobId)
      (settled mailboxState detail preflightPlan checkpoint)).clearProcesses runId).emit
        projectId (some runId) .runFinished

/-! ## Evidence -/

/-- Evidence as its columns hold it: with its canonical label. -/
def stored (value : MailboxEvidence) : MailboxEvidence :=
  { value with verificationOutcome := some value.outcome }

/-- Evidence of a preflight is an observation, not a claim. -/
def storedPreflight (value : MailboxEvidence) : MailboxEvidence :=
  { value with verificationOutcome := some .incomplete, authoritative := false }

/-- Append evidence to the history of a mailbox. -/
def recordHistory (row : EvidenceRow) : Ledger :=
  { ledger with history := ledger.history ++ [row] }

/-- Make a row the current evidence of its mailbox. -/
def upsertEvidenceProjection (row : EvidenceRow) : Ledger :=
  { ledger with evidence := ledger.evidence.upsert row }

/-- Whether a mailbox may take the state an evidence commit gives it. -/
def evidenceTransitionIsAllowed (current next : MailboxState) : Bool :=
  current = next ||
    (current = .running && next ∈ [.verified, .deltaRequired, .verificationDifference]) ||
    validMailboxTransition current next

/-- The row an evidence commit stores; a mailbox becomes ready only through a
successful preflight. -/
def committedRow (jobId : JobId) (runId : RunId) (mailboxState : MailboxState)
    (value : MailboxEvidence) : EvidenceRow where
  jobId := jobId
  runId := runId
  capturedAt := ledger.currentTimestamp
  value := if mailboxState = .ready then storedPreflight value else stored value

/-- The tables after an evidence commit. -/
def commitEvidence (row : EvidenceRow) (mailboxState : MailboxState) (detail : String)
    (preflightPlan checkpoint : Option String) : Ledger :=
  (((ledger.setRuns (·.id = row.runId) (ended .completed (boundedEventDetail detail))).recordHistory
    row).upsertEvidenceProjection row).setJobs (·.id = row.jobId)
      (settled mailboxState detail preflightPlan checkpoint)

/-- Complete a mailbox run with its verification evidence, or a preflight with its
observations. -/
def finishRunForMailboxWithEvidence (projectId : ProjectId) (jobId : JobId)
    (runId : RunId) (runStatus : RunStatus) (mailboxState : MailboxState) (detail : String)
    (value : MailboxEvidence) (mismatches : List MessageMismatch)
    (preflightPlan checkpoint : Option String) : Except LedgerError Ledger := do
  require (preflightPlan.all digestIsValid)
    (.rejection "preflight plan digest is not 64 hexadecimal characters")
  require (checkpoint.all platform.validDovecotCheckpoint)
    (.rejection "Dovecot checkpoint is malformed")
  let successfulPreflight := mailboxState = .ready && preflightPlan.isSome
  require (runStatus = .completed && (successfulPreflight || mailboxState ∈
      [.verified, .deltaRequired, .verificationDifference, .attention]))
    (.rejection "evidence commit requires a completed run and an evidence-backed state")
  require (mailboxState ≠ .verified || value.isExactMatch)
    (.rejection "verified requires exactly matching evidence")
  require (value.verificationOutcome.all fun outcome =>
      !outcome.isExact || value.exactLabelIsConsistent outcome)
    (.rejection "an exact verification label contradicts the evidence counters")
  require (!successfulPreflight || mismatches.isEmpty)
    (.rejection "a successful preflight cannot carry message mismatches")
  let job ← demand (ledger.jobIn projectId jobId)
  require (evidenceTransitionIsAllowed job.state mailboxState)
    (.rejection "mailbox state transition is not allowed")
  let _ ← demand ((ledger.runs.find runId).filter fun run =>
    run.projectId = projectId && run.jobId = some jobId && run.status = .running)
  require (value.fitsLedger) .invalidQuery
  require (value.flagVerification.all (·.isConsistent))
    (.rejection "flag verification counts are inconsistent")
  require (mismatches.all fun mismatch => !mismatchRowIsInvalid jobId runId mismatch)
    (.rejection "a message mismatch row is out of bounds or contains control characters")
  require (mismatches.all mismatchFitsLedger)
    (.rejection "a message mismatch number exceeds the ledger range")
  let committed := ledger.commitEvidence
    (ledger.committedRow jobId runId mailboxState value) mailboxState detail preflightPlan
      checkpoint
  return ((committed.announce projectId none
    (if mailboxState = .verified then
      (committed.publishableReadiness projectId).map .cutoverReady
    else none)).clearProcesses runId).emit projectId (some runId) .runFinished

/-- Complete an audit: its evidence goes to the history only. -/
def finishVerificationOnlyRun (projectId : ProjectId) (jobId : JobId) (runId : RunId)
    (value : MailboxEvidence) (mismatches : List MessageMismatch) (detail : String) :
    Except LedgerError Ledger := do
  require (!value.outcome.isExact || value.exactLabelIsConsistent value.outcome)
    (.rejection "an exact verification label contradicts the evidence counters")
  let _ ← demand ((ledger.runs.find runId).filter fun run =>
    run.projectId = projectId && run.jobId = some jobId && run.status = .running)
  require value.fitsLedger .invalidQuery
  require (value.flagVerification.all (·.isConsistent)) .invalidQuery
  require (mismatches.all fun mismatch =>
      mismatch.jobId = jobId && mismatch.runId = runId && mismatch.id ≠ "")
    (.rejection "a mismatch row belongs to a different run or has no identity")
  require (mismatches.all mismatchFitsLedger) .invalidQuery
  return ((ledger.setRuns (·.id = runId)
    (ended .completed (boundedEventDetail detail))).recordHistory {
      jobId, runId, capturedAt := ledger.currentTimestamp, value := stored value }).emit
        projectId (some runId) .verificationFinished

/-! ## Accepted completions -/

section Accepted

variable {platform : LedgerPlatform} {ledger next : Ledger} {projectId : ProjectId}
  {jobId : JobId} {runId : RunId} {runStatus : RunStatus} {mailboxState : MailboxState}
  {detail : String} {preflightPlan checkpoint : Option String}

theorem finishRun_ok {status : RunStatus}
    (accepted : ledger.finishRun runId status detail = .ok next) :
    ∃ run ∈ ledger.runs, run.id = runId ∧ run.status = .running ∧
      status.isActive = false ∧
      (∀ child ∈ ledger.runs, child.parentRunId = some runId → child.status.isActive = false) ∧
      (status = .completed → ∀ child ∈ ledger.runs, child.parentRunId = some runId →
        child.status = .completed) ∧
      next = ((ledger.setRuns (fun run => run.id = runId && run.status = .running)
        (ended status (boundedEventDetail detail))).clearProcesses runId).emit run.projectId
          (some runId) .runFinished := by
  simp only [finishRun, bind_eq_ok, require_eq_ok, demand_eq_ok, pure_eq_ok, exists_const,
    Option.filter_eq_some_iff, Table.find_eq_some, Bool.or_eq_true, Bool.not_eq_true',
    Table.any_eq_false, Bool.and_eq_true, decide_eq_true_eq, not_and, Bool.not_eq_true,
    not_not] at accepted
  obtain ⟨terminal, run, ⟨⟨isRun, sameId⟩, running⟩, settled, successful, rfl⟩ := accepted
  refine ⟨run, isRun, sameId, running, ?_, settled, ?_, rfl⟩
  · simp only [List.mem_cons, List.not_mem_nil, or_false] at terminal
    rcases terminal with rfl | rfl | rfl | rfl | rfl <;> rfl
  · intro completed
    exact successful.resolve_left (not_not_intro completed)

theorem cancelHeldChildRun_ok
    (accepted : ledger.cancelHeldChildRun projectId jobId runId detail = .ok next) :
    ∃ run ∈ ledger.runs, run.id = runId ∧ run.jobId = some jobId ∧ run.status = .queued ∧
      next = (ledger.setRuns (·.id = runId)
        (ended .cancelled (boundedEventDetail detail))).emit projectId (some runId) .runHeld := by
  simp only [cancelHeldChildRun, bind_eq_ok, demand_eq_ok, pure_eq_ok,
    Option.filter_eq_some_iff, Table.find_eq_some, Bool.and_eq_true,
    decide_eq_true_eq] at accepted
  obtain ⟨run, ⟨⟨isRun, sameId⟩, ⟨_, sameJob⟩, queued⟩, rfl⟩ := accepted
  exact ⟨run, isRun, sameId, sameJob, queued, rfl⟩

theorem finishRunForMailbox_ok
    (accepted : ledger.finishRunForMailboxWithPreflightPlanAndCheckpoint platform projectId jobId
      runId runStatus mailboxState detail preflightPlan checkpoint = .ok next) :
    ∃ job run, ledger.jobIn projectId jobId = some job ∧ run ∈ ledger.runs ∧
      run.id = runId ∧ run.projectId = projectId ∧ run.jobId = some jobId ∧
      run.status.isActive = true ∧
      (run.status = .queued → runStatus ≠ .completed) ∧
      runStatus ∈ [.completed, .failed, .cancelled, .verificationFailed] ∧
      terminalPairIsValid runStatus mailboxState = true ∧
      (checkpoint ≠ none → runStatus = .completed) ∧
      (job.state = mailboxState ∨ validMailboxTransition job.state mailboxState = true) ∧
      next = (((ledger.setRuns (·.id = runId)
        (ended runStatus (boundedEventDetail detail))).setJobs (·.id = jobId)
          (settled mailboxState detail preflightPlan checkpoint)).clearProcesses runId).emit
            projectId (some runId) .runFinished := by
  simp only [finishRunForMailboxWithPreflightPlanAndCheckpoint, runToEnd, bind_eq_ok,
    require_eq_ok, demand_eq_ok, pure_eq_ok, exists_const, Option.filter_eq_some_iff,
    Table.find_eq_some, Bool.and_eq_true, Bool.or_eq_true, decide_eq_true_eq,
    Option.isNone_iff_eq_none] at accepted
  obtain ⟨_, _, only, status, _, job, isJob, pair, _, edge, run, ⟨⟨isRun, sameId⟩,
    ⟨sameProject, sameJob⟩, active⟩, rfl⟩ := accepted
  refine ⟨job, run, isJob, isRun, sameId, sameProject, sameJob, ?_, ?_, status, pair, ?_, edge,
    rfl⟩
  · exact RunStatus.isActive_eq_true.mpr (active.symm.imp And.left id)
  · intro queued completed
    simp [queued, completed] at active
  · intro present
    exact only.resolve_left present

theorem finishRunForMailboxWithEvidence_ok {value : MailboxEvidence}
    {mismatches : List MessageMismatch}
    (accepted : ledger.finishRunForMailboxWithEvidence platform projectId jobId runId runStatus
      mailboxState detail value mismatches preflightPlan checkpoint = .ok next) :
    ∃ job run, ledger.jobIn projectId jobId = some job ∧ run ∈ ledger.runs ∧
      run.id = runId ∧ run.projectId = projectId ∧ run.jobId = some jobId ∧
      run.status = .running ∧
      mailboxState ∈ [.ready, .verified, .deltaRequired, .verificationDifference, .attention] ∧
      (mailboxState = .verified → value.isExactMatch = true) ∧
      evidenceTransitionIsAllowed job.state mailboxState = true ∧
      next = (((ledger.commitEvidence (ledger.committedRow jobId runId mailboxState value)
        mailboxState detail preflightPlan checkpoint).announce projectId none
          (if mailboxState = .verified then
            ((ledger.commitEvidence (ledger.committedRow jobId runId mailboxState value)
              mailboxState detail preflightPlan checkpoint).publishableReadiness projectId).map
                .cutoverReady
          else none)).clearProcesses runId).emit projectId (some runId) .runFinished := by
  simp only [finishRunForMailboxWithEvidence, bind_eq_ok, require_eq_ok, demand_eq_ok,
    pure_eq_ok, exists_const, Option.filter_eq_some_iff, Table.find_eq_some, Bool.and_eq_true,
    decide_eq_true_eq] at accepted
  obtain ⟨_, _, ⟨_, state⟩, exact_, _, _, job, isJob, edge, run, ⟨⟨isRun, sameId⟩, ⟨sameProject,
    sameJob⟩, running⟩, _, _, _, _, rfl⟩ := accepted
  refine ⟨job, run, isJob, isRun, sameId, sameProject, sameJob, running, ?_, ?_, edge, rfl⟩
  · simp only [Bool.or_eq_true, Bool.and_eq_true, decide_eq_true_eq] at state
    rcases state with ⟨rfl, _⟩ | state
    · exact List.mem_cons_self
    · exact List.mem_cons_of_mem _ state
  · intro verified
    simpa [verified] using exact_

theorem finishVerificationOnlyRun_ok {value : MailboxEvidence}
    {mismatches : List MessageMismatch}
    (accepted : ledger.finishVerificationOnlyRun projectId jobId runId value mismatches detail =
      .ok next) :
    ∃ run ∈ ledger.runs, run.id = runId ∧ run.projectId = projectId ∧
      run.jobId = some jobId ∧ run.status = .running ∧
      next = ((ledger.setRuns (·.id = runId)
        (ended .completed (boundedEventDetail detail))).recordHistory {
          jobId, runId, capturedAt := ledger.currentTimestamp, value := stored value }).emit
            projectId (some runId) .verificationFinished := by
  simp only [finishVerificationOnlyRun, bind_eq_ok, require_eq_ok, demand_eq_ok, pure_eq_ok,
    exists_const, Option.filter_eq_some_iff, Table.find_eq_some, Bool.and_eq_true,
    decide_eq_true_eq] at accepted
  obtain ⟨_, run, ⟨⟨isRun, sameId⟩, ⟨sameProject, sameJob⟩, running⟩, _, _, _, _, rfl⟩ :=
    accepted
  exact ⟨run, isRun, sameId, sameProject, sameJob, running, rfl⟩

end Accepted

end Ledger

end MailSwiftSync
