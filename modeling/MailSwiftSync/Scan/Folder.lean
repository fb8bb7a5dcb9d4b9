import MailSwiftSync.Foundation.Triples
import MailSwiftSync.Imap.UidDiscovery
import MailSwiftSync.Scan.Cursors
import MailSwiftSync.Scan.Selection

/-!
# Scanning a folder

A folder is selected, its UIDs are asked for window by window, and their metadata page by page.
Every page is committed together with the cursor.  At the end the folder is selected again, and a
scan during which it changed does not count.
-/

namespace MailSwiftSync.Scan

open Foundation Imap

/-! ## What a scan works on -/

/-- Everything outside of the program, at any time: the answers of the server to commands, and
where they do not come, the error; whether the scan may go on; the free space of the file system;
the budgets that both endpoints share; whether the file can be written; the clock. -/
structure Wire where
  answer : Nat → Text → Except String Bytes
  check : Nat → Except String Unit
  availableSpace : Nat → Except String Nat
  reserveState : Nat → Nat → Except String Unit
  reserveHashed : Nat → Nat → Except String Unit
  write : Nat → Except String Unit
  reconnect : Nat → Except String Bool
  clock : Nat → String

/-- The state of a scan.  Time passes with everything that is asked of the outside; the commits
are the states that the file of the stage has had. -/
structure ScanWorld (parseDate : DateParser) where
  time : Nat
  stage : DurableStage parseDate
  commits : List (Nat × DurableStage parseDate)
  count : Nat := 0
  mailboxCounts : AList fun _ : String => Nat := ∅
  activeMailbox : Option String := none
  pageNumber : Nat := 0
  condstoreEnabled : Bool := false
  consecutiveReconnects : Nat := 0

/-- The steps of a scan, which end in a value or a message. -/
abbrev Scanning (parseDate : DateParser) (α : Type) : Type :=
  Effect (ScanWorld parseDate) String α

section Steps

variable {parseDate : DateParser} {α : Type}

/-- Ask something of the outside. -/
def ask (read : Nat → Except String α) : Scanning parseDate α := fun world =>
  (read world.time, { world with time := world.time + 1 })

/-- A transaction of the stage, which may fail to be written. -/
def commit (wire : Wire)
    (change : DurableStage parseDate → Except String (DurableStage parseDate)) :
    Scanning parseDate Unit := do
  ask wire.write
  Effect.transact fun world => do
    let stage ← change world.stage
    return ((), { world with stage, commits := world.commits ++ [(world.time, stage)] })

def fail (message : String) : Scanning parseDate α := Effect.ofExcept (.error message)

end Steps

section Scan

variable (wire : Wire) {parseDate : DateParser}

/-! ## The sink -/

namespace StageMessageSink

variable (side : StagedMessageSide) (mailbox : String) (snapshot : FolderSnapshot)

def messageFetchLimit : Nat := 3000000

def messageFetchLimitExceeded (existing incoming : Nat) : Bool :=
  messageFetchLimit < existing + incoming

def addCurrentAttemptMessages (count : Nat) : Scanning parseDate Unit :=
  Effect.transact fun world =>
    match world.activeMailbox with
    | none => .error "message page arrived before a folder scan began"
    | some mailbox =>
      let mailboxCount := (world.mailboxCounts.lookup mailbox).getD 0 + count
      if 2 ^ 64 ≤ world.count + count then .error "verification message count overflowed"
      else if 2 ^ 64 ≤ mailboxCount then
        .error "verification folder message count overflowed"
      else .ok ((), { world with
        count := world.count + count
        mailboxCounts := world.mailboxCounts.insert mailbox mailboxCount })

def resetMailboxCount : Scanning parseDate Unit :=
  Effect.modify fun world => { world with
    count := world.count - (world.mailboxCounts.lookup mailbox).getD 0
    mailboxCounts := world.mailboxCounts.insert mailbox 0 }

def activate : Scanning parseDate Unit :=
  Effect.modify fun world => { world with activeMailbox := some mailbox }

def beginMailboxScan : Scanning parseDate Unit := do
  let now ← ask fun time => .ok (wire.clock time)
  commit wire (DurableStage.beginMailboxScan side mailbox snapshot now)
  resetMailboxCount mailbox
  activate mailbox

/-- Count messages that an earlier attempt staged. -/
def admitStaged (count : Nat) (doing : String) : Scanning parseDate Unit := do
  let current ← Effect.reading fun world => .ok world.count
  Effect.ensure (messageFetchLimitExceeded current count = false)
    ("[verification_limit=message_count] account would exceed the " ++
      toString messageFetchLimit ++ "-message verification limit while " ++ doing)
  resetMailboxCount mailbox
  activate mailbox
  addCurrentAttemptMessages count

def reuseCompletedMailbox : Scanning parseDate Bool := do
  let reusable ← Effect.reading fun world =>
    world.stage.reusableCompletedMailbox side mailbox snapshot
  match reusable with
  | none => return false
  | some count => do
      admitStaged mailbox count "reusing a completed folder"
      return true

def resumeMailboxPrefix : Scanning parseDate (Option (Nat × Nat)) := do
  let resumable ← Effect.reading fun world =>
    world.stage.resumableMailboxPrefix side mailbox snapshot
  match resumable with
  | none => return none
  | some (count, lastUid) => do
      admitStaged mailbox count "resuming a folder"
      return some (count, lastUid)

def insertPageAndCheckpoint (lastUid : Nat) (messages : ExtractedMessages)
    (fingerprints : AList fun _ : MailboxMessageKey => String) : Scanning parseDate Unit := do
  let available ← ask wire.availableSpace
  Effect.ofExcept (DurableStage.validateStageFreeSpace available)
  commit wire (DurableStage.insertPageWithFingerprints side messages fingerprints
    (some (mailbox, snapshot, lastUid)))
  addCurrentAttemptMessages messages.keys.length

def recordPermanentFlags (permanentFlags : Option String) : Scanning parseDate Unit :=
  commit wire fun stage => .ok (stage.recordPermanentFlags side mailbox permanentFlags)

def mailboxLen (uidvalidity : Nat) : Scanning parseDate Nat :=
  Effect.reading fun world => world.stage.countMailbox side mailbox uidvalidity

def completeMailbox (lastUid : Nat) : Scanning parseDate Unit := do
  let now ← ask fun time => .ok (wire.clock time)
  commit wire (DurableStage.completeMailbox side mailbox snapshot lastUid now)

def rollbackMailbox : Scanning parseDate Unit := do
  commit wire fun stage => .ok (stage.deleteMailbox side mailbox)
  resetMailboxCount mailbox
  Effect.modify fun world =>
    { world with
      activeMailbox := if world.activeMailbox = some mailbox then none else world.activeMailbox }

end StageMessageSink

/-! ## Pages -/

/-- The FETCH records of a page are those of its UIDs. -/
def validateFetchPageCoverage (messages : ExtractedMessages) (requestedUids : List Nat)
    (host mailbox : String) : Except String Unit := do
  let parsedUids ← messages.keys.mapM fun key =>
    if key.mailbox ≠ mailbox then
      .error (host ++ ": folder " ++ mailbox ++ ": FETCH returned a record for mailbox " ++
        key.mailbox)
    else match parseU64 key.uid.toList with
      | none =>
        .error (host ++ ": folder " ++ mailbox ++ ": FETCH returned invalid UID " ++ key.uid)
      | some uid => .ok uid
  if parsedUids.toFinset ≠ requestedUids.toFinset then
    .error (host ++ ": folder " ++ mailbox ++ ": FETCH coverage mismatch (requested " ++
      toString requestedUids.toFinset.card ++ ", parsed " ++ toString parsedUids.toFinset.card ++
      ")")

/-- The memory a record takes, about. -/
def estimatedMessageRecordBytes (key : MailboxMessageKey) (message : ExtractedMessage)
    (fingerprint : Option String) : Nat :=
  512 + key.mailbox.utf8ByteSize + key.uid.utf8ByteSize +
    (message.messageId.map (·.utf8ByteSize)).getD 0 +
    (message.internalDate.map (·.utf8ByteSize)).getD 0 +
    (fingerprint.map (·.utf8ByteSize)).getD 0

/-- What stays the same during the scan of one folder. -/
structure FolderScan where
  sha256 : Bytes → Bytes
  host : String
  side : StagedMessageSide
  mailbox : String
  maxBodyBytes : Option Nat

variable (scan : FolderScan)

def FolderScan.folder : StagedFolder := (scan.side, scan.mailbox)

/-- The body fingerprints of a page, which are of its messages. -/
def bodyFingerprints (rawResponse : Bytes) (uidvalidity : Nat) (messages : ExtractedMessages) :
    Scanning parseDate (AList fun _ : MailboxMessageKey => String) :=
  match scan.maxBodyBytes with
  | none => return ∅
  | some maxBodyBytes => do
      let page ← Effect.ofExcept (parseMessageFetchBodyHashesResponse scan.sha256 rawResponse
        scan.mailbox (some uidvalidity) maxBodyBytes)
      ask fun time => wire.reserveHashed time page.totalBytes
      Effect.ensure (page.fingerprints.keys.toFinset = messages.keys.toFinset)
        (scan.host ++ ": folder " ++ scan.mailbox ++ ": body FETCH coverage mismatch (metadata " ++
          toString messages.keys.length ++ ", body " ++
          toString page.fingerprints.keys.length ++ ")")
      return page.fingerprints

/-- The metadata in the answer to a page.  A server may send flags that nobody asked for. -/
def readPage (tag : Text) (snapshot : FolderSnapshot) (flags : Bool) (uidPage : List Nat)
    (rawResponse : Bytes) : Except String ExtractedMessages := do
  if imapCommandSucceeded rawResponse tag = false then
    .error (imapCommandFailure rawResponse tag "FETCH mailbox metadata" scan.host)
  let messages ← parseMessageFetchMetadataResponse scan.sha256 rawResponse scan.mailbox
    (some snapshot.uidvalidity)
  validateFetchPageCoverage messages uidPage scan.host scan.mailbox
  return if flags then messages else mapValues ({ · with flags := none }) messages

/-- Fetch one page of UIDs, and stage it. -/
def consumePage (snapshot : FolderSnapshot) (flags : Bool) (uidPage : List Nat) (uidSet : Text) :
    Scanning parseDate Nat := do
  ask wire.check
  let current ← Effect.reading fun world => .ok world.count
  Effect.ensure (StageMessageSink.messageFetchLimitExceeded current uidPage.length = false)
    ("[verification_limit=message_count] " ++ scan.host ++ ": account would exceed the " ++
      toString StageMessageSink.messageFetchLimit ++ "-message verification limit")
  let pageNumber ← Effect.reading fun world => .ok world.pageNumber
  Effect.modify fun world => { world with pageNumber := saturatingAdd world.pageNumber 1 }
  let tag := commandTag 'v' (pageNumber + 3)
  let rawResponse ← ask fun time =>
    wire.answer time (metadataCommand tag uidSet flags scan.maxBodyBytes.isSome)
  let messages ← Effect.ofExcept (readPage scan tag snapshot flags uidPage rawResponse)
  let fingerprints ← bodyFingerprints wire scan rawResponse snapshot.uidvalidity messages
  messages.entries.forM fun entry => ask fun time => wire.reserveState time
    (estimatedMessageRecordBytes entry.1 entry.2 (fingerprints.lookup entry.1))
  StageMessageSink.insertPageAndCheckpoint wire scan.side scan.mailbox snapshot
    (uidPage.getLast?.getD 0) messages fingerprints
  return rawResponse.length

/-- Fetch the UIDs of a window, in pages as large as the planner has them. -/
def consumeUids (snapshot : FolderSnapshot) (flags : Bool) (planner : FetchPagePlanner)
    (uids : List Nat) : Scanning parseDate FetchPagePlanner :=
  if _more : uids = [] then return planner
  else do
    let page := encodeUidPage uids planner.size
    let responseBytes ← consumePage wire scan snapshot flags (uids.take page.1) page.2
    consumeUids snapshot flags (planner.observe (uids.take page.1).length responseBytes)
      (uids.drop page.1)
termination_by uids.length
decreasing_by
  have progress := encodeUidPage_pos _more planner.size
  have nonempty := List.length_pos_iff.mpr _more
  rw [List.length_drop]
  omega

/-! ## Windows -/

def messageUidEnumerationPageSize : Nat := 512

/-- The UIDs in the answer to a window. -/
def readWindow (tag : Text) (sequenceStart sequenceEnd : Nat) (rawResponse : Bytes) :
    Except String (List Nat) := do
  let response := fromUtf8Lossy rawResponse
  if imapCommandSucceeded (textBytes response) tag = false then
    .error (imapCommandFailure (textBytes response) tag "FETCH mailbox sequence page" scan.host)
  parseUidFetchResponse scan.host scan.mailbox sequenceStart sequenceEnd response

/-- Enumerate the rest of a mailbox by windows of sequence numbers. -/
def enumerateFrom (snapshot : FolderSnapshot) (flags : Bool) (planner : FetchPagePlanner)
    (sequenceStart enumerated : Nat) (lastUid : Option Nat) (searchNumber : Nat) :
    Scanning parseDate Nat :=
  if sequenceStart ≤ snapshot.existsCount then do
    ask wire.check
    let sequenceEnd := min (sequenceStart + messageUidEnumerationPageSize - 1) snapshot.existsCount
    let tag := commandTag 's' (searchNumber + 2)
    let rawResponse ← ask fun time => wire.answer time (windowCommand tag sequenceStart sequenceEnd)
    let uids ← Effect.ofExcept (readWindow scan tag sequenceStart sequenceEnd rawResponse)
    Effect.ensure (∀ previous ∈ lastUid, ∀ first ∈ uids.head?, previous < first)
      (scan.host ++ ": FETCH " ++ scan.mailbox ++ " UID order changed across sequence pages")
    Effect.ensure (enumerated + uids.length < 2 ^ 64)
      (scan.host ++ ": enumerated UID count overflowed")
    let planner ← consumeUids wire scan snapshot flags planner uids
    enumerateFrom snapshot flags planner (sequenceEnd + 1) (enumerated + uids.length)
      (uids.getLast?.or lastUid) (searchNumber + 1)
  else return enumerated
termination_by snapshot.existsCount + 1 - sequenceStart
decreasing_by
  simp only [messageUidEnumerationPageSize]
  omega

/-- Enumerate a mailbox from its first message, or from the first that is not staged yet. -/
def enumerateUidPages (snapshot : FolderSnapshot) (flags : Bool)
    (resumePrefix : Option (Nat × Nat)) : Scanning parseDate Nat :=
  let planner : FetchPagePlanner := if scan.maxBodyBytes.isSome then .body else .metadata
  match resumePrefix with
  | none => enumerateFrom wire scan snapshot flags planner 1 0 none 0
  | some (count, lastUid) =>
    if 0 < count ∧ count ≤ snapshot.existsCount then
      enumerateFrom wire scan snapshot flags planner (count + 1) count (some lastUid) 0
    else fail (scan.host ++ ": " ++ scan.mailbox ++
      " has an invalid persisted verification prefix")

/-! ## Folders -/

inductive MailboxFetchError where
  | changed (message : String)
  | control (message : String)
  | sessionFatal (message : String)
  | folder (message : String)
deriving DecidableEq, Repr

def classifyMailboxFetchError (error : String) : MailboxFetchError :=
  let lower := error.toList.map Char.toLower
  let mentions (marker : String) : Bool := (findText marker.toList lower).isSome
  if mentions "cancelled" || mentions "execution deadline" || mentions "deadline exceeded" then
    .control error
  else if ["connection closed", "connection reset", "broken pipe", "timed out", "timeout", "tls",
      "could not read", "could not write"].any mentions then .sessionFatal error
  else .folder error

/-- The steps of a folder scan; errors are of a kind. -/
abbrev FetchingMailbox (parseDate : DateParser) (α : Type) : Type :=
  Effect (ScanWorld parseDate) MailboxFetchError α

/-- A step with the kind of its error. -/
def classified {α : Type} (step : Scanning parseDate α) : FetchingMailbox parseDate α :=
  Effect.mapError classifyMailboxFetchError step

/-- What a SELECT said. -/
structure Selection where
  response : Text
  existsCount : Nat
  uidvalidity : Option Nat
  uidnext : Option Nat
  modseq : Option ModseqSnapshot

/-- The state of a folder in the answer to SELECT. -/
def readSelection (tag : Text) (condstoreEnabled : Bool) (operation : String)
    (rawResponse : Bytes) : Except String Selection := do
  let response := fromUtf8Lossy rawResponse
  if imapCommandSucceeded (textBytes response) tag = false then
    .error (imapCommandFailure (textBytes response) tag operation scan.host)
  let selected ← parseSelectedMailbox response scan.host scan.mailbox
  let modseq ← if condstoreEnabled then
    (parseSelectModseq scan.host scan.mailbox response).map some else pure none
  return {
    response
    existsCount := selected.1
    uidvalidity := selected.2.1
    uidnext := selected.2.2
    modseq }

/-- Select the folder. -/
def selectFolder (tag : Text) (condstoreEnabled : Bool) (operation : String) :
    Scanning parseDate Selection := do
  let quotedMailbox ← Effect.ofExcept (imapQuote scan.mailbox)
  let rawResponse ← ask fun time =>
    wire.answer time (selectCommand tag quotedMailbox condstoreEnabled)
  Effect.ofExcept (readSelection scan tag condstoreEnabled operation rawResponse)

/-- The snapshot that the pages of a scan belong to. -/
def demandIdentity (selection : Selection) : Except String FolderSnapshot :=
  match selection.uidvalidity, selection.uidnext with
  | none, _ => .error (scan.host ++ ": SELECT " ++ scan.mailbox ++
      " did not return UIDVALIDITY; mutation detection is unavailable")
  | some _, none => .error (scan.host ++ ": SELECT " ++ scan.mailbox ++
      " did not return UIDNEXT; bounded UID enumeration is unavailable")
  | some uidvalidity, some uidnext => .ok {
      uidvalidity
      uidnext
      existsCount := selection.existsCount
      highestModseq := selection.modseq.bind ModseqSnapshot.watermark }

/-- `{:?}` of an optional value. -/
def debugOption {α : Type} (write : α → String) : Option α → String
  | none => "None"
  | some value => "Some(" ++ write value ++ ")"

def ModseqSnapshot.debug : ModseqSnapshot → String
  | tracked modseq => "Tracked(" ++ toString modseq ++ ")"
  | unsupported => "Unsupported"

/-- The message about a folder that is not the one the scan began with. -/
def changedMessage (snapshot : FolderSnapshot) (start finish : Selection) : String :=
  scan.host ++ ": mailbox " ++ scan.mailbox ++ " changed during verification (UIDVALIDITY " ++
    toString snapshot.uidvalidity ++ "->" ++ debugOption toString finish.uidvalidity ++
    ", UIDNEXT " ++ toString snapshot.uidnext ++ "->" ++ debugOption toString finish.uidnext ++
    ", message count " ++ toString snapshot.existsCount ++ "->" ++ toString finish.existsCount ++
    ", HIGHESTMODSEQ " ++ debugOption ModseqSnapshot.debug start.modseq ++ "->" ++
    debugOption ModseqSnapshot.debug finish.modseq ++ "); retry required"

/-- Whether the end of a scan saw the folder that its begin saw. -/
def Unchanged (snapshot : FolderSnapshot) (start finish : Selection) : Prop :=
  finish.uidvalidity = some snapshot.uidvalidity ∧ finish.uidnext = some snapshot.uidnext ∧
    finish.existsCount = snapshot.existsCount ∧
      (start.modseq.isSome → finish.modseq = start.modseq)

instance (snapshot : FolderSnapshot) (start finish : Selection) :
    Decidable (Unchanged snapshot start finish) :=
  inferInstanceAs (Decidable (_ ∧ _ ∧ _ ∧ _))

/-- What the rows of a folder begin with: those of a completed scan, those of an unfinished one,
or nothing. -/
def admitRows (snapshot : FolderSnapshot) : Scanning parseDate (Bool × Option (Nat × Nat)) := do
  let reused ← if scan.maxBodyBytes.isNone then
      StageMessageSink.reuseCompletedMailbox scan.side scan.mailbox snapshot
    else pure false
  let resumed ← if !reused && scan.maxBodyBytes.isNone then
      StageMessageSink.resumeMailboxPrefix scan.side scan.mailbox snapshot
    else pure none
  if !reused && resumed.isNone then
    StageMessageSink.beginMailboxScan wire scan.side scan.mailbox snapshot
  return (reused, resumed)

/-- Fetch the rows that a folder does not have.  Whether it had all is returned. -/
def fetchRows (snapshot : FolderSnapshot) (start : Selection) : Scanning parseDate Bool := do
  let (reused, resumed) ← admitRows wire scan snapshot
  StageMessageSink.recordPermanentFlags wire scan.side scan.mailbox
    (parsePermanentFlags start.response)
  let enumerated ← if reused then pure snapshot.existsCount
    else enumerateUidPages wire scan snapshot (start.modseq.any (·.isTracked)) resumed
  Effect.ensure (enumerated = snapshot.existsCount)
    (scan.host ++ ": folder " ++ scan.mailbox ++ ": UID enumeration coverage mismatch (EXISTS " ++
      toString snapshot.existsCount ++ ", validated UIDs " ++ toString enumerated ++ ")")
  return reused

/-- Scan a folder with a snapshot, and see whether it still has it afterwards. -/
def fetchSelectedMailbox (condstoreEnabled : Bool) (start : Selection)
    (snapshot : FolderSnapshot) : FetchingMailbox parseDate Nat := do
  classified (Effect.modify fun world => { world with pageNumber := 0 })
  let reused ← classified (fetchRows wire scan snapshot start)
  let staged ← classified
    (StageMessageSink.mailboxLen scan.side scan.mailbox snapshot.uidvalidity)
  Effect.ensure (staged = snapshot.existsCount)
    (.changed (scan.host ++ ": folder " ++ scan.mailbox ++ ": staged rows (" ++ toString staged ++
      ") differ from EXISTS " ++ toString snapshot.existsCount ++ "; rescan required"))
  let pageNumber ← classified (Effect.reading fun world => .ok world.pageNumber)
  let finish ← classified (selectFolder wire scan (commandTag 'v' (pageNumber + 3))
    condstoreEnabled "re-select mailbox for mutation check")
  Effect.ensure (Unchanged snapshot start finish)
    (.changed (changedMessage scan snapshot start finish))
  if !reused then
    classified (StageMessageSink.completeMailbox wire scan.side scan.mailbox snapshot
      (snapshot.uidnext - 1))
  return snapshot.existsCount

def fetchMailboxWithExistingStream : FetchingMailbox parseDate Nat := do
  classified (ask wire.check)
  classified (Effect.ensure (trim scan.mailbox ≠ "")
    "message-level verification requires a non-empty mailbox")
  let condstoreEnabled ← classified (Effect.reading fun world => .ok world.condstoreEnabled)
  let start ← classified (selectFolder wire scan "v001".toList condstoreEnabled
    "SELECT mailbox for message verification")
  let snapshot ← classified (Effect.ofExcept (demandIdentity scan start))
  fetchSelectedMailbox wire scan condstoreEnabled start snapshot

/-! ## Retries -/

def maxMailboxStabilityAttempts : Nat := 2

/-- Scan a folder again when it changed meanwhile; what a failed scan staged is taken back. -/
def fetchWithAttempts (attempts : Nat) (lastError : Option String) :
    FetchingMailbox parseDate Nat :=
  match attempts with
  | 0 => Effect.ofExcept (.error (.changed (lastError.getD
      (scan.host ++ ": mailbox " ++ scan.mailbox ++ " stability check failed"))))
  | attempts + 1 => fun world =>
    match fetchMailboxWithExistingStream wire scan world with
    | (.ok count, later) => (.ok count, later)
    | (.error error, later) =>
      match StageMessageSink.rollbackMailbox wire scan.side scan.mailbox later with
      | (.error rollback, last) => (.error (.folder rollback), last)
      | (.ok (), last) =>
        match error with
        | .changed message => fetchWithAttempts attempts (some message) last
        | error => (.error error, last)

def fetchMailboxWithStabilityRetry : FetchingMailbox parseDate Nat :=
  fetchWithAttempts wire scan maxMailboxStabilityAttempts none

def maxConsecutiveSessionReconnects : Nat := 3

/-- Open a new session for the account. -/
def reconnectSession (error : String) : FetchingMailbox parseDate Unit := fun world =>
  let world := { world with consecutiveReconnects := world.consecutiveReconnects + 1 }
  match wire.reconnect world.time with
  | .ok condstoreEnabled =>
    (.ok (), { world with time := world.time + 1, condstoreEnabled })
  | .error reconnectError =>
    (.error (.sessionFatal (error ++ "; reconnect attempt " ++
      toString world.consecutiveReconnects ++ " failed: " ++ reconnectError)),
      { world with time := world.time + 1 })

/-- Scan a folder, with a new session when the old one is lost; `fuel` bounds the sessions. -/
def fetchWithSessions (fuel : Nat) : FetchingMailbox parseDate Nat :=
  match fuel with
  | 0 => fetchMailboxWithStabilityRetry wire scan
  | fuel + 1 => fun world =>
    match fetchMailboxWithStabilityRetry wire scan world with
    | (.error (.sessionFatal error), later) =>
      if later.consecutiveReconnects < maxConsecutiveSessionReconnects then
        match reconnectSession wire error later with
        | (.ok (), last) => fetchWithSessions fuel last
        | (.error error, last) => (.error error, last)
      else (.error (.sessionFatal error), later)
    | result => result

def fetchMailboxWithSessionReconnect : FetchingMailbox parseDate Nat :=
  fetchWithSessions wire scan (maxConsecutiveSessionReconnects + 1)

end Scan

end MailSwiftSync.Scan
