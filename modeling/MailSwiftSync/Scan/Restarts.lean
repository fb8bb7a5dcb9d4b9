import MailSwiftSync.Scan.Mailboxes

/-!
# Restarts

A durable stage outlives attempts: each attempt binds it to its plan, keeps the folders that there
still are, and scans them; it may end at any time, and what is then left is what its file had at
some commit.  Whatever has happened, a stage is sound, and what a later attempt uses again is what
the mailbox has.
-/

namespace MailSwiftSync.Scan

open Foundation Imap DurableStage

variable {parseDate : DateParser} {testimony : Testimony} {now : Nat}
  {stage next : DurableStage parseDate}

/-- A new attempt starts with the stage in its file, and counts from zero or goes on counting. -/
def StartsFrom (world : ScanWorld parseDate) (now : Nat) (stage : DurableStage parseDate) : Prop :=
  world.time = now ∧ world.stage = stage ∧ world.commits = []

/-- The states of the file of a stage, while the folders of some servers are scanned.  A scan may be
cut off after any commit. -/
inductive Reachable (serves : Wire → FolderScan → Prop) : Nat → DurableStage parseDate → Prop where
  | created (now : Nat) : Reachable serves now DurableStage.empty
  | waited {now later : Nat} {stage : DurableStage parseDate}
      (reachable : Reachable serves now stage) (passes : now ≤ later) : Reachable serves later stage
  | bound {now : Nat} {stage next : DurableStage parseDate} {identity : String}
      (reachable : Reachable serves now stage) (binds : stage.bindIdentity identity = .ok next) :
      Reachable serves now next
  | attempted {now : Nat} {stage : DurableStage parseDate}
      (reachable : Reachable serves now stage) :
      Reachable serves now stage.beginVerificationAttempt
  | retained {now : Nat} {stage : DurableStage parseDate} (side : StagedMessageSide)
      (currentMailboxes : List String) (reachable : Reachable serves now stage) :
      Reachable serves now (stage.retainMailboxes side currentMailboxes)
  | mapped {now : Nat} {stage : DurableStage parseDate} (folderMapping : FolderMapping)
      (reachable : Reachable serves now stage) :
      Reachable serves now (stage.mapFolders folderMapping)
  | revalidated {now : Nat} {stage next : DurableStage parseDate} {side : StagedMessageSide}
      {available : Nat} {observations : List (String × String)}
      (reachable : Reachable serves now stage)
      (records : stage.recordRevalidation side available observations = .ok next) :
      Reachable serves now next
  | cut {now : Nat} {stage : DurableStage parseDate} {wire : Wire} {scan : FolderScan}
      {world : ScanWorld parseDate} {commit : Nat × DurableStage parseDate}
      (reachable : Reachable serves now stage) (served : serves wire scan)
      (starts : StartsFrom world now stage)
      (isCommit : commit ∈ (fetchMailboxWithSessionReconnect wire scan world).2.commits) :
      Reachable serves commit.1 commit.2
  | scanned {now : Nat} {stage : DurableStage parseDate} {wire : Wire} {scan : FolderScan}
      {world : ScanWorld parseDate}
      (reachable : Reachable serves now stage) (served : serves wire scan)
      (starts : StartsFrom world now stage) :
      Reachable serves (fetchMailboxWithSessionReconnect wire scan world).2.time
        (fetchMailboxWithSessionReconnect wire scan world).2.stage

/-! ## Between scans -/

theorem alike_beginVerificationAttempt (stage : DurableStage parseDate) (folder : StagedFolder) :
    Alike stage stage.beginVerificationAttempt folder where
  rows := rfl
  cursor := by
    have found : stage.beginVerificationAttempt.cursors.lookup folder =
        (stage.cursors.lookup folder).map _ := lookup_mapValues _ _ folder
    rw [found, Option.map_map]
    rfl

theorem mapFolder_asFetched (folderMapping : FolderMapping) (row : StagedRow parseDate) :
    asFetched (row.mapFolder folderMapping) = asFetched row := by
  unfold StagedRow.mapFolder
  split
  · rfl
  · rfl

theorem mapFolder_mailbox (folderMapping : FolderMapping) (row : StagedRow parseDate) :
    (row.mapFolder folderMapping).mailbox = row.mailbox := by
  unfold StagedRow.mapFolder
  split
  · rfl
  · rfl

theorem mapFolder_side (folderMapping : FolderMapping) (row : StagedRow parseDate) :
    (row.mapFolder folderMapping).side = row.side := by
  unfold StagedRow.mapFolder
  split
  · rfl
  · rfl

theorem alike_mapFolders (stage : DurableStage parseDate) (folderMapping : FolderMapping)
    (folder : StagedFolder) : Alike stage (stage.mapFolders folderMapping) folder where
  rows := by
    change ((stage.tables.rows.map (StagedRow.mapFolder folderMapping)).filter _).map asFetched = _
    rw [List.filter_map, List.map_map, contents, rowsIn]
    have sameFolder : (fun row : StagedRow parseDate =>
        decide (row.side = folder.1) && decide (row.mailbox = folder.2)) ∘
          StagedRow.mapFolder folderMapping = fun row =>
        decide (row.side = folder.1) && decide (row.mailbox = folder.2) := by
      funext row
      rw [Function.comp_apply, mapFolder_side, mapFolder_mailbox]
    have sameRow : asFetched ∘ StagedRow.mapFolder folderMapping =
        (asFetched : StagedRow parseDate → StagedRow parseDate) :=
      funext (mapFolder_asFetched folderMapping)
    rw [sameFolder, sameRow]
  cursor := rfl

/-- The times of a cursor say nothing of the rows. -/
theorem alike_revalidateFolder {side : StagedMessageSide} {observation : String × String}
    (updates : revalidateFolder side stage observation = .ok next) (folder : StagedFolder) :
    Alike stage next folder := by
  rw [revalidateFolder] at updates
  split at updates
  · cases updates
  · next cursor found =>
      have isCursor := (Option.filter_eq_some_iff.mp found).1
      cases updates
      refine ⟨rfl, ?_⟩
      dsimp only
      by_cases same : folder = (side, observation.1)
      · rw [same, AList.lookup_insert, isCursor]
        cases side with
        | source => rfl
        | destination => rfl
      · rw [AList.lookup_insert_ne same]

theorem alike_recordRevalidation {side : StagedMessageSide} {available : Nat}
    {observations : List (String × String)}
    (records : stage.recordRevalidation side available observations = .ok next)
    (folder : StagedFolder) : Alike stage next folder := by
  obtain ⟨_, -, records⟩ := bind_eq_ok.mp records
  dsimp only at records
  split at records
  · cases records
  · exact foldlM_invariant (motive := fun _ later => Alike stage later folder)
      ⟨rfl, rfl⟩
      (fun _ _ _ _ earlier updates => earlier.trans (alike_revalidateFolder updates folder)) records

theorem SoundStage.bindIdentity {identity : String} (sound : SoundStage testimony now stage)
    (binds : stage.bindIdentity identity = .ok next) : SoundStage testimony now next := by
  rw [DurableStage.bindIdentity] at binds
  split at binds
  · cases binds
  · split at binds
    · cases binds
      exact sound
    · cases binds
      exact fun _ => .inl ⟨rfl, rfl⟩

/-! ## Every reachable stage -/

/-- A scan from a sound stage keeps it so, in all of its commits. -/
theorem soundWorld_of_scan {wire : Wire} {scan : FolderScan} {world : ScanWorld parseDate}
    (answers : Answers wire scan testimony) (sound : SoundStage testimony now stage)
    (starts : StartsFrom world now stage) :
    SoundWorld testimony now (fetchMailboxWithSessionReconnect wire scan world).2 ∧
      ∀ count, (fetchMailboxWithSessionReconnect wire scan world).1 = .ok count →
        Scanned testimony scan.folder now count
          (fetchMailboxWithSessionReconnect wire scan world).2 := by
  obtain ⟨rfl, rfl, noCommits⟩ := starts
  have initially : SoundWorld testimony world.time world :=
    ⟨le_rfl, sound, by rw [noCommits]; exact nofun⟩
  have ends := meets_fetchMailboxWithSessionReconnect answers world initially
  cases ran : fetchMailboxWithSessionReconnect wire scan world with
  | mk result later =>
    rw [ran] at ends
    cases result with
    | ok count =>
      obtain ⟨_, _, _, _, _, _, _, _, _, _, _, holding⟩ := id ends
      refine ⟨holding.1, fun other isCount => ?_⟩
      cases isCount
      exact ends
    | error error => exact ⟨ends, nofun⟩

/-- Whatever has happened, a stage is sound. -/
theorem Reachable.sound {serves : Wire → FolderScan → Prop}
    (answers : ∀ wire scan, serves wire scan → Answers wire scan testimony)
    (reachable : Reachable serves now stage) : SoundStage testimony now stage := by
  induction reachable with
  | created now => exact soundStage_empty testimony now
  | waited _ passes ih => exact ih.mono passes
  | bound _ binds ih => exact ih.bindIdentity binds
  | attempted _ ih => exact soundStage_of_alike ih (alike_beginVerificationAttempt _)
  | retained side currentMailboxes _ ih => exact ih.deleteFolders side _
  | mapped folderMapping _ ih => exact soundStage_of_alike ih (alike_mapFolders _ folderMapping)
  | revalidated _ records ih => exact soundStage_of_alike ih (alike_recordRevalidation records)
  | cut _ served starts isCommit ih =>
    exact ((soundWorld_of_scan (answers _ _ served) ih starts).1.commits _ isCommit).2
  | scanned _ served starts ih =>
    exact (soundWorld_of_scan (answers _ _ served) ih starts).1.stage

/-- What the rows of a folder and its cursor say of each other. -/
structure Consistent (stage : DurableStage parseDate) (folder : StagedFolder)
    (cursor : FolderCursor) (uids : List Nat) : Prop where
  increasing : uids.Pairwise (· < ·)
  valid : ∀ uid ∈ uids, 1 ≤ uid ∧ uid < 2 ^ 32
  rows : ((stage.folderRows folder).map fun row => (row.uidvalidity, row.uid)).Perm
    (uids.map fun uid => (Int.ofNat cursor.snapshot.uidvalidity, toString uid))
  fits : uids.length ≤ cursor.snapshot.existsCount
  completed : cursor.completed = true → uids.length = cursor.snapshot.existsCount
  position : cursor.completed = false → cursor.lastUid = uids.getLast?.getD 0

/-- A folder whose log is known is consistent. -/
theorem StagedAs.consistent {folder : StagedFolder} {snapshot : FolderSnapshot} {log : Log}
    {completed : Bool} {cursor : FolderCursor}
    (staged : StagedAs testimony now stage folder snapshot log completed)
    (isCursor : stage.cursors.lookup folder = some cursor) :
    Consistent stage folder cursor (log.map Prod.fst) := by
  obtain ⟨found, isFound, isSnapshot, isCompleted, isLast⟩ := staged.cursor
  obtain rfl : cursor = found := Option.some.inj (isCursor.symm.trans isFound)
  obtain rfl := isSnapshot
  obtain rfl := isCompleted
  constructor
  · exact staged.backs.increasing
  · intro uid isUid
    obtain ⟨entry, isEntry, rfl⟩ := List.mem_map.mp isUid
    exact staged.backs.valid entry isEntry
  · have rows := staged.rows.map fun row => (row.uidvalidity, row.uid)
    rw [contents, List.map_map, List.map_map] at rows
    rw [List.map_map]
    exact rows
  · rw [List.length_map]
    exact staged.backs.fits
  · rw [List.length_map]
    exact staged.all
  · rw [List.getLast?_map]
    exact isLast

/-- Whatever servers answer and wherever attempts end, the rows of a folder are those that its
cursor accounts for. -/
theorem Reachable.folder_consistent {serves : Wire → FolderScan → Prop}
    (reachable : Reachable serves now stage) (folder : StagedFolder) :
    match stage.cursors.lookup folder with
    | none => stage.folderRows folder = []
    | some cursor => ∃ uids, Consistent stage folder cursor uids := by
  have anything : ∀ wire scan, serves wire scan →
      Answers wire scan ⟨fun _ _ _ => True, fun _ _ _ _ => True, fun _ _ _ _ _ => True⟩ :=
    fun _ _ _ => ⟨fun _ _ _ _ => trivial, fun _ _ _ => trivial, fun _ _ _ => trivial⟩
  cases reachable.sound anything folder with
  | inl nothing =>
    rw [nothing.1]
    exact List.map_eq_nil_iff.mp nothing.2
  | inr something =>
    obtain ⟨snapshot, log, completed, staged⟩ := something
    obtain ⟨cursor, isCursor, -⟩ := staged.cursor
    rw [isCursor]
    exact ⟨_, staged.consistent isCursor⟩

/-! ## True stages -/

section True

variable {servers : Servers} {wire : Wire} {scan : FolderScan} {folder : StagedFolder}
  {snapshot : FolderSnapshot}

/-- The server of a scan says what is true of its mailboxes. -/
def Servers.Serve (servers : Servers) (wire : Wire) (scan : FolderScan) : Prop :=
  Answers wire scan servers.testimony

/-- The staged rows of a folder are those of the first messages of a mailbox. -/
def StagesFirst (stage : DurableStage parseDate) (folder : StagedFolder) (state : MailboxState)
    (flags : Bool) (count : Nat) : Prop :=
  (contents stage.tables folder).Perm
    ((state.firstMessages flags count).map (entryRow parseDate folder state.uidvalidity))

theorem StagedAs.stagesFirst {log : Log} {completed : Bool} {finish : Nat}
    (evolve : servers.Evolve) (last : HasSnapshot (servers folder finish) snapshot)
    (backs : servers.testimony.Backs finish folder snapshot log)
    (staged : StagedAs servers.testimony now stage folder snapshot log completed) :
    StagesFirst stage folder (servers folder finish) snapshot.highestModseq.isSome log.length := by
  rw [StagesFirst, ← backs_true evolve last backs, last.validity]
  exact staged.rows

/-- A scan that succeeds has staged the mailbox as it was at its end, whatever attempts before it
have left in the stage. -/
theorem scan_stages_mailbox {world later : ScanWorld parseDate} {count : Nat}
    (evolve : servers.Evolve) (reachable : Reachable servers.Serve now stage)
    (serve : servers.Serve wire scan) (starts : StartsFrom world now stage)
    (ran : fetchMailboxWithSessionReconnect wire scan world = (.ok count, later)) :
    ∃ finish cursor, now ≤ finish ∧ finish < later.time ∧
      later.stage.cursors.lookup scan.folder = some cursor ∧ cursor.completed = true ∧
      HasSnapshot (servers scan.folder finish) cursor.snapshot ∧
      count = (servers scan.folder finish).messages.length ∧
      StagesFirst later.stage scan.folder (servers scan.folder finish)
        cursor.snapshot.highestModseq.isSome count := by
  have sound := reachable.sound fun _ _ serve => serve
  obtain ⟨-, scanned⟩ := soundWorld_of_scan serve sound starts
  rw [ran] at scanned
  obtain ⟨snapshot, start, finish, log, isCount, begun, inOrder, before, first, last, backs,
    holding⟩ := scanned count rfl
  obtain ⟨cursor, isCursor, rfl, isCompleted, -⟩ := holding.2.cursor
  have all := holding.2.all rfl
  refine ⟨finish, cursor, begun.trans inOrder, before, isCursor, isCompleted, last, ?_, ?_⟩
  · rw [isCount]
    exact last.length.symm
  · rw [isCount, ← all]
    exact holding.2.stagesFirst evolve last backs

/-- A folder that a later attempt uses again without fetching anything is the whole mailbox, flags
included. -/
theorem reused_is_mailbox {side : StagedMessageSide} {mailbox : String} {later count : Nat}
    (evolve : servers.Evolve) (reachable : Reachable servers.Serve now stage)
    (passes : now ≤ later) (selected : HasSnapshot (servers (side, mailbox) later) snapshot)
    (reusable : stage.reusableCompletedMailbox side mailbox snapshot = .ok (some count)) :
    count = (servers (side, mailbox) later).messages.length ∧
      StagesFirst stage (side, mailbox) (servers (side, mailbox) later) true count := by
  have sound := (reachable.sound fun _ _ serve => serve).mono passes
  obtain ⟨log, staged, rfl⟩ := staged_of_reusable sound reusable
  have tracked := tracked_of_reusable reusable
  have isFirst := staged.stagesFirst evolve selected staged.backs
  rw [tracked] at isFirst
  exact ⟨(staged.all rfl).trans selected.length.symm, isFirst⟩

/-- The committed pages that a later attempt goes on from are the first messages of the mailbox,
flags included, up to the UID it goes on after. -/
theorem resumed_is_prefix {side : StagedMessageSide} {mailbox : String}
    {later count lastUid : Nat} (evolve : servers.Evolve)
    (reachable : Reachable servers.Serve now stage) (passes : now ≤ later)
    (selected : HasSnapshot (servers (side, mailbox) later) snapshot)
    (resumable : stage.resumableMailboxPrefix side mailbox snapshot =
      .ok (some (count, lastUid))) :
    StagesFirst stage (side, mailbox) (servers (side, mailbox) later) true count ∧
      (∃ message, (servers (side, mailbox) later).messages[count - 1]? =
        some (lastUid, message)) := by
  have sound := (reachable.sound fun _ _ serve => serve).mono passes
  obtain ⟨log, staged, rfl, rfl, isPositive⟩ := staged_of_resumable sound resumable
  have tracked := tracked_of_resumable resumable
  have isFirst := staged.stagesFirst evolve selected staged.backs
  rw [tracked] at isFirst
  refine ⟨isFirst, ?_⟩
  have isEntry := List.getElem?_eq_getElem (Nat.sub_lt isPositive Nat.one_pos)
  obtain ⟨message, isMessage, -⟩ := told_true evolve selected (staged.backs.told _ _ isEntry)
  rw [Log.lastUid, List.getLast?_eq_getElem?, isEntry]
  exact ⟨message, isMessage⟩

end True

/-! ## One mailbox -/

namespace OneMailbox

def bytes (text : String) : Bytes := text.toUTF8.data.toList

/-- The mailbox before and after its first message is flagged. -/
def selection (flagged : Bool) : Bytes :=
  bytes ("* 2 EXISTS\r\n* OK [UIDVALIDITY 3]\r\n* OK [UIDNEXT 9]\r\n* OK [HIGHESTMODSEQ " ++
    (if flagged then "6]\r\n" else "5]\r\n"))

def window : Bytes := bytes "* 1 FETCH (UID 7)\r\n* 2 FETCH (UID 8)\r\ns002 OK done\r\n"

def page (flagged : Bool) : Bytes :=
  bytes ("* 1 FETCH (UID 7 FLAGS " ++ (if flagged then "(\\Flagged \\Seen)" else "(\\Seen)") ++
    " RFC822.SIZE 100 INTERNALDATE \"01-Jan-2024 00:00:00 +0000\")\r\n* 2 FETCH (UID 8 " ++
    "FLAGS () RFC822.SIZE 200 INTERNALDATE \"02-Jan-2024 00:00:00 +0000\")\r\nv003 OK done\r\n")

def first (flagged : Bool) : ExtractedMessage where
  sizeBytes := some 100
  internalDate := some "01-Jan-2024 00:00:00 +0000"
  flags := some (if flagged then "\\Flagged \\Seen" else "\\Seen")

def second : ExtractedMessage where
  sizeBytes := some 200
  internalDate := some "02-Jan-2024 00:00:00 +0000"
  flags := some ""

def scan : FolderScan where
  sha256 := fun _ => []
  host := "mail"
  side := .source
  mailbox := "INBOX"
  maxBodyBytes := none

/-- What the server answers to the commands of one scan. -/
def replies (flagged : Bool) : List (Text × Bytes) :=
  [(selectCommand "v001".toList "\"INBOX\"".toList true,
      selection flagged ++ bytes "v001 OK done\r\n"),
    (selectCommand "v004".toList "\"INBOX\"".toList true,
      selection flagged ++ bytes "v004 OK done\r\n"),
    (windowCommand "s002".toList 1 2, window),
    (metadataCommand "v003".toList "7:8".toList true false, page flagged)]

def answer (flagged : Bool) (command : Text) : Except String Bytes :=
  match (replies flagged).find? (·.1 = command) with
  | some reply => .ok reply.2
  | none => .error "connection closed"

/-- In the middle of the first scan the message is flagged. -/
def isFlagged (time : Nat) : Bool := 8 ≤ time

def wire : Wire where
  answer := fun time => answer (isFlagged time)
  check := fun _ => .ok ()
  availableSpace := fun _ => .ok (2 ^ 40)
  reserveState := fun _ _ => .ok ()
  reserveHashed := fun _ _ => .ok ()
  write := fun _ => .ok ()
  reconnect := fun _ => .error "connection refused"
  clock := fun _ => "2024-01-01T00:00:00Z"

def world : ScanWorld fun _ => none where
  time := 0
  stage := .empty
  commits := []
  condstoreEnabled := true

def inbox (flagged : Bool) : MailboxState where
  uidvalidity := 3
  uidnext := 9
  highestModseq := if flagged then 6 else 5
  messages := [(7, first flagged), (8, second)]
  increasing := by simp

/-- Every folder has the same messages. -/
def servers : Servers := fun _ time => inbox (isFlagged time)

theorem evolve : servers.Evolve := by
  intro folder time
  rw [servers, servers]
  cases before : isFlagged time with
  | true =>
    have after : isFlagged (time + 1) = true :=
      decide_eq_true ((of_decide_eq_true before).trans time.le_succ)
    rw [after]
  | false =>
    cases isFlagged (time + 1) with
    | true => exact .single (.store 7 (first true).flags rfl rfl (by decide) rfl)
    | false => exact .refl

variable {flagged : Bool} {rawResponse : Bytes}

theorem answer_ok {command : Text} (isAnswer : answer flagged command = .ok rawResponse) :
    (command, rawResponse) ∈ replies flagged := by
  rw [answer] at isAnswer
  split at isAnswer
  · next reply found =>
      cases isAnswer
      have same := List.find?_some found
      obtain rfl := of_decide_eq_true same
      exact List.mem_of_find?_eq_some found
  · cases isAnswer

/-- Only answers to SELECT have a folder in them, and it is the inbox. -/
theorem selected_ok {command : Text} {selected : Nat × Option Nat × Option Nat}
    (isAnswer : answer flagged command = .ok rawResponse)
    (isParsed : parseSelectedMailbox (fromUtf8Lossy rawResponse) scan.host scan.mailbox =
      .ok selected) :
    selected = (2, some 3, some 9) ∧ ∀ modseq,
      parseSelectModseq scan.host scan.mailbox (fromUtf8Lossy rawResponse) = .ok modseq →
        modseq = .tracked (inbox flagged).highestModseq := by
  have each : ∀ reply ∈ replies flagged,
      (parseSelectedMailbox (fromUtf8Lossy reply.2) scan.host scan.mailbox).toOption.all
        (· = (2, some 3, some 9)) ∧
      (parseSelectModseq scan.host scan.mailbox (fromUtf8Lossy reply.2)).toOption.all
        (· = .tracked (inbox flagged).highestModseq) := by
    cases flagged <;> decide +kernel
  obtain ⟨first, second⟩ := each _ (answer_ok isAnswer)
  rw [isParsed] at first
  refine ⟨of_decide_eq_true first, fun modseq isModseq => ?_⟩
  rw [isModseq] at second
  exact of_decide_eq_true second

theorem seen_ok {tag quoted : Text} {condstoreEnabled : Bool} {operation : String}
    {selection : Selection} {snapshot : FolderSnapshot}
    (isAnswer : answer flagged (selectCommand tag quoted condstoreEnabled) = .ok rawResponse)
    (isRead : readSelection scan tag condstoreEnabled operation rawResponse = .ok selection)
    (identity : demandIdentity scan selection = .ok snapshot) :
    HasSnapshot (inbox flagged) snapshot := by
  rw [readSelection] at isRead
  dsimp only at isRead
  split at isRead
  · cases isRead
  · obtain ⟨selected, isSelected, isRead⟩ := bind_eq_ok.mp isRead
    obtain ⟨rfl, isModseq⟩ := selected_ok isAnswer isSelected
    obtain ⟨sameValidity, sameNext, sameCount, sameModseq⟩ := demandIdentity_eq_ok.mp identity
    cases condstoreEnabled with
    | false =>
      cases isRead
      refine ⟨Option.some.inj sameValidity, Option.some.inj sameNext, sameCount, ?_⟩
      intro modseq isSome
      rw [← sameModseq] at isSome
      cases isSome
    | true =>
      obtain ⟨modseq, isMapped, isRead⟩ := bind_eq_ok.mp isRead
      cases isRead
      refine ⟨Option.some.inj sameValidity, Option.some.inj sameNext, sameCount, ?_⟩
      cases isParsed : parseSelectModseq scan.host scan.mailbox (fromUtf8Lossy rawResponse) with
      | error message =>
        rw [isParsed] at isMapped
        cases isMapped
      | ok parsed =>
        rw [isParsed] at isMapped
        cases isMapped
        rw [isModseq parsed isParsed] at sameModseq
        intro modseq isSome
        exact Option.some.inj (sameModseq.trans isSome)

/-- A window is that of both messages. -/
theorem placed_ok {tag : Text} {sequenceStart sequenceEnd index uid : Nat} {uids : List Nat}
    (isAnswer : answer flagged (windowCommand tag sequenceStart sequenceEnd) = .ok rawResponse)
    (isRead : readWindow scan tag sequenceStart sequenceEnd rawResponse = .ok uids)
    (isUid : uids[index]? = some uid) : sequenceStart = 1 ∧ [7, 8][index]? = some uid := by
  rw [readWindow] at isRead
  dsimp only at isRead
  split at isRead
  · cases isRead
  · have each : ∀ reply ∈ replies flagged,
        (((lines (fromUtf8Lossy reply.2)).filterMap sequenceRecord).map fun record =>
          parseU64 record.1) ∈ [[], [some 1, some 2]] ∧
        (parseUidFetchResponse scan.host scan.mailbox 1 2
          (fromUtf8Lossy reply.2)).toOption.all (· = [7, 8]) := by
      cases flagged <;> decide +kernel
    obtain ⟨isBoth, areUids⟩ := each _ (answer_ok isAnswer)
    dsimp only at isBoth areUids
    obtain ⟨state, account, isPositive, isRange, isFull, -, -⟩ :=
      parseUidFetchResponse_accepts isRead
    have sameLength := account.reads.length_eq
    rcases List.mem_cons.mp isBoth with none | both
    · rw [List.map_eq_nil_iff.mp none, List.length_nil] at sameLength
      omega
    · have both := List.mem_singleton.mp both
      have isTwo := congrArg List.length both
      rw [List.length_map, List.length_cons, List.length_singleton] at isTwo
      obtain ⟨record, isRecord, isFirst⟩ := List.mem_map.mp (both ▸ List.mem_cons_self)
      obtain ⟨pair, _, reads⟩ := exists_of_forall₂ account.reads record isRecord
      have isOne : pair.1 = 1 := Option.some.inj (reads.sequence.symm.trans isFirst)
      have inWindow := reads.inWindow
      obtain rfl : sequenceStart = 1 := by omega
      obtain rfl : sequenceEnd = 2 := by omega
      rw [isRead] at areUids
      obtain rfl := of_decide_eq_true areUids
      exact ⟨rfl, isUid⟩

/-- A command for a page ends like no other. -/
theorem metadataCommand_suffix (tag uidSet : Text) (flags body : Bool) :
    ((metadataCommand tag uidSet flags body).reverse.take 4) = ['\n', '\r', ')', ']'] := by
  rw [metadataCommand]
  cases body with
  | false => rw [List.reverse_append, if_neg Bool.false_ne_true, List.append_nil,
      List.reverse_append]; rfl
  | true => rw [List.reverse_append, if_pos rfl, List.reverse_append]; rfl

theorem answer_page {tag uidSet : Text} {flags body : Bool}
    (isAnswer : answer flagged (metadataCommand tag uidSet flags body) = .ok rawResponse) :
    rawResponse = page flagged := by
  have others : ∀ reply ∈ replies flagged, reply.1.reverse.take 4 = ['\n', '\r', ')', ']'] →
      reply.2 = page flagged := by
    cases flagged <;> decide +kernel
  exact others _ (answer_ok isAnswer) (metadataCommand_suffix tag uidSet flags body)

/-- What is read of the records of a page. -/
theorem fetchRecords_page (flagged : Bool) :
    (fetchRecords (page flagged)).map (fun read => read.map fun record =>
      (fetchNumber record.protocolText "UID", messageOf scan.sha256 record)) =
        [.ok (some 7, first flagged), .ok (some 8, second)] := by
  cases flagged <;> decide +kernel

/-- A record adds its message. -/
theorem addMetadata_ok {uidvalidity uid : Nat} {messages : ExtractedMessages}
    {message : ExtractedMessage} {read : Except String FetchRecord}
    (isRead : (read.map fun record =>
      (fetchNumber record.protocolText "UID", messageOf scan.sha256 record)) =
        .ok (some uid, message))
    (isPositive : 0 < uid) (isUid : uid ≤ maxImapUid)
    (isNew : uidKey scan.mailbox uidvalidity uid ∉ messages) :
    addMetadata scan.sha256 scan.mailbox (some uidvalidity) messages read =
      .ok (messages.insert (uidKey scan.mailbox uidvalidity uid) message) := by
  cases read with
  | error error => cases isRead
  | ok record =>
    obtain ⟨isNumber, rfl⟩ := Prod.mk.inj (Except.ok.inj isRead)
    have parsedUid : parsedFetchUid record.protocolText scan.mailbox "IMAP FETCH" = .ok uid :=
      parsedFetchUid_eq_ok_iff.mpr ⟨isNumber, isPositive, isUid⟩
    rw [addMetadata, ok_bind, parsedUid, ok_bind]
    exact if_neg isNew

/-- The messages of a page. -/
def parsed (flagged : Bool) (uidvalidity : Nat) : ExtractedMessages :=
  AList.insert (uidKey scan.mailbox uidvalidity 8) second
    (AList.insert (uidKey scan.mailbox uidvalidity 7) (first flagged) ∅)

theorem key_ne (uidvalidity : Nat) :
    uidKey scan.mailbox uidvalidity 7 ≠ uidKey scan.mailbox uidvalidity 8 :=
  fun same => absurd (uidKey_injective same) (by decide)

theorem parsed_page (uidvalidity : Nat) :
    parseMessageFetchMetadataResponse scan.sha256 (page flagged) scan.mailbox (some uidvalidity) =
      .ok (parsed flagged uidvalidity) := by
  obtain ⟨one, later, isPage, isFirst, areLater⟩ :=
    List.map_eq_cons_iff.mp (fetchRecords_page flagged)
  obtain ⟨two, rfl, isSecond⟩ := List.map_eq_singleton_iff.mp areLater
  have isNew : uidKey scan.mailbox uidvalidity 8 ∉
      (AList.insert (uidKey scan.mailbox uidvalidity 7) (first flagged) ∅ : ExtractedMessages) := by
    rw [AList.mem_insert]
    exact not_or_intro (key_ne uidvalidity).symm (AList.notMem_empty _)
  rw [parseMessageFetchMetadataResponse, isPage, List.foldlM_cons, addMetadata_ok isFirst
    (by decide) (by decide) (AList.notMem_empty _), ok_bind, List.foldlM_cons,
    addMetadata_ok isSecond (by decide) (by decide) isNew, ok_bind]
  rfl

/-- A page is that of both messages. -/
theorem described_ok {tag uidSet : Text} {snapshot : FolderSnapshot} {flags body : Bool}
    {uidPage : List Nat} {messages : ExtractedMessages} {uid : Nat}
    (isAnswer : answer flagged (metadataCommand tag uidSet flags body) = .ok rawResponse)
    (isRead : readPage scan tag snapshot flags uidPage rawResponse = .ok messages)
    (isUid : uid ∈ uidPage) :
    ∃ original, (uid, original) ∈ (inbox flagged).messages ∧
      messages.at (uidKey scan.mailbox snapshot.uidvalidity uid) = shown flags original := by
  obtain rfl := answer_page isAnswer
  rw [readPage] at isRead
  split at isRead
  · cases isRead
  · rw [parsed_page, ok_bind] at isRead
    obtain ⟨_, covers, isRead⟩ := bind_eq_ok.mp isRead
    obtain ⟨parsedUids, areParsed, covers⟩ := bind_eq_ok.mp covers
    have sameUids : parsedUids.toFinset = uidPage.toFinset := by
      by_contra differ
      rw [if_pos differ] at covers
      cases covers
    rw [← List.mem_toFinset, ← sameUids, List.mem_toFinset] at isUid
    obtain ⟨key, isKey, isParsed⟩ := exists_of_forall₂ (mapM_eq_ok.mp areParsed).flip uid isUid
    have known : ∀ number < 2 ^ 32, key = uidKey scan.mailbox snapshot.uidvalidity number →
        uid = number := by
      rintro number small rfl
      have isNumber : parseU64 (uidKey scan.mailbox snapshot.uidvalidity number).uid.toList =
          some number := parseU64_uid small
      rw [isNumber, uidKey, if_neg (not_not.mpr rfl)] at isParsed
      exact (Except.ok.inj isParsed).symm
    have found : ∃ original, (uid, original) ∈ (inbox flagged).messages ∧
        (parsed flagged snapshot.uidvalidity).lookup
          (uidKey scan.mailbox snapshot.uidvalidity uid) = some original := by
      have isKey := AList.mem_keys.mpr isKey
      rw [parsed, AList.mem_insert, AList.mem_insert] at isKey
      obtain isEight | isSeven | nothing := isKey
      · obtain rfl := known 8 (by decide) isEight
        exact ⟨second, List.mem_cons_of_mem _ List.mem_cons_self, AList.lookup_insert _⟩
      · obtain rfl := known 7 (by decide) isSeven
        refine ⟨first flagged, List.mem_cons_self, ?_⟩
        rw [parsed, AList.lookup_insert_ne (key_ne _), AList.lookup_insert]
      · exact absurd nothing (AList.notMem_empty _)
    obtain ⟨original, isMessage, isFound⟩ := found
    refine ⟨original, isMessage, ?_⟩
    cases isRead
    cases flags with
    | true =>
      rw [if_pos rfl, ExtractedMessages.at, isFound]
      rfl
    | false =>
      rw [if_neg Bool.false_ne_true, ExtractedMessages.at, lookup_mapValues, isFound]
      rfl

theorem serve : servers.Serve wire scan where
  seen _ isAnswer isRead identity := seen_ok isAnswer isRead identity
  placed := by
    intro time _ _ _ _ _ index uid isAnswer isRead isUid
    obtain ⟨rfl, isPlace⟩ := placed_ok isAnswer isRead isUid
    change ∃ message, (inbox (isFlagged time)).messages[1 + index - 1]? = some (uid, message)
    rw [Nat.add_sub_cancel_left]
    match index, isPlace with
    | 0, rfl => exact ⟨_, rfl⟩
    | 1, rfl => exact ⟨_, rfl⟩
  described isAnswer isRead isUid := described_ok isAnswer isRead isUid

def snapshot : FolderSnapshot := ⟨3, 9, 2, some 6⟩

/-- The end of the scan. -/
def finished : ScanWorld fun _ => none :=
  (fetchMailboxWithSessionReconnect wire scan world).2

/-- The scan notices the change, begins again and succeeds; the whole folder can be used again
afterwards, and when its only page is committed, the page. -/
theorem finished_facts :
    (fetchMailboxWithSessionReconnect wire scan world).1 = .ok 2 ∧ isFlagged finished.time = true ∧
      (finished.stage.cursors.lookup scan.folder).map (·.snapshot) = some snapshot ∧
      finished.stage.reusableCompletedMailbox .source "INBOX" snapshot = .ok (some 2) ∧
      (finished.commits[6]?.any fun commit => decide (isFlagged commit.1 = true ∧
        commit.2.resumableMailboxPrefix .source "INBOX" snapshot = .ok (some (2, 8)))) = true := by
  decide +kernel

theorem ran : fetchMailboxWithSessionReconnect wire scan world = (.ok 2, finished) := by
  rw [finished, ← finished_facts.1]

theorem reachable_finished : Reachable servers.Serve finished.time finished.stage := by
  rw [finished]
  exact .scanned (.created 0) serve ⟨rfl, rfl, rfl⟩

theorem hasSnapshot {time : Nat} (isLater : isFlagged time = true) :
    HasSnapshot (servers scan.folder time) snapshot := by
  rw [servers, isLater]
  exact ⟨rfl, rfl, rfl, fun _ isModseq => Option.some.inj isModseq⟩

theorem finished_consistent :
    match finished.stage.cursors.lookup scan.folder with
    | none => finished.stage.folderRows scan.folder = []
    | some cursor => ∃ uids, Consistent finished.stage scan.folder cursor uids :=
  Reachable.folder_consistent reachable_finished scan.folder

/-- What is staged is the mailbox after the change. -/
theorem finished_stages_inbox : ∃ finish cursor, isFlagged finish = true ∧
    finish < finished.time ∧ finished.stage.cursors.lookup scan.folder = some cursor ∧
    cursor.completed = true ∧ HasSnapshot (inbox true) cursor.snapshot ∧
    2 = (inbox true).messages.length ∧
    StagesFirst finished.stage scan.folder (inbox true) true 2 := by
  obtain ⟨finish, cursor, -, before, isCursor, completed, last, isCount, isFirst⟩ :=
    scan_stages_mailbox evolve (.created 0) serve ⟨rfl, rfl, rfl⟩ ran
  have isSnapshot := finished_facts.2.2.1
  rw [isCursor, Option.map_some, Option.some.injEq] at isSnapshot
  rw [isSnapshot] at isFirst
  rw [servers] at last isCount isFirst
  cases isLater : isFlagged finish with
  | true =>
    rw [isLater] at last isCount isFirst
    exact ⟨finish, cursor, isLater, before, isCursor, completed, last, isCount, isFirst⟩
  | false =>
    rw [isLater, isSnapshot] at last
    exact absurd (last.modseq 6 rfl) (by decide)

theorem finished_reused : 2 = (inbox true).messages.length ∧
    StagesFirst finished.stage (.source, "INBOX") (inbox true) true 2 := by
  have isLater := finished_facts.2.1
  have reused := reused_is_mailbox evolve reachable_finished le_rfl (hasSnapshot isLater)
    finished_facts.2.2.2.1
  rw [servers, isLater] at reused
  exact reused

/-- The page was committed after an attempt that failed. -/
theorem interrupted_resumed : ∃ commit ∈ finished.commits,
    StagesFirst commit.2 (.source, "INBOX") (inbox true) true 2 ∧
      ∃ message, (inbox true).messages[2 - 1]? = some (8, message) := by
  obtain ⟨commit, isCommit, holds⟩ := (Option.any_eq_true _ _).mp finished_facts.2.2.2.2
  obtain ⟨isLater, resumable⟩ := of_decide_eq_true holds
  have isCommit := List.mem_of_getElem? isCommit
  have reachable : Reachable servers.Serve commit.1 commit.2 := by
    rw [finished] at isCommit
    exact .cut (.created 0) serve ⟨rfl, rfl, rfl⟩ isCommit
  have resumed := resumed_is_prefix evolve reachable le_rfl (hasSnapshot isLater) resumable
  rw [servers, isLater] at resumed
  exact ⟨commit, isCommit, resumed⟩

end OneMailbox

end MailSwiftSync.Scan
