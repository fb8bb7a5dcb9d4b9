import MailSwiftSync.Scan.Soundness

/-!
# Progress of a scan

While a folder is scanned, the rows of its committed pages are the messages that were told so far,
and the UIDs of the current window that are still to be fetched follow them.
-/

namespace MailSwiftSync.Scan

open Foundation Imap DurableStage

variable {parseDate : DateParser} {testimony : Testimony} {wire : Wire} {scan : FolderScan}
  {snapshot : FolderSnapshot} {start : Nat} {log : Log} {todo page rest : List Nat}
  {world later : ScanWorld parseDate}

/-- The messages of a log are staged, and some UIDs of the window are left. -/
structure Progress (testimony : Testimony) (folder : StagedFolder) (snapshot : FolderSnapshot)
    (start : Nat) (log : Log) (todo : List Nat) (world : ScanWorld parseDate) : Prop where
  sound : SoundWorld testimony start world
  staged : StagedAs testimony world.time world.stage folder snapshot log false
  placed : ∀ index uid, todo[index]? = some uid → ∃ located, start ≤ located ∧
    located < world.time ∧ testimony.placed located folder (log.length + 1 + index) uid
  increasing : todo.Pairwise (· < ·)
  above : ∀ entry ∈ log, ∀ uid ∈ todo, entry.1 < uid
  valid : ∀ uid ∈ todo, 1 ≤ uid ∧ uid < 2 ^ 32
  fits : log.length + todo.length ≤ snapshot.existsCount

theorem stable_progress {folder : StagedFolder} :
    Stable (Progress testimony folder snapshot start log todo : ScanWorld parseDate → Prop) := by
  intro world later passes progress
  constructor
  · exact stable_soundWorld world later passes progress.sound
  · rw [passes.stage]
    exact progress.staged.mono passes.time
  · intro index uid isUid
    obtain ⟨located, begun, before, placed⟩ := progress.placed index uid isUid
    exact ⟨located, begun, before.trans_le passes.time, placed⟩
  · exact progress.increasing
  · exact progress.above
  · exact progress.valid
  · exact progress.fits

/-! ## A page -/

variable {messages : ExtractedMessages}

/-- The keys of an accepted page. -/
theorem uidKey_of_readPage {tag : Text} {flags : Bool} {rawResponse : Bytes}
    (isRead : readPage scan tag snapshot flags page rawResponse = .ok messages) :
    (∀ key ∈ messages.keys, ∃ uid, key = uidKey scan.mailbox snapshot.uidvalidity uid ∧
      uid < 2 ^ 32) ∧
      (page.Pairwise (· < ·) →
        messages.keys.Perm (page.map (uidKey scan.mailbox snapshot.uidvalidity))) := by
  rw [readPage] at isRead
  split at isRead
  · cases isRead
  · obtain ⟨parsed, isParsed, isRead⟩ := bind_eq_ok.mp isRead
    obtain ⟨_, covers, isRead⟩ := bind_eq_ok.mp isRead
    have areKeys := uidKey_of_parsed isParsed
    have sameKeys : messages.keys = parsed.keys := by
      obtain rfl := Except.ok.inj isRead
      split
      · rfl
      · exact List.map_map
    rw [sameKeys]
    exact ⟨areKeys, fun increasing => keys_of_coverage areKeys increasing covers⟩

/-- A page was fetched. -/
def PageTold (testimony : Testimony) (scan : FolderScan) (snapshot : FolderSnapshot) (start : Nat)
    (page : List Nat) (messages : ExtractedMessages) (world : ScanWorld parseDate) : Prop :=
  ∃ fetched, start ≤ fetched ∧ fetched < world.time ∧ ∀ uid ∈ page,
    testimony.described fetched scan.folder snapshot.highestModseq.isSome uid
      (messages.at (uidKey scan.mailbox snapshot.uidvalidity uid))

/-- A page was fetched, and can be staged. -/
def Fetched (testimony : Testimony) (scan : FolderScan) (snapshot : FolderSnapshot) (start : Nat)
    (log : Log) (page rest : List Nat) (messages : ExtractedMessages)
    (world : ScanWorld parseDate) : Prop :=
  Progress testimony scan.folder snapshot start log (page ++ rest) world ∧
    PageTold testimony scan snapshot start page messages world

theorem stable_fetched :
    Stable (Fetched testimony scan snapshot start log page rest messages :
      ScanWorld parseDate → Prop) := by
  intro world later passes ⟨progress, fetched, begun, before, told⟩
  exact ⟨stable_progress world later passes progress, fetched, begun,
    before.trans_le passes.time, told⟩

/-- A committed page is progress. -/
theorem Progress.insertPage {stage : DurableStage parseDate}
    {fingerprints : AList fun _ : MailboxMessageKey => String}
    (seen : testimony.seen start scan.folder snapshot)
    (progress : Progress testimony scan.folder snapshot start log (page ++ rest) world)
    (nonempty : page ≠ [])
    (areKeys : messages.keys.Perm (page.map (uidKey scan.mailbox snapshot.uidvalidity)))
    (described : PageTold testimony scan snapshot start page messages world)
    (inserted : world.stage.insertPageWithFingerprints scan.side messages fingerprints
      (some (scan.mailbox, snapshot, page.getLast?.getD 0)) = .ok stage) :
    Progress testimony scan.folder snapshot start
      (log ++ pageLog messages scan.mailbox snapshot.uidvalidity page) rest
      { world with stage, commits := world.commits ++ [(world.time, stage)] } := by
  have fits := progress.fits
  rw [List.length_append] at fits
  obtain ⟨increasing, restIncreasing, separate⟩ := List.pairwise_append.mp progress.increasing
  have length : (pageLog messages scan.mailbox snapshot.uidvalidity page).length = page.length :=
    List.length_map _
  have backs : testimony.Backs world.time scan.folder snapshot
      (log ++ pageLog messages scan.mailbox snapshot.uidvalidity page) := by
    apply progress.staged.backs.append
    · rw [pageLog_uids]
      exact increasing
    · rw [pageLog_uids]
      exact fun entry isEntry uid isUid =>
        progress.above entry isEntry uid (List.mem_append_left _ isUid)
    · rw [pageLog_uids]
      exact fun uid isUid => progress.valid uid (List.mem_append_left _ isUid)
    · omega
    · intro index entry isEntry
      rw [pageLog, List.getElem?_map, Option.map_eq_some_iff] at isEntry
      obtain ⟨uid, isUid, rfl⟩ := isEntry
      have inPage : (page ++ rest)[index]? = some uid := by
        rw [List.getElem?_append_left (List.getElem?_eq_some_iff.mp isUid).choose]
        exact isUid
      obtain ⟨located, begun, before, placed⟩ := progress.placed index uid inPage
      obtain ⟨fetched, begun', before', told⟩ := described
      exact ⟨start, located, fetched, seen, placed, told uid (List.mem_of_getElem? isUid), begun,
        begun', before, before'⟩
  obtain ⟨soundStage, staged⟩ := progress.sound.stage.insertPage progress.staged areKeys
    (fun entry isEntry uid isUid =>
      progress.above entry isEntry uid (List.mem_append_left _ isUid)) backs nonempty inserted
  constructor
  · exact progress.sound.commit soundStage
  · exact staged
  · intro index uid isUid
    have inTodo : (page ++ rest)[page.length + index]? = some uid := by
      rw [List.getElem?_append_right (Nat.le_add_right _ _), Nat.add_sub_cancel_left]
      exact isUid
    obtain ⟨located, begun, before, placed⟩ := progress.placed _ uid inTodo
    refine ⟨located, begun, before, ?_⟩
    rw [List.length_append, length]
    have position : log.length + page.length + 1 + index =
        log.length + 1 + (page.length + index) := by omega
    rw [position]
    exact placed
  · exact restIncreasing
  · intro entry isEntry uid isUid
    cases List.mem_append.mp isEntry with
    | inl isOld => exact progress.above entry isOld uid (List.mem_append_right _ isUid)
    | inr isNew =>
      have inPage := List.mem_map_of_mem (f := Prod.fst) isNew
      rw [pageLog_uids] at inPage
      exact separate entry.1 inPage uid isUid
  · exact fun uid isUid => progress.valid uid (List.mem_append_right _ isUid)
  · rw [List.length_append, length]
    omega

/-- The page is staged behind the log. -/
theorem meets_insertPageAndCheckpoint {fingerprints : AList fun _ : MailboxMessageKey => String}
    (seen : testimony.seen start scan.folder snapshot) (nonempty : page ≠ [])
    (areKeys : messages.keys.Perm (page.map (uidKey scan.mailbox snapshot.uidvalidity))) :
    Effect.Meets (Fetched testimony scan snapshot start log page rest messages)
      (StageMessageSink.insertPageAndCheckpoint wire scan.side scan.mailbox snapshot
        (page.getLast?.getD 0) messages fingerprints : Scanning parseDate Unit)
      (fun _ => Progress testimony scan.folder snapshot start
        (log ++ pageLog messages scan.mailbox snapshot.uidvalidity page) rest)
      (SoundWorld testimony start) := by
  have kept : ∀ world : ScanWorld parseDate,
      Fetched testimony scan snapshot start log page rest messages world →
        SoundWorld testimony start world := fun world fetched => fetched.1.sound
  have commits : Effect.Meets (Fetched testimony scan snapshot start log page rest messages)
      (commit wire (DurableStage.insertPageWithFingerprints scan.side messages fingerprints
        (some (scan.mailbox, snapshot, page.getLast?.getD 0))) : Scanning parseDate Unit)
      (fun _ => Progress testimony scan.folder snapshot start
        (log ++ pageLog messages scan.mailbox snapshot.uidvalidity page) rest)
      (SoundWorld testimony start) :=
    meets_commit stable_fetched kept fun world stage fetched inserted =>
      fetched.1.insertPage seen nonempty areKeys fetched.2 inserted
  refine meets_quiet (keeps_ask _) stable_fetched kept fun available => ?_
  refine meets_quiet (Effect.Keeps.ofExcept _) stable_fetched kept fun _ => ?_
  refine Effect.Meets.bind commits fun _ => ?_
  exact Effect.Meets.of_keeps (keeps_addCurrentAttemptMessages _) stable_progress
    fun world progress => progress.sound

/-- A page is fetched and staged, or the stage stays sound. -/
theorem meets_consumePage {uidSet : Text} (answers : Answers wire scan testimony)
    (seen : testimony.seen start scan.folder snapshot) (nonempty : page ≠ []) :
    Effect.Meets (Progress testimony scan.folder snapshot start log (page ++ rest))
      (consumePage wire scan snapshot snapshot.highestModseq.isSome page uidSet :
        Scanning parseDate Nat)
      (fun _ world => ∃ added : Log, added.map Prod.fst = page ∧
        Progress testimony scan.folder snapshot start (log ++ added) rest world)
      (SoundWorld testimony start) := by
  have kept : ∀ world : ScanWorld parseDate,
      Progress testimony scan.folder snapshot start log (page ++ rest) world →
        SoundWorld testimony start world := fun world progress => progress.sound
  refine Effect.Meets.of_fact (fun world progress =>
    (List.pairwise_append.mp progress.increasing).1) fun increasing => ?_
  have keptFetched : ∀ messages, ∀ world : ScanWorld parseDate,
      Fetched testimony scan snapshot start log page rest messages world →
        SoundWorld testimony start world := fun messages world fetched => fetched.1.sound
  refine meets_quiet (keeps_ask _) stable_progress kept fun _ => ?_
  refine meets_quiet (Effect.Keeps.reading _) stable_progress kept fun current => ?_
  refine meets_quiet (keeps_ensure _ _) stable_progress kept fun _ => ?_
  refine meets_quiet (Effect.Keeps.reading _) stable_progress kept fun pageNumber => ?_
  refine meets_quiet (Effect.Keeps.modify fun _ => ⟨le_rfl, rfl, rfl⟩) stable_progress kept
    fun _ => ?_
  refine meets_answer stable_progress kept fun rawResponse => ?_
  refine Effect.Meets.bind_ofExcept (fun world holds => holds.1.sound) fun messages isRead => ?_
  -- From here on, what was read is all that is known of the answer.
  have staged : Effect.Meets (Fetched testimony scan snapshot start log page rest messages) (do
      let fingerprints ← bodyFingerprints wire scan rawResponse snapshot.uidvalidity messages
      messages.entries.forM fun entry => ask fun time => wire.reserveState time
        (estimatedMessageRecordBytes entry.1 entry.2 (fingerprints.lookup entry.1))
      StageMessageSink.insertPageAndCheckpoint wire scan.side scan.mailbox snapshot
        (page.getLast?.getD 0) messages fingerprints
      return rawResponse.length : Scanning parseDate Nat)
      (fun _ world => ∃ added : Log, added.map Prod.fst = page ∧
        Progress testimony scan.folder snapshot start (log ++ added) rest world)
      (SoundWorld testimony start) := by
    refine meets_quiet (keeps_bodyFingerprints _ _ _ _ _) stable_fetched (keptFetched _)
      fun fingerprints => ?_
    refine meets_quiet (Effect.Keeps.forM (fun entry => keeps_ask _) _) stable_fetched
      (keptFetched _) fun _ => ?_
    refine Effect.Meets.bind (meets_insertPageAndCheckpoint seen nonempty ?_) fun _ => ?_
    · exact (uidKey_of_readPage isRead).2 increasing
    · exact Effect.Meets.pure fun world progress => ⟨_, pageLog_uids, progress⟩
  refine staged.weaken ?_ (fun _ _ => id) (fun _ => id)
  intro world ⟨progress, before, earlier, isBefore, isAnswer⟩
  exact ⟨progress, before.time, earlier.sound.started, isBefore,
    fun uid isUid => answers.described isAnswer isRead isUid⟩

/-! ## A window -/

/-- All UIDs of a window are fetched. -/
theorem meets_consumeUids (answers : Answers wire scan testimony)
    (seen : testimony.seen start scan.folder snapshot) (planner : FetchPagePlanner) :
    Effect.Meets (Progress testimony scan.folder snapshot start log todo)
      (consumeUids wire scan snapshot snapshot.highestModseq.isSome planner todo :
        Scanning parseDate FetchPagePlanner)
      (fun _ world => ∃ added : Log, added.map Prod.fst = todo ∧
        Progress testimony scan.folder snapshot start (log ++ added) [] world)
      (SoundWorld testimony start) := by
  induction size : todo.length using Nat.strong_induction_on generalizing todo log planner with
  | _ count ih =>
    rw [consumeUids]
    split
    · next isNil =>
        refine Effect.Meets.pure fun world progress => ⟨[], ?_, ?_⟩
        · rw [isNil]
          rfl
        · rw [List.append_nil, ← isNil]
          exact progress
    · next more =>
        have isPage := encodeUidPage_pos more planner.size
        have nonempty := List.length_pos_iff.mpr more
        have split : todo.take (encodeUidPage todo planner.size).1 ++
            todo.drop (encodeUidPage todo planner.size).1 = todo := List.take_append_drop _ _
        have someTaken : todo.take (encodeUidPage todo planner.size).1 ≠ [] := by
          intro isNil
          cases List.take_eq_nil_iff.mp isNil with
          | inl none => exact absurd none (Nat.ne_of_gt isPage)
          | inr isNil => exact more isNil
        have isFirst : Effect.Meets (Progress testimony scan.folder snapshot start log
            (todo.take (encodeUidPage todo planner.size).1 ++
              todo.drop (encodeUidPage todo planner.size).1))
            (consumePage wire scan snapshot snapshot.highestModseq.isSome
              (todo.take (encodeUidPage todo planner.size).1)
              (encodeUidPage todo planner.size).2 : Scanning parseDate Nat) _ _ :=
          meets_consumePage answers seen someTaken
        rw [split] at isFirst
        refine Effect.Meets.bind isFirst fun responseBytes => ?_
        refine Effect.Meets.of_exists fun added => ?_
        refine Effect.Meets.of_fact (fun world holds => holds.1) fun areUids => ?_
        have smaller : (todo.drop (encodeUidPage todo planner.size).1).length < count := by
          rw [List.length_drop]
          omega
        refine (ih _ smaller _ rfl).weaken (fun world holds => holds.2) ?_ fun _ => id
        intro _ world ⟨later, areLater, progress⟩
        refine ⟨added ++ later, ?_, ?_⟩
        · rw [List.map_append, areUids, areLater, split]
        · rw [← List.append_assoc]
          exact progress

/-! ## Windows -/

/-- A window was located. -/
def Located (testimony : Testimony) (folder : StagedFolder) (snapshot : FolderSnapshot)
    (start : Nat) (log : Log) (uids : List Nat) (world : ScanWorld parseDate) : Prop :=
  Progress testimony folder snapshot start log [] world ∧
    ∃ located, start ≤ located ∧ located < world.time ∧ ∀ index uid, uids[index]? = some uid →
      testimony.placed located folder (log.length + 1 + index) uid

/-- What an accepted answer to a window has. -/
theorem windowUids_of_read {tag : Text} {sequenceStart sequenceEnd : Nat} {rawResponse : Bytes}
    {uids : List Nat}
    (isRead : readWindow scan tag sequenceStart sequenceEnd rawResponse = .ok uids) :
    WindowUids sequenceStart sequenceEnd uids := by
  rw [readWindow] at isRead
  dsimp only at isRead
  split at isRead
  · cases isRead
  · exact windowUids_of_parsed isRead

/-- What is below the first of some UIDs in order is below all of them. -/
theorem above_of_head {uids : List Nat} {bound : Nat} (increasing : uids.Pairwise (· < ·))
    (above : ∀ uid ∈ uids.head?, bound < uid) : ∀ uid ∈ uids, bound < uid := by
  intro uid isUid
  cases uids with
  | nil => cases isUid
  | cons first uids =>
    have less := above first rfl
    cases List.mem_cons.mp isUid with
    | inl isFirst => exact isFirst ▸ less
    | inr isLater => exact less.trans ((List.pairwise_cons.mp increasing).1 uid isLater)

/-- An accepted window has the next UIDs of the folder. -/
theorem Located.progress {folder : StagedFolder} {sequenceEnd : Nat} {uids : List Nat}
    (located : Located testimony folder snapshot start log uids world)
    (isWindow : WindowUids (log.length + 1) sequenceEnd uids)
    (inFolder : sequenceEnd ≤ snapshot.existsCount) (inOrder : log.length + 1 ≤ sequenceEnd)
    (above : ∀ entry ∈ log, ∀ uid ∈ uids.head?, entry.1 < uid) :
    Progress testimony folder snapshot start log uids world where
  sound := located.1.sound
  staged := located.1.staged
  placed index uid isUid := by
    obtain ⟨-, time, begun, before, told⟩ := located
    exact ⟨time, begun, before, told index uid isUid⟩
  increasing := isWindow.increasing
  above entry isEntry := above_of_head isWindow.increasing (above entry isEntry)
  valid := isWindow.valid
  fits := by
    rw [isWindow.length]
    omega

/-- The last UID of what was enumerated is known. -/
def Bounded (log : Log) (lastUid : Option Nat) : Prop :=
  ∀ entry ∈ log, ∃ previous ∈ lastUid, entry.1 ≤ previous

theorem bounded_append {added : Log} {uids : List Nat} {lastUid : Option Nat}
    (bounded : Bounded log lastUid) (areUids : added.map Prod.fst = uids)
    (increasing : uids.Pairwise (· < ·)) (above : ∀ entry ∈ log, ∀ uid ∈ uids, entry.1 < uid) :
    Bounded (log ++ added) (uids.getLast?.or lastUid) := by
  intro entry isEntry
  cases uids.eq_nil_or_concat' with
  | inl isNil =>
    rw [isNil, List.map_eq_nil_iff] at areUids
    rw [areUids, List.append_nil] at isEntry
    rw [isNil]
    exact bounded entry isEntry
  | inr isConcat =>
    obtain ⟨front, last, isConcat⟩ := isConcat
    refine ⟨last, ?_, ?_⟩
    · rw [isConcat, List.getLast?_concat]
      rfl
    · have isLast : last ∈ uids := by simp [isConcat]
      cases List.mem_append.mp isEntry with
      | inl isOld => exact (above entry isOld last isLast).le
      | inr isNew =>
        have isUid := List.mem_map_of_mem (f := Prod.fst) isNew
        rw [areUids, isConcat] at isUid
        rw [isConcat, List.pairwise_append] at increasing
        cases List.mem_append.mp isUid with
        | inl isFront => exact (increasing.2.2 entry.1 isFront last (by simp)).le
        | inr isHere => exact (List.mem_singleton.mp isHere).le

/-- The rest of the mailbox is enumerated and fetched. -/
theorem meets_enumerateFrom (answers : Answers wire scan testimony)
    (seen : testimony.seen start scan.folder snapshot) (planner : FetchPagePlanner)
    {lastUid : Option Nat} (bounded : Bounded log lastUid) (searchNumber : Nat) :
    Effect.Meets (Progress testimony scan.folder snapshot start log [])
      (enumerateFrom wire scan snapshot snapshot.highestModseq.isSome planner (log.length + 1)
        log.length lastUid searchNumber : Scanning parseDate Nat)
      (fun enumerated world => ∃ all : Log, all.length = enumerated ∧
        Progress testimony scan.folder snapshot start all [] world)
      (SoundWorld testimony start) := by
  have kept : ∀ world : ScanWorld parseDate,
      Progress testimony scan.folder snapshot start log [] world →
        SoundWorld testimony start world := fun _ progress => progress.sound
  induction size : snapshot.existsCount - log.length using Nat.strong_induction_on
    generalizing log planner lastUid searchNumber with
  | _ count ih =>
    rw [enumerateFrom]
    refine Effect.Meets.ite (fun inFolder => ?_) fun isDone => ?_
    · refine meets_quiet (keeps_ask _) stable_progress kept fun _ => ?_
      refine meets_answer stable_progress kept fun rawResponse => ?_
      refine Effect.Meets.bind_ofExcept (fun world holds => kept world holds.1)
        fun uids isRead => ?_
      have isWindow := windowUids_of_read isRead
      have isLength : min (log.length + 1 + messageUidEnumerationPageSize - 1)
          snapshot.existsCount = log.length + uids.length := by
        rw [isWindow.length, messageUidEnumerationPageSize]
        omega
      refine Effect.Meets.bind_ensure (fun world holds => kept world holds.1) fun ordered => ?_
      refine Effect.Meets.bind_ensure (fun world holds => kept world holds.1) fun _ => ?_
      have above : ∀ entry ∈ log, ∀ uid ∈ uids.head?, entry.1 < uid := by
        intro entry isEntry uid isUid
        obtain ⟨previous, isPrevious, le⟩ := bounded entry isEntry
        exact le.trans_lt (ordered previous isPrevious uid isUid)
      rw [isLength] at isRead isWindow ⊢
      have fetches : Effect.Meets (Progress testimony scan.folder snapshot start log uids)
          (consumeUids wire scan snapshot snapshot.highestModseq.isSome planner uids :
            Scanning parseDate FetchPagePlanner) _ _ :=
        meets_consumeUids answers seen planner
      refine Effect.Meets.bind (fetches.assuming ?_) fun planner => ?_
      · intro world ⟨progress, before, earlier, isBefore, isAnswer⟩
        have located : Located testimony scan.folder snapshot start log uids world :=
          ⟨progress, before.time, earlier.sound.started, isBefore,
            fun index uid isUid => answers.placed isAnswer isRead isUid⟩
        apply located.progress isWindow _ _ above
        · omega
        · have isFull := isWindow.length
          omega
      · refine Effect.Meets.of_exists fun added => ?_
        refine Effect.Meets.of_fact (fun world holds => holds.1) fun areUids => ?_
        have isCount : (log ++ added).length = log.length + uids.length := by
          rw [List.length_append, ← areUids, List.length_map]
        have smaller : snapshot.existsCount - (log ++ added).length < count := by
          have isFull := isWindow.length
          omega
        have further := ih _ smaller planner
          (bounded_append bounded areUids isWindow.increasing fun entry isEntry =>
            above_of_head isWindow.increasing (above entry isEntry))
          (searchNumber + 1) (fun _ progress => progress.sound) rfl
        rw [isCount] at further
        exact further.assuming fun world holds => holds.2
    · exact Effect.Meets.pure fun world progress => ⟨log, rfl, progress⟩

end MailSwiftSync.Scan
