import MailSwiftSync.Staged.Agreement
import MailSwiftSync.Staged.Content
import MailSwiftSync.Verification.Accounting
import MailSwiftSync.Verification.ContentRenaming

/-!
# Body verification in memory and on the stage

Both content passes accept a population only with a bijection between messages with
equal bodies in the expected folders.  On a stage that holds the maps they also agree
in everything they report.
-/

namespace MailSwiftSync

open Foundation

/-! ## An exact result is a bijection -/

/-- A message of either side is the only one with its body fingerprint. -/
def OnlyBody {κ : Type} [DecidableEq κ] (fingerprints : AList fun _ : κ => String)
    (among : κ → Prop) (key : κ) : Prop :=
  ∀ other, among other → fingerprints.lookup other = fingerprints.lookup key → other = key

namespace ContentInput

variable {platform : Platform} {input : ContentInput}

theorem lookup_at {messages : ExtractedMessages} {fingerprints : Fingerprints}
    (covered : SameKeys messages fingerprints) {key : MailboxMessageKey}
    (isKey : key ∈ messages) : fingerprints.lookup key = some (fingerprints.at key) := by
  obtain ⟨value, found⟩ :=
    Option.isSome_iff_exists.mp (AList.lookup_isSome.mpr ((covered key).mpr isKey))
  rw [Fingerprints.at, found, Option.getD_some]

/-- An exact in-memory result is a bijection. -/
theorem exists_partner {mismatches : List MessageMismatch} {summary : VerificationSummary}
    (returned : detectMismatchesWithContentFingerprints platform input =
      .ok (mismatches, summary))
    (exact : summary.verificationOutcome = .exactMetadataMatch) :
    ∃ partner : {key // key ∈ input.sourceMessages} ≃ {key // key ∈ input.destMessages},
      ∀ key : {key // key ∈ input.sourceMessages},
        (partner key).1.mailbox = expectedDestinationFolder key.1 input.folderMapping ∧
        (∃ body, input.sourceFingerprints.lookup key.1 = some body ∧
          input.destFingerprints.lookup (partner key).1 = some body) ∧
        ((input.sourceMessages.at key.1).rfcIdentity.isSome ∧
            (input.sourceMessages.at key.1).rfcIdentity =
              (input.destMessages.at (partner key).1).rfcIdentity ∨
          OnlyBody input.sourceFingerprints (· ∈ input.sourceMessages) key.1 ∧
            OnlyBody input.destFingerprints (· ∈ input.destMessages) (partner key).1) := by
  obtain ⟨covered, _, result⟩ := (input.detect_ok_iff platform).mp returned
  obtain ⟨_, rfl⟩ := Prod.mk.inj result
  obtain ⟨_, _, _, _, _, allSources, allDestinations⟩ :=
    verificationOutcome_eq_exact.mp exact
  have sourceLength : input.sources.length = input.sourceMessages.entries.length := by
    rw [ReconciliationInput.sources, (sortUnstable_perm _).length_eq, entries_length_eq_keys]
  have destLength : input.destinations.length = input.destMessages.entries.length := by
    rw [ReconciliationInput.destinations, (sortUnstable_perm _).length_eq,
      entries_length_eq_keys]
  obtain ⟨partner, agrees⟩ := (input.reconciliation platform).exists_content_equiv
    input.sourceBody input.destBody input.sources_nodup input.destinations_nodup
    (allSources.trans sourceLength.symm) (allDestinations.trans destLength.symm)
  have sourceKeys : ∀ key, key ∈ input.sourceMessages ↔ key ∈ input.sources := fun _ =>
    input.mem_sources.symm
  have destKeys : ∀ key, key ∈ input.destinations ↔ key ∈ input.destMessages := fun _ =>
    input.mem_destinations
  refine ⟨(Equiv.subtypeEquivRight sourceKeys).trans
    (partner.trans (Equiv.subtypeEquivRight destKeys)), fun key => ?_⟩
  set source : {key // key ∈ input.sources} := ⟨key.1, (sourceKeys key.1).mp key.2⟩
  have sourceBody := lookup_at covered.source key.2
  have destBody := lookup_at covered.dest ((destKeys _).mp (partner source).2)
  obtain ⟨folder, body, identity⟩ := agrees source
  refine ⟨folder.symm, ⟨input.sourceBody key.1, sourceBody, ?_⟩, ?_⟩
  · exact destBody.trans (congrArg some body.symm)
  · rcases identity with sameIdentity | ⟨onlySource, onlyDest⟩
    · exact .inl sameIdentity
    · refine .inr ⟨?_, ?_⟩
      · intro other isOther same
        rw [sourceBody, lookup_at covered.source isOther] at same
        exact onlySource other ((sourceKeys other).mp isOther) (Option.some.inj same)
      · intro other isOther same
        have otherBody := lookup_at covered.dest isOther
        exact onlyDest other ((destKeys other).mpr isOther)
          (Option.some.inj (otherBody.symm.trans (same.trans destBody)))

end ContentInput

namespace StagedInput

variable {platform : Platform} {input : StagedInput platform}

theorem Covered.lookup_body (covered : input.Covered) {row : StagedRow platform.parseDate}
    (isRow : row ∈ input.rows) :
    input.stage.fingerprints.lookup row.key = some (input.body row) :=
  AList.mem_lookup_iff.mpr (covered.fingerprintRow_mem isRow)

/-- An exact staged result is a bijection. -/
theorem exists_partner {tables : StagedReconciliation}
    (returned : reconcileStageWithContentFingerprints input = .ok tables)
    (exact : tables.summary.verificationOutcome = .exactMetadataMatch) :
    ∃ partner : {row // row ∈ input.sourceRows} ≃ {row // row ∈ input.destRows},
      ∀ row : {row // row ∈ input.sourceRows},
        (partner row).1.mailbox =
          expectedDestinationFolder row.1.messageKey input.folderMapping ∧
        (∃ body, input.stage.fingerprints.lookup row.1.key = some body ∧
          input.stage.fingerprints.lookup (partner row).1.key = some body) ∧
        (row.1.identity.isSome ∧ row.1.identity = (partner row).1.identity ∨
          OnlyBody input.stage.fingerprints (· ∈ input.sourceRows.map StagedRow.key)
              row.1.key ∧
            OnlyBody input.stage.fingerprints (· ∈ input.destRows.map StagedRow.key)
              (partner row).1.key) := by
  obtain ⟨covered, rfl⟩ := input.reconcileStageWithContentFingerprints_ok_iff.mp returned
  rw [input.contentOutcome_summary] at exact
  obtain ⟨_, _, _, _, _, allSources, allDestinations⟩ :=
    verificationOutcome_eq_exact.mp exact
  obtain ⟨partner, agrees⟩ := input.reconciliation.exists_content_equiv input.body input.body
    input.sourceRows_nodup input.destinations_nodup allSources
    (allDestinations.trans input.destinations_perm.length_eq.symm)
  have destinations : ∀ row, row ∈ input.destinations ↔ row ∈ input.destRows := fun _ =>
    input.mem_destinations
  refine ⟨partner.trans (Equiv.subtypeEquivRight destinations), fun row => ?_⟩
  have isSource := (input.mem_sourceRows.mp row.2).1
  have isDestination := (input.mem_destRows.mp ((destinations _).mp (partner row).2)).1
  have sourceBody := covered.lookup_body isSource
  have destBody := covered.lookup_body isDestination
  obtain ⟨folder, body, identity⟩ := agrees row
  refine ⟨?_, ⟨input.body row.1, sourceBody, ?_⟩, ?_⟩
  · exact folder.symm.trans (input.matchMailbox_eq row.2)
  · exact destBody.trans (congrArg some body.symm)
  · rcases identity with sameIdentity | ⟨onlySource, onlyDest⟩
    · exact .inl sameIdentity
    · refine .inr ⟨?_, ?_⟩
      · intro key isKey same
        obtain ⟨other, isOther, rfl⟩ := List.mem_map.mp isKey
        have otherBody := covered.lookup_body (input.mem_sourceRows.mp isOther).1
        rw [onlySource other isOther
          (Option.some.inj (otherBody.symm.trans (same.trans sourceBody)))]
      · intro key isKey same
        obtain ⟨other, isOther, rfl⟩ := List.mem_map.mp isKey
        have otherBody := covered.lookup_body (input.mem_destRows.mp isOther).1
        exact congrArg StagedRow.key (onlyDest other ((destinations other).mpr isOther)
          (Option.some.inj (otherBody.symm.trans (same.trans destBody))))

end StagedInput

/-- Body verification is sound: an exact result, in memory or on a stage, comes with a
bijection into the expected folders between messages with equal bodies, and the members of
a pair have the same RFC identity unless their body is unique on both sides. -/
theorem body_verification_sound (platform : Platform) :
    (∀ (input : ContentInput) (mismatches : List MessageMismatch)
      (summary : VerificationSummary),
      detectMismatchesWithContentFingerprints platform input = .ok (mismatches, summary) →
      summary.verificationOutcome = .exactMetadataMatch →
      ∃ partner : {key // key ∈ input.sourceMessages} ≃ {key // key ∈ input.destMessages},
        ∀ key : {key // key ∈ input.sourceMessages},
          (partner key).1.mailbox = expectedDestinationFolder key.1 input.folderMapping ∧
          (∃ body, input.sourceFingerprints.lookup key.1 = some body ∧
            input.destFingerprints.lookup (partner key).1 = some body) ∧
          ((input.sourceMessages.at key.1).rfcIdentity.isSome ∧
              (input.sourceMessages.at key.1).rfcIdentity =
                (input.destMessages.at (partner key).1).rfcIdentity ∨
            OnlyBody input.sourceFingerprints (· ∈ input.sourceMessages) key.1 ∧
              OnlyBody input.destFingerprints (· ∈ input.destMessages) (partner key).1)) ∧
    ∀ (input : StagedInput platform) (tables : StagedReconciliation),
      reconcileStageWithContentFingerprints input = .ok tables →
      tables.summary.verificationOutcome = .exactMetadataMatch →
      ∃ partner : {row // row ∈ input.sourceRows} ≃ {row // row ∈ input.destRows},
        ∀ row : {row // row ∈ input.sourceRows},
          (partner row).1.mailbox =
            expectedDestinationFolder row.1.messageKey input.folderMapping ∧
          (∃ body, input.stage.fingerprints.lookup row.1.key = some body ∧
            input.stage.fingerprints.lookup (partner row).1.key = some body) ∧
          (row.1.identity.isSome ∧ row.1.identity = (partner row).1.identity ∨
            OnlyBody input.stage.fingerprints (· ∈ input.sourceRows.map StagedRow.key)
                row.1.key ∧
              OnlyBody input.stage.fingerprints (· ∈ input.destRows.map StagedRow.key)
                (partner row).1.key) :=
  ⟨fun _ _ _ => ContentInput.exists_partner, fun _ _ => StagedInput.exists_partner⟩

/-- Two messages resent under other Message-IDs, with the same bodies. -/
def resentInput : ContentInput where
  jobId := "job"
  runId := "run"
  sourceMessages := [⟨⟨"INBOX", none, "1"⟩, comparableMessage⟩,
    ⟨⟨"INBOX", none, "2"⟩, { comparableMessage with
      messageId := some "<c@example.org>" }⟩].toAList
  destMessages := [⟨⟨"INBOX", none, "1"⟩, { comparableMessage with
      messageId := some "<b@example.org>"
      sizeBytes := some 11 }⟩,
    ⟨⟨"INBOX", none, "2"⟩, { comparableMessage with
      messageId := some "<d@example.org>" }⟩].toAList
  folderMapping := ∅
  sourceFingerprints :=
    [⟨⟨"INBOX", none, "1"⟩, "body"⟩, ⟨⟨"INBOX", none, "2"⟩, "other"⟩].toAList
  destFingerprints :=
    [⟨⟨"INBOX", none, "1"⟩, "body"⟩, ⟨⟨"INBOX", none, "2"⟩, "other"⟩].toAList

theorem resentInput_covered : resentInput.Covered :=
  ⟨.of_keys rfl, .of_keys rfl⟩

theorem resentInput_withinBudgets : resentInput.WithinBudgets plainPlatform :=
  ⟨⟨by decide, by decide⟩, by decide⟩

/-- The result is exact, yet no pair of messages has the same RFC identity. -/
theorem resentInput_matched :
    ∃ mismatches summary,
      detectMismatchesWithContentFingerprints plainPlatform resentInput =
        .ok (mismatches, summary) ∧
      summary.verificationOutcome = .exactMetadataMatch ∧
      ∀ source ∈ resentInput.sourceMessages.keys, ∀ dest ∈ resentInput.destMessages.keys,
        (resentInput.sourceMessages.at source).rfcIdentity ≠
          (resentInput.destMessages.at dest).rfcIdentity := by
  exact ⟨_, _, (resentInput.detect_ok_iff plainPlatform).mpr
    ⟨resentInput_covered, resentInput_withinBudgets, rfl⟩, by decide, by decide⟩

/-- Both maps of an input and their bodies, each staged as one page. -/
def stagedBodies (platform : Platform) (memory : ContentInput) : StagedInput platform where
  jobId := memory.jobId
  runId := memory.runId
  stage := (MessageMetadataStage.insertPages
    [⟨.source, memory.sourceMessages, memory.sourceFingerprints⟩,
      ⟨.destination, memory.destMessages, memory.destFingerprints⟩] .empty).toOption.getD
        .empty
  folderMapping := memory.folderMapping

/-! ## The same messages and bodies, staged and in memory -/

/-- The stage's key of a message. -/
def stagedKey (side : StagedMessageSide) (key : MailboxMessageKey) : StagedKey :=
  ⟨side, key.mailbox, uidvalidityColumn key.uidvalidity, key.uid⟩

theorem StagedRow.key_eq {parseDate : DateParser} (row : StagedRow parseDate) :
    row.key = stagedKey row.side row.messageKey := by
  rw [stagedKey, StagedRow.messageKey, column_uidvalidityOf row.uidvalidityRange,
    StagedRow.key]

theorem stagedKey_injective {side : StagedMessageSide} {key other : MailboxMessageKey}
    (same : stagedKey side key = stagedKey side other) : key = other := by
  obtain ⟨_, folder, validity, uid⟩ := StagedKey.mk.inj same
  have validity' := congrArg uidvalidityOf validity
  rw [uidvalidityOf_column, uidvalidityOf_column] at validity'
  cases key
  cases other
  simp_all

namespace MessageMetadataStage

variable {parseDate : DateParser} {side : StagedMessageSide} {fingerprints : Fingerprints}
  {stage stage' : MessageMetadataStage parseDate}

theorem insertFingerprint_eq {key : MailboxMessageKey}
    (inserted : insertFingerprint side fingerprints stage key = .ok stage') :
    stage'.fingerprints =
      stage.fingerprints.insert (stagedKey side key) (fingerprints.at key) := by
  obtain ⟨_, _, returned⟩ := bind_eq_ok.mp inserted
  obtain rfl := Except.ok.inj returned
  rfl

/-- Staging fingerprints writes those of the given keys and leaves all others. -/
theorem lookup_foldlM_insertFingerprint {keys : List MailboxMessageKey}
    (returned : keys.foldlM (insertFingerprint side fingerprints) stage = .ok stage')
    (staged : StagedKey) :
    (∀ key ∈ keys, staged = stagedKey side key →
        stage'.fingerprints.lookup staged = some (fingerprints.at key)) ∧
      ((∀ key ∈ keys, staged ≠ stagedKey side key) →
        stage'.fingerprints.lookup staged = stage.fingerprints.lookup staged) := by
  induction keys generalizing stage with
  | nil =>
    obtain rfl := Except.ok.inj returned
    exact ⟨fun _ membership => absurd membership List.not_mem_nil, fun _ => rfl⟩
  | cons first rest ih =>
    rw [List.foldlM_cons, bind_eq_ok] at returned
    obtain ⟨next, inserted, returned⟩ := returned
    obtain ⟨written, kept⟩ := ih returned
    have here := insertFingerprint_eq inserted
    constructor
    · intro key membership same
      by_cases again : key ∈ rest
      · exact written key again same
      · have isFirst : key = first := (List.mem_cons.mp membership).resolve_right again
        have notRest : ∀ other ∈ rest, staged ≠ stagedKey side other := by
          intro other inRest sameKey
          exact again (stagedKey_injective (same.symm.trans sameKey) ▸ inRest)
        rw [kept notRest, here, same, isFirst, AList.lookup_insert]
    · intro apart
      rw [kept fun other inRest => apart other (List.mem_cons_of_mem first inRest), here,
        AList.lookup_insert_ne (apart first List.mem_cons_self)]

theorem fingerprints_foldlM_insertMessage {messages : ExtractedMessages}
    {keys : List MailboxMessageKey}
    (returned : keys.foldlM (insertMessage side messages) stage = .ok stage') :
    stage'.fingerprints = stage.fingerprints := by
  induction keys generalizing stage with
  | nil =>
    obtain rfl := Except.ok.inj returned
    rfl
  | cons key rest ih =>
    rw [List.foldlM_cons, bind_eq_ok] at returned
    obtain ⟨next, inserted, returned⟩ := returned
    obtain rfl := insertMessage_eq inserted
    have sameFingerprints := ih returned
    exact sameFingerprints

/-- A page staged on a side without fingerprints leaves the fingerprints of the page
there, and does not touch the other side. -/
theorem insertPage_bodies {messages : ExtractedMessages}
    (unused : ∀ key, stage.fingerprints.lookup (stagedKey side key) = none)
    (returned : insertPageWithFingerprints side messages fingerprints stage = .ok stage') :
    (∀ key, stage'.fingerprints.lookup (stagedKey side key) = fingerprints.lookup key) ∧
      (∀ staged : StagedKey, staged.side ≠ side →
        stage'.fingerprints.lookup staged = stage.fingerprints.lookup staged) ∧
      ∀ staged ∈ stage'.fingerprints, staged ∈ stage.fingerprints ∨
        ∃ key, staged = stagedKey side key := by
  rw [insertPageWithFingerprints] at returned
  split_ifs at returned with orphaned
  · cases returned
  obtain ⟨middle, inserted, returned⟩ := bind_eq_ok.mp returned
  have before : middle.fingerprints = stage.fingerprints :=
    fingerprints_foldlM_insertMessage inserted
  have after := fun staged => lookup_foldlM_insertFingerprint returned staged
  refine ⟨?_, ?_, ?_⟩
  · intro key
    by_cases isKey : key ∈ fingerprints
    · obtain ⟨value, found⟩ := Option.isSome_iff_exists.mp (AList.lookup_isSome.mpr isKey)
      rw [(after _).1 key (AList.mem_keys.mp isKey) rfl, Fingerprints.at, found,
        Option.getD_some]
    · rw [(after _).2, before, unused, AList.lookup_eq_none.mpr isKey]
      intro other isOther same
      exact isKey (stagedKey_injective same ▸ AList.mem_keys.mpr isOther)
  · intro staged otherSide
    rw [(after staged).2, before]
    intro key _ same
    exact otherSide (congrArg StagedKey.side same)
  · intro staged present
    by_cases written : ∃ key ∈ fingerprints.keys, staged = stagedKey side key
    · obtain ⟨key, _, same⟩ := written
      exact .inr ⟨key, same⟩
    · refine .inl ?_
      have kept := (after staged).2 fun key isKey same => written ⟨key, isKey, same⟩
      rw [← AList.lookup_isSome] at present ⊢
      rw [← before, ← kept]
      exact present

end MessageMetadataStage

/-- The stage holds the messages and the body fingerprints of the maps. -/
structure BodiesStagedAs {platform : Platform} (memory : ContentInput)
    (staged : StagedInput platform) : Prop
    extends StagedAs memory.toReconciliationInput staged where
  jobId : staged.jobId = memory.jobId
  runId : staged.runId = memory.runId
  sourceBodies : ∀ key, staged.stage.fingerprints.lookup (stagedKey .source key) =
    memory.sourceFingerprints.lookup key
  destBodies : ∀ key, staged.stage.fingerprints.lookup (stagedKey .destination key) =
    memory.destFingerprints.lookup key
  columns : ∀ key ∈ staged.stage.fingerprints, -1 ≤ key.uidvalidity

namespace BodiesStagedAs

variable {platform : Platform} {memory : ContentInput} {staged : StagedInput platform}

/-- Two maps staged as one page each stand on the stage in key order, with their
bodies. -/
theorem of_insertPages {stage : MessageMetadataStage platform.parseDate}
    (returned : MessageMetadataStage.insertPages
      [⟨.source, memory.sourceMessages, memory.sourceFingerprints⟩,
        ⟨.destination, memory.destMessages, memory.destFingerprints⟩] .empty = .ok stage) :
    BodiesStagedAs memory (⟨memory.jobId, memory.runId, stage, memory.folderMapping⟩ :
      StagedInput platform) := by
  rw [MessageMetadataStage.insertPages, List.foldlM_cons, bind_eq_ok] at returned
  obtain ⟨middle, first, rest⟩ := returned
  rw [List.foldlM_cons, bind_eq_ok] at rest
  obtain ⟨last, second, finished⟩ := rest
  obtain rfl := Except.ok.inj finished
  obtain ⟨sourceRows, otherRows⟩ := MessageMetadataStage.insertPage_holds rfl first
  have noDestRows : middle.sideRows .destination = [] :=
    List.map_eq_nil_iff.mp (otherRows .destination StagedMessageSide.noConfusion)
  obtain ⟨destRows, keptRows⟩ := MessageMetadataStage.insertPage_holds noDestRows second
  obtain ⟨sourceBodies, otherBodies, columns⟩ :=
    MessageMetadataStage.insertPage_bodies (fun _ => rfl) first
  obtain ⟨destBodies, keptBodies, columns'⟩ :=
    MessageMetadataStage.insertPage_bodies
      (fun key => otherBodies (stagedKey .destination key) (by simp [stagedKey])) second
  constructor
  case toStagedAs =>
    refine ⟨rfl, ?_, destRows⟩
    exact (keptRows .source StagedMessageSide.noConfusion).trans sourceRows
  case jobId => rfl
  case runId => rfl
  case sourceBodies =>
    intro key
    exact (keptBodies (stagedKey .source key) (by simp [stagedKey])).trans (sourceBodies key)
  case destBodies => exact destBodies
  case columns =>
    intro key present
    rcases columns' key present with earlier | ⟨original, rfl⟩
    · rcases columns key earlier with absent | ⟨original, rfl⟩
      · exact absurd absent (AList.notMem_empty key)
      · exact uidvalidityColumn_range _
    · exact uidvalidityColumn_range _

/-- One side is covered on the stage exactly when it is covered in memory. -/
theorem sideCovered_iff (agree : BodiesStagedAs memory staged) {side : StagedMessageSide}
    {messages : ExtractedMessages} {fingerprints : Fingerprints}
    (keys : (staged.rows.filter (·.side = side)).map StagedRow.messageKey ⊆ messages.keys)
    (keys' : messages.keys ⊆ (staged.rows.filter (·.side = side)).map StagedRow.messageKey)
    (bodies : ∀ key, staged.stage.fingerprints.lookup (stagedKey side key) =
      fingerprints.lookup key) :
    staged.SideCovered side ↔ SameKeys messages fingerprints := by
  have known : ∀ key, stagedKey side key ∈ staged.stage.fingerprints ↔ key ∈ fingerprints := by
    intro key
    rw [← AList.lookup_isSome, ← AList.lookup_isSome, bodies]
  have isRow : ∀ key, stagedKey side key ∈ staged.rows.map StagedRow.key ↔
      key ∈ messages := by
    intro key
    rw [AList.mem_keys]
    constructor
    · intro membership
      obtain ⟨row, inRows, same⟩ := List.mem_map.mp membership
      have onSide : row.side = side := congrArg StagedKey.side same
      rw [row.key_eq, onSide] at same
      rw [← stagedKey_injective same]
      exact keys (List.mem_map_of_mem (List.mem_filter.mpr ⟨inRows, decide_eq_true onSide⟩))
    · intro membership
      obtain ⟨row, inSide, rfl⟩ := List.mem_map.mp (keys' membership)
      obtain ⟨inRows, onSide⟩ := List.mem_filter.mp inSide
      rw [← of_decide_eq_true onSide, ← row.key_eq]
      exact List.mem_map_of_mem inRows
  constructor
  · intro covered key
    rw [← known key, ← isRow key]
    exact covered (stagedKey side key) rfl
  · intro same key onSide
    have inRange : -1 ≤ key.uidvalidity →
        key = stagedKey side ⟨key.mailbox, uidvalidityOf key.uidvalidity, key.uid⟩ := by
      intro range
      rw [stagedKey, column_uidvalidityOf range, ← onSide]
    constructor
    · intro inFingerprints
      have asKey := inRange (agree.columns key inFingerprints)
      rw [asKey, known, same] at inFingerprints
      rw [asKey]
      exact (isRow _).mpr inFingerprints
    · intro inRows
      obtain ⟨row, isStaged, rfl⟩ := List.mem_map.mp inRows
      have asKey := inRange row.uidvalidityRange
      rw [asKey, isRow, ← same] at inRows
      rw [asKey]
      exact (known _).mpr inRows

theorem source_covered_iff (agree : BodiesStagedAs memory staged) :
    staged.SideCovered .source ↔
      SameKeys memory.sourceMessages memory.sourceFingerprints := by
  apply agree.sideCovered_iff _ _ agree.sourceBodies
  · intro key membership
    rw [← StagedInput.sourceRows, agree.sourceKeys] at membership
    exact mem_sortUnstable.mp membership
  · intro key membership
    rw [← StagedInput.sourceRows, agree.sourceKeys]
    exact mem_sortUnstable.mpr membership

theorem dest_covered_iff (agree : BodiesStagedAs memory staged) :
    staged.SideCovered .destination ↔
      SameKeys memory.destMessages memory.destFingerprints := by
  have keys : (staged.destRows.map StagedRow.messageKey).Perm memory.destinations := by
    rw [← agree.destinationKeys]
    exact (staged.destinations_perm.map _).symm
  apply agree.sideCovered_iff _ _ agree.destBodies
  · intro key membership
    exact mem_sortUnstable.mp (keys.mem_iff.mp membership)
  · intro key membership
    exact keys.mem_iff.mpr (mem_sortUnstable.mpr membership)

theorem sourceBody (agree : BodiesStagedAs memory staged)
    {row : StagedRow platform.parseDate} (isRow : row ∈ staged.sourceRows) :
    memory.sourceBody row.messageKey = staged.body row := by
  rw [StagedInput.body, row.key_eq, (staged.mem_sourceRows.mp isRow).2, agree.sourceBodies]
  rfl

theorem destBody (agree : BodiesStagedAs memory staged)
    {row : StagedRow platform.parseDate} (isRow : row ∈ staged.destinations) :
    memory.destBody row.messageKey = staged.body row := by
  have onSide := (staged.mem_destRows.mp (staged.mem_destinations.mp isRow)).2
  rw [StagedInput.body, row.key_eq, onSide, agree.destBodies]
  rfl

/-- Records of the same rows are the same. -/
theorem mismatch_eq (agree : BodiesStagedAs memory staged) (kind : MismatchType)
    (source destination : Option (StagedRow platform.parseDate))
    (isSource : ∀ row ∈ source, row ∈ staged.sourceRows)
    (isDestination : ∀ row ∈ destination, row ∈ staged.destinations) :
    memory.mismatch platform kind (source.map StagedRow.messageKey)
        (destination.map StagedRow.messageKey) =
      staged.mismatch kind source destination := by
  have sources : ∀ {γ : Type} (field : ExtractedMessage → Option γ),
      (∀ row ∈ source, field (memory.sourceMessages.at row.messageKey) =
        field row.message) →
      ((source.map StagedRow.messageKey).map memory.sourceMessages.at).bind field =
        (source.map StagedRow.message).bind field := by
    intro γ field same
    cases source with
    | none => rfl
    | some row => exact same row rfl
  have destinations : ∀ {γ : Type} (field : ExtractedMessage → Option γ),
      (∀ row ∈ destination, field (memory.destMessages.at row.messageKey) =
        field row.message) →
      ((destination.map StagedRow.messageKey).map memory.destMessages.at).bind field =
        (destination.map StagedRow.message).bind field := by
    intro γ field same
    cases destination with
    | none => rfl
    | some row => exact same row rfl
  have sourceStands := fun row named => agree.sourceRow (isSource row named)
  have destStands := fun row named => agree.destinationRow (isDestination row named)
  rw [ReconciliationInput.mismatch, StagedInput.mismatch, makeMismatch, makeMismatch,
    sources _ fun row named => (sourceStands row named).messageId.symm,
    sources _ fun row named => (sourceStands row named).sizeBytes.symm,
    sources _ fun row named => (sourceStands row named).internalDate.symm,
    destinations _ fun row named => (destStands row named).messageId.symm,
    destinations _ fun row named => (destStands row named).sizeBytes.symm,
    destinations _ fun row named => (destStands row named).internalDate.symm,
    agree.jobId, agree.runId]

section Agreement

variable (agree : BodiesStagedAs memory staged)
  (alike : ∀ message ∈ memory.messages, ∀ message' ∈ memory.messages,
    SpelledAlike message message')
  (complete : memory.sourceMessages.Complete)

include agree alike complete

theorem placed : SamePattern
    (fun row : StagedRow platform.parseDate => row.sourceProfile.strictClass)
    (fun row : StagedRow platform.parseDate => row.destProfile.strictClass)
    (fun row => (memory.sourceProfile platform row.messageKey).looseClass)
    (fun row => (memory.destProfile platform row.messageKey).looseClass)
    staged.sourceRows staged.destinations :=
  (agree.names alike).placementPattern fun _ isRow =>
    agree.toStagedAs.sourceRows_complete complete isRow

/-- Both passes have the same counters. -/
theorem contentSummary_eq :
    staged.contentSummary = (memory.contentOutcome platform).summary := by
  have names := agree.names alike
  have placed := agree.placed alike complete
  have keys := agree.sourceKeys
  have keys' := agree.destinationKeys
  have bodies : ∀ row ∈ staged.sourceRows,
      memory.sourceBody row.messageKey = staged.body row :=
    fun row isRow => agree.sourceBody isRow
  have bodies' : ∀ row ∈ staged.destinations,
      memory.destBody row.messageKey = staged.body row :=
    fun row isRow => agree.destBody isRow
  have metadata := agree.toStagedAs.summary_eq alike complete
  have exactLength := (Reconciliation.exact_renamed staged.reconciliation
    (memory.reconciliation platform) names placed keys keys').length_eq
  have differing := (Reconciliation.differing_renamed staged.reconciliation
    (memory.reconciliation platform) names placed keys keys' bodies bodies').length_eq
  have split := (staged.reconciliation.exact_split staged.body staged.body).length_eq
  have split' := ((memory.reconciliation platform).exact_split memory.sourceBody
    memory.destBody).length_eq
  have fallback := congrArg List.length (Reconciliation.fallback_renamed
    staged.reconciliation (memory.reconciliation platform) names placed keys keys' bodies
    bodies')
  have missing := congrArg List.length (Reconciliation.stillMissing_renamed
    staged.reconciliation (memory.reconciliation platform) names placed keys keys' bodies
    bodies')
  have extra := congrArg List.length (Reconciliation.stillExtra_renamed
    staged.reconciliation (memory.reconciliation platform) names placed keys keys' bodies
    bodies')
  have changed := (Reconciliation.changed_renamed staged.reconciliation
    (memory.reconciliation platform) names placed keys keys').length_eq
  have misplaced := (Reconciliation.misplaced_renamed staged.reconciliation
    (memory.reconciliation platform) names placed keys keys').length_eq
  rw [List.length_map] at exactLength differing fallback missing extra changed misplaced
  rw [List.length_append] at split split'
  have confirmed : (staged.reconciliation.confirmed staged.body staged.body).length =
      ((memory.reconciliation platform).confirmed memory.sourceBody
        memory.destBody).length := by
    omega
  simp only [StagedInput.contentSummary, ContentInput.contentOutcome, List.length_append,
    metadata, confirmed, fallback, missing, extra, changed, misplaced, differing]

/-- Both passes keep the same records of the metadata pass. -/
theorem retained_perm (covered : staged.Covered) :
    staged.retainedList.Perm (memory.retainedList platform) := by
  have kept := Reconciliation.keptRecords_renamed staged.reconciliation
    (memory.reconciliation platform) (agree.names alike) (agree.placed alike complete)
    agree.sourceKeys agree.destinationKeys (fun _ isRow => agree.sourceBody isRow)
    (fun _ isRow => agree.destBody isRow)
  refine covered.retainedList_perm.trans (List.Perm.trans ?_ (kept.map _).symm)
  rw [List.map_map]
  refine List.Perm.of_eq (List.map_congr_left ?_)
  intro record isKept
  rw [← staged.reconciliation.filter_survives staged.body staged.body
    (List.Perm.refl _)] at isKept
  have isRecord := (List.mem_filter.mp isKept).1
  refine (agree.mismatch_eq record.1 _ _ ?_ ?_).symm
  · intro row named
    exact staged.reconciliation.source_of_record staged.sourceRows_nodup isRecord named
  · intro row named
    exact staged.reconciliation.destination_of_record staged.destinations_nodup isRecord named

/-- Both passes report the same differing pairs. -/
theorem differences_perm :
    (staged.differences.map staged.contentMismatch).Perm
      ((memory.differingOf (memory.orderedPairs platform)).map
        (memory.differingRecord platform)) := by
  have renamed := Reconciliation.differing_renamed staged.reconciliation
    (memory.reconciliation platform) (agree.names alike) (agree.placed alike complete)
    agree.sourceKeys agree.destinationKeys (fun _ isRow => agree.sourceBody isRow)
    (fun _ isRow => agree.destBody isRow)
  have own := ((memory.differingOf_perm platform).trans renamed).map
    (memory.differingRecord platform)
  refine ((orderBy_perm _ _).map _).trans (List.Perm.trans ?_ own.symm)
  rw [List.map_map, List.map_map]
  refine List.Perm.of_eq (List.map_congr_left ?_)
  intro pair isDiffering
  have isExact := (List.mem_filter.mp isDiffering).1
  have isSource : pair.1 ∈ staged.sourceRows := staged.classwise_exactPairs.mem_left isExact
  have isDestination : pair.2 ∈ staged.destinations :=
    staged.classwise_exactPairs.mem_right isExact
  have sameRecord := agree.mismatch_eq .messageIdOnly (some pair.1)
    (some pair.2) (fun row named => Option.some.inj named ▸ isSource)
    (fun row named => Option.some.inj named ▸ isDestination)
  have record : memory.differingRecord platform (pair.1.messageKey, pair.2.messageKey) =
      { memory.mismatch platform .messageIdOnly (some pair.1.messageKey)
          (some pair.2.messageKey) with
        sourceFingerprint := some (memory.sourceBody pair.1.messageKey)
        destinationFingerprint := some (memory.destBody pair.2.messageKey) } := rfl
  change staged.contentMismatch (staged.fingerprinted pair) =
    memory.differingRecord platform (pair.1.messageKey, pair.2.messageKey)
  rw [record, agree.sourceBody isSource, agree.destBody isDestination]
  rw [Option.map_some, Option.map_some] at sameRecord
  rw [sameRecord]
  rfl

end Agreement

end BodiesStagedAs

/-- The durable content pass agrees with the ephemeral one.  With full coverage it
returns, and where the in-memory pass stays within its budgets both have the same counters
and the same mismatch records; without full coverage both fail with the same error. -/
theorem content_passes_agree {platform : Platform} {memory : ContentInput}
    {staged : StagedInput platform} (agree : BodiesStagedAs memory staged)
    (complete : memory.sourceMessages.Complete)
    (alike : ∀ message ∈ memory.messages, ∀ message' ∈ memory.messages,
      SpelledAlike message message') :
    (memory.Covered → ∃ tables, reconcileStageWithContentFingerprints staged = .ok tables ∧
      ∀ mismatches summary,
        detectMismatchesWithContentFingerprints platform memory = .ok (mismatches, summary) →
          tables.summary = summary ∧ tables.mismatches.Perm mismatches) ∧
    (¬memory.Covered → ∃ error,
      reconcileStageWithContentFingerprints staged = .error error ∧
        detectMismatchesWithContentFingerprints platform memory = .error error) := by
  classical
  constructor
  · intro covered
    have stagedCovered : staged.Covered := ⟨agree.source_covered_iff.mpr covered.source,
      agree.dest_covered_iff.mpr covered.dest⟩
    refine ⟨staged.contentOutcome, staged.reconcileStageWithContentFingerprints_ok_iff.mpr
      ⟨stagedCovered, rfl⟩, ?_⟩
    intro mismatches summary returned
    obtain ⟨_, _, result⟩ := (memory.detect_ok_iff platform).mp returned
    obtain ⟨rfl, rfl⟩ := Prod.mk.inj result
    rw [staged.contentOutcome_summary]
    exact ⟨agree.contentSummary_eq alike complete,
      (agree.retained_perm alike complete stagedCovered).append
        (agree.differences_perm alike complete)⟩
  · intro uncovered
    rw [staged.reconcileStageWithContentFingerprints_eq,
      detectMismatchesWithContentFingerprints, ContentInput.refineByContent,
      checkCoverage_eq, checkCoverage_eq]
    by_cases source : SameKeys memory.sourceMessages memory.sourceFingerprints
    · have dest : ¬SameKeys memory.destMessages memory.destFingerprints := fun dest =>
        uncovered ⟨source, dest⟩
      rw [if_pos (agree.source_covered_iff.mpr source),
        if_neg (mt agree.dest_covered_iff.mp dest), if_pos source, if_neg dest]
      exact ⟨_, rfl, rfl⟩
    · rw [if_neg (mt agree.source_covered_iff.mp source), if_neg source]
      exact ⟨_, rfl, rfl⟩

theorem bodiesInput_staged :
    BodiesStagedAs bodiesInput (stagedBodies plainPlatform bodiesInput) :=
  BodiesStagedAs.of_insertPages rfl

theorem bodiesInput_agrees :
    ∃ tables mismatches summary,
      reconcileStageWithContentFingerprints (stagedBodies plainPlatform bodiesInput) =
        .ok tables ∧
      detectMismatchesWithContentFingerprints plainPlatform bodiesInput =
        .ok (mismatches, summary) ∧
      tables.summary = summary ∧ tables.mismatches.Perm mismatches ∧
      summary.changedCount = 1 := by
  have returned := (bodiesInput.detect_ok_iff plainPlatform).mpr
    ⟨bodiesInput_covered, bodiesInput_withinBudgets, rfl⟩
  obtain ⟨tables, reconciled, same⟩ := (content_passes_agree bodiesInput_staged (by decide)
    (by decide)).1 bodiesInput_covered
  obtain ⟨summary, mismatches⟩ := same _ _ returned
  exact ⟨tables, _, _, reconciled, returned, summary, mismatches, by decide⟩

/-- The padded Message-ID again, with equal bodies. -/
def paddedBodies : ContentInput where
  toReconciliationInput := paddedInput
  sourceFingerprints := [⟨⟨"INBOX", none, "1"⟩, "body"⟩].toAList
  destFingerprints := [⟨⟨"INBOX", none, "1"⟩, "body"⟩].toAList

/-- The maps match the two messages exactly, the stage only by their metadata. -/
theorem paddedBodies_disagree :
    BodiesStagedAs paddedBodies (stagedBodies plainPlatform paddedBodies) ∧
      paddedBodies.sourceMessages.Complete ∧ paddedBodies.destMessages.Complete ∧
      ∃ tables mismatches summary,
        reconcileStageWithContentFingerprints (stagedBodies plainPlatform paddedBodies) =
          .ok tables ∧
        detectMismatchesWithContentFingerprints plainPlatform paddedBodies =
          .ok (mismatches, summary) ∧
        summary.metadataMatches = 1 ∧ tables.summary.metadataMatches = 0 ∧
        tables.summary.probableMatches = 1 := by
  have staged : BodiesStagedAs paddedBodies (stagedBodies plainPlatform paddedBodies) :=
    BodiesStagedAs.of_insertPages rfl
  have covered : paddedBodies.Covered := ⟨.of_keys rfl, .of_keys rfl⟩
  have stagedCovered : (stagedBodies plainPlatform paddedBodies).Covered :=
    ⟨staged.source_covered_iff.mpr covered.source, staged.dest_covered_iff.mpr covered.dest⟩
  refine ⟨staged, by decide, by decide, _, _, _,
    (stagedBodies plainPlatform paddedBodies).reconcileStageWithContentFingerprints_ok_iff.mpr
      ⟨stagedCovered, rfl⟩,
    (paddedBodies.detect_ok_iff plainPlatform).mpr
      ⟨covered, ⟨⟨by decide, by decide⟩, by decide⟩, rfl⟩, by decide, by decide, by decide⟩

/-- The resent messages and their copies are partners with one body, in memory and on the stage. -/
theorem resentInput_partners :
    (∃ partner : {key // key ∈ resentInput.sourceMessages} ≃
        {key // key ∈ resentInput.destMessages}, ∀ key,
      (partner key).1.mailbox = expectedDestinationFolder key.1 resentInput.folderMapping ∧
        ∃ body, resentInput.sourceFingerprints.lookup key.1 = some body ∧
          resentInput.destFingerprints.lookup (partner key).1 = some body) ∧
      ∃ partner : {row // row ∈ (stagedBodies plainPlatform resentInput).sourceRows} ≃
        {row // row ∈ (stagedBodies plainPlatform resentInput).destRows}, ∀ row, ∃ body,
        (stagedBodies plainPlatform resentInput).stage.fingerprints.lookup row.1.key = some body ∧
          (stagedBodies plainPlatform resentInput).stage.fingerprints.lookup
            (partner row).1.key = some body := by
  have staged : BodiesStagedAs resentInput (stagedBodies plainPlatform resentInput) :=
    BodiesStagedAs.of_insertPages rfl
  have stagedCovered : (stagedBodies plainPlatform resentInput).Covered :=
    ⟨staged.source_covered_iff.mpr resentInput_covered.source,
      staged.dest_covered_iff.mpr resentInput_covered.dest⟩
  obtain ⟨inMemory, onStage⟩ := body_verification_sound plainPlatform
  obtain ⟨partner, facts⟩ := inMemory resentInput _ _
    ((resentInput.detect_ok_iff plainPlatform).mpr
      ⟨resentInput_covered, resentInput_withinBudgets, rfl⟩) (by decide)
  obtain ⟨partner', facts'⟩ := onStage _ _
    ((stagedBodies plainPlatform resentInput).reconcileStageWithContentFingerprints_ok_iff.mpr
      ⟨stagedCovered, rfl⟩) (by decide)
  exact ⟨⟨partner, fun key => ⟨(facts key).1, (facts key).2.1⟩⟩, partner',
    fun row => (facts' row).2.1⟩

end MailSwiftSync
