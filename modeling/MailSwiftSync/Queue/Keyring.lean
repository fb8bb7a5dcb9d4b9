import Mathlib.Data.List.ReduceOption
import MailSwiftSync.Foundation.Mapping
import MailSwiftSync.Ledger.Runs
import MailSwiftSync.Queue.Rebuilding

/-!
# Imported queues over time

An imported queue gives its profiles back at any later time.  Of all operations only the keyring
calls of its project change what a row is read back as, and they fill in credential references
that are missing.
-/

namespace MailSwiftSync.Queue

open Foundation

variable {codec : PlanCodec} {platform : LedgerPlatform} {before after next ledger : Ledger}
  {labels : JobId → String} {projectId : ProjectId} {jobId : JobId} {defaults profile : Profile}
  {shared : BatchPlanDefaults} {jobs : List BulkJob}

/-! ## Rows of an import -/

/-- What an import writes for a job. -/
structure Wrote (codec : PlanCodec) (shared : BatchPlanDefaults) (job : BulkJob)
    (row : Ledger.QueueInsert) : Prop where
  plan : ∃ allocation text, row.batchPlanConfig = some ⟨allocation, text⟩ ∧
    codec.encodeProfile shared.profile.blanked = .ok text
  overrides : ∃ text, row.rowOverrides = some text ∧
    codec.encodeOverrides (rowOverrides job.profile shared.profile) = .ok text

theorem wrote_of_queueInsert {plans : List String} {job : BulkJob} {plan : String}
    {row : Ledger.QueueInsert} (imported : Imported shared job)
    (planned : durableBatchPlanConfig codec job.defaults.profile = .ok plan)
    (inserted : queueInsert codec platform plans job plan = .ok row) :
    Wrote codec shared job row := by
  rw [imported.defaults] at planned
  simp only [queueInsert, bind_eq_ok, pure_eq_ok, durableBatchRowOverrides, mapError_eq_ok,
    imported.defaults] at inserted
  obtain ⟨text, encoded, rfl⟩ := inserted
  exact ⟨⟨_, plan, rfl, mapError_eq_ok.mp planned⟩, ⟨text, rfl, encoded⟩⟩

theorem wrote_of_importedRows {rows : List Ledger.QueueInsert}
    (imported : ∀ job ∈ jobs, Imported shared job)
    (written : importedRows codec platform jobs = .ok rows) :
    List.Forall₂ (Wrote codec shared) jobs rows := by
  simp only [importedRows] at written
  split at written
  · cases written
  · simp only [bind_eq_ok] at written
    obtain ⟨_, _, _, _, plans, planned, inserted⟩ := written
    have each := forall₂_of_zip (mapM_eq_ok.mp planned) (mapM_eq_ok.mp inserted)
    have known := (List.forall₂_and_left _ _).mpr ⟨imported, each⟩
    exact known.imp fun job row ⟨isImported, plan, isPlan, isRow⟩ =>
      wrote_of_queueInsert isImported isPlan isRow

/-- The text of a row's plan is that of the shared one. -/
theorem Wrote.planText {job : BulkJob} {row : Ledger.QueueInsert}
    (wrote : Wrote codec shared job row) :
    codec.encodeProfile shared.profile.blanked = .ok row.planText := by
  obtain ⟨allocation, text, plan, encoded⟩ := wrote.plan
  rw [Ledger.QueueInsert.planText, plan]
  exact encoded

/-! ## Rows in the ledger -/

/-- The row with an identifier stores a profile. -/
def Tracks (codec : PlanCodec) (ledger : Ledger) (projectId : ProjectId) (jobId : JobId)
    (defaults profile : Profile) : Prop :=
  ∃ mailbox ∈ ledger.jobs, mailbox.id = jobId ∧ mailbox.projectId = projectId ∧
    Stores codec ledger defaults profile mailbox

/-- Every job of an import has its row. -/
theorem tracks_of_import {newJobId : Nat → JobId} {newPlanId : Nat → String}
    {queue : ImportedQueue} (roundTrips : codec.RoundTrips)
    (imported : ∀ job ∈ jobs, Imported shared job)
    (persisted : persistImportedQueue codec platform ledger jobs projectId newJobId newPlanId =
      .ok (queue, next)) :
    ∀ numbered ∈ jobs.zipIdx, Tracks codec next projectId (newJobId numbered.2) shared.profile
      numbered.1.profile := by
  simp only [persistImportedQueue, bind_eq_ok, pure_eq_ok, mapError_eq_ok] at persisted
  obtain ⟨rows, written, stored, accepted, same⟩ := persisted
  cases same
  have wrote := wrote_of_importedRows imported written
  have sameText : ∀ row ∈ rows, ∀ other ∈ rows, row.planText = other.planText := by
    intro row isRow other isOther
    obtain ⟨_, _, isWrote⟩ := exists_of_forall₂ wrote.flip row isRow
    obtain ⟨_, _, otherWrote⟩ := exists_of_forall₂ wrote.flip other isOther
    exact Except.ok.inj (isWrote.planText.symm.trans otherWrote.planText)
  have sameConfig : ∀ row ∈ rows, ∀ other ∈ rows, ∀ plan ∈ row.batchPlanConfig,
      ∀ second ∈ other.batchPlanConfig, plan.config = second.config := by
    intro row isRow other isOther plan isPlan second isSecond
    have same := sameText row isRow other isOther
    rwa [Ledger.QueueInsert.planText, Ledger.QueueInsert.planText, isPlan, isSecond] at same
  have found := Ledger.createBatchQueue_stored
    (fun row isRow other isOther plan isPlan second isSecond _ =>
      sameConfig row isRow other isOther plan isPlan second isSecond)
    (fun row isRow other isOther plan isPlan second isSecond _ =>
      sameConfig row isRow other isOther plan isPlan second isSecond) accepted
  intro numbered isNumbered
  obtain ⟨row, isRow, sameIndex, isWrote⟩ := exists_of_forall₂ (forall₂_zipIdx 0 wrote) numbered
    isNumbered
  obtain ⟨mailbox, isMailbox, ofId, ofProject, overrides, isText, fits⟩ := found row isRow
  obtain ⟨text, isOverrides, encoded⟩ := isWrote.overrides
  rw [sameIndex]
  exact ⟨mailbox, isMailbox, ofId, ofProject,
    ⟨_, isText, fits, roundTrips.profile _ _ isWrote.planText⟩,
    ⟨text, overrides.trans isOverrides, roundTrips.overrides _ _ encoded⟩⟩

/-- The text of a plan stays, when no plan was lost. -/
theorem planText_kept {operation : Operation}
    (step : Ledger.Step platform before operation after) {old mailbox : MailboxJob} {text : String}
    (same : Ledger.SamePlan old mailbox) (isText : before.planText old = some text) :
    after.planText mailbox = some text := by
  rw [Ledger.planText] at isText ⊢
  rw [same.config, same.batchPlanId]
  cases config : old.config with
  | some own => rwa [config] at isText
  | none =>
    rw [config, Option.none_or, Option.map_eq_some_iff] at isText
    obtain ⟨plan, found, isConfig⟩ := isText
    obtain ⟨planId, isPlanId, found⟩ := Option.bind_eq_some_iff.mp found
    obtain ⟨isPlan, sameId⟩ := Table.find_eq_some.mp found
    have kept := Table.find_eq_some.mpr ⟨step.plans_kept plan isPlan, sameId⟩
    rw [isPlanId, Option.bind_some, kept, ← isConfig]
    rfl

/-- What keeps the columns of a plan keeps the stored profile, but for its own fields. -/
theorem Stores.moved {operation : Operation} (step : Ledger.Step platform before operation after)
    {old mailbox : MailboxJob} {text : String} {changed : Profile}
    (stores : Stores codec before defaults profile old) (same : Ledger.SamePlan old mailbox)
    (isText : mailbox.rowOverrides = some text)
    (decoded : codec.decodeOverrides text = .ok (rowOverrides changed defaults)) :
    Stores codec after defaults changed mailbox where
  plan := by
    obtain ⟨plan, isPlan, facts⟩ := stores.plan
    exact ⟨plan, planText_kept step same isPlan, facts⟩
  overrides := ⟨text, isText, decoded⟩

/-- Where the row of a mailbox is after a step. -/
theorem exists_moved {operation : Operation} (sound : before.ownership.Sound)
    (step : Ledger.DisciplinedStep platform before operation after) {old : MailboxJob}
    (isOld : old ∈ before.jobs) : ∃ mailbox ∈ after.jobs, mailbox.id = old.id ∧
      mailbox.projectId = old.projectId := by
  have known : (old.id, old.projectId) ∈ before.ownership.mailboxes := ⟨old, isOld, rfl, rfl⟩
  exact (step.ownership sound).mailbox_kept known

/-- Only the replacement of a row's own fields changes its profile. -/
theorem Tracks.step {operation : Operation} (tracks : Tracks codec before projectId jobId defaults
      profile) (sound : before.ownership.Sound)
    (step : Ledger.DisciplinedStep platform before operation after)
    (notReplanned : jobId ∉ operation.replannedJobs) :
    Tracks codec after projectId jobId defaults profile := by
  obtain ⟨old, isOld, ofId, ofProject, stores⟩ := tracks
  obtain ⟨mailbox, isMailbox, sameId, sameProject⟩ := exists_moved sound step isOld
  refine ⟨mailbox, isMailbox, sameId.trans ofId, sameProject.trans ofProject, ?_⟩
  cases step.2.planChange isMailbox with
  | new fresh => exact absurd sameId.symm (fresh old isOld)
  | kept other isOther same sameOverrides =>
    have isSame := Table.eq_of_key isOther isOld (same.id.symm.trans sameId)
    rw [isSame] at same sameOverrides
    obtain ⟨text, isText, decoded⟩ := stores.overrides
    exact stores.moved step.2 same (sameOverrides.trans isText) decoded
  | replanned _ _ _ isReplanned =>
    rw [sameId, ofId] at isReplanned
    exact absurd isReplanned notReplanned

/-! ## Keyring calls -/

end MailSwiftSync.Queue

namespace MailSwiftSync.Ledger

open Foundation

variable {before after : Ledger} {projectId : ProjectId}

/-- Named rows get a text they were given, other rows stay. -/
theorem updateQueuePlans_exact {updates : List (JobId × String)}
    (accepted : before.updateQueuePlans projectId updates = .ok after) :
    ∀ job ∈ after.jobs, ∃ old ∈ before.jobs, old.id = job.id ∧
      ((job.id ∉ updates.map Prod.fst ∧ job = old) ∨
        ∃ overrides, (job.id, overrides) ∈ updates ∧ job = changedJob (replan overrides) old) := by
  simp only [updateQueuePlans, bind_eq_ok, require_eq_ok, exists_const] at accepted
  refine foldlM_invariant (motive := fun done (current : Ledger) =>
    ∀ job ∈ current.jobs, ∃ old ∈ before.jobs, old.id = job.id ∧
      ((job.id ∉ done.map Prod.fst ∧ job = old) ∨
        ∃ overrides, (job.id, overrides) ∈ done ∧ job = changedJob (replan overrides) old))
    (fun job isJob => ⟨job, isJob, rfl, .inl ⟨by simp, rfl⟩⟩) ?_ accepted.2.2
  intro done update current next held updated job isJob
  obtain ⟨_, rfl⟩ := updateQueuePlan_ok updated
  have isJob : job ∈ (current.setJobs (·.id = update.1) (replan update.2)).jobs := isJob
  obtain ⟨between, isBetween, rfl⟩ := mem_setJobs.mp isJob
  obtain ⟨old, isOld, sameId, earlier⟩ := held between isBetween
  refine ⟨old, isOld, ?_⟩
  split
  · next hit =>
      have named : (between.id, update.2) ∈ done ++ [update] := by
        rw [of_decide_eq_true hit]
        exact List.mem_append_right _ List.mem_cons_self
      refine ⟨sameId, .inr ⟨update.2, named, ?_⟩⟩
      cases earlier with
      | inl same => rw [same.2]
      | inr replanned =>
        obtain ⟨_, _, rfl⟩ := replanned
        rfl
  · next missed =>
      refine ⟨sameId, earlier.imp (fun same => ⟨?_, same.2⟩) fun replanned => ?_⟩
      · rw [List.map_append, List.mem_append, not_or]
        refine ⟨same.1, fun isLast => ?_⟩
        exact missed (decide_eq_true (List.mem_singleton.mp isLast))
      · obtain ⟨overrides, isUpdate, isJob⟩ := replanned
        exact ⟨overrides, List.mem_append_left _ isUpdate, isJob⟩

end MailSwiftSync.Ledger

namespace MailSwiftSync.Queue

open Foundation

variable {codec : PlanCodec} {platform : LedgerPlatform} {before after next ledger : Ledger}
  {labels : JobId → String} {projectId : ProjectId} {jobId : JobId} {defaults profile : Profile}
  {credentialId : String} {source : Bool} {secrets : SessionSecrets}

/-- A keyring call passes rows over that have a password or a reference on its side. -/
def keepsReference (profile : Profile) (source : Bool) (secrets : SessionSecrets)
    (jobId : JobId) : Bool :=
  sideHasPassword secrets source jobId || trim (profile.reference source) ≠ ""

/-- What a keyring call makes of a row. -/
theorem Stores.keyringUpdate {mailbox : MailboxJob}
    (stores : Stores codec ledger defaults profile mailbox) (shares : Shares defaults profile)
    {update : Option (JobId × String)}
    (read : keyringUpdate codec credentialId source secrets
      (queuePlanRow ledger labels projectId mailbox) = .ok update) :
    (keepsReference profile source secrets mailbox.id = true ∧ update = none) ∨
    (keepsReference profile source secrets mailbox.id = false ∧ ∃ text,
      update = some (mailbox.id, text) ∧
        codec.encodeOverrides (rowOverrides (profile.refer source credentialId) defaults) =
          .ok text) := by
  have sameReference : ({ profile with extraOptions := "" } : Profile).reference source =
      profile.reference source := rfl
  rw [Queue.keyringUpdate, queuePlanRow, stores.plan_read, ok_bind, stores.overridden shares,
    ok_bind, sameReference] at read
  cases keeps : keepsReference profile source secrets mailbox.id with
  | true =>
    rw [keepsReference] at keeps
    rw [if_pos keeps] at read
    exact .inl ⟨rfl, (pure_eq_ok.mp read).symm⟩
  | false =>
    rw [keepsReference] at keeps
    rw [if_neg (ne_true_of_eq_false keeps)] at read
    simp only [durableBatchRowOverrides, rowOverrides_refer, bind_eq_ok, mapError_eq_ok,
      pure_eq_ok] at read
    obtain ⟨text, encoded, rfl⟩ := read
    exact .inr ⟨rfl, text, rfl, encoded⟩

/-- The updates of a keyring call are those of the project's rows. -/
theorem mem_updates {rows : List QueuePlanRow} {found : List (Option (JobId × String))}
    (read : List.Forall₂ (fun row update =>
      keyringUpdate codec credentialId source secrets row = .ok update) rows found)
    {update : JobId × String} (isUpdate : update ∈ found.reduceOption) :
    ∃ row ∈ rows, row.id = update.1 ∧
      keyringUpdate codec credentialId source secrets row = .ok (some update) := by
  rw [List.reduceOption_mem_iff] at isUpdate
  obtain ⟨row, isRow, isRead⟩ := exists_of_forall₂ read.flip _ isUpdate
  refine ⟨row, isRow, ?_, isRead⟩
  simp only [keyringUpdate, bind_eq_ok] at isRead
  obtain ⟨_, _, _, _, isRead⟩ := isRead
  split at isRead
  · cases isRead
  · simp only [bind_eq_ok, pure_eq_ok] at isRead
    obtain ⟨_, _, same⟩ := isRead
    cases same
    rfl

/-- What happens to a queue after its import. -/
inductive QueueAction where
  | ledger (operation : Operation)
  | keyring (projectId : ProjectId) (credentialId : String) (source : Bool)
      (secrets : SessionSecrets)

/-- An accepted operation, called as the program calls it, or a keyring call.  Only keyring calls
replace the fields of rows. -/
inductive QueueStep (codec : PlanCodec) (platform : LedgerPlatform) (labels : JobId → String)
    (before : Ledger) : QueueAction → Ledger → Prop where
  | ledger {operation : Operation} {after : Ledger} (keepsFields : operation.replannedJobs = [])
      (step : Ledger.DisciplinedStep platform before operation after) :
      QueueStep codec platform labels before (.ledger operation) after
  | keyring {projectId : ProjectId} {credentialId : String} {source : Bool}
      {secrets : SessionSecrets} {count : Nat} {after : Ledger}
      (updated : applyKeyringToQueue codec before labels projectId credentialId source secrets =
        .ok (count, after)) :
      QueueStep codec platform labels before (.keyring projectId credentialId source secrets) after

/-- The profile of a row after an action. -/
def keyed (projectId : ProjectId) (jobId : JobId) (profile : Profile) : QueueAction → Profile
  | .ledger _ => profile
  | .keyring project credentialId source secrets =>
    if project = projectId && !keepsReference profile source secrets jobId then
      profile.refer source credentialId
    else profile

theorem Shares.keyed (shares : Shares defaults profile) (projectId : ProjectId) (jobId : JobId)
    (action : QueueAction) : Shares defaults (Queue.keyed projectId jobId profile action) := by
  cases action with
  | ledger _ => exact shares
  | keyring project credentialId source secrets =>
    rw [Queue.keyed]
    split
    · exact shares.refer source credentialId
    · exact shares

/-- What a keyring call writes for a row: nothing, or the row with the new reference. -/
structure Rewrites (codec : PlanCodec) (project projectId : ProjectId) (jobId : JobId)
    (defaults profile : Profile) (credentialId : String) (source : Bool) (secrets : SessionSecrets)
    (updates : List (JobId × String)) : Prop where
  named : ∀ text, (jobId, text) ∈ updates → project = projectId ∧
    keepsReference profile source secrets jobId = false ∧
      codec.encodeOverrides (rowOverrides (profile.refer source credentialId) defaults) = .ok text
  unnamed : jobId ∉ updates.map Prod.fst → ¬(project = projectId ∧
    keepsReference profile source secrets jobId = false)

/-- The updates of a keyring call concern a row as they should. -/
theorem Stores.rewrites {mailbox : MailboxJob} {project : ProjectId}
    {found : List (Option (JobId × String))}
    (stores : Stores codec ledger defaults profile mailbox) (shares : Shares defaults profile)
    (isMailbox : mailbox ∈ ledger.jobs)
    (read : List.Forall₂ (fun row update =>
      Queue.keyringUpdate codec credentialId source secrets row = .ok update)
        (queuePlanScan ledger labels project) found) :
    Rewrites codec project mailbox.projectId mailbox.id defaults profile credentialId source secrets
      found.reduceOption where
  named := by
    intro text isUpdate
    obtain ⟨row, isRow, sameId, isRead⟩ := mem_updates read isUpdate
    obtain ⟨job, isJob, rfl⟩ := List.mem_map.mp isRow
    obtain ⟨isJob, ofProject⟩ := Table.mem_select.mp isJob
    have isSame : job = mailbox := Table.eq_of_key isJob isMailbox sameId
    rw [isSame] at isRead ofProject
    cases stores.keyringUpdate shares isRead with
    | inl kept => cases kept.2
    | inr changed =>
      obtain ⟨missing, other, same, encoded⟩ := changed
      cases same
      exact ⟨(of_decide_eq_true ofProject).symm, missing, encoded⟩
  unnamed := by
    intro absent ⟨ofProject, missing⟩
    have isRow : queuePlanRow ledger labels project mailbox ∈
        queuePlanScan ledger labels project :=
      List.mem_map_of_mem (Table.mem_select.mpr ⟨isMailbox, decide_eq_true ofProject.symm⟩)
    obtain ⟨update, isUpdate, isRead⟩ := exists_of_forall₂ read _ isRow
    cases stores.keyringUpdate shares isRead with
    | inl kept =>
      rw [missing] at kept
      cases kept.1
    | inr changed =>
      obtain ⟨_, text, rfl, _⟩ := changed
      have isUpdate := List.reduceOption_mem_iff.mpr isUpdate
      exact absent (List.mem_map_of_mem (f := Prod.fst) isUpdate)

/-- A keyring call fills in a missing reference and changes nothing else. -/
theorem Tracks.keyring {project : ProjectId} {count : Nat}
    (tracks : Tracks codec before projectId jobId defaults profile)
    (shares : Shares defaults profile) (roundTrips : codec.RoundTrips)
    (sound : before.ownership.Sound)
    (updated : applyKeyringToQueue codec before labels project credentialId source secrets =
      .ok (count, after)) :
    Tracks codec after projectId jobId defaults
      (keyed projectId jobId profile (.keyring project credentialId source secrets)) := by
  obtain ⟨old, isOld, ofId, ofProject, stores⟩ := tracks
  simp only [applyKeyringToQueue, bind_eq_ok, mapError_eq_ok] at updated
  obtain ⟨found, read, updated⟩ := updated
  have rewrites := stores.rewrites shares isOld (mapM_eq_ok.mp read)
  rw [ofProject, ofId] at rewrites
  have accepted : after = before ∧ found.reduceOption = [] ∨
      before.updateQueuePlans project found.reduceOption = .ok after := by
    split at updated
    · next empty =>
        cases updated
        exact .inl ⟨rfl, List.isEmpty_iff.mp empty⟩
    · simp only [bind_eq_ok, mapError_eq_ok, pure_eq_ok] at updated
      obtain ⟨next, accepted, same⟩ := updated
      cases same
      exact .inr accepted
  by_cases named : jobId ∈ found.reduceOption.map Prod.fst
  · obtain ⟨update, isUpdate, isNamed⟩ := List.mem_map.mp named
    have isUpdate : (jobId, update.2) ∈ found.reduceOption := by rwa [← isNamed]
    obtain ⟨sameProject, missing, _⟩ := rewrites.named update.2 isUpdate
    have accepted := accepted.resolve_left fun none => by
      rw [none.2] at isUpdate
      cases isUpdate
    have step : Ledger.DisciplinedStep .ascii before (.updateQueuePlans project found.reduceOption)
        after := ⟨trivial, accepted⟩
    obtain ⟨mailbox, isMailbox, sameId, stillProject⟩ := exists_moved sound step isOld
    have ofMailbox := sameId.trans ofId
    refine ⟨mailbox, isMailbox, ofMailbox, stillProject.trans ofProject, ?_⟩
    obtain ⟨other, isOther, otherId, change⟩ :=
      Ledger.updateQueuePlans_exact accepted mailbox isMailbox
    have isSame := Table.eq_of_key isOther isOld (otherId.trans sameId)
    rw [isSame, ofMailbox] at change
    cases change with
    | inl absent => exact absurd named absent.1
    | inr replanned =>
      obtain ⟨overrides, isReplanned, rfl⟩ := replanned
      have encoded := (rewrites.named overrides isReplanned).2.2
      have isKeyed : keyed projectId jobId profile
          (.keyring project credentialId source secrets) = profile.refer source credentialId := by
        rw [keyed, missing, if_pos]
        exact Bool.and_eq_true_iff.mpr ⟨decide_eq_true sameProject, rfl⟩
      rw [isKeyed]
      exact stores.moved step.2 ⟨rfl, rfl, rfl, rfl⟩ rfl (roundTrips.overrides _ _ encoded)
  · have missing := rewrites.unnamed named
    have isKeyed : keyed projectId jobId profile
        (.keyring project credentialId source secrets) = profile := by
      rw [keyed, if_neg]
      intro holds
      simp only [Bool.and_eq_true, decide_eq_true_eq, Bool.not_eq_true'] at holds
      exact missing holds
    rw [isKeyed]
    have isTracked : Tracks codec before projectId jobId defaults profile :=
      ⟨old, isOld, ofId, ofProject, stores⟩
    cases accepted with
    | inl same =>
      rw [same.1]
      exact isTracked
    | inr accepted =>
      have step : Ledger.DisciplinedStep .ascii before
          (.updateQueuePlans project found.reduceOption) after := ⟨trivial, accepted⟩
      exact isTracked.step sound step named

/-! ## Runs -/

/-- Ownership stays sound. -/
theorem QueueStep.sound {action : QueueAction}
    (step : QueueStep codec platform labels before action after)
    (sound : before.ownership.Sound) : after.ownership.Sound := by
  cases step with
  | ledger _ step => exact sound.step (step.ownership sound)
  | keyring updated =>
    simp only [applyKeyringToQueue, bind_eq_ok, mapError_eq_ok] at updated
    obtain ⟨found, _, updated⟩ := updated
    split at updated
    · cases updated
      exact sound
    · simp only [bind_eq_ok, mapError_eq_ok, pure_eq_ok] at updated
      obtain ⟨_, accepted, same⟩ := updated
      cases same
      have step : Ledger.DisciplinedStep .ascii before
          (.updateQueuePlans _ found.reduceOption) after := ⟨trivial, accepted⟩
      exact sound.step (step.ownership sound)

/-- A row keeps its profile along any run, with the references that keyring calls fill in. -/
theorem Tracks.run {actions : List QueueAction} (roundTrips : codec.RoundTrips)
    (tracks : Tracks codec before projectId jobId defaults profile)
    (shares : Shares defaults profile) (sound : before.ownership.Sound)
    (later : Trace (QueueStep codec platform labels) before actions after) :
    after.ownership.Sound ∧
      Shares defaults (actions.foldl (keyed projectId jobId) profile) ∧
        Tracks codec after projectId jobId defaults
          (actions.foldl (keyed projectId jobId) profile) := by
  induction later with
  | nil => exact ⟨sound, shares, tracks⟩
  | @snoc actions state next action earlier last ih =>
    obtain ⟨sound, shares, tracks⟩ := ih
    rw [List.foldl_append, List.foldl_cons, List.foldl_nil]
    refine ⟨last.sound sound, shares.keyed projectId jobId action, ?_⟩
    cases last with
    | ledger keepsFields step => exact tracks.step sound step (keepsFields ▸ List.not_mem_nil)
    | keyring updated => exact tracks.keyring shares roundTrips sound updated

/-- All jobs of a file are imported with the defaults of the base form. -/
theorem imported_of_rows {toLowercase : Char → List Char} {rows : List ImportRow} {base : Form}
    {allowPlaintextSecrets : Bool} {jobs : List BulkJob}
    (parsed : jobsFromRows platform toLowercase rows base allowPlaintextSecrets = .ok jobs) :
    ∀ job ∈ jobs, Imported (BulkJob.defaultsFromForm base) job := by
  intro job isJob
  obtain ⟨_, _, accepted⟩ := exists_of_forall₂ (mapM_eq_ok.mp parsed).flip job isJob
  exact imported_of_values accepted

/-- An imported mailbox file is read back from the ledger row by row, at any later time. -/
theorem imported_rows_rebuilt {toLowercase : Char → List Char} {rows : List ImportRow}
    {base : Form} {allowPlaintextSecrets : Bool} {jobs : List BulkJob}
    {operations : List Operation} {newJobId : Nat → JobId} {newPlanId : Nat → String}
    {queue : ImportedQueue} {actions : List QueueAction} (roundTrips : codec.RoundTrips)
    (history : Trace (Ledger.DisciplinedStep platform) {} operations ledger)
    (parsed : jobsFromRows platform toLowercase rows base allowPlaintextSecrets = .ok jobs)
    (persisted : persistImportedQueue codec platform ledger jobs projectId newJobId newPlanId =
      .ok (queue, before))
    (later : Trace (QueueStep codec platform labels) before actions after)
    (extraOptions : String) (secrets : Option (String × String)) (dryRun : Bool) :
    ∀ numbered ∈ jobs.zipIdx, ∃ row,
      queuePlans after labels projectId [newJobId numbered.2] = [row] ∧
      ∃ rebuilt, jobFromPlan codec row extraOptions secrets dryRun = .ok rebuilt ∧
        rebuilt.profile = (actions.foldl (keyed projectId (newJobId numbered.2))
          numbered.1.profile).rebuilt extraOptions := by
  have imported := imported_of_rows parsed
  have sound : before.ownership.Sound := by
    have accepted := persisted
    simp only [persistImportedQueue, bind_eq_ok, pure_eq_ok, mapError_eq_ok] at accepted
    obtain ⟨rows, _, stored, accepted, same⟩ := accepted
    cases same
    have step : Ledger.DisciplinedStep platform ledger
        (.createBatchQueue projectId rows newJobId newPlanId) before := ⟨trivial, accepted⟩
    exact (Ledger.sound_of_run history).step (step.ownership (Ledger.sound_of_run history))
  intro numbered isNumbered
  have shares := shares_of_imported
    (imported numbered.1 (List.fst_mem_of_mem_zipIdx isNumbered))
  have tracks := tracks_of_import roundTrips imported persisted numbered isNumbered
  obtain ⟨_, shares, mailbox, isMailbox, ofId, ofProject, stores⟩ :=
    tracks.run roundTrips shares sound later
  have found : after.jobIn projectId (newJobId numbered.2) = some mailbox :=
    Ledger.jobIn_eq_some.mpr ⟨isMailbox, ofId, ofProject⟩
  refine ⟨queuePlanRow after labels projectId mailbox, ?_,
    stores.jobFromPlan shares labels projectId extraOptions secrets dryRun⟩
  have once : [newJobId numbered.2].eraseDups = [newJobId numbered.2] := rfl
  simp only [queuePlans, once, List.filterMap_cons, found, Option.map_some, List.filterMap_nil]

/-! ## An imported row -/

/-- A codec that knows the given values and the texts of them. -/
def PlanCodec.ofTexts (profiles : List (Profile × String))
    (overrides : List (DurableBatchRowOverrides × String)) : PlanCodec where
  encodeProfile profile := (profiles.lookup profile).elim (.error "unknown profile") .ok
  decodeProfile text :=
    (profiles.find? (·.2 = text)).elim (.error "unknown text") fun entry => .ok entry.1
  encodeOverrides values := (overrides.lookup values).elim (.error "unknown fields") .ok
  decodeOverrides text :=
    (overrides.find? (·.2 = text)).elim (.error "unknown text") fun entry => .ok entry.1

theorem elim_eq_ok {α β : Type} {entry : Option α} {error : String} {read : α → β} {value : β} :
    entry.elim (.error error) (fun found => .ok (read found)) = (.ok value : Except String β) ↔
      ∃ found, entry = some found ∧ read found = value := by
  cases entry with
  | none => exact ⟨nofun, nofun⟩
  | some found => simp

/-- A text is found with its value, when no other value has it. -/
theorem find?_of_texts {α : Type} [DecidableEq α] {entries : List (α × String)}
    (distinct : (entries.map Prod.snd).Nodup) {value : α} {text : String}
    (known : entries.lookup value = some text) :
    entries.find? (·.2 = text) = some (value, text) := by
  induction entries with
  | nil => cases known
  | cons entry entries ih =>
    rw [List.map_cons, List.nodup_cons] at distinct
    rw [List.find?_cons]
    by_cases isFirst : value = entry.1
    · rw [isFirst, List.lookup_cons_self] at known
      rw [decide_eq_true (Option.some.inj known), isFirst, ← Option.some.inj known]
    · rw [List.lookup_cons, beq_false_of_ne isFirst] at known
      have later := List.mem_map_of_mem (f := Prod.snd) (Ledger.mem_of_lookup known)
      have apart : entry.2 ≠ text := fun same => distinct.1 (same ▸ later)
      rw [decide_eq_false apart]
      exact ih distinct.2 known

theorem PlanCodec.roundTrips_ofTexts {profiles : List (Profile × String)}
    {overrides : List (DurableBatchRowOverrides × String)}
    (distinctProfiles : (profiles.map Prod.snd).Nodup)
    (distinctOverrides : (overrides.map Prod.snd).Nodup) :
    (PlanCodec.ofTexts profiles overrides).RoundTrips where
  profile := by
    intro profile text encoded
    obtain ⟨_, known, rfl⟩ := elim_eq_ok.mp encoded
    exact elim_eq_ok.mpr ⟨_, find?_of_texts distinctProfiles known, rfl⟩
  overrides := by
    intro values text encoded
    obtain ⟨_, known, rfl⟩ := elim_eq_ok.mp encoded
    exact elim_eq_ok.mpr ⟨_, find?_of_texts distinctOverrides known, rfl⟩

/-- A form whose only setting is the name of the project. -/
def acmeForm : Form := { profile := { name := "Acme" } }

def acmeToml : String :=
  "name = \"Acme\"\nsource_host = \"\"\nsource_port = \"\"\nsource_tls = \"imaps\"\n" ++
  "source_ca_bundle = \"\"\nsource_certificate_pin_sha256 = \"\"\n" ++
  "allow_insecure_source_transport = false\nsource_user = \"\"\nsource_rate_tenant = \"\"\n" ++
  "source_auth = \"password\"\nsource_credential_id = \"\"\n" ++
  "source_oauth_refresh_credential_id = \"\"\ndestination_host = \"\"\n" ++
  "destination_user = \"\"\ndestination_rate_tenant = \"\"\n" ++
  "destination_auth = \"password\"\ndestination_credential_id = \"\"\n" ++
  "destination_oauth_refresh_credential_id = \"\"\ndestination_port = \"\"\n" ++
  "destination_tls = \"imaps\"\ndestination_ca_bundle = \"\"\n" ++
  "destination_certificate_pin_sha256 = \"\"\nimapsync_path = \"imapsync\"\n" ++
  "engine = \"Auto\"\ndoveadm_path = \"doveadm\"\ndovecot_config = \"\"\n" ++
  "batch_concurrency = 2\nbatch_verification_workers = 0\nbatch_retry_count = 0\n" ++
  "batch_process_starts_per_second = 2\nmax_messages_per_second = 0\n" ++
  "max_bytes_per_second = 0\nbody_hash_verification = false\nbody_hash_max_bytes = 8388608\n" ++
  "body_hash_max_total_bytes = 536870912\nmigration_timeout_hours = 24\nautomap = false\n" ++
  "folder_mapping_rules = []\naddheader = false\njustfolders = false\n" ++
  "sync_internaldates = true\nuseuid = false\nusecache = false\nfastio1 = false\n" ++
  "fastio2 = false\nallowsizemismatch = false\n" ++
  "dovecot_strategy = \"final_preservation_pass\"\ndelete2 = false\nextra_options = \"\"\n"

/-- The fields of one row, with a credential for its source or none. -/
def adaFields (credentialId : String) : DurableBatchRowOverrides where
  sourceHost := "old.example"
  sourceUser := "ada"
  sourceRateTenant := some "old-acme"
  sourceCredentialId := credentialId
  sourceOauthRefreshCredentialId := ""
  destinationHost := "new.example"
  destinationUser := "ada"
  destinationRateTenant := none
  destinationCredentialId := ""
  destinationOauthRefreshCredentialId := ""
  profileName := some "Acme"

def adaToml (credentialId : String) : String :=
  "source_host = \"old.example\"\nsource_user = \"ada\"\nsource_rate_tenant = \"old-acme\"\n" ++
  "source_credential_id = \"" ++ credentialId ++ "\"\n" ++
  "source_oauth_refresh_credential_id = \"\"\ndestination_host = \"new.example\"\n" ++
  "destination_user = \"ada\"\ndestination_credential_id = \"\"\n" ++
  "destination_oauth_refresh_credential_id = \"\"\nprofile_name = \"Acme\"\n"

/-- The texts of one row, before and after its source has a credential. -/
def acmeCodec : PlanCodec :=
  .ofTexts [(acmeForm.profile.blanked, acmeToml)]
    [(adaFields "", adaToml ""), (adaFields "vault-1", adaToml "vault-1")]

def adaRow : ImportRow := [("source_host", "old.example"), ("source_user", "ada"),
  ("source_rate_tenant", "old-acme"), ("destination_host", "new.example"),
  ("destination_user", "ada")]

/-- The row with the credential of its source is read back after the keyring call. -/
theorem ada_row_rebuilt : ∃ jobs queue stored after,
    jobsFromRows .ascii (fun c => [c.toLower]) [adaRow] acmeForm false = .ok jobs ∧
    persistImportedQueue acmeCodec .ascii {} jobs "acme" (fun _ => "ada-row")
      (fun _ => "acme-plan") = .ok (queue, stored) ∧ jobs.length = 1 ∧
    ∀ numbered ∈ jobs.zipIdx, ∃ row, queuePlans after id "acme" ["ada-row"] = [row] ∧
      ∃ rebuilt, jobFromPlan acmeCodec row "--nofoldersizes" none false = .ok rebuilt ∧
        rebuilt.profile = ([QueueAction.keyring "acme" "vault-1" true []].foldl
          (keyed "acme" "ada-row") numbered.1.profile).rebuilt "--nofoldersizes" := by
  have accepted : (jobsFromRows .ascii (fun c => [c.toLower]) [adaRow] acmeForm
      false).toOption.any (fun jobs => (persistImportedQueue acmeCodec .ascii {} jobs "acme"
        (fun _ => "ada-row") (fun _ => "acme-plan")).toOption.any fun stored =>
          jobs.length = 1 && (applyKeyringToQueue acmeCodec stored.2 id "acme" "vault-1" true
            []).toOption.any (·.1 = 1)) = true := by
    decide +kernel
  obtain ⟨jobs, parsed, accepted⟩ := accepted_of_any accepted
  obtain ⟨⟨queue, stored⟩, persisted, accepted⟩ := accepted_of_any accepted
  rw [Bool.and_eq_true, decide_eq_true_eq] at accepted
  obtain ⟨⟨count, after⟩, updated, _⟩ := accepted_of_any accepted.2
  exact ⟨jobs, queue, stored, after, parsed, persisted, accepted.1,
    imported_rows_rebuilt (PlanCodec.roundTrips_ofTexts (by decide) (by decide)) .nil parsed
      persisted (.snoc .nil (.keyring updated)) "--nofoldersizes" none false⟩

end MailSwiftSync.Queue
