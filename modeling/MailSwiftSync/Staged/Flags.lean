import MailSwiftSync.Staged.Reconciliation
import MailSwiftSync.Verification.Evidence

/-!
# Flag and keyword fidelity

A separate pass over the stage compares the flags of messages whose identity is
unambiguous: single messages one by one, groups of identical duplicates as multisets
of flag sets.  What it could not compare shows in the number of compared messages.
-/

namespace MailSwiftSync

open Foundation

/-! ## Comparing two flag sets -/

/-- The words of a text; the first argument is the reversed word being read. -/
def wordsFrom (current : List Char) : List Char → List String
  | [] => if current.isEmpty then [] else [String.ofList current.reverse]
  | char :: rest =>
    if isWhitespace char then
      if current.isEmpty then wordsFrom [] rest
      else String.ofList current.reverse :: wordsFrom [] rest
    else wordsFrom (char :: current) rest

/-- `split_whitespace().collect::<HashSet<_>>()`. -/
def flagSet (flags : String) : Finset String :=
  (wordsFrom [] flags.toList).toFinset

/-- Classification of one flag comparison. -/
inductive FlagComparison where
  | matched
  | excepted
  | mismatch
deriving DecidableEq, Repr

/-- Whether a folder with these PERMANENTFLAGS can store a flag. -/
def storableFlag (permanent : Finset String) (flag : String) : Bool :=
  flag ∈ permanent || (!startsWith flag "\\" && "\\*" ∈ permanent)

def compareFlagSets (source destination : String)
    (destinationPermanentFlags : Option String) : FlagComparison :=
  if source = destination then .matched
  else if flagSet source = flagSet destination then .matched
  else if ¬flagSet destination ⊆ flagSet source then .mismatch
  else
    match destinationPermanentFlags with
    | none => .mismatch
    | some permanent =>
      if ∃ flag ∈ flagSet source \ flagSet destination,
          storableFlag (flagSet permanent) flag then .mismatch
      else .excepted

theorem compareFlagSets_eq_matched {source destination : String} {permanent : Option String} :
    compareFlagSets source destination permanent = .matched ↔
      flagSet source = flagSet destination := by
  unfold compareFlagSets
  constructor
  · intro same
    split_ifs at same with sameText sameSet
    · rw [sameText]
    · exact sameSet
    · split at same
      · cases same
      · split_ifs at same
  · intro sameSet
    split_ifs with sameText
    · rfl
    · rfl

/-! ## Single messages -/

namespace MessageMetadataStage

variable {parseDate : DateParser} (stage : MessageMetadataStage parseDate)
  (folderMapping : FolderMapping)

/-- `COALESCE(m.destination,s.mailbox)`. -/
def expectedMailbox (row : StagedRow parseDate) : String :=
  (folderMapping.lookup row.mailbox).getD row.mailbox

/-- `GROUP BY message_id,expected_mailbox,date_key,size_bytes`. -/
def sourceIdentity (row : StagedRow parseDate) : Option (String × String × String × Nat) :=
  row.exactKey (expectedMailbox folderMapping)

/-- `GROUP BY message_id,mailbox,date_key,size_bytes`. -/
def destIdentity (row : StagedRow parseDate) : Option (String × String × String × Nat) :=
  row.exactKey StagedRow.mailbox

/-- The rows of the pair query: source flags, destination flags, PERMANENTFLAGS. -/
def flagPairs : List (String × String × Option String) :=
  (loneJoin (sourceIdentity folderMapping) (stage.sideRows .source) destIdentity
    (stage.sideRows .destination)).filterMap fun pair =>
      pair.1.flags.bind fun source => pair.2.flags.map fun destination =>
        (source, destination,
          (stage.permanentFlags.lookup (.destination, pair.2.mailbox)).join)

end MessageMetadataStage

/-- Count one compared pair. -/
def countFlagPair (result : FlagVerification) (pair : String × String × Option String) :
    FlagVerification :=
  let result := { result with comparedMessages := saturatingAdd result.comparedMessages 1 }
  match compareFlagSets pair.1 pair.2.1 pair.2.2 with
  | .matched => result
  | .excepted =>
    { result with exceptedMessages := saturatingAdd result.exceptedMessages 1 }
  | .mismatch =>
    { result with mismatchedMessages := saturatingAdd result.mismatchedMessages 1 }

namespace MessageMetadataStage

variable {parseDate : DateParser} (stage : MessageMetadataStage parseDate)
  (folderMapping : FolderMapping)

def compareStagedFlagPairs : FlagVerification :=
  (stage.flagPairs folderMapping).foldl countFlagPair {}

/-! ## Groups of identical duplicates -/

/-- The source rows of one identity. -/
def sourceGroup (identity : String × String × String × Nat) : List (StagedRow parseDate) :=
  ofClass (sourceIdentity folderMapping) identity (stage.sideRows .source)

/-- The destination rows of one identity. -/
def destGroup (identity : String × String × String × Nat) : List (StagedRow parseDate) :=
  ofClass destIdentity identity (stage.sideRows .destination)

/-- Identities with several rows, equally many on both sides, in column order. -/
def duplicateGroups : List (String × String × String × Nat) :=
  orderBy (fun identity => toLex (identity.1,
      toLex (identity.2.1, toLex (identity.2.2.1, identity.2.2.2))))
    (((stage.sideRows .source).filterMap (sourceIdentity folderMapping)).dedup.filter
      fun identity => 1 < (stage.sourceGroup folderMapping identity).length ∧
        (stage.sourceGroup folderMapping identity).length =
          (stage.destGroup identity).length)

end MessageMetadataStage

/-- One row of `flag_frequencies`. -/
structure FlagFrequency where
  identity : String × String × String × Nat
  groupSize : Nat
  flags : Option String
  sourceCount : Nat
  destinationCount : Nat

/-- `NULL` sorts before every text. -/
def flagsColumn (flags : Option String) : WithBot String := flags

namespace MessageMetadataStage

variable {parseDate : DateParser} (stage : MessageMetadataStage parseDate)
  (folderMapping : FolderMapping)

/-- The frequency rows of one group: every flag value with its counts on both sides. -/
def groupFrequencies (identity : String × String × String × Nat) : List FlagFrequency :=
  let sourceFlags := (stage.sourceGroup folderMapping identity).map StagedRow.flags
  let destFlags := (stage.destGroup identity).map StagedRow.flags
  (orderBy flagsColumn (sourceFlags ++ destFlags).dedup).map fun flags => {
    identity
    groupSize := (stage.sourceGroup folderMapping identity).length
    flags
    sourceCount := sourceFlags.count flags
    destinationCount := destFlags.count flags }

/-- The rows the loop reads, group by group. -/
def flagFrequencies : List FlagFrequency :=
  (stage.duplicateGroups folderMapping).flatMap (stage.groupFrequencies folderMapping)

end MessageMetadataStage

/-- The loop over the frequency rows: the group being read and the result so far. -/
structure FlagGroupScan where
  current : Option (String × String × String × Nat) := none
  groupSize : Nat := 0
  groupMismatched : Bool := false
  complete : Bool := true
  result : FlagVerification := {}

namespace FlagGroupScan

/-- Count a finished group.  A differing multiset counts all of it as mismatched, and a
group with unreported flags is skipped. -/
def finish (scan : FlagGroupScan) : FlagGroupScan where
  current := scan.current
  result :=
    if scan.complete then {
      comparedMessages := saturatingAdd scan.result.comparedMessages scan.groupSize
      mismatchedMessages :=
        if scan.groupMismatched then
          saturatingAdd scan.result.mismatchedMessages scan.groupSize
        else scan.result.mismatchedMessages
      exceptedMessages := scan.result.exceptedMessages }
    else scan.result

/-- The result once the current group is counted. -/
def closed (scan : FlagGroupScan) : FlagVerification :=
  if scan.current.isSome then scan.finish.result else scan.result

/-- Read one frequency row. -/
def read (scan : FlagGroupScan) (row : FlagFrequency) : FlagGroupScan :=
  let scan :=
    if scan.current = some row.identity then scan
    else
      { (if scan.current.isSome then scan.finish else scan) with
        current := some row.identity
        groupSize := row.groupSize }
  match row.flags with
  | none => { scan with complete := false }
  | some _ =>
    if row.sourceCount ≠ row.destinationCount then { scan with groupMismatched := true }
    else scan

end FlagGroupScan

namespace MessageMetadataStage

variable {parseDate : DateParser} (stage : MessageMetadataStage parseDate)
  (folderMapping : FolderMapping)

def compareStagedDuplicateFlagGroups : FlagVerification :=
  ((stage.flagFrequencies folderMapping).foldl FlagGroupScan.read {}).closed

/-- Compare the flags of everything that can be compared. -/
def verifyStagedFlags : FlagVerification :=
  let pairs := stage.compareStagedFlagPairs folderMapping
  let groups := stage.compareStagedDuplicateFlagGroups folderMapping
  { comparedMessages := saturatingAdd pairs.comparedMessages groups.comparedMessages
    mismatchedMessages := saturatingAdd pairs.mismatchedMessages groups.mismatchedMessages
    exceptedMessages := pairs.exceptedMessages }

end MessageMetadataStage

end MailSwiftSync
