import MailSwiftSync.Verification.Summary

/-!
# Verification evidence

What a verification pass leaves behind for one mailbox: counters, the flag dimension
and a label.  A label is a claim; the predicates below decide when the counters
support it.
-/

namespace MailSwiftSync

/-- The comparison that produced some evidence. -/
inductive VerificationMethod where
  | aggregateEngine
  | metadataReconciliation
  | bodyHash
  | nativeDovecot
deriving DecidableEq, Repr

/-- Whether a method compares individual messages. -/
def VerificationMethod.comparesMessages (method : VerificationMethod) : Bool :=
  method = .metadataReconciliation || method = .bodyHash

/-- Whether a label claims an exact result. -/
def VerificationOutcome.isExact (outcome : VerificationOutcome) : Bool :=
  outcome = .exactBodyMatch || outcome = .exactMetadataMatch

/-- Results of the flag pass. -/
structure FlagVerification where
  comparedMessages : Nat := 0
  mismatchedMessages : Nat := 0
  exceptedMessages : Nat := 0
deriving DecidableEq, Repr

/-- The differing messages are among the compared ones; `checked_add` on `u64`. -/
def FlagVerification.isConsistent (flags : FlagVerification) : Bool :=
  flags.mismatchedMessages + flags.exceptedMessages < 2 ^ 64 &&
    flags.mismatchedMessages + flags.exceptedMessages ≤ flags.comparedMessages

/-- The evidence of one verification pass. -/
structure MailboxEvidence where
  verificationMethod : VerificationMethod
  verificationOutcome : Option VerificationOutcome
  sourceMessages : Nat
  destinationMessages : Nat
  sourceBytes : Nat
  destinationBytes : Nat
  unmatchedMessages : Option Nat
  failedMessages : Nat
  sourceFolders : Nat
  destinationFolders : Nat
  authoritative : Bool
  missingMessages : Nat
  extraMessages : Nat
  modifiedMessages : Nat
  probableMessages : Nat
  rfcMessageIdMatches : Nat
  syntheticIdentityMatches : Nat
  flagVerification : Option FlagVerification
deriving DecidableEq, Repr

namespace MailboxEvidence

variable (evidence : MailboxEvidence)

def aggregateTotalsMatch : Bool :=
  evidence.sourceMessages = evidence.destinationMessages &&
    evidence.sourceBytes = evidence.destinationBytes &&
    evidence.sourceFolders = evidence.destinationFolders

def hasMessageLevelMismatch : Bool :=
  evidence.missingMessages > 0 || evidence.extraMessages > 0 ||
    evidence.modifiedMessages > 0

def flagCoverageIsRequired : Bool :=
  evidence.sourceMessages > 0 && evidence.verificationMethod.comparesMessages

def flagCoverageIsMissing : Bool :=
  evidence.flagCoverageIsRequired && evidence.flagVerification.isNone

def flagDifferenceIsPresent (flags : FlagVerification) : Bool :=
  flags.mismatchedMessages > 0 || flags.exceptedMessages > 0 ||
    flags.comparedMessages ≠ evidence.sourceMessages || !flags.isConsistent

def hasFlagMismatch : Bool :=
  match evidence.flagVerification with
  | none => evidence.flagCoverageIsRequired
  | some flags => evidence.flagDifferenceIsPresent flags

/-- Synthetic identities count against every method but body hashing. -/
def hasSyntheticDoubt : Bool :=
  evidence.verificationMethod ≠ .bodyHash && evidence.syntheticIdentityMatches > 0

def hasVerificationException : Bool :=
  evidence.failedMessages > 0 || evidence.unmatchedMessages.any (· > 0) ||
    evidence.probableMessages > 0 || evidence.hasSyntheticDoubt ||
    evidence.hasMessageLevelMismatch || evidence.hasFlagMismatch

/-- Canonical classification of some evidence. -/
def outcome : VerificationOutcome :=
  match evidence.verificationOutcome with
  | some outcome =>
    if outcome = .exactMetadataMatch && evidence.syntheticIdentityMatches > 0 then
      .probableMatch
    else outcome
  | none =>
    if evidence.failedMessages > 0 then .failed
    else if evidence.unmatchedMessages.isNone then .incomplete
    else if evidence.missingMessages > 0 then .missing
    else if evidence.modifiedMessages > 0 then .changed
    else if evidence.extraMessages > 0 then .unexpected
    else if evidence.probableMessages > 0 || evidence.hasSyntheticDoubt then .probableMatch
    else if evidence.unmatchedMessages.any (· > 0) then .ambiguous
    else if evidence.flagVerification.any evidence.flagDifferenceIsPresent then
      .flagsChanged
    else if evidence.aggregateTotalsMatch then
      if evidence.verificationMethod = .bodyHash then .exactBodyMatch
      else .exactMetadataMatch
    else .incomplete

/-- Whether the message counters support an exact label. -/
def messageResultIsExact : Bool :=
  evidence.aggregateTotalsMatch && evidence.failedMessages = 0 &&
    evidence.unmatchedMessages = some 0 && evidence.probableMessages = 0 &&
    !evidence.hasMessageLevelMismatch

/-- Whether the counters allow an exact label to be stored. -/
def exactLabelIsConsistent (outcome : VerificationOutcome) : Bool :=
  evidence.messageResultIsExact && outcome.isExact &&
    evidence.flagVerification.all (·.mismatchedMessages = 0) &&
    (evidence.verificationMethod ≠ .aggregateEngine || evidence.authoritative) &&
    (evidence.verificationMethod ≠ .bodyHash || outcome = .exactBodyMatch) &&
    (outcome ≠ .exactMetadataMatch || evidence.syntheticIdentityMatches = 0) &&
    !evidence.flagCoverageIsMissing

def isExactMatch : Bool :=
  evidence.outcome.isExact && evidence.aggregateTotalsMatch &&
    !evidence.hasVerificationException

variable {evidence}

/-- An exact match has equal totals and no exception of any kind. -/
theorem isExactMatch_iff : evidence.isExactMatch = true ↔
    evidence.outcome.isExact = true ∧ evidence.aggregateTotalsMatch = true ∧
      evidence.hasVerificationException = false := by
  rw [isExactMatch, Bool.and_eq_true, Bool.and_eq_true, Bool.not_eq_true', and_assoc]

/-- Exact matches have compared the flags of every source message and found no
difference. -/
theorem flags_of_isExactMatch (exact : evidence.isExactMatch = true)
    {flags : FlagVerification} (present : evidence.flagVerification = some flags) :
    flags.mismatchedMessages = 0 ∧ flags.exceptedMessages = 0 ∧
      flags.comparedMessages = evidence.sourceMessages := by
  obtain ⟨_, _, clean⟩ := isExactMatch_iff.mp exact
  simp only [hasVerificationException, Bool.or_eq_false_iff] at clean
  obtain ⟨_, flagsClean⟩ := clean
  rw [hasFlagMismatch, present] at flagsClean
  simp only [flagDifferenceIsPresent, Bool.or_eq_false_iff, decide_eq_false_iff_not,
    not_lt, Nat.le_zero, ne_eq, not_not] at flagsClean
  exact ⟨flagsClean.1.1.1, flagsClean.1.1.2, flagsClean.1.2⟩

theorem totals_of_isExactMatch (exact : evidence.isExactMatch = true) :
    evidence.sourceMessages = evidence.destinationMessages := by
  obtain ⟨_, totals, _⟩ := isExactMatch_iff.mp exact
  simp only [aggregateTotalsMatch, Bool.and_eq_true, decide_eq_true_eq] at totals
  exact totals.1.1

end MailboxEvidence

end MailSwiftSync
