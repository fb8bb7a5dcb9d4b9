import MailSwiftSync.Foundation.Metered
import MailSwiftSync.Foundation.Witnesses
import MailSwiftSync.Ledger.Destination

/-!
# Case collisions

A batch may name two mailboxes that differ only by case, on a provider of which it is not known
whether case matters.  The detector reads the profiles one after the other and keeps one exact
identity for each case-folded one.
-/

namespace MailSwiftSync

open Foundation

/-- The fields of a profile that name its destination. -/
structure DestinationProfile where
  destinationUser : String
  destinationHost : String
  destinationTls : String
  destinationPort : String
deriving DecidableEq, Repr

namespace LedgerPlatform

variable (platform : LedgerPlatform)

/-- The exact identity of a profile's destination. -/
def exactIdentity (profile : DestinationProfile) : Except String String :=
  (platform.canonicalDestinationIdentity profile.destinationUser profile.destinationHost
    (effectiveDestinationTls profile.destinationTls) profile.destinationPort).mapError
      ("Invalid destination endpoint: " ++ ·)

/-- The case-folded identity of a profile's destination. -/
def foldedIdentity (profile : DestinationProfile) : Except String String :=
  (platform.casefoldedDestinationIdentity profile.destinationUser profile.destinationHost
    (effectiveDestinationTls profile.destinationTls) profile.destinationPort).mapError
      ("Invalid destination endpoint: " ++ ·)

/-- The folded identity of a profile and its exact one. -/
def identityEntry (profile : DestinationProfile) : Except String (String × String) := do
  let exact ← platform.exactIdentity profile
  let folded ← platform.foldedIdentity profile
  return (folded, exact)

end LedgerPlatform

/-! ## The detector -/

/-- The exact identity seen last under each folded one. -/
structure CaseCollisionDetector where
  byFolded : AList fun _ : String => String := ∅

namespace CaseCollisionDetector

variable (platform : LedgerPlatform)

/-- Record one destination; the answer is whether it collides by case with an earlier one. -/
def add (detector : CaseCollisionDetector) (profile : DestinationProfile) :
    Except String Bool × CaseCollisionDetector :=
  match platform.identityEntry profile with
  | .error message => (.error message, detector)
  | .ok (folded, exact) =>
    if (detector.byFolded.lookup folded).any (· ≠ exact) then (.ok true, detector)
    else (.ok false, { byFolded := detector.byFolded.insert folded exact })

/-- The answers to some profiles. -/
def answersFrom (detector : CaseCollisionDetector) :
    List DestinationProfile → List (Except String Bool)
  | [] => []
  | profile :: profiles =>
    (detector.add platform profile).1 ::
      answersFrom (detector.add platform profile).2 profiles

end CaseCollisionDetector

/-! ## Admission -/

inductive BatchExecutionMode where
  | preflight
  | live
deriving DecidableEq, Repr

def BatchExecutionMode.isLive (mode : BatchExecutionMode) : Bool := mode = .live

/-- Add the destination of one row to whether the rows so far collide. -/
def noteDestination (platform : LedgerPlatform) (state : Bool × CaseCollisionDetector)
    (profile : DestinationProfile) : Except String (Bool × CaseCollisionDetector) :=
  (state.2.add platform profile).1.map fun collides =>
    (state.1 || collides, (state.2.add platform profile).2)

/-- Whether the destinations of the selected rows collide by case. -/
def ambiguousCaseCollision (platform : LedgerPlatform) (profiles : List DestinationProfile) :
    Except String Bool :=
  (profiles.foldlM (noteDestination platform) (false, {})).map Prod.fst

/-- A collision must be acknowledged, and nothing may run at the same time then. -/
def validateDestinationCaseAcknowledgement (mode : BatchExecutionMode) (hasCollision : Bool)
    (acknowledged : Bool) (concurrency : Nat) : Except String Unit :=
  if mode.isLive && hasCollision then
    if !acknowledged then
      .error ("Live batch blocked: destination mailbox names differ only by case on an endpoint " ++
        "with unknown case semantics. Review the accounts and explicitly acknowledge the " ++
        "possible identity collision in the live confirmation.")
    else if concurrency ≠ 1 then
      .error ("Live batch blocked: case-ambiguous destination accounts must run with " ++
        "concurrency set to 1 so possible aliases are never written simultaneously.")
    else .ok ()
  else .ok ()

/-! ## What is detected -/

/-- Two profiles have one folded identity and different exact identities. -/
def CaseCollision (platform : LedgerPlatform) (profiles : List DestinationProfile) : Prop :=
  ∃ first ∈ profiles, ∃ second ∈ profiles, ∃ folded exact other,
    platform.foldedIdentity first = .ok folded ∧ platform.foldedIdentity second = .ok folded ∧
      platform.exactIdentity first = .ok exact ∧ platform.exactIdentity second = .ok other ∧
      exact ≠ other

section Detection

variable {platform : LedgerPlatform} {profiles : List DestinationProfile}

/-- The identities of the profiles that have them. -/
def identityEntries (platform : LedgerPlatform) (profiles : List DestinationProfile) :
    List (String × String) :=
  profiles.filterMap fun profile => (platform.identityEntry profile).toOption

theorem identityEntry_eq_ok {profile : DestinationProfile} {folded exact : String} :
    platform.identityEntry profile = .ok (folded, exact) ↔
      platform.foldedIdentity profile = .ok folded ∧
        platform.exactIdentity profile = .ok exact := by
  simp only [LedgerPlatform.identityEntry, bind_eq_ok, pure_eq_ok, Prod.mk.injEq]
  constructor
  · rintro ⟨_, isExact, _, isFolded, rfl, rfl⟩
    exact ⟨isFolded, isExact⟩
  · rintro ⟨isFolded, isExact⟩
    exact ⟨exact, isExact, folded, isFolded, rfl, rfl⟩

theorem mem_identityEntries {folded exact : String} :
    (folded, exact) ∈ identityEntries platform profiles ↔
      ∃ profile ∈ profiles, platform.foldedIdentity profile = .ok folded ∧
        platform.exactIdentity profile = .ok exact := by
  simp only [identityEntries, List.mem_filterMap, ← identityEntry_eq_ok]
  refine exists_congr fun profile => and_congr_right fun _ => ?_
  cases platform.identityEntry profile with
  | error message => simp [Except.toOption]
  | ok entry => simp [Except.toOption]

theorem clash_identityEntries :
    Clash (identityEntries platform profiles) ↔ CaseCollision platform profiles := by
  constructor
  · rintro ⟨⟨folded, exact⟩, isFirst, ⟨folded', other⟩, isSecond, sameKey, differ⟩
    obtain rfl : folded = folded' := sameKey
    obtain ⟨first, isFirst, firstFolded, firstExact⟩ := mem_identityEntries.mp isFirst
    obtain ⟨second, isSecond, secondFolded, secondExact⟩ := mem_identityEntries.mp isSecond
    exact ⟨first, isFirst, second, isSecond, folded, exact, other, firstFolded, secondFolded,
      firstExact, secondExact, differ⟩
  · rintro ⟨first, isFirst, second, isSecond, folded, exact, other, firstFolded, secondFolded,
      firstExact, secondExact, differ⟩
    exact ⟨(folded, exact), mem_identityEntries.mpr ⟨first, isFirst, firstFolded, firstExact⟩,
      (folded, other), mem_identityEntries.mpr ⟨second, isSecond, secondFolded, secondExact⟩,
      rfl, differ⟩

/-- The detector notes the identities of the profiles that have them. -/
theorem mem_answersFrom {detector : CaseCollisionDetector} :
    .ok true ∈ detector.answersFrom platform profiles ↔
      true ∈ answers detector.byFolded (identityEntries platform profiles) := by
  induction profiles generalizing detector with
  | nil => exact iff_of_false List.not_mem_nil List.not_mem_nil
  | cons profile profiles ih =>
    rw [CaseCollisionDetector.answersFrom, List.mem_cons, ih, CaseCollisionDetector.add]
    cases isEntry : platform.identityEntry profile with
    | error message =>
      have skipped : identityEntries platform (profile :: profiles) =
          identityEntries platform profiles := by
        rw [identityEntries, List.filterMap_cons, isEntry]
        rfl
      rw [skipped]
      simp
    | ok entry =>
      have noted : identityEntries platform (profile :: profiles) =
          entry :: identityEntries platform profiles := by
        rw [identityEntries, List.filterMap_cons, isEntry]
        rfl
      rw [noted, answers, note, List.mem_cons]
      dsimp only
      split
      · simp
      · simp

/-- Whether the selected rows collide is whether the detector ever says so. -/
theorem ambiguousCaseCollision_ok {collides : Bool}
    (accepted : ambiguousCaseCollision platform profiles = .ok collides) :
    collides = true ↔ .ok true ∈ ({} : CaseCollisionDetector).answersFrom platform profiles := by
  have fromState : ∀ (seen : Bool) (detector : CaseCollisionDetector),
      (profiles.foldlM (noteDestination platform) (seen, detector)).map Prod.fst = .ok collides →
      (collides = true ↔ seen = true ∨ .ok true ∈ detector.answersFrom platform profiles) := by
    clear accepted
    induction profiles with
    | nil =>
      intro seen detector accepted
      obtain rfl : seen = collides := Except.ok.inj accepted
      simp [CaseCollisionDetector.answersFrom]
    | cons profile profiles ih =>
      intro seen detector accepted
      rw [List.foldlM_cons, noteDestination] at accepted
      rw [CaseCollisionDetector.answersFrom, List.mem_cons]
      dsimp only at accepted
      cases isAnswer : (detector.add platform profile).1 with
      | error message =>
        rw [isAnswer] at accepted
        cases accepted
      | ok here =>
        rw [isAnswer] at accepted
        rw [ih _ _ accepted, Bool.or_eq_true, or_assoc]
        simp [eq_comm]
  rw [fromState false {} accepted]
  simp

/-- The detector finds the collisions of a batch, in whatever order its rows come, and a live batch
with a collision needs an acknowledgement and a single worker. -/
theorem caseCollisions_detected (platform : LedgerPlatform) (profiles : List DestinationProfile) :
    (.ok true ∈ ({} : CaseCollisionDetector).answersFrom platform profiles ↔
      CaseCollision platform profiles) ∧
    (∀ others : List DestinationProfile, profiles.Perm others →
      (.ok true ∈ ({} : CaseCollisionDetector).answersFrom platform profiles ↔
        .ok true ∈ ({} : CaseCollisionDetector).answersFrom platform others)) ∧
    ∀ hasCollision acknowledged concurrency,
      ambiguousCaseCollision platform profiles = .ok hasCollision →
      CaseCollision platform profiles →
      validateDestinationCaseAcknowledgement .live hasCollision acknowledged concurrency =
        .ok () →
      acknowledged = true ∧ concurrency = 1 := by
  have detects : ∀ profiles,
      (.ok true ∈ ({} : CaseCollisionDetector).answersFrom platform profiles ↔
        Clash (identityEntries platform profiles)) := by
    intro profiles
    rw [mem_answersFrom]
    exact mem_answers_iff
  refine ⟨(detects profiles).trans clash_identityEntries, fun others permuted => ?_, ?_⟩
  · rw [detects, detects]
    exact Clash.perm (permuted.filterMap _)
  · intro hasCollision acknowledged concurrency scanned collision accepted
    have found : hasCollision = true := by
      rw [ambiguousCaseCollision_ok scanned, detects, clash_identityEntries]
      exact collision
    rw [validateDestinationCaseAcknowledgement, found, if_pos (by decide)] at accepted
    split at accepted
    next => cases accepted
    next isAcknowledged =>
      split at accepted
      next => cases accepted
      next isSingle =>
        exact ⟨by simpa using isAcknowledged, not_not.mp isSingle⟩

end Detection

/-- A destination on a provider of which nothing is known. -/
def destinationOf (user : String) : DestinationProfile :=
  ⟨user, "imap.customer.example", "imaps", ""⟩

/-- Two accounts that differ by case must be acknowledged and run one at a time. -/
theorem differentCases_acknowledged :
    ambiguousCaseCollision .ascii [destinationOf "User@example.test",
      destinationOf "user@example.test"] = .ok true ∧
    validateDestinationCaseAcknowledgement .live true true 1 = .ok () ∧
    ∀ acknowledged concurrency,
      validateDestinationCaseAcknowledgement .live true acknowledged concurrency = .ok () →
      acknowledged = true ∧ concurrency = 1 := by
  have scanned : ambiguousCaseCollision .ascii [destinationOf "User@example.test",
      destinationOf "user@example.test"] = .ok true := by
    decide +kernel
  have collision : CaseCollision .ascii [destinationOf "User@example.test",
      destinationOf "user@example.test"] := by
    refine ⟨_, List.mem_cons_self, _, List.mem_cons_of_mem _ List.mem_cons_self,
      "endpoint:imap.customer.example:993:user@example.test",
      "endpoint:imap.customer.example:993:User@example.test",
      "endpoint:imap.customer.example:993:user@example.test", ?_, ?_, ?_, ?_, ?_⟩
    · decide +kernel
    · decide +kernel
    · decide +kernel
    · decide +kernel
    · decide
  exact ⟨scanned, rfl, fun acknowledged concurrency =>
    (caseCollisions_detected .ascii _).2.2 true acknowledged concurrency scanned collision⟩

end MailSwiftSync
