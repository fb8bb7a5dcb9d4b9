import MailSwiftSync.Imap.Text
import MailSwiftSync.Ledger.Destination

/-!
# What destination identities name

An identity is a host, a port and a mailbox with colons between them.  The address of a host may
have colons itself, so two destinations can be given one identity.
-/

namespace MailSwiftSync

/-! ## Joined texts -/

section Joined

variable {α : Type*} {separator : α}

theorem append_separator_inj {left right leftRest rightRest : List α} (notLeft : separator ∉ left)
    (notRight : separator ∉ right) :
    left ++ separator :: leftRest = right ++ separator :: rightRest ↔
      left = right ∧ leftRest = rightRest := by
  constructor
  · intro same
    induction left generalizing right with
    | nil =>
      cases right with
      | nil => exact ⟨rfl, (List.cons.inj same).2⟩
      | cons first right =>
        exact absurd ((List.cons.inj same).1 ▸ List.mem_cons_self) notRight
    | cons first left ih =>
      cases right with
      | nil => exact absurd ((List.cons.inj same).1 ▸ List.mem_cons_self) notLeft
      | cons other right =>
        rw [List.mem_cons, not_or] at notLeft notRight
        obtain ⟨sameFirst, sameRest⟩ := List.cons.inj same
        obtain ⟨sameLeft, sameRest⟩ := ih notLeft.2 notRight.2 sameRest
        exact ⟨by rw [sameFirst, sameLeft], sameRest⟩
  · rintro ⟨rfl, rfl⟩
    rfl

/-- Three texts with separators between them, the first of which goes on as the three of the other
text begin. -/
def Continues (separator : α) (head middle tail otherHead otherMiddle otherTail : List α) : Prop :=
  ∃ between, otherHead = head ++ separator :: (middle ++ between) ∧
    separator :: tail = between ++ separator :: (otherMiddle ++ separator :: otherTail)

variable {head middle tail otherHead otherMiddle otherTail : List α}

theorem Continues.eq (continues :
      Continues separator head middle tail otherHead otherMiddle otherTail) :
    head ++ separator :: (middle ++ separator :: tail) =
      otherHead ++ separator :: (otherMiddle ++ separator :: otherTail) := by
  obtain ⟨between, rfl, isTail⟩ := continues
  rw [isTail, List.append_assoc, List.cons_append, List.append_assoc]

theorem Continues.ne (continues :
      Continues separator head middle tail otherHead otherMiddle otherTail) :
    head ≠ otherHead := by
  obtain ⟨between, rfl, -⟩ := continues
  intro same
  have sameLength := congrArg List.length same
  rw [List.length_append, List.length_cons] at sameLength
  omega

/-- What joined texts have in common when the first is not the longer one. -/
theorem continues_of_append {more : List α} (notMiddle : separator ∉ middle)
    (notOther : separator ∉ otherMiddle)
    (isRest : separator :: (middle ++ separator :: tail) =
      more ++ separator :: (otherMiddle ++ separator :: otherTail)) :
    more = [] ∧ middle = otherMiddle ∧ tail = otherTail ∨
      Continues separator head middle tail (head ++ more) otherMiddle otherTail := by
  cases more with
  | nil =>
    obtain ⟨-, sameRest⟩ := List.cons.inj isRest
    exact .inl ⟨rfl, (append_separator_inj notMiddle notOther).mp sameRest⟩
  | cons first more =>
    obtain ⟨rfl, sameRest⟩ := List.cons.inj isRest
    right
    rcases List.append_eq_append_iff.mp sameRest with
      ⟨between, rfl, isTail⟩ | ⟨rest, isMiddle, isRest⟩
    · exact ⟨between, rfl, isTail⟩
    · cases rest with
      | nil =>
        rw [List.append_nil] at isMiddle
        exact ⟨[], by rw [isMiddle, List.append_nil], isRest.symm⟩
      | cons other rest =>
        obtain ⟨rfl, -⟩ := List.cons.inj isRest
        rw [isMiddle] at notMiddle
        exact absurd (List.mem_append_right _ List.mem_cons_self) notMiddle

/-- Joined texts are the same when their parts are, or when one of them continues the other. -/
theorem joined_eq_iff (notMiddle : separator ∉ middle) (notOther : separator ∉ otherMiddle) :
    head ++ separator :: (middle ++ separator :: tail) =
        otherHead ++ separator :: (otherMiddle ++ separator :: otherTail) ↔
      (head = otherHead ∧ middle = otherMiddle ∧ tail = otherTail) ∨
        Continues separator head middle tail otherHead otherMiddle otherTail ∨
          Continues separator otherHead otherMiddle otherTail head middle tail := by
  constructor
  · intro same
    rcases List.append_eq_append_iff.mp same with ⟨more, rfl, isRest⟩ | ⟨more, rfl, isRest⟩
    · rcases continues_of_append notMiddle notOther isRest with ⟨rfl, sameParts⟩ | continues
      · exact .inl ⟨(List.append_nil _).symm, sameParts⟩
      · exact .inr (.inl continues)
    · rcases continues_of_append notOther notMiddle isRest with
        ⟨rfl, sameMiddle, sameTail⟩ | continues
      · exact .inl ⟨List.append_nil _, sameMiddle.symm, sameTail.symm⟩
      · exact .inr (.inr continues)
  · rintro (⟨rfl, rfl, rfl⟩ | continues | continues)
    · rfl
    · exact continues.eq
    · exact continues.eq.symm

end Joined

/-! ## Parts of an identity -/

/-- A destination: the host as it is compared, the port that is connected to, and the mailbox. -/
structure DestinationParts where
  host : String
  port : Nat
  mailbox : String
deriving DecidableEq, Repr

namespace LedgerPlatform

variable (platform : LedgerPlatform)

/-- The destination that accepted fields name. -/
def destinationParts (mailbox host tls configuredPort : String) :
    Except String DestinationParts := do
  let mailbox := trim mailbox
  if mailbox = "" then .error "destination mailbox is empty"
  let defaultPort := if tls = "starttls" || tls = "plain" then 143 else 993
  let (host, port) ← platform.parts host defaultPort
  let port ←
    if trim configuredPort = "" then .ok port
    else
      match parseU16 (trim configuredPort) with
      | none => .error "destination endpoint port is invalid"
      | some 0 => .error "destination endpoint port must be between 1 and 65535"
      | some port => .ok port
  return { host := platform.comparedHost host, port := port, mailbox := mailbox }

end LedgerPlatform

namespace DestinationParts

variable (platform : LedgerPlatform)

/-- The mailbox as it is compared. -/
def comparedMailbox (destination : DestinationParts) (forceCasefold : Bool) : String :=
  if forceCasefold || LedgerPlatform.mailboxCaseInsensitiveForHost destination.host then
    platform.toLowercase destination.mailbox
  else destination.mailbox

def identity (destination : DestinationParts) (forceCasefold : Bool) : String :=
  "endpoint:" ++ destination.host ++ ":" ++ toString destination.port ++ ":" ++
    destination.comparedMailbox platform forceCasefold

/-- The same mailbox of the same endpoint; hosts that ignore the case of mailboxes are known. -/
def Same (left right : DestinationParts) : Prop :=
  left.port = right.port ∧ left.host = right.host ∧
    if LedgerPlatform.mailboxCaseInsensitiveForHost left.host then
      platform.toLowercase left.mailbox = platform.toLowercase right.mailbox
    else left.mailbox = right.mailbox

/-- The host of the second goes on as the host and the port of the first and the beginning of its
mailbox do, and the rest of that mailbox is the port and the mailbox of the second. -/
def Overlaps (left right : DestinationParts) : Prop :=
  Continues ':' left.host.toList (toString left.port).toList
    (left.comparedMailbox platform false).toList right.host.toList (toString right.port).toList
    (right.comparedMailbox platform false).toList

end DestinationParts

namespace LedgerPlatform

variable (platform : LedgerPlatform)

theorem destinationIdentity_eq (mailbox host tls configuredPort : String) (forceCasefold : Bool) :
    platform.destinationIdentity mailbox host tls configuredPort forceCasefold =
      (platform.destinationParts mailbox host tls configuredPort).map
        (·.identity platform forceCasefold) := by
  unfold destinationIdentity destinationParts
  dsimp only
  by_cases noMailbox : trim mailbox = ""
  · rw [if_pos noMailbox, if_pos noMailbox]
    rfl
  · rw [if_neg noMailbox, if_neg noMailbox]
    cases platform.parts host (if tls = "starttls" || tls = "plain" then 143 else 993) with
    | error message => rfl
    | ok endpoint =>
      by_cases noPort : trim configuredPort = ""
      · simp only [pure, Except.pure, bind, Except.bind, if_pos noPort]
        rfl
      · simp only [pure, Except.pure, bind, Except.bind, if_neg noPort]
        cases parseU16 (trim configuredPort) with
        | none => rfl
        | some number =>
          cases number with
          | zero => rfl
          | succ number => rfl

end LedgerPlatform

namespace DestinationParts

variable {platform : LedgerPlatform} {left right : DestinationParts}

theorem toList_toString (number : Nat) : (toString number).toList = Nat.toDigits 10 number :=
  String.toList_ofList

theorem colon_not_mem_port (port : Nat) : ':' ∉ (toString port).toList := by
  rw [toList_toString]
  exact Imap.not_mem_toDigits (by decide) port

/-- Identities agree when the parts do, or when one destination overlaps the other. -/
theorem identity_eq_iff :
    left.identity platform false = right.identity platform false ↔
      (left.host = right.host ∧ left.port = right.port ∧
        left.comparedMailbox platform false = right.comparedMailbox platform false) ∨
      Overlaps platform left right ∨ Overlaps platform right left := by
  have joined : ∀ destination : DestinationParts,
      (destination.identity platform false).toList = "endpoint:".toList ++
        (destination.host.toList ++ ':' :: ((toString destination.port).toList ++
          ':' :: (destination.comparedMailbox platform false).toList)) := by
    intro destination
    rw [identity]
    simp only [String.toList_append, List.append_assoc]
    rfl
  rw [← String.toList_inj, joined, joined, List.append_cancel_left_eq,
    joined_eq_iff (colon_not_mem_port _) (colon_not_mem_port _), String.toList_inj,
    String.toList_inj, String.toList_inj]
  have samePort : toString left.port = toString right.port ↔ left.port = right.port := by
    constructor
    · intro same
      rw [← Imap.foldl_toDigits left.port, ← toList_toString, same, toList_toString,
        Imap.foldl_toDigits]
    · exact congrArg toString
  rw [samePort]
  rfl

theorem same_iff : Same platform left right ↔
    left.host = right.host ∧ left.port = right.port ∧
      left.comparedMailbox platform false = right.comparedMailbox platform false := by
  rw [Same]
  constructor
  · rintro ⟨samePort, sameHost, sameMailbox⟩
    refine ⟨sameHost, samePort, ?_⟩
    rw [comparedMailbox, comparedMailbox, ← sameHost, Bool.false_or]
    split
    next isKnown => rwa [if_pos isKnown] at sameMailbox
    next isUnknown => rwa [if_neg isUnknown] at sameMailbox
  · rintro ⟨sameHost, samePort, sameMailbox⟩
    refine ⟨samePort, sameHost, ?_⟩
    rw [comparedMailbox, comparedMailbox, ← sameHost, Bool.false_or] at sameMailbox
    split
    next isKnown => rwa [if_pos isKnown, if_pos isKnown] at sameMailbox
    next isUnknown => rwa [if_neg isUnknown, if_neg isUnknown] at sameMailbox

/-- The same destination has the same identity without the case of the mailbox. -/
theorem Same.casefolded (same : Same platform left right) :
    left.identity platform true = right.identity platform true := by
  obtain ⟨samePort, sameHost, sameMailbox⟩ := same
  have sameFolded : platform.toLowercase left.mailbox = platform.toLowercase right.mailbox := by
    split at sameMailbox
    · exact sameMailbox
    · rw [sameMailbox]
  rw [identity, identity, comparedMailbox, comparedMailbox, Bool.true_or, Bool.true_or, if_pos rfl,
    if_pos rfl, samePort, sameHost, sameFolded]

end DestinationParts

open DestinationParts

/-- Two accepted destinations are told apart by their identities, and by them only, exactly when
neither overlaps the other. -/
theorem destinationIdentity_names_iff {platform : LedgerPlatform}
    {mailbox host tls port mailbox' host' tls' port' : String} {left right : DestinationParts}
    (isLeft : platform.destinationParts mailbox host tls port = .ok left)
    (isRight : platform.destinationParts mailbox' host' tls' port' = .ok right) :
    ((platform.canonicalDestinationIdentity mailbox host tls port =
          platform.canonicalDestinationIdentity mailbox' host' tls' port' ↔
        Same platform left right) ∧
      (platform.canonicalDestinationIdentity mailbox host tls port =
          platform.canonicalDestinationIdentity mailbox' host' tls' port' →
        platform.casefoldedDestinationIdentity mailbox host tls port =
          platform.casefoldedDestinationIdentity mailbox' host' tls' port')) ↔
      ¬Overlaps platform left right ∧ ¬Overlaps platform right left := by
  have canonical : platform.canonicalDestinationIdentity mailbox host tls port =
        platform.canonicalDestinationIdentity mailbox' host' tls' port' ↔
      Same platform left right ∨ Overlaps platform left right ∨ Overlaps platform right left := by
    rw [LedgerPlatform.canonicalDestinationIdentity, LedgerPlatform.canonicalDestinationIdentity,
      LedgerPlatform.destinationIdentity_eq, LedgerPlatform.destinationIdentity_eq, isLeft, isRight,
      same_iff, ← identity_eq_iff]
    exact ⟨Except.ok.inj, congrArg Except.ok⟩
  have casefolded : Same platform left right →
      platform.casefoldedDestinationIdentity mailbox host tls port =
        platform.casefoldedDestinationIdentity mailbox' host' tls' port' := by
    intro same
    rw [LedgerPlatform.casefoldedDestinationIdentity, LedgerPlatform.casefoldedDestinationIdentity,
      LedgerPlatform.destinationIdentity_eq, LedgerPlatform.destinationIdentity_eq, isLeft, isRight]
    exact congrArg Except.ok same.casefolded
  have hostsDiffer : ∀ {left right : DestinationParts}, Overlaps platform left right →
      left.host ≠ right.host := by
    intro left right overlaps sameHost
    exact Continues.ne overlaps (congrArg String.toList sameHost)
  rw [canonical]
  constructor
  · rintro ⟨names, -⟩
    constructor
    · intro overlaps
      exact hostsDiffer overlaps (names.mp (.inr (.inl overlaps))).2.1
    · intro overlaps
      exact hostsDiffer overlaps (names.mp (.inr (.inr overlaps))).2.1.symm
  · rintro ⟨notLeft, notRight⟩
    have onlySame : Same platform left right ∨ Overlaps platform left right ∨
        Overlaps platform right left ↔ Same platform left right := by
      rw [or_iff_left]
      rintro (overlaps | overlaps)
      · exact notLeft overlaps
      · exact notRight overlaps
    rw [onlySame]
    exact ⟨Iff.rfl, casefolded⟩

/-! ## Two addresses -/

/-- A platform that reads three addresses, for examples. -/
def LedgerPlatform.addresses : LedgerPlatform :=
  { LedgerPlatform.ascii with
    parseIpv6 := fun text => text ∈ ["fe80::1", "fe80::1:993", "2001:db8::1"]
    parseIpAddr := fun text =>
      if text ∈ ["fe80::1", "fe80::1:993", "2001:db8::1"] then some text else none }

/-- Two addresses without a common beginning. -/
theorem addresses_apart :
    LedgerPlatform.addresses.canonicalDestinationIdentity "5:x" "fe80::1" "imaps" "993" =
        LedgerPlatform.addresses.canonicalDestinationIdentity "x" "[2001:db8::1]" "imaps" "5" ↔
      Same LedgerPlatform.addresses ⟨"fe80::1", 993, "5:x"⟩ ⟨"2001:db8::1", 5, "x"⟩ := by
  refine ((destinationIdentity_names_iff (by decide +kernel) (by decide +kernel)).mpr ⟨?_, ?_⟩).1
  · rintro ⟨between, starts, -⟩
    cases starts
  · rintro ⟨between, starts, -⟩
    cases starts

/-- The port of one destination is read as the end of the address of the other. -/
theorem address_with_port :
    ¬∀ (platform : LedgerPlatform) (mailbox host tls port mailbox' host' tls' port' : String)
      (left right : DestinationParts),
      platform.destinationParts mailbox host tls port = .ok left →
      platform.destinationParts mailbox' host' tls' port' = .ok right →
      (platform.canonicalDestinationIdentity mailbox host tls port =
          platform.canonicalDestinationIdentity mailbox' host' tls' port' ↔
        Same platform left right) := by
  intro always
  have names := always LedgerPlatform.addresses "5:x" "fe80::1" "imaps" "993" "x" "fe80::1:993"
    "imaps" "5" ⟨"fe80::1", 993, "5:x"⟩ ⟨"fe80::1:993", 5, "x"⟩ (by decide +kernel)
    (by decide +kernel)
  have samePort : 993 = 5 := (names.mp (by decide +kernel)).1
  cases samePort

end MailSwiftSync
