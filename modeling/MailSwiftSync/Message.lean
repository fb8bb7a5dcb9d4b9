import Mathlib.Data.List.AList
import Mathlib.Data.List.Sort
import Mathlib.Data.String.Basic
import Mathlib.Data.Prod.Lex
import Mathlib.Data.Sum.Order
import Mathlib.Order.WithBot

/-!
# Extracted messages

The data the verifier works on: mailbox-local message keys, the metadata fetched
for each message, and the identities derived from it.  Date parsing belongs to
an external crate, so it enters through `Platform`.
-/

namespace MailSwiftSync

/-! ## Text -/

/-- Code points with the Unicode `White_Space` property, as `char::is_whitespace`. -/
def isWhitespace (c : Char) : Bool :=
  let code := c.toNat
  (9 ≤ code && code ≤ 13) || code == 0x20 || code == 0x85 || code == 0xA0 ||
    code == 0x1680 || (0x2000 ≤ code && code ≤ 0x200A) || code == 0x2028 ||
    code == 0x2029 || code == 0x202F || code == 0x205F || code == 0x3000

/-- `str::trim`. -/
def trim (text : String) : String :=
  String.ofList ((text.toList.dropWhile isWhitespace).reverse.dropWhile
    isWhitespace).reverse

/-- `str::starts_with` for a literal. -/
def startsWith (text literal : String) : Bool :=
  literal.toList.isPrefixOf text.toList

/-- Saturating addition of `usize` and `u64` values. -/
def saturatingAdd (left right : Nat) : Nat :=
  min (left + right) (2 ^ 64 - 1)

/-- `sort_unstable` on distinct values, where stability cannot be observed. -/
def sortUnstable {α : Type*} [LinearOrder α] (items : List α) : List α :=
  items.insertionSort (· ≤ ·)

section Sorting

variable {α : Type*} [LinearOrder α]

theorem sortUnstable_perm (items : List α) : (sortUnstable items).Perm items :=
  List.perm_insertionSort _ items

theorem sortUnstable_sorted (items : List α) :
    (sortUnstable items).Pairwise (· ≤ ·) :=
  List.pairwise_insertionSort _ items

@[simp] theorem mem_sortUnstable {items : List α} {item : α} :
    item ∈ sortUnstable items ↔ item ∈ items :=
  (sortUnstable_perm items).mem_iff

theorem sortUnstable_nodup {items : List α} (nodup : items.Nodup) :
    (sortUnstable items).Nodup :=
  (sortUnstable_perm items).nodup_iff.mpr nodup

/-- Sorting is determined by the members of a list. -/
theorem sortUnstable_eq {items sorted : List α} (perm : items.Perm sorted)
    (ordered : sorted.Pairwise (· ≤ ·)) : sortUnstable items = sorted :=
  ((sortUnstable_perm items).trans perm).eq_of_pairwise' (sortUnstable_sorted items) ordered

theorem sortUnstable_filter (keep : α → Bool) (items : List α) :
    sortUnstable (items.filter keep) = (sortUnstable items).filter keep :=
  sortUnstable_eq ((sortUnstable_perm items).filter keep).symm
    ((sortUnstable_sorted items).filter keep)

end Sorting

/-! ## Keys -/

/-- A message's local identity.  UIDs are unique only within a mailbox and
UIDVALIDITY context, so a bare UID is never a key. -/
structure MailboxMessageKey where
  mailbox : String
  uidvalidity : Option Nat
  uid : String
deriving DecidableEq, Repr, Inhabited

namespace MailboxMessageKey

/-- The derived `Ord`: fields compared in order, `None` before `Some`. -/
def sortKey (key : MailboxMessageKey) : String ×ₗ WithBot Nat ×ₗ String :=
  toLex (key.mailbox, toLex (key.uidvalidity, key.uid))

theorem sortKey_injective : Function.Injective sortKey := by
  rintro ⟨mailbox, uidvalidity, uid⟩ ⟨mailbox', uidvalidity', uid'⟩ equal
  obtain ⟨rfl, equalRest⟩ := Prod.mk.inj (toLex.injective equal)
  obtain ⟨rfl, rfl⟩ := Prod.mk.inj (toLex.injective equalRest)
  rfl

instance : LinearOrder MailboxMessageKey :=
  LinearOrder.lift' sortKey sortKey_injective

end MailboxMessageKey

/-! ## Messages -/

/-- Message-level details fetched from one endpoint. -/
structure ExtractedMessage where
  messageId : Option String := none
  uid : Option String := none
  sizeBytes : Option Nat := none
  internalDate : Option String := none
  flags : Option String := none
deriving DecidableEq, Repr, Inhabited

/-- The fetched messages of one endpoint.  The list order is the iteration order
of the hash map, which nothing may depend on. -/
abbrev ExtractedMessages : Type := AList fun _ : MailboxMessageKey => ExtractedMessage

/-- Source-to-destination folder names that differ. -/
abbrev FolderMapping : Type := AList fun _ : String => String

/-- `messages[key]` for a key of the map. -/
def ExtractedMessages.at (messages : ExtractedMessages) (key : MailboxMessageKey) :
    ExtractedMessage :=
  (messages.lookup key).getD default

/-- Where a message's identity value comes from. -/
inductive MessageIdentityProvenance where
  | missing
  | rfcMessageId
  | syntheticHeaderFingerprint
deriving DecidableEq, Repr

/-- Classify the identity value without conflating a generated header digest with
an RFC Message-ID. -/
def ExtractedMessage.identityProvenance (message : ExtractedMessage) :
    MessageIdentityProvenance :=
  match message.messageId with
  | some value =>
    if startsWith value "header-fingerprint:" then .syntheticHeaderFingerprint
    else if trim value ≠ "" then .rfcMessageId
    else .missing
  | none => .missing

/-- The identity under which `index_by_message_id` files a message. -/
def ExtractedMessage.rfcIdentity (message : ExtractedMessage) : Option String :=
  (((message.messageId.filter
    fun _ => message.identityProvenance = .rfcMessageId).map trim).filter
      fun messageId => messageId ≠ "")

/-- The folder a source message is expected in: its mapping, or its own name. -/
def expectedDestinationFolder (sourceKey : MailboxMessageKey)
    (folderMapping : FolderMapping) : String :=
  (folderMapping.lookup sourceKey.mailbox).getD sourceKey.mailbox

/-! ## Metadata -/

/-- A comparable internal date: a parsed one by its UTC epoch, any other verbatim. -/
inductive NormalizedInternalDate where
  | epoch (timestamp : Int)
  | raw (value : String)
deriving DecidableEq, Repr

/-- The derived `Ord`: epochs before raw values. -/
def NormalizedInternalDate.sortKey : NormalizedInternalDate → Int ⊕ₗ String
  | .epoch timestamp => Sum.inlₗ timestamp
  | .raw value => Sum.inrₗ value

theorem NormalizedInternalDate.sortKey_injective :
    Function.Injective NormalizedInternalDate.sortKey := by
  intro left right equal
  cases left <;> cases right <;> simp_all [NormalizedInternalDate.sortKey]

/-- The compared metadata of one message. -/
structure MetadataFingerprint where
  internalDate : NormalizedInternalDate
  sizeBytes : Nat
deriving DecidableEq, Repr

namespace MetadataFingerprint

def sortKey (fingerprint : MetadataFingerprint) : (Int ⊕ₗ String) ×ₗ Nat :=
  toLex (fingerprint.internalDate.sortKey, fingerprint.sizeBytes)

theorem sortKey_injective : Function.Injective sortKey := by
  rintro ⟨date, size⟩ ⟨date', size'⟩ equal
  obtain ⟨dateEqual, sizeEqual⟩ := Prod.mk.inj (toLex.injective equal)
  obtain rfl := NormalizedInternalDate.sortKey_injective dateEqual
  exact congrArg _ sizeEqual

instance : LinearOrder MetadataFingerprint :=
  LinearOrder.lift' sortKey sortKey_injective

end MetadataFingerprint

/-- `DateTime::parse_from_str(_, "%d-%b-%Y %H:%M:%S %z")` of the date crate, as the
UTC timestamp of the parsed date. -/
abbrev DateParser : Type := String → Option Int

/-- Parsed dates use their epoch; other dates keep their original text. -/
def normalizeInternalDate (parseDate : DateParser) (value : String) :
    NormalizedInternalDate :=
  match parseDate (trim value) with
  | some timestamp => .epoch timestamp
  | none => .raw value

/-- The metadata of a message that has both an internal date and a size. -/
def metadataFingerprint (parseDate : DateParser) (message : ExtractedMessage) :
    Option MetadataFingerprint := do
  let internalDate ← message.internalDate
  let sizeBytes ← message.sizeBytes
  return ⟨normalizeInternalDate parseDate internalDate, sizeBytes⟩

theorem metadataFingerprint_isSome (parseDate : DateParser) (message : ExtractedMessage) :
    (metadataFingerprint parseDate message).isSome ↔
      message.internalDate.isSome ∧ message.sizeBytes.isSome := by
  cases dated : message.internalDate with
  | none => simp [metadataFingerprint, dated]
  | some date =>
    cases sized : message.sizeBytes with
    | none => simp [metadataFingerprint, dated, sized]
    | some size => simp [metadataFingerprint, dated, sized]

theorem rfcIdentity_eq_some {message : ExtractedMessage} {identity : String} :
    message.rfcIdentity = some identity ↔
      message.identityProvenance = .rfcMessageId ∧
        ∃ value, message.messageId = some value ∧ trim value = identity := by
  cases identified : message.messageId with
  | none =>
    simp [ExtractedMessage.rfcIdentity, ExtractedMessage.identityProvenance, identified]
  | some value =>
    by_cases synthetic : startsWith value "header-fingerprint:"
    · simp [ExtractedMessage.rfcIdentity, ExtractedMessage.identityProvenance,
        identified, synthetic, Option.filter]
    · by_cases blank : trim value = ""
      · simp [ExtractedMessage.rfcIdentity, ExtractedMessage.identityProvenance,
          identified, synthetic, blank, Option.filter]
      · simp [ExtractedMessage.rfcIdentity, ExtractedMessage.identityProvenance,
          identified, synthetic, blank, Option.filter]

theorem rfcIdentity_isSome (message : ExtractedMessage) :
    message.rfcIdentity.isSome ↔ message.identityProvenance = .rfcMessageId := by
  rw [Option.isSome_iff_exists]
  constructor
  · rintro ⟨identity, isIdentity⟩
    exact (rfcIdentity_eq_some.mp isIdentity).1
  · intro provenance
    cases identified : message.messageId with
    | none => simp [ExtractedMessage.identityProvenance, identified] at provenance
    | some value => exact ⟨trim value, rfcIdentity_eq_some.mpr ⟨provenance, value, identified, rfl⟩⟩

end MailSwiftSync
