import Mathlib.Algebra.Group.Int.Defs
import Mathlib.Data.List.Sort
import MailSwiftSync.Foundation.Encoding
import MailSwiftSync.Foundation.HashChain
import MailSwiftSync.Foundation.Metered
import MailSwiftSync.Foundation.Table

/-!
# The audit log

Audit entries are chained: the hash of each covers the previous hash and, length-prefixed,
every field of its own.  Verification recomputes the chain.
-/

namespace MailSwiftSync.Control

open Foundation

/-- A SHA-256 digest. -/
abbrev Digest := Vector UInt8 32

/-- The digest before the first entry. -/
def Digest.zero : Digest := Vector.replicate 32 0

/-- One audited decision. -/
structure AuditEntry where
  time : Int
  requestId : String
  actor : String
  tenant : Option String
  action : String
  resource : String
  allowed : Bool
  detail : String
deriving DecidableEq

namespace AuditEntry

/-- The column `decision`. -/
def decision (entry : AuditEntry) : String := if entry.allowed then "allow" else "deny"

/-- The hashed fields. -/
def fields (entry : AuditEntry) : List (Option String) :=
  [some (toString entry.time), some entry.requestId, some entry.actor, entry.tenant,
    some entry.action, some entry.resource, some entry.decision, some entry.detail]

/-- The lengths of all texts fit into 64 bits. -/
def Sized (entry : AuditEntry) : Prop :=
  ∀ field ∈ entry.fields, ∀ text ∈ field, text.toUTF8.data.toList.length < 256 ^ 8

instance (entry : AuditEntry) : Decidable entry.Sized :=
  inferInstanceAs (Decidable (∀ field ∈ entry.fields, ∀ text ∈ field, _))

end AuditEntry

def utf8 (text : String) : List UInt8 := text.toUTF8.data.toList

/-- A field: absent, or its length and its bytes. -/
def encodeField (field : Option String) : List UInt8 :=
  field.elim [0] fun text => 1 :: (bigEndian 8 (utf8 text).length ++ utf8 text)

/-- What is hashed. -/
def preimage (previous : Digest) (entry : AuditEntry) : List UInt8 :=
  utf8 "mailswiftsync-control-audit-v1" ++ previous.toList ++ entry.fields.flatMap encodeField

/-- SHA-256 over the previous hash and length-prefixed fields. -/
def chainHash (sha256 : List UInt8 → Digest) (previous : Digest) (entry : AuditEntry) : Digest :=
  sha256 (preimage previous entry)

/-! ## Injectivity -/

theorem utf8_injective : Function.Injective utf8 := by
  intro first second same
  have bytes : first.toUTF8 = second.toUTF8 := ByteArray.ext (Array.toList_inj.mp same)
  exact String.toByteArray_inj.mp bytes

theorem delimited_encodeField :
    Delimited (fun field : Option String => ∀ text ∈ field, (utf8 text).length < 256 ^ 8)
      encodeField :=
  delimited_option (by decide)
    ((delimited_lengthPrefixed (delimited_bigEndian 8)).comp utf8_injective)

theorem repr_injective : Function.Injective Nat.repr := by
  intro first second same
  have digits := congrArg String.toList same
  rw [Nat.toList_repr, Nat.toList_repr] at digits
  have numbers := congrArg (Nat.ofDigitChars 10 · 0) digits
  simpa only [Nat.ofDigitChars_ten_toDigits] using numbers

/-- A number is not written like a negative one. -/
theorem repr_ne_negative (first second : Nat) : first.repr ≠ "-" ++ second.repr := by
  intro same
  have digits := congrArg String.toList same
  rw [Nat.toList_repr, String.toList_append] at digits
  have minus : '-' ∈ Nat.toDigits 10 first := by
    rw [digits]
    exact List.mem_append_left _ (by decide)
  have isDigit := Nat.isDigit_of_mem_toDigits (by decide) (by decide) minus
  exact absurd isDigit (by decide)

theorem toString_injective : Function.Injective (toString : Int → String) := by
  intro first second same
  rw [Int.toString_eq_repr, Int.toString_eq_repr, Int.repr_eq_if, Int.repr_eq_if] at same
  split at same
  · split at same
    · have numbers := repr_injective same
      omega
    · exact absurd same (repr_ne_negative _ _)
  · split at same
    · exact absurd same.symm (repr_ne_negative _ _)
    · have numbers := repr_injective (String.append_right_inj _ |>.mp same)
      omega

theorem fields_injective : Function.Injective AuditEntry.fields := by
  intro first second same
  obtain ⟨time, requestId, actor, tenant, action, resource, allowed, detail⟩ := first
  obtain ⟨time', requestId', actor', tenant', action', resource', allowed', detail'⟩ := second
  simp only [AuditEntry.fields, AuditEntry.decision, List.cons.injEq, Option.some.injEq] at same
  obtain ⟨times, rfl, rfl, rfl, rfl, rfl, decisions, rfl, _⟩ := same
  obtain rfl := toString_injective times
  cases allowed with
  | false =>
    cases allowed' with
    | false => rfl
    | true => exact absurd decisions (by simp)
  | true =>
    cases allowed' with
    | false => exact absurd decisions (by simp)
    | true => rfl

/-- The hashed bytes determine the previous hash and the entry. -/
theorem preimage_injective {previous previous' : Digest} {entry entry' : AuditEntry}
    (sized : entry.Sized) (sized' : entry'.Sized)
    (same : preimage previous entry = preimage previous' entry') :
    previous = previous' ∧ entry = entry' := by
  simp only [preimage, List.append_assoc] at same
  have rest := List.append_cancel_left same
  obtain ⟨digests, fields⟩ := List.append_inj rest (by simp)
  refine ⟨Vector.toList_inj.mp digests, fields_injective ?_⟩
  have ended :
      entry.fields.flatMap encodeField ++ [] = entry'.fields.flatMap encodeField ++ [] := by
    rw [fields]
  exact (delimited_encodeField.flatMap sized sized' rfl ended).1

/-! ## The table -/

structure AuditRow where
  seq : Int
  entry : AuditEntry
  prevHash : Digest
  hash : Digest
deriving DecidableEq

/-- The table `audit_log`. -/
abbrev AuditLog := Table AuditRow.seq

variable (sha256 : List UInt8 → Digest)

/-- The rows by sequence number. -/
def ordered (log : AuditLog) : List AuditRow :=
  log.rows.mergeSort fun first second => first.seq ≤ second.seq

/-- Append one entry at the head of the chain. -/
def appendAudit (log : AuditLog) (entry : AuditEntry) : AuditLog :=
  let previous := (ordered log).getLast?.elim Digest.zero (·.hash)
  let row : AuditRow := {
    seq := (ordered log).getLast?.elim 1 (·.seq + 1)
    entry
    prevHash := previous
    hash := chainHash sha256 previous entry }
  (log.insert row).getD log

/-- Recompute the chain from a head on. -/
def verifyFrom : Digest → Nat → List AuditRow → Except String Nat
  | _, count, [] => .ok count
  | previous, count, row :: rows =>
    if row.prevHash ≠ previous ∨ row.hash ≠ chainHash sha256 previous row.entry then
      .error ("audit log entry " ++ toString row.seq ++ " does not match the hash chain")
    else verifyFrom row.hash (count + 1) rows

/-- Recompute the hash chain; the number of entries, or the first that does not match. -/
def verifyAuditChain (log : AuditLog) : Except String Nat :=
  verifyFrom sha256 .zero 0 (ordered log)

/-! ## Completeness -/

variable {sha256} {log : AuditLog} {entry : AuditEntry}

/-- The head after some rows. -/
def headAfter (previous : Digest) (rows : List AuditRow) : Digest :=
  rows.getLast?.elim previous (·.hash)

theorem headAfter_cons (previous : Digest) (row : AuditRow) (rows : List AuditRow) :
    headAfter previous (row :: rows) = headAfter row.hash rows := by
  cases rows with
  | nil => rfl
  | cons other rest => rw [headAfter, headAfter, List.getLast?_cons_cons, List.getLast?_cons]; rfl

theorem verifyFrom_append {previous : Digest} {count total : Nat} {rows : List AuditRow}
    {row : AuditRow} (verified : verifyFrom sha256 previous count rows = .ok total)
    (linked : row.prevHash = headAfter previous rows)
    (hashed : row.hash = chainHash sha256 row.prevHash row.entry) :
    verifyFrom sha256 previous count (rows ++ [row]) = .ok (total + 1) := by
  induction rows generalizing previous count with
  | nil =>
    cases verified
    have linked : row.prevHash = previous := linked
    have intact : ¬(row.prevHash ≠ previous ∨
        row.hash ≠ chainHash sha256 previous row.entry) := by
      rw [hashed, linked]
      simp
    rw [List.nil_append, verifyFrom, if_neg intact]
    rfl
  | cons first rest ih =>
    rw [verifyFrom] at verified
    split at verified
    · cases verified
    · next intact =>
        rw [headAfter_cons] at linked
        rw [List.cons_append, verifyFrom, if_neg intact]
        exact ih verified linked

/-- A log as the service writes it. -/
structure Intact (sha256 : List UInt8 → Digest) (log : AuditLog) : Prop where
  sorted : log.rows.Pairwise fun first second => first.seq ≤ second.seq
  verified : verifyFrom sha256 .zero 0 log.rows = .ok log.rows.length

theorem Intact.ordered (intact : Intact sha256 log) : ordered log = log.rows :=
  List.mergeSort_of_pairwise (intact.sorted.imp fun bound => decide_eq_true bound)

theorem Intact.verifyAuditChain (intact : Intact sha256 log) :
    verifyAuditChain sha256 log = .ok log.rows.length := by
  rw [Control.verifyAuditChain, intact.ordered, intact.verified]

theorem intact_empty : Intact sha256 .empty where
  sorted := .nil
  verified := rfl

/-- The row that is appended. -/
def nextRow (sha256 : List UInt8 → Digest) (log : AuditLog) (entry : AuditEntry) : AuditRow where
  seq := log.rows.getLast?.elim 1 (·.seq + 1)
  entry := entry
  prevHash := headAfter .zero log.rows
  hash := chainHash sha256 (headAfter .zero log.rows) entry

/-- The next number is above all used ones. -/
theorem Intact.seq_lt (intact : Intact sha256 log) {row : AuditRow} (isRow : row ∈ log) :
    row.seq < (nextRow sha256 log entry).seq := by
  have isRow : row ∈ log.rows := isRow
  have nonempty : log.rows ≠ [] := List.ne_nil_of_mem isRow
  have last : row.seq ≤ (log.rows.getLast nonempty).seq := by
    obtain ⟨earlier, final, rows⟩ := List.eq_nil_or_concat log.rows |>.resolve_left nonempty
    have sorted := intact.sorted
    simp only [rows, List.concat_eq_append, List.getLast_append_singleton] at isRow sorted ⊢
    rw [List.mem_append, List.mem_singleton] at isRow
    rcases isRow with isEarlier | rfl
    · exact (List.pairwise_append.mp sorted).2.2 row isEarlier final (List.mem_singleton_self _)
    · exact le_refl _
  have seq : (nextRow sha256 log entry).seq = (log.rows.getLast nonempty).seq + 1 := by
    rw [nextRow, List.getLast?_eq_some_getLast nonempty]
    rfl
  omega

theorem Intact.rows_appendAudit (intact : Intact sha256 log) :
    (appendAudit sha256 log entry).rows = log.rows ++ [nextRow sha256 log entry] := by
  have fresh : ∀ other ∈ log, other.seq ≠ (nextRow sha256 log entry).seq :=
    fun other isOther => (intact.seq_lt isOther).ne
  obtain ⟨log', inserted⟩ := Table.insert_of_fresh fresh
  have appended : appendAudit sha256 log entry =
      (log.insert (nextRow sha256 log entry)).getD log := by
    rw [appendAudit, intact.ordered]
    rfl
  rw [appended, inserted, Option.getD_some, (Table.insert_eq_some inserted).2]

/-- Appending keeps the chain verifiable. -/
theorem Intact.appendAudit (intact : Intact sha256 log) :
    Intact sha256 (appendAudit sha256 log entry) where
  sorted := by
    rw [intact.rows_appendAudit]
    refine List.pairwise_append.mpr ⟨intact.sorted, List.pairwise_singleton _ _, ?_⟩
    intro row isRow other isOther
    rw [List.mem_singleton.mp isOther]
    exact (intact.seq_lt isRow).le
  verified := by
    rw [intact.rows_appendAudit, List.length_append]
    exact verifyFrom_append intact.verified rfl rfl

/-! ## Binding -/

/-- A row as a link of the chain. -/
def AuditRow.link (row : AuditRow) : ChainLink AuditEntry Digest where
  entry := row.entry
  previous := row.prevHash
  hash := row.hash

/-- What was hashed for the rows of a table. -/
def preimages (log : AuditLog) : List (List UInt8) :=
  (ordered log).map fun row => preimage row.prevHash row.entry

/-- The entries by sequence number. -/
def entries (log : AuditLog) : List AuditEntry :=
  (ordered log).map (·.entry)

/-- The last stored hash. -/
def lastHash (log : AuditLog) : Option Digest :=
  (ordered log).getLast?.map (·.hash)

/-- Verified rows form a chain. -/
theorem chained_of_verifyFrom {previous : Digest} {count total : Nat} {rows : List AuditRow}
    (verified : verifyFrom sha256 previous count rows = .ok total) :
    Chained (chainHash sha256) previous (rows.map AuditRow.link) (headAfter previous rows) := by
  induction rows generalizing previous count with
  | nil => exact .nil
  | cons row rows ih =>
    rw [verifyFrom] at verified
    split at verified
    · cases verified
    · next intact =>
        obtain ⟨linked, hashed⟩ := not_or.mp intact
        have later := ih verified
        rw [not_not.mp hashed] at later
        have link : row.link = ⟨row.entry, previous, chainHash sha256 previous row.entry⟩ := by
          rw [AuditRow.link, not_not.mp linked, not_not.mp hashed]
        rw [List.map_cons, link, headAfter_cons, not_not.mp hashed]
        exact .cons row.entry later

/-- Two verified tables without collisions that end in the same hash agree. -/
theorem entries_of_lastHash {log' : AuditLog} {count count' : Nat}
    (sized : ∀ entry ∈ entries log, entry.Sized) (sized' : ∀ entry ∈ entries log', entry.Sized)
    (collisionFree : ∀ bytes ∈ preimages log, ∀ bytes' ∈ preimages log',
      sha256 bytes = sha256 bytes' → bytes = bytes')
    (nonzero : ∀ bytes ∈ preimages log ++ preimages log', sha256 bytes ≠ .zero)
    (verified : verifyAuditChain sha256 log = .ok count)
    (verified' : verifyAuditChain sha256 log' = .ok count')
    (same : lastHash log = lastHash log') : entries log = entries log' := by
  have heads : headAfter .zero (ordered log) = headAfter .zero (ordered log') := by
    have elim : ∀ rows : List AuditRow,
        headAfter .zero rows = (rows.getLast?.map (·.hash)).getD .zero := by
      intro rows
      rw [headAfter]
      cases rows.getLast? with
      | none => rfl
      | some row => rfl
    rw [elim, elim]
    exact congrArg (·.getD .zero) same
  have chained := chained_of_verifyFrom verified
  have chained' := chained_of_verifyFrom verified'
  rw [← heads] at chained'
  have links := chained.unique chained'
    (by
      intro link isLink link' isLink' collide
      obtain ⟨row, isRow, rfl⟩ := List.mem_map.mp isLink
      obtain ⟨row', isRow', rfl⟩ := List.mem_map.mp isLink'
      have bytes := collisionFree _ (List.mem_map_of_mem isRow) _ (List.mem_map_of_mem isRow')
        collide
      exact preimage_injective (sized _ (List.mem_map_of_mem isRow))
        (sized' _ (List.mem_map_of_mem isRow')) bytes)
    (by
      intro link isLink
      rw [← List.map_append] at isLink
      obtain ⟨row, isRow, rfl⟩ := List.mem_map.mp isLink
      apply nonzero
      rw [preimages, preimages, ← List.map_append]
      exact List.mem_map_of_mem (f := fun row : AuditRow => preimage row.prevHash row.entry) isRow)
  have sameEntries := congrArg (List.map ChainLink.entry) links
  rw [List.map_map, List.map_map] at sameEntries
  exact sameEntries

end MailSwiftSync.Control
