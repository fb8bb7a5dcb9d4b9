import MailSwiftSync.Control.Audit
import MailSwiftSync.Foundation.Relational
import MailSwiftSync.Imap.HeaderIdentities
import MailSwiftSync.Verification.DovecotStatus

/-!
# What digests are taken of

Two digests stand for values that are compared later: that of the UIDVALIDITYs of both sides, which
binds a checkpoint to its mailboxes, and that of the plan of a batch row.  The hashed bytes
determine the values.
-/

namespace MailSwiftSync

open Foundation
open Control (utf8 utf8_injective encodeField delimited_encodeField)
open Imap (Text utf8Bytes hexEncode hexEncode_injective)

/-! ## The context of a checkpoint -/

/-- A `BTreeMap` of names and UIDVALIDITYs. -/
abbrev UidValidities : Type := AList fun _ : Text => Nat

namespace UidValidities

/-- A mailbox: its name up to a null byte, and eight bytes. -/
def encodeEntry (entry : Sigma fun _ : Text => Nat) : List UInt8 :=
  utf8Bytes entry.1 ++ [0] ++ littleEndian 8 entry.2

/-- One side, its mailboxes in the order of the names. -/
def encodeSide (side : String) (values : UidValidities) : List UInt8 :=
  utf8 side ++ [0] ++ (orderBy Sigma.fst values.entries).flatMap encodeEntry ++ [0xFF]

/-- What is hashed for both sides. -/
def preimage (source destination : UidValidities) : List UInt8 :=
  encodeSide "source" source ++ encodeSide "destination" destination

end UidValidities

/-- The digest in hexadecimal, unless a mailbox is without a UIDVALIDITY. -/
def dovecotCheckpointContextDigest (sha256 : List UInt8 → List UInt8)
    (source destination : DovecotStatusAccumulator) : Option Text :=
  if source.uidvalidities.entries.length ≠ source.mailboxes.card ||
      destination.uidvalidities.entries.length ≠ destination.mailboxes.card then none
  else
    some (hexEncode (sha256
      (UidValidities.preimage source.uidvalidities destination.uidvalidities)))

/-! ## The plan of a row -/

/-- What is hashed for a configuration and overrides. -/
def rowPlanPreimage (config overrides : Option String) : List UInt8 :=
  utf8 "mailswiftsync-worker-plan-v1\x00" ++ [config, overrides].flatMap encodeField

/-- The digest of the effective plan of a batch row. -/
def rowPlanSha256 (sha256 : List UInt8 → List UInt8) (config overrides : Option String) : Text :=
  hexEncode (sha256 (rowPlanPreimage config overrides))

/-! ## Names -/

theorem utf8Bytes_eq (text : Text) : utf8Bytes text = text.flatMap String.utf8EncodeChar := by
  rw [utf8Bytes, String.toUTF8_eq_toByteArray, String.toByteArray_ofList, List.utf8Encode]
  exact List.toList_data_toByteArray

theorem utf8Bytes_injective : Function.Injective utf8Bytes :=
  fun _ _ same => String.ofList_injective (utf8_injective same)

/-- A name without null characters has no null bytes. -/
theorem zero_notMem_utf8Bytes {name : Text} (noNul : Char.ofNat 0 ∉ name) :
    0 ∉ utf8Bytes name := by
  rw [utf8Bytes_eq]
  intro isZero
  obtain ⟨c, isMember, isByte⟩ := List.mem_flatMap.mp isZero
  exact noNul ((mem_utf8EncodeChar isByte).2 rfl ▸ isMember)

theorem ne_of_mem_utf8Bytes {name : Text} {byte : UInt8} (isByte : byte ∈ utf8Bytes name) :
    byte ≠ 0xFF := by
  rw [utf8Bytes_eq] at isByte
  obtain ⟨c, _, isByte⟩ := List.mem_flatMap.mp isByte
  exact (mem_utf8EncodeChar isByte).1

/-! ## Reading back -/

namespace UidValidities

/-- Names without null characters, and 64-bit numbers. -/
structure WellFormed (values : UidValidities) : Prop where
  noNul : ∀ entry ∈ values.entries, Char.ofNat 0 ∉ entry.1
  fits : ∀ entry ∈ values.entries, entry.2 < 2 ^ 64

theorem delimited_encodeEntry :
    Delimited (fun entry : Sigma fun _ : Text => Nat =>
      Char.ofNat 0 ∉ entry.1 ∧ entry.2 < 2 ^ 64) encodeEntry := by
  intro first second rest rest' isFirst isSecond same
  have delimited := ((delimited_terminated (0 : UInt8)).comp utf8Bytes_injective).pair
    (delimited_littleEndian 8)
  obtain ⟨entries, rests⟩ := delimited (first.1, first.2) (second.1, second.2) rest rest'
    ⟨zero_notMem_utf8Bytes isFirst.1, isFirst.2⟩ ⟨zero_notMem_utf8Bytes isSecond.1, isSecond.2⟩ same
  obtain ⟨names, numbers⟩ := Prod.mk.inj entries
  exact ⟨Sigma.ext names (heq_of_eq numbers), rests⟩

/-- No mailbox begins like the end of the list. -/
theorem encodeEntry_opening (entry : Sigma fun _ : Text => Nat) :
    ∃ head tail, encodeEntry entry = head :: tail ∧ head ≠ 0xFF := by
  rw [encodeEntry]
  cases isName : utf8Bytes entry.1 with
  | nil => exact ⟨0, _, rfl, by decide⟩
  | cons byte bytes =>
    have isByte : byte ∈ utf8Bytes entry.1 := by
      rw [isName]
      exact List.mem_cons_self
    exact ⟨byte, _, rfl, ne_of_mem_utf8Bytes isByte⟩

/-- One side is read back as a map, whatever follows. -/
theorem encodeSide_inj {side : String} {first second : UidValidities} {rest rest' : List UInt8}
    (isFirst : first.WellFormed) (isSecond : second.WellFormed)
    (same : encodeSide side first ++ rest = encodeSide side second ++ rest') :
    (∀ name, first.lookup name = second.lookup name) ∧ rest = rest' := by
  have delimited := (delimited_encodeEntry.closed fun entry _ => encodeEntry_opening entry).after
    (utf8 side ++ [0])
  have readable : ∀ values : UidValidities, values.WellFormed →
      ∀ entry ∈ orderBy Sigma.fst values.entries,
        Char.ofNat 0 ∉ entry.1 ∧ entry.2 < 2 ^ 64 := by
    intro values wellFormed entry isEntry
    have isEntry := mem_orderBy.mp isEntry
    exact ⟨wellFormed.noNul entry isEntry, wellFormed.fits entry isEntry⟩
  rw [encodeSide, encodeSide, List.append_assoc _ _ [0xFF], List.append_assoc _ _ [0xFF]] at same
  obtain ⟨ordered, rests⟩ :=
    delimited _ _ rest rest' (readable first isFirst) (readable second isSecond) same
  have perm := orderBy_perm Sigma.fst second.entries
  rw [← ordered] at perm
  have perm := (orderBy_perm Sigma.fst first.entries).symm.trans perm
  exact ⟨fun name => AList.perm_lookup perm, rests⟩

theorem preimage_inj {source source' destination destination' : UidValidities}
    (isSource : source.WellFormed) (isSource' : source'.WellFormed)
    (isDestination : destination.WellFormed) (isDestination' : destination'.WellFormed)
    (same : preimage source destination = preimage source' destination') :
    (∀ name, source.lookup name = source'.lookup name) ∧
      ∀ name, destination.lookup name = destination'.lookup name := by
  obtain ⟨sources, destinations⟩ := encodeSide_inj isSource isSource' same
  have ended : encodeSide "destination" destination ++ [] =
      encodeSide "destination" destination' ++ [] := by rw [destinations]
  exact ⟨sources, (encodeSide_inj isDestination isDestination' ended).1⟩

/-- The digest of two accounts tells their UIDVALIDITYs apart, unless the hash collides. -/
theorem checkpointContext_inj {sha256 : List UInt8 → List UInt8} {digest : Text}
    {source source' destination destination' : DovecotStatusAccumulator}
    (isSource : WellFormed source.uidvalidities) (isSource' : WellFormed source'.uidvalidities)
    (isDestination : WellFormed destination.uidvalidities)
    (isDestination' : WellFormed destination'.uidvalidities)
    (noCollision : sha256 (preimage source.uidvalidities destination.uidvalidities) =
        sha256 (preimage source'.uidvalidities destination'.uidvalidities) →
      preimage source.uidvalidities destination.uidvalidities =
        preimage source'.uidvalidities destination'.uidvalidities)
    (first : dovecotCheckpointContextDigest sha256 source destination = some digest)
    (second : dovecotCheckpointContextDigest sha256 source' destination' = some digest) :
    (∀ name, source.uidvalidities.lookup name = source'.uidvalidities.lookup name) ∧
      ∀ name, destination.uidvalidities.lookup name = destination'.uidvalidities.lookup name := by
  rw [dovecotCheckpointContextDigest] at first second
  split at first
  · cases first
  split at second
  · cases second
  exact preimage_inj isSource isSource' isDestination isDestination' (noCollision
    (hexEncode_injective ((Option.some.inj first).trans (Option.some.inj second).symm)))

end UidValidities

/-- The texts of a row fit into memory. -/
def RowPlanFits (config overrides : Option String) : Prop :=
  ∀ field ∈ [config, overrides], ∀ text ∈ field, (utf8 text).length < 2 ^ 64

instance (config overrides : Option String) : Decidable (RowPlanFits config overrides) :=
  inferInstanceAs (Decidable (∀ field ∈ [config, overrides], ∀ text ∈ field, _))

theorem rowPlanPreimage_inj {config config' overrides overrides' : Option String}
    (fits : RowPlanFits config overrides) (fits' : RowPlanFits config' overrides')
    (same : rowPlanPreimage config overrides = rowPlanPreimage config' overrides') :
    config = config' ∧ overrides = overrides' := by
  have fields := List.append_cancel_left same
  have ended : [config, overrides].flatMap encodeField ++ [] =
      [config', overrides'].flatMap encodeField ++ [] := by rw [fields]
  obtain ⟨plans, _⟩ := delimited_encodeField.flatMap fits fits' rfl ended
  obtain ⟨configs, rest⟩ := List.cons.inj plans
  exact ⟨configs, (List.cons.inj rest).1⟩

/-- Two rows with one digest have the same plan, unless the hash collides on their bytes. -/
theorem rowPlanSha256_inj {sha256 : List UInt8 → List UInt8}
    {config config' overrides overrides' : Option String}
    (fits : RowPlanFits config overrides) (fits' : RowPlanFits config' overrides')
    (noCollision : sha256 (rowPlanPreimage config overrides) =
        sha256 (rowPlanPreimage config' overrides') →
      rowPlanPreimage config overrides = rowPlanPreimage config' overrides')
    (same : rowPlanSha256 sha256 config overrides = rowPlanSha256 sha256 config' overrides') :
    config = config' ∧ overrides = overrides' :=
  rowPlanPreimage_inj fits fits' (noCollision (hexEncode_injective same))

/-- The hashed bytes determine what is hashed: the UIDVALIDITYs of both sides, when no name has a
null character, and the configuration and the overrides of a row. -/
theorem digest_preimages_unambiguous :
    (∀ source source' destination destination' : UidValidities,
      source.WellFormed → source'.WellFormed → destination.WellFormed → destination'.WellFormed →
      UidValidities.preimage source destination = UidValidities.preimage source' destination' →
      (∀ name, source.lookup name = source'.lookup name) ∧
        ∀ name, destination.lookup name = destination'.lookup name) ∧
    ∀ config config' overrides overrides' : Option String,
      RowPlanFits config overrides → RowPlanFits config' overrides' →
      rowPlanPreimage config overrides = rowPlanPreimage config' overrides' →
      config = config' ∧ overrides = overrides' :=
  ⟨fun _ _ _ _ isSource isSource' isDestination isDestination' same =>
      UidValidities.preimage_inj isSource isSource' isDestination isDestination' same,
    fun _ _ _ _ fits fits' same => rowPlanPreimage_inj fits fits' same⟩

/-- Maps filled in different orders, and a row without overrides. -/
theorem digest_preimages_unambiguous_inbox :
    let inbox : UidValidities := (∅ : UidValidities).insert "INBOX".toList 7
    let both : UidValidities := inbox.insert "Sent".toList 255
    let both' : UidValidities :=
      ((∅ : UidValidities).insert "Sent".toList 255).insert "INBOX".toList 7
    ((∀ name, both.lookup name = both'.lookup name) ∧
      ∀ name, inbox.lookup name = inbox.lookup name) ∧
    some "[source]" = some "[source]" ∧ (none : Option String) = none := by
  intro inbox both both'
  have wellFormed : inbox.WellFormed := ⟨by decide, by decide⟩
  have wellFormed' : both.WellFormed := ⟨by decide, by decide⟩
  have wellFormed'' : both'.WellFormed := ⟨by decide, by decide⟩
  have fits : RowPlanFits (some "[source]") none := by decide +kernel
  exact ⟨digest_preimages_unambiguous.1 both both' inbox inbox wellFormed' wellFormed'' wellFormed
      wellFormed (by decide +kernel),
    digest_preimages_unambiguous.2 (some "[source]") (some "[source]") none none fits fits rfl⟩

end MailSwiftSync
