import MailSwiftSync.Imap.Text
import MailSwiftSync.Ledger.Completion

/-!
# Checkpoint tokens

A stored checkpoint is a dsync state, alone or followed by a dot and the context it belongs to.
The encoder, the validator and the two projections each cut the text at its first dot.  They agree
because the alphabet of states has no dot.
-/

namespace MailSwiftSync

/-- The state in front of the first dot, or all of the text. -/
def dovecotCheckpointState (value : String) : String :=
  (splitOnceAtDot value).elim value Prod.fst

/-- The context behind the first dot, if state and context are well formed. -/
def LedgerPlatform.dovecotCheckpointContext (platform : LedgerPlatform) (value : String) :
    Option String := do
  let parts ← splitOnceAtDot value
  if platform.validDovecotCheckpointRaw parts.1 &&
      parts.2.utf8ByteSize = dovecotCheckpointContextBytes && parts.2.toList.all isHexDigit then
    some parts.2
  else none

/-! ## The first dot -/

theorem splitOnceAtDot_eq (value : String) :
    splitOnceAtDot value = (Imap.splitOnce '.' value.toList).map fun parts =>
      (String.ofList parts.1, String.ofList parts.2) := by
  rw [splitOnceAtDot, Imap.splitOnce]
  split <;> rfl

theorem splitOnceAtDot_append {state context : String} (noDot : '.' ∉ state.toList) :
    splitOnceAtDot (state ++ "." ++ context) = some (state, context) := by
  have text : (state ++ "." ++ context).toList = state.toList ++ '.' :: context.toList := by
    rw [String.toList_append, String.toList_append, List.append_assoc]
    rfl
  rw [splitOnceAtDot_eq, text, Imap.splitOnce_append noDot, Option.map_some, String.ofList_toList,
    String.ofList_toList]

theorem splitOnceAtDot_eq_none {value : String} (noDot : '.' ∉ value.toList) :
    splitOnceAtDot value = none :=
  if_neg noDot

/-! ## Contexts -/

/-- 64 hexadecimal digits. -/
structure IsCheckpointContext (context : String) : Prop where
  length : context.length = 64
  digits : ∀ c ∈ context.toList, isHexDigit c = true

/-- ASCII texts have as many bytes as characters. -/
theorem utf8ByteSize_ofList {text : List Char} (ascii : ∀ c ∈ text, c.utf8Size = 1) :
    (String.ofList text).utf8ByteSize = text.length := by
  induction text with
  | nil => rfl
  | cons c text ih =>
    have rest := ih fun other isOther => ascii other (List.mem_cons_of_mem c isOther)
    rw [String.ofList_cons, String.utf8ByteSize_append, String.utf8ByteSize_singleton, rest,
      ascii c List.mem_cons_self, List.length_cons, Nat.add_comm]

theorem utf8Size_of_isHexDigit {c : Char} (isDigit : isHexDigit c = true) : c.utf8Size = 1 := by
  have bound : c.toNat ≤ 127 := by
    have upTo : ∀ last : Char, last.toNat ≤ 127 → c ≤ last → c.toNat ≤ 127 :=
      fun last small before => (UInt32.le_iff_toNat_le.mp before).trans small
    rw [isHexDigit, Bool.or_eq_true, Bool.or_eq_true] at isDigit
    rcases isDigit with (isDecimal | isLower) | isUpper
    · exact (Char.isDigit_iff_toNat.mp isDecimal).2.trans (by decide)
    · exact upTo 'f' (by decide) (of_decide_eq_true (Bool.and_eq_true_iff.mp isLower).2)
    · exact upTo 'F' (by decide) (of_decide_eq_true (Bool.and_eq_true_iff.mp isUpper).2)
  exact Char.utf8Size_eq_one_iff.mpr (UInt32.le_iff_toNat_le.mpr bound)

theorem isCheckpointContext_iff {context : String} :
    IsCheckpointContext context ↔
      context.utf8ByteSize = dovecotCheckpointContextBytes ∧
        context.toList.all isHexDigit = true := by
  have size : (∀ c ∈ context.toList, isHexDigit c = true) →
      context.utf8ByteSize = context.length := by
    intro digits
    have bytes := utf8ByteSize_ofList fun c isMember => utf8Size_of_isHexDigit (digits c isMember)
    rw [String.ofList_toList] at bytes
    exact bytes
  rw [List.all_eq_true]
  constructor
  · intro ⟨length, digits⟩
    exact ⟨(size digits).trans length, digits⟩
  · intro ⟨bytes, digits⟩
    exact ⟨(size digits).symm.trans bytes, digits⟩

namespace LedgerPlatform

variable {platform : LedgerPlatform} {state context value : String}

/-- A dot is not in the alphabet of states. -/
theorem noDot_of_validDovecotCheckpointRaw
    (isRaw : platform.validDovecotCheckpointRaw state = true) : '.' ∉ state.toList := by
  rw [validDovecotCheckpointRaw] at isRaw
  simp only [Bool.and_eq_true, List.all_eq_true] at isRaw
  intro isDot
  exact Bool.noConfusion (isRaw.1.1.2 '.' isDot)

theorem encodeDovecotCheckpoint_eq_some :
    platform.encodeDovecotCheckpoint state context = some value ↔
      platform.validDovecotCheckpointRaw state = true ∧ IsCheckpointContext context ∧
        value.utf8ByteSize ≤ maxDovecotCheckpointBytes ∧ state ++ "." ++ context = value := by
  rw [encodeDovecotCheckpoint, isCheckpointContext_iff]
  simp only [Option.ite_none_right_eq_some, Option.some.injEq, Bool.and_eq_true, decide_eq_true_eq]
  constructor
  · rintro ⟨⟨⟨⟨isRaw, size⟩, digits⟩, bound⟩, rfl⟩
    exact ⟨isRaw, ⟨size, digits⟩, bound, rfl⟩
  · rintro ⟨isRaw, ⟨size, digits⟩, bound, rfl⟩
    exact ⟨⟨⟨⟨isRaw, size⟩, digits⟩, bound⟩, rfl⟩

/-- What is encoded is cut where the parts were joined. -/
theorem splitOnceAtDot_encoded
    (encoded : platform.encodeDovecotCheckpoint state context = some value) :
    splitOnceAtDot value = some (state, context) := by
  obtain ⟨isRaw, _, _, rfl⟩ := encodeDovecotCheckpoint_eq_some.mp encoded
  exact splitOnceAtDot_append (noDot_of_validDovecotCheckpointRaw isRaw)

theorem dovecotCheckpointState_encoded
    (encoded : platform.encodeDovecotCheckpoint state context = some value) :
    dovecotCheckpointState value = state := by
  rw [dovecotCheckpointState, splitOnceAtDot_encoded encoded]
  rfl

theorem dovecotCheckpointContext_encoded
    (encoded : platform.encodeDovecotCheckpoint state context = some value) :
    platform.dovecotCheckpointContext value = some context := by
  obtain ⟨isRaw, isContext, _, _⟩ := encodeDovecotCheckpoint_eq_some.mp encoded
  obtain ⟨size, digits⟩ := isCheckpointContext_iff.mp isContext
  rw [dovecotCheckpointContext, splitOnceAtDot_encoded encoded, Option.bind_eq_bind,
    Option.bind_some, isRaw, digits, decide_eq_true size]
  rfl

theorem validDovecotCheckpoint_encoded
    (encoded : platform.encodeDovecotCheckpoint state context = some value) :
    platform.validDovecotCheckpoint value = true := by
  rw [validDovecotCheckpoint, splitOnceAtDot_encoded encoded]
  exact decide_eq_true encoded

/-- A valid text without a context is a state. -/
theorem plain_of_validDovecotCheckpointRaw
    (isRaw : platform.validDovecotCheckpointRaw value = true) :
    value.utf8ByteSize ≤ maxDovecotCheckpointBytes ∧
      platform.dovecotCheckpointContext value = none ∧
      ∀ state context, platform.encodeDovecotCheckpoint state context ≠ some value := by
  have noDot := splitOnceAtDot_eq_none (noDot_of_validDovecotCheckpointRaw isRaw)
  refine ⟨?_, ?_, ?_⟩
  · rw [validDovecotCheckpointRaw] at isRaw
    simp only [Bool.and_eq_true, decide_eq_true_eq] at isRaw
    exact isRaw.1.1.1.1.2
  · rw [dovecotCheckpointContext, noDot]
    rfl
  · intro state context encoded
    rw [splitOnceAtDot_encoded encoded] at noDot
    exact Option.some_ne_none _ noDot

/-- Encoding and reading agree: what is encoded is read back and valid, and what is valid is a
state, or is encoded from one state and one context. -/
theorem checkpoint_codec (platform : LedgerPlatform) :
    (∀ state context value, platform.encodeDovecotCheckpoint state context = some value →
      dovecotCheckpointState value = state ∧
      platform.dovecotCheckpointContext value = some context ∧
      platform.validDovecotCheckpoint value = true) ∧
    ∀ value, platform.validDovecotCheckpoint value = true →
      value.utf8ByteSize ≤ maxDovecotCheckpointBytes ∧
      ((platform.validDovecotCheckpointRaw value = true ∧
          platform.dovecotCheckpointContext value = none ∧
          ∀ state context, platform.encodeDovecotCheckpoint state context ≠ some value) ∨
        ∃ state context, platform.validDovecotCheckpointRaw state = true ∧
          IsCheckpointContext context ∧
          platform.encodeDovecotCheckpoint state context = some value ∧
          ∀ state' context', platform.encodeDovecotCheckpoint state' context' = some value →
            state' = state ∧ context' = context) := by
  constructor
  · intro state context value encoded
    exact ⟨dovecotCheckpointState_encoded encoded, dovecotCheckpointContext_encoded encoded,
      validDovecotCheckpoint_encoded encoded⟩
  · intro value isValid
    rw [validDovecotCheckpoint] at isValid
    cases parts : splitOnceAtDot value with
    | none =>
      rw [parts] at isValid
      obtain ⟨bound, plain⟩ := plain_of_validDovecotCheckpointRaw isValid
      exact ⟨bound, .inl ⟨isValid, plain⟩⟩
    | some pair =>
      obtain ⟨state, context⟩ := pair
      rw [parts] at isValid
      have encoded : platform.encodeDovecotCheckpoint state context = some value :=
        of_decide_eq_true isValid
      obtain ⟨isRaw, isContext, bound, _⟩ := encodeDovecotCheckpoint_eq_some.mp encoded
      refine ⟨bound, .inr ⟨state, context, isRaw, isContext, encoded, ?_⟩⟩
      intro state' context' encoded'
      rw [splitOnceAtDot_encoded encoded'] at parts
      exact Prod.mk.inj (Option.some.inj parts)

/-- The empty state with a context. -/
theorem checkpoint_codec_empty_state :
    let platform : LedgerPlatform := { LedgerPlatform.ascii with
      base64Decode := fun text => if text = "AAAAAA==" then some [0, 0, 0, 0] else none }
    let context := String.ofList (List.replicate 64 'a')
    let value := "AAAAAA==" ++ "." ++ context
    dovecotCheckpointState value = "AAAAAA==" ∧
      platform.dovecotCheckpointContext value = some context ∧
      platform.validDovecotCheckpoint value = true := by
  intro platform context value
  apply (checkpoint_codec platform).1 "AAAAAA==" context value
  decide +kernel

end LedgerPlatform

end MailSwiftSync
