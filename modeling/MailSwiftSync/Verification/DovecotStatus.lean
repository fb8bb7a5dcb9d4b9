import Mathlib.Data.Finset.Insert
import Mathlib.Data.List.AList
import MailSwiftSync.Foundation.Words
import MailSwiftSync.Imap.Text
import MailSwiftSync.Verification.Evidence

/-!
# Dovecot inventories

`doveadm mailbox status` writes a line for every mailbox, with the name and the fields separated
by blanks.  The lines are added up one by one.
-/

namespace MailSwiftSync

open Foundation Imap

/-! ## Adding up lines -/

/-- `checked_add` of `u64`. -/
def checkedAdd (left right : Nat) : Option Nat :=
  if left + right < 2 ^ 64 then some (left + right) else none

/-- `strip_prefix`. -/
def stripPrefix (start text : Text) : Option Text :=
  if start.isPrefixOf text then some (text.drop start.length) else none

structure DovecotStatusAccumulator where
  folders : Nat := 0
  messages : Nat := 0
  bytes : Nat := 0
  malformedLines : Nat := 0
  overflowed : Bool := false
  mailboxes : Finset Text := ∅
  uidvalidities : AList fun _ : Text => Nat := ∅

/-- The fields of a line: the first of each kind counts, whether it is a number or not. -/
structure StatusFields where
  messageCount : Option (Option Nat) := none
  virtualSize : Option (Option Nat) := none
  uidvalidity : Option (Option Nat) := none
  sawStatusField : Bool := false
deriving DecidableEq, Repr

def StatusFields.readToken (fields : StatusFields) (token : Text) : StatusFields :=
  match stripPrefix "messages=".toList token with
  | some value =>
    { fields with
      sawStatusField := true
      messageCount := fields.messageCount.or (some (parseU64 value)) }
  | none =>
    match stripPrefix "vsize=".toList token with
    | some value =>
      { fields with
        sawStatusField := true
        virtualSize := fields.virtualSize.or (some (parseU64 value)) }
    | none =>
      match stripPrefix "uidvalidity=".toList token with
      | some value =>
        { fields with
          sawStatusField := true
          uidvalidity := fields.uidvalidity.or (some (parseU64 value)) }
      | none => fields

/-- The mailbox that a line is about. -/
def mailboxOf (tokens : List Text) : Option Text :=
  (tokens.findSome? (stripPrefix "mailbox=".toList)).or
    (tokens.find? fun token => !token.contains '=')

namespace DovecotStatusAccumulator

/-- A line that cannot be used; the count saturates. -/
def malformed (status : DovecotStatusAccumulator) : DovecotStatusAccumulator :=
  { status with malformedLines := min (status.malformedLines + 1) (2 ^ 64 - 1) }

/-- A mailbox with its fields. -/
def count (status : DovecotStatusAccumulator) (mailbox : Text) (messageCount virtualSize : Nat)
    (uidvalidity : Option Nat) : DovecotStatusAccumulator :=
  if mailbox ∈ status.mailboxes then status.malformed
  else
    let status := { status with mailboxes := insert mailbox status.mailboxes }
    match checkedAdd status.folders 1, checkedAdd status.messages messageCount,
        checkedAdd status.bytes virtualSize with
    | some folders, some messages, some bytes =>
      { status with
        folders := folders
        messages := messages
        bytes := bytes
        uidvalidities :=
          match uidvalidity with
          | some value => status.uidvalidities.insert mailbox value
          | none => status.uidvalidities }
    | _, _, _ => { status with overflowed := true }

def observe (status : DovecotStatusAccumulator) (line : Text) : DovecotStatusAccumulator :=
  let tokens := splitWhitespace line
  let fields := tokens.foldl StatusFields.readToken {}
  if !fields.sawStatusField then status
  else
    match fields.messageCount, fields.virtualSize with
    | some (some messageCount), some (some virtualSize) =>
      match mailboxOf tokens with
      | none => status.malformed
      | some mailbox => status.count mailbox messageCount virtualSize fields.uidvalidity.join
    | _, _ => status.malformed

end DovecotStatusAccumulator

def dovecotEvidenceFromAccumulators (source destination : DovecotStatusAccumulator) :
    Option MailboxEvidence :=
  if 0 < source.folders && 0 < destination.folders && source.malformedLines = 0 &&
      destination.malformedLines = 0 && !source.overflowed && !destination.overflowed then
    some
      { verificationMethod := .nativeDovecot
        verificationOutcome := none
        sourceMessages := source.messages
        destinationMessages := destination.messages
        sourceBytes := source.bytes
        destinationBytes := destination.bytes
        unmatchedMessages := some 0
        failedMessages := 0
        sourceFolders := source.folders
        destinationFolders := destination.folders
        authoritative := false
        missingMessages := 0
        extraMessages := 0
        modifiedMessages := 0
        probableMessages := 0
        rfcMessageIdMatches := 0
        syntheticIdentityMatches := 0
        flagVerification := none }
  else none

/-! ## Mailboxes and their lines -/

/-- A mailbox of an inventory; its counts are 64-bit numbers. -/
structure StatusMailbox where
  name : Text
  messages : Nat
  vsize : Nat
  messagesFit : messages < 2 ^ 64
  vsizeFits : vsize < 2 ^ 64
deriving DecidableEq, Repr

namespace StatusMailbox

def line (mailbox : StatusMailbox) : Text :=
  mailbox.name ++ " messages=".toList ++ Nat.toDigits 10 mailbox.messages ++ " vsize=".toList ++
    Nat.toDigits 10 mailbox.vsize

/-- The words of a name. -/
def nameWords (mailbox : StatusMailbox) : List Text := words isWhitespace mailbox.name

/-- The number that counts for a field: the value in the first word of the name that is such a
field, or else the mailbox's own. -/
def fieldOf (start : Text) (own : Nat) (mailbox : StatusMailbox) : Option Nat :=
  match mailbox.nameWords.findSome? (stripPrefix start) with
  | some value => parseU64 value
  | none => some own

/-- The number of messages that counts. -/
def messagesOf (mailbox : StatusMailbox) : Option Nat :=
  mailbox.fieldOf "messages=".toList mailbox.messages

/-- The size that counts. -/
def vsizeOf (mailbox : StatusMailbox) : Option Nat :=
  mailbox.fieldOf "vsize=".toList mailbox.vsize

/-- What a mailbox is told apart by: what follows `mailbox=` in a word of its name, or else the
first word without an equals sign. -/
def keyOf (mailbox : StatusMailbox) : Option Text := mailboxOf mailbox.nameWords

end StatusMailbox

/-- The accumulator after the lines of some mailboxes. -/
def dovecotStatus (mailboxes : List StatusMailbox) : DovecotStatusAccumulator :=
  (mailboxes.map StatusMailbox.line).foldl DovecotStatusAccumulator.observe {}

/-! ## Reading a line -/

/-- Texts that begin with one field do not begin with another. -/
theorem stripPrefix_eq_none {start other rest : Text} (differ : start.head? ≠ other.head?)
    (nonempty : start ≠ []) (otherNonempty : other ≠ []) :
    stripPrefix start (other ++ rest) = none := by
  cases start with
  | nil => exact absurd rfl nonempty
  | cons first start =>
    cases other with
    | nil => exact absurd rfl otherNonempty
    | cons second other =>
      have notSame : (first == second) = false := by
        rw [beq_eq_false_iff_ne]
        rintro rfl
        exact differ rfl
      rw [stripPrefix, List.cons_append, List.isPrefixOf_cons_cons, notSame]
      rfl

theorem stripPrefix_eq_some {start text rest : Text}
    (isPrefix : stripPrefix start text = some rest) :
    text = start ++ rest := by
  rw [stripPrefix] at isPrefix
  split at isPrefix
  next starts =>
    obtain ⟨rest, rfl⟩ := List.isPrefixOf_iff_prefix.mp starts
    rw [List.drop_left, Option.some.injEq] at isPrefix
    rw [isPrefix]
  next => cases isPrefix

/-- The first fields of some tokens. -/
theorem foldl_readToken (tokens : List Text) (fields : StatusFields) :
    (tokens.foldl StatusFields.readToken fields).messageCount = fields.messageCount.or
        ((tokens.findSome? (stripPrefix "messages=".toList)).map parseU64) ∧
      (tokens.foldl StatusFields.readToken fields).virtualSize = fields.virtualSize.or
        ((tokens.findSome? (stripPrefix "vsize=".toList)).map parseU64) ∧
      ((tokens.foldl StatusFields.readToken fields).sawStatusField = false →
        fields.sawStatusField = false ∧
          tokens.findSome? (stripPrefix "messages=".toList) = none) := by
  induction tokens generalizing fields with
  | nil => simp
  | cons token tokens ih =>
    rw [List.foldl_cons, List.findSome?_cons, List.findSome?_cons]
    obtain ⟨messages, vsize, saw⟩ := ih (fields.readToken token)
    rw [messages, vsize]
    cases isMessages : stripPrefix "messages=".toList token with
    | some value =>
      have step : fields.readToken token =
          { fields with
            sawStatusField := true
            messageCount := fields.messageCount.or (some (parseU64 value)) } := by
        rw [StatusFields.readToken, isMessages]
      have notVsize : stripPrefix "vsize=".toList token = none := by
        rw [stripPrefix_eq_some isMessages]
        exact stripPrefix_eq_none (by decide) (by decide) (by decide)
      rw [step] at saw ⊢
      rw [notVsize]
      refine ⟨?_, rfl, fun isFalse => absurd (saw isFalse).1 Bool.noConfusion⟩
      cases fields.messageCount with
      | none => rfl
      | some count => rfl
    | none =>
      cases isVsize : stripPrefix "vsize=".toList token with
      | some value =>
        have step : fields.readToken token =
            { fields with
              sawStatusField := true
              virtualSize := fields.virtualSize.or (some (parseU64 value)) } := by
          rw [StatusFields.readToken, isMessages]
          simp only [isVsize]
        rw [step] at saw ⊢
        refine ⟨rfl, ?_, fun isFalse => absurd (saw isFalse).1 Bool.noConfusion⟩
        cases fields.virtualSize with
        | none => rfl
        | some size => rfl
      | none =>
        have step : (fields.readToken token).messageCount = fields.messageCount ∧
            (fields.readToken token).virtualSize = fields.virtualSize ∧
            ((fields.readToken token).sawStatusField = false →
              fields.sawStatusField = false) := by
          rw [StatusFields.readToken, isMessages]
          simp only [isVsize]
          cases stripPrefix "uidvalidity=".toList token with
          | some value => exact ⟨rfl, rfl, Bool.noConfusion⟩
          | none => exact ⟨rfl, rfl, id⟩
        rw [step.1, step.2.1]
        exact ⟨rfl, rfl, fun isFalse => ⟨step.2.2 (saw isFalse).1, (saw isFalse).2⟩⟩

namespace StatusMailbox

theorem isWord_field {start : Text} (nonempty : start ≠ [])
    (noBlank : start.any isWhitespace = false) (number : Nat) :
    IsWord isWhitespace (start ++ Nat.toDigits 10 number) := by
  refine ⟨List.append_ne_nil_of_left_ne_nil nonempty _, fun c isMember => ?_⟩
  rcases List.mem_append.mp isMember with inStart | isDigit
  · exact forall_eq_false_of_any noBlank c inStart
  · exact isWhitespace_of_isDigit (Nat.isDigit_of_mem_toDigits (by decide) le_rfl isDigit)

/-- The words of a line: those of the name, and two fields. -/
theorem splitWhitespace_line (mailbox : StatusMailbox) :
    splitWhitespace mailbox.line = mailbox.nameWords ++
      ["messages=".toList ++ Nat.toDigits 10 mailbox.messages,
        "vsize=".toList ++ Nat.toDigits 10 mailbox.vsize] := by
  have apart : mailbox.line = mailbox.name ++ ' ' ::
      (("messages=".toList ++ Nat.toDigits 10 mailbox.messages) ++ ' ' ::
        ("vsize=".toList ++ Nat.toDigits 10 mailbox.vsize)) := by
    have messages : " messages=".toList = ' ' :: "messages=".toList := rfl
    have vsize : " vsize=".toList = ' ' :: "vsize=".toList := rfl
    rw [line, messages, vsize]
    simp only [List.append_assoc, List.cons_append]
  have isMessages := @isWord_field "messages=".toList (by decide) (by decide) mailbox.messages
  have isVsize := @isWord_field "vsize=".toList (by decide) (by decide) mailbox.vsize
  have isBlank : isWhitespace ' ' = true := by decide
  change words isWhitespace mailbox.line = _
  rw [apart, words_append_blank isBlank, words_cons_word isMessages isBlank,
    words_of_isWord isVsize]
  rfl

/-- The field of a kind that a line has first. -/
theorem findSome?_line {start : Text} {own : Nat} (mailbox : StatusMailbox) (fits : own < 2 ^ 64)
    {after : List Text} (isOwn : after.findSome? (stripPrefix start) = some (Nat.toDigits 10 own)) :
    ((mailbox.nameWords ++ after).findSome? (stripPrefix start)).map parseU64 =
      some (mailbox.fieldOf start own) := by
  rw [List.findSome?_append, isOwn, fieldOf]
  cases mailbox.nameWords.findSome? (stripPrefix start) with
  | some value => rfl
  | none => exact congrArg some (parseU64_toDigits fits)

/-- The fields of a line are no mailbox. -/
theorem mailboxOf_line (mailbox : StatusMailbox) :
    mailboxOf (splitWhitespace mailbox.line) = mailbox.keyOf := by
  have notNamed : ∀ rest : Text,
      stripPrefix "mailbox=".toList ("messages=".toList ++ rest) = none ∧
        stripPrefix "mailbox=".toList ("vsize=".toList ++ rest) = none :=
    fun rest => ⟨rfl, rfl⟩
  have areFields : ∀ rest : Text, ("messages=".toList ++ rest).contains '=' = true ∧
      ("vsize=".toList ++ rest).contains '=' = true := by
    intro rest
    simp only [List.contains_append]
    exact ⟨rfl, rfl⟩
  rw [splitWhitespace_line, mailboxOf, keyOf, mailboxOf, List.findSome?_append, List.find?_append]
  simp only [List.findSome?_cons, List.findSome?_nil, List.find?_cons, List.find?_nil, notNamed,
    areFields, Bool.not_true, Option.or_none]

theorem findSome?_messages (mailbox : StatusMailbox) :
    ((splitWhitespace mailbox.line).findSome? (stripPrefix "messages=".toList)).map parseU64 =
      some mailbox.messagesOf := by
  rw [splitWhitespace_line]
  exact mailbox.findSome?_line mailbox.messagesFit rfl

theorem findSome?_vsize (mailbox : StatusMailbox) :
    ((splitWhitespace mailbox.line).findSome? (stripPrefix "vsize=".toList)).map parseU64 =
      some mailbox.vsizeOf := by
  rw [splitWhitespace_line]
  exact mailbox.findSome?_line mailbox.vsizeFits rfl

/-- The fields that are read from the line of a mailbox. -/
theorem readToken_line (mailbox : StatusMailbox) :
    ((splitWhitespace mailbox.line).foldl StatusFields.readToken {}).messageCount =
        some mailbox.messagesOf ∧
      ((splitWhitespace mailbox.line).foldl StatusFields.readToken {}).virtualSize =
        some mailbox.vsizeOf ∧
      ((splitWhitespace mailbox.line).foldl StatusFields.readToken {}).sawStatusField = true := by
  obtain ⟨messages, vsize, saw⟩ := foldl_readToken (splitWhitespace mailbox.line) {}
  refine ⟨messages.trans mailbox.findSome?_messages, vsize.trans mailbox.findSome?_vsize, ?_⟩
  rw [← Bool.not_eq_false]
  intro isFalse
  have found := mailbox.findSome?_messages
  rw [(saw isFalse).2] at found
  cases found

end StatusMailbox

namespace DovecotStatusAccumulator

/-- What the line of a mailbox does. -/
theorem observe_line (status : DovecotStatusAccumulator) (mailbox : StatusMailbox) :
    ∃ uidvalidity, status.observe mailbox.line =
      match mailbox.keyOf, mailbox.messagesOf, mailbox.vsizeOf with
      | some key, some messages, some vsize => status.count key messages vsize uidvalidity
      | _, _, _ => status.malformed := by
  obtain ⟨messages, vsize, saw⟩ := mailbox.readToken_line
  refine ⟨((splitWhitespace mailbox.line).foldl StatusFields.readToken {}).uidvalidity.join, ?_⟩
  simp only [observe, saw, messages, vsize, mailbox.mailboxOf_line, Bool.not_true,
    Bool.false_eq_true, if_false]
  cases mailbox.keyOf <;> cases mailbox.messagesOf <;> cases mailbox.vsizeOf <;> rfl

/-! ## Runs over an inventory -/

/-- No line was refused, and nothing overflowed. -/
structure Clean (status : DovecotStatusAccumulator) : Prop where
  wellFormed : status.malformedLines = 0
  inRange : status.overflowed = false

/-- The counters are 64-bit numbers. -/
structure Fits (status : DovecotStatusAccumulator) : Prop where
  folders : status.folders < 2 ^ 64
  messages : status.messages < 2 ^ 64
  bytes : status.bytes < 2 ^ 64

/-- Mailboxes that can be added: they are read completely and told apart, and the sums fit. -/
structure Countable (status : DovecotStatusAccumulator) (mailboxes : List StatusMailbox) :
    Prop where
  readable : ∀ mailbox ∈ mailboxes,
    mailbox.keyOf.isSome ∧ mailbox.messagesOf.isSome ∧ mailbox.vsizeOf.isSome
  distinct : (mailboxes.map StatusMailbox.keyOf).Nodup
  fresh : ∀ mailbox ∈ mailboxes, ∀ key ∈ status.mailboxes, mailbox.keyOf ≠ some key
  folders : status.folders + mailboxes.length < 2 ^ 64
  messages : status.messages + (mailboxes.map fun mailbox =>
    mailbox.messagesOf.getD 0).sum < 2 ^ 64
  bytes : status.bytes + (mailboxes.map fun mailbox => mailbox.vsizeOf.getD 0).sum < 2 ^ 64

/-- The counters after some mailboxes. -/
structure Sums (status final : DovecotStatusAccumulator) (mailboxes : List StatusMailbox) :
    Prop where
  folders : final.folders = status.folders + mailboxes.length
  messages : final.messages = status.messages + (mailboxes.map fun mailbox =>
    mailbox.messagesOf.getD 0).sum
  bytes : final.bytes = status.bytes + (mailboxes.map fun mailbox => mailbox.vsizeOf.getD 0).sum

variable {status : DovecotStatusAccumulator}

theorem not_clean_malformed : ¬status.malformed.Clean := by
  rintro ⟨wellFormed, -⟩
  have positive : 0 < min (status.malformedLines + 1) (2 ^ 64 - 1) :=
    lt_min (Nat.succ_pos _) (by decide)
  exact absurd wellFormed (Nat.pos_iff_ne_zero.mp positive)

theorem checkedAdd_of_lt {left right : Nat} (fits : left + right < 2 ^ 64) :
    checkedAdd left right = some (left + right) := if_pos fits

theorem checkedAdd_eq_none {left right : Nat} (overflows : ¬left + right < 2 ^ 64) :
    checkedAdd left right = none := if_neg overflows

variable {messages vsize : Nat}

/-- A mailbox is counted when it is new and the counters have room for it. -/
theorem count_of_room {key : Text} (uidvalidity : Option Nat)
    (fresh : key ∉ status.mailboxes) (folders : status.folders + 1 < 2 ^ 64)
    (fits : status.messages + messages < 2 ^ 64) (vsizeFits : status.bytes + vsize < 2 ^ 64) :
    ∃ uidvalidities, status.count key messages vsize uidvalidity =
      { status with
        mailboxes := insert key status.mailboxes
        folders := status.folders + 1
        messages := status.messages + messages
        bytes := status.bytes + vsize
        uidvalidities := uidvalidities } := by
  rw [count, if_neg fresh]
  simp only [checkedAdd_of_lt folders, checkedAdd_of_lt fits, checkedAdd_of_lt vsizeFits]
  exact ⟨_, rfl⟩

/-- A mailbox that cannot be counted leaves a mark. -/
theorem room_of_clean_count {key : Text} {uidvalidity : Option Nat}
    (clean : (status.count key messages vsize uidvalidity).Clean) :
    key ∉ status.mailboxes ∧ status.folders + 1 < 2 ^ 64 ∧
      status.messages + messages < 2 ^ 64 ∧ status.bytes + vsize < 2 ^ 64 := by
  rw [count] at clean
  split at clean
  · exact absurd clean not_clean_malformed
  next fresh =>
    by_cases folders : status.folders + 1 < 2 ^ 64
    · by_cases fits : status.messages + messages < 2 ^ 64
      · by_cases vsizeFits : status.bytes + vsize < 2 ^ 64
        · exact ⟨fresh, folders, fits, vsizeFits⟩
        · simp only [checkedAdd_of_lt folders, checkedAdd_of_lt fits,
            checkedAdd_eq_none vsizeFits] at clean
          exact absurd clean.inRange Bool.noConfusion
      · simp only [checkedAdd_of_lt folders, checkedAdd_eq_none fits] at clean
        exact absurd clean.inRange Bool.noConfusion
    · simp only [checkedAdd_eq_none folders] at clean
      exact absurd clean.inRange Bool.noConfusion

/-- A line that is counted. -/
structure Counts (status next : DovecotStatusAccumulator) (key : Text) (messages vsize : Nat) :
    Prop where
  clean : status.Clean → next.Clean
  mailboxes : next.mailboxes = insert key status.mailboxes
  folders : next.folders = status.folders + 1
  messages : next.messages = status.messages + messages
  bytes : next.bytes = status.bytes + vsize

variable {mailbox : StatusMailbox}

/-- The line of a mailbox that is new and that the counters have room for is counted. -/
theorem counts_of_room {key : Text}
    (isKey : mailbox.keyOf = some key) (isMessages : mailbox.messagesOf = some messages)
    (isVsize : mailbox.vsizeOf = some vsize)
    (room : key ∉ status.mailboxes ∧ status.folders + 1 < 2 ^ 64 ∧
      status.messages + messages < 2 ^ 64 ∧ status.bytes + vsize < 2 ^ 64) :
    Counts status (status.observe mailbox.line) key messages vsize := by
  obtain ⟨uidvalidity, step⟩ := status.observe_line mailbox
  obtain ⟨fresh, folders, fits, vsizeFits⟩ := room
  obtain ⟨uidvalidities, counted⟩ := count_of_room uidvalidity fresh folders fits vsizeFits
  rw [step, isKey, isMessages, isVsize]
  simp only [counted]
  exact ⟨fun clean => ⟨clean.wellFormed, clean.inRange⟩, rfl, rfl, rfl, rfl⟩

/-- A line that leaves no mark is that of such a mailbox. -/
theorem room_of_clean_observe
    (nextClean : (status.observe mailbox.line).Clean) : ∃ key messages vsize,
      (mailbox.keyOf = some key ∧ mailbox.messagesOf = some messages ∧
        mailbox.vsizeOf = some vsize) ∧
      (key ∉ status.mailboxes ∧ status.folders + 1 < 2 ^ 64 ∧
        status.messages + messages < 2 ^ 64 ∧ status.bytes + vsize < 2 ^ 64) := by
  obtain ⟨uidvalidity, step⟩ := status.observe_line mailbox
  rw [step] at nextClean
  split at nextClean
  next key messages vsize isKey isMessages isVsize =>
    exact ⟨key, messages, vsize, ⟨isKey, isMessages, isVsize⟩, room_of_clean_count nextClean⟩
  next => exact absurd nextClean not_clean_malformed

theorem clean_of_clean_observe
    (nextClean : (status.observe mailbox.line).Clean) : status.Clean := by
  obtain ⟨uidvalidity, step⟩ := status.observe_line mailbox
  obtain ⟨key, messages, vsize, ⟨isKey, isMessages, isVsize⟩, fresh, folders, fits, vsizeFits⟩ :=
    room_of_clean_observe nextClean
  obtain ⟨uidvalidities, counted⟩ := count_of_room uidvalidity fresh folders fits vsizeFits
  rw [step, isKey, isMessages, isVsize] at nextClean
  simp only [counted] at nextClean
  exact ⟨nextClean.wellFormed, nextClean.inRange⟩

theorem clean_of_clean_foldl {mailboxes : List StatusMailbox}
    (finalClean : ((mailboxes.map StatusMailbox.line).foldl observe status).Clean) :
    status.Clean := by
  induction mailboxes generalizing status with
  | nil => exact finalClean
  | cons mailbox mailboxes ih =>
    rw [List.map_cons, List.foldl_cons] at finalClean
    exact clean_of_clean_observe (ih finalClean)

theorem countable_nil (fits : status.Fits) : Countable status [] where
  readable := by simp
  distinct := List.nodup_nil
  fresh := by simp
  folders := fits.folders
  messages := fits.messages
  bytes := fits.bytes

/-- Mailboxes are counted one after the other. -/
theorem countable_cons {next : DovecotStatusAccumulator}
    {mailboxes : List StatusMailbox} {key : Text}
    (isKey : mailbox.keyOf = some key) (isMessages : mailbox.messagesOf = some messages)
    (isVsize : mailbox.vsizeOf = some vsize) (counts : Counts status next key messages vsize)
    (fresh : key ∉ status.mailboxes) :
    Countable next mailboxes ↔ Countable status (mailbox :: mailboxes) := by
  have folders : next.folders + mailboxes.length =
      status.folders + (mailbox :: mailboxes).length := by
    rw [counts.folders, List.length_cons]
    omega
  have sums : ∀ (read : StatusMailbox → Option Nat) (number : Nat),
      read mailbox = some number →
      ((mailbox :: mailboxes).map fun mailbox => (read mailbox).getD 0).sum =
        number + (mailboxes.map fun mailbox => (read mailbox).getD 0).sum := by
    intro read number isNumber
    rw [List.map_cons, List.sum_cons, isNumber, Option.getD_some]
  have messageSums := sums StatusMailbox.messagesOf messages isMessages
  have vsizeSums := sums StatusMailbox.vsizeOf vsize isVsize
  constructor
  · intro countable
    refine
      { readable := List.forall_mem_cons.mpr
          ⟨by rw [isKey, isMessages, isVsize]; exact ⟨rfl, rfl, rfl⟩, countable.readable⟩
        distinct := List.nodup_cons.mpr ⟨?_, countable.distinct⟩
        fresh := List.forall_mem_cons.mpr ⟨?_, fun other isOther known isKnown =>
          countable.fresh other isOther known
            (counts.mailboxes ▸ Finset.mem_insert_of_mem isKnown)⟩
        folders := folders ▸ countable.folders
        messages := ?_
        bytes := ?_ }
    · intro isMember
      obtain ⟨other, isOther, sameKey⟩ := List.mem_map.mp isMember
      exact countable.fresh other isOther key (counts.mailboxes ▸ Finset.mem_insert_self _ _)
        (sameKey.trans isKey)
    · intro known isKnown sameKey
      rw [isKey, Option.some.injEq] at sameKey
      exact fresh (sameKey ▸ isKnown)
    · rw [messageSums, ← Nat.add_assoc, ← counts.messages]
      exact countable.messages
    · rw [vsizeSums, ← Nat.add_assoc, ← counts.bytes]
      exact countable.bytes
  · intro countable
    obtain ⟨-, readable⟩ := List.forall_mem_cons.mp countable.readable
    obtain ⟨notLater, distinct⟩ := List.nodup_cons.mp countable.distinct
    obtain ⟨-, laterFresh⟩ := List.forall_mem_cons.mp countable.fresh
    refine
      { readable := readable
        distinct := distinct
        fresh := ?_
        folders := folders ▸ countable.folders
        messages := ?_
        bytes := ?_ }
    · intro other isOther known isKnown sameKey
      rw [counts.mailboxes] at isKnown
      rcases Finset.mem_insert.mp isKnown with rfl | isOld
      · exact notLater (isKey ▸ sameKey ▸ List.mem_map_of_mem isOther)
      · exact laterFresh other isOther known isOld sameKey
    · rw [counts.messages, Nat.add_assoc, ← messageSums]
      exact countable.messages
    · rw [counts.bytes, Nat.add_assoc, ← vsizeSums]
      exact countable.bytes

/-- The lines of mailboxes leave no mark exactly when the mailboxes can be added, and then the
counters are the sums. -/
theorem clean_foldl_iff (mailboxes : List StatusMailbox) (clean : status.Clean)
    (fits : status.Fits) :
    (((mailboxes.map StatusMailbox.line).foldl observe status).Clean ↔
        Countable status mailboxes) ∧
      (Countable status mailboxes →
        Sums status ((mailboxes.map StatusMailbox.line).foldl observe status) mailboxes) := by
  induction mailboxes generalizing status with
  | nil => exact ⟨⟨fun _ => countable_nil fits, fun _ => clean⟩, fun _ => ⟨rfl, rfl, rfl⟩⟩
  | cons mailbox mailboxes ih =>
    rw [List.map_cons, List.foldl_cons]
    by_cases nextClean : (status.observe mailbox.line).Clean
    · obtain ⟨key, messages, vsize, ⟨isKey, isMessages, isVsize⟩, room⟩ :=
        room_of_clean_observe nextClean
      have counts := counts_of_room isKey isMessages isVsize room
      have nextFits : (status.observe mailbox.line).Fits :=
        ⟨counts.folders ▸ room.2.1, counts.messages ▸ room.2.2.1, counts.bytes ▸ room.2.2.2⟩
      obtain ⟨cleanIff, sums⟩ := ih nextClean nextFits
      have cons : Countable (status.observe mailbox.line) mailboxes ↔
          Countable status (mailbox :: mailboxes) :=
        countable_cons isKey isMessages isVsize counts room.1
      refine ⟨cleanIff.trans cons, fun countable => ?_⟩
      obtain ⟨sumFolders, sumMessages, sumBytes⟩ := sums (cons.mpr countable)
      refine ⟨?_, ?_, ?_⟩
      · rw [sumFolders, counts.folders, List.length_cons]
        omega
      · rw [sumMessages, counts.messages, List.map_cons, List.sum_cons, isMessages,
          Option.getD_some, Nat.add_assoc]
      · rw [sumBytes, counts.bytes, List.map_cons, List.sum_cons, isVsize, Option.getD_some,
          Nat.add_assoc]
    · have notCountable : ¬Countable status (mailbox :: mailboxes) := by
        intro countable
        obtain ⟨⟨hasKey, hasMessages, hasVsize⟩, -⟩ :=
          List.forall_mem_cons.mp countable.readable
        obtain ⟨key, isKey⟩ := Option.isSome_iff_exists.mp hasKey
        obtain ⟨messages, isMessages⟩ := Option.isSome_iff_exists.mp hasMessages
        obtain ⟨vsize, isVsize⟩ := Option.isSome_iff_exists.mp hasVsize
        have folders := countable.folders
        have messageSums := countable.messages
        have vsizeSums := countable.bytes
        rw [List.length_cons] at folders
        rw [List.map_cons, List.sum_cons, isMessages, Option.getD_some] at messageSums
        rw [List.map_cons, List.sum_cons, isVsize, Option.getD_some] at vsizeSums
        have fresh : key ∉ status.mailboxes := fun isKnown =>
          countable.fresh mailbox List.mem_cons_self key isKnown isKey
        have counts := counts_of_room isKey isMessages isVsize
          ⟨fresh, by omega, by omega, by omega⟩
        exact nextClean (counts.clean clean)
      refine ⟨⟨fun finalClean => absurd (clean_of_clean_foldl finalClean) nextClean,
        fun countable => absurd countable notCountable⟩, fun countable =>
          absurd countable notCountable⟩

end DovecotStatusAccumulator

/-! ## Evidence -/

open DovecotStatusAccumulator

/-- Mailboxes that are counted: there are some, they are read completely and told apart, and the
sums of what is read fit. -/
def Counted (mailboxes : List StatusMailbox) : Prop := mailboxes ≠ [] ∧ Countable {} mailboxes

/-- The sums over an inventory. -/
structure InventoryTotals where
  folders : Nat
  messages : Nat
  bytes : Nat
deriving DecidableEq, Repr

/-- The totals of an inventory. -/
def inventoryTotals (mailboxes : List StatusMailbox) : InventoryTotals where
  folders := mailboxes.length
  messages := (mailboxes.map StatusMailbox.messages).sum
  bytes := (mailboxes.map StatusMailbox.vsize).sum

/-- The totals of what is read from the lines of an inventory. -/
def readTotals (mailboxes : List StatusMailbox) : InventoryTotals where
  folders := mailboxes.length
  messages := (mailboxes.map fun mailbox => mailbox.messagesOf.getD 0).sum
  bytes := (mailboxes.map fun mailbox => mailbox.vsizeOf.getD 0).sum

def MailboxEvidence.sourceTotals (evidence : MailboxEvidence) : InventoryTotals where
  folders := evidence.sourceFolders
  messages := evidence.sourceMessages
  bytes := evidence.sourceBytes

def MailboxEvidence.destinationTotals (evidence : MailboxEvidence) : InventoryTotals where
  folders := evidence.destinationFolders
  messages := evidence.destinationMessages
  bytes := evidence.destinationBytes

/-- An inventory that leaves no doubt about its fields: it is not empty, its sums have 64 bits, and
no name has an equals sign. -/
structure IsPlainInventory (mailboxes : List StatusMailbox) : Prop where
  nonempty : mailboxes ≠ []
  folders : (inventoryTotals mailboxes).folders < 2 ^ 64
  messages : (inventoryTotals mailboxes).messages < 2 ^ 64
  bytes : (inventoryTotals mailboxes).bytes < 2 ^ 64
  noEquals : ∀ mailbox ∈ mailboxes, '=' ∉ mailbox.name

/-- The names have words, and the first words are different. -/
def FirstWordsDiffer (mailboxes : List StatusMailbox) : Prop :=
  (∀ mailbox ∈ mailboxes, mailbox.nameWords ≠ []) ∧
    (mailboxes.map fun mailbox => mailbox.nameWords.head?).Nodup

theorem dovecotStatus_spec (mailboxes : List StatusMailbox) :
    ((dovecotStatus mailboxes).Clean ↔ Countable {} mailboxes) ∧
      (Countable {} mailboxes → Sums {} (dovecotStatus mailboxes) mailboxes) :=
  clean_foldl_iff mailboxes ⟨rfl, rfl⟩ ⟨by decide, by decide, by decide⟩

/-- The marks that evidence needs are those of a counted inventory. -/
theorem counted_iff (mailboxes : List StatusMailbox) :
    0 < (dovecotStatus mailboxes).folders ∧ (dovecotStatus mailboxes).Clean ↔
      Counted mailboxes := by
  obtain ⟨clean, sums⟩ := dovecotStatus_spec mailboxes
  rw [Counted, clean]
  refine and_congr_left fun countable => ?_
  rw [(sums countable).folders, Nat.zero_add, List.length_pos_iff]

theorem readTotals_of_counted {mailboxes : List StatusMailbox} (counted : Counted mailboxes) :
    (dovecotStatus mailboxes).folders = (readTotals mailboxes).folders ∧
      (dovecotStatus mailboxes).messages = (readTotals mailboxes).messages ∧
      (dovecotStatus mailboxes).bytes = (readTotals mailboxes).bytes := by
  obtain ⟨folders, messages, bytes⟩ := (dovecotStatus_spec mailboxes).2 counted.2
  exact ⟨folders.trans (Nat.zero_add _), messages.trans (Nat.zero_add _),
    bytes.trans (Nat.zero_add _)⟩

/-- There is evidence when both inventories are counted, with the totals that were read. -/
theorem dovecotEvidence_spec (source destination : List StatusMailbox) :
    ((dovecotEvidenceFromAccumulators (dovecotStatus source) (dovecotStatus destination)).isSome ↔
        Counted source ∧ Counted destination) ∧
      ∀ evidence, dovecotEvidenceFromAccumulators (dovecotStatus source)
          (dovecotStatus destination) = some evidence →
        evidence.sourceTotals = readTotals source ∧
          evidence.destinationTotals = readTotals destination := by
  have marks : (0 < (dovecotStatus source).folders && 0 < (dovecotStatus destination).folders &&
      (dovecotStatus source).malformedLines = 0 && (dovecotStatus destination).malformedLines = 0 &&
      !(dovecotStatus source).overflowed && !(dovecotStatus destination).overflowed) = true ↔
      Counted source ∧ Counted destination := by
    rw [← counted_iff, ← counted_iff]
    simp only [Bool.and_eq_true, decide_eq_true_eq, Bool.not_eq_true']
    constructor
    · rintro ⟨⟨⟨⟨⟨sourceFolders, folders⟩, sourceFormed⟩, formed⟩, sourceRange⟩, range⟩
      exact ⟨⟨sourceFolders, sourceFormed, sourceRange⟩, folders, formed, range⟩
    · rintro ⟨⟨sourceFolders, sourceFormed, sourceRange⟩, folders, formed, range⟩
      exact ⟨⟨⟨⟨⟨sourceFolders, folders⟩, sourceFormed⟩, formed⟩, sourceRange⟩, range⟩
  rw [dovecotEvidenceFromAccumulators]
  by_cases counted : Counted source ∧ Counted destination
  · obtain ⟨sourceFolders, sourceMessages, sourceBytes⟩ := readTotals_of_counted counted.1
    obtain ⟨folders, messages, bytes⟩ := readTotals_of_counted counted.2
    rw [if_pos (marks.mpr counted)]
    refine ⟨⟨fun _ => counted, fun _ => rfl⟩, fun evidence isEvidence => ?_⟩
    cases isEvidence
    rw [MailboxEvidence.sourceTotals, MailboxEvidence.destinationTotals]
    dsimp only
    rw [sourceFolders, sourceMessages, sourceBytes, folders, messages, bytes]
    exact ⟨rfl, rfl⟩
  · rw [if_neg (fun holds => counted (marks.mp holds))]
    refine ⟨⟨fun isSome => absurd isSome Bool.noConfusion, fun both => absurd both counted⟩,
      fun evidence isEvidence => ?_⟩
    cases isEvidence

/-! ## Plain names -/

namespace StatusMailbox

variable {mailbox : StatusMailbox}

theorem equals_not_mem_nameWords (noEquals : '=' ∉ mailbox.name) :
    ∀ word ∈ mailbox.nameWords, '=' ∉ word := by
  intro word isWord isMember
  have inside : '=' ∈ mailbox.nameWords.flatten := List.mem_flatten.mpr ⟨word, isWord, isMember⟩
  rw [nameWords, flatten_words] at inside
  exact noEquals (List.mem_of_mem_filter inside)

/-- A name without an equals sign has no fields. -/
theorem findSome?_nameWords (noEquals : '=' ∉ mailbox.name) {start : Text} (isField : '=' ∈ start) :
    mailbox.nameWords.findSome? (stripPrefix start) = none := by
  rw [List.findSome?_eq_none_iff]
  intro word isWord
  rw [stripPrefix, if_neg]
  intro starts
  have inWord := (List.isPrefixOf_iff_prefix.mp starts).subset isField
  exact equals_not_mem_nameWords noEquals word isWord inWord

theorem plain_fields (noEquals : '=' ∉ mailbox.name) :
    mailbox.messagesOf = some mailbox.messages ∧ mailbox.vsizeOf = some mailbox.vsize ∧
      mailbox.keyOf = mailbox.nameWords.head? := by
  refine ⟨?_, ?_, ?_⟩
  · rw [messagesOf, fieldOf, findSome?_nameWords noEquals (by decide)]
  · rw [vsizeOf, fieldOf, findSome?_nameWords noEquals (by decide)]
  · rw [keyOf, mailboxOf, findSome?_nameWords noEquals (by decide), Option.none_or]
    have plainWords := equals_not_mem_nameWords noEquals
    cases isWords : mailbox.nameWords with
    | nil => rfl
    | cons word rest =>
      rw [isWords] at plainWords
      have plainFirst : word.contains '=' = false :=
        Bool.eq_false_iff.mpr fun inWord =>
          plainWords word List.mem_cons_self (List.contains_iff_mem.mp inWord)
      rw [List.find?_cons, plainFirst]
      rfl

end StatusMailbox

/-- Plain inventories are counted when the first words of the names differ. -/
theorem counted_iff_firstWordsDiffer {mailboxes : List StatusMailbox}
    (isPlain : IsPlainInventory mailboxes) : Counted mailboxes ↔ FirstWordsDiffer mailboxes := by
  have fields := fun mailbox isMailbox =>
    StatusMailbox.plain_fields (isPlain.noEquals mailbox isMailbox)
  have keys : mailboxes.map StatusMailbox.keyOf =
      mailboxes.map fun mailbox => mailbox.nameWords.head? :=
    List.map_congr_left fun mailbox isMailbox => (fields mailbox isMailbox).2.2
  have messages : (mailboxes.map fun mailbox => mailbox.messagesOf.getD 0) =
      mailboxes.map StatusMailbox.messages :=
    List.map_congr_left fun mailbox isMailbox => by rw [(fields mailbox isMailbox).1]; rfl
  have vsizes : (mailboxes.map fun mailbox => mailbox.vsizeOf.getD 0) =
      mailboxes.map StatusMailbox.vsize :=
    List.map_congr_left fun mailbox isMailbox => by rw [(fields mailbox isMailbox).2.1]; rfl
  constructor
  · rintro ⟨-, countable⟩
    refine ⟨fun mailbox isMailbox noWords => ?_, keys ▸ countable.distinct⟩
    have hasKey := (countable.readable mailbox isMailbox).1
    rw [(fields mailbox isMailbox).2.2, noWords] at hasKey
    exact Bool.noConfusion hasKey
  · rintro ⟨hasWords, differ⟩
    refine ⟨isPlain.nonempty, fun mailbox isMailbox => ?_, keys ▸ differ, ?_, ?_, ?_, ?_⟩
    · obtain ⟨isMessages, isVsize, isKey⟩ := fields mailbox isMailbox
      rw [isMessages, isVsize, isKey]
      refine ⟨?_, rfl, rfl⟩
      rw [List.isSome_head?]
      exact hasWords mailbox isMailbox
    · intro mailbox isMailbox key isKey
      exact absurd isKey (Finset.notMem_empty key)
    · rw [Nat.zero_add]
      exact isPlain.folders
    · rw [Nat.zero_add, messages]
      exact isPlain.messages
    · rw [Nat.zero_add, vsizes]
      exact isPlain.bytes

/-- Inventories are added up faithfully exactly when fields in the names do not change the totals
of what is counted, and the first words of plain names differ. -/
theorem dovecotEvidence_faithful_iff (source destination : List StatusMailbox) :
    ((∀ evidence, dovecotEvidenceFromAccumulators (dovecotStatus source)
          (dovecotStatus destination) = some evidence →
        evidence.sourceTotals = inventoryTotals source ∧
          evidence.destinationTotals = inventoryTotals destination) ∧
      (IsPlainInventory source → IsPlainInventory destination →
        (dovecotEvidenceFromAccumulators (dovecotStatus source)
          (dovecotStatus destination)).isSome)) ↔
      (Counted source → Counted destination →
        readTotals source = inventoryTotals source ∧
          readTotals destination = inventoryTotals destination) ∧
      (IsPlainInventory source → IsPlainInventory destination →
        FirstWordsDiffer source ∧ FirstWordsDiffer destination) := by
  obtain ⟨isSome, totals⟩ := dovecotEvidence_spec source destination
  refine and_congr ⟨fun faithful sourceCounted counted => ?_, fun kept evidence isEvidence => ?_⟩
    (forall₂_congr fun sourcePlain plain => ?_)
  · obtain ⟨evidence, isEvidence⟩ :=
      Option.isSome_iff_exists.mp (isSome.mpr ⟨sourceCounted, counted⟩)
    obtain ⟨sourceRead, read⟩ := totals evidence isEvidence
    obtain ⟨sourceTotal, total⟩ := faithful evidence isEvidence
    exact ⟨sourceRead.symm.trans sourceTotal, read.symm.trans total⟩
  · obtain ⟨sourceRead, read⟩ := totals evidence isEvidence
    obtain ⟨sourceCounted, counted⟩ := isSome.mp (Option.isSome_iff_exists.mpr ⟨_, isEvidence⟩)
    obtain ⟨sourceTotal, total⟩ := kept sourceCounted counted
    exact ⟨sourceRead.trans sourceTotal, read.trans total⟩
  · rw [isSome, counted_iff_firstWordsDiffer sourcePlain, counted_iff_firstWordsDiffer plain]

/-! ## Two names -/

/-- A mailbox of some messages. -/
def namedMailbox (name : String) : StatusMailbox where
  name := name.toList
  messages := 3
  vsize := 40
  messagesFit := by decide
  vsizeFits := by decide

/-- Names that share their first word are taken for one, and a field in a name for the mailbox's
own. -/
theorem names_confused :
    ¬∀ source destination : List StatusMailbox,
      (source.map StatusMailbox.name).Nodup → (destination.map StatusMailbox.name).Nodup →
      (∀ mailbox ∈ source ++ destination, mailbox.name ≠ []) →
      (∀ evidence, dovecotEvidenceFromAccumulators (dovecotStatus source)
          (dovecotStatus destination) = some evidence →
        evidence.sourceTotals = inventoryTotals source ∧
          evidence.destinationTotals = inventoryTotals destination) ∧
      (IsPlainInventory source → IsPlainInventory destination →
        (dovecotEvidenceFromAccumulators (dovecotStatus source)
          (dovecotStatus destination)).isSome) := by
  intro faithful
  have isPlain : IsPlainInventory [namedMailbox "Sent Items", namedMailbox "Sent Mail"] :=
    ⟨List.cons_ne_nil _ _, by decide, by decide, by decide, by decide⟩
  have isSome := (faithful [namedMailbox "Sent Items", namedMailbox "Sent Mail"]
    [namedMailbox "Sent Items", namedMailbox "Sent Mail"] (by decide) (by decide) (by decide)).2
      isPlain isPlain
  exact absurd isSome (by decide +kernel)

end MailSwiftSync
