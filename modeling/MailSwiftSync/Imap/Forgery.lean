import MailSwiftSync.Imap.FetchParser
import MailSwiftSync.Imap.Payloads

/-!
# Payloads cannot forge protocol

Whoever writes a message chooses the bytes of its literals.  Two responses that differ only in
the bytes of one payload are compared: the completion is found at the same place, and the same
records are read, up to the identity of the message the payload belongs to.
-/

namespace MailSwiftSync.Imap

/-! ## Replaced payloads -/

/-- A response with the bytes of one literal payload replaced, which begins at an offset.  The
last payload may have come in part only. -/
inductive PayloadReplaced : Nat → Bytes → Bytes → Prop where
  | here {line payload replacement rest : Bytes} {header : LiteralHeader}
      (unbroken : lineEnd line = none) (announced : literalHeader line = some header)
      (whole : payload.length = header.length ∨ payload.length < header.length ∧ rest = [])
      (same : replacement.length = payload.length) :
      PayloadReplaced (line.length + 2) (line ++ 0x0D :: 0x0A :: (payload ++ rest))
        (line ++ 0x0D :: 0x0A :: (replacement ++ rest))
  | afterLine {offset : Nat} {line rest replaced : Bytes}
      (unbroken : lineEnd line = none) (plain : literalHeader line = none)
      (later : PayloadReplaced offset rest replaced) :
      PayloadReplaced (line.length + 2 + offset) (line ++ 0x0D :: 0x0A :: rest)
        (line ++ 0x0D :: 0x0A :: replaced)
  | afterLiteral {offset : Nat} {line payload rest replaced : Bytes} {header : LiteralHeader}
      (unbroken : lineEnd line = none) (announced : literalHeader line = some header)
      (whole : payload.length = header.length)
      (later : PayloadReplaced offset rest replaced) :
      PayloadReplaced (line.length + 2 + payload.length + offset)
        (line ++ 0x0D :: 0x0A :: (payload ++ rest))
        (line ++ 0x0D :: 0x0A :: (payload ++ replaced))

namespace PayloadReplaced

variable {offset : Nat} {response replaced : Bytes}

/-- Taking some bytes after a line. -/
theorem take_line (line rest : Bytes) (more : Nat) :
    (line ++ 0x0D :: 0x0A :: rest).take (line.length + 2 + more) =
      line ++ 0x0D :: 0x0A :: rest.take more := by
  rw [Nat.add_assoc, List.take_length_add_append, Nat.add_comm 2 more]
  rfl

theorem take_short (line rest other : Bytes) {read : Nat} (short : read ≤ line.length + 2) :
    (line ++ 0x0D :: 0x0A :: rest).take read = (line ++ 0x0D :: 0x0A :: other).take read := by
  have asAppend : ∀ after : Bytes,
      line ++ 0x0D :: 0x0A :: after = (line ++ [0x0D, 0x0A]) ++ after := by
    intro after
    rw [List.append_assoc]
    rfl
  have bound : read ≤ (line ++ [0x0D, 0x0A]).length := by
    rw [List.length_append]
    exact short
  rw [asAppend rest, asAppend other, List.take_append_of_le_length bound,
    List.take_append_of_le_length bound]

/-- What has been read of both is the same, or differs in the payload. -/
theorem take (differ : PayloadReplaced offset response replaced) (read : Nat) :
    response.take read = replaced.take read ∨
      PayloadReplaced offset (response.take read) (replaced.take read) := by
  induction differ generalizing read with
  | @here line payload replacement rest header unbroken announced whole same =>
    rcases Nat.le_total read (line.length + 2) with short | long
    · exact .inl (take_short line _ _ short)
    · obtain ⟨more, rfl⟩ := Nat.exists_eq_add_of_le long
      right
      rw [take_line, take_line]
      rcases Nat.lt_or_ge more payload.length with cut | complete
      · rw [List.take_append_of_le_length (by omega),
          List.take_append_of_le_length (by omega), ← List.append_nil (payload.take more),
          ← List.append_nil (replacement.take more)]
        apply here unbroken announced
        · right
          rw [List.length_take]
          exact ⟨by omega, rfl⟩
        · rw [List.length_take, List.length_take]
          omega
      · obtain ⟨further, rfl⟩ := Nat.exists_eq_add_of_le complete
        rw [List.take_length_add_append, ← same, List.take_length_add_append]
        rw [← same] at whole
        apply here unbroken announced _ same
        rw [← same]
        exact whole.imp_right fun partly => ⟨partly.1, by rw [partly.2, List.take_nil]⟩
  | @afterLine offset line rest replaced unbroken plain later ih =>
    rcases Nat.le_total read (line.length + 2) with short | long
    · exact .inl (take_short line _ _ short)
    · obtain ⟨more, rfl⟩ := Nat.exists_eq_add_of_le long
      rw [take_line, take_line]
      rcases ih more with same | differs
      · exact .inl (by rw [same])
      · exact .inr (afterLine unbroken plain differs)
  | @afterLiteral offset line payload rest replaced header unbroken announced whole later ih =>
    rcases Nat.le_total read (line.length + 2) with short | long
    · exact .inl (take_short line _ _ short)
    · obtain ⟨more, rfl⟩ := Nat.exists_eq_add_of_le long
      rw [take_line, take_line]
      rcases Nat.le_total more payload.length with cut | complete
      · left
        rw [List.take_append_of_le_length cut, List.take_append_of_le_length cut]
      · obtain ⟨further, rfl⟩ := Nat.exists_eq_add_of_le complete
        rw [List.take_length_add_append, List.take_length_add_append]
        rcases ih further with same | differs
        · exact .inl (by rw [same])
        · exact .inr (afterLiteral unbroken announced whole differs)

end PayloadReplaced

/-! ## The completion -/

namespace TaggedResponseScanner

variable {offset : Nat} {response replaced : Bytes}

/-- The scanner does not see the bytes of a payload. -/
theorem scan_replaced (differ : PayloadReplaced offset response replaced) (tag : Bytes) :
    (new tag).scan response = (new tag).scan replaced := by
  induction differ with
  | @here line payload replacement rest header unbroken announced whole same =>
    have remaining : (literalLength line).getD 0 = header.length := by
      rw [literalLength, announced]
      rfl
    rw [scan_first_line unbroken, scan_first_line unbroken, remaining]
    have alike : scan ⟨tag, 0, 0, header.length⟩ (payload ++ rest) =
        scan ⟨tag, 0, 0, header.length⟩ (replacement ++ rest) := by
      rcases whole with whole | ⟨short, rfl⟩
      · rw [← whole, scan_payload, ← same, scan_payload]
      · rw [List.append_nil, List.append_nil, scan_short_payload short,
          scan_short_payload (same ▸ short), same]
    rw [alike]
  | @afterLine offset line rest replaced unbroken plain later ih =>
    have remaining : (literalLength line).getD 0 = 0 := by
      rw [literalLength, plain]
      rfl
    rw [scan_first_line unbroken, scan_first_line unbroken, remaining]
    rw [new] at ih
    rw [ih]
  | @afterLiteral offset line payload rest replaced header unbroken announced whole later ih =>
    have remaining : (literalLength line).getD 0 = payload.length := by
      rw [literalLength, announced, whole]
      rfl
    rw [scan_first_line unbroken, scan_first_line unbroken, remaining, scan_payload,
      scan_payload, ih]

/-- Nor does it however the response arrives. -/
theorem feed_replaced (differ : PayloadReplaced offset response replaced) (tag : Bytes)
    (sizes : List Nat) : (new tag).feed response 0 sizes = (new tag).feed replaced 0 sizes := by
  have reached : ∀ (scanner : TaggedResponseScanner) (read : Nat),
      (∀ further, read ≤ further →
        scanner.scan (response.take further) = (new tag).scan (response.take further)) →
      (∀ further, read ≤ further →
        scanner.scan (replaced.take further) = (new tag).scan (replaced.take further)) →
      scanner.feed response read sizes = scanner.feed replaced read sizes := by
    induction sizes with
    | nil =>
      intro scanner read same sameReplaced
      rfl
    | cons size sizes ih =>
      intro scanner read same sameReplaced
      have alike : scanner.scan (response.take (read + size)) =
          scanner.scan (replaced.take (read + size)) := by
        rw [same _ (Nat.le_add_right ..), sameReplaced _ (Nat.le_add_right ..)]
        rcases differ.take (read + size) with equal | differs
        · rw [equal]
        · exact scan_replaced differs tag
      have goOn : ∀ (whole : Bytes) (further : Nat), read + size ≤ further →
          (scanner.scan (whole.take (read + size))).1 = false →
          (scanner.scan (whole.take (read + size))).2.scan (whole.take further) =
            scanner.scan (whole.take further) := by
        intro whole further later notFound
        by_cases isShort : whole.length ≤ read + size
        · have once := @scan_take scanner whole whole.length le_rfl
          rw [List.take_length] at once
          rw [List.take_of_length_le isShort] at notFound ⊢
          rw [List.take_of_length_le (le_trans isShort later)]
          rw [notFound] at once
          exact once
        · have once := @scan_take scanner (whole.take further)
            (read + size) (by rw [List.length_take]; omega)
          rw [List.take_take, Nat.min_eq_left later, notFound] at once
          exact once
      rw [feed, feed, ← alike]
      cases found : (scanner.scan (response.take (read + size))).1 with
      | true => simp only [found, if_true]
      | false =>
        simp only [found, Bool.false_eq_true, if_false]
        apply ih
        · intro further later
          rw [goOn response further later found]
          exact same further (by omega)
        · intro further later
          rw [alike] at found ⊢
          rw [goOn replaced further later found]
          exact sameReplaced further (by omega)
  exact reached (new tag) 0 (fun _ _ => rfl) fun _ _ => rfl

end TaggedResponseScanner

/-! ## Frames -/

/-- Two lists that agree, or differ in one item as the relation says. -/
def AlikeButOne {α : Type} (differ : α → α → Prop) (left right : List α) : Prop :=
  left = right ∨ ∃ before item other after,
    left = before ++ item :: after ∧ right = before ++ other :: after ∧ differ item other

namespace AlikeButOne

variable {α β : Type} {differ : α → α → Prop} {left right : List α}

theorem cons (item : α) (alike : AlikeButOne differ left right) :
    AlikeButOne differ (item :: left) (item :: right) := by
  rcases alike with same | ⟨before, one, other, after, rfl, rfl, differs⟩
  · exact .inl (congrArg _ same)
  · exact .inr ⟨item :: before, one, other, after, rfl, rfl, differs⟩

theorem head {item other : α} (differs : differ item other) (after : List α) :
    AlikeButOne differ (item :: after) (other :: after) :=
  .inr ⟨[], item, other, after, rfl, rfl, differs⟩

theorem length_eq (alike : AlikeButOne differ left right) : left.length = right.length := by
  rcases alike with same | ⟨before, item, other, after, rfl, rfl, _⟩
  · rw [same]
  · simp

theorem filterMap {kept : β → β → Prop} {read : α → Option β}
    (keeps : ∀ item other, differ item other → read item = read other ∨
      ∃ result another, read item = some result ∧ read other = some another ∧
        kept result another)
    (alike : AlikeButOne differ left right) :
    AlikeButOne kept (left.filterMap read) (right.filterMap read) := by
  rcases alike with same | ⟨before, one, other, after, rfl, rfl, differs⟩
  · exact .inl (congrArg _ same)
  · simp only [List.filterMap_append, List.filterMap_cons]
    rcases keeps one other differs with same | ⟨result, another, isResult, isAnother, isKept⟩
    · exact .inl (by rw [same])
    · rw [isResult, isAnother]
      exact .inr ⟨_, result, another, _, rfl, rfl, isKept⟩

end AlikeButOne

/-- A frame with the bytes of the payload at an offset replaced. -/
def FrameReplaced (offset : Nat) (frame other : ResponseFrame) : Prop :=
  other.protocol = frame.protocol ∧ ∃ before payload replacement after,
    frame.literals = before ++ ⟨offset, payload⟩ :: after ∧
    other.literals = before ++ ⟨offset, replacement⟩ :: after ∧
    replacement.length = payload.length

variable {offset : Nat} {frame other : ResponseFrame}

theorem FrameReplaced.extend
    (replaced : FrameReplaced offset frame other) (lines literals : List Slice) :
    FrameReplaced offset ⟨frame.protocol ++ lines, frame.literals ++ literals⟩
      ⟨other.protocol ++ lines, other.literals ++ literals⟩ := by
  obtain ⟨protocol, before, payload, replacement, after, isFrame, isOther, same⟩ := replaced
  refine ⟨by rw [protocol], before, payload, replacement, after ++ literals, ?_, ?_, same⟩
  · rw [isFrame, List.append_assoc]
    rfl
  · rw [isOther, List.append_assoc]
    rfl

theorem FrameReplaced.literals_ne (replaced : FrameReplaced offset frame other) :
    frame.literals.isEmpty = false ∧ other.literals.isEmpty = false := by
  obtain ⟨_, before, payload, replacement, after, isFrame, isOther, _⟩ := replaced
  rw [isFrame, isOther]
  constructor <;> cases before <;> rfl

/-- Two values that are related. -/
inductive BothOk {α : Type} (related : α → α → Prop) :
    Except String α → Except String α → Prop where
  | ok {value other : α} (isRelated : related value other) :
      BothOk related (.ok value) (.ok other)

/-- A payload in the frame begun changes nothing in the frames that follow. -/
theorem framesFrom_begun (start : Nat)
    (replaced : FrameReplaced offset frame other) (rest : Bytes) :
    AlikeButOne (BothOk (FrameReplaced offset)) (framesFrom start frame rest)
      (framesFrom start other rest) := by
  fun_induction framesFrom start frame rest generalizing other with
  | case1 start frame rest isLast noLiterals =>
    rw [replaced.literals_ne.1] at noLiterals
    cases noLiterals
  | case2 start frame rest isLast hasLiterals =>
    rw [framesFrom_last isLast, replaced.literals_ne.2]
    exact .inl rfl
  | case3 start frame rest index ends line framed first after noHeader =>
    rw [framesFrom_line ends, noHeader]
    apply AlikeButOne.head
    have extended := replaced.extend [⟨start, line⟩] []
    rw [List.append_nil, List.append_nil] at extended
    exact .ok extended
  | case4 start frame rest index ends line header isHeader =>
    have isBinary : header.binary = true := by assumption
    rw [framesFrom_line ends, isHeader, Option.elim_some, if_pos isBinary]
    exact .inl rfl
  | case5 start frame rest index ends line after header isHeader notBinary =>
    have short : after.length < header.length := by assumption
    rw [framesFrom_line ends, isHeader, Option.elim_some, if_neg notBinary, if_pos short]
    exact .inl rfl
  | case6 start frame rest index ends line framed first after header isHeader notBinary whole =>
    rename_i ih
    rw [framesFrom_line ends, isHeader, Option.elim_some, if_neg notBinary, if_neg whole]
    exact ih (replaced.extend [⟨start, line⟩] [⟨first, after.take header.length⟩])

/-- The splitter sees the same frames, but for the payload in the frame that owns it. -/
theorem framesFrom_replaced {response replaced : Bytes}
    (differ : PayloadReplaced offset response replaced) (start : Nat) (frame : ResponseFrame) :
    AlikeButOne (BothOk (FrameReplaced (start + offset))) (framesFrom start frame response)
      (framesFrom start frame replaced) := by
  induction differ generalizing start frame with
  | @here line payload replacement rest header unbroken announced whole same =>
    rw [framesFrom_unbroken unbroken, framesFrom_unbroken unbroken, announced,
      Option.elim_some, Option.elim_some, List.length_append, List.length_append, same]
    split
    · exact .inl rfl
    · split
      · exact .inl rfl
      · next notBinary notShort =>
        rcases whole with whole | ⟨short, rfl⟩
        · rw [← whole, List.take_left, List.drop_left, ← same, List.take_left,
            List.drop_left, same, ← Nat.add_assoc]
          apply framesFrom_begun
          exact ⟨rfl, frame.literals, payload, replacement, [], rfl, rfl, same⟩
        · rw [List.length_nil] at notShort
          omega
  | @afterLine offset line rest replaced unbroken plain later ih =>
    rw [framesFrom_unbroken unbroken, framesFrom_unbroken unbroken, plain, Option.elim_none,
      Option.elim_none]
    apply AlikeButOne.cons
    have goesOn := ih (start + line.length + 2) ⟨[], []⟩
    rw [show start + line.length + 2 + offset = start + (line.length + 2 + offset) by omega]
      at goesOn
    exact goesOn
  | @afterLiteral offset line payload rest replaced header unbroken announced whole later ih =>
    rw [framesFrom_unbroken unbroken, framesFrom_unbroken unbroken, announced,
      Option.elim_some, Option.elim_some, List.length_append, List.length_append]
    split
    · exact .inl rfl
    · rw [if_neg (by omega), if_neg (by omega), ← whole, List.take_left, List.drop_left,
        List.take_left, List.drop_left]
      have goesOn := ih (start + line.length + 2 + payload.length)
        ⟨frame.protocol ++ [⟨start, line⟩],
          frame.literals ++ [⟨start + line.length + 2, payload⟩]⟩
      rw [show start + line.length + 2 + payload.length + offset =
        start + (line.length + 2 + payload.length + offset) by omega] at goesOn
      exact goesOn

/-- The completion is found in the same place. -/
theorem taggedCompletion_replaced {response replaced : Bytes}
    (differ : PayloadReplaced offset response replaced) (tag : Bytes) :
    taggedCompletion response tag = taggedCompletion replaced tag := by
  rw [taggedCompletion, taggedCompletion, splitResponses, splitResponses]
  rcases framesFrom_replaced differ 0 ⟨[], []⟩ with
    same | ⟨before, item, other, after, isLeft, isRight, differs⟩
  · rw [same]
  · rw [isLeft, isRight]
    clear isLeft isRight
    induction before with
    | nil =>
      cases differs with
      | ok isReplaced =>
        rw [List.nil_append, List.nil_append, completionIn, completionIn, isReplaced.1]
    | cons first before ih =>
      rw [List.cons_append, List.cons_append]
      cases first with
      | error message => rfl
      | ok frame => rw [completionIn, completionIn, ih]

/-! ## Records -/

/-- A record with the bytes of the payload at an offset replaced. -/
def RecordReplaced (offset : Nat) (record other : FetchRecord) : Prop :=
  other.protocolText = record.protocolText ∧ FrameReplaced offset record.frame other.frame

/-- A record that owns the payload at an offset. -/
def FetchRecord.Owns (record : FetchRecord) (offset : Nat) : Prop :=
  ∃ literal ∈ record.frame.literals, literal.offset = offset

theorem RecordReplaced.owns {record other : FetchRecord}
    (replaced : RecordReplaced offset record other) : record.Owns offset := by
  obtain ⟨_, _, before, payload, _, after, isRecord, _⟩ := replaced
  rw [FetchRecord.Owns, isRecord]
  exact ⟨⟨offset, payload⟩, List.mem_append_right _ List.mem_cons_self, rfl⟩

/-- The same records are found. -/
theorem fetchRecords_replaced {response replaced : Bytes}
    (differ : PayloadReplaced offset response replaced) :
    AlikeButOne (BothOk (RecordReplaced offset)) (fetchRecords response)
      (fetchRecords replaced) := by
  have frames := framesFrom_replaced differ 0 ⟨[], []⟩
  rw [Nat.zero_add] at frames
  apply frames.filterMap
  intro item other differs
  cases differs with
  | @ok frame other isReplaced =>
    have sameProtocol := isReplaced.1
    cases isFirst : frame.protocol.head? with
    | none =>
      left
      simp [recordOf, sameProtocol, isFirst]
    | some first =>
      simp only [recordOf, sameProtocol, isFirst, Option.bind_eq_bind, Option.bind_some]
      by_cases candidate : isFetchRecordCandidate (fromUtf8Lossy first.bytes) = true
      · by_cases wellFormed : isFetchRecordLine (fromUtf8Lossy first.bytes) = true
        · right
          refine ⟨.ok ⟨frame, protocolTextOf frame.protocol⟩,
            .ok ⟨other, protocolTextOf frame.protocol⟩, ?_, ?_, .ok ⟨rfl, isReplaced⟩⟩
          · simp [candidate, wellFormed]
          · simp [candidate, wellFormed]
        · left
          simp [candidate, wellFormed]
      · left
        simp [candidate]

/-! ## Parsed messages -/

/-- The same error, or related results. -/
def OutcomesAlike {α : Type} (related : α → α → Prop) (left right : Except String α) : Prop :=
  (∃ message, left = .error message ∧ right = .error message) ∨ BothOk related left right

theorem OutcomesAlike.bind {α β : Type} {related : α → α → Prop} {result : β → β → Prop}
    {left right : Except String α} {next next' : α → Except String β}
    (alike : OutcomesAlike related left right)
    (goesOn : ∀ value other, related value other →
      OutcomesAlike result (next value) (next' other)) :
    OutcomesAlike result (left >>= next) (right >>= next') := by
  rcases alike with ⟨message, rfl, rfl⟩ | both
  · exact .inl ⟨message, rfl, rfl⟩
  · cases both with
    | ok isRelated => exact goesOn _ _ isRelated

/-- Reading lists that agree but in one item. -/
theorem AlikeButOne.foldlM {α σ : Type} {differ : α → α → Prop} {related : σ → σ → Prop}
    {left right : List α} {step : σ → α → Except String σ}
    (same : ∀ state, related state state)
    (keeps : ∀ state other item, related state other →
      OutcomesAlike related (step state item) (step other item))
    (differs : ∀ state item other, item ∈ left → differ item other →
      OutcomesAlike related (step state item) (step state other))
    (alike : AlikeButOne differ left right) (state : σ) :
    OutcomesAlike related (left.foldlM step state) (right.foldlM step state) := by
  have rest : ∀ (items : List α) state other, related state other →
      OutcomesAlike related (items.foldlM step state) (items.foldlM step other) := by
    intro items
    induction items with
    | nil =>
      intro state other isRelated
      exact .inr (.ok isRelated)
    | cons item items ih =>
      intro state other isRelated
      rw [List.foldlM_cons, List.foldlM_cons]
      exact (keeps state other item isRelated).bind ih
  rcases alike with rfl | ⟨before, item, other, after, rfl, rfl, isDifferent⟩
  · exact rest left state state (same state)
  · rw [List.foldlM_append, List.foldlM_append]
    cases before.foldlM step state with
    | error message => exact .inl ⟨message, rfl, rfl⟩
    | ok reached =>
      have isMember : item ∈ before ++ item :: after :=
        List.mem_append_right _ List.mem_cons_self
      have here := differs reached item other isMember isDifferent
      simp only [List.foldlM_cons]
      exact here.bind (rest after)

/-- A message without the identity derived from its header. -/
def withoutIdentity (message : ExtractedMessage) : ExtractedMessage :=
  { message with messageId := none }

/-- The key under which a record is filed. -/
def FetchRecord.HasKey (record : FetchRecord) (key : MailboxMessageKey) : Prop :=
  ∃ uid, fetchNumber record.protocolText "UID" = some uid ∧ key.uid = toString uid

/-- The key of the record that owns the payload at an offset. -/
def OwnerKey (response : Bytes) (offset : Nat) (key : MailboxMessageKey) : Prop :=
  ∃ record, .ok record ∈ fetchRecords response ∧ record.Owns offset ∧ record.HasKey key

/-- The same messages, up to the identity of an owner. -/
def MessagesAlike (owner : MailboxMessageKey → Prop) (messages others : ExtractedMessages) :
    Prop :=
  ∀ key, (messages.lookup key).map withoutIdentity = (others.lookup key).map withoutIdentity ∧
    (¬owner key → messages.lookup key = others.lookup key)

variable {owner : MailboxMessageKey → Prop}

theorem MessagesAlike.mem_iff
    {messages others : ExtractedMessages} (alike : MessagesAlike owner messages others)
    (key : MailboxMessageKey) : key ∈ messages ↔ key ∈ others := by
  have same := congrArg Option.isSome (alike key).1
  rw [Option.isSome_map, Option.isSome_map] at same
  rw [← AList.lookup_isSome, ← AList.lookup_isSome, same]

theorem MessagesAlike.insert
    {messages others : ExtractedMessages} (alike : MessagesAlike owner messages others)
    (key : MailboxMessageKey) {message other : ExtractedMessage}
    (same : withoutIdentity message = withoutIdentity other)
    (owned : ¬owner key → message = other) :
    MessagesAlike owner (messages.insert key message) (others.insert key other) := by
  intro another
  by_cases isKey : another = key
  · subst isKey
    rw [AList.lookup_insert, AList.lookup_insert]
    exact ⟨congrArg some same, fun notOwned => congrArg some (owned notOwned)⟩
  · rw [AList.lookup_insert_ne isKey, AList.lookup_insert_ne isKey]
    exact alike another

theorem parsedFetchUid_eq_ok {protocolText : Text} {mailbox context : String} {uid : Nat}
    (parsed : parsedFetchUid protocolText mailbox context = .ok uid) :
    fetchNumber protocolText "UID" = some uid := by
  rw [parsedFetchUid] at parsed
  split at parsed
  next => cases parsed
  next found isFound =>
    rw [validateImapUid] at parsed
    split at parsed
    next => cases parsed
    next => rw [isFound, Except.ok.inj parsed]

section Parsers

variable {sha256 : Bytes → Bytes} {mailbox : String} {uidvalidity : Option Nat}
variable {offset : Nat} {response replaced : Bytes}

theorem addMetadata_ok {record : FetchRecord} {uid : Nat}
    (parsed : parsedFetchUid record.protocolText mailbox "IMAP FETCH" = .ok uid)
    (messages : ExtractedMessages) :
    addMetadata sha256 mailbox uidvalidity messages (.ok record) =
      if ⟨mailbox, uidvalidity, toString uid⟩ ∈ messages then
        .error ("duplicate FETCH UID " ++ toString uid)
      else
        .ok (messages.insert ⟨mailbox, uidvalidity, toString uid⟩ (messageOf sha256 record)) := by
  simp only [addMetadata, parsed, pure, Except.pure, bind, Except.bind]

theorem addMetadata_error {record : FetchRecord} {message : String}
    (failed : parsedFetchUid record.protocolText mailbox "IMAP FETCH" = .error message)
    (messages : ExtractedMessages) :
    addMetadata sha256 mailbox uidvalidity messages (.ok record) = .error message := by
  simp only [addMetadata, failed, bind, Except.bind]

/-- Reading records into messages that are alike. -/
theorem addMetadata_alike {messages others : ExtractedMessages}
    (alike : MessagesAlike owner messages others) {record other : FetchRecord}
    (sameText : other.protocolText = record.protocolText)
    (owned : ∀ key, record.HasKey key → ¬owner key →
      messageOf sha256 record = messageOf sha256 other) :
    OutcomesAlike (MessagesAlike owner)
      (addMetadata sha256 mailbox uidvalidity messages (.ok record))
      (addMetadata sha256 mailbox uidvalidity others (.ok other)) := by
  cases parsed : parsedFetchUid record.protocolText mailbox "IMAP FETCH" with
  | error message =>
    rw [addMetadata_error parsed, addMetadata_error (sameText ▸ parsed)]
    exact .inl ⟨message, rfl, rfl⟩
  | ok uid =>
    rw [addMetadata_ok parsed, addMetadata_ok (sameText ▸ parsed)]
    simp only [alike.mem_iff]
    split
    · exact .inl ⟨_, rfl, rfl⟩
    · refine .inr (.ok (alike.insert _ ?_ ?_))
      · rw [withoutIdentity, withoutIdentity, messageOf, messageOf, sameText]
      · intro notOwned
        exact owned _ ⟨uid, parsedFetchUid_eq_ok parsed, rfl⟩ notOwned

/-- The messages read from a response are the same, but for the identity of the one whose record
owns the payload. -/
theorem metadata_replaced (differ : PayloadReplaced offset response replaced) :
    OutcomesAlike (MessagesAlike (OwnerKey response offset))
      (parseMessageFetchMetadataResponse sha256 response mailbox uidvalidity)
      (parseMessageFetchMetadataResponse sha256 replaced mailbox uidvalidity) := by
  apply (fetchRecords_replaced differ).foldlM
  · intro messages key
    exact ⟨rfl, fun _ => rfl⟩
  · intro messages others item alike
    cases item with
    | error message => exact .inl ⟨message, rfl, rfl⟩
    | ok record => exact addMetadata_alike alike rfl fun _ _ _ => rfl
  · intro messages item other isMember differs
    cases differs with
    | @ok record other isReplaced =>
      apply addMetadata_alike (fun key => ⟨rfl, fun _ => rfl⟩) isReplaced.1
      intro key hasKey notOwned
      exact absurd ⟨record, isMember, isReplaced.owns, hasKey⟩ notOwned

/-! ## Body fingerprints -/

/-- The literal after an item is in the same place, with a payload of the same length. -/
theorem literalAfter_replaced (isReplaced : FrameReplaced offset frame other) (item : Bytes) :
    (other.literalAfter item).map (fun literal => literal.bytes.length) =
      (frame.literalAfter item).map fun literal => literal.bytes.length := by
  obtain ⟨sameProtocol, before, payload, replacement, after, isFrame, isOther, same⟩ := isReplaced
  rw [ResponseFrame.literalAfter, ResponseFrame.literalAfter, sameProtocol, isFrame, isOther]
  clear isFrame isOther sameProtocol
  generalize frame.protocol = protocol
  induction before generalizing protocol with
  | nil =>
    cases protocol with
    | nil => rfl
    | cons segment protocol =>
      simp only [List.nil_append, List.zip_cons_cons, List.find?_cons]
      cases announcesItem item segment.bytes with
      | true => exact congrArg some same
      | false => rfl
  | cons literal before ih =>
    cases protocol with
    | nil => rfl
    | cons segment protocol =>
      simp only [List.cons_append, List.zip_cons_cons, List.find?_cons]
      cases announcesItem item segment.bytes with
      | true => rfl
      | false => exact ih protocol

/-- The same bodies, up to the fingerprint of an owner. -/
def PagesAlike (owner : MailboxMessageKey → Prop) (page other : BodyHashPage) : Prop :=
  page.totalBytes = other.totalBytes ∧
    ∀ key, (page.fingerprints.lookup key).isSome = (other.fingerprints.lookup key).isSome ∧
      (¬owner key → page.fingerprints.lookup key = other.fingerprints.lookup key)

theorem PagesAlike.mem_iff {page other : BodyHashPage}
    (alike : PagesAlike owner page other) (key : MailboxMessageKey) :
    key ∈ page.fingerprints ↔ key ∈ other.fingerprints := by
  rw [← AList.lookup_isSome, ← AList.lookup_isSome, (alike.2 key).1]

theorem PagesAlike.insert {page other : BodyHashPage}
    (alike : PagesAlike owner page other) (key : MailboxMessageKey) {hash hash' : String}
    (length : Nat) (owned : ¬owner key → hash = hash') :
    PagesAlike owner
      ⟨page.fingerprints.insert key hash, saturatingAdd page.totalBytes length⟩
      ⟨other.fingerprints.insert key hash', saturatingAdd other.totalBytes length⟩ := by
  refine ⟨by rw [alike.1], fun another => ?_⟩
  by_cases isKey : another = key
  · subst isKey
    rw [AList.lookup_insert, AList.lookup_insert]
    exact ⟨rfl, fun notOwned => congrArg some (owned notOwned)⟩
  · rw [AList.lookup_insert_ne isKey, AList.lookup_insert_ne isKey]
    exact alike.2 another

theorem bodyOf_replaced (isReplaced : FrameReplaced offset frame other) :
    (bodyOf other).map (fun body => body.bytes.length) =
      (bodyOf frame).map fun body => body.bytes.length := by
  rw [bodyOf, bodyOf, Option.map_or, Option.map_or, literalAfter_replaced isReplaced,
    literalAfter_replaced isReplaced]

/-- Reading records into pages that are alike. -/
theorem addBodyHash_alike {page otherPage : BodyHashPage}
    (alike : PagesAlike owner page otherPage) {record other : FetchRecord} {maxBodyBytes : Nat}
    (sameText : other.protocolText = record.protocolText)
    (sameLength : (bodyOf other.frame).map (fun body => body.bytes.length) =
      (bodyOf record.frame).map fun body => body.bytes.length)
    (owned : ∀ key, record.HasKey key → ¬owner key → bodyOf record.frame = bodyOf other.frame) :
    OutcomesAlike (PagesAlike owner)
      (addBodyHash sha256 mailbox uidvalidity maxBodyBytes page (.ok record))
      (addBodyHash sha256 mailbox uidvalidity maxBodyBytes otherPage (.ok other)) := by
  simp only [addBodyHash, bind, Except.bind, sameText]
  cases parsed : parsedFetchUid record.protocolText mailbox "IMAP body FETCH" with
  | error message => exact .inl ⟨message, rfl, rfl⟩
  | ok uid =>
    cases isBody : bodyOf record.frame with
    | none =>
      rw [isBody, Option.map_none, Option.map_eq_none_iff] at sameLength
      rw [sameLength]
      exact .inl ⟨_, rfl, rfl⟩
    | some body =>
      rw [isBody, Option.map_some, Option.map_eq_some_iff] at sameLength
      obtain ⟨otherBody, isOther, length⟩ := sameLength
      simp only [isOther, length, alike.mem_iff]
      split
      · exact .inl ⟨_, rfl, rfl⟩
      · split
        · exact .inl ⟨_, rfl, rfl⟩
        · refine .inr (.ok (alike.insert _ _ fun notOwned => ?_))
          have same := owned _ ⟨uid, parsedFetchUid_eq_ok parsed, rfl⟩ notOwned
          rw [isBody, isOther] at same
          rw [Option.some.inj same]

/-- The fingerprints read from a response are the same, but for the one of the body that the
payload is. -/
theorem bodyHashes_replaced (differ : PayloadReplaced offset response replaced)
    (maxBodyBytes : Nat) :
    OutcomesAlike (PagesAlike (OwnerKey response offset))
      (parseMessageFetchBodyHashesResponse sha256 response mailbox uidvalidity maxBodyBytes)
      (parseMessageFetchBodyHashesResponse sha256 replaced mailbox uidvalidity maxBodyBytes) := by
  apply (fetchRecords_replaced differ).foldlM
  · intro page
    exact ⟨rfl, fun key => ⟨rfl, fun _ => rfl⟩⟩
  · intro page otherPage item alike
    cases item with
    | error message => exact .inl ⟨message, rfl, rfl⟩
    | ok record => exact addBodyHash_alike alike rfl rfl fun _ _ _ => rfl
  · intro page item other isMember differs
    cases differs with
    | @ok record other isReplaced =>
      apply addBodyHash_alike ⟨rfl, fun key => ⟨rfl, fun _ => rfl⟩⟩ isReplaced.1
        (bodyOf_replaced isReplaced.2)
      intro key hasKey notOwned
      exact absurd ⟨record, isMember, isReplaced.owns, hasKey⟩ notOwned

end Parsers

/-! ## Whole responses -/

/-- Replacing the bytes of a literal payload changes neither the completion nor the records, and
what is read from them only in the record that owns the payload: its identity or its body
fingerprint. -/
theorem payload_forges_nothing {offset : Nat} {response replaced : Bytes}
    (differ : PayloadReplaced offset response replaced) :
    (∀ tag sizes, (TaggedResponseScanner.new tag).feed response 0 sizes =
      (TaggedResponseScanner.new tag).feed replaced 0 sizes) ∧
    (∀ tag, taggedCompletion response tag = taggedCompletion replaced tag) ∧
    ((fetchRecords response).length = (fetchRecords replaced).length ∧
      AlikeButOne (BothOk (RecordReplaced offset)) (fetchRecords response)
        (fetchRecords replaced)) ∧
    (∀ sha256 mailbox uidvalidity, OutcomesAlike (MessagesAlike (OwnerKey response offset))
      (parseMessageFetchMetadataResponse sha256 response mailbox uidvalidity)
      (parseMessageFetchMetadataResponse sha256 replaced mailbox uidvalidity)) ∧
    ∀ sha256 mailbox uidvalidity maxBodyBytes,
      OutcomesAlike (PagesAlike (OwnerKey response offset))
        (parseMessageFetchBodyHashesResponse sha256 response mailbox uidvalidity maxBodyBytes)
        (parseMessageFetchBodyHashesResponse sha256 replaced mailbox uidvalidity
          maxBodyBytes) := by
  refine ⟨TaggedResponseScanner.feed_replaced differ, taggedCompletion_replaced differ,
    ⟨(fetchRecords_replaced differ).length_eq, fetchRecords_replaced differ⟩, ?_, ?_⟩
  · intro sha256 mailbox uidvalidity
    exact metadata_replaced differ
  · intro sha256 mailbox uidvalidity maxBodyBytes
    exact bodyHashes_replaced differ maxBodyBytes

/-! ## A forged completion -/

namespace ForgedCompletion

def announcement : Bytes := "* 1 FETCH (UID 7 BODY[] {7}".toUTF8.data.toList

def greeting : Bytes := "hello!!".toUTF8.data.toList

/-- A body that reads like a completion. -/
def completion : Bytes := "v1 OK\r\n".toUTF8.data.toList

def remainder : Bytes := ")\r\nv1 NO\r\n".toUTF8.data.toList

def honest : Bytes := announcement ++ 0x0D :: 0x0A :: (greeting ++ remainder)

def forged : Bytes := announcement ++ 0x0D :: 0x0A :: (completion ++ remainder)

theorem completion_not_forged :
    (TaggedResponseScanner.new "v1".toUTF8.data.toList).feed honest 0 [40, 8] =
        (TaggedResponseScanner.new "v1".toUTF8.data.toList).feed forged 0 [40, 8] ∧
      taggedCompletion honest "v1".toUTF8.data.toList =
        taggedCompletion forged "v1".toUTF8.data.toList ∧
      (fetchRecords honest).length = (fetchRecords forged).length := by
  have differ : PayloadReplaced (announcement.length + 2) honest forged :=
    @PayloadReplaced.here _ _ _ _ ⟨24, 7, false⟩ (by decide +kernel) (by decide +kernel)
      (.inl (by decide +kernel)) (by decide +kernel)
  have unseen := payload_forges_nothing differ
  exact ⟨unseen.1 _ _, unseen.2.1 _, unseen.2.2.1.1⟩

end ForgedCompletion

end MailSwiftSync.Imap
