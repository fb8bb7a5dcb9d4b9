import MailSwiftSync.Imap.ListReading

/-!
# The LIST reader and the response grammar

The reader keeps literal state of its own.  Where every literal belongs to a LIST response, what
it reads are the lines of the grammar, and what it records are the LIST responses among the
frames of the splitter.
-/

namespace MailSwiftSync.Imap

/-! ## Frames as LIST responses -/

def sliceText (line : Slice) : Text := lineText (line.bytes ++ [0x0D, 0x0A])

namespace ResponseFrame

/-- The text of a frame outside its literals. -/
def header (frame : ResponseFrame) : Text := (frame.protocol.map sliceText).flatten

/-- The payload that stands for the name of the mailbox. -/
def literalName (frame : ResponseFrame) : Option Bytes := do
  let line ← frame.protocol.head?
  let literal ← frame.literals.head?
  guard ((literalPrefix (sliceText line)).bind literalIsMailboxName = some true)
  return literal.bytes

def isList (frame : ResponseFrame) : Bool := isUntaggedResponse frame.header "LIST"

/-- The mailbox a LIST response describes. -/
def mailbox (frame : ResponseFrame) : Option MailboxDescriptor :=
  (entryName frame.header frame.literalName).toOption.map (descriptorOf frame.header)

def isTagged (tag : Text) (frame : ResponseFrame) : Bool :=
  frame.protocol.head?.any fun line => isTaggedResponse (sliceText line) tag

/-- A tagged response whose status is OK. -/
def completes (tag : Text) (frame : ResponseFrame) : Bool :=
  frame.protocol.head?.any fun line => isTaggedResponse (sliceText line) tag &&
    ((splitWhitespace (sliceText line))[1]?).any fun status => atomEq status "OK"

/-- The frame with a further line. -/
def withLine (frame : ResponseFrame) (line : Slice) : ResponseFrame :=
  { frame with protocol := frame.protocol ++ [line] }

/-- The frame with a further payload. -/
def withLiteral (frame : ResponseFrame) (literal : Slice) : ResponseFrame :=
  { frame with literals := frame.literals ++ [literal] }

variable {frame : ResponseFrame}

@[simp] theorem header_withLine (line : Slice) :
    (frame.withLine line).header = frame.header ++ sliceText line := by
  simp [header, withLine]

@[simp] theorem header_withLiteral (literal : Slice) :
    (frame.withLiteral literal).header = frame.header := rfl

theorem literalName_withLine (begun : frame.protocol ≠ []) (line : Slice) :
    (frame.withLine line).literalName = frame.literalName := by
  rw [literalName, literalName, withLine, List.head?_append_of_ne_nil _ begun]

theorem literalName_withLiteral (begun : frame.literals ≠ []) (literal : Slice) :
    (frame.withLiteral literal).literalName = frame.literalName := by
  rw [literalName, literalName, withLiteral, List.head?_append_of_ne_nil _ begun]

theorem isTagged_withLine {tag : Text} (begun : frame.protocol ≠ []) (line : Slice) :
    (frame.withLine line).isTagged tag = frame.isTagged tag := by
  rw [isTagged, isTagged, withLine, List.head?_append_of_ne_nil _ begun]

end ResponseFrame

/-! ## Records -/

/-- What some frames add to an inventory. -/
def Records (before after : ListInventory) (frames : List ResponseFrame) : Prop :=
  ∀ details, before.details = some details → ∃ added, after.details = some (details ++ added) ∧
    (frames.filter ResponseFrame.isList).map ResponseFrame.mailbox = added.map some

theorem Records.none (inventory : ListInventory) {frames : List ResponseFrame}
    (notList : ∀ frame ∈ frames, frame.isList = false) : Records inventory inventory frames := by
  intro details known
  refine ⟨[], by rw [known, List.append_nil], ?_⟩
  rw [List.filter_eq_nil_iff.mpr fun frame isFrame => by simp [notList frame isFrame]]
  rfl

theorem Records.append {before between after : ListInventory} {frames later : List ResponseFrame}
    (first : Records before between frames) (second : Records between after later) :
    Records before after (frames ++ later) := by
  intro details known
  obtain ⟨added, isBetween, isAdded⟩ := first details known
  obtain ⟨more, isAfter, isMore⟩ := second _ isBetween
  refine ⟨added ++ more, by rw [isAfter, List.append_assoc], ?_⟩
  rw [List.filter_append, List.map_append, isAdded, isMore, List.map_append]

theorem recordListEntry_records {frame : ResponseFrame} {before after : ListInventory}
    {literalName : Option Bytes} (isName : literalName = frame.literalName)
    (recorded : recordListEntry frame.header literalName before = .ok after) :
    Records before after [frame] := by
  subst isName
  cases isList : frame.isList with
  | false =>
    rw [ResponseFrame.isList] at isList
    simp only [recordListEntry, isList, Bool.not_false, if_true] at recorded
    obtain rfl := Except.ok.inj recorded
    apply Records.none
    intro other isOther
    rw [List.mem_singleton.mp isOther]
    exact isList
  | true =>
    intro details known
    have keep : [frame].filter ResponseFrame.isList = [frame] := by
      rw [List.filter_cons_of_pos isList, List.filter_nil]
    rw [ResponseFrame.isList] at isList
    cases isName : entryName frame.header frame.literalName with
    | error message =>
      simp only [recordListEntry, isList, isName, Bool.not_true, Bool.false_eq_true, if_false,
        bind, Except.bind] at recorded
      cases recorded
    | ok name =>
      refine ⟨[descriptorOf frame.header name], ?_, ?_⟩
      · simp only [recordListEntry, isList, isName, known, Bool.not_true,
          Bool.false_eq_true, if_false, bind, Except.bind, pure, Except.pure] at recorded
        split at recorded
        · cases recorded
        · split at recorded
          · cases recorded
          · split at recorded
            · cases recorded
            · obtain rfl := Except.ok.inj recorded
              rfl
      · rw [keep, List.map_singleton, List.map_singleton, ResponseFrame.mailbox, isName]
        rfl

/-! ## Lines as the reader reads them -/

variable {tag : Text} {reader : ListReader} {progress : ListProgress}

theorem readLine_continuation {header : Text}
    (inList : reader.literalHeader = some header) (read : readLine tag reader = .ok progress) :
    readContinuation reader header (lineText reader.line) = .ok progress := by
  simp only [readLine, inList, bind, Except.bind] at read
  split at read
  · cases read
  · split at read
    · cases read
    · exact read

theorem readLine_response
    (outside : reader.literalHeader = none) (read : readLine tag reader = .ok progress) :
    readResponse tag reader (lineText reader.line) = .ok progress := by
  simp only [readLine, outside, bind, Except.bind] at read
  split at read
  · cases read
  · split at read
    · cases read
    · exact read

/-- The last line of a LIST response with literals. -/
theorem readContinuation_last {header text : Text} (plain : listLiteralSize text = none)
    (read : readContinuation reader header text = .ok progress) :
    ∃ inventory,
      recordListEntry (header ++ text)
        (if reader.mailboxLiteralSeen then some reader.literalValue else none)
        reader.inventory = .ok inventory ∧
      progress = .reading { reader with
        line := []
        literalHeader := none
        literalValue := []
        literalIsMailbox := false
        mailboxLiteralSeen := false
        inventory } := by
  simp only [readContinuation, plain, bind, Except.bind, pure, Except.pure] at read
  split at read
  · cases read
  · split at read
    · cases read
    · split at read
      · cases read
      · next inventory recorded =>
        exact ⟨inventory, recorded, (Except.ok.inj read).symm⟩

/-- A further literal of a LIST response. -/
theorem readContinuation_literal {header text : Text}
    {size : Nat} (announced : listLiteralSize text = some size)
    (read : readContinuation reader header text = .ok progress) :
    ∃ ignoredLiteralBytes, progress = .reading { reader with
      line := []
      literalHeader := some (header ++ text)
      literalIsMailbox := false
      literalRemaining := size
      ignoredLiteralBytes } := by
  simp only [readContinuation, announced, bind, Except.bind, pure, Except.pure] at read
  split at read
  · cases read
  · split at read
    · cases read
    · split at read
      · cases read
      · split at read
        · cases read
        · next ignored isIgnored =>
          exact ⟨ignored, (Except.ok.inj read).symm⟩

/-- A response without literals. -/
theorem readResponse_plain {text : Text}
    (plain : listLiteralSize text = none) (read : readResponse tag reader text = .ok progress) :
    ∃ inventory, recordListEntry text none reader.inventory = .ok inventory ∧
      ((isTaggedResponse text tag = true ∧
          ((splitWhitespace text)[1]?).any (fun status => atomEq status "OK") = true ∧
          progress = .finished inventory) ∨
        isTaggedResponse text tag = false ∧
          progress = .reading { reader with line := [], inventory }) := by
  have recording : recordPlain text none reader.inventory =
      recordListEntry text none reader.inventory := by
    rw [recordPlain, Option.isNone_none, Bool.and_true]
    cases isList : isUntaggedResponse text "LIST" with
    | false =>
      simp only [recordListEntry, isList, Bool.not_false, if_true]
      rfl
    | true => rfl
  simp only [readResponse, plain, recording, bind, Except.bind] at read
  split at read
  · cases read
  · next inventory recorded =>
    refine ⟨inventory, recorded, ?_⟩
    split at read
    · next tagged =>
      split at read
      · next completed => exact .inl ⟨tagged, completed, (Except.ok.inj read).symm⟩
      · cases read
    · next untagged =>
      exact .inr ⟨Bool.not_eq_true _ ▸ untagged, (Except.ok.inj read).symm⟩

/-- A LIST response does not read as a completion. -/
theorem status_of_list {text : Text} (isList : isUntaggedResponse text "LIST" = true) :
    ((splitWhitespace text)[1]?).any (fun status => atomEq status "OK") = false := by
  rw [isUntaggedResponse] at isList
  split at isList
  · next first actual later fields =>
    rw [fields]
    rw [Bool.and_eq_true, atomEq, eqIgnoreAsciiCase, beq_iff_eq] at isList
    simp only [List.getElem?_cons_succ, List.getElem?_cons_zero, Option.any_some, atomEq,
      eqIgnoreAsciiCase, isList.2]
    decide
  · cases isList

/-- The first line of a LIST response with literals. -/
theorem readResponse_literal {text : Text}
    {size : Nat} (announced : listLiteralSize text = some size)
    (isList : isUntaggedResponse text "LIST" = true)
    (read : readResponse tag reader text = .ok progress) :
    isTaggedResponse text tag = false ∧
      ∃ isMailbox ignoredLiteralBytes,
        (literalPrefix text).bind literalIsMailboxName = some isMailbox ∧
        progress = .reading { reader with
          line := []
          literalHeader := some text
          literalValue := []
          literalIsMailbox := isMailbox
          mailboxLiteralSeen := isMailbox
          ignoredLiteralBytes
          literalRemaining := size } := by
  simp only [readResponse, recordPlain, announced, isList, Option.isNone_some, Bool.and_false,
    Bool.false_eq_true, if_false, bind, Except.bind, pure, Except.pure, if_true,
    status_of_list isList] at read
  split at read
  · cases read
  · next untagged =>
    refine ⟨Bool.not_eq_true _ ▸ untagged, ?_⟩
    split at read
    · cases read
    · split at read
      · cases read
      · next placed =>
        split at read
        · cases read
        · exact ⟨true, reader.ignoredLiteralBytes, placed, (Except.ok.inj read).symm⟩
      · next placed =>
        split at read
        · cases read
        · next ignored isIgnored =>
          exact ⟨false, ignored, placed, (Except.ok.inj read).symm⟩

/-! ## The grammar -/

/-- A line of a stream that is protocol text, at its offset from the stream's own. -/
inductive ProtocolLine : Nat → Bytes → Slice → Prop where
  | here {offset : Nat} {line rest : Bytes} (unbroken : lineEnd line = none) :
      ProtocolLine offset (line ++ 0x0D :: 0x0A :: rest) ⟨offset, line⟩
  | afterLine {offset : Nat} {line rest : Bytes} {other : Slice} (unbroken : lineEnd line = none)
      (plain : literalHeader line = none)
      (later : ProtocolLine (offset + line.length + 2) rest other) :
      ProtocolLine offset (line ++ 0x0D :: 0x0A :: rest) other
  | afterLiteral {offset : Nat} {line payload rest : Bytes} {header : LiteralHeader}
      {other : Slice} (unbroken : lineEnd line = none)
      (announced : literalHeader line = some header) (whole : payload.length = header.length)
      (later : ProtocolLine (offset + line.length + 2 + payload.length) rest other) :
      ProtocolLine offset (line ++ 0x0D :: 0x0A :: (payload ++ rest)) other

/-- The rest of a stream, from a line the reader begins with: up to where the reader stops, every
literal belongs to a LIST response, none is a literal8, and every line has as text the literal
header it has as bytes. -/
inductive OnlyListLiterals (tag : Text) : ListReader → Bytes → Prop where
  | unfinished {reader : ListReader} {rest : Bytes} (unbroken : lineEnd rest = none) :
      OnlyListLiterals tag reader rest
  | refused {reader : ListReader} {line rest : Bytes} {message : String}
      (unbroken : lineEnd line = none)
      (stopped : readChunk tag reader (line ++ [0x0D, 0x0A]) = .error message) :
      OnlyListLiterals tag reader (line ++ 0x0D :: 0x0A :: rest)
  | line {reader : ListReader} {line rest : Bytes} (unbroken : lineEnd line = none)
      (plain : literalHeader line = none)
      (sameText : listLiteralSize (lineText (line ++ [0x0D, 0x0A])) = none)
      (later : ∀ next, readChunk tag reader (line ++ [0x0D, 0x0A]) = .ok (.reading next) →
        OnlyListLiterals tag next rest) :
      OnlyListLiterals tag reader (line ++ 0x0D :: 0x0A :: rest)
  | literal {reader : ListReader} {line payload rest : Bytes} {header : LiteralHeader}
      (unbroken : lineEnd line = none) (announced : literalHeader line = some header)
      (notBinary : header.binary = false)
      (sameText : listLiteralSize (lineText (line ++ [0x0D, 0x0A])) = some header.length)
      (ofList : reader.literalHeader.isSome ∨
        isUntaggedResponse (lineText (line ++ [0x0D, 0x0A])) "LIST" = true)
      (whole : payload.length = header.length)
      (later : ∀ next, readChunk tag reader (line ++ [0x0D, 0x0A]) = .ok (.reading next) →
        OnlyListLiterals tag (next.skip payload) rest) :
      OnlyListLiterals tag reader (line ++ 0x0D :: 0x0A :: (payload ++ rest))
  | cutLiteral {reader : ListReader} {line payload : Bytes} {header : LiteralHeader}
      (unbroken : lineEnd line = none) (announced : literalHeader line = some header)
      (sameText : listLiteralSize (lineText (line ++ [0x0D, 0x0A])) = some header.length)
      (ofList : reader.literalHeader.isSome ∨
        isUntaggedResponse (lineText (line ++ [0x0D, 0x0A])) "LIST" = true)
      (cut : payload.length < header.length) :
      OnlyListLiterals tag reader (line ++ 0x0D :: 0x0A :: payload)

/-- A reader that stands where a line begins, outside a LIST response or after a literal of the
frame begun. -/
structure Stands (tag : Text) (reader : ListReader) (inList : Bool) (frame : ResponseFrame) :
    Prop where
  protocol : reader.literalRemaining = 0
  fresh : reader.line = []
  outside : inList = false → reader.literalHeader = none ∧ frame = ⟨[], []⟩
  inside : inList = true → reader.literalHeader = some frame.header ∧ frame.protocol ≠ [] ∧
    frame.literals ≠ [] ∧
    (if reader.mailboxLiteralSeen then some reader.literalValue else none) = frame.literalName ∧
    frame.isTagged tag = false

/-- What reading a line without a literal header does. -/
theorem readLine_plain {inList : Bool} {frame : ResponseFrame}
    (stands : Stands tag reader inList frame) {line : Bytes} (offset : Nat)
    (plain : listLiteralSize (lineText (line ++ [0x0D, 0x0A])) = none)
    (read : readLine tag { reader with line := line ++ [0x0D, 0x0A] } = .ok progress) :
    (∃ inventory, progress = .finished inventory ∧ inList = false ∧
      isTaggedResponse (lineText (line ++ [0x0D, 0x0A])) tag = true ∧
      (frame.withLine ⟨offset, line⟩).completes tag = true ∧
      Records reader.inventory inventory [frame.withLine ⟨offset, line⟩]) ∨
    ∃ next, progress = .reading next ∧ Stands tag next false ⟨[], []⟩ ∧
      (frame.withLine ⟨offset, line⟩).isTagged tag = false ∧
      Records reader.inventory next.inventory [frame.withLine ⟨offset, line⟩] := by
  cases inList with
  | true =>
    obtain ⟨inHeader, hasLines, hasLiterals, sameName, untagged⟩ := stands.inside rfl
    obtain ⟨inventory, recorded, rfl⟩ :=
      readContinuation_last plain (@readLine_continuation tag
        { reader with line := line ++ [0x0D, 0x0A] } _ _ inHeader read)
    right
    refine ⟨_, rfl, ⟨stands.protocol, rfl, fun _ => ⟨rfl, rfl⟩,
      fun absurd => (nomatch absurd)⟩, ?_, ?_⟩
    · rw [ResponseFrame.isTagged_withLine hasLines]
      exact untagged
    · have name := sameName.trans
        (ResponseFrame.literalName_withLine hasLines ⟨offset, line⟩).symm
      apply recordListEntry_records name
      rw [ResponseFrame.header_withLine]
      exact recorded
  | false =>
    obtain ⟨noHeader, rfl⟩ := stands.outside rfl
    obtain ⟨inventory, recorded, outcome⟩ :=
      readResponse_plain plain (@readLine_response tag
        { reader with line := line ++ [0x0D, 0x0A] } _ noHeader read)
    have header : (ResponseFrame.withLine ⟨[], []⟩ ⟨offset, line⟩).header =
        lineText (line ++ [0x0D, 0x0A]) := by
      simp [ResponseFrame.header, ResponseFrame.withLine, sliceText]
    have records : Records reader.inventory inventory
        [ResponseFrame.withLine ⟨[], []⟩ ⟨offset, line⟩] :=
      recordListEntry_records rfl (header.symm ▸ recorded)
    rcases outcome with ⟨tagged, completed, rfl⟩ | ⟨untagged, rfl⟩
    · left
      refine ⟨inventory, rfl, rfl, tagged, ?_, records⟩
      simp only [ResponseFrame.completes, ResponseFrame.withLine, List.nil_append,
        List.head?_cons, Option.any_some, sliceText, tagged, completed, Bool.and_true]
    · right
      exact ⟨_, rfl, ⟨stands.protocol, rfl, fun _ => ⟨noHeader, rfl⟩,
        fun absurd => (nomatch absurd)⟩, untagged, records⟩

/-- What reading a line with a literal header does. -/
theorem readLine_literal {inList : Bool} {frame : ResponseFrame}
    (stands : Stands tag reader inList frame) {line : Bytes} (offset : Nat) {size : Nat}
    (announced : listLiteralSize (lineText (line ++ [0x0D, 0x0A])) = some size)
    (ofList : inList = true ∨ isUntaggedResponse (lineText (line ++ [0x0D, 0x0A])) "LIST" = true)
    (read : readLine tag { reader with line := line ++ [0x0D, 0x0A] } = .ok progress) :
    ∃ next, progress = .reading next ∧ next.literalRemaining = size ∧
      next.inventory = reader.inventory ∧
      ∀ payload start, payload.length = size → Stands tag (next.skip payload) true
        ((frame.withLine ⟨offset, line⟩).withLiteral ⟨start, payload⟩) := by
  cases inList with
  | true =>
    obtain ⟨inHeader, hasLines, hasLiterals, sameName, untagged⟩ := stands.inside rfl
    obtain ⟨ignored, rfl⟩ := readContinuation_literal announced (@readLine_continuation tag
      { reader with line := line ++ [0x0D, 0x0A] } _ _ inHeader read)
    refine ⟨_, rfl, rfl, rfl, fun payload start length => ⟨?_, rfl,
      fun absurd => (nomatch absurd), fun _ => ⟨?_, ?_, ?_, ?_, ?_⟩⟩⟩
    · exact Nat.sub_eq_zero_of_le (le_of_eq length.symm)
    · rw [ResponseFrame.header_withLiteral, ResponseFrame.header_withLine]
      rfl
    · simp [ResponseFrame.withLiteral, ResponseFrame.withLine]
    · simp [ResponseFrame.withLiteral, ResponseFrame.withLine]
    · have withLine := sameName.trans
        (ResponseFrame.literalName_withLine hasLines ⟨offset, line⟩).symm
      have begun : (frame.withLine ⟨offset, line⟩).literals ≠ [] := hasLiterals
      exact withLine.trans (ResponseFrame.literalName_withLiteral begun _).symm
    · exact (ResponseFrame.isTagged_withLine hasLines _).trans untagged
  | false =>
    obtain ⟨noHeader, rfl⟩ := stands.outside rfl
    have isList := ofList.resolve_left Bool.false_ne_true
    obtain ⟨untagged, isMailbox, ignored, placed, rfl⟩ :=
      readResponse_literal announced isList (@readLine_response tag
        { reader with line := line ++ [0x0D, 0x0A] } _ noHeader read)
    refine ⟨_, rfl, rfl, rfl, fun payload start length => ⟨?_, rfl,
      fun absurd => (nomatch absurd), fun _ => ⟨?_, ?_, ?_, ?_, ?_⟩⟩⟩
    · exact Nat.sub_eq_zero_of_le (le_of_eq length.symm)
    · simp [ListReader.skip, ResponseFrame.header, ResponseFrame.withLiteral,
        ResponseFrame.withLine, sliceText]
    · simp [ResponseFrame.withLiteral, ResponseFrame.withLine]
    · simp [ResponseFrame.withLiteral, ResponseFrame.withLine]
    · simp only [ListReader.skip, ResponseFrame.literalName, ResponseFrame.withLiteral,
        ResponseFrame.withLine, List.nil_append, List.head?_cons, Option.bind_eq_bind,
        Option.bind_some, sliceText, placed]
      cases isMailbox <;> simp [guard]
    · exact untagged

/-! ## Agreement -/

/-- The frames up to the completion, and what follows them. -/
def CompletedBy (tag : Text) (frames : List ResponseFrame) (last : ResponseFrame) : Prop :=
  (∀ frame ∈ frames, frame.isTagged tag = false) ∧ last.completes tag = true

/-- Reading agrees with the grammar: its lines are protocol lines, and the mailboxes recorded are
those of the LIST frames up to the completion. -/
structure Agrees (tag : Text) (reader : ListReader) (frame : ResponseFrame) (offset : Nat)
    (rest : Bytes) : Prop where
  protocol : ∀ line ∈ (traced tag reader offset rest).1, ProtocolLine offset rest line
  lists : ∀ inventory, (traced tag reader offset rest).2 = .ok (.finished inventory) →
    ∃ frames last later, framesFrom offset frame rest = frames.map .ok ++ .ok last :: later ∧
      CompletedBy tag frames last ∧ Records reader.inventory inventory (frames ++ [last])

section Agreement

variable {reader : ListReader} {frame : ResponseFrame} {inList : Bool} {offset : Nat}
  {line rest : Bytes}

theorem Stands.ofList (stands : Stands tag reader inList frame) {text : Text}
    (ofList : reader.literalHeader.isSome ∨ isUntaggedResponse text "LIST" = true) :
    inList = true ∨ isUntaggedResponse text "LIST" = true := by
  cases inList with
  | true => exact .inl rfl
  | false => exact ofList.imp_left fun inside => by simp [(stands.outside rfl).1] at inside

theorem agrees_unbroken (stands : Stands tag reader inList frame)
    (unbroken : lineEnd rest = none) : Agrees tag reader frame offset rest := by
  have whole : lineEnd (reader.line ++ rest) = none := by
    rw [stands.fresh]
    exact unbroken
  have read := @traced_unbroken tag reader stands.protocol _ whole offset []
  rw [List.append_nil] at read
  rcases read with ⟨message, failed⟩ | reached
  · exact ⟨by simp [failed], fun inventory finished => by simp [failed] at finished⟩
  · exact ⟨by simp [reached, traced], fun inventory finished => by
      simp [reached, traced] at finished⟩

/-- Reading stops at a line. -/
theorem agrees_refused (unbroken : lineEnd line = none) {lines : List Slice} {message : String}
    (failed : traced tag reader offset (line ++ 0x0D :: 0x0A :: rest) = (lines, .error message))
    (onlyLine : ∀ other ∈ lines, other = ⟨offset, line⟩) :
    Agrees tag reader frame offset (line ++ 0x0D :: 0x0A :: rest) where
  protocol := by
    rw [failed]
    exact fun other isOther => onlyLine other isOther ▸ .here unbroken
  lists := by
    rw [failed]
    exact nofun

/-- A line without a literal, after which the rest is read alike. -/
theorem agrees_line (stands : Stands tag reader inList frame) (unbroken : lineEnd line = none)
    (plain : literalHeader line = none)
    (sameText : listLiteralSize (lineText (line ++ [0x0D, 0x0A])) = none)
    (later : ∀ next, readChunk tag reader (line ++ [0x0D, 0x0A]) = .ok (.reading next) →
      Stands tag next false ⟨[], []⟩ →
      Agrees tag next ⟨[], []⟩ (offset + line.length + 2) rest) :
    Agrees tag reader frame offset (line ++ 0x0D :: 0x0A :: rest) := by
  have frames : framesFrom offset frame (line ++ 0x0D :: 0x0A :: rest) =
      .ok (frame.withLine ⟨offset, line⟩) ::
        framesFrom (offset + line.length + 2) ⟨[], []⟩ rest := by
    rw [framesFrom_unbroken unbroken, plain]
    rfl
  rcases @traced_line tag reader stands.protocol stands.fresh _ unbroken offset rest with
    ⟨lines, message, -, failed, onlyLine⟩ | ⟨inventory, -, read, finished⟩ |
      ⟨next, reached, read, goesOn⟩
  · exact agrees_refused unbroken failed onlyLine
  · rcases readLine_plain stands offset sameText read with
      ⟨same, isSame, _, _, completes, records⟩ | ⟨next, absurd, _⟩
    · obtain rfl := ListProgress.finished.inj isSame
      refine ⟨?_, fun other isOther => ?_⟩
      · rw [finished]
        exact fun other isOther => List.mem_singleton.mp isOther ▸ .here unbroken
      · rw [finished] at isOther
        obtain rfl := ListProgress.finished.inj (Except.ok.inj isOther)
        exact ⟨[], _, _, frames, ⟨by simp, completes⟩, records⟩
    · cases absurd
  · rcases readLine_plain stands offset sameText read with
      ⟨same, absurd, _⟩ | ⟨other, isNext, standsNext, untagged, records⟩
    · cases absurd
    obtain rfl := ListProgress.reading.inj isNext
    obtain ⟨lines, completed⟩ := later next reached standsNext
    constructor
    · rw [goesOn]
      exact List.forall_mem_cons.mpr ⟨.here unbroken, fun other isLater =>
        .afterLine unbroken plain (lines other isLater)⟩
    · rw [goesOn]
      intro inventory finished
      obtain ⟨more, last, later, isFrames, ⟨untaggedMore, completes⟩, recordsMore⟩ :=
        completed inventory finished
      refine ⟨frame.withLine ⟨offset, line⟩ :: more, last, later, ?_,
        ⟨List.forall_mem_cons.mpr ⟨untagged, untaggedMore⟩, completes⟩,
        records.append recordsMore⟩
      rw [frames, isFrames]
      rfl

/-- A literal of a LIST response, after which the rest is read alike. -/
theorem agrees_literal (stands : Stands tag reader inList frame) {payload : Bytes}
    {header : LiteralHeader} (unbroken : lineEnd line = none)
    (announced : literalHeader line = some header) (notBinary : header.binary = false)
    (sameText : listLiteralSize (lineText (line ++ [0x0D, 0x0A])) = some header.length)
    (ofList : inList = true ∨ isUntaggedResponse (lineText (line ++ [0x0D, 0x0A])) "LIST" = true)
    (whole : payload.length = header.length)
    (later : ∀ next after, readChunk tag reader (line ++ [0x0D, 0x0A]) = .ok (.reading next) →
      Stands tag (next.skip payload) true after →
      Agrees tag (next.skip payload) after (offset + line.length + 2 + payload.length) rest) :
    Agrees tag reader frame offset (line ++ 0x0D :: 0x0A :: (payload ++ rest)) := by
  have frames : framesFrom offset frame (line ++ 0x0D :: 0x0A :: (payload ++ rest)) =
      framesFrom (offset + line.length + 2 + payload.length)
        ((frame.withLine ⟨offset, line⟩).withLiteral ⟨offset + line.length + 2, payload⟩)
        rest := by
    rw [framesFrom_unbroken unbroken, announced, Option.elim_some, notBinary,
      if_neg Bool.false_ne_true, if_neg (by rw [List.length_append]; omega), ← whole,
      List.take_left, List.drop_left]
    rfl
  rcases @traced_line tag reader stands.protocol stands.fresh _ unbroken offset
      (payload ++ rest) with
    ⟨lines, message, -, failed, onlyLine⟩ | ⟨inventory, -, read, -⟩ |
      ⟨next, reached, read, goesOn⟩
  · exact agrees_refused unbroken failed onlyLine
  · obtain ⟨next, absurd, _⟩ := readLine_literal stands offset sameText ofList read
    cases absurd
  · obtain ⟨other, isNext, remaining, sameInventory, standsAfter⟩ :=
      readLine_literal stands offset sameText ofList read
    obtain rfl := ListProgress.reading.inj isNext
    obtain ⟨lines, completed⟩ := later next _ reached
      (standsAfter payload (offset + line.length + 2) whole)
    constructor
    · rw [goesOn, traced_literal (by omega)]
      exact List.forall_mem_cons.mpr ⟨.here unbroken, fun other isLater =>
        .afterLiteral unbroken announced whole (lines other isLater)⟩
    · rw [goesOn, traced_literal (by omega), frames, ← sameInventory]
      exact completed

/-- A literal of a LIST response that the stream ends in. -/
theorem agrees_cutLiteral (stands : Stands tag reader inList frame) {payload : Bytes} {size : Nat}
    (unbroken : lineEnd line = none)
    (sameText : listLiteralSize (lineText (line ++ [0x0D, 0x0A])) = some size)
    (ofList : inList = true ∨ isUntaggedResponse (lineText (line ++ [0x0D, 0x0A])) "LIST" = true)
    (cut : payload.length < size) :
    Agrees tag reader frame offset (line ++ 0x0D :: 0x0A :: payload) := by
  rcases @traced_line tag reader stands.protocol stands.fresh _ unbroken offset payload with
    ⟨lines, message, -, failed, onlyLine⟩ | ⟨inventory, -, read, -⟩ |
      ⟨next, -, read, goesOn⟩
  · exact agrees_refused unbroken failed onlyLine
  · obtain ⟨next, absurd, _⟩ := readLine_literal stands offset sameText ofList read
    cases absurd
  · obtain ⟨other, isNext, remaining, _⟩ := readLine_literal stands offset sameText ofList read
    obtain rfl := ListProgress.reading.inj isNext
    have skipped := @traced_literal tag next payload (by omega) (offset + line.length + 2) []
    rw [List.append_nil] at skipped
    rw [skipped] at goesOn
    constructor
    · rw [goesOn]
      exact fun other isOther => List.mem_singleton.mp isOther ▸ .here unbroken
    · rw [goesOn]
      exact nofun

theorem OnlyListLiterals.agrees (only : OnlyListLiterals tag reader rest)
    (stands : Stands tag reader inList frame) (offset : Nat) :
    Agrees tag reader frame offset rest := by
  induction only generalizing inList frame offset with
  | unfinished unbroken => exact agrees_unbroken stands unbroken
  | @refused reader line rest message unbroken stopped =>
    rcases @traced_line tag reader stands.protocol stands.fresh _ unbroken offset rest with
      ⟨lines, _, -, failed, onlyLine⟩ | ⟨_, reached, -⟩ | ⟨_, reached, -⟩
    · exact agrees_refused unbroken failed onlyLine
    · rw [stopped] at reached
      cases reached
    · rw [stopped] at reached
      cases reached
  | line unbroken plain sameText _ ih =>
    exact agrees_line stands unbroken plain sameText fun next reached standsNext =>
      ih next reached standsNext _
  | literal unbroken announced notBinary sameText ofList whole _ ih =>
    exact agrees_literal stands unbroken announced notBinary sameText (stands.ofList ofList) whole
      fun next _ reached standsNext => ih next reached standsNext _
  | cutLiteral unbroken announced sameText ofList cut =>
    exact agrees_cutLiteral stands unbroken sameText (stands.ofList ofList) cut

end Agreement

/-- A reader that has read nothing. -/
def ListReader.start (details : Option (List MailboxDescriptor)) : ListReader :=
  { inventory := { details } }

theorem stands_start (details : Option (List MailboxDescriptor)) :
    Stands tag (.start details) false ⟨[], []⟩ :=
  ⟨rfl, rfl, fun _ => ⟨rfl, rfl⟩, fun absurd => (nomatch absurd)⟩

/-- The mailboxes read are the LIST responses of a stream up to its tagged OK, in order. -/
def DescribesLists (tag : Text) (stream : Bytes) (inventory : ListInventory) : Prop :=
  ∃ frames last later mailboxes,
    splitResponses stream = frames.map .ok ++ .ok last :: later ∧
    CompletedBy tag frames last ∧ inventory.details = some mailboxes ∧
    ((frames ++ [last]).filter ResponseFrame.isList).map ResponseFrame.mailbox =
      mailboxes.map some

/-- The LIST reader agrees with the grammar on a stream: however the stream is cut the result is
the same, every line it reads is protocol text, and it reads the LIST responses. -/
structure ListAgrees (tag : Text) (stream : Bytes) : Prop where
  uncut : ∀ details reads others, Cuts reads stream → Cuts others stream →
    readImapListResponse tag (.start details) reads =
      readImapListResponse tag (.start details) others
  protocol : ∀ details, ∀ line ∈ (traced tag (.start details) 0 stream).1,
    ProtocolLine 0 stream line
  lists : ∀ reads inventory, Cuts reads stream →
    readImapListResponse tag (.start (some [])) reads = .ok inventory →
      DescribesLists tag stream inventory

/-- Where only LIST responses carry literals, the reader agrees with the grammar. -/
theorem list_reader_agrees (tag : Text) (stream : Bytes)
    (only : ∀ details, OnlyListLiterals tag (.start details) stream) : ListAgrees tag stream where
  uncut details reads others cuts otherCuts := by
    rw [readImapListResponse_eq cuts _ 0, readImapListResponse_eq otherCuts _ 0]
  protocol details := ((only details).agrees (stands_start details) 0).protocol
  lists reads inventory cuts accepted := by
    rw [readImapListResponse_eq cuts _ 0] at accepted
    have finished : (traced tag (.start (some [])) 0 stream).2 = .ok (.finished inventory) := by
      cases outcome : (traced tag (.start (some [])) 0 stream).2 with
      | error message =>
        rw [outcome] at accepted
        cases accepted
      | ok progress =>
        rw [outcome] at accepted
        cases progress with
        | reading reader => cases accepted
        | finished found =>
          obtain rfl := Except.ok.inj accepted
          rfl
    obtain ⟨frames, last, later, isFrames, completed, records⟩ :=
      ((only (some [])).agrees (stands_start (some [])) 0).lists inventory finished
    obtain ⟨mailboxes, isDetails, described⟩ := records [] rfl
    exact ⟨frames, last, later, mailboxes, isFrames, completed, isDetails, described⟩

/-! ## A name in a literal -/

namespace LiteralName

def record : Bytes := "* LIST () \"/\" {5}".toUTF8.data.toList

def name : Bytes := "INBOX".toUTF8.data.toList

def completion : Bytes := "v1 OK done".toUTF8.data.toList

theorem literal_name_agrees : ListAgrees "v1".toList
    (record ++ 0x0D :: 0x0A ::
      (name ++ ([] ++ 0x0D :: 0x0A :: (completion ++ 0x0D :: 0x0A :: [])))) := by
  refine list_reader_agrees _ _ fun details => @OnlyListLiterals.literal _ _ _ _ _ ⟨14, 5, false⟩
    (by decide +kernel) (by decide +kernel) rfl (by decide +kernel) (.inr (by decide +kernel))
    (by decide +kernel) fun named _ => ?_
  refine .line (by decide +kernel) (by decide +kernel) (by decide +kernel) fun closed _ => ?_
  exact .line (by decide +kernel) (by decide +kernel) (by decide +kernel) fun completed _ =>
    .unfinished rfl

end LiteralName

/-! ## A forged record -/

namespace ForgedRecord

def completionTag : Text := "v1".toList

/-- An annotation that reads like a LIST response. -/
def annotation : Bytes := "* METADATA INBOX (/shared/comment {22}".toUTF8.data.toList

def forgedRecord : Bytes := "* LIST () \"/\" forged\r\n".toUTF8.data.toList

def closing : Bytes := [0x29]

def completion : Bytes := "v1 OK done".toUTF8.data.toList

def stream : Bytes :=
  annotation ++ 0x0D :: 0x0A :: (forgedRecord ++
    (closing ++ 0x0D :: 0x0A :: (completion ++ 0x0D :: 0x0A :: [])))

def forgedMailbox : MailboxDescriptor where
  wireName := "forged"
  delimiter := some "/"
  specialUse := []
  selectable := true

def forgedInventory : ListInventory where
  summary := { mailboxCount := 1, selectableMailboxCount := 1 }
  details := some [forgedMailbox]
  inventoryBytes := 263

theorem reads_forged : readImapListResponse completionTag (.start (some [])) [stream] =
    .ok forgedInventory := by
  have cuts : Cuts [stream] stream := by
    refine ⟨by simp, fun chunk isChunk => ?_⟩
    rw [List.mem_singleton.mp isChunk]
    decide +kernel
  have finished : (traced completionTag (.start (some [])) 0 stream).2 =
      .ok (.finished forgedInventory) := by
    decide +kernel
  rw [readImapListResponse_eq cuts _ 0, finished]
  rfl

/-- The frames of the stream: the annotation and the completion. -/
theorem frames_of_stream : splitResponses stream =
    [.ok ⟨[⟨0, annotation⟩, ⟨62, closing⟩], [⟨40, forgedRecord⟩]⟩,
      .ok ⟨[⟨65, completion⟩], []⟩] := by
  have isAnnotation : literalHeader annotation = some ⟨34, 22, false⟩ := by decide +kernel
  have isClosing : literalHeader closing = none := by decide +kernel
  have isCompletion : literalHeader completion = none := by decide +kernel
  have length : forgedRecord.length = 22 := by decide +kernel
  have offsets : annotation.length = 38 ∧ closing.length = 1 := by decide +kernel
  rw [splitResponses, stream, framesFrom_unbroken (by decide +kernel), isAnnotation,
    Option.elim_some, if_neg Bool.false_ne_true,
    if_neg (by rw [List.length_append, length]; exact not_lt.mpr (Nat.le_add_right ..))]
  simp only
  rw [← length, List.take_left, List.drop_left, framesFrom_unbroken (by decide +kernel),
    isClosing, Option.elim_none, framesFrom_unbroken (by decide +kernel), isCompletion,
    Option.elim_none, framesFrom_last (by decide), offsets.1, offsets.2, length]
  rfl

/-- The mailbox that is read is none of the stream's LIST responses, of which there are none. -/
theorem forged_mailbox_read :
    readImapListResponse completionTag (.start (some [])) [stream] = .ok forgedInventory ∧
      ¬∀ (tag : Text) (stream : Bytes), ListAgrees tag stream := by
  have reads : readImapListResponse completionTag (.start (some [])) [stream] =
      .ok forgedInventory := reads_forged
  refine ⟨reads, fun agrees => ?_⟩
  have cuts : Cuts [stream] stream := by
    refine ⟨by simp, fun chunk isChunk => ?_⟩
    rw [List.mem_singleton.mp isChunk]
    decide +kernel
  obtain ⟨frames, last, later, mailboxes, isFrames, _, isDetails, described⟩ :=
    (agrees completionTag stream).lists [stream] forgedInventory cuts reads
  have noLists : ∀ frame ∈ frames ++ [last], frame.isList = false := by
    intro frame isFrame
    have inStream : (.ok frame : Except String ResponseFrame) ∈ splitResponses stream := by
      rw [isFrames, List.mem_append]
      rcases List.mem_append.mp isFrame with isEarlier | isLast
      · exact .inl (List.mem_map_of_mem isEarlier)
      · rw [List.mem_singleton.mp isLast]
        exact .inr List.mem_cons_self
    rw [frames_of_stream, List.mem_cons, List.mem_singleton] at inStream
    rcases inStream with same | same
    · rw [Except.ok.inj same]
      decide +kernel
    · rw [Except.ok.inj same]
      decide +kernel
  rw [List.filter_eq_nil_iff.mpr fun frame isFrame => by simp [noLists frame isFrame]]
    at described
  obtain rfl := Option.some.inj isDetails
  cases described

end ForgedRecord

end MailSwiftSync.Imap
