import MailSwiftSync.Imap.Folders
import MailSwiftSync.Imap.Payloads

/-!
# Reading byte by byte

However a stream is cut into reads, the LIST reader does what it does byte by byte.
-/

namespace MailSwiftSync.Imap

variable {tag : Text}

/-! ## Single bytes -/

/-- A byte, in a literal or outside. -/
def stepByte (tag : Text) (reader : ListReader) (byte : UInt8) : Except String ListProgress :=
  if 0 < reader.literalRemaining then
    .ok (.reading { reader with
      literalValue :=
        if reader.literalIsMailbox then reader.literalValue ++ [byte] else reader.literalValue
      literalRemaining := reader.literalRemaining - 1 })
  else readByte tag reader byte

/-- The line that a byte completes, at the offset of the byte. -/
def completedLine (reader : ListReader) (offset : Nat) (byte : UInt8) : List Slice :=
  if reader.literalRemaining = 0 ∧ byte = 0x0A ∧ reader.line.getLast? = some 0x0D then
    [⟨offset - reader.line.length, reader.line.dropLast⟩]
  else []

/-- The bytes of a stream from an offset on, with the lines that are read. -/
def traced (tag : Text) : ListReader → Nat → Bytes → List Slice × Except String ListProgress
  | reader, _, [] => ([], .ok (.reading reader))
  | reader, offset, byte :: rest =>
    match stepByte tag reader byte with
    | .ok (.reading next) =>
      (completedLine reader offset byte ++ (traced tag next (offset + 1) rest).1,
        (traced tag next (offset + 1) rest).2)
    | .ok (.finished inventory) =>
      (completedLine reader offset byte, .ok (.finished inventory))
    | .error message => (completedLine reader offset byte, .error message)

theorem traced_reading {reader next : ListReader} {byte : UInt8}
    (step : stepByte tag reader byte = .ok (.reading next)) (offset : Nat) (rest : Bytes) :
    traced tag reader offset (byte :: rest) =
      (completedLine reader offset byte ++ (traced tag next (offset + 1) rest).1,
        (traced tag next (offset + 1) rest).2) := by
  rw [traced, step]

variable {reader : ListReader}

theorem traced_finished {byte : UInt8} {inventory : ListInventory}
    (step : stepByte tag reader byte = .ok (.finished inventory)) (offset : Nat) (rest : Bytes) :
    traced tag reader offset (byte :: rest) =
      (completedLine reader offset byte, .ok (.finished inventory)) := by
  rw [traced, step]

theorem traced_error {byte : UInt8} {message : String}
    (step : stepByte tag reader byte = .error message) (offset : Nat) (rest : Bytes) :
    traced tag reader offset (byte :: rest) =
      (completedLine reader offset byte, .error message) := by
  rw [traced, step]

/-- The reader after bytes of a literal. -/
def ListReader.skip (reader : ListReader) (payload : Bytes) : ListReader :=
  { reader with
    literalValue :=
      if reader.literalIsMailbox then reader.literalValue ++ payload else reader.literalValue
    literalRemaining := reader.literalRemaining - payload.length }

theorem ListReader.skip_nil (reader : ListReader) : reader.skip [] = reader := by
  rw [ListReader.skip, List.append_nil, ite_self]
  rfl

theorem ListReader.skip_append (reader : ListReader) (first second : Bytes) :
    (reader.skip first).skip second = reader.skip (first ++ second) := by
  simp only [ListReader.skip, List.length_append, Nat.sub_sub]
  split
  · rw [List.append_assoc]
  · rfl

/-- The bytes of a literal are skipped. -/
theorem traced_literal {payload : Bytes}
    (inLiteral : payload.length ≤ reader.literalRemaining) (offset : Nat) (rest : Bytes) :
    traced tag reader offset (payload ++ rest) =
      traced tag (reader.skip payload) (offset + payload.length) rest := by
  induction payload generalizing reader offset with
  | nil =>
    rw [ListReader.skip_nil]
    rfl
  | cons byte payload ih =>
    rw [List.length_cons] at inLiteral
    have step : stepByte tag reader byte = .ok (.reading (reader.skip [byte])) := by
      rw [stepByte, if_pos (by omega)]
      rfl
    have noLine : completedLine reader offset byte = [] := if_neg (by omega)
    rw [List.cons_append, traced_reading step, noLine, List.nil_append]
    have remaining : payload.length ≤ (reader.skip [byte]).literalRemaining := by
      simp only [ListReader.skip, List.length_singleton]
      omega
    rw [ih remaining, ListReader.skip_append, List.length_cons, Nat.add_right_comm]
    rfl

/-! ## Reads -/

/-- Bytes at which reading stops hide what follows them. -/
theorem traced_stopped {first : Bytes} {offset : Nat}
    (stopped : ∀ next, (traced tag reader offset first).2 ≠ .ok (.reading next)) (second : Bytes) :
    traced tag reader offset (first ++ second) = traced tag reader offset first := by
  induction first generalizing reader offset with
  | nil => exact absurd rfl (stopped reader)
  | cons byte first ih =>
    rw [traced] at stopped
    rw [List.cons_append, traced, traced]
    cases step : stepByte tag reader byte with
    | error message => rfl
    | ok progress =>
      cases progress with
      | finished inventory => rfl
      | reading next =>
        rw [step] at stopped
        dsimp only
        rw [ih stopped]

theorem traced_append {reader next : ListReader} {first : Bytes} {offset : Nat}
    (reached : (traced tag reader offset first).2 = .ok (.reading next)) (second : Bytes) :
    traced tag reader offset (first ++ second) =
      ((traced tag reader offset first).1 ++ (traced tag next (offset + first.length) second).1,
        (traced tag next (offset + first.length) second).2) := by
  induction first generalizing reader offset with
  | nil =>
    obtain rfl := ListProgress.reading.inj (Except.ok.inj reached)
    rfl
  | cons byte first ih =>
    rw [traced] at reached
    rw [List.cons_append, traced, traced]
    cases step : stepByte tag reader byte with
    | error message =>
      rw [step] at reached
      cases reached
    | ok progress =>
      cases progress with
      | finished inventory =>
        rw [step] at reached
        cases reached
      | reading other =>
        rw [step] at reached
        dsimp only
        rw [ih reached, List.append_assoc, List.length_cons, Nat.add_assoc, Nat.add_comm 1]

/-- A read is its bytes. -/
theorem readChunk_eq (reader : ListReader) (offset : Nat) (bytes : Bytes) :
    readChunk tag reader bytes = (traced tag reader offset bytes).2 := by
  fun_induction readChunk tag reader bytes generalizing offset with
  | case1 reader => rfl
  | case2 reader byte rest pending consumed ih =>
    have whole := List.take_append_drop consumed (byte :: rest)
    have length : ((byte :: rest).take consumed).length = consumed := by
      rw [List.length_take]
      omega
    have skipped := @traced_literal tag reader ((byte :: rest).take consumed) (by omega) offset
      ((byte :: rest).drop consumed)
    rw [whole, ListReader.skip, length] at skipped
    rw [skipped]
    simp only [dite_eq_ite] at ih
    exact ih (offset + consumed)
  | case3 reader byte rest protocol ih =>
    have step : stepByte tag reader byte = readByte tag reader byte := if_neg protocol
    cases isRead : readByte tag reader byte with
    | error message =>
      rw [traced_error (step.trans isRead)]
      rfl
    | ok progress =>
      cases progress with
      | reading next =>
        rw [traced_reading (step.trans isRead)]
        exact ih next (offset + 1)
      | finished inventory =>
        rw [traced_finished (step.trans isRead)]
        rfl

/-- What the end of the stream leaves of a result. -/
def settled (tag : Text) : Except String ListProgress → Except String ListInventory
  | .error message => .error message
  | .ok (.finished inventory) => .ok inventory
  | .ok (.reading _) =>
    .error ("IMAP connection closed before " ++ String.ofList tag ++ " completed")

/-- Reads that cut a stream. -/
def Cuts (reads : List Bytes) (stream : Bytes) : Prop :=
  reads.flatten = stream ∧ ∀ chunk ∈ reads, chunk ≠ []

/-- However a stream is cut, reading it gives what its bytes give. -/
theorem readImapListResponse_eq {reads : List Bytes} {stream : Bytes} (cuts : Cuts reads stream)
    (reader : ListReader) (offset : Nat) :
    readImapListResponse tag reader reads = settled tag (traced tag reader offset stream).2 := by
  obtain ⟨rfl, proper⟩ := cuts
  induction reads generalizing reader offset with
  | nil => rfl
  | cons chunk reads ih =>
    have isProper := proper chunk List.mem_cons_self
    have rest := fun next => ih next (offset + chunk.length)
      fun other isOther => proper other (List.mem_cons_of_mem _ isOther)
    rw [readImapListResponse, if_neg isProper, List.flatten_cons, readChunk_eq reader offset]
    cases ended : (traced tag reader offset chunk).2 with
    | error message =>
      rw [traced_stopped (by simp [ended]), ended]
      rfl
    | ok progress =>
      cases progress with
      | reading next =>
        rw [traced_append ended]
        exact rest next
      | finished inventory =>
        rw [traced_stopped (by simp [ended]), ended]
        rfl

/-! ## Whole lines -/

theorem getLast?_ne_return {line text : Bytes} (unbroken : lineEnd (line ++ 0x0A :: text) = none) :
    line.getLast? ≠ some 0x0D := by
  intro isLast
  obtain ⟨before, rfl⟩ := List.getLast?_eq_some_iff.mp isLast
  rw [List.append_assoc] at unbroken
  have isReturn : (before ++ ([0x0D] ++ 0x0A :: text))[before.length]? = some 0x0D := by
    rw [List.getElem?_append_right le_rfl, Nat.sub_self]
    rfl
  have isFeed : (before ++ ([0x0D] ++ 0x0A :: text))[before.length + 1]? = some 0x0A := by
    rw [List.getElem?_append_right (Nat.le_succ _), Nat.succ_sub le_rfl, Nat.sub_self]
    rfl
  exact ne_lineFeed_of_unbroken unbroken _ isReturn isFeed

/-- A line feed that follows no carriage return is refused. -/
theorem readLine_bare {line : Bytes} (isLine : reader.line = line ++ [0x0A])
    (bare : line.getLast? ≠ some 0x0D) :
    readLine tag reader = .error "IMAP LIST response record did not end with CRLF" := by
  have malformed : (decide (reader.line.length < 2) ||
      reader.line[reader.line.length - 2]? != some 0x0D) = true := by
    rw [isLine, List.length_append, Bool.or_eq_true, decide_eq_true_eq, bne_iff_ne]
    rcases List.eq_nil_or_concat line with rfl | ⟨before, last, rfl⟩
    · left
      decide
    · right
      intro isReturn
      apply bare
      simpa using isReturn
  simp only [readLine, malformed, if_true]
  rfl

/-- The text of a line is read byte by byte, or is too long, or has a line feed of its own. -/
theorem traced_unbroken (protocol : reader.literalRemaining = 0)
    {text : Bytes} (unbroken : lineEnd (reader.line ++ text) = none) (offset : Nat) (rest : Bytes) :
    (∃ message, traced tag reader offset (text ++ rest) = ([], .error message)) ∨
      traced tag reader offset (text ++ rest) =
        traced tag { reader with line := reader.line ++ text } (offset + text.length) rest := by
  induction text generalizing reader offset with
  | nil =>
    right
    rw [List.append_nil]
    rfl
  | cons byte text ih =>
    have step : stepByte tag reader byte = readByte tag reader byte := if_neg (by omega)
    have noLine : completedLine reader offset byte = [] := by
      apply if_neg
      intro completed
      obtain ⟨_, rfl, isReturn⟩ := completed
      exact getLast?_ne_return unbroken isReturn
    rw [List.cons_append]
    by_cases tooLong : maxImapListLineBytes < (reader.line ++ [byte]).length
    · left
      have failed : readByte tag reader byte =
          .error "IMAP LIST response record exceeded 64 KiB" := by
        simp only [readByte, if_pos tooLong]
        rfl
      rw [traced_error (step.trans failed), noLine]
      exact ⟨_, rfl⟩
    · by_cases isFeed : byte = 0x0A
      · left
        subst isFeed
        have failed : readByte tag reader 0x0A =
            .error "IMAP LIST response record did not end with CRLF" := by
          simp only [readByte, if_neg tooLong]
          exact readLine_bare rfl (getLast?_ne_return unbroken)
        rw [traced_error (step.trans failed), noLine]
        exact ⟨_, rfl⟩
      · have isRead : readByte tag reader byte =
            .ok (.reading { reader with line := reader.line ++ [byte] }) := by
          simp only [readByte, if_neg tooLong]
          exact if_pos isFeed
        have rest := @ih { reader with line := reader.line ++ [byte] } protocol
          (by simpa using unbroken) (offset + 1)
        rw [traced_reading (step.trans isRead), noLine, List.nil_append, List.length_cons,
          ← Nat.add_assoc, Nat.add_right_comm]
        simpa using rest

theorem lineEnd_return {line : Bytes} (unbroken : lineEnd line = none) :
    lineEnd (line ++ [0x0D]) = none := by
  fun_induction lineEnd line with
  | case1 first second later here => cases unbroken
  | case2 first second later notHere ih =>
    rw [Option.map_eq_none_iff] at unbroken
    rw [List.cons_append, List.cons_append, lineEnd, if_neg notHere, Option.map_eq_none_iff]
    exact ih unbroken
  | case3 bytes short =>
    cases bytes with
    | nil => rfl
    | cons first later =>
      cases later with
      | nil =>
        rw [List.cons_append, List.nil_append, lineEnd,
          if_neg fun both => absurd both.2 (by decide)]
        rfl
      | cons second rest => exact absurd rfl (short first second rest)

/-- A whole line is completed and read, unless reading fails before. -/
theorem traced_crlf (protocol : reader.literalRemaining = 0)
    (fresh : reader.line = []) {line : Bytes} (unbroken : lineEnd line = none) (offset : Nat) :
    (∃ lines message, traced tag reader offset (line ++ [0x0D, 0x0A]) =
        (lines, .error message) ∧ ∀ other ∈ lines, other = ⟨offset, line⟩) ∨
      ∃ progress, readLine tag { reader with line := line ++ [0x0D, 0x0A] } = .ok progress ∧
        traced tag reader offset (line ++ [0x0D, 0x0A]) = ([⟨offset, line⟩], .ok progress) := by
  have asText : line ++ [0x0D, 0x0A] = (line ++ [0x0D]) ++ [0x0A] := by
    rw [List.append_assoc]
    rfl
  have whole : lineEnd (reader.line ++ (line ++ [0x0D])) = none := by
    rw [fresh]
    exact lineEnd_return unbroken
  rw [congrArg (traced tag reader offset) asText]
  rcases traced_unbroken protocol whole offset [0x0A] with ⟨message, failed⟩ | reached
  · exact .inl ⟨[], message, failed, by simp⟩
  · rw [reached, fresh, List.nil_append]
    generalize isNow : ({ reader with line := line ++ [0x0D] } : ListReader) = now
    have nowLine : now.line = line ++ [0x0D] := by rw [← isNow]
    have nowProtocol : now.literalRemaining = 0 := by rw [← isNow]; exact protocol
    have step : stepByte tag now 0x0A = readByte tag now 0x0A := if_neg (by omega)
    have isLine : completedLine now (offset + (line ++ [0x0D]).length) 0x0A = [⟨offset, line⟩] := by
      rw [completedLine, if_pos ⟨nowProtocol, rfl, by rw [nowLine, List.getLast?_concat]⟩,
        nowLine, Nat.add_sub_cancel, List.dropLast_concat]
    by_cases tooLong : maxImapListLineBytes < (now.line ++ [0x0A]).length
    · left
      have failed : readByte tag now 0x0A =
          .error "IMAP LIST response record exceeded 64 KiB" := by
        simp only [readByte, if_pos tooLong]
        rfl
      rw [traced_error (step.trans failed), isLine]
      exact ⟨_, _, rfl, fun other isOther => List.mem_singleton.mp isOther⟩
    · have isRead : readByte tag now 0x0A =
          readLine tag { reader with line := line ++ [0x0D, 0x0A] } := by
        have sameLine : now.line ++ [0x0A] = line ++ [0x0D, 0x0A] := by
          rw [nowLine, List.append_assoc]
          rfl
        simp only [readByte, if_neg tooLong]
        rw [← isNow] at sameLine ⊢
        rw [sameLine]
        rfl
      cases outcome : readLine tag { reader with line := line ++ [0x0D, 0x0A] } with
      | error message =>
        left
        rw [traced_error (step.trans (isRead.trans outcome)), isLine]
        exact ⟨_, _, rfl, fun other isOther => List.mem_singleton.mp isOther⟩
      | ok progress =>
        right
        refine ⟨progress, rfl, ?_⟩
        cases progress with
        | finished inventory =>
          rw [traced_finished (step.trans (isRead.trans outcome)), isLine]
        | reading next =>
          rw [traced_reading (step.trans (isRead.trans outcome)), isLine]
          rfl

/-- What reading a whole line does, and what of the rest is read. -/
theorem traced_line (protocol : reader.literalRemaining = 0)
    (fresh : reader.line = []) {line : Bytes} (unbroken : lineEnd line = none) (offset : Nat)
    (rest : Bytes) :
    (∃ lines message, readChunk tag reader (line ++ [0x0D, 0x0A]) = .error message ∧
      traced tag reader offset (line ++ 0x0D :: 0x0A :: rest) = (lines, .error message) ∧
      ∀ other ∈ lines, other = ⟨offset, line⟩) ∨
    (∃ inventory, readChunk tag reader (line ++ [0x0D, 0x0A]) = .ok (.finished inventory) ∧
      readLine tag { reader with line := line ++ [0x0D, 0x0A] } = .ok (.finished inventory) ∧
      traced tag reader offset (line ++ 0x0D :: 0x0A :: rest) =
        ([⟨offset, line⟩], .ok (.finished inventory))) ∨
    ∃ next, readChunk tag reader (line ++ [0x0D, 0x0A]) = .ok (.reading next) ∧
      readLine tag { reader with line := line ++ [0x0D, 0x0A] } = .ok (.reading next) ∧
      traced tag reader offset (line ++ 0x0D :: 0x0A :: rest) =
        (⟨offset, line⟩ :: (traced tag next (offset + line.length + 2) rest).1,
          (traced tag next (offset + line.length + 2) rest).2) := by
  have asText : line ++ 0x0D :: 0x0A :: rest = (line ++ [0x0D, 0x0A]) ++ rest := by
    rw [List.append_assoc]
    rfl
  rw [asText, readChunk_eq reader offset]
  rcases @traced_crlf tag reader protocol fresh line unbroken offset with
    ⟨lines, message, failed, onlyLine⟩ | ⟨progress, read, ended⟩
  · refine .inl ⟨lines, message, by rw [failed], ?_, onlyLine⟩
    rw [traced_stopped (by simp [failed]), failed]
  right
  cases progress with
  | finished inventory =>
    refine .inl ⟨inventory, by rw [ended], read, ?_⟩
    rw [traced_stopped (by simp [ended]), ended]
  | reading next =>
    refine .inr ⟨next, by rw [ended], read, ?_⟩
    rw [traced_append (congrArg Prod.snd ended), ended, List.length_append]
    rfl

end MailSwiftSync.Imap
