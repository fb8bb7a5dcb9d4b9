import MailSwiftSync.Imap.LiteralFraming

/-!
# Payloads and framing

What the scanners see of a literal payload is its length.  Two responses that differ in the bytes
of one payload therefore have the same lines.
-/

namespace MailSwiftSync.Imap

/-! ## Lines -/

/-- A line that holds no CRLF ends where the next one begins. -/
theorem lineEnd_append {line rest : Bytes} (unbroken : lineEnd line = none) :
    lineEnd (line ++ 0x0D :: 0x0A :: rest) = some line.length := by
  fun_induction lineEnd line with
  | case1 first second later here => cases unbroken
  | case2 first second later notHere ih =>
    rw [Option.map_eq_none_iff] at unbroken
    simp only [List.cons_append, lineEnd, if_neg notHere]
    rw [List.cons_append] at ih
    rw [ih unbroken]
    rfl
  | case3 bytes short =>
    cases bytes with
    | nil => rfl
    | cons first later =>
      cases later with
      | nil =>
        simp only [List.cons_append, List.nil_append, lineEnd]
        rw [if_neg fun both => absurd both.2 (by decide)]
        rfl
      | cons second rest' => exact absurd rfl (short first second rest')

/-- Inside a line no line feed follows a carriage return. -/
theorem ne_lineFeed_of_unbroken {line : Bytes} (unbroken : lineEnd line = none) (index : Nat)
    (isReturn : (line)[index]? = some 0x0D) : (line)[index + 1]? ≠ some 0x0A := by
  fun_induction lineEnd line generalizing index with
  | case1 first second later here => cases unbroken
  | case2 first second later notHere ih =>
    rw [Option.map_eq_none_iff] at unbroken
    cases index with
    | zero =>
      intro isFeed
      simp only [List.getElem?_cons_zero, List.getElem?_cons_succ, Option.some.injEq]
        at isReturn isFeed
      exact notHere ⟨isReturn, isFeed⟩
    | succ index =>
      rw [List.getElem?_cons_succ] at isReturn ⊢
      exact ih unbroken index isReturn
  | case3 bytes short =>
    cases bytes with
    | nil => cases isReturn
    | cons first later =>
      cases later with
      | nil => simp
      | cons second rest => exact absurd rfl (short first second rest)

/-- The first line of some bytes and what follows it. -/
theorem line_of_lineEnd {bytes : Bytes} {index : Nat} (ends : lineEnd bytes = some index) :
    bytes = bytes.take index ++ 0x0D :: 0x0A :: bytes.drop (index + 2) ∧
      lineEnd (bytes.take index) = none := by
  fun_induction lineEnd bytes generalizing index with
  | case1 first second rest here =>
    obtain rfl := Option.some.inj ends
    rw [here.1, here.2]
    exact ⟨rfl, rfl⟩
  | case2 first second rest notHere ih =>
    rw [Option.map_eq_some_iff] at ends
    obtain ⟨later, isLater, rfl⟩ := ends
    obtain ⟨whole, unbroken⟩ := ih isLater
    refine ⟨congrArg (first :: ·) whole, ?_⟩
    cases later with
    | zero => rfl
    | succ later =>
      rw [List.take_succ_cons] at unbroken
      rw [List.take_succ_cons, List.take_succ_cons, lineEnd, if_neg notHere, unbroken]
      rfl
  | case3 bytes short => cases ends

/-- Slices after the bytes before a text. -/
theorem slice_append (before text : Bytes) (start stop : Nat) :
    ((before ++ text).take (before.length + stop)).drop (before.length + start) =
      (text.take stop).drop start := by
  rw [List.take_length_add_append, List.drop_length_add_append]

/-! ## The scanner -/

namespace TaggedResponseScanner

variable {scanner : TaggedResponseScanner} {response : Bytes}

theorem scan_end (passed : response.length ≤ scanner.cursor) :
    scanner.scan response = (false, scanner) := by
  rw [scan, dif_neg (not_lt.mpr passed)]

theorem scan_literal (inside : scanner.cursor < response.length)
    (pending : 0 < scanner.literalRemaining) :
    scanner.scan response =
      scan { scanner with
        cursor := scanner.cursor +
          min scanner.literalRemaining (response.length - scanner.cursor)
        literalRemaining := scanner.literalRemaining -
          min scanner.literalRemaining (response.length - scanner.cursor)
        lineStart :=
          if scanner.literalRemaining -
              min scanner.literalRemaining (response.length - scanner.cursor) = 0 then
            scanner.cursor + min scanner.literalRemaining (response.length - scanner.cursor)
          else scanner.lineStart } response := by
  rw [scan, dif_pos inside, dif_pos pending]

theorem scan_text {byte : UInt8} (protocol : scanner.literalRemaining = 0)
    (isByte : response[scanner.cursor]? = some byte) (notReturn : byte ≠ 0x0D) :
    scanner.scan response = scan { scanner with cursor := scanner.cursor + 1 } response := by
  obtain ⟨inside, isByte⟩ := List.getElem?_eq_some_iff.mp isByte
  rw [scan, dif_pos inside, dif_neg (by omega), if_pos (isByte ▸ notReturn)]

theorem scan_trailing (protocol : scanner.literalRemaining = 0)
    (isReturn : response[scanner.cursor]? = some 0x0D)
    (isLast : response[scanner.cursor + 1]? = none) :
    scanner.scan response = (false, scanner) := by
  obtain ⟨inside, isReturn⟩ := List.getElem?_eq_some_iff.mp isReturn
  rw [scan, dif_pos inside, dif_neg (by omega), if_neg (not_not.mpr isReturn), isLast]

theorem scan_return (next : UInt8) (protocol : scanner.literalRemaining = 0)
    (isReturn : response[scanner.cursor]? = some 0x0D)
    (isNext : response[scanner.cursor + 1]? = some next) (notFeed : next ≠ 0x0A) :
    scanner.scan response = scan { scanner with cursor := scanner.cursor + 1 } response := by
  obtain ⟨inside, isReturn⟩ := List.getElem?_eq_some_iff.mp isReturn
  rw [scan, dif_pos inside, dif_neg (by omega), if_neg (not_not.mpr isReturn), isNext]
  exact if_pos notFeed

theorem scan_line (protocol : scanner.literalRemaining = 0)
    (isReturn : response[scanner.cursor]? = some 0x0D)
    (isFeed : response[scanner.cursor + 1]? = some 0x0A) :
    scanner.scan response =
      if completes scanner.tag ((response.take scanner.cursor).drop scanner.lineStart) then
        (true, scanner)
      else
        scan { scanner with
          cursor := scanner.cursor + 2
          lineStart := scanner.cursor + 2
          literalRemaining :=
            (literalLength ((response.take scanner.cursor).drop scanner.lineStart)).getD 0 }
          response := by
  obtain ⟨inside, isReturn⟩ := List.getElem?_eq_some_iff.mp isReturn
  rw [scan, dif_pos inside, dif_neg (by omega), if_neg (not_not.mpr isReturn), isFeed]
  exact if_neg (not_not.mpr rfl)

/-- The scanner some bytes further on. -/
def shift (offset : Nat) (scanner : TaggedResponseScanner) : TaggedResponseScanner :=
  { scanner with
    cursor := offset + scanner.cursor
    lineStart := offset + scanner.lineStart }

/-- Scanning does not depend on the bytes before the line. -/
theorem scan_shift (before : Bytes) :
    (scanner.shift before.length).scan (before ++ response) =
      ((scanner.scan response).1, (scanner.scan response).2.shift before.length) := by
  have atByte : ∀ index, (before ++ response)[before.length + index]? = response[index]? := by
    intro index
    rw [List.getElem?_append_right (Nat.le_add_right ..), Nat.add_sub_cancel_left]
  fun_induction scan scanner response with
  | case1 scanner inside pending consumed cursor literalRemaining ih =>
    simp only [dite_eq_ite] at ih
    have same : (before ++ response).length - (scanner.shift before.length).cursor =
        response.length - scanner.cursor := by
      rw [List.length_append]
      simp only [shift]
      omega
    have further : (scanner.shift before.length).cursor < (before ++ response).length := by
      rw [List.length_append]
      simp only [shift]
      omega
    refine Eq.trans (scan_literal further pending) (Eq.trans ?_ ih)
    rw [same]
    congr 1
    simp only [shift, Nat.add_assoc, mk.injEq, true_and]
    refine ⟨rfl, ?_, rfl⟩
    split <;> rfl
  | case2 scanner inside protocol notReturn ih =>
    rw [← ih]
    exact scan_text (by simp only [shift]; omega)
      (atByte scanner.cursor |>.trans (List.getElem?_eq_getElem inside)) notReturn
  | case3 scanner inside protocol isReturn isLast =>
    rw [not_not] at isReturn
    apply scan_trailing (by simp only [shift]; omega)
    · rw [← isReturn]
      exact (atByte scanner.cursor).trans (List.getElem?_eq_getElem inside)
    · exact (atByte (scanner.cursor + 1)).trans isLast
  | case4 scanner inside protocol isReturn next isNext notFeed ih =>
    rw [not_not] at isReturn
    rw [← ih]
    refine scan_return next (by simp only [shift]; omega) ?_
      ((atByte (scanner.cursor + 1)).trans isNext) notFeed
    rw [← isReturn]
    exact (atByte scanner.cursor).trans (List.getElem?_eq_getElem inside)
  | case5 scanner inside protocol isReturn next isNext isFeed line found =>
    rw [not_not] at isReturn isFeed
    subst isFeed
    have sameLine : ((before ++ response).take (scanner.shift before.length).cursor).drop
        (scanner.shift before.length).lineStart = line := slice_append ..
    rw [scan_line (by simp only [shift]; omega), sameLine]
    · exact if_pos found
    · rw [← isReturn]
      exact (atByte scanner.cursor).trans (List.getElem?_eq_getElem inside)
    · exact (atByte (scanner.cursor + 1)).trans isNext
  | case6 scanner inside protocol isReturn next isNext isFeed line notFound ih =>
    rw [not_not] at isReturn isFeed
    subst isFeed
    have sameLine : ((before ++ response).take (scanner.shift before.length).cursor).drop
        (scanner.shift before.length).lineStart = line := slice_append ..
    rw [scan_line (by simp only [shift]; omega), sameLine]
    · exact (if_neg notFound).trans ih
    · rw [← isReturn]
      exact (atByte scanner.cursor).trans (List.getElem?_eq_getElem inside)
    · exact (atByte (scanner.cursor + 1)).trans isNext
  | case7 scanner passed =>
    apply scan_end
    rw [List.length_append]
    simp only [shift]
    omega

/-! ### Whole lines and payloads -/

/-- Scanning the text of a line. -/
theorem scan_unbroken {tag line rest : Bytes} (unbroken : lineEnd line = none)
    (left : Nat) (cursor : Nat) (inLine : cursor + left = line.length) :
    scan ⟨tag, cursor, 0, 0⟩ (line ++ 0x0D :: 0x0A :: rest) =
      scan ⟨tag, line.length, 0, 0⟩ (line ++ 0x0D :: 0x0A :: rest) := by
  induction left generalizing cursor with
  | zero => rw [← inLine, Nat.add_zero]
  | succ left ih =>
    have inside : cursor < line.length := by omega
    rw [← ih (cursor + 1) (by omega)]
    have isByte : (line ++ 0x0D :: 0x0A :: rest)[cursor]? = some (line)[cursor] := by
      rw [List.getElem?_append_left inside, List.getElem?_eq_getElem inside]
    by_cases isReturn : (line)[cursor] = 0x0D
    · have notFeed := ne_lineFeed_of_unbroken unbroken cursor
        (isReturn ▸ List.getElem?_eq_getElem inside)
      rw [isReturn] at isByte
      by_cases last : cursor + 1 < line.length
      · apply scan_return (line)[cursor + 1] rfl isByte
        · exact (List.getElem?_append_left last).trans (List.getElem?_eq_getElem last)
        · rw [List.getElem?_eq_getElem last] at notFeed
          exact fun isFeed => notFeed (congrArg some isFeed)
      · apply scan_return 0x0D rfl isByte _ (by decide)
        have atEnd : cursor + 1 = line.length := by omega
        simp only [atEnd]
        rw [List.getElem?_append_right le_rfl, Nat.sub_self]
        rfl
    · exact scan_text rfl isByte isReturn

/-- Scanning a line and what follows it. -/
theorem scan_first_line {tag line rest : Bytes} (unbroken : lineEnd line = none) :
    (new tag).scan (line ++ 0x0D :: 0x0A :: rest) =
      if completes tag line then (true, ⟨tag, line.length, 0, 0⟩)
      else
        ((scan ⟨tag, 0, 0, (literalLength line).getD 0⟩ rest).1,
          (scan ⟨tag, 0, 0, (literalLength line).getD 0⟩ rest).2.shift (line.length + 2)) := by
  have atEnd : ∀ index, (line ++ 0x0D :: 0x0A :: rest)[line.length + index]? =
      (0x0D :: 0x0A :: rest)[index]? := by
    intro index
    rw [List.getElem?_append_right (Nat.le_add_right ..), Nat.add_sub_cancel_left]
  have whole : ((line ++ 0x0D :: 0x0A :: rest).take line.length).drop 0 = line := by
    rw [List.drop_zero, List.take_left]
  rw [new, scan_unbroken unbroken line.length 0 (Nat.zero_add _),
    scan_line rfl (atEnd 0) (atEnd 1)]
  simp only [whole]
  congr 1
  have shifted := @scan_shift ⟨tag, 0, 0, (literalLength line).getD 0⟩ rest
    (line ++ [0x0D, 0x0A])
  rw [List.append_assoc, List.length_append] at shifted
  exact shifted

/-- A payload is skipped by its length. -/
theorem scan_payload {tag payload rest : Bytes} :
    scan ⟨tag, 0, 0, payload.length⟩ (payload ++ rest) =
      (((new tag).scan rest).1, ((new tag).scan rest).2.shift payload.length) := by
  rw [← scan_shift]
  cases payload with
  | nil => rfl
  | cons byte payload =>
    rw [scan_literal (by simp) (by simp)]
    have consumed : min (byte :: payload).length
        ((byte :: payload ++ rest).length - 0) = (byte :: payload).length := by
      rw [List.length_append]
      omega
    simp only [consumed, Nat.sub_self, if_true, shift, new, Nat.zero_add, Nat.add_zero]

/-- A payload that has not come whole is skipped as far as it has. -/
theorem scan_short_payload {tag payload : Bytes} {announced : Nat}
    (short : payload.length < announced) :
    scan ⟨tag, 0, 0, announced⟩ payload =
      (false, ⟨tag, payload.length, 0, announced - payload.length⟩) := by
  cases payload with
  | nil => exact scan_end (Nat.le_refl 0)
  | cons byte payload =>
    rw [scan_literal (by simp) (Nat.zero_lt_of_lt short)]
    have consumed : min announced ((byte :: payload).length - 0) = (byte :: payload).length := by
      omega
    simp only [consumed, Nat.zero_add]
    rw [if_neg (by omega), scan_end le_rfl]

/-! ### Chunks -/

/-- A payload may be skipped in two steps. -/
theorem scan_literal_twice {read : Nat} (inside : scanner.cursor < read)
    (isRead : read ≤ response.length) (pending : 0 < scanner.literalRemaining) :
    scan { scanner with
        cursor := scanner.cursor + min scanner.literalRemaining (read - scanner.cursor)
        literalRemaining := scanner.literalRemaining -
          min scanner.literalRemaining (read - scanner.cursor)
        lineStart :=
          if scanner.literalRemaining -
              min scanner.literalRemaining (read - scanner.cursor) = 0 then
            scanner.cursor + min scanner.literalRemaining (read - scanner.cursor)
          else scanner.lineStart } response = scanner.scan response := by
  rw [@scan_literal scanner response (by omega) pending]
  by_cases complete : scanner.literalRemaining ≤ read - scanner.cursor
  · have whole : min scanner.literalRemaining (read - scanner.cursor) =
        min scanner.literalRemaining (response.length - scanner.cursor) := by omega
    rw [whole]
  · have cut : min scanner.literalRemaining (read - scanner.cursor) =
        read - scanner.cursor := by omega
    rw [cut, if_neg (by omega)]
    by_cases more : read < response.length
    · rw [scan_literal (by simp only; omega) (by simp only; omega)]
      congr 1
      simp only [mk.injEq, true_and]
      refine ⟨by omega, ?_, by omega⟩
      split
      · rw [if_pos (by omega)]
        omega
      · rw [if_neg (by omega)]
    · have atEnd : read = response.length := by omega
      have unfinished : min scanner.literalRemaining (response.length - scanner.cursor) =
          response.length - scanner.cursor := by omega
      rw [unfinished, if_neg (by omega), atEnd]

/-- Scanning what has been read first makes no difference: what it finds is what is found in the
whole, and from where it stops the whole is scanned as from the start. -/
theorem scan_take (read : Nat) (isRead : read ≤ response.length) :
    if (scanner.scan (response.take read)).1 then
      scanner.scan response = scanner.scan (response.take read)
    else (scanner.scan (response.take read)).2.scan response = scanner.scan response := by
  have length_take : (response.take read).length = read := by
    rw [List.length_take, Nat.min_eq_left isRead]
  have atByte : ∀ index, index < read → (response.take read)[index]? = response[index]? :=
    fun index inside => List.getElem?_take_of_lt inside
  generalize isTaken : response.take read = taken at *
  fun_induction scan scanner taken with
  | case1 scanner inside pending consumed cursor literalRemaining ih =>
    simp only [dite_eq_ite] at ih
    have twice := @scan_literal_twice scanner response read
      (length_take ▸ inside) isRead pending
    rw [← length_take] at twice
    rw [← twice]
    exact ih
  | case2 scanner inside protocol notReturn ih =>
    have isByte := atByte scanner.cursor (by omega)
    rw [List.getElem?_eq_getElem inside] at isByte
    rw [@scan_text scanner response _ (by omega) isByte.symm notReturn]
    exact ih
  | case3 scanner inside protocol isReturn isLast => rfl
  | case4 scanner inside protocol isReturn next isNext notFeed ih =>
    rw [not_not] at isReturn
    have isByte := atByte scanner.cursor (by omega)
    rw [List.getElem?_eq_getElem inside, isReturn] at isByte
    obtain ⟨nextInside, _⟩ := List.getElem?_eq_some_iff.mp isNext
    rw [atByte _ (by omega)] at isNext
    rw [@scan_return scanner response next (by omega) isByte.symm isNext notFeed]
    exact ih
  | case5 scanner inside protocol isReturn next isNext isFeed line found =>
    rw [not_not] at isReturn isFeed
    subst isFeed
    have isByte := atByte scanner.cursor (by omega)
    rw [List.getElem?_eq_getElem inside, isReturn] at isByte
    obtain ⟨nextInside, _⟩ := List.getElem?_eq_some_iff.mp isNext
    rw [atByte _ (by omega)] at isNext
    have sameLine : (response.take scanner.cursor).drop scanner.lineStart = line := by
      simp only [line, ← isTaken, List.take_take]
      rw [Nat.min_eq_left (by omega)]
    rw [if_pos rfl, @scan_line scanner response (by omega) isByte.symm isNext, sameLine,
      if_pos found]
  | case6 scanner inside protocol isReturn next isNext isFeed line notFound ih =>
    rw [not_not] at isReturn isFeed
    subst isFeed
    have isByte := atByte scanner.cursor (by omega)
    rw [List.getElem?_eq_getElem inside, isReturn] at isByte
    obtain ⟨nextInside, _⟩ := List.getElem?_eq_some_iff.mp isNext
    rw [atByte _ (by omega)] at isNext
    have sameLine : (response.take scanner.cursor).drop scanner.lineStart = line := by
      simp only [line, ← isTaken, List.take_take]
      rw [Nat.min_eq_left (by omega)]
    rw [@scan_line scanner response (by omega) isByte.symm isNext, sameLine,
      if_neg notFound]
    exact ih
  | case7 scanner passed => rfl

end TaggedResponseScanner

/-! ## Frames -/

/-- The frames when no whole line is left. -/
theorem framesFrom_last {rest : Bytes} (isLast : lineEnd rest = none) (start : Nat)
    (frame : ResponseFrame) :
    framesFrom start frame rest =
      if frame.literals.isEmpty then []
      else [.error "IMAP response ended before the line following a literal"] := by
  rw [framesFrom]
  split
  next => rfl
  next index ends =>
    rw [isLast] at ends
    cases ends

/-- What a line adds to the frame it belongs to. -/
theorem framesFrom_line {rest : Bytes} {index : Nat} (ends : lineEnd rest = some index)
    (start : Nat) (frame : ResponseFrame) :
    framesFrom start frame rest =
      (literalHeader (rest.take index)).elim
        (.ok { frame with protocol := frame.protocol ++ [⟨start, rest.take index⟩] } ::
          framesFrom (start + index + 2) ⟨[], []⟩ (rest.drop (index + 2)))
        fun header =>
          if header.binary then
            [.error "IMAP literal8 (~\x7bN\x7d) responses are not supported"]
          else if (rest.drop (index + 2)).length < header.length then
            [.error ("IMAP literal declared " ++ toString header.length ++
              " bytes but the response ended first")]
          else
            framesFrom (start + index + 2 + header.length)
              ⟨frame.protocol ++ [⟨start, rest.take index⟩],
                frame.literals ++
                  [⟨start + index + 2, (rest.drop (index + 2)).take header.length⟩]⟩
              ((rest.drop (index + 2)).drop header.length) := by
  rw [framesFrom]
  split
  next isLast =>
    rw [ends] at isLast
    cases isLast
  next other isEnd =>
    rw [ends] at isEnd
    obtain rfl := Option.some.inj isEnd
    dsimp only
    cases literalHeader (rest.take index) with
    | none => rfl
    | some header => rfl

/-- What a given line adds to the frame it belongs to. -/
theorem framesFrom_unbroken {line : Bytes} (unbroken : lineEnd line = none) (rest : Bytes)
    (start : Nat) (frame : ResponseFrame) :
    framesFrom start frame (line ++ 0x0D :: 0x0A :: rest) =
      (literalHeader line).elim
        (.ok { frame with protocol := frame.protocol ++ [⟨start, line⟩] } ::
          framesFrom (start + line.length + 2) ⟨[], []⟩ rest)
        fun header =>
          if header.binary then
            [.error "IMAP literal8 (~\x7bN\x7d) responses are not supported"]
          else if rest.length < header.length then
            [.error ("IMAP literal declared " ++ toString header.length ++
              " bytes but the response ended first")]
          else
            framesFrom (start + line.length + 2 + header.length)
              ⟨frame.protocol ++ [⟨start, line⟩],
                frame.literals ++ [⟨start + line.length + 2, rest.take header.length⟩]⟩
              (rest.drop header.length) := by
  have after : (line ++ 0x0D :: 0x0A :: rest).drop (line.length + 2) = rest := by
    rw [List.drop_length_add_append]
    rfl
  rw [framesFrom_line (lineEnd_append unbroken), List.take_left, after]

end MailSwiftSync.Imap
