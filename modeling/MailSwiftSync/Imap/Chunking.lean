import MailSwiftSync.Imap.Payloads

/-!
# Reading a response in chunks

The scanner keeps its place between reads, and the splitter starts over.  Both find the same
completion, at the first read that holds the whole of its line.
-/

namespace MailSwiftSync.Imap

namespace TaggedResponseScanner

/-! ## Checked slices -/

/-- `&bytes[start..stop]`, which panics outside the bytes. -/
def slice (bytes : Bytes) (start stop : Nat) : Option Bytes :=
  if start ≤ stop ∧ stop ≤ bytes.length then some ((bytes.take stop).drop start) else none

/-- The scanner with its indexing checked: `none` where the source panics. -/
def checkedScan (scanner : TaggedResponseScanner) (response : Bytes) :
    Option (Bool × TaggedResponseScanner) :=
  if _inside : scanner.cursor < response.length then
    if _pending : 0 < scanner.literalRemaining then
      let consumed := min scanner.literalRemaining (response.length - scanner.cursor)
      let cursor := scanner.cursor + consumed
      let literalRemaining := scanner.literalRemaining - consumed
      checkedScan { scanner with
        cursor
        literalRemaining
        lineStart := if literalRemaining = 0 then cursor else scanner.lineStart } response
    else
      match response[scanner.cursor]? with
      | none => none
      | some byte =>
        if byte ≠ 0x0D then checkedScan { scanner with cursor := scanner.cursor + 1 } response
        else if response.length ≤ scanner.cursor + 1 then some (false, scanner)
        else
          match response[scanner.cursor + 1]? with
          | none => none
          | some next =>
            if next ≠ 0x0A then
              checkedScan { scanner with cursor := scanner.cursor + 1 } response
            else
              match slice response scanner.lineStart scanner.cursor with
              | none => none
              | some line =>
                if completes scanner.tag line then some (true, scanner)
                else
                  checkedScan { scanner with
                    cursor := scanner.cursor + 2
                    lineStart := scanner.cursor + 2
                    literalRemaining := (literalLength line).getD 0 } response
  else some (false, scanner)
termination_by response.length - scanner.cursor

/-- Scan growing prefixes one after the other, up to the first that holds a completion. -/
def firstAnswer (scanner : TaggedResponseScanner) : List Bytes → Option (Option Bytes)
  | [] => some none
  | read :: reads =>
    match scanner.checkedScan read with
    | none => none
    | some (found, next) => if found then some (some read) else next.firstAnswer reads

/-- Where the first completion line of a response ends, with its CRLF, when the whole response is
scanned at once. -/
def completionEnd (tag response : Bytes) : Option Nat :=
  if ((new tag).scan response).1 then some (((new tag).scan response).2.cursor + 2) else none

variable {scanner : TaggedResponseScanner} {response : Bytes}

/-- A line that starts no later than the cursor is in range. -/
theorem checkedScan_eq (ordered : scanner.lineStart ≤ scanner.cursor) :
    scanner.checkedScan response = some (scanner.scan response) := by
  fun_induction scan scanner response with
  | case1 scanner inside pending consumed cursor literalRemaining ih =>
    simp only [dite_eq_ite] at ih
    rw [checkedScan, dif_pos inside, dif_pos pending]
    apply ih
    split
    · rfl
    · exact ordered.trans (Nat.le_add_right ..)
  | case2 scanner inside protocol notReturn ih =>
    rw [checkedScan, dif_pos inside, dif_neg protocol, List.getElem?_eq_getElem inside]
    simp only [ne_eq, notReturn, not_false_eq_true, if_true]
    exact ih (ordered.trans (Nat.le_succ _))
  | case3 scanner inside protocol isReturn isLast =>
    rw [not_not] at isReturn
    rw [checkedScan, dif_pos inside, dif_neg protocol, List.getElem?_eq_getElem inside]
    rw [List.getElem?_eq_none_iff] at isLast
    simp only [isReturn, ne_eq, not_true_eq_false, if_false, isLast, if_true]
  | case4 scanner inside protocol isReturn next isNext notFeed ih =>
    rw [not_not] at isReturn
    obtain ⟨nextInside, _⟩ := List.getElem?_eq_some_iff.mp isNext
    rw [checkedScan, dif_pos inside, dif_neg protocol, List.getElem?_eq_getElem inside]
    simp only [isReturn, ne_eq, not_true_eq_false, if_false, if_neg (not_le.mpr nextInside),
      isNext, notFeed, not_false_eq_true, if_true]
    exact ih (ordered.trans (Nat.le_succ _))
  | case5 scanner inside protocol isReturn next isNext isFeed line found =>
    rw [not_not] at isReturn
    obtain ⟨nextInside, _⟩ := List.getElem?_eq_some_iff.mp isNext
    rw [checkedScan, dif_pos inside, dif_neg protocol, List.getElem?_eq_getElem inside]
    simp only [isReturn, ne_eq, not_true_eq_false, if_false, if_neg (not_le.mpr nextInside),
      isNext, isFeed, slice, if_pos (And.intro ordered inside.le)]
    exact if_pos found
  | case6 scanner inside protocol isReturn next isNext isFeed line notFound ih =>
    rw [not_not] at isReturn
    obtain ⟨nextInside, _⟩ := List.getElem?_eq_some_iff.mp isNext
    rw [checkedScan, dif_pos inside, dif_neg protocol, List.getElem?_eq_getElem inside]
    simp only [isReturn, ne_eq, not_true_eq_false, if_false, if_neg (not_le.mpr nextInside),
      isNext, isFeed, slice, if_pos (And.intro ordered inside.le)]
    exact (if_neg notFound).trans (ih (Nat.le_refl _))
  | case7 scanner passed => rw [checkedScan, dif_neg passed]

/-! ## The place of the scanner -/

/-- Where a scan stops: it only goes forward, its line starts no later than its cursor, it finds
lines that have come whole, and without one it stops at the last byte or after it. -/
theorem scan_place (ordered : scanner.lineStart ≤ scanner.cursor) :
    scanner.cursor ≤ (scanner.scan response).2.cursor ∧
      (scanner.scan response).2.lineStart ≤ (scanner.scan response).2.cursor ∧
      if (scanner.scan response).1 then (scanner.scan response).2.cursor + 2 ≤ response.length
      else response.length ≤ (scanner.scan response).2.cursor + 1 := by
  fun_induction scan scanner response with
  | case1 scanner inside pending consumed cursor literalRemaining ih =>
    simp only [dite_eq_ite] at ih
    have startOrdered :
        (if literalRemaining = 0 then cursor else scanner.lineStart) ≤ cursor := by
      split
      · rfl
      · exact ordered.trans (Nat.le_add_right ..)
    exact ⟨(Nat.le_add_right ..).trans (ih startOrdered).1, (ih startOrdered).2⟩
  | case2 scanner inside protocol notReturn ih =>
    have later := ih (ordered.trans (Nat.le_succ _))
    exact ⟨(Nat.le_succ _).trans later.1, later.2⟩
  | case3 scanner inside protocol isReturn isLast =>
    rw [List.getElem?_eq_none_iff] at isLast
    exact ⟨le_rfl, ordered, isLast⟩
  | case4 scanner inside protocol isReturn next isNext notFeed ih =>
    have later := ih (ordered.trans (Nat.le_succ _))
    exact ⟨(Nat.le_succ _).trans later.1, later.2⟩
  | case5 scanner inside protocol isReturn next isNext isFeed line found =>
    obtain ⟨nextInside, _⟩ := List.getElem?_eq_some_iff.mp isNext
    exact ⟨le_rfl, ordered, nextInside⟩
  | case6 scanner inside protocol isReturn next isNext isFeed line notFound ih =>
    have later := ih (Nat.le_refl _)
    exact ⟨(Nat.le_add_right _ 2).trans later.1, later.2⟩
  | case7 scanner passed => exact ⟨le_rfl, ordered, (not_lt.mp passed).trans (Nat.le_succ _)⟩

/-- A scanner that continues a scan of the whole response answers at the first prefix that holds
the completion line. -/
theorem firstAnswer_eq {tag : Bytes} {reads : List Bytes}
    (growing : reads.Pairwise (· <+: ·)) (ofResponse : ∀ read ∈ reads, read <+: response)
    (ordered : scanner.lineStart ≤ scanner.cursor)
    (continues : scanner.scan response = (new tag).scan response) :
    scanner.firstAnswer reads =
      some (reads.find? fun read => (completionEnd tag response).any (· ≤ read.length)) := by
  induction reads generalizing scanner with
  | nil => rfl
  | cons read reads ih =>
    have isPrefix := ofResponse read List.mem_cons_self
    have resumed := @scan_take scanner response read.length isPrefix.length_le
    rw [← List.prefix_iff_eq_take.mp isPrefix] at resumed
    have place := @scan_place scanner read ordered
    rw [firstAnswer, checkedScan_eq ordered, List.find?_cons]
    by_cases found : (scanner.scan read).1 = true
    · rw [if_pos found, continues] at resumed
      rw [if_pos found] at place
      have holds : (completionEnd tag response).any (· ≤ read.length) = true := by
        rw [completionEnd, resumed, if_pos found]
        exact decide_eq_true place.2.2
      simp only [found, if_true, holds]
    · rw [if_neg found, continues] at resumed
      rw [if_neg found] at place
      have lacks : (completionEnd tag response).any (· ≤ read.length) = false := by
        rw [completionEnd]
        split
        next wholeFound =>
          have after := (@scan_place (scanner.scan read).2 response place.2.1).1
          rw [resumed] at after
          exact decide_eq_false (by omega)
        next => rfl
      simp only [found, lacks]
      exact ih (List.pairwise_cons.mp growing).2
        (fun later isLater => ofResponse later (List.mem_cons_of_mem _ isLater))
        place.2.1 resumed

end TaggedResponseScanner

/-! ## The splitter -/

open TaggedResponseScanner

/-- What the splitter takes for the completion stops the scanner, at its line or before it. -/
theorem scan_of_completionIn {tag rest : Bytes} {start : Nat} {frame : ResponseFrame}
    {found : Slice} (completed : completionIn tag (framesFrom start frame rest) = some found) :
    ((new tag).scan rest).1 = true := by
  induction size : rest.length using Nat.strong_induction_on generalizing rest start frame with
  | _ size ih =>
    cases ends : lineEnd rest with
    | none =>
      rw [framesFrom_last ends] at completed
      split at completed
      · cases completed
      · cases completed
    | some index =>
      obtain ⟨whole, unbroken⟩ := line_of_lineEnd ends
      generalize rest.take index = line at whole unbroken
      generalize rest.drop (index + 2) = after at whole
      subst whole
      rw [List.length_append, List.length_cons, List.length_cons] at size
      rw [framesFrom_unbroken unbroken] at completed
      rw [scan_first_line unbroken]
      split
      next => rfl
      next incomplete =>
        cases announced : literalHeader line with
        | none =>
          have nothing : literalLength line = none := by rw [literalLength, announced]; rfl
          rw [nothing]
          rw [announced, Option.elim_none, completionIn] at completed
          split at completed
          next single isSingle =>
            obtain ⟨-, isLine⟩ := List.append_eq_singleton_iff.mp isSingle |>.resolve_right
              fun both => absurd both.2 (by simp)
            split at completed
            next isCompletion =>
              have isSame : (⟨start, line⟩ : Slice) = single :=
                (List.cons_eq_cons.mp isLine).1
              subst isSame
              rw [Bool.and_eq_true, decide_eq_true_iff] at isCompletion
              have completes : completes tag line = true := by
                rw [TaggedResponseScanner.completes, isCompletion.1, isCompletion.2]
                rfl
              exact absurd completes incomplete
            next => exact ih after.length (by omega) completed rfl
          next => exact ih after.length (by omega) completed rfl
        | some header =>
          have announces : literalLength line = some header.length := by
            rw [literalLength, announced]
            rfl
          rw [announces]
          rw [announced, Option.elim_some] at completed
          split at completed
          next => cases completed
          next =>
            split at completed
            next => cases completed
            next enough =>
              have isPayload : (after.take header.length).length = header.length := by
                rw [List.length_take, Nat.min_eq_left (not_lt.mp enough)]
              have later := @scan_payload tag (after.take header.length)
                (after.drop header.length)
              rw [List.take_append_drop, isPayload] at later
              rw [Option.getD_some, later]
              exact ih (after.drop header.length).length
                (by rw [List.length_drop]; omega) completed rfl

/-! ## Chunks -/

/-- Growing prefixes of a response are scanned within their bounds, and the scanner first answers
at the shortest that holds the first completion line of the response; whatever the splitter takes
for a completion, the scanner stops at too. -/
theorem chunks_agree {tag response : Bytes} {reads : List Bytes}
    (growing : reads.Pairwise (· <+: ·)) (ofResponse : ∀ read ∈ reads, read <+: response) :
    (new tag).firstAnswer reads =
        some (reads.find? fun read => (completionEnd tag response).any (· ≤ read.length)) ∧
      ((taggedCompletion response tag).isSome = true → ((new tag).scan response).1 = true) := by
  constructor
  · exact firstAnswer_eq growing ofResponse le_rfl rfl
  · intro isSome
    obtain ⟨line, completed⟩ := Option.isSome_iff_exists.mp isSome
    exact scan_of_completionIn completed

/-- A completion that arrives in three reads, the first of them cut inside its CRLF. -/
theorem cut_line_agrees :
    (new [0x76, 0x31]).firstAnswer
        [[0x76, 0x31, 0x20, 0x0D], [0x76, 0x31, 0x20, 0x0D, 0x0A],
          [0x76, 0x31, 0x20, 0x0D, 0x0A, 0x2A]] =
      some ([[0x76, 0x31, 0x20, 0x0D], [0x76, 0x31, 0x20, 0x0D, 0x0A],
          [0x76, 0x31, 0x20, 0x0D, 0x0A, 0x2A]].find? fun read =>
        (completionEnd [0x76, 0x31] [0x76, 0x31, 0x20, 0x0D, 0x0A, 0x2A]).any
          (· ≤ read.length)) :=
  (chunks_agree (by simp) (by simp)).1

end MailSwiftSync.Imap
