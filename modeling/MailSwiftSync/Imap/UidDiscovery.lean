import Mathlib.Data.Finset.Card
import Mathlib.Data.List.Forall2
import MailSwiftSync.Foundation.Mapping
import MailSwiftSync.Foundation.Metered
import MailSwiftSync.Foundation.Relational
import MailSwiftSync.Foundation.Words
import MailSwiftSync.Imap.FetchData
import MailSwiftSync.Imap.FetchParser

/-!
# UIDs of a window

A mailbox is enumerated by asking for the UIDs of a window of sequence numbers.  The answer is
used only when each number of the window has its record.
-/

namespace MailSwiftSync.Imap

open Foundation

/-! ## The reader -/

/-- What follows the first occurrence of a text. -/
def afterFirst (needle : Text) : Text → Option Text
  | [] => if needle = [] then some [] else none
  | c :: line =>
    if needle.isPrefixOf (c :: line) then some ((c :: line).drop needle.length)
    else afterFirst needle line

/-- The UIDs read so far, by sequence number. -/
structure SequenceUids where
  sequenceUids : List (Nat × Nat) := []
  sequences : Finset Nat := ∅

section Reading

variable (host mailbox : String) (sequenceStart sequenceEnd : Nat)

/-- The beginning of the messages of the reader. -/
def fetchContext : String := host ++ ": FETCH " ++ mailbox ++ " "

def sequenceRange : String := toString sequenceStart ++ ":" ++ toString sequenceEnd

/-- One FETCH record, with its sequence token and the name of the response. -/
def readFetchUid (state : SequenceUids) (line sequenceToken responseType : Text) :
    Except String SequenceUids :=
  match parseU64 sequenceToken with
  | none => .error (fetchContext host mailbox ++ "returned an invalid sequence number")
  | some sequence =>
    if sequence < sequenceStart || sequenceEnd < sequence then
      .error (fetchContext host mailbox ++ "returned sequence " ++ toString sequence ++
        " outside requested range " ++ sequenceRange sequenceStart sequenceEnd)
    else if sequence ∈ state.sequences then
      .error (fetchContext host mailbox ++ "returned duplicate sequence number " ++
        toString sequence)
    else
      match (afterFirst responseType line).bind parseParenthesizedFetchUid with
      | none =>
        .error (fetchContext host mailbox ++ "sequence " ++ toString sequence ++
          " returned a malformed or missing UID data item")
      | some uid =>
        match validateImapUid uid host mailbox with
        | .error message => .error message
        | .ok uid =>
          .ok { sequenceUids := state.sequenceUids ++ [(sequence, uid)]
                sequences := insert sequence state.sequences }

/-- One line of the response. -/
def readFetchLine (state : SequenceUids) (line : Text) : Except String SequenceUids :=
  match splitWhitespace line with
  | star :: sequenceToken :: more =>
    if star ≠ ['*'] then .ok state
    else if eqIgnoreAsciiCase sequenceToken "FETCH".toList then
      .error (fetchContext host mailbox ++ "returned a FETCH record without a sequence number")
    else
      match more with
      | [] =>
        if (parseU64 sequenceToken).isSome then
          .error (fetchContext host mailbox ++ "returned a malformed untagged response")
        else .ok state
      | responseType :: _ =>
        if eqIgnoreAsciiCase responseType "FETCH".toList then
          readFetchUid host mailbox sequenceStart sequenceEnd state line sequenceToken
            responseType
        else .ok state
  | _ => .ok state

/-- The UIDs of a window, in the order of its sequence numbers. -/
def parseUidFetchResponse (response : Text) : Except String (List Nat) :=
  match (lines response).foldlM (readFetchLine host mailbox sequenceStart sequenceEnd) {} with
  | .error message => .error message
  | .ok state =>
    let expectedCount := sequenceEnd - sequenceStart + 1
    if sequenceStart = 0 || sequenceEnd < sequenceStart then
      .error (fetchContext host mailbox ++ "was given an invalid sequence range " ++
        sequenceRange sequenceStart sequenceEnd)
    else if 2 ^ 64 ≤ expectedCount then
      .error (fetchContext host mailbox ++ "sequence range is too large")
    else if state.sequences.card ≠ expectedCount then
      .error (fetchContext host mailbox ++ "returned " ++ toString state.sequences.card ++
        " of " ++ toString expectedCount ++ " requested sequence numbers (" ++
        sequenceRange sequenceStart sequenceEnd ++ ")")
    else
      let sorted := orderBy Prod.fst state.sequenceUids
      if (sorted.zip sorted.tail).any fun pair => pair.2.2 ≤ pair.1.2 then
        .error (fetchContext host mailbox ++ "returned UIDs inconsistent with sequence order")
      else .ok (sorted.map Prod.snd)

end Reading

/-! ## Records -/

/-- The sequence token and the data of a FETCH record: a line that begins with the words `*`, a
token and `FETCH`. -/
def sequenceRecord (line : Text) : Option (Text × Text) :=
  match splitWhitespace line with
  | star :: sequenceToken :: responseType :: _ =>
    if star = ['*'] && eqIgnoreAsciiCase responseType "FETCH".toList then
      some (sequenceToken,
        afterWord isWhitespace (afterWord isWhitespace (afterWord isWhitespace line)))
    else none
  | _ => none

theorem afterFirst_append {first : Char} {needle before : Text} (notBefore : first ∉ before)
    (rest : Text) :
    afterFirst (first :: needle) (before ++ (first :: needle ++ rest)) = some rest := by
  induction before with
  | nil =>
    rw [List.nil_append, List.cons_append, afterFirst, if_pos, ← List.cons_append,
      List.drop_left]
    rw [List.isPrefixOf_iff_prefix, ← List.cons_append]
    exact List.prefix_append _ _
  | cons c before ih =>
    rw [List.mem_cons, not_or] at notBefore
    rw [List.cons_append, afterFirst, if_neg]
    · exact ih notBefore.2
    · rw [List.isPrefixOf_iff_prefix, List.cons_prefix_cons]
      exact fun same => notBefore.1 same.1

/-- The first letter of `FETCH` is not in a number. -/
theorem not_mem_of_parseU64 {text : Text} {first : Char} {value : Nat}
    (isParsed : parseU64 text = some value) (isLetter : first.toLower = 'f') : first ∉ text := by
  intro isMember
  cases digits_of_parseU64 isParsed first isMember with
  | inl isPlus =>
    rw [isPlus] at isLetter
    exact absurd isLetter (by decide)
  | inr isDigit =>
    rw [toLower_of_isDigit isDigit] at isLetter
    rw [isLetter] at isDigit
    exact absurd isDigit (by decide)

/-- The data of a record is what follows the first occurrence of its name. -/
theorem afterFirst_of_words {line sequenceToken responseType : Text} {more : List Text}
    {sequence : Nat}
    (areWords : splitWhitespace line = ['*'] :: sequenceToken :: responseType :: more)
    (isSequence : parseU64 sequenceToken = some sequence)
    (isFetch : eqIgnoreAsciiCase responseType "FETCH".toList = true) :
    afterFirst responseType line =
      some (afterWord isWhitespace (afterWord isWhitespace (afterWord isWhitespace line))) := by
  obtain ⟨isLine, areLater⟩ := words_eq_cons areWords
  obtain ⟨isSecond, areLast⟩ := words_eq_cons areLater
  obtain ⟨isThird, -⟩ := words_eq_cons areLast
  have isWord : IsWord isWhitespace responseType := isWord_of_mem (areLast ▸ List.mem_cons_self)
  cases responseType with
  | nil => exact absurd rfl isWord.1
  | cons first letters =>
    have isLetter : first.toLower = 'f' := by
      have same : (first :: letters).map Char.toLower = "FETCH".toList.map Char.toLower :=
        beq_iff_eq.mp isFetch
      exact (List.cons.inj same).1
    have notBlank : ∀ {text : Text}, first ∉ text.takeWhile isWhitespace := by
      intro text isMember
      have isBlank := List.mem_takeWhile_imp isMember
      rw [isWord.2 first List.mem_cons_self] at isBlank
      cases isBlank
    have notStar : first ∉ ['*'] := by
      rw [List.mem_singleton]
      rintro rfl
      exact absurd isLetter (by decide)
    have notBefore : first ∉ line.takeWhile isWhitespace ++ ['*'] ++
        (afterWord isWhitespace line).takeWhile isWhitespace ++ sequenceToken ++
        (afterWord isWhitespace (afterWord isWhitespace line)).takeWhile isWhitespace := by
      simp only [List.mem_append, not_or]
      exact ⟨⟨⟨⟨notBlank, notStar⟩, notBlank⟩, not_mem_of_parseU64 isSequence isLetter⟩,
        notBlank⟩
    have located := @afterFirst_append first letters _ notBefore
      (afterWord isWhitespace (afterWord isWhitespace (afterWord isWhitespace line)))
    simp only [List.append_assoc] at located
    rw [← isThird, ← isSecond, ← isLine] at located
    exact located

/-! ## One line -/

/-- A record gives the UID of a number of the window. -/
structure RecordReads (sequenceStart sequenceEnd : Nat) (record : Text × Text)
    (pair : Nat × Nat) : Prop where
  sequence : parseU64 record.1 = some pair.1
  inWindow : sequenceStart ≤ pair.1 ∧ pair.1 ≤ sequenceEnd
  listed : ListsUid record.2 pair.2
  valid : 1 ≤ pair.2 ∧ pair.2 < 2 ^ 32

theorem validateImapUid_eq_ok {uid valid : Nat} {host mailbox : String}
    (isValid : validateImapUid uid host mailbox = .ok valid) :
    valid = uid ∧ 1 ≤ uid ∧ uid < 2 ^ 32 := by
  rw [validateImapUid] at isValid
  split at isValid
  next => cases isValid
  next inDomain =>
    cases isValid
    rw [Bool.or_eq_true, decide_eq_true_eq, decide_eq_true_eq, not_or, Nat.not_lt] at inDomain
    exact ⟨rfl, Nat.pos_of_ne_zero inDomain.1, Nat.lt_succ_of_le inDomain.2⟩

section Reading

variable {host mailbox : String} {sequenceStart sequenceEnd : Nat} {state after : SequenceUids}

/-- What an accepted record adds. -/
theorem readFetchUid_accepts {line sequenceToken responseType : Text}
    (isRead : readFetchUid host mailbox sequenceStart sequenceEnd state line sequenceToken
      responseType = .ok after) :
    ∃ sequence uid data, parseU64 sequenceToken = some sequence ∧
      afterFirst responseType line = some data ∧
      RecordReads sequenceStart sequenceEnd (sequenceToken, data) (sequence, uid) ∧
      sequence ∉ state.sequences ∧
      after = { sequenceUids := state.sequenceUids ++ [(sequence, uid)]
                sequences := insert sequence state.sequences } := by
  rw [readFetchUid] at isRead
  split at isRead
  next => cases isRead
  next sequence isSequence =>
    split at isRead
    next => cases isRead
    next inWindow =>
      split at isRead
      next => cases isRead
      next isNew =>
        split at isRead
        next => cases isRead
        next uid isUid =>
          obtain ⟨data, isData, isListed⟩ := Option.bind_eq_some_iff.mp isUid
          split at isRead
          next => cases isRead
          next valid isValid =>
            cases isRead
            obtain ⟨rfl, inDomain⟩ := validateImapUid_eq_ok isValid
            simp only [Bool.or_eq_true, decide_eq_true_eq, not_or, Nat.not_lt] at inWindow
            exact ⟨sequence, valid, data, isSequence, isData,
              ⟨isSequence, inWindow, parseParenthesizedFetchUid_sound isListed, inDomain⟩,
              isNew, rfl⟩

/-- An accepted line is a record that is read, or no record. -/
theorem readFetchLine_accepts {line : Text}
    (isRead : readFetchLine host mailbox sequenceStart sequenceEnd state line = .ok after) :
    sequenceRecord line = none ∧ after = state ∨
      ∃ record sequence uid, sequenceRecord line = some record ∧
        RecordReads sequenceStart sequenceEnd record (sequence, uid) ∧
        sequence ∉ state.sequences ∧
        after = { sequenceUids := state.sequenceUids ++ [(sequence, uid)]
                  sequences := insert sequence state.sequences } := by
  rw [readFetchLine] at isRead
  rw [sequenceRecord]
  split at isRead
  next star sequenceToken more areWords =>
    split at isRead
    next notStar =>
      cases isRead
      refine .inl ⟨?_, rfl⟩
      rw [areWords]
      cases more with
      | nil => rfl
      | cons responseType more =>
        dsimp only
        rw [decide_eq_false notStar]
        rfl
    next isStar =>
      obtain rfl : star = ['*'] := not_not.mp isStar
      split at isRead
      next => cases isRead
      next =>
        split at isRead
        next =>
          split at isRead
          next => cases isRead
          next =>
            cases isRead
            exact .inl ⟨by rw [areWords], rfl⟩
        next responseType more =>
          split at isRead
          next isFetch =>
            obtain ⟨sequence, uid, data, isSequence, isData, reads, isNew, rfl⟩ :=
              readFetchUid_accepts isRead
            rw [afterFirst_of_words areWords isSequence isFetch, Option.some.injEq] at isData
            refine .inr ⟨(sequenceToken, data), sequence, uid, ?_, reads, isNew, rfl⟩
            rw [areWords]
            dsimp only
            rw [decide_eq_true rfl, isFetch, isData]
            rfl
          next notFetch =>
            cases isRead
            refine .inl ⟨?_, rfl⟩
            rw [areWords]
            dsimp only
            rw [Bool.eq_false_iff.mpr notFetch, Bool.and_false]
            rfl
  next notWords =>
    cases isRead
    refine .inl ⟨?_, rfl⟩
    split
    next star sequenceToken responseType more areWords => exact absurd areWords (notWords _ _ _)
    next => rfl

/-- The records read so far, each with the pair it gave. -/
structure RecordsRead (sequenceStart sequenceEnd : Nat) (records : List (Text × Text))
    (state : SequenceUids) : Prop where
  reads : List.Forall₂ (RecordReads sequenceStart sequenceEnd) records state.sequenceUids
  sequences : state.sequences = (state.sequenceUids.map Prod.fst).toFinset
  distinct : (state.sequenceUids.map Prod.fst).Nodup

/-- One more line keeps the account. -/
theorem RecordsRead.line {done : List Text} {line : Text}
    (account : RecordsRead sequenceStart sequenceEnd (done.filterMap sequenceRecord) state)
    (isRead : readFetchLine host mailbox sequenceStart sequenceEnd state line = .ok after) :
    RecordsRead sequenceStart sequenceEnd ((done ++ [line]).filterMap sequenceRecord) after := by
  rw [List.filterMap_append]
  rcases readFetchLine_accepts isRead with ⟨noRecord, rfl⟩ |
    ⟨record, sequence, uid, isRecord, reads, isNew, rfl⟩
  · rw [List.filterMap_cons_none noRecord, List.filterMap_nil, List.append_nil]
    exact account
  · rw [List.filterMap_cons_some isRecord, List.filterMap_nil]
    refine ⟨List.rel_append account.reads (.cons reads .nil), ?_, ?_⟩
    · rw [account.sequences, List.map_append, List.toFinset_append, Finset.union_comm]
      rfl
    · rw [account.sequences, List.mem_toFinset] at isNew
      rw [List.map_append, List.nodup_append]
      refine ⟨account.distinct, List.nodup_singleton _, ?_⟩
      intro left isLeft right isRight same
      rw [List.map_singleton, List.mem_singleton] at isRight
      rw [same, isRight] at isLeft
      exact isNew isLeft

/-- All lines of a response. -/
theorem recordsRead_of_fold {response : Text}
    (isRead : (lines response).foldlM (readFetchLine host mailbox sequenceStart sequenceEnd) {} =
      .ok state) :
    RecordsRead sequenceStart sequenceEnd ((lines response).filterMap sequenceRecord) state := by
  have initially : RecordsRead sequenceStart sequenceEnd [] {} :=
    ⟨.nil, rfl, List.nodup_nil⟩
  exact foldlM_invariant
    (motive := fun done state =>
      RecordsRead sequenceStart sequenceEnd (done.filterMap sequenceRecord) state)
    initially (fun _ _ _ _ account isRead => account.line isRead) isRead

end Reading

/-! ## A window -/

/-- Distinct keys that fill a window are, in order, the numbers of the window. -/
theorem keys_of_window {pairs : List (Nat × Nat)} {start count : Nat}
    (distinct : (pairs.map Prod.fst).Nodup)
    (inWindow : ∀ pair ∈ pairs, start ≤ pair.1 ∧ pair.1 < start + count)
    (isFull : pairs.length = count) :
    (orderBy Prod.fst pairs).map Prod.fst = List.range' start count := by
  have perm := (orderBy_perm Prod.fst pairs).map Prod.fst
  have ordered : ((orderBy Prod.fst pairs).map Prod.fst).Pairwise (· < ·) :=
    List.pairwise_map.mpr (orderBy_strict distinct)
  have inside : (orderBy Prod.fst pairs).map Prod.fst ⊆ List.range' start count := by
    intro key isKey
    obtain ⟨pair, isPair, rfl⟩ := List.mem_map.mp isKey
    rw [List.mem_range'_1]
    exact inWindow pair (mem_orderBy.mp isPair)
  have fills : ((orderBy Prod.fst pairs).map Prod.fst).Perm (List.range' start count) := by
    refine (List.subperm_of_subset (perm.nodup_iff.mpr distinct) inside).perm_of_length_le ?_
    rw [List.length_range', perm.length_eq, List.length_map, isFull]
  exact fills.eq_of_pairwise' ordered List.pairwise_lt_range'

/-- The pair at a place of the ordered window. -/
theorem getElem?_of_window {sorted : List (Nat × Nat)} {start count : Nat} {pair : Nat × Nat}
    (areKeys : sorted.map Prod.fst = List.range' start count) (isPair : pair ∈ sorted) :
    (sorted.map Prod.snd)[pair.1 - start]? = some pair.2 := by
  obtain ⟨index, isBelow, isAt⟩ := List.mem_iff_getElem.mp isPair
  have isKey : (sorted.map Prod.fst)[index]? = some pair.1 := by
    rw [List.getElem?_map, List.getElem?_eq_getElem isBelow, isAt]
    rfl
  have isBound : index < count := by
    have sameLength := congrArg List.length areKeys
    rw [List.length_map, List.length_range'] at sameLength
    rwa [← sameLength]
  rw [areKeys, List.getElem?_range' isBound, Option.some.injEq, Nat.one_mul] at isKey
  rw [← isKey, Nat.add_sub_cancel_left, List.getElem?_map, List.getElem?_eq_getElem isBelow, isAt]
  rfl

/-- The comparison of neighbours orders the whole list. -/
theorem increasing_of_neighbours {pairs : List (Nat × Nat)}
    (noneFalls : ((pairs.zip pairs.tail).any fun pair => pair.2.2 ≤ pair.1.2) = false) :
    (pairs.map Prod.snd).Pairwise (· < ·) := by
  rw [← List.isChain_iff_pairwise]
  induction pairs with
  | nil => exact .nil
  | cons first pairs ih =>
    cases pairs with
    | nil => exact .singleton _
    | cons second pairs =>
      rw [List.tail_cons, List.zip_cons_cons, List.any_cons, Bool.or_eq_false_iff,
        decide_eq_false_iff_not, Nat.not_le] at noneFalls
      exact .cons_cons noneFalls.1 (ih noneFalls.2)

/-- A pair is the only one with its key. -/
theorem filter_key {pairs : List (Nat × Nat)} {pair : Nat × Nat}
    (distinct : (pairs.map Prod.fst).Nodup) (isPair : pair ∈ pairs) :
    pairs.filter (fun other => other.1 = pair.1) = [pair] := by
  induction pairs with
  | nil => cases isPair
  | cons first pairs ih =>
    rw [List.map_cons, List.nodup_cons] at distinct
    cases List.mem_cons.mp isPair with
    | inl isFirst =>
      rw [← isFirst] at distinct ⊢
      rw [List.filter_cons, if_pos (decide_eq_true rfl), List.filter_eq_nil_iff.mpr]
      intro other isOther same
      exact distinct.1 (of_decide_eq_true same ▸ List.mem_map_of_mem isOther)
    | inr isLater =>
      rw [List.filter_cons_of_neg, ih distinct.2 isLater]
      intro same
      exact distinct.1 (of_decide_eq_true same ▸ List.mem_map_of_mem isLater)

/-- The only record for a number of the window. -/
theorem record_of_pair {records : List (Text × Text)} {sequenceStart sequenceEnd : Nat}
    {pairs : List (Nat × Nat)} {pair : Nat × Nat}
    (reads : List.Forall₂ (RecordReads sequenceStart sequenceEnd) records pairs)
    (distinct : (pairs.map Prod.fst).Nodup) (isPair : pair ∈ pairs) :
    ∃ record, records.filter (fun record => parseU64 record.1 = some pair.1) = [record] ∧
      ListsUid record.2 pair.2 := by
  have sameKey : Relator.LiftFun (RecordReads sequenceStart sequenceEnd) (· ↔ ·)
      (fun record => (decide (parseU64 record.1 = some pair.1) : Prop))
      (fun other => (decide (other.1 = pair.1) : Prop)) := by
    intro record other reads
    dsimp only
    rw [reads.sequence, decide_eq_true_eq, decide_eq_true_eq, Option.some.injEq]
  have filtered := List.rel_filter sameKey reads
  rw [filter_key distinct isPair] at filtered
  cases isFiltered : records.filter fun record => parseU64 record.1 = some pair.1 with
  | nil => rw [isFiltered] at filtered; cases filtered
  | cons record more =>
    rw [isFiltered] at filtered
    cases filtered with
    | cons reads later =>
      cases later
      exact ⟨record, rfl, reads.listed⟩

/-- What the checks after the last line leave. -/
theorem parseUidFetchResponse_accepts {host mailbox : String} {sequenceStart sequenceEnd : Nat}
    {response : Text} {uids : List Nat}
    (isRead : parseUidFetchResponse host mailbox sequenceStart sequenceEnd response = .ok uids) :
    ∃ state, RecordsRead sequenceStart sequenceEnd
        ((lines response).filterMap sequenceRecord) state ∧
      1 ≤ sequenceStart ∧ sequenceStart ≤ sequenceEnd ∧
      state.sequenceUids.length = sequenceEnd - sequenceStart + 1 ∧
      uids = (orderBy Prod.fst state.sequenceUids).map Prod.snd ∧ uids.Pairwise (· < ·) := by
  rw [parseUidFetchResponse] at isRead
  split at isRead
  next => cases isRead
  next state isFold =>
    have account := recordsRead_of_fold isFold
    dsimp only at isRead
    split at isRead
    next => cases isRead
    next isRange =>
      split at isRead
      next => cases isRead
      next =>
        split at isRead
        next => cases isRead
        next isFull =>
          split at isRead
          next => cases isRead
          next noneFalls =>
            cases isRead
            rw [Bool.or_eq_true, decide_eq_true_eq, decide_eq_true_eq, not_or, Nat.not_lt]
              at isRange
            rw [not_not, account.sequences, List.card_toFinset, account.distinct.dedup,
              List.length_map] at isFull
            exact ⟨state, account, Nat.pos_of_ne_zero isRange.1, isRange.2, isFull, rfl,
              increasing_of_neighbours (Bool.eq_false_iff.mpr noneFalls)⟩

/-- An accepted answer has one record for each number of the window and no other record, each with
a well-formed list of one UID; the UIDs are valid, in order and increasing. -/
theorem parseUidFetchResponse_complete {host mailbox : String} {sequenceStart sequenceEnd : Nat}
    {response : Text} {uids : List Nat}
    (isRead : parseUidFetchResponse host mailbox sequenceStart sequenceEnd response = .ok uids) :
    1 ≤ sequenceStart ∧ sequenceStart ≤ sequenceEnd ∧
      uids.length = sequenceEnd - sequenceStart + 1 ∧ uids.Pairwise (· < ·) ∧
      (∀ uid ∈ uids, 1 ≤ uid ∧ uid < 2 ^ 32) ∧
      (∀ record ∈ (lines response).filterMap sequenceRecord, ∃ sequence,
        parseU64 record.1 = some sequence ∧ sequenceStart ≤ sequence ∧
          sequence ≤ sequenceEnd) ∧
      ∀ sequence, sequenceStart ≤ sequence → sequence ≤ sequenceEnd →
        ∃ record uid, ((lines response).filterMap sequenceRecord).filter
            (fun record => parseU64 record.1 = some sequence) = [record] ∧
          ListsUid record.2 uid ∧ uids[sequence - sequenceStart]? = some uid := by
  obtain ⟨state, account, isPositive, isRange, isFull, rfl, increasing⟩ :=
    parseUidFetchResponse_accepts isRead
  have pairReads := exists_of_forall₂ account.reads.flip
  have areKeys : (orderBy Prod.fst state.sequenceUids).map Prod.fst =
      List.range' sequenceStart (sequenceEnd - sequenceStart + 1) := by
    refine keys_of_window account.distinct (fun pair isPair => ?_) isFull
    obtain ⟨record, -, reads⟩ := pairReads pair isPair
    have inWindow := reads.inWindow
    omega
  refine ⟨isPositive, isRange, ?_, increasing, ?_, ?_, ?_⟩
  · rw [List.length_map, (orderBy_perm _ _).length_eq, isFull]
  · intro uid isUid
    obtain ⟨pair, isPair, rfl⟩ := List.mem_map.mp isUid
    obtain ⟨record, -, reads⟩ := pairReads pair (mem_orderBy.mp isPair)
    exact reads.valid
  · intro record isRecord
    obtain ⟨pair, -, reads⟩ := exists_of_forall₂ account.reads record isRecord
    exact ⟨pair.1, reads.sequence, reads.inWindow⟩
  · intro sequence isAbove isBelow
    have isKey : sequence ∈ (orderBy Prod.fst state.sequenceUids).map Prod.fst := by
      rw [areKeys, List.mem_range'_1]
      omega
    obtain ⟨pair, isPair, rfl⟩ := List.mem_map.mp isKey
    obtain ⟨record, isOnly, listed⟩ :=
      record_of_pair account.reads account.distinct (mem_orderBy.mp isPair)
    exact ⟨record, pair.2, isOnly, listed, getElem?_of_window areKeys isPair⟩

/-- An answer out of order, with a string and a list that look like items. -/
def windowResponse : Text :=
  "* 2 FETCH (FLAGS (\\Seen) UID 9)\r\n* 1 fetch (ENVELOPE (\"UID 7)\" (UID 8)) UID 5)\r\n".toList

theorem windowResponse_complete :
    ∃ record uid, ((lines windowResponse).filterMap sequenceRecord).filter
        (fun record => parseU64 record.1 = some 1) = [record] ∧
      ListsUid record.2 uid ∧ [5, 9][1 - 1]? = some uid := by
  have isRead : parseUidFetchResponse "mail.example" "INBOX" 1 2 windowResponse = .ok [5, 9] := by
    obtain ⟨uids, isRead, areUids⟩ := accepted_of_any
      (show (parseUidFetchResponse "mail.example" "INBOX" 1 2 windowResponse).toOption.any
        (· == [5, 9]) = true by decide +kernel)
    rw [isRead, beq_iff_eq.mp areUids]
  exact (parseUidFetchResponse_complete isRead).2.2.2.2.2.2 1 le_rfl (by decide)

end MailSwiftSync.Imap
