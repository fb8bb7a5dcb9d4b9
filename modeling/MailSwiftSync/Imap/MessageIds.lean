import MailSwiftSync.Foundation.Words
import MailSwiftSync.Imap.FetchParser

/-!
# Reading a Message-ID

The reader of the Message-ID does not remember which field it is in: once it has an identifier it
takes every folded line for a part of it.
-/

namespace MailSwiftSync.Imap

open Foundation

/-! ## Headers -/

/-- A line that continues the field before it. -/
def IsFold (line : Text) : Prop := line.head? = some ' ' ∨ line.head? = some '\t'

instance (line : Text) : Decidable (IsFold line) :=
  inferInstanceAs (Decidable (_ ∨ _))

/-- A header field: its name, the text after the colon, and the lines it is folded onto. -/
structure HeaderField where
  name : Text
  value : Text
  folds : List Text
  noColon : ':' ∉ name
  notFold : ¬IsFold (name ++ [':'])
  areFolds : ∀ line ∈ folds, IsFold line

namespace HeaderField

def lines (field : HeaderField) : List Text := (field.name ++ ':' :: field.value) :: field.folds

def isMessageId (field : HeaderField) : Bool :=
  eqIgnoreAsciiCase (trimText field.name) "message-id".toList

/-- The value of a field on one line. -/
def unfolded (field : HeaderField) : Text := trimText (field.value ++ field.folds.flatten)

end HeaderField

/-- A text whose lines are those of some fields, with the empty line that ends a header or
without it. -/
def IsHeader (fields : List HeaderField) (body : Text) : Prop :=
  lines body = fields.flatMap HeaderField.lines ∨
    lines body = fields.flatMap HeaderField.lines ++ [[]]

/-- `<left@right>`. -/
def IsIdentifier (id : Text) : Prop :=
  ∃ left right, id = '<' :: (left ++ '@' :: right) ++ ['>'] ∧ left ≠ [] ∧ right ≠ [] ∧
    '@' ∉ left ∧
    ∀ c ∈ left ++ right, isControl c = false ∧ isWhitespace c = false ∧ c ≠ '<' ∧ c ≠ '>'

/-- The result of reading the Message-ID of some fields: the identifier of the one field of that
name, and nothing when there is no such field, more than one, or no identifier in it. -/
def ReadsMessageId (fields : List HeaderField) (result : Option Text) : Prop :=
  (∀ field, fields.filter HeaderField.isMessageId = [field] → IsIdentifier field.unfolded →
    result = some field.unfolded) ∧
  ((∀ field, fields.filter HeaderField.isMessageId = [field] → ¬IsIdentifier field.unfolded) →
    result = none)

/-- What is folded in the fields after the first Message-ID. -/
def laterFolds : List HeaderField → Text
  | [] => []
  | field :: fields =>
    if field.isMessageId then (fields.flatMap HeaderField.folds).flatten else laterFolds fields

/-- Nothing that a later field is folded onto makes a difference to the identifier. -/
def FoldsApart (fields : List HeaderField) : Prop :=
  ∀ field, fields.filter HeaderField.isMessageId = [field] →
    (∀ c ∈ laterFolds fields, isWhitespace c = true) ∨
      ¬IsIdentifier field.unfolded ∧
        (field.unfolded = [] → ¬IsIdentifier (trimText (laterFolds fields)))

/-! ## Identifiers -/

theorem isWord_of_isIdentifier {id : Text} (isIdentifier : IsIdentifier id) :
    IsWord isWhitespace id := by
  obtain ⟨left, right, rfl, -, -, -, plain⟩ := isIdentifier
  constructor
  · simp
  · intro c isMember
    simp only [List.cons_append, List.append_assoc, List.mem_cons, List.mem_append,
      List.not_mem_nil, or_false] at isMember
    rcases isMember with rfl | inLeft | rfl | inRight | rfl
    · decide
    · exact (plain c (List.mem_append_left _ inLeft)).2.1
    · decide
    · exact (plain c (List.mem_append_right _ inRight)).2.1
    · decide

/-- The last check of the reader. -/
def identifierOf (value : Text) : Option Text := do
  guard (value.head? = some '<' ∧ 2 ≤ value.length ∧ value.getLast? = some '>')
  let inner := (value.drop 1).dropLast
  let (left, right) ← splitOnce '@' inner
  guard (!left.isEmpty && !right.isEmpty &&
    !inner.any fun c => isControl c || isWhitespace c || c = '<' || c = '>')
  return value

theorem identifierOf_eq_some {value id : Text} :
    identifierOf value = some id ↔ value = id ∧ IsIdentifier id := by
  simp only [identifierOf, bind, Option.bind_eq_some_iff, Option.guard_eq_some', Prod.exists,
    pure, Option.some.injEq, Bool.and_eq_true, Bool.not_eq_true', List.isEmpty_eq_false_iff,
    List.any_eq_false, Bool.or_eq_true, decide_eq_true_eq, not_or, Bool.not_eq_true]
  constructor
  · rintro ⟨-, ⟨opened, long, closed⟩, left, right, isSplit, -, ⟨⟨hasLeft, hasRight⟩, plain⟩, rfl⟩
    obtain ⟨whole, notLeft⟩ := splitOnce_eq_some isSplit
    refine ⟨rfl, left, right, ?_, hasLeft, hasRight, notLeft, ?_⟩
    · rw [← whole]
      cases value with
      | nil => cases opened
      | cons first rest =>
        rw [List.head?_cons, Option.some.injEq] at opened
        rw [opened, List.drop_one, List.tail_cons, List.cons_append]
        congr 1
        cases rest with
        | nil => simp at long
        | cons second rest =>
          rw [List.getLast?_cons_cons] at closed
          exact (List.dropLast_append_getLast? _ closed).symm
    · intro c isMember
      have inside : c ∈ (value.drop 1).dropLast := by
        rw [whole, List.mem_append, List.mem_cons]
        rw [List.mem_append] at isMember
        exact isMember.imp_right .inr
      obtain ⟨⟨⟨notControl, notBlank⟩, notOpen⟩, notClose⟩ := plain c inside
      exact ⟨notControl, notBlank, notOpen, notClose⟩
  · rintro ⟨rfl, left, right, rfl, hasLeft, hasRight, notLeft, plain⟩
    have inner : (('<' :: (left ++ '@' :: right) ++ ['>']).drop 1).dropLast =
        left ++ '@' :: right := by
      rw [List.cons_append, List.drop_one, List.tail_cons, List.dropLast_concat]
    refine ⟨(), ⟨rfl, ?_, ?_⟩, left, right, ?_, (), ⟨⟨hasLeft, hasRight⟩, ?_⟩, rfl⟩
    · rw [List.length_append]
      exact Nat.succ_le_succ (Nat.succ_le_succ (Nat.zero_le _))
    · rw [List.getLast?_append]
      rfl
    · rw [inner]
      exact splitOnce_append notLeft
    · rw [inner]
      intro c isMember
      rw [List.mem_append, List.mem_cons] at isMember
      rcases isMember with inLeft | rfl | inRight
      · obtain ⟨notControl, notBlank, notOpen, notClose⟩ := plain c (List.mem_append_left _ inLeft)
        exact ⟨⟨⟨notControl, notBlank⟩, notOpen⟩, notClose⟩
      · decide
      · obtain ⟨notControl, notBlank, notOpen, notClose⟩ :=
          plain c (List.mem_append_right _ inRight)
        exact ⟨⟨⟨notControl, notBlank⟩, notOpen⟩, notClose⟩

/-- The words of a text make an identifier when they are one. -/
theorem identifierOf_joinFields {text : Text} {id : Text} :
    identifierOf (joinFields text) = some id ↔
      words isWhitespace text = [id] ∧ IsIdentifier id := by
  rw [identifierOf_eq_some]
  constructor
  · rintro ⟨isJoined, isIdentifier⟩
    refine ⟨?_, isIdentifier⟩
    have sameWords : words isWhitespace (joinFields text) = words isWhitespace text :=
      words_intercalate (by decide) fun _ isMember => isWord_of_mem isMember
    rw [← sameWords, isJoined]
    exact words_of_isWord (isWord_of_isIdentifier isIdentifier)
  · rintro ⟨oneWord, isIdentifier⟩
    refine ⟨?_, isIdentifier⟩
    rw [joinFields, show splitWhitespace text = [id] from oneWord, List.intercalate_singleton]

/-! ## Fields -/

theorem readMessageId_fold {line : Text} (isFold : IsFold line) (messageId : Option Text) :
    readMessageId messageId line =
      some (messageId.map fun value => value ++ ' ' :: trimText line) := by
  rw [readMessageId, if_pos]
  rw [Bool.or_eq_true, decide_eq_true_eq, decide_eq_true_eq]
  exact isFold

theorem readMessageId_field (field : HeaderField) (messageId : Option Text) :
    readMessageId messageId (field.name ++ ':' :: field.value) =
      if field.isMessageId then
        if messageId.isSome then none else some (some (trimText field.value))
      else some messageId := by
  have notFold : ¬IsFold (field.name ++ ':' :: field.value) := by
    have starts : (field.name ++ ':' :: field.value).head? = (field.name ++ [':']).head? := by
      rw [List.head?_append, List.head?_append]
      rfl
    rw [IsFold, starts]
    exact field.notFold
  rw [readMessageId, if_neg, splitOnce_append field.noColon]
  · rfl
  · rw [Bool.or_eq_true, decide_eq_true_eq, decide_eq_true_eq]
    exact notFold

/-- A fold begins with a blank. -/
theorem isWhitespace_of_isFold {line : Text} (isFold : IsFold line) {c : Char}
    (starts : line.head? = some c) : isWhitespace c = true := by
  rw [IsFold, starts, Option.some.injEq, Option.some.injEq] at isFold
  rcases isFold with rfl | rfl
  · decide
  · decide

theorem flatten_starts_blank {folds : List Text} (areFolds : ∀ line ∈ folds, IsFold line) (c : Char)
    (starts : folds.flatten.head? = some c) : isWhitespace c = true := by
  cases folds with
  | nil => cases starts
  | cons line folds =>
    have isFold := areFolds line List.mem_cons_self
    cases line with
    | nil => exact absurd isFold (by simp [IsFold])
    | cons first line => exact isWhitespace_of_isFold isFold starts

/-- Folded lines that are taken for a part of an identifier. -/
theorem foldlM_folds_some {folds : List Text} (areFolds : ∀ line ∈ folds, IsFold line)
    (value : Text) :
    ∃ longer, folds.foldlM readMessageId (some value) = some (some longer) ∧
      words isWhitespace longer =
        words isWhitespace value ++ words isWhitespace folds.flatten := by
  induction folds generalizing value with
  | nil => exact ⟨value, rfl, by rw [List.flatten_nil, words_nil, List.append_nil]⟩
  | cons line folds ih =>
    have laterFolds := fun later isLater => areFolds later (List.mem_cons_of_mem line isLater)
    obtain ⟨longer, isLonger, isWords⟩ := ih laterFolds (value ++ ' ' :: trimText line)
    refine ⟨longer, ?_, ?_⟩
    · rw [List.foldlM_cons, readMessageId_fold (areFolds line List.mem_cons_self)]
      exact isLonger
    · rw [isWords, words_append_blank (by decide), List.flatten_cons,
        words_append (flatten_starts_blank laterFolds), ← List.append_assoc]
      congr 2
      exact words_strip line

/-- Folded lines before the first identifier. -/
theorem foldlM_folds_none {folds : List Text} (areFolds : ∀ line ∈ folds, IsFold line) :
    folds.foldlM readMessageId none = some none := by
  induction folds with
  | nil => rfl
  | cons line folds ih =>
    rw [List.foldlM_cons, readMessageId_fold (areFolds line List.mem_cons_self)]
    exact ih fun later isLater => areFolds later (List.mem_cons_of_mem _ isLater)

variable {fields : List HeaderField}

/-- Fields after an identifier leave it, but for what they are folded onto. -/
theorem foldlM_fields_some (others : ∀ field ∈ fields, field.isMessageId = false) (value : Text) :
    ∃ longer, (fields.flatMap HeaderField.lines).foldlM readMessageId (some value) =
        some (some longer) ∧
      words isWhitespace longer =
        words isWhitespace value ++
          words isWhitespace (fields.flatMap HeaderField.folds).flatten := by
  induction fields generalizing value with
  | nil => exact ⟨value, rfl, by simp⟩
  | cons field fields ih =>
    obtain ⟨own, isOwn, ownWords⟩ := foldlM_folds_some field.areFolds value
    obtain ⟨longer, isLonger, isWords⟩ := ih
      (fun later isLater => others later (List.mem_cons_of_mem _ isLater)) own
    have laterFolds : ∀ line ∈ fields.flatMap HeaderField.folds, IsFold line := by
      intro line isMember
      obtain ⟨later, -, isFold⟩ := List.mem_flatMap.mp isMember
      exact later.areFolds line isFold
    refine ⟨longer, ?_, ?_⟩
    · rw [List.flatMap_cons, HeaderField.lines, List.foldlM_append, List.foldlM_cons,
        readMessageId_field, if_neg (Bool.eq_false_iff.mp (others field List.mem_cons_self))]
      simp only [Option.bind_eq_bind, Option.bind_some]
      rw [isOwn]
      exact isLonger
    · rw [isWords, ownWords, List.flatMap_cons, List.flatten_append,
        words_append (flatten_starts_blank laterFolds), List.append_assoc]

/-- A second identifier ends the reading. -/
theorem foldlM_fields_again {field : HeaderField}
    (isMember : field ∈ fields) (again : field.isMessageId = true) (value : Text) :
    (fields.flatMap HeaderField.lines).foldlM readMessageId (some value) = none := by
  induction fields generalizing value with
  | nil => cases isMember
  | cons first fields ih =>
    rw [List.flatMap_cons, HeaderField.lines, List.foldlM_append, List.foldlM_cons,
      readMessageId_field]
    cases isFirst : first.isMessageId with
    | true => rfl
    | false =>
      have isLater : field ∈ fields := by
        cases List.mem_cons.mp isMember with
        | inl same => rw [same, isFirst] at again; cases again
        | inr isLater => exact isLater
      obtain ⟨longer, isLonger, -⟩ := foldlM_folds_some first.areFolds value
      simp only [Bool.false_eq_true, if_false, Option.bind_eq_bind, Option.bind_some]
      rw [isLonger]
      exact ih isLater longer

/-- The identifier that the lines of some fields give: what the field of that name has on its own
lines, and what later fields are folded onto. -/
theorem foldlM_fields {field : HeaderField}
    (single : fields.filter HeaderField.isMessageId = [field]) :
    ∃ value, (fields.flatMap HeaderField.lines).foldlM readMessageId none = some (some value) ∧
      words isWhitespace value =
        words isWhitespace (field.value ++ field.folds.flatten) ++
          words isWhitespace (laterFolds fields) := by
  induction fields with
  | nil => cases single
  | cons first fields ih =>
    rw [List.flatMap_cons, HeaderField.lines, List.foldlM_append, List.foldlM_cons,
      readMessageId_field, laterFolds]
    cases isFirst : first.isMessageId with
    | true =>
      rw [List.filter_cons_of_pos isFirst, List.cons.injEq, List.filter_eq_nil_iff] at single
      obtain ⟨rfl, others⟩ := single
      obtain ⟨own, isOwn, ownWords⟩ := foldlM_folds_some first.areFolds (trimText first.value)
      obtain ⟨longer, isLonger, isWords⟩ := foldlM_fields_some
        (fun later isLater => Bool.eq_false_iff.mpr (others later isLater)) own
      refine ⟨longer, ?_, ?_⟩
      · simp only [if_true, Option.isSome_none, Bool.false_eq_true, if_false,
          Option.bind_eq_bind, Option.bind_some]
        rw [isOwn]
        exact isLonger
      · rw [isWords, ownWords, if_pos rfl, words_append (flatten_starts_blank first.areFolds)]
        congr 2
        exact words_strip first.value
    | false =>
      rw [List.filter_cons_of_neg (Bool.eq_false_iff.mp isFirst)] at single
      obtain ⟨value, isValue, isWords⟩ := ih single
      refine ⟨value, ?_, isWords⟩
      simp only [Bool.false_eq_true, if_false, Option.bind_eq_bind, Option.bind_some]
      rw [foldlM_folds_none first.areFolds]
      exact isValue

/-- Without exactly one field of the name there is no identifier. -/
theorem foldlM_fields_other (notSingle : ∀ field, fields.filter HeaderField.isMessageId ≠ [field]) :
    (fields.flatMap HeaderField.lines).foldlM readMessageId none = some none ∨
      (fields.flatMap HeaderField.lines).foldlM readMessageId none = none := by
  induction fields with
  | nil => exact .inl rfl
  | cons first fields ih =>
    rw [List.flatMap_cons, HeaderField.lines, List.foldlM_append, List.foldlM_cons,
      readMessageId_field]
    cases isFirst : first.isMessageId with
    | true =>
      right
      obtain ⟨own, isOwn, -⟩ := foldlM_folds_some first.areFolds (trimText first.value)
      have more : fields.filter HeaderField.isMessageId ≠ [] := by
        intro none
        apply notSingle first
        rw [List.filter_cons_of_pos isFirst, none]
      obtain ⟨second, isSecond⟩ := List.exists_mem_of_ne_nil _ more
      obtain ⟨isLater, again⟩ := List.mem_filter.mp isSecond
      simp only [if_true, Option.isSome_none, Bool.false_eq_true, if_false,
        Option.bind_eq_bind, Option.bind_some]
      rw [isOwn]
      exact foldlM_fields_again isLater again own
    | false =>
      simp only [Bool.false_eq_true, if_false, Option.bind_eq_bind, Option.bind_some]
      rw [foldlM_folds_none first.areFolds]
      apply ih
      intro field single
      apply notSingle field
      rw [List.filter_cons_of_neg (Bool.eq_false_iff.mp isFirst), single]

/-! ## Reading -/

theorem parseMessageIdHeader_eq {body : Text} (isHeader : IsHeader fields body) :
    parseMessageIdHeader body =
      ((fields.flatMap HeaderField.lines).foldlM readMessageId none).bind fun messageId =>
        messageId.bind fun value => identifierOf (joinFields value) := by
  have sameReading : (lines body).foldlM readMessageId none =
      (fields.flatMap HeaderField.lines).foldlM readMessageId none := by
    cases isHeader with
    | inl whole => rw [whole]
    | inr ended =>
      rw [ended, List.foldlM_append]
      cases (fields.flatMap HeaderField.lines).foldlM readMessageId none with
      | none => rfl
      | some messageId => rfl
  rw [← sameReading]
  rfl

/-- The identifier that is read from some fields. -/
theorem parseMessageIdHeader_eq_some {field : HeaderField}
    {body : Text} (isHeader : IsHeader fields body)
    (single : fields.filter HeaderField.isMessageId = [field]) {id : Text} :
    parseMessageIdHeader body = some id ↔
      words isWhitespace (field.value ++ field.folds.flatten) ++
          words isWhitespace (laterFolds fields) = [id] ∧ IsIdentifier id := by
  obtain ⟨value, isValue, isWords⟩ := foldlM_fields single
  rw [parseMessageIdHeader_eq isHeader, isValue, Option.bind_some, Option.bind_some,
    identifierOf_joinFields, isWords]

/-- A text that is an identifier between blanks. -/
theorem isIdentifier_strip_iff {text : Text} :
    IsIdentifier (strip isWhitespace text) ↔
      words isWhitespace text = [strip isWhitespace text] ∧
        IsIdentifier (strip isWhitespace text) := by
  constructor
  · intro isIdentifier
    rw [← words_strip]
    exact ⟨words_of_isWord (isWord_of_isIdentifier isIdentifier), isIdentifier⟩
  · exact And.right

/-- The Message-ID is found, and only then, exactly when nothing that a later field is folded onto
makes a difference to it. -/
theorem finds_message_id_iff {fields : List HeaderField} {body : Text}
    (isHeader : IsHeader fields body) :
    ReadsMessageId fields (parseMessageIdHeader body) ↔ FoldsApart fields := by
  by_cases hasSingle : ∃ field, fields.filter HeaderField.isMessageId = [field]
  · obtain ⟨field, single⟩ := hasSingle
    have result := @parseMessageIdHeader_eq_some fields field body isHeader single
    have onlyField : ∀ other, fields.filter HeaderField.isMessageId = [other] ↔ field = other := by
      intro other
      rw [single, List.singleton_inj]
    rw [ReadsMessageId, FoldsApart]
    simp only [onlyField, forall_eq']
    by_cases isIdentifier : IsIdentifier field.unfolded
    · have ownWords : words isWhitespace (field.value ++ field.folds.flatten) = [field.unfolded] :=
        (isIdentifier_strip_iff.mp isIdentifier).1
      have found := @result field.unfolded
      rw [ownWords, List.singleton_append, List.cons.injEq, words_eq_nil_iff] at found
      simp only [isIdentifier, forall_const, not_true_eq_false, false_and, or_false,
        false_implies, and_true, true_and] at found ⊢
      exact found
    · simp only [isIdentifier, false_implies, not_false_eq_true, forall_const, true_and]
      constructor
      · intro isNone
        by_cases allBlank : ∀ c ∈ laterFolds fields, isWhitespace c = true
        · exact .inl allBlank
        · refine .inr fun isEmpty laterIdentifier => ?_
          have noWords : words isWhitespace (field.value ++ field.folds.flatten) = [] := by
            rw [← words_strip]
            exact (congrArg (words isWhitespace) isEmpty).trans words_nil
          have laterWords :
              words isWhitespace (laterFolds fields) = [trimText (laterFolds fields)] :=
            (isIdentifier_strip_iff.mp laterIdentifier).1
          have found := result.mpr ⟨by rw [noWords, laterWords, List.nil_append], laterIdentifier⟩
          rw [isNone] at found
          cases found
      · intro apart
        cases isResult : parseMessageIdHeader body with
        | none => rfl
        | some id =>
          obtain ⟨isWords, readIdentifier⟩ := result.mp isResult
          rw [List.append_eq_singleton_iff] at isWords
          cases isWords with
          | inr own =>
            have isOwn : field.unfolded = id := strip_of_words own.1
            exact absurd (isOwn ▸ readIdentifier) isIdentifier
          | inl later =>
            have isEmpty : field.unfolded = [] := strip_eq_nil later.1
            have isLater : trimText (laterFolds fields) = id := strip_of_words later.2
            cases apart with
            | inl allBlank =>
              rw [words_eq_nil_iff.mpr allBlank] at later
              cases later.2
            | inr apart => exact absurd (isLater ▸ readIdentifier) (apart isEmpty)
  · rw [not_exists] at hasSingle
    have isNone : parseMessageIdHeader body = none := by
      rw [parseMessageIdHeader_eq isHeader]
      cases foldlM_fields_other hasSingle with
      | inl nothing => rw [nothing]; rfl
      | inr repeated => rw [repeated]; rfl
    constructor
    · intro _ field single
      exact absurd single (hasSingle field)
    · intro _
      exact ⟨fun field single => absurd single (hasSingle field), fun _ => isNone⟩

/-! ## A folded subject -/

namespace FoldedSubject

/-- `Message-ID: <a@b>`. -/
def messageId : HeaderField where
  name := "Message-ID".toList
  value := " <a@b>".toList
  folds := []
  noColon := by decide
  notFold := by decide
  areFolds := by decide

/-- `Subject: x`, and `y` on a line of its own. -/
def subject : HeaderField where
  name := "Subject".toList
  value := " x".toList
  folds := [" y".toList]
  noColon := by decide
  notFold := by decide
  areFolds := by decide

/-- The header with the subject before the identifier. -/
theorem folded_before_found :
    ReadsMessageId [subject, messageId]
        (parseMessageIdHeader "Subject: x\r\n y\r\nMessage-ID: <a@b>\r\n\r\n".toList) ↔
      FoldsApart [subject, messageId] :=
  finds_message_id_iff (.inr (by decide +kernel))

/-- With the subject after it, the identifier is lost. -/
theorem folded_after_lost :
    ¬∀ (fields : List HeaderField) (body : Text), IsHeader fields body →
      ReadsMessageId fields (parseMessageIdHeader body) := by
  intro always
  have plain : ∀ c ∈ ['a', 'b'],
      isControl c = false ∧ isWhitespace c = false ∧ c ≠ '<' ∧ c ≠ '>' := by
    rw [List.forall_mem_cons, List.forall_mem_singleton]
    decide
  have isIdentifier : IsIdentifier messageId.unfolded :=
    ⟨['a'], ['b'], by decide, by decide, by decide, by decide, plain⟩
  have found := (always [messageId, subject]
    "Message-ID: <a@b>\r\nSubject: x\r\n y\r\n\r\n".toList (.inr (by decide +kernel))).1
    messageId rfl isIdentifier
  have lost : parseMessageIdHeader "Message-ID: <a@b>\r\nSubject: x\r\n y\r\n\r\n".toList =
      none := by decide +kernel
  rw [lost] at found
  cases found

end FoldedSubject

end MailSwiftSync.Imap
