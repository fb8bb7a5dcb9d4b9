import MailSwiftSync.Imap.FetchSearch

/-!
# Reading a rendered record

The values that the parser reads from the protocol text of a rendered record are those of the
message, or what their shadows begin with.
-/

namespace MailSwiftSync.Imap

open Foundation

/-! ## Reading the values -/

/-- A prefix ends where the property does, at the latest. -/
theorem takeWhile_append_stop {property : Char → Bool} (text : Text) {stop : Char}
    (stops : property stop = false) (rest : Text) :
    (text ++ stop :: rest).takeWhile property = text.takeWhile property := by
  induction text with
  | nil => rw [List.nil_append, List.takeWhile_cons, stops]; rfl
  | cons c text ih =>
    rw [List.cons_append, List.takeWhile_cons, List.takeWhile_cons, ih]

/-- The space before a value is skipped. -/
theorem trimStart_value {text : Text} (notBlank : ∃ first, text.head? = some first ∧
    isWhitespace first = false) (rest : Text) :
    trimStart (' ' :: (text ++ rest)) = text ++ rest := by
  obtain ⟨first, isFirst, plain⟩ := notBlank
  cases text with
  | nil => cases isFirst
  | cons c text =>
    obtain rfl := Option.some.inj isFirst
    rw [trimStart, List.dropWhile_cons_of_pos (by decide), List.cons_append,
      List.dropWhile_cons_of_neg (by rw [plain]; exact Bool.false_ne_true)]

theorem isWhitespace_of_graphic {c : Char} (low : 0x21 ≤ c.toNat) (high : c.toNat ≤ 0x7E) :
    isWhitespace c = false := by
  simp only [isWhitespace, Bool.or_eq_false_iff, Bool.and_eq_false_iff, decide_eq_false_iff_not,
    beq_eq_false_iff_ne]
  omega

theorem IsFlag.isWord {flag : Text} (isFlag : IsFlag flag) : IsWord isWhitespace flag := by
  refine ⟨isFlag.ne_nil, fun c isMember => ?_⟩
  obtain ⟨-, -, -, -, low, high⟩ := isFlag.plain c isMember
  exact isWhitespace_of_graphic low high

theorem toDigits_isWord (number : Nat) : IsWord isWhitespace (Nat.toDigits 10 number) := by
  refine ⟨Nat.toDigits_ne_nil, fun c isMember => ?_⟩
  have isDigit := Nat.isDigit_of_mem_toDigits (by decide) le_rfl isMember
  have bounds := digit_range isDigit
  exact isWhitespace_of_graphic (by omega) (by omega)

theorem head_of_isWord {word : Text} (isWord : IsWord isWhitespace word) :
    ∃ first, word.head? = some first ∧ isWhitespace first = false := by
  cases word with
  | nil => exact absurd rfl isWord.1
  | cons first word => exact ⟨first, rfl, isWord.2 first List.mem_cons_self⟩

/-- What comes after a flag is a flag. -/
theorem mem_of_flagAfter {name next : Text} {flags : List Text}
    (isNext : flagAfter name flags = some next) : next ∈ flags := by
  induction flags with
  | nil => cases isNext
  | cons flag flags ih =>
    cases flags with
    | nil => cases isNext
    | cons second flags =>
      rw [flagAfter] at isNext
      split at isNext
      · rw [← Option.some.inj isNext]
        exact List.mem_cons_of_mem _ List.mem_cons_self
      · exact List.mem_cons_of_mem _ (ih isNext)

theorem leadingNumber_toDigits {number : Nat} (fits : number < 2 ^ 64) :
    leadingNumber (Nat.toDigits 10 number) = some number := by
  have allDigits : ∀ c ∈ Nat.toDigits 10 number, c.isDigit = true := fun _ isMember =>
    Nat.isDigit_of_mem_toDigits (by decide) le_rfl isMember
  rw [leadingNumber, List.takeWhile_eq_self_iff.mpr allDigits, parseDigits_toDigits fits]

namespace FetchedMessage

variable {message : FetchedMessage}

/-- The protocol text of the record. -/
def protocolText (message : FetchedMessage) : Text :=
  '*' :: ' ' :: (Nat.toDigits 10 message.sequence ++ " FETCH (".toList) ++
    message.protocolItems message.order

/-- The items are searched from their start on. -/
theorem findItem_protocolText {wanted : FetchItem} (notHeader : wanted ≠ .header) :
    findItem wanted.name true message.protocolText =
      findItem wanted.name true (message.protocolItems message.order) := by
  have isName := isItemName_name notHeader
  have starWord : IsItemWord ['*'] := isItemWord_of_any (by decide)
  have notStar : ¬eqIgnoreAsciiCase ['*'] wanted.name = true :=
    not_name_of_mark notHeader List.mem_cons_self (by decide)
  have fetchWord : IsItemWord "FETCH".toList := isItemWord_of_any (by decide)
  have notFetch : ¬eqIgnoreAsciiCase "FETCH".toList wanted.name = true := by
    cases wanted <;> decide
  have notNumber := not_name_of_number notHeader message.sequence
  have emptyWord : IsItemWord [] := fun _ isMember => absurd isMember List.not_mem_nil
  have opened := findItem_word isName emptyWord (.inr rfl)
    (message.protocolItems message.order)
  rw [if_neg fun both => absurd both.2 (by decide)] at opened
  have fetch := findItem_word isName fetchWord (.inl rfl)
    ([] ++ '(' :: message.protocolItems message.order)
  rw [if_neg fun both => notFetch both.1, opened] at fetch
  have number := findItem_word isName (digit_isItemWord message.sequence) (.inl rfl)
    ("FETCH".toList ++ ' ' :: ([] ++ '(' :: message.protocolItems message.order))
  rw [if_neg fun both => notNumber both.1, fetch] at number
  have star := findItem_word isName starWord (.inl rfl)
    (Nat.toDigits 10 message.sequence ++ ' ' ::
      ("FETCH".toList ++ ' ' :: ([] ++ '(' :: message.protocolItems message.order)))
  rw [if_neg fun both => notStar both.1, number] at star
  rw [← star, protocolText]
  simp

theorem seenText_order (message : FetchedMessage) (wanted : FetchItem) :
    message.seenText wanted message.order =
      (message.shadow wanted).getD (message.valueText wanted) := rfl

/-- The search in a record finds the item or its shadow. -/
theorem findItem_record (legal : message.IsLegal) {wanted : FetchItem}
    (notHeader : wanted ≠ .header) :
    ∃ delimiter rest, (delimiter = ' ' ∨ delimiter = ')') ∧
      findItem wanted.name true message.protocolText =
        some (' ' :: ((message.shadow wanted).getD (message.valueText wanted) ++
          delimiter :: rest)) := by
  have isItem : wanted ∈ message.order := by
    rw [legal.isOrder.mem_iff]
    cases wanted <;> decide
  rw [findItem_protocolText notHeader, ← seenText_order]
  exact findItem_items legal.areFlags notHeader isItem

/-- What is in a flag list is a flag. -/
theorem shadow_isFlag (legal : message.IsLegal) {wanted : FetchItem} {next : Text}
    (isShadow : message.shadow wanted = some next) : IsFlag next := by
  rw [shadow] at isShadow
  split at isShadow
  · exact legal.areFlags next (mem_of_flagAfter isShadow)
  · cases isShadow

/-- The number of an item, or the number its shadow begins with. -/
theorem fetchNumber_eq (legal : message.IsLegal) {wanted : FetchItem} {field : String}
    (notHeader : wanted ≠ .header) (isField : wanted.name = field.toList) {number : Nat}
    (fits : number < 2 ^ 64) (isValue : message.valueText wanted = Nat.toDigits 10 number) :
    fetchNumber message.protocolText field =
      (message.shadow wanted).elim (some number) leadingNumber := by
  obtain ⟨delimiter, rest, ends, found⟩ := findItem_record legal notHeader
  have notDigit : delimiter.isDigit = false := by
    rcases ends with rfl | rfl
    · decide
    · decide
  have ofSeen : ∀ seen, IsWord isWhitespace seen →
      parseDigits ((trimStart (' ' :: (seen ++ delimiter :: rest))).takeWhile Char.isDigit) =
        leadingNumber seen := by
    intro seen isWord
    rw [trimStart_value (head_of_isWord isWord), takeWhile_append_stop seen notDigit,
      leadingNumber]
  rw [isField] at found
  rw [fetchNumber, found, Option.bind_eq_bind, Option.bind_some]
  cases isShadow : message.shadow wanted with
  | none =>
    rw [Option.getD_none, isValue, ofSeen _ (toDigits_isWord number),
      leadingNumber_toDigits fits]
    rfl
  | some next =>
    rw [Option.getD_some, ofSeen _ (shadow_isFlag legal isShadow).isWord]
    rfl

/-- The date, unless it has a shadow. -/
theorem fetchQuoted_eq (legal : message.IsLegal) :
    fetchQuoted message.protocolText "INTERNALDATE" =
      (message.shadow .internalDate).elim (some (String.ofList message.internalDate.text))
        fun _ => none := by
  obtain ⟨delimiter, rest, ends, found⟩ :=
    findItem_record legal (by decide : FetchItem.internalDate ≠ .header)
  change findItem "INTERNALDATE".toList true message.protocolText = _ at found
  rw [fetchQuoted, found, Option.bind_eq_bind, Option.bind_some]
  cases isShadow : message.shadow .internalDate with
  | none =>
    have notBlank : ∃ first, (message.valueText .internalDate).head? = some first ∧
        isWhitespace first = false := ⟨'"', rfl, by decide⟩
    have value : message.valueText .internalDate ++ delimiter :: rest =
        '"' :: (message.internalDate.text ++ '"' :: delimiter :: rest) := by
      simp [valueText]
    have inside : '"' ∈ message.internalDate.text ++ '"' :: delimiter :: rest :=
      List.mem_append_right _ List.mem_cons_self
    have date : (message.internalDate.text ++ '"' :: delimiter :: rest).takeWhile (· ≠ '"') =
        message.internalDate.text := by
      have stops : decide ('"' ≠ '"') = false := by decide
      have each : ∀ c ∈ message.internalDate.text, decide (c ≠ '"') = true := by
        intro c isMember
        apply decide_eq_true
        rintro rfl
        exact message.internalDate.quote_not_mem_text isMember
      rw [takeWhile_append_stop _ stops, List.takeWhile_eq_self_iff.mpr each]
    rw [Option.getD_none, trimStart_value notBlank, value]
    simp only [guard, if_pos inside, date]
    rfl
  | some next =>
    have isFlag := shadow_isFlag legal isShadow
    obtain ⟨first, isFirst, -⟩ := head_of_isWord isFlag.isWord
    rw [Option.getD_some, trimStart_value (head_of_isWord isFlag.isWord)]
    cases next with
    | nil => cases isFirst
    | cons c next =>
      have notQuote : c ≠ '"' := (isFlag.plain c List.mem_cons_self).2.2.2.1
      rw [List.cons_append]
      split
      next quoted same => exact absurd (List.cons.inj same).1 notQuote
      next => rfl

/-- The flags of a record. -/
theorem fetchFlags_eq (legal : message.IsLegal) :
    fetchFlags message.protocolText = some (canonicalFlagSet message.flags) := by
  obtain ⟨delimiter, rest, ends, found⟩ :=
    findItem_record legal (by decide : FetchItem.flags ≠ .header)
  have noShadow : message.shadow .flags = none := by
    have notBefore : FetchItem.flags ∉ message.order.takeWhile (· ≠ .flags) := by
      intro isBefore
      have differs := List.mem_takeWhile_imp isBefore
      simp at differs
    rw [shadow, if_neg notBefore]
  have notBlank : ∃ first, (message.valueText .flags).head? = some first ∧
      isWhitespace first = false := ⟨'(', rfl, by decide⟩
  have value : message.valueText .flags ++ delimiter :: rest =
      '(' :: ([' '].intercalate message.flags ++ ')' :: delimiter :: rest) := by
    simp [valueText]
  have inside : ')' ∈ [' '].intercalate message.flags ++ ')' :: delimiter :: rest :=
    List.mem_append_right _ List.mem_cons_self
  have areWords : ∀ flag ∈ message.flags, IsWord isWhitespace flag := fun flag isFlag =>
    (legal.areFlags flag isFlag).isWord
  have list : ([' '].intercalate message.flags ++ ')' :: delimiter :: rest).takeWhile (· ≠ ')') =
      [' '].intercalate message.flags := by
    have stops : decide (')' ≠ ')') = false := by decide
    have each : ∀ c ∈ [' '].intercalate message.flags, decide (c ≠ ')') = true := by
      intro c isMember
      apply decide_eq_true
      rcases mem_intercalate isMember with isSpace | ⟨flag, isFlag, inFlag⟩
      · rw [isSpace]
        decide
      · exact ((legal.areFlags flag isFlag).plain c inFlag).2.2.1
    rw [takeWhile_append_stop _ stops, List.takeWhile_eq_self_iff.mpr each]
  change findItem "FLAGS".toList true message.protocolText = _ at found
  rw [fetchFlags, found, Option.bind_eq_bind, Option.bind_some, noShadow, Option.getD_none,
    trimStart_value notBlank, value]
  simp only [guard, if_pos inside, list]
  have split : splitWhitespace ([' '].intercalate message.flags) = message.flags :=
    words_intercalate (by decide) areWords
  rw [split]
  rfl

end FetchedMessage

end MailSwiftSync.Imap
