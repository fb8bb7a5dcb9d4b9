import MailSwiftSync.Imap.FetchRendering

/-!
# Finding the items of a rendered record

The words of the items are followed one after the other.  Only a flag can be mistaken for the name
of an item, since every other word has a character that no name has, or is no name.
-/

namespace MailSwiftSync.Imap

open Foundation

/-! ## Names and words -/

theorem isItemWord_of_any {word : Text}
    (noneEnds : word.any (fun c => c == ' ' || c == '(') = false) : IsItemWord word := by
  intro c isMember
  have notEnd := forall_eq_false_of_any noneEnds c isMember
  simpa using notEnd

variable {item : FetchItem}

theorem isItemName_name (notHeader : item ≠ .header) : IsItemName item.name := by
  cases item with
  | header => exact absurd rfl notHeader
  | uid => exact ⟨by decide, isItemWord_of_any (by decide)⟩
  | size => exact ⟨by decide, isItemWord_of_any (by decide)⟩
  | internalDate => exact ⟨by decide, isItemWord_of_any (by decide)⟩
  | flags => exact ⟨by decide, isItemWord_of_any (by decide)⟩

/-- Characters that no name has. -/
def marks : Text := ['-', ':', '"', ')', '[', '\x7b', '*', '+']

theorem mark_not_in_name (notHeader : item ≠ .header) {c : Char}
    (isMark : c ∈ marks) : c.toLower ∉ item.name.map Char.toLower := by
  have noMark : ∀ item : FetchItem, item ≠ .header →
      marks.all fun c => !(item.name.map Char.toLower).contains c.toLower := by
    intro item notHeader
    cases item with
    | header => exact absurd rfl notHeader
    | uid => decide
    | size => decide
    | internalDate => decide
    | flags => decide
  have absent := List.all_eq_true.mp (noMark item notHeader) c isMark
  simpa using absent

/-- A word with such a character is no name. -/
theorem not_name_of_mark (notHeader : item ≠ .header) {word : Text} {c : Char}
    (isMember : c ∈ word) (isMark : c ∈ marks) : ¬eqIgnoreAsciiCase word item.name = true := by
  intro same
  have inName : c.toLower ∈ item.name.map Char.toLower := by
    rw [← eqIgnoreAsciiCase_iff.mp same]
    exact List.mem_map_of_mem isMember
  exact mark_not_in_name notHeader isMark inName

/-- A number is no name. -/
theorem not_name_of_number (notHeader : item ≠ .header) (number : Nat) :
    ¬eqIgnoreAsciiCase (Nat.toDigits 10 number) item.name = true := by
  intro same
  have firstLetter : ∃ first rest, item.name = first :: rest ∧ first.toLower.isDigit = false := by
    cases item with
    | header => exact absurd rfl notHeader
    | uid => exact ⟨_, _, rfl, by decide⟩
    | size => exact ⟨_, _, rfl, by decide⟩
    | internalDate => exact ⟨_, _, rfl, by decide⟩
    | flags => exact ⟨_, _, rfl, by decide⟩
  obtain ⟨first, rest, isName, isLetter⟩ := firstLetter
  cases isDigits : Nat.toDigits 10 number with
  | nil => exact Nat.toDigits_ne_nil isDigits
  | cons digit digits =>
    have isDigit : digit.isDigit = true := by
      have isMember : digit ∈ Nat.toDigits 10 number := isDigits ▸ List.mem_cons_self
      exact Nat.isDigit_of_mem_toDigits (by decide) le_rfl isMember
    rw [isDigits, isName, eqIgnoreAsciiCase_iff] at same
    have sameFirst : digit.toLower = first.toLower := (List.cons.inj same).1
    rw [toLower_of_isDigit isDigit] at sameFirst
    rw [← sameFirst, isDigit] at isLetter
    cases isLetter

/-! ## Flags -/

theorem IsAtomChar.plain {c : Char} (isAtomChar : IsAtomChar c) :
    c ≠ ' ' ∧ c ≠ '(' ∧ c ≠ ')' ∧ c ≠ '"' ∧ 0x21 ≤ c.toNat ∧ c.toNat ≤ 0x7E := by
  obtain ⟨graphic, notSpecial⟩ := isAtomChar
  rw [isAsciiGraphic, Bool.and_eq_true, decide_eq_true_eq, decide_eq_true_eq] at graphic
  refine ⟨?_, ?_, ?_, ?_, graphic⟩
  · rintro rfl
    exact absurd graphic.1 (by decide)
  · rintro rfl
    exact notSpecial (by decide)
  · rintro rfl
    exact notSpecial (by decide)
  · rintro rfl
    exact notSpecial (by decide)

/-- The characters of a flag. -/
theorem IsFlag.plain {flag : Text} (isFlag : IsFlag flag) :
    ∀ c ∈ flag, c ≠ ' ' ∧ c ≠ '(' ∧ c ≠ ')' ∧ c ≠ '"' ∧ 0x21 ≤ c.toNat ∧ c.toNat ≤ 0x7E := by
  intro c isMember
  cases isFlag with
  | inl isAtom => exact (isAtom.2 c isMember).plain
  | inr withSlash =>
    obtain ⟨name, rfl, isAtom⟩ := withSlash
    cases List.mem_cons.mp isMember with
    | inl isSlash =>
      rw [isSlash]
      decide
    | inr inName => exact (isAtom.2 c inName).plain

theorem IsFlag.ne_nil {flag : Text} (isFlag : IsFlag flag) : flag ≠ [] := by
  cases isFlag with
  | inl isAtom => exact isAtom.1
  | inr withSlash =>
    obtain ⟨name, rfl, -⟩ := withSlash
    exact List.cons_ne_nil _ _

theorem IsFlag.isItemWord {flag : Text} (isFlag : IsFlag flag) : IsItemWord flag :=
  fun c isMember => ⟨(isFlag.plain c isMember).1, (isFlag.plain c isMember).2.1⟩

/-- A flag list with what follows it is searched for the flag that comes before another. -/
theorem findItem_flagList (notHeader : item ≠ .header) {flags : List Text}
    (areFlags : ∀ flag ∈ flags, IsFlag flag) (rest : Text) :
    (∃ next delimiter more, flagAfter item.name flags = some next ∧
        (delimiter = ' ' ∨ delimiter = ')') ∧
        findItem item.name true ([' '].intercalate flags ++ ')' :: ' ' :: rest) =
          some (' ' :: (next ++ delimiter :: more))) ∨
      (flagAfter item.name flags = none ∧
        findItem item.name true ([' '].intercalate flags ++ ')' :: ' ' :: rest) =
          findItem item.name true rest) := by
  have isName := isItemName_name notHeader
  -- the last flag ends with the parenthesis, so it is no name
  have last : ∀ flag, (∀ c ∈ flag, c ≠ ' ' ∧ c ≠ '(') →
      findItem item.name true (flag ++ ')' :: ' ' :: rest) = findItem item.name true rest := by
    intro flag plain
    have isWord : IsItemWord (flag ++ [')']) := by
      intro c isMember
      cases List.mem_append.mp isMember with
      | inl inFlag => exact plain c inFlag
      | inr isEnd =>
        rw [List.mem_singleton.mp isEnd]
        decide
    have notName : ¬eqIgnoreAsciiCase (flag ++ [')']) item.name = true :=
      not_name_of_mark notHeader (List.mem_append_right _ List.mem_cons_self) (by decide)
    have found := findItem_word isName isWord (.inl rfl) rest
    rw [if_neg fun both => notName both.1, List.append_assoc] at found
    exact found
  induction flags with
  | nil =>
    refine .inr ⟨rfl, ?_⟩
    exact last [] fun _ isMember => absurd isMember List.not_mem_nil
  | cons flag flags ih =>
    obtain ⟨isFlag, others⟩ := List.forall_mem_cons.mp areFlags
    cases flags with
    | nil =>
      refine .inr ⟨rfl, ?_⟩
      rw [List.intercalate_singleton]
      exact last flag isFlag.isItemWord
    | cons next flags =>
      have found := findItem_word isName isFlag.isItemWord (.inl rfl)
        ([' '].intercalate (next :: flags) ++ ')' :: ' ' :: rest)
      have whole : [' '].intercalate (flag :: next :: flags) ++ ')' :: ' ' :: rest =
          flag ++ ' ' :: ([' '].intercalate (next :: flags) ++ ')' :: ' ' :: rest) := by
        rw [List.intercalate_cons_cons, List.append_assoc, List.append_assoc,
          List.singleton_append]
      rw [whole, found]
      by_cases isNamed : eqIgnoreAsciiCase flag item.name = true
      · have after : flagAfter item.name (flag :: next :: flags) = some next := by
          rw [flagAfter, if_pos isNamed]
        rw [if_pos ⟨isNamed, rfl⟩]
        cases flags with
        | nil =>
          exact .inl ⟨next, ')', ' ' :: rest, after, .inr rfl, by
            rw [List.intercalate_singleton]⟩
        | cons third flags =>
          exact .inl ⟨next, ' ', [' '].intercalate (third :: flags) ++ ')' :: ' ' :: rest,
            after, .inl rfl, by
              rw [List.intercalate_cons_cons, List.append_assoc, List.append_assoc,
                List.singleton_append]⟩
      · have after : flagAfter item.name (flag :: next :: flags) =
            flagAfter item.name (next :: flags) := by
          rw [flagAfter, if_neg isNamed]
        rw [if_neg fun both => isNamed both.1, after]
        exact ih others

/-! ## Items -/

namespace FetchedMessage

variable (message : FetchedMessage)

/-- The text of an item in the protocol text, where a space stands for a literal. -/
def protocolItem (item : FetchItem) : Text :=
  message.itemText item ++ if item = .header then [' '] else []

/-- The items of a record in its protocol text. -/
def protocolItems (items : List FetchItem) : Text :=
  [' '].intercalate (items.map message.protocolItem) ++ [')']

/-- The text of the value of an item. -/
def valueText : FetchItem → Text
  | .uid => Nat.toDigits 10 message.uid
  | .size => Nat.toDigits 10 message.size
  | .internalDate => '"' :: (message.internalDate.text ++ ['"'])
  | .flags => '(' :: ([' '].intercalate message.flags ++ [')'])
  | .header => []

/-- The flags pass the search for their own item at its name. -/
theorem itemText_eq (notHeader : item ≠ .header) :
    message.itemText item = item.name ++ ' ' :: message.valueText item := by
  cases item with
  | header => exact absurd rfl notHeader
  | uid => rfl
  | size => rfl
  | internalDate => rfl
  | flags => rfl

end FetchedMessage

/-! ## The words of the other items -/

theorem digit_isItemWord (number : Nat) : IsItemWord (Nat.toDigits 10 number) := by
  intro c isMember
  have isDigit := Nat.isDigit_of_mem_toDigits (by decide) le_rfl isMember
  constructor
  · rintro rfl
    exact absurd isDigit (by decide)
  · rintro rfl
    exact absurd isDigit (by decide)

theorem digitChar_ne {digit : Nat} (isDigit : digit < 10) :
    Nat.digitChar digit ≠ ' ' ∧ Nat.digitChar digit ≠ '(' ∧ Nat.digitChar digit ≠ '"' := by
  have each : ∀ digit < 10, Nat.digitChar digit ≠ ' ' ∧ Nat.digitChar digit ≠ '(' ∧
      Nat.digitChar digit ≠ '"' := by
    decide
  exact each digit isDigit

/-- Text without spaces, parentheses and quotes. -/
def IsDatePart (text : Text) : Prop := ∀ c ∈ text, c ≠ ' ' ∧ c ≠ '(' ∧ c ≠ '"'

theorem IsDatePart.append {first second : Text} (isFirst : IsDatePart first)
    (isSecond : IsDatePart second) : IsDatePart (first ++ second) := by
  intro c isMember
  cases List.mem_append.mp isMember with
  | inl inFirst => exact isFirst c inFirst
  | inr inSecond => exact isSecond c inSecond

theorem IsDatePart.cons {c : Char} {text : Text} (plain : c ≠ ' ' ∧ c ≠ '(' ∧ c ≠ '"')
    (isPart : IsDatePart text) : IsDatePart (c :: text) :=
  List.forall_mem_cons.mpr ⟨plain, isPart⟩

theorem IsDatePart.isItemWord {text : Text} (isPart : IsDatePart text) : IsItemWord text :=
  fun c isMember => ⟨(isPart c isMember).1, (isPart c isMember).2.1⟩

theorem twoDigits_isDatePart {number : Nat} (fits : number < 100) :
    IsDatePart (twoDigits number) := by
  have tens : number / 10 < 10 := by
    omega
  exact (IsDatePart.cons (digitChar_ne tens)
    (IsDatePart.cons (digitChar_ne (Nat.mod_lt number (by decide))) fun _ isMember =>
      absurd isMember List.not_mem_nil))

theorem monthName_isDatePart (month : Fin 12) : IsDatePart (monthNames.getD month []) := by
  have each : ∀ month : Fin 12, (monthNames.getD month []).any
      (fun c => c == ' ' || c == '(' || c == '"') = false := by
    decide
  intro c isMember
  simpa [and_assoc] using forall_eq_false_of_any (each month) c isMember

namespace InternalDate

variable (date : InternalDate)

/-- The day without the space that fills it up. -/
def trimmedDay : Text :=
  (if date.day < 10 then [Nat.digitChar date.day] else twoDigits date.day) ++
    '-' :: monthNames.getD date.month [] ++
    '-' :: (twoDigits (date.year / 100) ++ twoDigits (date.year % 100))

theorem dayText_eq : date.dayText =
    if date.day < 10 then ' ' :: date.trimmedDay else date.trimmedDay := by
  rw [dayText, trimmedDay]
  split
  · rfl
  · rfl

theorem trimmedDay_isDatePart : IsDatePart date.trimmedDay := by
  have dayFits := date.dayFits
  have yearFits := date.yearFits
  have day : IsDatePart (if date.day < 10 then [Nat.digitChar date.day] else
      twoDigits date.day) := by
    split
    next isSmall =>
      exact IsDatePart.cons (digitChar_ne isSmall) fun _ isMember =>
        absurd isMember List.not_mem_nil
    next => exact twoDigits_isDatePart (by omega)
  have century : IsDatePart (twoDigits (date.year / 100)) := twoDigits_isDatePart (by omega)
  have year : IsDatePart (twoDigits (date.year % 100)) :=
    twoDigits_isDatePart (Nat.mod_lt _ (by decide))
  have dash : ('-' : Char) ≠ ' ' ∧ ('-' : Char) ≠ '(' ∧ ('-' : Char) ≠ '"' := by decide
  exact (day.append (IsDatePart.cons dash (monthName_isDatePart date.month))).append
    (IsDatePart.cons dash (century.append year))

theorem timeText_isDatePart : IsDatePart date.timeText := by
  have timeFits := date.timeFits
  have colon : (':' : Char) ≠ ' ' ∧ (':' : Char) ≠ '(' ∧ (':' : Char) ≠ '"' := by decide
  have hour : IsDatePart (twoDigits date.hour) := twoDigits_isDatePart (by omega)
  have minute : IsDatePart (twoDigits date.minute) := twoDigits_isDatePart (by omega)
  have second : IsDatePart (twoDigits date.second) := twoDigits_isDatePart (by omega)
  exact (hour.append (IsDatePart.cons colon minute)).append (IsDatePart.cons colon second)

theorem zoneText_isDatePart : IsDatePart date.zoneText := by
  have zoneFits := date.zoneFits
  have sign : (if date.west then '-' else '+') ≠ ' ' ∧ (if date.west then '-' else '+') ≠ '(' ∧
      (if date.west then '-' else '+') ≠ '"' := by
    cases date.west
    · decide
    · decide
  have hours : IsDatePart (twoDigits (date.zone / 100)) := twoDigits_isDatePart (by omega)
  have minutes : IsDatePart (twoDigits (date.zone % 100)) :=
    twoDigits_isDatePart (Nat.mod_lt _ (by decide))
  exact IsDatePart.cons sign (hours.append minutes)

/-- There is no quote in a date. -/
theorem quote_not_mem_text : '"' ∉ date.text := by
  rw [text, dayText_eq]
  intro isMember
  have inParts : '"' ∈ date.trimmedDay ∨ '"' ∈ date.timeText ∨ '"' ∈ date.zoneText := by
    split at isMember
    · simpa using isMember
    · simpa using isMember
  rcases inParts with inDay | inTime | inZone
  · exact (date.trimmedDay_isDatePart _ inDay).2.2 rfl
  · exact (date.timeText_isDatePart _ inTime).2.2 rfl
  · exact (date.zoneText_isDatePart _ inZone).2.2 rfl

end InternalDate

/-- A quoted date is searched in vain. -/
theorem findItem_date (notHeader : item ≠ .header) (date : InternalDate) (rest : Text) :
    findItem item.name true ('"' :: (date.text ++ '"' :: ' ' :: rest)) =
      findItem item.name true rest := by
  have isName := isItemName_name notHeader
  have dayWord := date.trimmedDay_isDatePart.isItemWord
  have timeWord := date.timeText_isDatePart.isItemWord
  have zoneWord : IsItemWord (date.zoneText ++ ['"']) := by
    intro c isMember
    cases List.mem_append.mp isMember with
    | inl inZone => exact date.zoneText_isDatePart.isItemWord c inZone
    | inr isQuote =>
      rw [List.mem_singleton.mp isQuote]
      decide
  have dash : '-' ∈ date.trimmedDay := by
    simp [InternalDate.trimmedDay]
  have colon : ':' ∈ date.timeText := by
    simp [InternalDate.timeText]
  have afterDay : ∀ text, findItem item.name true
      (date.timeText ++ ' ' :: (date.zoneText ++ '"' :: ' ' :: text)) =
      findItem item.name true text := by
    intro text
    have notTime := not_name_of_mark notHeader colon (by decide)
    have notZone : ¬eqIgnoreAsciiCase (date.zoneText ++ ['"']) item.name = true :=
      not_name_of_mark notHeader (List.mem_append_right _ List.mem_cons_self) (by decide)
    have zone := findItem_word isName zoneWord (.inl rfl) text
    rw [if_neg fun both => notZone both.1, List.append_assoc] at zone
    rw [findItem_word isName timeWord (.inl rfl), if_neg fun both => notTime both.1]
    exact zone
  rw [InternalDate.text, InternalDate.dayText_eq]
  split
  next =>
    have quote : ¬eqIgnoreAsciiCase ['"'] item.name = true :=
      not_name_of_mark notHeader List.mem_cons_self (by decide)
    have quoteWord : IsItemWord ['"'] := isItemWord_of_any (by decide)
    have notDay := not_name_of_mark notHeader dash (by decide)
    have first := findItem_word isName quoteWord (.inl rfl) (date.trimmedDay ++ ' ' ::
      (date.timeText ++ ' ' :: (date.zoneText ++ '"' :: ' ' :: rest)))
    rw [if_neg fun both => quote both.1, findItem_word isName dayWord (.inl rfl),
      if_neg fun both => notDay both.1, afterDay] at first
    rw [← first]
    simp
  next =>
    have quotedWord : IsItemWord ('"' :: date.trimmedDay) :=
      List.forall_mem_cons.mpr ⟨by decide, dayWord⟩
    have notDay : ¬eqIgnoreAsciiCase ('"' :: date.trimmedDay) item.name = true :=
      not_name_of_mark notHeader List.mem_cons_self (by decide)
    have first := findItem_word isName quotedWord (.inl rfl)
      (date.timeText ++ ' ' :: (date.zoneText ++ '"' :: ' ' :: rest))
    rw [if_neg fun both => notDay both.1, afterDay] at first
    rw [← first]
    simp

/-! ## The search among the items -/

/-- The words that announce the header. -/
def headerWords : List (Text × Char) :=
  [("BODY[HEADER.FIELDS".toList, ' '), ([], '('), ("MESSAGE-ID".toList, ' '),
    ("FROM".toList, ' '), ("TO".toList, ' '), ("CC".toList, ' '), ("SUBJECT".toList, ' '),
    ("DATE".toList, ' '), ("CONTENT-TYPE)]".toList, ' ')]

theorem passes_headerWords (notHeader : item ≠ .header) : Passes item.name headerWords := by
  have checked : ∀ item : FetchItem, item ≠ .header → headerWords.all fun word =>
      !word.1.any (fun c => c == ' ' || c == '(') && (word.2 == ' ' || word.2 == '(') &&
        !eqIgnoreAsciiCase word.1 item.name := by
    intro item notHeader
    cases item with
    | header => exact absurd rfl notHeader
    | uid => decide
    | size => decide
    | internalDate => decide
    | flags => decide
  intro word isMember
  have holds := List.all_eq_true.mp (checked item notHeader) word isMember
  rw [Bool.and_eq_true, Bool.and_eq_true, Bool.not_eq_true', Bool.not_eq_true',
    Bool.or_eq_true, beq_iff_eq, beq_iff_eq] at holds
  obtain ⟨⟨isWord, ends⟩, notName⟩ := holds
  exact ⟨isItemWord_of_any isWord, ends, fun both => by
    rw [notName] at both
    exact Bool.false_ne_true both.1⟩

theorem wordsText_rest (words : List (Text × Char)) (first second : Text) :
    wordsText words first ++ second = wordsText words (first ++ second) := by
  induction words with
  | nil => rfl
  | cons word words ih =>
    rw [wordsText_cons, wordsText_cons, ← ih, List.append_assoc, List.cons_append]

/-- Different items have different names. -/
theorem names_apart {wanted item : FetchItem} (isOther : item ≠ wanted)
    (notHeader : item ≠ .header) : ¬eqIgnoreAsciiCase item.name wanted.name = true := by
  cases item with
  | header => exact absurd rfl notHeader
  | uid => cases wanted <;> first | exact absurd rfl isOther | decide
  | size => cases wanted <;> first | exact absurd rfl isOther | decide
  | internalDate => cases wanted <;> first | exact absurd rfl isOther | decide
  | flags => cases wanted <;> first | exact absurd rfl isOther | decide

theorem takeWhile_cons_ne {wanted item : FetchItem} (isOther : item ≠ wanted)
    (items : List FetchItem) :
    (item :: items).takeWhile (· ≠ wanted) = item :: items.takeWhile (· ≠ wanted) := by
  simp [isOther]

namespace FetchedMessage

variable {message : FetchedMessage}

/-- The announced length of the header. -/
def lengthText (message : FetchedMessage) : Text :=
  '\x7b' :: (Nat.toDigits 10 message.header.length ++ ['\x7d'])

theorem itemText_header : message.itemText .header = wordsText headerWords message.lengthText := by
  have announced :
      "BODY[HEADER.FIELDS (MESSAGE-ID FROM TO CC SUBJECT DATE CONTENT-TYPE)] \x7b".toList =
      wordsText headerWords ['\x7b'] := by
    decide +kernel
  have parts : message.itemText .header =
      "BODY[HEADER.FIELDS (MESSAGE-ID FROM TO CC SUBJECT DATE CONTENT-TYPE)] \x7b".toList ++
        (Nat.toDigits 10 message.header.length ++ ['\x7d']) := rfl
  have lengths : ['\x7b'] ++ (Nat.toDigits 10 message.header.length ++ ['\x7d']) =
      message.lengthText := rfl
  rw [parts, announced, wordsText_rest, lengths]

/-- Another item is searched in vain, unless it is the flags. -/
theorem findItem_other {wanted item : FetchItem} (notHeader : wanted ≠ .header)
    (isOther : item ≠ wanted) (notFlags : item ≠ .flags) (rest : Text) :
    findItem wanted.name true (message.protocolItem item ++ ' ' :: rest) =
      findItem wanted.name true rest := by
  have isName := isItemName_name notHeader
  have number : ∀ name : Text, IsItemWord name → ¬eqIgnoreAsciiCase name wanted.name = true →
      ∀ value, findItem wanted.name true
        (name ++ ' ' :: (Nat.toDigits 10 value ++ ' ' :: rest)) =
          findItem wanted.name true rest := by
    intro name isWord notName value
    have notNumber := not_name_of_number notHeader value
    rw [findItem_word isName isWord (.inl rfl), if_neg fun both => notName both.1,
      findItem_word isName (digit_isItemWord value) (.inl rfl),
      if_neg fun both => notNumber both.1]
  have whole : ∀ value after, item ≠ .header → message.valueText item = value →
      message.protocolItem item ++ after = item.name ++ ' ' :: (value ++ after) := by
    intro value after isPlain isValue
    rw [protocolItem, if_neg isPlain, List.append_nil, itemText_eq _ isPlain, isValue,
      List.append_assoc, List.cons_append]
  cases item with
  | flags => exact absurd rfl notFlags
  | uid =>
    rw [whole _ _ (by decide) rfl]
    exact number _ (isItemWord_of_any (by decide)) (names_apart isOther (by decide)) message.uid
  | size =>
    rw [whole _ _ (by decide) rfl]
    exact number _ (isItemWord_of_any (by decide)) (names_apart isOther (by decide)) message.size
  | internalDate =>
    have isWord : IsItemWord FetchItem.internalDate.name := isItemWord_of_any (by decide)
    have notName := names_apart isOther (by decide)
    rw [whole _ _ (by decide) rfl, findItem_word isName isWord (.inl rfl),
      if_neg fun both => notName both.1, valueText, List.cons_append, List.append_assoc]
    exact findItem_date notHeader message.internalDate rest
  | header =>
    have lengthWord : IsItemWord message.lengthText := by
      intro c isMember
      rcases List.mem_cons.mp isMember with isBrace | inside
      · rw [isBrace]
        decide
      · rcases List.mem_append.mp inside with isDigit | isBrace
        · exact digit_isItemWord _ c isDigit
        · rw [List.mem_singleton.mp isBrace]
          decide
    have notName : ¬eqIgnoreAsciiCase message.lengthText wanted.name = true :=
      not_name_of_mark notHeader List.mem_cons_self (by decide)
    have emptyWord : IsItemWord [] := fun _ isMember => absurd isMember List.not_mem_nil
    have notEmpty : ¬eqIgnoreAsciiCase [] wanted.name = true := by
      cases wanted <;> decide
    have parts : message.protocolItem .header ++ ' ' :: rest =
        wordsText headerWords (message.lengthText ++ ' ' :: ([] ++ ' ' :: rest)) := by
      rw [protocolItem, if_pos rfl, itemText_header, ← wordsText_rest, List.append_assoc]
      rfl
    rw [parts, findItem_passes isName (passes_headerWords notHeader),
      findItem_word isName lengthWord (.inl rfl), if_neg fun both => notName both.1,
      findItem_word isName emptyWord (.inl rfl), if_neg fun both => notEmpty both.1]

/-- The value of an item, or what stands in its place. -/
def seenText (message : FetchedMessage) (wanted : FetchItem) (items : List FetchItem) : Text :=
  (if .flags ∈ items.takeWhile (· ≠ wanted) then flagAfter wanted.name message.flags
    else none).getD (message.valueText wanted)

/-- The items of a record after one of them. -/
theorem protocolItems_cons (item : FetchItem) (items : List FetchItem) :
    message.protocolItems (item :: items) = message.protocolItem item ++
      if items = [] then [')'] else ' ' :: message.protocolItems items := by
  cases items with
  | nil => rw [protocolItems, List.map_singleton, List.intercalate_singleton, if_pos rfl]
  | cons next items =>
    rw [if_neg (List.cons_ne_nil _ _), protocolItems, protocolItems, List.map_cons,
      List.map_cons, List.intercalate_cons_cons, List.append_assoc, List.append_assoc,
      List.singleton_append]

/-- The search finds the item, or what stands in its place. -/
theorem findItem_items (areFlags : ∀ flag ∈ message.flags, IsFlag flag) {wanted : FetchItem}
    (notHeader : wanted ≠ .header) {items : List FetchItem} (isItem : wanted ∈ items) :
    ∃ delimiter rest, (delimiter = ' ' ∨ delimiter = ')') ∧
      findItem wanted.name true (message.protocolItems items) =
        some (' ' :: (message.seenText wanted items ++ delimiter :: rest)) := by
  induction items with
  | nil => exact absurd isItem List.not_mem_nil
  | cons item items ih =>
    rw [protocolItems_cons]
    by_cases isWanted : item = wanted
    · have noneBefore : message.seenText wanted (item :: items) = message.valueText wanted := by
        rw [seenText, isWanted, List.takeWhile_cons_of_neg (by simp)]
        rfl
      have isName := isItemName_name notHeader
      have nameWord : IsItemWord wanted.name := by
        cases wanted with
        | header => exact absurd rfl notHeader
        | uid => exact isItemWord_of_any (by decide)
        | size => exact isItemWord_of_any (by decide)
        | internalDate => exact isItemWord_of_any (by decide)
        | flags => exact isItemWord_of_any (by decide)
      have found : ∀ after, findItem wanted.name true (message.protocolItem wanted ++ after) =
          some (' ' :: (message.valueText wanted ++ after)) := by
        intro after
        have here := findItem_word isName nameWord (.inl rfl) (message.valueText wanted ++ after)
        rw [if_pos ⟨eqIgnoreAsciiCase_iff.mpr rfl, rfl⟩] at here
        rw [protocolItem, if_neg notHeader, List.append_nil, itemText_eq _ notHeader,
          List.append_assoc, List.cons_append]
        exact here
      rw [noneBefore, isWanted, found]
      by_cases isLast : items = []
      · exact ⟨')', [], .inr rfl, by rw [if_pos isLast]⟩
      · exact ⟨' ', message.protocolItems items, .inl rfl, by rw [if_neg isLast]⟩
    · have isLater : wanted ∈ items := by
        cases List.mem_cons.mp isItem with
        | inl isFirst => exact absurd isFirst.symm isWanted
        | inr isLater => exact isLater
      rw [if_neg (List.ne_nil_of_mem isLater)]
      by_cases isFlags : item = .flags
      · have flagsBefore : message.seenText wanted (item :: items) =
            (flagAfter wanted.name message.flags).getD (message.valueText wanted) := by
          rw [seenText, takeWhile_cons_ne isWanted,
            if_pos (List.mem_cons.mpr (.inl isFlags.symm))]
        have isPlain : FetchItem.flags ≠ .header := by decide
        have flagsWord : IsItemWord FetchItem.flags.name := isItemWord_of_any (by decide)
        have emptyWord : IsItemWord [] := fun _ isMember => absurd isMember List.not_mem_nil
        have notName := names_apart (isFlags ▸ isWanted) isPlain
        have isName := isItemName_name notHeader
        have entered : findItem wanted.name true
            (message.protocolItem .flags ++ ' ' :: message.protocolItems items) =
            findItem wanted.name true ([' '].intercalate message.flags ++
              ')' :: ' ' :: message.protocolItems items) := by
          have opened := findItem_word isName emptyWord (.inr rfl)
            ([' '].intercalate message.flags ++ ')' :: ' ' :: message.protocolItems items)
          rw [if_neg fun both => absurd both.2 (by decide)] at opened
          rw [protocolItem, if_neg isPlain, List.append_nil, itemText_eq _ isPlain, valueText,
            List.append_assoc, List.cons_append, findItem_word isName flagsWord (.inl rfl),
            if_neg fun both => notName both.1, ← opened]
          simp
        rw [isFlags, entered, ← isFlags, flagsBefore]
        cases findItem_flagList notHeader areFlags (message.protocolItems items) with
        | inl shadowed =>
          obtain ⟨next, delimiter, more, isNext, ends, found⟩ := shadowed
          rw [found, isNext]
          exact ⟨delimiter, more, ends, rfl⟩
        | inr passed =>
          obtain ⟨noNext, found⟩ := passed
          obtain ⟨delimiter, rest, ends, later⟩ := ih isLater
          have unseen : message.seenText wanted items = message.valueText wanted := by
            rw [seenText, noNext, ite_self]
            rfl
          rw [found, noNext, later, unseen]
          exact ⟨delimiter, rest, ends, rfl⟩
      · have sameSeen : message.seenText wanted (item :: items) =
            message.seenText wanted items := by
          rw [seenText, seenText, takeWhile_cons_ne isWanted]
          congr 1
          exact if_congr (by simp [Ne.symm isFlags]) rfl rfl
        rw [findItem_other notHeader isWanted isFlags, sameSeen]
        exact ih isLater

end FetchedMessage

end MailSwiftSync.Imap
