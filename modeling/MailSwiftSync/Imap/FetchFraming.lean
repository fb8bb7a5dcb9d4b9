import MailSwiftSync.Imap.FetchReading
import MailSwiftSync.Imap.Payloads

/-!
# The framing of rendered records

A rendered record is two lines around the literal of its header.  The splitter gives back a frame
whose protocol text is that of the record, whatever the header holds.
-/

namespace MailSwiftSync.Imap

open Foundation

/-! ## Printable text -/

/-- Text of printable ASCII. -/
def IsPrintable (text : Text) : Prop := ∀ c ∈ text, 0x20 ≤ c.toNat ∧ c.toNat ≤ 0x7E

theorem isPrintable_of_all {text : Text}
    (each : text.all (fun c => 0x20 ≤ c.toNat && c.toNat ≤ 0x7E) = true) : IsPrintable text := by
  intro c isMember
  have inRange := List.all_eq_true.mp each c isMember
  rw [Bool.and_eq_true, decide_eq_true_eq, decide_eq_true_eq] at inRange
  exact inRange

theorem IsPrintable.append {first second : Text} (isFirst : IsPrintable first)
    (isSecond : IsPrintable second) : IsPrintable (first ++ second) :=
  List.forall_mem_append.mpr ⟨isFirst, isSecond⟩

theorem IsPrintable.cons {c : Char} {text : Text} (inRange : 0x20 ≤ c.toNat ∧ c.toNat ≤ 0x7E)
    (isText : IsPrintable text) : IsPrintable (c :: text) :=
  List.forall_mem_cons.mpr ⟨inRange, isText⟩

theorem IsPrintable.flatMap {α : Type} {items : List α} {write : α → Text}
    (each : ∀ item ∈ items, IsPrintable (write item)) : IsPrintable (items.flatMap write) := by
  intro c isMember
  obtain ⟨item, isItem, inItem⟩ := List.mem_flatMap.mp isMember
  exact each item isItem c inItem

theorem isPrintable_toDigits (number : Nat) : IsPrintable (Nat.toDigits 10 number) := by
  intro c isMember
  have isDigit := Nat.isDigit_of_mem_toDigits (by decide) le_rfl isMember
  have inRange := digit_range isDigit
  omega

/-- Printable text is read back from its bytes. -/
theorem fromUtf8Lossy_asciiBytes {text : Text} (isText : IsPrintable text) :
    fromUtf8Lossy (asciiBytes text) = text := by
  induction text with
  | nil => rfl
  | cons c text ih =>
    obtain ⟨inRange, isLater⟩ := List.forall_mem_cons.mp isText
    have code : (UInt8.ofNat c.toNat).toNat = c.toNat := by
      rw [UInt8.toNat_ofNat']
      exact Nat.mod_eq_of_lt (by omega)
    have isAscii : firstByte (UInt8.ofNat c.toNat) = .inl c := by
      rw [firstByte]
      simp only [code]
      rw [if_pos (by omega), Char.ofNat_toNat]
    have step :
        fromUtf8Lossy (asciiBytes (c :: text)) = c :: fromUtf8Lossy (asciiBytes text) := by
      rw [fromUtf8Lossy, asciiBytes, List.map_cons, decodeFrom, isAscii]
      rfl
    rw [step, ih isLater]

/-- The end of a line is a carriage return. -/
theorem lineEnd_eq_none {bytes : Bytes} (noReturn : 0x0D ∉ bytes) : lineEnd bytes = none := by
  fun_induction lineEnd bytes with
  | case1 first second rest here => exact absurd (here.1 ▸ List.mem_cons_self) noReturn
  | case2 first second rest notHere ih =>
    rw [ih fun isLater => noReturn (List.mem_cons_of_mem _ isLater)]
    rfl
  | case3 bytes short => rfl

theorem lineEnd_asciiBytes {text : Text} (isText : IsPrintable text) :
    lineEnd (asciiBytes text) = none := by
  apply lineEnd_eq_none
  intro isMember
  obtain ⟨c, isChar, isReturn⟩ := List.mem_map.mp isMember
  obtain ⟨low, high⟩ := isText c isChar
  have code := congrArg UInt8.toNat isReturn
  rw [UInt8.toNat_ofNat', Nat.mod_eq_of_lt (by omega)] at code
  exact absurd (code ▸ low) (by decide)

theorem asciiBytes_append (first second : Text) :
    asciiBytes (first ++ second) = asciiBytes first ++ asciiBytes second := List.map_append

theorem asciiBytes_flatMap {α : Type} (items : List α) (write : α → Text) :
    asciiBytes (items.flatMap write) = items.flatMap fun item => asciiBytes (write item) :=
  List.map_flatMap ..

/-! ## Literal headers -/

/-- The bytes of a number are digits. -/
theorem isAsciiDigit_toDigits (number : Nat) :
    (asciiBytes (Nat.toDigits 10 number)).all isAsciiDigit = true := by
  rw [List.all_eq_true]
  intro byte isMember
  obtain ⟨c, isChar, rfl⟩ := List.mem_map.mp isMember
  have isDigit := Nat.isDigit_of_mem_toDigits (by decide) le_rfl isChar
  obtain ⟨low, high⟩ := digit_range isDigit
  have code : (UInt8.ofNat c.toNat).toNat = c.toNat := by
    rw [UInt8.toNat_ofNat']
    exact Nat.mod_eq_of_lt (by omega)
  rw [isAsciiDigit, Bool.and_eq_true, decide_eq_true_eq, decide_eq_true_eq, UInt8.le_iff_toNat_le,
    UInt8.le_iff_toNat_le, code]
  exact ⟨low, high⟩

theorem digitsValue_asciiBytes {text : Text} (isText : IsPrintable text) (total : Nat) :
    (asciiBytes text).foldl (fun total digit => total * 10 + (digit.toNat - 48)) total =
      text.foldl (fun total digit => total * 10 + (digit.toNat - 48)) total := by
  induction text generalizing total with
  | nil => rfl
  | cons c text ih =>
    obtain ⟨inRange, isLater⟩ := List.forall_mem_cons.mp isText
    have code : (UInt8.ofNat c.toNat).toNat = c.toNat := by
      rw [UInt8.toNat_ofNat']
      exact Nat.mod_eq_of_lt (by omega)
    have step := ih isLater (total * 10 + (c.toNat - 48))
    rw [asciiBytes, List.map_cons, List.foldl_cons, List.foldl_cons, code]
    exact step

/-- The length that a line announces at its end. -/
theorem literalHeader_announced {length : Nat} (fits : length < 2 ^ 64) (line : Bytes) :
    literalHeader (line ++ 0x20 :: 0x7B :: (asciiBytes (Nat.toDigits 10 length) ++ [0x7D])) =
      some ⟨line.length + 1, length, false⟩ := by
  have allDigits := isAsciiDigit_toDigits length
  have value : digitsValue (asciiBytes (Nat.toDigits 10 length)) = length := by
    rw [digitsValue, digitsValue_asciiBytes (isPrintable_toDigits length), foldl_toDigits]
  have nonempty : asciiBytes (Nat.toDigits 10 length) ≠ [] := by
    rw [asciiBytes, Ne, List.map_eq_nil_iff]
    exact Nat.toDigits_ne_nil
  generalize asciiBytes (Nat.toDigits 10 length) = digits at allDigits value nonempty ⊢
  have parts : line ++ 0x20 :: 0x7B :: (digits ++ [0x7D]) =
      (line ++ 0x20 :: 0x7B :: digits) ++ [0x7D] := by simp
  have isLast : (line ++ 0x20 :: 0x7B :: (digits ++ [0x7D])).getLast? = some 0x7D := by
    rw [parts, List.getLast?_concat]
  have isBody : (line ++ 0x20 :: 0x7B :: (digits ++ [0x7D])).dropLast =
      line ++ 0x20 :: 0x7B :: digits := by
    rw [parts, List.dropLast_concat]
  have isDigit : ∀ byte ∈ digits, isAsciiDigit byte = true := List.all_eq_true.mp allDigits
  have count : ((line ++ 0x20 :: 0x7B :: digits).reverse.takeWhile (· ≠ 0x7B)).reverse =
      digits := by
    have parts : (line ++ 0x20 :: 0x7B :: digits).reverse =
        digits.reverse ++ 0x7B :: 0x20 :: line.reverse := by simp
    have noBrace : ∀ byte ∈ digits.reverse, decide (byte ≠ 0x7B) = true := by
      intro byte isMember
      apply decide_eq_true
      rintro rfl
      exact absurd (isDigit _ (List.mem_reverse.mp isMember)) (by decide)
    rw [parts, List.takeWhile_append_of_pos noBrace, List.takeWhile_cons_of_neg (by decide),
      List.append_nil, List.reverse_reverse]
  have noPlus : digits.getLast? ≠ some 0x2B := by
    intro isPlus
    exact absurd (isDigit _ (List.mem_of_getLast? isPlus)) (by decide)
  have opened : (line ++ 0x20 :: 0x7B :: digits).length - digits.length - 1 =
      line.length + 1 := by
    simp only [List.length_append, List.length_cons]
    omega
  have before : (line ++ 0x20 :: 0x7B :: (digits ++ [0x7D]))[line.length + 1 - 1]? =
      some 0x20 := by simp
  have hasBrace : (0x7B : UInt8) ∈ line ++ 0x20 :: 0x7B :: digits := by simp
  rw [literalHeader, isLast, isBody]
  simp only [count, opened, before, if_neg noPlus, value, guard, if_pos fits, if_pos hasBrace,
    if_pos (And.intro nonempty allDigits)]
  rfl

theorem literalHeader_closed (line : Bytes) : literalHeader (line ++ [0x29]) = none := by
  have isLast : (line ++ [0x29]).getLast? = some 0x29 := List.getLast?_concat
  rw [literalHeader, isLast]
  rfl

/-! ## The lines of a record -/

/-- Items with a separator between them, around one of them. -/
theorem intercalate_around {ι α : Type} (separator : α) (write : ι → List α)
    (before : List ι) (item : ι) (after : List ι) :
    [separator].intercalate ((before ++ item :: after).map write) =
      before.flatMap (fun other => write other ++ [separator]) ++
        (write item ++ after.flatMap fun other => separator :: write other) := by
  have fromItem : ∀ item, [separator].intercalate ((item :: after).map write) =
      write item ++ after.flatMap fun other => separator :: write other := by
    induction after with
    | nil =>
      intro item
      rw [List.map_singleton, List.intercalate_singleton, List.flatMap_nil, List.append_nil]
    | cons next after ih =>
      intro item
      rw [List.map_cons, List.map_cons, List.intercalate_cons_cons, ← List.map_cons, ih next,
        List.flatMap_cons, List.append_assoc, List.singleton_append, List.cons_append]
  induction before with
  | nil => exact fromItem item
  | cons first before ih =>
    have nonempty : (before ++ item :: after).map write ≠ [] := by simp
    rw [List.cons_append, List.map_cons, List.intercalate_cons_of_ne_nil nonempty, ih]
    simp

namespace InternalDate

variable (date : InternalDate)

theorem isPrintable_digitChar {digit : Nat} (isDigit : digit < 10) :
    0x20 ≤ (Nat.digitChar digit).toNat ∧ (Nat.digitChar digit).toNat ≤ 0x7E := by
  have each : ∀ digit < 10, 0x20 ≤ (Nat.digitChar digit).toNat ∧
      (Nat.digitChar digit).toNat ≤ 0x7E := by
    decide
  exact each digit isDigit

theorem isPrintable_twoDigits {number : Nat} (fits : number < 100) :
    IsPrintable (twoDigits number) := by
  have tens : number / 10 < 10 := by
    omega
  have ones : number % 10 < 10 := by
    omega
  exact .cons (isPrintable_digitChar tens)
    (.cons (isPrintable_digitChar ones) fun _ isMember => absurd isMember List.not_mem_nil)

theorem isPrintable_text : IsPrintable date.text := by
  have dayFits := date.dayFits
  have yearFits := date.yearFits
  have timeFits := date.timeFits
  have zoneFits := date.zoneFits
  have month : IsPrintable (monthNames.getD date.month []) := by
    have each : ∀ month : Fin 12, (monthNames.getD month []).all
        (fun c => 0x20 ≤ c.toNat && c.toNat ≤ 0x7E) = true := by
      decide
    exact isPrintable_of_all (each date.month)
  have day : IsPrintable (if date.day < 10 then [' ', Nat.digitChar date.day] else
      twoDigits date.day) := by
    split
    next isSmall =>
      exact .cons (by decide) (.cons (isPrintable_digitChar isSmall) fun _ isMember =>
        absurd isMember List.not_mem_nil)
    next => exact isPrintable_twoDigits (by omega)
  have sign : 0x20 ≤ (if date.west then '-' else '+').toNat ∧
      (if date.west then '-' else '+').toNat ≤ 0x7E := by
    cases date.west
    · decide
    · decide
  have dayText : IsPrintable date.dayText :=
    (day.append (.cons (by decide) month)).append
      (.cons (by decide) ((isPrintable_twoDigits (by omega)).append
        (isPrintable_twoDigits (by omega))))
  have timeText : IsPrintable date.timeText :=
    ((isPrintable_twoDigits (by omega)).append
      (.cons (by decide) (isPrintable_twoDigits (by omega)))).append
      (.cons (by decide) (isPrintable_twoDigits (by omega)))
  have zoneText : IsPrintable date.zoneText :=
    .cons sign ((isPrintable_twoDigits (by omega)).append (isPrintable_twoDigits (by omega)))
  exact dayText.append (.cons (by decide) (timeText.append (.cons (by decide) zoneText)))

end InternalDate

namespace FetchedMessage

variable {message : FetchedMessage}

/-- What a record begins with. -/
def opening (message : FetchedMessage) : Text :=
  "* ".toList ++ (Nat.toDigits 10 message.sequence ++ " FETCH (".toList)

/-- The line before the literal, when some items come before the header. -/
def firstLine (message : FetchedMessage) (before : List FetchItem) : Text :=
  message.opening ++
    (before.flatMap (fun item => message.itemText item ++ [' ']) ++ message.itemText .header)

/-- The line after the literal, when some items come after the header. -/
def lastLine (message : FetchedMessage) (after : List FetchItem) : Text :=
  after.flatMap (fun item => ' ' :: message.itemText item) ++ [')']

theorem isPrintable_itemText (areFlags : ∀ flag ∈ message.flags, IsFlag flag)
    (item : FetchItem) : IsPrintable (message.itemText item) := by
  cases item with
  | uid => exact (isPrintable_of_all (by decide)).append (isPrintable_toDigits _)
  | size => exact (isPrintable_of_all (by decide)).append (isPrintable_toDigits _)
  | internalDate =>
    exact (isPrintable_of_all (by decide)).append
      (message.internalDate.isPrintable_text.append (isPrintable_of_all (by decide)))
  | flags =>
    have list : IsPrintable ([' '].intercalate message.flags) := by
      intro c isMember
      rcases mem_intercalate isMember with isSpace | ⟨flag, isFlag, inFlag⟩
      · rw [isSpace]
        decide
      · obtain ⟨-, -, -, -, low, high⟩ := (areFlags flag isFlag).plain c inFlag
        exact ⟨by omega, high⟩
    exact (isPrintable_of_all (by decide)).append
      (list.append (isPrintable_of_all (by decide)))
  | header =>
    exact (isPrintable_of_all (by decide +kernel)).append
      ((isPrintable_toDigits _).append (isPrintable_of_all (by decide)))

theorem isPrintable_firstLine (areFlags : ∀ flag ∈ message.flags, IsFlag flag)
    (before : List FetchItem) : IsPrintable (message.firstLine before) := by
  have opened : IsPrintable message.opening :=
    (isPrintable_of_all (by decide)).append
      ((isPrintable_toDigits _).append (isPrintable_of_all (by decide)))
  have items : IsPrintable (before.flatMap fun item => message.itemText item ++ [' ']) :=
    .flatMap fun item _ => (isPrintable_itemText areFlags item).append
      (isPrintable_of_all (by decide))
  exact opened.append (items.append (isPrintable_itemText areFlags .header))

theorem isPrintable_lastLine (areFlags : ∀ flag ∈ message.flags, IsFlag flag)
    (after : List FetchItem) : IsPrintable (message.lastLine after) := by
  have items : IsPrintable (after.flatMap fun item => ' ' :: message.itemText item) :=
    .flatMap fun item _ => .cons (by decide) (isPrintable_itemText areFlags item)
  exact items.append (isPrintable_of_all (by decide))

/-- A record is two lines around the header. -/
theorem record_eq {before after : List FetchItem}
    (isOrder : message.order = before ++ .header :: after) (noneBefore : .header ∉ before)
    (noneAfter : .header ∉ after) :
    message.record = asciiBytes (message.firstLine before) ++
      0x0D :: 0x0A :: (message.header ++
        (asciiBytes (message.lastLine after) ++ [0x0D, 0x0A])) := by
  have plain : ∀ item, item ≠ .header → message.itemBytes item =
      asciiBytes (message.itemText item) := by
    intro item notHeader
    rw [itemBytes, if_neg notHeader, List.append_nil]
  have first : before.flatMap (fun item => message.itemBytes item ++ [0x20]) =
      asciiBytes (before.flatMap fun item => message.itemText item ++ [' ']) := by
    rw [asciiBytes_flatMap]
    refine List.flatMap_congr fun item isItem => ?_
    rw [plain item fun isHeader => noneBefore (isHeader ▸ isItem), asciiBytes_append]
    rfl
  have last : after.flatMap (fun item => 0x20 :: message.itemBytes item) =
      asciiBytes (after.flatMap fun item => ' ' :: message.itemText item) := by
    rw [asciiBytes_flatMap]
    refine List.flatMap_congr fun item isItem => ?_
    rw [plain item fun isHeader => noneAfter (isHeader ▸ isItem)]
    rfl
  have header : message.itemBytes .header =
      asciiBytes (message.itemText .header) ++ 0x0D :: 0x0A :: message.header := by
    rw [itemBytes, if_pos rfl]
  rw [record, isOrder, intercalate_around, first, last, header, firstLine, lastLine, ← opening]
  simp only [asciiBytes_append, List.append_assoc, List.cons_append]

/-- The protocol text of a record is its two lines with a space between them. -/
theorem protocolText_eq {before after : List FetchItem}
    (isOrder : message.order = before ++ .header :: after) (noneBefore : .header ∉ before)
    (noneAfter : .header ∉ after) :
    message.protocolText = message.firstLine before ++ ' ' :: message.lastLine after := by
  have plain : ∀ item, item ≠ .header → message.protocolItem item = message.itemText item := by
    intro item notHeader
    rw [protocolItem, if_neg notHeader, List.append_nil]
  have first : before.flatMap (fun item => message.protocolItem item ++ [' ']) =
      before.flatMap fun item => message.itemText item ++ [' '] := by
    refine List.flatMap_congr fun item isItem => ?_
    rw [plain item fun isHeader => noneBefore (isHeader ▸ isItem)]
  have last : after.flatMap (fun item => ' ' :: message.protocolItem item) =
      after.flatMap fun item => ' ' :: message.itemText item := by
    refine List.flatMap_congr fun item isItem => ?_
    rw [plain item fun isHeader => noneAfter (isHeader ▸ isItem)]
  have header : message.protocolItem .header = message.itemText .header ++ [' '] := by
    rw [protocolItem, if_pos rfl]
  have opened : '*' :: ' ' :: (Nat.toDigits 10 message.sequence ++ " FETCH (".toList) =
      message.opening := rfl
  rw [protocolText, protocolItems, isOrder, intercalate_around, first, last, header, firstLine,
    lastLine, opened]
  simp only [List.append_assoc, List.cons_append, List.nil_append]

/-! ## Records -/

/-- A legal record has items before and after its header, and no other header. -/
theorem IsLegal.header_parts (legal : message.IsLegal) :
    ∃ before after, message.order = before ++ .header :: after ∧ .header ∉ before ∧
      .header ∉ after := by
  have isItem : FetchItem.header ∈ message.order := legal.isOrder.mem_iff.mpr (by decide)
  have nodup : message.order.Nodup := legal.isOrder.nodup_iff.mpr (by decide)
  obtain ⟨before, after, isOrder⟩ := List.append_of_mem isItem
  rw [isOrder, List.nodup_append, List.nodup_cons] at nodup
  obtain ⟨-, ⟨noneAfter, -⟩, apart⟩ := nodup
  exact ⟨before, after, isOrder, fun isBefore => apart _ isBefore _ List.mem_cons_self rfl,
    noneAfter⟩

/-- The words of a line that begins a record. -/
theorem splitWhitespace_firstLine (before : List FetchItem) :
    ∃ word later, splitWhitespace (message.firstLine before) =
      ['*'] :: Nat.toDigits 10 message.sequence :: "FETCH".toList :: ('(' :: word) :: later := by
  have star : IsWord isWhitespace ['*'] := isWord_of_any (List.cons_ne_nil _ _) (by decide)
  have fetch : IsWord isWhitespace "FETCH".toList := isWord_of_any (by decide) (by decide)
  have isBlank : isWhitespace ' ' = true := by decide
  have notBlank : isWhitespace '(' = false := by decide
  obtain ⟨word, later, items⟩ := words_cons notBlank
    (before.flatMap (fun item => message.itemText item ++ [' ']) ++ message.itemText .header)
  have parts : message.firstLine before =
      ['*'] ++ ' ' :: (Nat.toDigits 10 message.sequence ++ ' ' :: ("FETCH".toList ++ ' ' ::
        ('(' :: (before.flatMap (fun item => message.itemText item ++ [' ']) ++
          message.itemText .header)))) := by
    rw [firstLine, opening]
    simp
  refine ⟨word, later, ?_⟩
  change words isWhitespace (message.firstLine before) = _
  rw [parts, words_cons_word star isBlank, words_cons_word (toDigits_isWord _) isBlank,
    words_cons_word fetch isBlank, items]

theorem isFetchRecordCandidate_firstLine (before : List FetchItem) :
    isFetchRecordCandidate (message.firstLine before) = true := by
  obtain ⟨word, later, fields⟩ := message.splitWhitespace_firstLine before
  rw [isFetchRecordCandidate, fields]
  change (decide (['*'] = ['*']) && eqIgnoreAsciiCase "FETCH".toList "FETCH".toList) = true
  decide

theorem isFetchRecordLine_firstLine (legal : message.IsLegal) (before : List FetchItem) :
    isFetchRecordLine (message.firstLine before) = true := by
  obtain ⟨word, later, fields⟩ := message.splitWhitespace_firstLine before
  rw [isFetchRecordLine, fields]
  change (decide (['*'] = ['*']) && (parseU64 (Nat.toDigits 10 message.sequence)).isSome &&
    eqIgnoreAsciiCase "FETCH".toList "FETCH".toList && decide (some '(' = some '(')) = true
  rw [parseU64_toDigits legal.sequenceFits, Option.isSome_some]
  decide

/-- The literal of a record is announced at the end of its first line. -/
theorem literalHeader_firstLine (legal : message.IsLegal) (before : List FetchItem) :
    ∃ start, literalHeader (asciiBytes (message.firstLine before)) =
      some ⟨start, message.header.length, false⟩ := by
  have announced :
      "BODY[HEADER.FIELDS (MESSAGE-ID FROM TO CC SUBJECT DATE CONTENT-TYPE)] \x7b".toList =
      "BODY[HEADER.FIELDS (MESSAGE-ID FROM TO CC SUBJECT DATE CONTENT-TYPE)]".toList ++
        [' ', '\x7b'] := by
    decide +kernel
  have header : message.itemText .header =
      "BODY[HEADER.FIELDS (MESSAGE-ID FROM TO CC SUBJECT DATE CONTENT-TYPE)]".toList ++
        ([' ', '\x7b'] ++ (Nat.toDigits 10 message.header.length ++ ['\x7d'])) := by
    have parts : message.itemText .header =
        "BODY[HEADER.FIELDS (MESSAGE-ID FROM TO CC SUBJECT DATE CONTENT-TYPE)] \x7b".toList ++
          (Nat.toDigits 10 message.header.length ++ ['\x7d']) := rfl
    rw [parts, announced, List.append_assoc]
  have line : message.firstLine before =
      (message.opening ++
        (before.flatMap (fun item => message.itemText item ++ [' ']) ++
          "BODY[HEADER.FIELDS (MESSAGE-ID FROM TO CC SUBJECT DATE CONTENT-TYPE)]".toList)) ++
        ([' ', '\x7b'] ++ (Nat.toDigits 10 message.header.length ++ ['\x7d'])) := by
    rw [firstLine, header]
    simp only [List.append_assoc]
  have ends : asciiBytes ([' ', '\x7b'] ++
      (Nat.toDigits 10 message.header.length ++ ['\x7d'])) =
      0x20 :: 0x7B :: (asciiBytes (Nat.toDigits 10 message.header.length) ++ [0x7D]) := by
    rw [asciiBytes_append, asciiBytes_append]
    rfl
  rw [line, asciiBytes_append, ends]
  exact ⟨_, literalHeader_announced legal.headerFits _⟩

theorem literalHeader_lastLine (after : List FetchItem) :
    literalHeader (asciiBytes (message.lastLine after)) = none := by
  rw [lastLine, asciiBytes_append]
  exact literalHeader_closed _

/-- The frame of a record, when some items come before the header and others after it. -/
def frameAt (message : FetchedMessage) (before after : List FetchItem) (start : Nat) :
    ResponseFrame :=
  let payload := start + (asciiBytes (message.firstLine before)).length + 2
  { protocol := [⟨start, asciiBytes (message.firstLine before)⟩,
      ⟨payload + message.header.length, asciiBytes (message.lastLine after)⟩]
    literals := [⟨payload, message.header⟩] }

/-- The splitter reads one record as one frame. -/
theorem framesFrom_record (legal : message.IsLegal) (start : Nat) (rest : Bytes) :
    ∃ frame stop, recordOf (.ok frame) = some (.ok ⟨frame, message.protocolText⟩) ∧
      framesFrom start ⟨[], []⟩ (message.record ++ rest) =
        .ok frame :: framesFrom stop ⟨[], []⟩ rest := by
  obtain ⟨before, after, isOrder, noneBefore, noneAfter⟩ := legal.header_parts
  obtain ⟨position, announced⟩ := literalHeader_firstLine legal before
  have firstText := isPrintable_firstLine legal.areFlags before
  have lastText := isPrintable_lastLine legal.areFlags after
  have isResponse : message.record ++ rest = asciiBytes (message.firstLine before) ++
      0x0D :: 0x0A :: (message.header ++
        (asciiBytes (message.lastLine after) ++ 0x0D :: 0x0A :: rest)) := by
    rw [record_eq isOrder noneBefore noneAfter]
    simp
  have enough : ¬(message.header ++
      (asciiBytes (message.lastLine after) ++ 0x0D :: 0x0A :: rest)).length <
        message.header.length := by
    rw [List.length_append]
    omega
  refine ⟨message.frameAt before after start,
    start + (asciiBytes (message.firstLine before)).length + 2 + message.header.length +
      (asciiBytes (message.lastLine after)).length + 2, ?_, ?_⟩
  · have nonempty : asciiBytes (message.lastLine after) ≠ [] := by
      rw [lastLine, asciiBytes_append]
      exact List.append_ne_nil_of_right_ne_nil _ (List.cons_ne_nil _ _)
    have nonemptyFirst : message.firstLine before ≠ [] := List.cons_ne_nil _ _
    have protocol : protocolTextOf (message.frameAt before after start).protocol =
        message.protocolText := by
      rw [protocolText_eq isOrder noneBefore noneAfter, protocolTextOf, frameAt, List.foldl_cons,
        List.foldl_cons, List.foldl_nil]
      simp [fromUtf8Lossy_asciiBytes firstText, fromUtf8Lossy_asciiBytes lastText, nonempty,
        nonemptyFirst]
    have isHead : (message.frameAt before after start).protocol.head? =
        some ⟨start, asciiBytes (message.firstLine before)⟩ := rfl
    rw [recordOf, isHead]
    simp only [Option.bind_eq_bind, Option.bind_some, fromUtf8Lossy_asciiBytes firstText,
      isFetchRecordCandidate_firstLine, isFetchRecordLine_firstLine legal, protocol]
    rfl
  · rw [isResponse, framesFrom_unbroken (lineEnd_asciiBytes firstText), announced,
      Option.elim_some, if_neg Bool.false_ne_true, if_neg enough, List.take_left, List.drop_left,
      framesFrom_unbroken (lineEnd_asciiBytes lastText), literalHeader_lastLine,
      Option.elim_none]
    rfl

/-- The records of a response are those that were written. -/
theorem fetchRecords_records {messages : List FetchedMessage}
    (legal : ∀ message ∈ messages, message.IsLegal) :
    ∃ records : List FetchRecord,
      fetchRecords (messages.flatMap record) = records.map .ok ∧
        records.map (·.protocolText) = messages.map protocolText := by
  have fromStart : ∀ start, ∃ records : List FetchRecord,
      (framesFrom start ⟨[], []⟩ (messages.flatMap record)).filterMap recordOf =
        records.map .ok ∧ records.map (·.protocolText) = messages.map protocolText := by
    induction messages with
    | nil =>
      intro start
      refine ⟨[], ?_, rfl⟩
      rw [List.flatMap_nil, framesFrom_last rfl]
      rfl
    | cons message messages ih =>
      intro start
      obtain ⟨isLegal, areLegal⟩ := List.forall_mem_cons.mp legal
      obtain ⟨frame, stop, isRecord, frames⟩ :=
        framesFrom_record isLegal start (messages.flatMap record)
      obtain ⟨records, areRecords, texts⟩ := ih areLegal stop
      refine ⟨⟨frame, message.protocolText⟩ :: records, ?_, ?_⟩
      · rw [List.flatMap_cons, frames, List.filterMap_cons, isRecord, areRecords,
          List.map_cons]
      · rw [List.map_cons, List.map_cons, texts]
  exact fromStart 0

end FetchedMessage

end MailSwiftSync.Imap
