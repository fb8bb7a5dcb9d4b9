import Mathlib.Data.List.Destutter
import MailSwiftSync.Message

/-!
# Text of IMAP responses

The string functions of the standard library that the readers of IMAP responses use.  A text is
a list of code points.
-/

namespace MailSwiftSync.Imap

abbrev Bytes := List UInt8

abbrev Text := List Char

/-! ## UTF-8 -/

/-- A character of which some bytes are still to come: how many, the bits read so far and the
least and greatest next byte. -/
structure PendingChar where
  needed : Nat
  code : Nat
  lower : UInt8
  upper : UInt8
deriving DecidableEq, Repr

/-- `U+FFFD`. -/
def replacementChar : Char := '\uFFFD'

/-- What the first byte of a character begins, or a character. -/
def firstByte (byte : UInt8) : Char ⊕ PendingChar :=
  let code := byte.toNat
  if code < 0x80 then .inl (Char.ofNat code)
  else if 0xC2 ≤ code && code ≤ 0xDF then .inr ⟨1, code % 32, 0x80, 0xBF⟩
  else if code = 0xE0 then .inr ⟨2, 0, 0xA0, 0xBF⟩
  else if code = 0xED then .inr ⟨2, 13, 0x80, 0x9F⟩
  else if 0xE1 ≤ code && code ≤ 0xEF then .inr ⟨2, code % 16, 0x80, 0xBF⟩
  else if code = 0xF0 then .inr ⟨3, 0, 0x90, 0xBF⟩
  else if 0xF1 ≤ code && code ≤ 0xF3 then .inr ⟨3, code % 8, 0x80, 0xBF⟩
  else if code = 0xF4 then .inr ⟨3, 4, 0x80, 0x8F⟩
  else .inl replacementChar

/-- Whether a byte stands for itself or begins a character. -/
def validFirstByte (byte : UInt8) : Bool :=
  byte.toNat < 0x80 || (0xC2 ≤ byte.toNat && byte.toNat ≤ 0xF4)

/-- The characters of some bytes after a possibly unfinished one.  Every maximal invalid sequence
counts as one replacement character. -/
def decodeFrom : Option PendingChar → Bytes → Text
  | none, [] => []
  | some _, [] => [replacementChar]
  | none, byte :: rest =>
    match firstByte byte with
    | .inl c => c :: decodeFrom none rest
    | .inr begun => decodeFrom (some begun) rest
  | some pending, byte :: rest =>
    if pending.lower ≤ byte && byte ≤ pending.upper then
      let code := pending.code * 64 + byte.toNat % 64
      if pending.needed ≤ 1 then Char.ofNat code :: decodeFrom none rest
      else decodeFrom (some ⟨pending.needed - 1, code, 0x80, 0xBF⟩) rest
    else
      replacementChar ::
        match firstByte byte with
        | .inl c => c :: decodeFrom none rest
        | .inr begun => decodeFrom (some begun) rest

/-- `String::from_utf8_lossy`. -/
def fromUtf8Lossy (bytes : Bytes) : Text := decodeFrom none bytes

/-- Whether bytes after a possibly unfinished character are well formed. -/
def validFrom : Option PendingChar → Bytes → Bool
  | pending, [] => pending.isNone
  | none, byte :: rest =>
    validFirstByte byte &&
      match firstByte byte with
      | .inl _ => validFrom none rest
      | .inr begun => validFrom (some begun) rest
  | some pending, byte :: rest =>
    pending.lower ≤ byte && byte ≤ pending.upper &&
      if pending.needed ≤ 1 then validFrom none rest
      else validFrom
        (some ⟨pending.needed - 1, pending.code * 64 + byte.toNat % 64, 0x80, 0xBF⟩) rest

/-- `str::from_utf8`. -/
def fromUtf8 (bytes : Bytes) : Option Text :=
  if validFrom none bytes then some (fromUtf8Lossy bytes) else none

/-! ## Characters -/

/-- The general category `Cc`, as `char::is_control`. -/
def isControl (c : Char) : Bool := c.toNat < 0x20 || (0x7F ≤ c.toNat && c.toNat < 0xA0)

/-- `eq_ignore_ascii_case`. -/
def eqIgnoreAsciiCase (left right : Text) : Bool :=
  left.map Char.toLower == right.map Char.toLower

/-- `eq_ignore_ascii_case` of bytes. -/
def bytesEqIgnoreAsciiCase (left right : Bytes) : Bool :=
  let lower (byte : UInt8) : UInt8 := if 0x41 ≤ byte && byte ≤ 0x5A then byte + 32 else byte
  left.map lower == right.map lower

/-- `u8::is_ascii_whitespace`. -/
def isAsciiWhitespace (byte : UInt8) : Bool :=
  byte == 0x20 || byte == 0x09 || byte == 0x0A || byte == 0x0C || byte == 0x0D

/-- `u8::is_ascii_digit`. -/
def isAsciiDigit (byte : UInt8) : Bool := 0x30 ≤ byte && byte ≤ 0x39

/-! ## Parts of a text -/

/-- `str::trim_start`. -/
def trimStart (text : Text) : Text := text.dropWhile isWhitespace

/-- `str::trim`. -/
def trimText (text : Text) : Text :=
  ((trimStart text).reverse.dropWhile isWhitespace).reverse

/-- `str::split_whitespace`. -/
def splitWhitespace (text : Text) : List Text :=
  (text.splitOnP isWhitespace).filter (!·.isEmpty)

/-- The fields of a text, joined by single spaces. -/
def joinFields (text : Text) : Text := [' '].intercalate (splitWhitespace text)

/-- The characters of texts with spaces between them. -/
theorem mem_intercalate {texts : List Text} {c : Char} (isMember : c ∈ [' '].intercalate texts) :
    c = ' ' ∨ ∃ text ∈ texts, c ∈ text := by
  induction texts with
  | nil =>
    rw [List.intercalate_nil] at isMember
    exact absurd isMember List.not_mem_nil
  | cons text texts ih =>
    cases texts with
    | nil =>
      rw [List.intercalate_singleton] at isMember
      exact .inr ⟨text, List.mem_cons_self, isMember⟩
    | cons next texts =>
      rw [List.intercalate_cons_cons, List.append_assoc] at isMember
      rcases List.mem_append.mp isMember with inText | later
      · exact .inr ⟨text, List.mem_cons_self, inText⟩
      · rcases List.mem_append.mp later with isSpace | inOthers
        · exact .inl (List.mem_singleton.mp isSpace)
        · rcases ih inOthers with isSpace | ⟨other, isOther, inOther⟩
          · exact .inl isSpace
          · exact .inr ⟨other, List.mem_cons_of_mem _ isOther, inOther⟩

/-- `str::split_once` at a character. -/
def splitOnce (separator : Char) (text : Text) : Option (Text × Text) :=
  if separator ∈ text then
    some (text.takeWhile (· ≠ separator), (text.dropWhile (· ≠ separator)).drop 1)
  else none

theorem splitOnce_append {separator : Char} {left right : Text} (notIn : separator ∉ left) :
    splitOnce separator (left ++ separator :: right) = some (left, right) := by
  have inLeft : ∀ c ∈ left, decide (c ≠ separator) = true := by
    intro c isMember
    exact decide_eq_true fun same => notIn (same ▸ isMember)
  rw [splitOnce, if_pos (List.mem_append_right _ List.mem_cons_self),
    List.takeWhile_append_of_pos inLeft, List.dropWhile_append_of_pos inLeft]
  simp

theorem splitOnce_eq_some {separator : Char} {text left right : Text}
    (isSplit : splitOnce separator text = some (left, right)) :
    text = left ++ separator :: right ∧ separator ∉ left := by
  rw [splitOnce] at isSplit
  split at isSplit
  next isMember =>
    obtain ⟨before, after, rfl, notBefore⟩ := List.eq_append_cons_of_mem isMember
    have taken := @splitOnce_append separator before after notBefore
    rw [splitOnce, if_pos isMember, isSplit] at taken
    cases taken
    exact ⟨rfl, notBefore⟩
  next => cases isSplit

/-- A line without the carriage return that ends it. -/
def withoutReturn (line : Text) : Text :=
  if line.getLast? = some '\r' then line.dropLast else line

/-- `str::lines`. -/
def lines (text : Text) : List Text :=
  let parts := text.splitOn '\n'
  (parts.dropLast.map withoutReturn) ++ (parts.drop (parts.length - 1)).filter (!·.isEmpty)

theorem digit_range {c : Char} (isDigit : c.isDigit = true) :
    0x30 ≤ c.toNat ∧ c.toNat ≤ 0x39 := by
  delta Char.isDigit at isDigit
  simp only [ge_iff_le, Bool.and_eq_true, decide_eq_true_eq, UInt32.le_iff_toNat_le] at isDigit
  exact isDigit

theorem toLower_of_isDigit {c : Char} (isDigit : c.isDigit = true) : c.toLower = c := by
  have inRange := digit_range isDigit
  delta Char.toLower
  rw [dif_neg]
  rintro ⟨isUpper, -⟩
  have low : 0x41 ≤ c.toNat := UInt32.le_iff_toNat_le.mp isUpper
  omega

theorem isWhitespace_of_isDigit {c : Char} (isDigit : c.isDigit = true) :
    isWhitespace c = false := by
  have inRange := digit_range isDigit
  simp only [isWhitespace, Bool.or_eq_false_iff, Bool.and_eq_false_iff, decide_eq_false_iff_not,
    beq_eq_false_iff_ne]
  omega

theorem not_mem_toDigits {c : Char} (notDigit : c.isDigit = false) (number : Nat) :
    c ∉ Nat.toDigits 10 number := by
  intro isMember
  rw [Nat.isDigit_of_mem_toDigits (by decide) le_rfl isMember] at notDigit
  cases notDigit

/-- The value of decimal digits, when it has any and fits in 64 bits. -/
def parseDigits (digits : Text) : Option Nat :=
  if digits = [] || !digits.all Char.isDigit then none
  else
    let value := digits.foldl (fun total digit => total * 10 + (digit.toNat - 48)) 0
    if value < 2 ^ 64 then some value else none

/-- `str::parse::<u64>`. -/
def parseU64 (text : Text) : Option Nat :=
  match text with
  | '+' :: digits => parseDigits digits
  | _ => parseDigits text

theorem digits_of_parseDigits {digits : Text} {value : Nat}
    (isParsed : parseDigits digits = some value) : ∀ c ∈ digits, c.isDigit = true := by
  rw [parseDigits] at isParsed
  split at isParsed
  next => cases isParsed
  next readable =>
    rw [Bool.or_eq_true, not_or, Bool.not_eq_true', Bool.not_eq_false] at readable
    exact List.all_eq_true.mp readable.2

/-- A number is written with digits, after a plus sign or none. -/
theorem digits_of_parseU64 {text : Text} {value : Nat} (isParsed : parseU64 text = some value) :
    ∀ c ∈ text, c = '+' ∨ c.isDigit = true := by
  rw [parseU64.eq_def] at isParsed
  intro c isMember
  split at isParsed
  next digits =>
    cases List.mem_cons.mp isMember with
    | inl isPlus => exact .inl isPlus
    | inr isDigit => exact .inr (digits_of_parseDigits isParsed c isDigit)
  next => exact .inr (digits_of_parseDigits isParsed c isMember)

theorem foldl_toDigits (value : Nat) :
    (Nat.toDigits 10 value).foldl (fun total digit => total * 10 + (digit.toNat - 48)) 0 =
      value := by
  have step : (fun (total : Nat) (digit : Char) => total * 10 + (digit.toNat - 48)) =
      fun total digit => 10 * total + (digit.toNat - '0'.toNat) := by
    funext total digit
    rw [Nat.mul_comm]
    rfl
  rw [step, ← Nat.ofDigitChars_eq_foldl]
  exact Nat.ofDigitChars_ten_toDigits

theorem parseDigits_toDigits {value : Nat} (fits : value < 2 ^ 64) :
    parseDigits (Nat.toDigits 10 value) = some value := by
  have allDigits : (Nat.toDigits 10 value).all Char.isDigit = true := by
    rw [List.all_eq_true]
    intro digit isDigit
    exact Nat.isDigit_of_mem_toDigits (by decide) le_rfl isDigit
  have readable : ¬(Nat.toDigits 10 value = [] || !(Nat.toDigits 10 value).all Char.isDigit) =
      true := by
    rw [allDigits]
    simp [Nat.toDigits_ne_nil]
  rw [parseDigits, if_neg readable, foldl_toDigits, if_pos fits]

/-- A number is read from its digits. -/
theorem parseU64_toDigits {value : Nat} (fits : value < 2 ^ 64) :
    parseU64 (Nat.toDigits 10 value) = some value := by
  rw [← parseDigits_toDigits fits]
  cases isDigits : Nat.toDigits 10 value with
  | nil => exact absurd isDigits Nat.toDigits_ne_nil
  | cons first rest =>
    have isDigit : first.isDigit = true := by
      have isMember : first ∈ Nat.toDigits 10 value := isDigits ▸ List.mem_cons_self
      exact Nat.isDigit_of_mem_toDigits (by decide) le_rfl isMember
    have notPlus : first ≠ '+' := by
      rintro rfl
      exact absurd isDigit (by decide)
    rw [parseU64]
    intro digits same
    exact notPlus (List.cons.inj same).1

end MailSwiftSync.Imap
