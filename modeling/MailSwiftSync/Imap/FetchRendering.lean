import MailSwiftSync.Foundation.Words
import MailSwiftSync.Imap.FetchItems
import MailSwiftSync.Imap.ListParser

/-!
# Rendered FETCH records

How a server writes the metadata of a message: the items in some order, the header as a literal.
A flag that is not the last of its list reads like the name of an item; it shadows an item of that
name which is written after the flags.
-/

namespace MailSwiftSync.Imap

open Foundation

/-! ## Atoms and dates -/

/-- The characters of an atom. -/
def IsAtomChar (c : Char) : Prop := isAsciiGraphic c = true ∧ c ∉ "()\x7b%*\"\\]".toList

def IsAtom (text : Text) : Prop := text ≠ [] ∧ ∀ c ∈ text, IsAtomChar c

/-- A keyword, or a flag that begins with a backslash. -/
def IsFlag (flag : Text) : Prop := IsAtom flag ∨ ∃ name, flag = '\\' :: name ∧ IsAtom name

/-- Two digits of a number below a hundred. -/
def twoDigits (number : Nat) : Text := [Nat.digitChar (number / 10), Nat.digitChar (number % 10)]

def monthNames : List Text :=
  ["Jan", "Feb", "Mar", "Apr", "May", "Jun", "Jul", "Aug", "Sep", "Oct", "Nov", "Dec"].map
    String.toList

/-- An internal date; months count from zero. -/
structure InternalDate where
  day : Nat
  month : Fin 12
  year : Nat
  hour : Nat
  minute : Nat
  second : Nat
  west : Bool
  zone : Nat
  dayFits : 1 ≤ day ∧ day ≤ 31
  yearFits : year < 10000
  timeFits : hour < 24 ∧ minute < 60 ∧ second ≤ 60
  zoneFits : zone < 10000

namespace InternalDate

variable (date : InternalDate)

/-- The day in two places, the month and the year. -/
def dayText : Text :=
  (if date.day < 10 then [' ', Nat.digitChar date.day] else twoDigits date.day) ++
    '-' :: monthNames.getD date.month [] ++
    '-' :: (twoDigits (date.year / 100) ++ twoDigits (date.year % 100))

def timeText : Text :=
  twoDigits date.hour ++ ':' :: twoDigits date.minute ++ ':' :: twoDigits date.second

def zoneText : Text :=
  (if date.west then '-' else '+') :: (twoDigits (date.zone / 100) ++ twoDigits (date.zone % 100))

def text : Text := date.dayText ++ ' ' :: (date.timeText ++ ' ' :: date.zoneText)

end InternalDate

/-! ## Messages and their records -/

inductive FetchItem where
  | uid
  | size
  | internalDate
  | flags
  | header
deriving DecidableEq, Repr

/-- The items of a record. -/
def allItems : List FetchItem := [.uid, .size, .internalDate, .flags, .header]

/-- What a server knows of a message, and how it writes the record. -/
structure FetchedMessage where
  sequence : Nat
  uid : Nat
  size : Nat
  internalDate : InternalDate
  flags : List Text
  header : Bytes
  order : List FetchItem

namespace FetchedMessage

/-- The values are legal, and the record has each item once. -/
structure IsLegal (message : FetchedMessage) : Prop where
  sequenceFits : message.sequence < 2 ^ 64
  uidPositive : 0 < message.uid
  uidFits : message.uid ≤ maxImapUid
  sizeFits : message.size < 2 ^ 64
  areFlags : ∀ flag ∈ message.flags, IsFlag flag
  headerFits : message.header.length < 2 ^ 64
  isOrder : message.order.Perm allItems

variable (message : FetchedMessage)

/-- The text of an item; that of the header ends with the length of its literal. -/
def itemText : FetchItem → Text
  | .uid => "UID ".toList ++ Nat.toDigits 10 message.uid
  | .size => "RFC822.SIZE ".toList ++ Nat.toDigits 10 message.size
  | .internalDate => "INTERNALDATE \"".toList ++ (message.internalDate.text ++ ['"'])
  | .flags => "FLAGS (".toList ++ ([' '].intercalate message.flags ++ [')'])
  | .header =>
    "BODY[HEADER.FIELDS (MESSAGE-ID FROM TO CC SUBJECT DATE CONTENT-TYPE)] \x7b".toList ++
      (Nat.toDigits 10 message.header.length ++ ['\x7d'])

end FetchedMessage

/-- The bytes of ASCII text. -/
def asciiBytes (text : Text) : Bytes := text.map fun c => UInt8.ofNat c.toNat

namespace FetchedMessage

variable (message : FetchedMessage)

/-- The bytes of an item. -/
def itemBytes (item : FetchItem) : Bytes :=
  asciiBytes (message.itemText item) ++
    if item = .header then 0x0D :: 0x0A :: message.header else []

/-- The record of a message. -/
def record : Bytes :=
  asciiBytes ("* ".toList ++ (Nat.toDigits 10 message.sequence ++ " FETCH (".toList)) ++
    ([0x20].intercalate (message.order.map message.itemBytes) ++
      asciiBytes [')'] ++ [0x0D, 0x0A])

/-- The key of the message in a mailbox. -/
def key (mailbox : String) (uidvalidity : Option Nat) : MailboxMessageKey :=
  ⟨mailbox, uidvalidity, toString message.uid⟩

end FetchedMessage

/-! ## Shadows -/

/-- The flag after the first flag that is a given name in some case. -/
def flagAfter (name : Text) : List Text → Option Text
  | flag :: next :: flags =>
    if eqIgnoreAsciiCase flag name = true then some next else flagAfter name (next :: flags)
  | _ => none

/-- The name of an item that is looked for. -/
def FetchItem.name : FetchItem → Text
  | .uid => "UID".toList
  | .size => "RFC822.SIZE".toList
  | .internalDate => "INTERNALDATE".toList
  | .flags => "FLAGS".toList
  | .header => "BODY[HEADER.FIELDS".toList

/-- The flag that stands where the value of an item is expected, when the flags are written before
the item. -/
def FetchedMessage.shadow (message : FetchedMessage) (item : FetchItem) : Option Text :=
  if .flags ∈ message.order.takeWhile (· ≠ item) then flagAfter item.name message.flags else none

/-- The number that a text begins with. -/
def leadingNumber (text : Text) : Option Nat := parseDigits (text.takeWhile Char.isDigit)

/-- What is found of a message: its UID, its size, its date and its flags. -/
abbrev FetchReading := Option Nat × Option Nat × Option Text × String

namespace FetchedMessage

variable (message : FetchedMessage)

/-- The message as it is. -/
def reading : FetchReading :=
  (some message.uid, some message.size, some message.internalDate.text,
    canonicalFlagSet message.flags)

/-- The message with the shadows of its flags. -/
def shadowedReading : FetchReading :=
  ((message.shadow .uid).elim (some message.uid) leadingNumber,
    (message.shadow .size).elim (some message.size) leadingNumber,
    (message.shadow .internalDate).elim (some message.internalDate.text) fun _ => none,
    canonicalFlagSet message.flags)

end FetchedMessage

end MailSwiftSync.Imap
