import Mathlib.Algebra.GroupWithZero.Nat
import MailSwiftSync.Imap.ListParser
import MailSwiftSync.Imap.LiteralFraming

/-!
# The LIST reader

Reads a LIST response as it arrives, without keeping the whole of it.  Deadlines and cancellation
are left to the stream.
-/

namespace MailSwiftSync.Imap

def maxImapListLineBytes : Nat := 64 * 1024

def maxImapListLiteralBytes : Nat := 1024 * 1024

def maxImapListMailboxes : Nat := 100000

def maxImapListInventoryBytes : Nat := 32 * 1024 * 1024

structure MailboxDescriptor where
  wireName : String
  delimiter : Option String
  specialUse : List String
  selectable : Bool
deriving DecidableEq, Repr

structure ListInventorySummary where
  mailboxCount : Nat := 0
  specialUseMailboxes : Nat := 0
  selectableMailboxCount : Nat := 0
deriving DecidableEq, Repr

/-- What has been read of an inventory: its counts, the mailboxes when they are wanted, and an
estimate of their size. -/
structure ListInventory where
  summary : ListInventorySummary := {}
  details : Option (List MailboxDescriptor)
  inventoryBytes : Nat := 0
deriving DecidableEq, Repr

/-- What the reader keeps between bytes. -/
structure ListReader where
  line : Bytes := []
  literalRemaining : Nat := 0
  literalHeader : Option Text := none
  literalValue : Bytes := []
  literalIsMailbox : Bool := false
  mailboxLiteralSeen : Bool := false
  ignoredLiteralBytes : Nat := 0
  inventory : ListInventory
deriving DecidableEq, Repr

/-- Where reading stands after some bytes. -/
inductive ListProgress where
  | reading (reader : ListReader)
  | finished (inventory : ListInventory)
deriving DecidableEq, Repr

/-! ## Lines -/

/-- `str::as_bytes`. -/
def textBytes (text : Text) : Bytes := (String.ofList text).toUTF8.data.toList

/-- The text of a line without the line ending. -/
def lineText (line : Bytes) : Text :=
  ((fromUtf8Lossy line).reverse.dropWhile fun c => c = '\r' || c = '\n').reverse

def listLiteralSize (text : Text) : Option Nat := literalLength (textBytes text)

/-- The text before the literal header that ends a text. -/
def literalPrefix (text : Text) : Option Text :=
  (literalHeader (textBytes text)).map fun header =>
    fromUtf8Lossy ((textBytes text).take header.start)

def isListResponseBytes (line : Bytes) : Bool :=
  decide (7 ≤ line.length) && line.take 2 == [0x2A, 0x20] &&
    bytesEqIgnoreAsciiCase ((line.drop 2).take 4) [0x4C, 0x49, 0x53, 0x54] &&
    (line)[6]? == some 0x20

/-! ## Entries -/

/-- The name a LIST record gives a mailbox, or an error. -/
def entryName (line : Text) : (literalName : Option Bytes) → Except String Text
  | some bytes =>
    match fromUtf8 bytes with
    | none => .error "IMAP LIST mailbox literal was not valid UTF-8"
    | some name =>
      if bytes.any (fun byte => byte.toNat < 0x20 || byte.toNat = 0x7F) then
        .error "IMAP LIST mailbox literal contained a control octet"
      else .ok name
  | none =>
    match mailboxName line with
    | none => .error "IMAP LIST mailbox name was missing or malformed"
    | some name => .ok name

/-- The mailbox of a LIST record under a name. -/
def descriptorOf (line : Text) (name : Text) : MailboxDescriptor where
  wireName := String.ofList name
  delimiter := (listDelimiter line).map String.ofList
  specialUse := listSpecialUse line
  selectable := !listHasAttribute line "\\NOSELECT"

def MailboxDescriptor.bytes (descriptor : MailboxDescriptor) : Nat :=
  descriptor.wireName.utf8ByteSize + (descriptor.delimiter.elim 0 String.utf8ByteSize) +
    (descriptor.specialUse.map String.utf8ByteSize).sum + 256

def recordListEntry (line : Text) (literalName : Option Bytes) (inventory : ListInventory) :
    Except String ListInventory := do
  if !isUntaggedResponse line "LIST" then return inventory
  let name ← entryName line literalName
  if !hasFixedFields line then
    throw "IMAP LIST delimiter or mailbox field was missing or malformed"
  let mailboxCount := saturatingAdd inventory.summary.mailboxCount 1
  if maxImapListMailboxes < mailboxCount then
    throw ("IMAP LIST response exceeded the " ++ toString maxImapListMailboxes ++
      "-mailbox limit")
  let descriptor := descriptorOf line name
  let summary : ListInventorySummary :=
    { mailboxCount
      specialUseMailboxes :=
        if descriptor.specialUse.isEmpty then inventory.summary.specialUseMailboxes
        else saturatingAdd inventory.summary.specialUseMailboxes 1
      selectableMailboxCount :=
        if descriptor.selectable then saturatingAdd inventory.summary.selectableMailboxCount 1
        else inventory.summary.selectableMailboxCount }
  match inventory.details with
  | none => return { inventory with summary }
  | some details =>
    let inventoryBytes := saturatingAdd inventory.inventoryBytes descriptor.bytes
    if maxImapListInventoryBytes < inventoryBytes then
      throw ("IMAP LIST inventory exceeded the " ++ toString maxImapListInventoryBytes ++
        "-byte limit")
    return { summary, details := some (details ++ [descriptor]), inventoryBytes }

/-! ## Reading -/

/-- Room for the payload of an extension literal. -/
def ignoreLiteral (ignored size : Nat) : Except String Nat :=
  if ignored + size ≤ maxImapListInventoryBytes then .ok (ignored + size)
  else .error "IMAP LIST extension literals exceeded the inventory byte limit"

/-- Whether a text may follow a literal: nothing, white space, or the end of extension data. -/
def followsLiteral (mailboxLiteral : Bool) (text : Text) : Bool :=
  let afterClosers := text.dropWhile (· = ')')
  text.isEmpty || text.head?.any isWhitespace ||
    (!mailboxLiteral && text.head? == some ')' &&
      (afterClosers.isEmpty || afterClosers.head?.any isWhitespace))

/-- A line after a literal of a LIST response. -/
def readContinuation (reader : ListReader) (header text : Text) :
    Except String ListProgress := do
  if text.any isAsciiControl then
    throw "IMAP LIST data after literal contained a control octet"
  if !followsLiteral reader.literalIsMailbox text then
    throw (if reader.literalIsMailbox then "malformed data after IMAP LIST mailbox literal"
      else "malformed data after IMAP LIST extension literal")
  match listLiteralSize text with
  | some size =>
    if maxImapListLiteralBytes < size then throw "IMAP LIST literal exceeded 1 MiB"
    let ignoredLiteralBytes ← ignoreLiteral reader.ignoredLiteralBytes size
    return .reading { reader with
      line := []
      literalHeader := some (header ++ text)
      literalIsMailbox := false
      literalRemaining := size
      ignoredLiteralBytes }
  | none =>
    let literalName := if reader.mailboxLiteralSeen then some reader.literalValue else none
    let inventory ← recordListEntry (header ++ text) literalName reader.inventory
    return .reading { reader with
      line := []
      literalHeader := none
      literalValue := []
      literalIsMailbox := false
      mailboxLiteralSeen := false
      inventory }

/-- Record a LIST response that needs no literal. -/
def recordPlain (text : Text) (literalSize : Option Nat) (inventory : ListInventory) :
    Except String ListInventory :=
  if isUntaggedResponse text "LIST" && literalSize.isNone then recordListEntry text none inventory
  else .ok inventory

/-- A line that begins a response. -/
def readResponse (tag : Text) (reader : ListReader) (text : Text) :
    Except String ListProgress := do
  let literalSize := listLiteralSize text
  let inventory ← recordPlain text literalSize reader.inventory
  let reader := { reader with inventory }
  if isTaggedResponse text tag then
    if ((splitWhitespace text)[1]?).any fun status => atomEq status "OK" then
      return .finished inventory
    else
      throw ("IMAP LIST command " ++ String.ofList tag ++ " failed: " ++
        String.ofList ((text.map fun c => if isControl c then ' ' else c).take 512))
  else
    match literalSize with
    | none => return .reading { reader with line := [] }
    | some size =>
      if maxImapListLiteralBytes < size then throw "IMAP LIST literal exceeded 1 MiB"
      if isUntaggedResponse text "LIST" then
        match (literalPrefix text).bind literalIsMailboxName with
        | none => throw "malformed IMAP LIST literal placement"
        | some true =>
          if size = 0 then
            throw "IMAP LIST returned an empty mailbox-name literal; unsupported"
          return .reading { reader with
            line := []
            literalHeader := some text
            literalValue := []
            literalIsMailbox := true
            mailboxLiteralSeen := true
            literalRemaining := size }
        | some false =>
          let ignoredLiteralBytes ← ignoreLiteral reader.ignoredLiteralBytes size
          return .reading { reader with
            line := []
            literalHeader := some text
            literalValue := []
            literalIsMailbox := false
            mailboxLiteralSeen := false
            ignoredLiteralBytes
            literalRemaining := size }
      else return .reading { reader with line := [] }

/-- A complete line. -/
def readLine (tag : Text) (reader : ListReader) : Except String ListProgress := do
  if reader.line.length < 2 || reader.line[reader.line.length - 2]? != some 0x0D then
    throw "IMAP LIST response record did not end with CRLF"
  if (fromUtf8 reader.line).isNone &&
      (reader.literalHeader.isSome || isListResponseBytes reader.line) then
    throw "IMAP LIST response record was not valid UTF-8"
  let text := lineText reader.line
  match reader.literalHeader with
  | some header => readContinuation reader header text
  | none => readResponse tag reader text

/-- A byte outside literals. -/
def readByte (tag : Text) (reader : ListReader) (byte : UInt8) : Except String ListProgress := do
  let reader := { reader with line := reader.line ++ [byte] }
  if maxImapListLineBytes < reader.line.length then
    throw "IMAP LIST response record exceeded 64 KiB"
  if byte ≠ 0x0A then return .reading reader
  else readLine tag reader

/-- The bytes of one read. -/
def readChunk (tag : Text) (reader : ListReader) : Bytes → Except String ListProgress
  | [] => .ok (.reading reader)
  | byte :: rest =>
    if 0 < reader.literalRemaining then
      let consumed := min reader.literalRemaining (byte :: rest).length
      readChunk tag
        { reader with
          literalValue :=
            if reader.literalIsMailbox then
              reader.literalValue ++ (byte :: rest).take consumed
            else reader.literalValue
          literalRemaining := reader.literalRemaining - consumed }
        ((byte :: rest).drop consumed)
    else do
      match ← readByte tag reader byte with
      | .reading reader => readChunk tag reader rest
      | .finished inventory => return .finished inventory
termination_by bytes => bytes.length

/-- Read a LIST response from a stream, given as what each read returns. -/
def readImapListResponse (tag : Text) (reader : ListReader) :
    List Bytes → Except String ListInventory
  | [] => .error ("IMAP connection closed before " ++ String.ofList tag ++ " completed")
  | chunk :: chunks =>
    if chunk = [] then
      .error ("IMAP connection closed before " ++ String.ofList tag ++ " completed")
    else do
      match ← readChunk tag reader chunk with
      | .reading reader => readImapListResponse tag reader chunks
      | .finished inventory => return inventory

end MailSwiftSync.Imap
