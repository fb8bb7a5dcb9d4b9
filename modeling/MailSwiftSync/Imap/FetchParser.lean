import MailSwiftSync.Imap.LiteralFraming

/-!
# FETCH responses

The records of a FETCH response, and the metadata or the body fingerprints read from them.
Hashing belongs to an external crate, so it is a parameter.
-/

namespace MailSwiftSync.Imap

/-! ## Items of a record -/

/-- The text after a whole item name: one that starts the items or follows a space or an opening
parenthesis, and is followed by a space. -/
def findItem (field : Text) : (boundary : Bool) → Text → Option Text
  | _, [] => none
  | boundary, c :: rest =>
    let text := c :: rest
    if boundary && eqIgnoreAsciiCase (text.take field.length) field &&
        (text.drop field.length).head? = some ' ' then some (text.drop field.length)
    else findItem field (c = ' ' || c = '(') rest

def fetchNumber (text : Text) (field : String) : Option Nat := do
  let value ← findItem field.toList true text
  parseDigits ((trimStart value).takeWhile Char.isDigit)

def fetchQuoted (text : Text) (field : String) : Option String := do
  let value ← findItem field.toList true text
  match trimStart value with
  | '"' :: quoted =>
    guard ('"' ∈ quoted)
    return String.ofList (quoted.takeWhile (· ≠ '"'))
  | _ => none

/-- The flags with a spelling of their own. -/
def systemFlags : List Text :=
  ["\\Answered", "\\Deleted", "\\Draft", "\\Flagged", "\\Seen"].map String.toList

/-- The canonical form of some flags: system flags in their spelling and others in lower case,
sorted, each once, without the session's own `\Recent`. -/
def canonicalFlagSet (atoms : List Text) : String :=
  let kept := atoms.filter fun atom =>
    !atom.isEmpty && !eqIgnoreAsciiCase atom "\\Recent".toList
  let flags := kept.map fun atom =>
    String.ofList <| (systemFlags.find? fun system => eqIgnoreAsciiCase system atom).getD
      (atom.map Char.toLower)
  " ".intercalate ((sortUnstable flags).destutter (· ≠ ·))

def fetchFlags (text : Text) : Option String := do
  let value ← findItem "FLAGS".toList true text
  match trimStart value with
  | '(' :: list =>
    guard (')' ∈ list)
    return canonicalFlagSet (splitWhitespace (list.takeWhile (· ≠ ')')))
  | _ => none

/-! ## Records -/

def isFetchRecordCandidate (line : Text) : Bool :=
  match splitWhitespace line with
  | star :: _ :: name :: _ => star = ['*'] && eqIgnoreAsciiCase name "FETCH".toList
  | _ => false

def isFetchRecordLine (line : Text) : Bool :=
  match splitWhitespace line with
  | star :: number :: name :: items :: _ =>
    star = ['*'] && (parseU64 number).isSome && eqIgnoreAsciiCase name "FETCH".toList &&
      items.head? = some '('
  | _ => false

/-- An untagged FETCH response, with the text outside its literals. -/
structure FetchRecord where
  frame : ResponseFrame
  protocolText : Text
deriving DecidableEq, Repr

/-- The protocol text of a frame: its parts, separated by spaces. -/
def protocolTextOf (protocol : List Slice) : Text :=
  protocol.foldl (fun text segment =>
    (if !text.isEmpty && !segment.bytes.isEmpty then text ++ [' '] else text) ++
      fromUtf8Lossy segment.bytes) []

/-- The record of a frame, when it is one. -/
def recordOf : Except String ResponseFrame → Option (Except String FetchRecord)
  | .error message => some (.error message)
  | .ok frame => do
      let first := fromUtf8Lossy (← frame.protocol.head?).bytes
      guard (isFetchRecordCandidate first = true)
      return if !isFetchRecordLine first then .error "malformed IMAP FETCH response record"
        else .ok { frame, protocolText := protocolTextOf frame.protocol }

def fetchRecords (response : Bytes) : List (Except String FetchRecord) :=
  (splitResponses response).filterMap recordOf

def maxImapUid : Nat := 2 ^ 32 - 1

def validateImapUid (uid : Nat) (host mailbox : String) : Except String Nat :=
  if uid = 0 || maxImapUid < uid then
    .error (host ++ ": folder " ++ mailbox ++ " returned UID " ++ toString uid ++
      " outside the IMAP 1..=" ++ toString maxImapUid ++ " domain")
  else .ok uid

def parsedFetchUid (protocolText : Text) (mailbox context : String) : Except String Nat :=
  match fetchNumber protocolText "UID" with
  | none => .error (context ++ " record omitted or returned an invalid UID")
  | some uid => validateImapUid uid "IMAP server" mailbox

/-! ## Identities -/

/-- What reading a header for its Message-ID does with a line: nothing is left to read once a
second Message-ID appears. -/
def readMessageId (messageId : Option Text) (line : Text) : Option (Option Text) :=
  if line.head? = some ' ' || line.head? = some '\t' then
    some (messageId.map fun value => value ++ ' ' :: trimText line)
  else
    match splitOnce ':' line with
    | none => some messageId
    | some (name, value) =>
      if eqIgnoreAsciiCase (trimText name) "message-id".toList then
        if messageId.isSome then none else some (some (trimText value))
      else some messageId

def parseMessageIdHeader (body : Text) : Option Text := do
  let messageId ← (lines body).foldlM readMessageId none
  let value := joinFields (← messageId)
  guard (value.head? = some '<' ∧ 2 ≤ value.length ∧ value.getLast? = some '>')
  let inner := (value.drop 1).dropLast
  let (left, right) ← splitOnce '@' inner
  guard (!left.isEmpty && !right.isEmpty &&
    !inner.any fun c => isControl c || isWhitespace c || c = '<' || c = '>')
  return value

/-- The headers a fallback identity is made of. -/
def selectedHeaders : List Text :=
  ["from", "to", "cc", "subject", "date", "message-id", "content-type"].map String.toList

/-- The selected headers read so far, and the one that a folded line continues. -/
structure HeaderValues where
  values : AList fun _ : Text => Text
  current : Option Text

def HeaderValues.readLine (headers : HeaderValues) (line : Text) : HeaderValues :=
  if line.head? = some ' ' || line.head? = some '\t' then
    match headers.current with
    | none => headers
    | some name =>
      match headers.values.lookup name with
      | none => headers
      | some value =>
        { headers with values := headers.values.insert name (value ++ ' ' :: trimText line) }
  else
    match splitOnce ':' line with
    | none => { headers with current := none }
    | some (name, value) =>
      let name := (trimText name).map Char.toLower
      if name ∈ selectedHeaders then
        { values := headers.values.insert name (joinFields value), current := some name }
      else { headers with current := none }

/-- Lower-case hexadecimal digits. -/
def hexEncode (bytes : Bytes) : Text :=
  bytes.flatMap fun byte => [Nat.digitChar (byte.toNat / 16), Nat.digitChar (byte.toNat % 16)]

section Hashing

variable (sha256 : Bytes → Bytes)

/-- A fallback identity from the selected headers. -/
def headerFingerprint (body : Text) : Option String :=
  let headers := (lines body).foldl HeaderValues.readLine ⟨∅, none⟩
  if headers.values.entries.isEmpty then none
  else
    let canonical := ['\n'].intercalate <| selectedHeaders.map fun name =>
      name ++ ':' :: (headers.values.lookup name).getD []
    let digest := sha256 (String.ofList canonical).toUTF8.data.toList
    some (String.ofList ("header-fingerprint:".toList ++ hexEncode digest))

/-- The identity read from the literal of the selected headers. -/
def messageIdentity (frame : ResponseFrame) : Option String :=
  let header := (frame.literalAfter
    "BODY[HEADER.FIELDS (MESSAGE-ID FROM TO CC SUBJECT DATE CONTENT-TYPE)]".toUTF8.data.toList).or
      (frame.literalAfter "BODY[HEADER.FIELDS (MESSAGE-ID)]".toUTF8.data.toList)
  let headerText := header.map fun value => fromUtf8Lossy value.bytes
  let parsedMessageId := (headerText.bind parseMessageIdHeader).filter (!·.isEmpty)
  (parsedMessageId.map String.ofList).or (headerText.bind (headerFingerprint sha256))

/-! ## Parsers -/

/-- The message of a record.  The UID is in its key. -/
def messageOf (record : FetchRecord) : ExtractedMessage where
  messageId := messageIdentity sha256 record.frame
  uid := none
  sizeBytes := fetchNumber record.protocolText "RFC822.SIZE"
  internalDate := fetchQuoted record.protocolText "INTERNALDATE"
  flags := fetchFlags record.protocolText

/-- Add the message of a record. -/
def addMetadata (mailbox : String) (uidvalidity : Option Nat) (messages : ExtractedMessages)
    (record : Except String FetchRecord) : Except String ExtractedMessages := do
  let record ← record
  let uid ← parsedFetchUid record.protocolText mailbox "IMAP FETCH"
  let key : MailboxMessageKey := ⟨mailbox, uidvalidity, toString uid⟩
  if key ∈ messages then .error ("duplicate FETCH UID " ++ key.uid)
  else return messages.insert key (messageOf sha256 record)

def parseMessageFetchMetadataResponse (response : Bytes) (mailbox : String)
    (uidvalidity : Option Nat) : Except String ExtractedMessages :=
  (fetchRecords response).foldlM (addMetadata sha256 mailbox uidvalidity) ∅

/-- Body fingerprints, and how many body octets they cover. -/
structure BodyHashPage where
  fingerprints : AList fun _ : MailboxMessageKey => String
  totalBytes : Nat

/-- The body literal of a frame. -/
def bodyOf (frame : ResponseFrame) : Option Slice :=
  (frame.literalAfter "BODY[]".toUTF8.data.toList).or
    (frame.literalAfter "BODY.PEEK[]".toUTF8.data.toList)

/-- Add the body fingerprint of a record. -/
def addBodyHash (mailbox : String) (uidvalidity : Option Nat) (maxBodyBytes : Nat)
    (page : BodyHashPage) (record : Except String FetchRecord) : Except String BodyHashPage := do
  let record ← record
  let uid ← parsedFetchUid record.protocolText mailbox "IMAP body FETCH"
  match bodyOf record.frame with
  | none => .error ("IMAP body FETCH UID " ++ toString uid ++ " omitted BODY[] literal")
  | some body =>
    if maxBodyBytes < body.bytes.length then
      .error ("[verification_limit=body_hash_message_size] IMAP body FETCH UID " ++
        toString uid ++ " exceeded the " ++ toString maxBodyBytes ++ "-byte body-hash bound")
    else
      let key : MailboxMessageKey := ⟨mailbox, uidvalidity, toString uid⟩
      if key ∈ page.fingerprints then
        .error ("duplicate body FETCH UID " ++ toString uid)
      else
        return {
          fingerprints :=
            page.fingerprints.insert key (String.ofList (hexEncode (sha256 body.bytes)))
          totalBytes := saturatingAdd page.totalBytes body.bytes.length }

def parseMessageFetchBodyHashesResponse (response : Bytes) (mailbox : String)
    (uidvalidity : Option Nat) (maxBodyBytes : Nat) : Except String BodyHashPage :=
  (fetchRecords response).foldlM (addBodyHash sha256 mailbox uidvalidity maxBodyBytes) ⟨∅, 0⟩

end Hashing

end MailSwiftSync.Imap
