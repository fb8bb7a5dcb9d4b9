import MailSwiftSync.Foundation.Metered
import MailSwiftSync.Imap.FetchParser
import MailSwiftSync.Imap.UidPages

/-!
# Selecting a mailbox

The commands that a folder scan sends, and what it reads from the answer to SELECT: how many
messages there are, the identity of the mailbox and, with CONDSTORE, its watermark.
-/

namespace MailSwiftSync.Scan

open Foundation Imap

/-! ## Commands -/

/-- A tag: its letter, and a number with at least three digits. -/
def commandTag (letter : Char) (number : Nat) : Text :=
  let digits := Nat.toDigits 10 number
  letter :: (List.replicate (3 - digits.length) '0' ++ digits)

def imapQuote (value : String) : Except String Text :=
  if value.toList.any Imap.isControl then
    .error "IMAP quoted value cannot contain control characters"
  else .ok ('"' :: (value.toList.flatMap fun c =>
    if c = '\\' then ['\\', '\\'] else if c = '"' then ['\\', '"'] else [c]) ++ ['"'])

def selectCommand (tag quotedMailbox : Text) (condstoreEnabled : Bool) : Text :=
  tag ++ " SELECT ".toList ++ quotedMailbox ++
    (if condstoreEnabled then " (CONDSTORE)".toList else []) ++ "\r\n".toList

/-- The UIDs of a window of sequence numbers. -/
def windowCommand (tag : Text) (sequenceStart sequenceEnd : Nat) : Text :=
  tag ++ " FETCH ".toList ++ Nat.toDigits 10 sequenceStart ++ ':' ::
    (Nat.toDigits 10 sequenceEnd ++ " (UID)\r\n".toList)

/-- The metadata of some UIDs, with flags and bodies where they are wanted. -/
def metadataCommand (tag uidSet : Text) (flags body : Bool) : Text :=
  tag ++ " UID FETCH ".toList ++ uidSet ++ " (UID".toList ++
    (if flags then " FLAGS".toList else []) ++ " RFC822.SIZE INTERNALDATE ".toList ++
    "BODY.PEEK[HEADER.FIELDS (MESSAGE-ID FROM TO CC SUBJECT DATE CONTENT-TYPE)]".toList ++
    (if body then " BODY.PEEK[]".toList else []) ++ ")\r\n".toList

/-! ## Completions -/

/-- The bytes of a text. -/
def textBytes (text : Text) : Bytes := (String.ofList text).toUTF8.data.toList

/-- Whether the tagged completion is OK. -/
def imapCommandSucceeded (response : Bytes) (tag : Text) : Bool :=
  (taggedCompletion response (textBytes tag)).any fun line =>
    ((splitWhitespace (fromUtf8Lossy line.bytes))[1]?).any fun status =>
      eqIgnoreAsciiCase status "OK".toList

def imapCommandFailure (response : Bytes) (tag : Text) (operation host : String) : String :=
  let detail := (taggedCompletion response (textBytes tag)).map fun line =>
    ((fromUtf8Lossy line.bytes).map fun c => if Imap.isControl c then ' ' else c).take 512
  match detail.filter (!·.isEmpty) with
  | some detail => host ++ ": " ++ operation ++ " failed: " ++ String.ofList detail
  | none => host ++ ": " ++ operation ++ " failed"

/-! ## The selected mailbox -/

/-- `trim_matches(['[', ']'])`. -/
def trimBrackets (field : Text) : Text :=
  let isBracket (c : Char) : Bool := c = '[' || c = ']'
  ((field.dropWhile isBracket).reverse.dropWhile isBracket).reverse

/-- The value that follows the first field with a name, when a field follows it. -/
def namedField (name : String) (fields : List Text) : Option (Option Nat) :=
  let isName (field : Text) : Bool := eqIgnoreAsciiCase (trimBrackets field) name.toList
  match fields.dropWhile (!isName ·) with
  | _ :: value :: _ => some (parseU64 (trimBrackets value))
  | _ => none

/-- What was read from the lines of an answer so far. -/
structure SelectedMailbox where
  existsCount : Option Nat := none
  uidvalidity : Option Nat := none
  uidnext : Option Nat := none
deriving DecidableEq, Repr

def SelectedMailbox.readLine (selected : SelectedMailbox) (line : Text) : SelectedMailbox :=
  let fields := splitWhitespace line
  { existsCount :=
      match fields with
      | star :: number :: name :: _ =>
        if star = ['*'] && eqIgnoreAsciiCase name "EXISTS".toList then parseU64 number
        else selected.existsCount
      | _ => selected.existsCount
    uidvalidity := (namedField "UIDVALIDITY" fields).getD selected.uidvalidity
    uidnext := (namedField "UIDNEXT" fields).getD selected.uidnext }

def parseSelectedMailbox (response : Text) (host mailbox : String) :
    Except String (Nat × Option Nat × Option Nat) :=
  let selected := (lines response).foldl SelectedMailbox.readLine {}
  match selected.existsCount with
  | none =>
    .error (host ++ ": SELECT " ++ mailbox ++ " did not return an untagged EXISTS count")
  | some existsCount => .ok (existsCount, selected.uidvalidity, selected.uidnext)

/-! ## The watermark -/

inductive ModseqSnapshot where
  | tracked (modseq : Nat)
  | unsupported
deriving DecidableEq, Repr

def ModseqSnapshot.isTracked : ModseqSnapshot → Bool
  | tracked _ => true
  | unsupported => false

def ModseqSnapshot.watermark : ModseqSnapshot → Option Nat
  | tracked modseq => some modseq
  | unsupported => none

def untaggedOkResponseText (line : Text) : Option Text := do
  let response ← if "* ".toList.isPrefixOf line then some (line.drop 2) else none
  let (status, text) ← Imap.splitOnce ' ' response
  if eqIgnoreAsciiCase status "OK".toList then some text else none

/-- `split_ascii_whitespace`. -/
def splitAsciiWhitespace (text : Text) : List Text :=
  (text.splitOnP fun c => c ∈ [' ', '\t', '\n', '\x0C', '\r']).filter (!·.isEmpty)

/-- The codes read so far. -/
structure ModseqCodes where
  highest : Option Nat := none
  noModseq : Bool := false

section Codes

variable (host mailbox : String)

def selectContext : String := host ++ ": SELECT " ++ mailbox ++ " "

/-- One response code, with its fields. -/
def ModseqCodes.readCode (codes : ModseqCodes) (fields : List Text) :
    Except String ModseqCodes :=
  match fields with
  | [] => .ok codes
  | code :: fields =>
    if eqIgnoreAsciiCase code "HIGHESTMODSEQ".toList then do
      let value ← match (fields.head?.bind parseDigits).filter fun value =>
          0 < value && value < 2 ^ 63 with
        | some value => .ok value
        | none => .error (selectContext host mailbox ++ "returned invalid HIGHESTMODSEQ")
      if 1 < fields.length then
        .error (selectContext host mailbox ++ "returned malformed HIGHESTMODSEQ response code")
      if codes.highest.isSome then
        .error (selectContext host mailbox ++ "returned duplicate HIGHESTMODSEQ codes")
      return { codes with highest := some value }
    else if eqIgnoreAsciiCase code "NOMODSEQ".toList then do
      if !fields.isEmpty then
        .error (selectContext host mailbox ++ "returned malformed NOMODSEQ response code")
      if codes.noModseq then
        .error (selectContext host mailbox ++ "returned duplicate NOMODSEQ codes")
      return { codes with noModseq := true }
    else .ok codes

def ModseqCodes.readLine (codes : ModseqCodes) (line : Text) : Except String ModseqCodes :=
  match untaggedOkResponseText line with
  | some ('[' :: codeText) =>
    match Imap.splitOnce ']' codeText with
    | none =>
      if (splitAsciiWhitespace codeText).head?.any fun code =>
          eqIgnoreAsciiCase code "HIGHESTMODSEQ".toList ||
            eqIgnoreAsciiCase code "NOMODSEQ".toList then
        .error (selectContext host mailbox ++ "returned a malformed MODSEQ response code")
      else .ok codes
    | some (codeText, trailing) =>
      if !trailing.isEmpty && trailing.head? ≠ some ' ' then
        .error (selectContext host mailbox ++
          "returned malformed data after a response code")
      else codes.readCode host mailbox (codeText.splitOn ' ')
  | _ => .ok codes

def parseSelectModseq (response : Text) : Except String ModseqSnapshot := do
  let codes ← (lines response).foldlM (ModseqCodes.readLine host mailbox) {}
  match codes.highest, codes.noModseq with
  | some value, false => return .tracked value
  | none, true => return .unsupported
  | _, _ => .error (selectContext host mailbox ++
      "did not return exactly one HIGHESTMODSEQ or NOMODSEQ response code")

end Codes

/-! ## Permanent flags -/

/-- Where a text first occurs in another. -/
def findText (needle : Text) : Text → Option Nat
  | [] => if needle = [] then some 0 else none
  | c :: rest =>
    if needle.isPrefixOf (c :: rest) then some 0 else (findText needle rest).map (· + 1)

/-- The flags that can be stored, when the server says which. -/
def parsePermanentFlags (response : Text) : Option String :=
  (lines response).findSome? fun line => do
    let opening := "[PERMANENTFLAGS (".toList
    let start ← findText opening (line.map Char.toUpper)
    let list := line.drop (start + opening.length)
    if ')' ∈ list then some (canonicalFlagSet (splitWhitespace (list.takeWhile (· ≠ ')'))))
    else none

end MailSwiftSync.Scan
