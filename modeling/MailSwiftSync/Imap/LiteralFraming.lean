import MailSwiftSync.Imap.Text

/-!
# Literal framing

An IMAP line may end in a literal header `{N}`, and the next `N` bytes are then payload.
The scanner for the tagged completion and the splitter of responses skip payloads by length.
-/

namespace MailSwiftSync.Imap

/-! ## Literal headers -/

/-- Offset of a header within its line, the octets it announces, and whether it is a literal8. -/
structure LiteralHeader where
  start : Nat
  length : Nat
  binary : Bool
deriving DecidableEq, Repr

/-- Decimal value of ASCII digits. -/
def digitsValue (digits : Bytes) : Nat :=
  digits.foldl (fun total digit => total * 10 + (digit.toNat - 48)) 0

/-- The header that ends a line: `{N}`, `{N+}` or a literal8. -/
def literalHeader (line : Bytes) : Option LiteralHeader := do
  guard (line.getLast? = some 0x7D)
  let body := line.dropLast
  guard (0x7B ∈ body)
  let count := (body.reverse.takeWhile (· ≠ 0x7B)).reverse
  let opened := body.length - count.length - 1
  let digits := if count.getLast? = some 0x2B then count.dropLast else count
  guard (digits ≠ [] ∧ digits.all isAsciiDigit = true)
  guard (digitsValue digits < 2 ^ 64)
  let binary := 0 < opened && (line)[opened - 1]? = some 0x7E
  return { start := if binary then opened - 1 else opened, length := digitsValue digits, binary }

/-- The octet count of the literal header that ends a line. -/
def literalLength (line : Bytes) : Option Nat := (literalHeader line).map (·.length)

/-! ## The tagged completion, incrementally -/

/-- Offsets and literal state of the scanner. -/
structure TaggedResponseScanner where
  tag : Bytes
  cursor : Nat
  lineStart : Nat
  literalRemaining : Nat
deriving DecidableEq, Repr

namespace TaggedResponseScanner

def new (tag : Bytes) : TaggedResponseScanner :=
  { tag, cursor := 0, lineStart := 0, literalRemaining := 0 }

/-- A line that begins with the tag and white space. -/
def completes (tag line : Bytes) : Bool :=
  tag.isPrefixOf line && ((line)[tag.length]?).any isAsciiWhitespace

/-- Scan a response as far as it has come. -/
def scan (scanner : TaggedResponseScanner) (response : Bytes) : Bool × TaggedResponseScanner :=
  if inside : scanner.cursor < response.length then
    if pending : 0 < scanner.literalRemaining then
      let consumed := min scanner.literalRemaining (response.length - scanner.cursor)
      let cursor := scanner.cursor + consumed
      let literalRemaining := scanner.literalRemaining - consumed
      scan { scanner with
        cursor
        literalRemaining
        lineStart := if literalRemaining = 0 then cursor else scanner.lineStart } response
    else if response[scanner.cursor] ≠ 0x0D then
      scan { scanner with cursor := scanner.cursor + 1 } response
    else
      match response[scanner.cursor + 1]? with
      | none => (false, scanner)
      | some next =>
        if next ≠ 0x0A then scan { scanner with cursor := scanner.cursor + 1 } response
        else
          let line := (response.take scanner.cursor).drop scanner.lineStart
          if completes scanner.tag line then (true, scanner)
          else
            scan { scanner with
              cursor := scanner.cursor + 2
              lineStart := scanner.cursor + 2
              literalRemaining := (literalLength line).getD 0 } response
  else (false, scanner)
termination_by response.length - scanner.cursor

/-- Scan a response each time another number of its bytes has been read. -/
def feed (scanner : TaggedResponseScanner) (response : Bytes) :
    Nat → List Nat → Bool × TaggedResponseScanner
  | _, [] => (false, scanner)
  | read, size :: sizes =>
    let (found, next) := scanner.scan (response.take (read + size))
    if found then (true, next) else feed next response (read + size) sizes

end TaggedResponseScanner

/-! ## Frames -/

/-- A part of a response, with where it begins. -/
structure Slice where
  offset : Nat
  bytes : Bytes
deriving DecidableEq, Repr

/-- One complete response: its protocol text, and the payloads between its parts. -/
structure ResponseFrame where
  protocol : List Slice
  literals : List Slice
deriving DecidableEq, Repr

/-- A segment that ends in an item, as a whole name in any case, and a literal header. -/
def announcesItem (item segment : Bytes) : Bool :=
  (literalHeader segment).any fun header =>
    let lead := segment.take header.start
    let before := lead.dropLast
    let itemStart := before.length - item.length
    let boundary := itemStart = 0 || before[itemStart - 1]? = some 0x20 ||
      before[itemStart - 1]? = some 0x28
    lead.getLast? = some 0x20 && decide (item.length ≤ before.length) && boundary &&
      bytesEqIgnoreAsciiCase (before.drop itemStart) item

/-- The payload of the first literal that directly follows an item. -/
def ResponseFrame.literalAfter (frame : ResponseFrame) (item : Bytes) : Option Slice :=
  ((frame.protocol.zip frame.literals).find? fun (segment, _) =>
    announcesItem item segment.bytes).map Prod.snd

/-- Where the first CRLF begins. -/
def lineEnd : Bytes → Option Nat
  | first :: second :: rest =>
    if first = 0x0D ∧ second = 0x0A then some 0
    else (lineEnd (second :: rest)).map (· + 1)
  | _ => none

theorem lineEnd_le {bytes : Bytes} {index : Nat} (ends : lineEnd bytes = some index) :
    index + 2 ≤ bytes.length := by
  fun_induction lineEnd bytes generalizing index with
  | case1 first second rest here =>
    obtain rfl := Option.some.inj ends
    simp
  | case2 first second rest notHere ih =>
    rw [Option.map_eq_some_iff] at ends
    obtain ⟨later, isLater, rfl⟩ := ends
    have bound := ih isLater
    simp only [List.length_cons] at bound ⊢
    omega
  | case3 bytes short => cases ends

/-- The items of the splitter: the complete responses from an offset on, the first of them with
the parts already taken.  An error is the last item. -/
def framesFrom (offset : Nat) (frame : ResponseFrame) (rest : Bytes) :
    List (Except String ResponseFrame) :=
  match _ends : lineEnd rest with
  | none =>
    if frame.literals.isEmpty then []
    else [.error "IMAP response ended before the line following a literal"]
  | some index =>
    let line := rest.take index
    let framed := { frame with protocol := frame.protocol ++ [⟨offset, line⟩] }
    let start := offset + index + 2
    let after := rest.drop (index + 2)
    match literalHeader line with
    | none => .ok framed :: framesFrom start ⟨[], []⟩ after
    | some header =>
      if header.binary then
        [.error "IMAP literal8 (~\x7bN\x7d) responses are not supported"]
      else if after.length < header.length then
        [.error ("IMAP literal declared " ++ toString header.length ++
          " bytes but the response ended first")]
      else
        framesFrom (start + header.length)
          { framed with literals := framed.literals ++ [⟨start, after.take header.length⟩] }
          (after.drop header.length)
termination_by rest.length
decreasing_by
  · have bound := lineEnd_le _ends
    rw [List.length_drop]
    omega
  · have bound := lineEnd_le _ends
    rw [List.length_drop, List.length_drop]
    omega

def splitResponses (response : Bytes) : List (Except String ResponseFrame) :=
  framesFrom 0 ⟨[], []⟩ response

/-- The completion among some frames. -/
def completionIn (tag : Bytes) : List (Except String ResponseFrame) → Option Slice
  | [] => none
  | .error _ :: _ => none
  | .ok frame :: frames =>
    match frame.protocol with
    | [line] =>
      if tag.isPrefixOf line.bytes && line.bytes[tag.length]? = some 0x20 then some line
      else completionIn tag frames
    | _ => completionIn tag frames

/-- The tagged completion line of a response. -/
def taggedCompletion (response tag : Bytes) : Option Slice :=
  completionIn tag (splitResponses response)

end MailSwiftSync.Imap
