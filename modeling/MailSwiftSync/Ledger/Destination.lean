import MailSwiftSync.Ledger.Store

/-!
# Destination identities

Active runs must not write to one destination mailbox at the same time.  The identity
they are compared by comes from the endpoint in a row's plan, or from the mailbox name
when the row has no readable plan of its own.
-/

namespace MailSwiftSync

/-- The text fields of a parsed plan that name its destination. -/
structure PlanFields where
  destinationHost : Option String := none
  destinationUser : Option String := none
  destinationTls : Option String := none
  destinationPort : Option String := none
deriving DecidableEq, Repr

/-- Code outside of the repository: the TOML reader, the address parsers and Unicode
tables of the standard library, IDNA, Base64, CRC32 and SHA-256. -/
structure LedgerPlatform where
  parseToml : String → Option PlanFields
  toLowercase : String → String
  isAlphanumeric : Char → Bool
  parseIpv6 : String → Bool
  parseIpAddr : String → Option String
  idnaHost : String → Option String
  base64Decode : String → Option (List Nat)
  crc32 : List Nat → Nat
  sha256Hex : String → String

/-- A platform for ledgers with ASCII names and without plans, for examples. -/
def LedgerPlatform.ascii : LedgerPlatform where
  parseToml := fun _ => none
  toLowercase := fun text => String.ofList (text.toList.map Char.toLower)
  isAlphanumeric := Char.isAlphanum
  parseIpv6 := fun _ => false
  parseIpAddr := fun _ => none
  idnaHost := fun _ => none
  base64Decode := fun _ => none
  crc32 := fun _ => 0
  sha256Hex := fun text => text

def maxPersistedProfileBytes : Nat := 1024 * 1024

def maxTotalPersistedProfileBytes : Nat := 256 * 1024 * 1024

def maxDurableMailboxRows : Nat := 100000

/-! ## Endpoints -/

/-- `str::parse::<u16>`. -/
def parseU16 (text : String) : Option Nat :=
  let digits := if startsWith text "+" then text.toList.drop 1 else text.toList
  if digits = [] then none
  else if digits.all Char.isDigit then
    let value := digits.foldl (fun total digit => total * 10 + (digit.toNat - 48)) 0
    if value < 2 ^ 16 then some value else none
  else none

namespace LedgerPlatform

variable (platform : LedgerPlatform)

def validateHostName (host : String) : Except String Unit :=
  if host.utf8ByteSize > 253 then
    .error "endpoint host name is longer than 253 characters"
  else if startsWith host "-" || startsWith host "." then
    .error "endpoint host name cannot start with '-' or '.'"
  else if !host.toList.all fun c =>
      platform.isAlphanumeric c || c = '.' || c = '-' || c = '_' then
    .error "endpoint host may contain only letters, digits, '.', '-', and '_'"
  else .ok ()

/-- The one form of a host name every layer uses. -/
def canonicalHostName (host : String) : Except String String := do
  platform.validateHostName host
  if host.toList.all (·.toNat < 128) then return host
  else
    match platform.idnaHost host with
    | none => .error "endpoint host is not a valid internationalized name"
    | some ascii => do
        platform.validateHostName ascii
        return ascii

/-- A port given in the text of an endpoint. -/
def endpointPort (text : String) : Except String Nat :=
  match parseU16 text with
  | none => .error "invalid endpoint port"
  | some 0 => .error "endpoint port must be between 1 and 65535"
  | some port => .ok port

/-- The host and port of a bracketed IPv6 endpoint; the argument follows the bracket. -/
def bracketedParts (rest : List Char) (defaultPort : Nat) : Except String (String × Nat) :=
  if ']' ∉ rest then .error "IPv6 endpoint is missing ]"
  else
    let host := trim (String.ofList (rest.takeWhile (· ≠ ']')))
    let suffix := (rest.dropWhile (· ≠ ']')).drop 1
    if host = "" then .error "IPv6 endpoint has an empty host"
    else if !platform.parseIpv6 host then
      .error "bracketed endpoint is not an IPv6 address"
    else
      match suffix with
      | [] => .ok (host, defaultPort)
      | ':' :: port => do return (host, ← endpointPort (String.ofList port))
      | _ => .error "invalid characters after IPv6 endpoint"

/-- Split an endpoint into host and port. -/
def parts (input : String) (defaultPort : Nat) : Except String (String × Nat) :=
  let input := (trim input).toList
  match input with
  | [] => .error "empty endpoint"
  | '[' :: rest => platform.bracketedParts rest defaultPort
  | _ =>
    let colons := (input.filter (· = ':')).length
    if colons = 1 then
      let host := trim (String.ofList (input.takeWhile (· ≠ ':')))
      if host = "" then .error "endpoint has an empty host"
      else do
        let host ← platform.canonicalHostName host
        let port ← endpointPort (String.ofList ((input.dropWhile (· ≠ ':')).drop 1))
        return (host, port)
    else if colons > 1 then
      if !platform.parseIpv6 (String.ofList input) then .error "invalid IPv6 endpoint"
      else .ok (String.ofList input, defaultPort)
    else do return (← platform.canonicalHostName (String.ofList input), defaultPort)

/-- `trim_end_matches('.').to_ascii_lowercase()`. -/
def dnsName (host : String) : String :=
  String.ofList (((host.toList.reverse.dropWhile (· = '.')).reverse).map Char.toLower)

/-- The host as it is compared: an address in canonical form, a name in lower case. -/
def comparedHost (host : String) : String :=
  (platform.parseIpAddr host).getD (dnsName host)

/-- Recognized endpoints whose account names ignore case. -/
def mailboxCaseInsensitiveForHost (host : String) : Bool :=
  dnsName host = "imap.gmail.com" || dnsName host = "outlook.office365.com"

def destinationIdentity (mailbox host tls configuredPort : String) (forceCasefold : Bool) :
    Except String String := do
  let mailbox := trim mailbox
  if mailbox = "" then .error "destination mailbox is empty"
  let defaultPort := if tls = "starttls" || tls = "plain" then 143 else 993
  let (host, port) ← platform.parts host defaultPort
  let port ←
    if trim configuredPort = "" then .ok port
    else
      match parseU16 (trim configuredPort) with
      | none => .error "destination endpoint port is invalid"
      | some 0 => .error "destination endpoint port must be between 1 and 65535"
      | some port => .ok port
  let host := platform.comparedHost host
  let mailbox :=
    if forceCasefold || mailboxCaseInsensitiveForHost host then platform.toLowercase mailbox
    else mailbox
  return "endpoint:" ++ host ++ ":" ++ toString port ++ ":" ++ mailbox

def canonicalDestinationIdentity (mailbox host tls configuredPort : String) :
    Except String String :=
  platform.destinationIdentity mailbox host tls configuredPort false

def casefoldedDestinationIdentity (mailbox host tls configuredPort : String) :
    Except String String :=
  platform.destinationIdentity mailbox host tls configuredPort true

def mailboxIdentity (mailbox : String) : String :=
  "mailbox:" ++ platform.toLowercase (trim mailbox)

end LedgerPlatform

def effectiveDestinationTls (mode : String) : String :=
  if mode = "starttls" then "starttls" else "imaps"

/-! ## Identities of rows -/

namespace LedgerPlatform

variable (platform : LedgerPlatform)

/-- The trimmed, nonempty value of a plan field. -/
def namedField (value : Option String) : Option String :=
  (value.map trim).filter (· ≠ "")

/-- The plan of a row, when it is small enough and parses. -/
def readablePlan (config : Option String) : Option PlanFields :=
  (config.filter (·.utf8ByteSize ≤ maxPersistedProfileBytes)).bind platform.parseToml

def destinationIdentityFromParts (destinationMailbox user host tls port : String) : String :=
  if trim user ≠ "" ∧ trim host ≠ "" then
    match platform.canonicalDestinationIdentity (trim user) (trim host) tls (trim port) with
    | .ok identity => identity
    | .error _ => platform.mailboxIdentity destinationMailbox
  else platform.mailboxIdentity destinationMailbox

/-- The durable identity of a row's destination. -/
def normalizedDestinationIdentity (destinationMailbox : String) (config : Option String) :
    String :=
  match platform.readablePlan config with
  | none => platform.mailboxIdentity destinationMailbox
  | some plan =>
    match namedField plan.destinationHost, namedField plan.destinationUser with
    | some host, some user =>
      platform.destinationIdentityFromParts destinationMailbox user host
        (plan.destinationTls.getD "imaps") (plan.destinationPort.getD "")
    | _, _ => platform.mailboxIdentity destinationMailbox

/-- The endpoint of a plan, as active runs are compared by it. -/
def lockEndpoint (plan : PlanFields) : Option String :=
  match namedField plan.destinationHost, namedField plan.destinationUser with
  | some host, some user =>
    (platform.casefoldedDestinationIdentity user host
      (effectiveDestinationTls (plan.destinationTls.getD "imaps"))
      ((plan.destinationPort.map trim).getD "")).toOption
  | _, _ => none

/-- Conservative cross-project lock identity. -/
def normalizedDestinationLockIdentity (destinationMailbox : String)
    (config : Option String) : String :=
  ((platform.readablePlan config).bind platform.lockEndpoint).getD
    (platform.mailboxIdentity destinationMailbox)

/-- The lock identity of a mailbox row. -/
def lockIdentity (job : MailboxJob) : String :=
  platform.normalizedDestinationLockIdentity job.destinationMailbox job.config

end LedgerPlatform

end MailSwiftSync
