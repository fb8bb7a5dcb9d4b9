import MailSwiftSync.Control.Audit
import MailSwiftSync.Ledger.State

/-!
# Tokens, identifiers and passwords

Bearer tokens are random bits with a prefix for their kind; only their digests are stored.
Randomness, clock readings, hash functions and JSON texts come from outside.
-/

namespace MailSwiftSync.Control

/-- What an operation gets from outside: the clock, identifiers and tokens at the places where
it asks for them, and a salt. -/
structure Environment where
  now : Nat → Int
  id : Nat → Vector UInt8 12
  token : Nat → Vector UInt8 32
  salt : Vector UInt8 16

instance : Inhabited Environment where
  default := {
    now := fun _ => 0
    id := fun _ => .replicate 12 0
    token := fun _ => .replicate 32 0
    salt := .replicate 16 0 }

/-- Kinds of bearer tokens. -/
inductive TokenKind where
  | session
  | apiKey
  | worker
  | enrollment
deriving DecidableEq, Repr

namespace TokenKind

/-- How tokens of a kind start. -/
def start : TokenKind → String
  | session => "mss_s_"
  | apiKey => "mss_k_"
  | worker => "mss_w_"
  | enrollment => "mss_e_"

/-- The kind a presented token claims to be, from how it starts. -/
def ofToken (token : String) : Option TokenKind :=
  [session, apiKey, worker, enrollment].find? fun kind => startsWith token kind.start

end TokenKind

/-- A JSON value; the fields of an object stand in the order of its map. -/
inductive Json where
  | null
  | bool (value : Bool)
  | number (text : String)
  | string (text : String)
  | array (items : List Json)
  | object (fields : List (String × Json))

/-- What the service takes from other crates. -/
structure Libraries where
  sha256 : List UInt8 → Digest
  argon2 : String → Vector UInt8 16 → Except String String
  verifiesArgon2 : String → String → Bool
  jsonText : Json → String
  jsonOf : String → Except String Json
  debugText : String → String
  base64Url : List UInt8 → String

/-- The Base64 texts of draws of equal bytes 0, 1 or 2, for examples. -/
def base64OfEqual (bytes : List UInt8) : String :=
  let group := match bytes with
    | 1 :: _ => "AQEB"
    | 2 :: _ => "AgIC"
    | _ => "AAAA"
  String.ofList ((List.replicate bytes.length group.toList).flatten.take
    ((bytes.length * 8 + 5) / 6))

def minPasswordChars : Nat := 12

def maxPasswordBytes : Nat := 1024

section

variable (libraries : Libraries)

/-- A short random identifier for rows that are named in URLs and audit entries. -/
def newId (kind : String) (bytes : Vector UInt8 12) : String :=
  kind ++ "_" ++ libraries.base64Url bytes.toList

def newToken (kind : TokenKind) (bytes : Vector UInt8 32) : String :=
  kind.start ++ libraries.base64Url bytes.toList

/-- The stored form of a bearer token. -/
def tokenHash (token : String) : Digest := libraries.sha256 (utf8 token)

def validateNewPassword (password : String) : Except String Unit :=
  if password.length < minPasswordChars then
    .error ("passwords need at least " ++ toString minPasswordChars ++ " characters")
  else if maxPasswordBytes < password.utf8ByteSize then
    .error ("passwords are limited to " ++ toString maxPasswordBytes ++ " bytes")
  else .ok ()

def hashPassword (password : String) (salt : Vector UInt8 16) : Except String String := do
  validateNewPassword password
  (libraries.argon2 password salt).mapError ("could not hash the password: " ++ ·)

/-- Whether a password matches the stored one; oversized input is refused. -/
def verifyPassword (password stored : String) : Bool :=
  password.utf8ByteSize ≤ maxPasswordBytes && libraries.verifiesArgon2 password stored

end

end MailSwiftSync.Control
