import Mathlib.Data.Finset.Sort
import Mathlib.Data.String.Basic
import MailSwiftSync.Control.Authn
import MailSwiftSync.Control.Store

/-!
# Snapshots of a migration

A snapshot is a JSON object of named arrays.  Its records are staged one by one, each with
the identity it has in its category.
-/

namespace MailSwiftSync.Assurance

open Control (Json Digest utf8 splitText)

/-- What the comparison takes from other crates. -/
structure Libraries where
  text : Json → String
  sha256 : List UInt8 → Digest

/-! ## Identities -/

structure IdentitySchema where
  name : String
  fields : List String
deriving DecidableEq

def identitySchema : String → Option IdentitySchema
  | "mailbox" | "mailboxes" => some { name := "account+mailbox", fields := ["account", "mailbox"] }
  | "message" | "messages" => some {
      name := "account+folder+uidvalidity+uid"
      fields := ["account", "folder", "uidvalidity", "uid"] }
  | "dns" => some {
      name := "zone+owner+type+value"
      fields := ["zone", "owner", "type", "value"] }
  | "file" | "files" => some { name := "normalized_path", fields := ["path"] }
  | "database" | "databases" => some {
      name := "server+database+object"
      fields := ["server", "database", "object"] }
  | _ => none

/-- A field of an object that is there and not null. -/
def field (fields : List (String × Json)) (name : String) : Option Json :=
  match fields.lookup name with
  | some .null => none
  | other => other

def heuristicFields : List String :=
  ["id", "key", "email", "address", "path", "message_id", "uid", "name"]

/-- One more component of a path. -/
def pushComponent (rooted : Bool) (normalized : List String) (component : String) :
    List String :=
  if component = "" || component = "." then normalized
  else if component = ".." then
    if normalized.getLast?.any (· ≠ "..") then normalized.dropLast
    else if rooted then normalized
    else normalized ++ [".."]
  else normalized ++ [component]

/-- A path without `.` and, as far as possible, without `..`. -/
def normalizePath (path : String) : String :=
  let rooted := path.toList.head? = some '/'
  let normalized := (splitText '/' path).foldl (pushComponent rooted) []
  ((if rooted then "/" else "") ++ "/".intercalate normalized).map fun c =>
    if c = '\\' then '/' else c

section

variable (libraries : Libraries)

def heuristicIdentity : Json → String
  | .object fields =>
    (heuristicFields.findSome? fun name =>
      (field fields name).map fun value => name ++ ":" ++ libraries.text value).getD
        (libraries.text (.object fields))
  | item => libraries.text item

/-- The value of an identity field. -/
def identityValue (schema : IdentitySchema) (fields : List (String × Json)) (name : String) :
    Except String Json :=
  match field fields name with
  | none => .error ("record is missing required identity field '" ++ name ++ "' (schema " ++
      schema.name ++ ")")
  | some value =>
    if name = "path" then
      match value with
      | .string path => .ok (.string (normalizePath path))
      | _ => .error "file path identity must be a string"
    else .ok value

def typedIdentity (item : Json) (schema : IdentitySchema) : Except String String :=
  match item with
  | .object fields => do
      let values ← schema.fields.mapM (identityValue schema fields)
      return libraries.text (.array values)
  | _ => .error ("records in this category must be JSON objects (identity schema " ++
      schema.name ++ ")")

def identity (category : String) (item : Json) : Except String String :=
  match identitySchema category with
  | some schema => typedIdentity libraries item schema
  | none => .ok (heuristicIdentity libraries item)

def identityPolicy (category : String) : String :=
  if (identitySchema category).isSome then "typed" else "heuristic"

/-- `{:x}` of a digest. -/
def hexDigest (text : String) : String :=
  let digit (value : Nat) : Char := (Nat.toDigits 16 value).headD '0'
  String.ofList ((libraries.sha256 (utf8 text)).toList.flatMap fun byte =>
    [digit (byte.toNat / 16), digit (byte.toNat % 16)])

/-! ## Staging -/

inductive Side where
  | source
  | destination
deriving DecidableEq, Repr

/-- A row of the staging table. -/
structure Record where
  side : Side
  category : String
  identity : String
  payload : String
  payloadHash : Digest
deriving DecidableEq

/-- The members of a snapshot in the order they are read. -/
abbrev Snapshot : Type := List (String × Json)

/-- Members that are not categories. -/
def isReserved (category : String) : Bool :=
  category = "metadata" || category = "format" || category = "format_version"

/-- The row of a record. -/
def stageRecord (side : Side) (category : String) (item : Json) : Except String Record := do
  let identity ← identity libraries category item
  let payload := libraries.text item
  return { side, category, identity, payload, payloadHash := libraries.sha256 (utf8 payload) }

/-- The staging table, and the categories seen so far. -/
structure Staging where
  records : List Record := []
  categories : Finset String := ∅

/-- Read one member. -/
def stageMember (side : Side) (staging : Staging) (member : String × Json) :
    Except String Staging :=
  if isReserved member.1 then .ok staging
  else
    match member.2 with
    | .array items => do
        let records ← items.mapM (stageRecord libraries side member.1)
        return {
          records := staging.records ++ records
          categories := insert member.1 staging.categories }
    | _ => .error "invalid type: expected a JSON array of migration records"

def stageSnapshot (side : Side) (snapshot : Snapshot) (staging : Staging) :
    Except String Staging :=
  snapshot.foldlM (stageMember libraries side) staging

/-- Stage both snapshots. -/
def stageSnapshots (source destination : Snapshot) : Except String Staging := do
  let staging ← stageSnapshot libraries .source source {}
  stageSnapshot libraries .destination destination staging

end

end MailSwiftSync.Assurance
