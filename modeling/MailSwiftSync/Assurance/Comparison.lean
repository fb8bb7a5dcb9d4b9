import MailSwiftSync.Assurance.Snapshots
import MailSwiftSync.Foundation.Buckets
import MailSwiftSync.Foundation.Grouping

/-!
# Comparing two snapshots

The staged comparison reads grouped counts from the staging table; the comparison in memory
walks over the records of each identity.  Both add up the same numbers.
-/

namespace MailSwiftSync.Assurance

open Foundation
open Control (Json Digest utf8)

def maxDetails : Nat := 1000

/-! ## Reports -/

/-- One identity whose records differ. -/
structure Detail where
  identity : String
  status : String
  missing : Nat
  extra : Nat
  modified : Nat
  sourceSha256 : Option String
  destinationSha256 : Option String
deriving DecidableEq

structure CategoryReport where
  sourceCount : Nat
  destinationCount : Nat
  matched : Nat
  missing : Nat
  extra : Nat
  modified : Nat
  sourceSha256 : String
  destinationSha256 : String
  identityPolicy : String
  details : List Detail
  detailCount : Nat
  detailsTruncated : Bool
  detailsOmitted : Nat
deriving DecidableEq

structure AuditResult where
  verdict : String
  differences : Nat
  categories : List (String × CategoryReport)
deriving DecidableEq

def differenceStatus (missing extra modified : Nat) : String :=
  let dimensions := (if 0 < missing then 1 else 0) + (if 0 < extra then 1 else 0) +
    (if 0 < modified then 1 else 0)
  if 1 < dimensions then "mixed"
  else if 0 < missing then "missing"
  else if 0 < extra then "extra"
  else "modified"

/-- What is known about the records of one identity. -/
structure Group where
  identity : String
  source : Nat
  destination : Nat
  exact : Nat
  sourceSha256 : Option String
  destinationSha256 : Option String
deriving DecidableEq

namespace Group

variable (group : Group)

def modified : Nat := min (group.source - group.exact) (group.destination - group.exact)

def missing : Nat := group.source - group.exact - group.modified

def extra : Nat := group.destination - group.exact - group.modified

def differs : Bool := 0 < group.missing || 0 < group.extra || 0 < group.modified

def detail : Detail where
  identity := group.identity
  status := differenceStatus group.missing group.extra group.modified
  missing := group.missing
  extra := group.extra
  modified := group.modified
  sourceSha256 := group.sourceSha256
  destinationSha256 := group.destinationSha256

end Group

/-- The running totals of a category. -/
structure Tally where
  details : List Detail := []
  differences : Nat := 0
  matched : Nat := 0
  missing : Nat := 0
  extra : Nat := 0
  modified : Nat := 0
  detailGroups : Nat := 0

def Tally.add (tally : Tally) (group : Group) : Tally where
  details := if group.differs && tally.details.length < maxDetails then
    tally.details ++ [group.detail] else tally.details
  differences := tally.differences + (group.missing + group.extra + group.modified)
  matched := tally.matched + group.exact
  missing := tally.missing + group.missing
  extra := tally.extra + group.extra
  modified := tally.modified + group.modified
  detailGroups := if group.differs then tally.detailGroups + 1 else tally.detailGroups

/-- The report of a category, and how many differences it has. -/
def categoryReport (category : String) (sourceCount destinationCount : Nat)
    (sourceSha256 destinationSha256 : String) (groups : List Group) : CategoryReport × Nat :=
  let tally := groups.foldl Tally.add {}
  let detailCount := tally.details.length
  let detailsOmitted := tally.detailGroups - detailCount
  ({ sourceCount, destinationCount
     matched := tally.matched
     missing := tally.missing
     extra := tally.extra
     modified := tally.modified
     sourceSha256, destinationSha256
     identityPolicy := identityPolicy category
     details := tally.details
     detailCount
     detailsTruncated := 0 < detailsOmitted
     detailsOmitted }, tally.differences)

/-- The result over the reports of all categories. -/
def auditResult (reports : List (String × CategoryReport × Nat)) : AuditResult :=
  let differences := (reports.map fun report => report.2.2).sum
  { verdict := if differences = 0 then "pass" else "fail"
    differences
    categories := reports.map fun report => (report.1, report.2.1) }

section

variable (libraries : Libraries)

/-! ## From the staging table -/

variable (rows : List Record)

/-- `WHERE side=… AND category=…`. -/
def ofCategory (side : Side) (category : String) : List Record :=
  rows.filter fun row => row.side = side && row.category = category

/-- `… AND identity=…`. -/
def ofIdentity (side : Side) (category identity : String) : List Record :=
  (ofCategory rows side category).filter (·.identity = identity)

def Record.payloadKey (row : Record) : Digest × String := (row.payloadHash, row.payload)

def Record.groupKey (row : Record) : String × Digest × String := (row.identity, row.payloadKey)

def arrayText (payloads : List String) : String := "[" ++ ",".intercalate payloads ++ "]"

def stagedDigest (side : Side) (category : String) : String :=
  hexDigest libraries (arrayText
    ((orderBy (fun row => toLex (row.identity, row.payload)) (ofCategory rows side category)).map
      (·.payload)))

/-- The least payload of an identity that one side has more often. -/
def stagedUnmatchedRepresentative (side otherSide : Side) (category identity : String) :
    Option String :=
  let other := countBy Record.payloadKey (ofIdentity rows otherSide category identity)
  let own := leftJoin (fun row group => group.1 = row.payloadKey)
    (ofIdentity rows side category identity) other
  let groups := (countBy (fun pair => (pair.1.payloadKey, pair.2.map Prod.snd)) own).filter
    fun group => group.1.2.getD 0 < group.2
  (orderBy (fun group => group.1.1.2) groups).head?.map fun group => group.1.1.2

/-- Identities with their counts on both sides and the count of common payloads. -/
def stagedGroups (category : String) : List (String × Nat × Nat × Nat) :=
  let source := ofCategory rows .source category
  let destination := ofCategory rows .destination category
  let sourceGroups := countBy Record.identity source
  let destinationGroups := countBy Record.identity destination
  let identities := (sourceGroups.map Prod.fst ++ destinationGroups.map Prod.fst).dedup
  let exactGroups := sumBy (fun pair => pair.1.1.1) (fun pair => min pair.1.2 pair.2.2)
    (innerJoin (fun own other => other.1 = own.1) (countBy Record.groupKey source)
      (countBy Record.groupKey destination))
  let joined := leftJoin (fun row group => group.1 = row.1.1)
    (leftJoin (fun row group => group.1 = row.1)
      (leftJoin (fun identity group => group.1 = identity) identities sourceGroups)
      destinationGroups) exactGroups
  (orderBy (fun row => row.1.1.1) joined).map fun row =>
    (row.1.1.1, (row.1.1.2.map Prod.snd).getD 0, (row.1.2.map Prod.snd).getD 0,
      (row.2.map Prod.snd).getD 0)

def compareStagedCategory (category : String) : CategoryReport × Nat :=
  categoryReport category (ofCategory rows .source category).length
    (ofCategory rows .destination category).length
    (stagedDigest libraries rows .source category)
    (stagedDigest libraries rows .destination category)
    ((stagedGroups rows category).map fun (identity, source, destination, exact) =>
      { identity, source, destination, exact
        sourceSha256 := (stagedUnmatchedRepresentative rows .source .destination category
          identity).map (hexDigest libraries)
        destinationSha256 := (stagedUnmatchedRepresentative rows .destination .source category
          identity).map (hexDigest libraries) })

def compareStaged (categories : Finset String) : AuditResult :=
  auditResult ((categories.sort (· ≤ ·)).map fun category =>
    (category, compareStagedCategory libraries rows category))

/-! ## In memory -/

/-- The identity of a record that was staged. -/
def identityOf (category : String) (item : Json) : String :=
  (identity libraries category item).toOption.getD ""

/-- The identities of both sides in order. -/
def identitiesOf (category : String) (source destination : List Json) : List String :=
  ((source ++ destination).map (identityOf libraries category)).toFinset.sort (· ≤ ·)

def canonicalItems (category : String) : Json → Except String (List Json)
  | .array items => .ok (orderBy (fun item =>
    toLex ((identity libraries category item).toOption.getD "", libraries.text item)) items)
  | _ => .error "Each snapshot category must be a JSON array."

def grouped (category : String) (items : List Json) : Except String (Buckets String Json) := do
  let groups ← items.foldlM (fun (groups : Buckets String Json) item => do
    let key ← identity libraries category item
    return groups.push key item) ∅
  return groups.mapQueues (orderBy libraries.text)

/-- How often each text occurs. -/
abbrev Counts : Type := AList fun _ : String => Nat

def Counts.of (counts : Counts) (text : String) : Nat := (counts.lookup text).getD 0

def Counts.add (counts : Counts) (item : Json) : Counts :=
  counts.insert (libraries.text item) (counts.of (libraries.text item) + 1)

/-- The walk over the source records of an identity. -/
structure Walk where
  rightCounts : Counts
  exact : Nat := 0
  sourceValue : Option Json := none

def Walk.step (walk : Walk) (item : Json) : Walk :=
  let key := libraries.text item
  if 0 < walk.rightCounts.of key then
    { walk with
      rightCounts := walk.rightCounts.insert key (walk.rightCounts.of key - 1)
      exact := walk.exact + 1 }
  else { walk with sourceValue := walk.sourceValue <|> some item }

/-- The comparison of the records of an identity. -/
def compareGroup (identity : String) (left right : List Json) : Group :=
  let walk := left.foldl (Walk.step libraries)
    { rightCounts := right.foldl (Counts.add libraries) ∅ }
  let destinationValue := right.find? fun item => 0 < walk.rightCounts.of (libraries.text item)
  { identity
    source := left.length
    destination := right.length
    exact := walk.exact
    sourceSha256 := walk.sourceValue.map fun item => hexDigest libraries (libraries.text item)
    destinationSha256 := destinationValue.map fun item =>
      hexDigest libraries (libraries.text item) }

def compareCategory (category : String) (source destination : Json) :
    Except String (CategoryReport × Nat) := do
  let source ← canonicalItems libraries category source
  let destination ← canonicalItems libraries category destination
  let sourceGroups ← grouped libraries category source
  let destinationGroups ← grouped libraries category destination
  let identities := (sourceGroups.keys ++ destinationGroups.keys).toFinset.sort (· ≤ ·)
  return categoryReport category source.length destination.length
    (hexDigest libraries (libraries.text (.array source)))
    (hexDigest libraries (libraries.text (.array destination)))
    (identities.map fun identity => compareGroup libraries identity
      (sourceGroups.get identity) (destinationGroups.get identity))

def compare : Json → Json → Except String AuditResult
  | .object source, .object destination => do
      let categories := ((source ++ destination).map Prod.fst).toFinset.filter
        fun category => !isReserved category
      let reports ← (categories.sort (· ≤ ·)).mapM fun category => do
        let report ← (compareCategory libraries category
          ((source.lookup category).getD (.array []))
          ((destination.lookup category).getD (.array []))).mapError fun error =>
            "category '" ++ category ++ "': " ++ error
        return (category, report)
      return auditResult reports
  | .object _, _ => .error "Destination snapshot must be a JSON object."
  | _, _ => .error "Source snapshot must be a JSON object."

end

end MailSwiftSync.Assurance
