import MailSwiftSync.Verification.Accounting
import MailSwiftSync.Staged.ContentAgreement
import MailSwiftSync.Staged.Order
import MailSwiftSync.Staged.Verdict
import MailSwiftSync.Ledger.Attention
import MailSwiftSync.Ledger.CaseCollisions
import MailSwiftSync.Ledger.CheckpointCodec
import MailSwiftSync.Ledger.DestinationNames
import MailSwiftSync.Ledger.Exclusion
import MailSwiftSync.Ledger.Holds
import MailSwiftSync.Ledger.Readiness
import MailSwiftSync.Queue.Keyring
import MailSwiftSync.Outbox.Leases
import MailSwiftSync.RateDomains.Crowding
import MailSwiftSync.RateDomains.Throttling
import MailSwiftSync.RateDomains.Cooldowns
import MailSwiftSync.RateDomains.Forgetting
import MailSwiftSync.Scheduler.Conservation
import MailSwiftSync.Scheduler.Fairness
import MailSwiftSync.Control.Operations
import MailSwiftSync.Control.Administrators
import MailSwiftSync.Control.Lockout
import MailSwiftSync.Control.Plans
import MailSwiftSync.Control.Renewal
import MailSwiftSync.Control.Leases
import MailSwiftSync.Assurance.Verdict
import MailSwiftSync.Assurance.FilePaths
import MailSwiftSync.Maintenance.Closing
import MailSwiftSync.Imap.Chunking
import MailSwiftSync.Imap.Forgery
import MailSwiftSync.Imap.ListAgreement
import MailSwiftSync.Imap.ListNames
import MailSwiftSync.Imap.HeaderIdentities
import MailSwiftSync.Imap.UidPages
import MailSwiftSync.Imap.UidDiscovery
import MailSwiftSync.Imap.FetchRoundTrip
import MailSwiftSync.Verification.Copies
import MailSwiftSync.Verification.DovecotStatus
import MailSwiftSync.Verification.DigestPreimages
import MailSwiftSync.Staged.FlagPass
import MailSwiftSync.Scan.Restarts
import MailSwiftSync.OAuth.Rotation
import MailSwiftSync.Engine.FolderMapping
import MailSwiftSync.Engine.ExtraOptions
import MailSwiftSync.BulkImport.Sheets
