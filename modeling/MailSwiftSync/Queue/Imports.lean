import MailSwiftSync.Ledger.Presentation
import MailSwiftSync.Queue.Profiles

/-!
# Imported rows

A row of a mailbox file becomes a job: the settings of the base form, and what the row itself
says as a delta to them.
-/

namespace MailSwiftSync.Queue

open Foundation

/-! ## Jobs -/

/-- Immutable settings shared by all rows imported from one batch plan. -/
structure BatchPlanDefaults where
  profile : Profile
  dryRun : Bool
deriving DecidableEq, Repr

/-- A row of a batch; missing optional fields mean what the defaults say. -/
structure BulkJob where
  label : String
  defaults : BatchPlanDefaults
  sourceHost : String
  sourceUser : String
  sourceRateTenant : Option String
  sourceCredentialId : String
  sourcePassword : String
  destinationHost : String
  destinationUser : String
  destinationRateTenant : Option String
  destinationCredentialId : String
  destinationPassword : String
  profileName : Option String
  state : PresentedState
deriving DecidableEq, Repr

/-- A value where it is not the default. -/
def otherThan (fallback value : String) : Option String :=
  if value ≠ fallback then some value else none

namespace BulkJob

def defaultsFromForm (form : Form) : BatchPlanDefaults where
  profile := { form.profile with
    sourceHost := ""
    sourceUser := ""
    sourceCredentialId := ""
    destinationHost := ""
    destinationUser := ""
    destinationCredentialId := "" }
  dryRun := form.dryRun

def fromFormWithDefaults (label : String) (form : Form) (state : PresentedState)
    (defaults : BatchPlanDefaults) : BulkJob where
  label := label
  defaults := defaults
  sourceHost := form.profile.sourceHost
  sourceUser := form.profile.sourceUser
  sourceRateTenant := otherThan defaults.profile.sourceRateTenant form.profile.sourceRateTenant
  sourceCredentialId := form.profile.sourceCredentialId
  sourcePassword := form.sourcePassword
  destinationHost := form.profile.destinationHost
  destinationUser := form.profile.destinationUser
  destinationRateTenant :=
    otherThan defaults.profile.destinationRateTenant form.profile.destinationRateTenant
  destinationCredentialId := form.profile.destinationCredentialId
  destinationPassword := form.destinationPassword
  profileName := otherThan "" form.profile.name
  state := state

def fromForm (label : String) (form : Form) (state : PresentedState) : BulkJob :=
  fromFormWithDefaults label form state (defaultsFromForm form)

/-- The effective profile of a row. -/
def profile (job : BulkJob) : Profile :=
  { job.defaults.profile with
    sourceHost := job.sourceHost
    sourceUser := job.sourceUser
    sourceRateTenant := job.sourceRateTenant.getD job.defaults.profile.sourceRateTenant
    sourceCredentialId := job.sourceCredentialId
    destinationHost := job.destinationHost
    destinationUser := job.destinationUser
    destinationRateTenant :=
      job.destinationRateTenant.getD job.defaults.profile.destinationRateTenant
    destinationCredentialId := job.destinationCredentialId
    name := job.profileName.getD job.defaults.profile.name }

theorem getD_otherThan (fallback value : String) :
    (otherThan fallback value).getD fallback = value := by
  by_cases same : value = fallback
  · rw [otherThan, if_neg (not_not_intro same), same]
    rfl
  · rw [otherThan, if_pos same]
    rfl

/-- A form gives its own profile back. -/
theorem profile_fromForm (label : String) (form : Form) (state : PresentedState) :
    (fromForm label form state).profile = form.profile := by
  simp only [profile, fromForm, fromFormWithDefaults, defaultsFromForm, getD_otherThan]
  have named : (otherThan "" form.profile.name).getD form.profile.name = form.profile.name := by
    rw [otherThan]
    split <;> rfl
  rw [named]

end BulkJob

/-! ## Rows of a file -/

/-- The columns of a row. -/
abbrev ImportRow : Type := List (String × String)

/-- The trimmed value of a column, or nothing. -/
def ImportRow.get (values : ImportRow) (key : String) : String :=
  trim ((values.lookup key).getD "")

/-- The name of the project, cut to 120 characters. -/
def projectName (values : ImportRow) (fallback : String) : String :=
  match values.lookup "project_name" with
  | none => fallback
  | some value =>
    if trim value = "" then fallback else String.ofList ((trim value).toList.take 120)

/-- The form of a row. -/
def importedForm (values : ImportRow) (base : Form)
    (sourcePassword destinationPassword : String) : Form :=
  let form := base.cloneWithoutCredentials
  { form with
    profile := { form.profile with
      sourceHost := values.get "source_host"
      sourceUser := values.get "source_user"
      sourceRateTenant :=
        if (values.lookup "source_rate_tenant").isSome then values.get "source_rate_tenant"
        else form.profile.sourceRateTenant
      sourceCredentialId :=
        ((values.lookup "source_credential_id").map trim).getD form.profile.sourceCredentialId
      destinationHost := values.get "destination_host"
      destinationUser := values.get "destination_user"
      destinationRateTenant :=
        if (values.lookup "destination_rate_tenant").isSome then
          values.get "destination_rate_tenant"
        else form.profile.destinationRateTenant
      destinationCredentialId := ((values.lookup "destination_credential_id").map trim).getD
        form.profile.destinationCredentialId
      name := projectName values form.profile.name }
    sourcePassword
    destinationPassword }

def jobFromValuesWithDefaults (platform : LedgerPlatform) (toLowercase : Char → List Char)
    (values : ImportRow) (base : Form) (row : Nat) (allowPlaintextSecrets : Bool)
    (defaults : BatchPlanDefaults) : Except String BulkJob := do
  let sourcePassword := (values.lookup "source_password").getD ""
  let destinationPassword := (values.lookup "destination_password").getD ""
  let values := values.filter fun entry =>
    entry.1 ≠ "source_password" && entry.1 ≠ "destination_password"
  if !allowPlaintextSecrets &&
      (trim sourcePassword ≠ "" || trim destinationPassword ≠ "") then
    .error ("Plaintext credential values were detected. Use credential IDs instead " ++
      "(source_credential_id, destination_credential_id). To import passwords, set " ++
      "MAILSWIFTSYNC_ALLOW_PLAINTEXT_SECRETS=1 and confirm the warning for this import in the GUI.")
  let form := importedForm values base sourcePassword destinationPassword
  (form.validateForImport platform toLowercase).mapError
    (("Row " ++ toString row ++ ": ") ++ ·)
  let label := ((values.lookup "name").filter fun value => trim value ≠ "").getD
    ("Row " ++ toString row ++ ": " ++ form.profile.sourceUser ++ " → " ++
      form.profile.destinationUser)
  return .fromFormWithDefaults label form .imported defaults

/-- The jobs of the rows of a file, which are numbered from its second line on. -/
def jobsFromRows (platform : LedgerPlatform) (toLowercase : Char → List Char)
    (rows : List ImportRow) (base : Form) (allowPlaintextSecrets : Bool) :
    Except String (List BulkJob) :=
  (rows.zipIdx 2).mapM fun numbered =>
    jobFromValuesWithDefaults platform toLowercase numbered.1 base numbered.2
      allowPlaintextSecrets (BulkJob.defaultsFromForm base)

/-! ## Jobs of one import -/

/-- A job of an import: it differs from the defaults where rows may, and has no empty name. -/
structure Imported (defaults : BatchPlanDefaults) (job : BulkJob) : Prop where
  defaults : job.defaults = defaults
  named : job.profileName ≠ some ""

theorem imported_fromForm (label : String) (form : Form) (state : PresentedState)
    (defaults : BatchPlanDefaults) :
    Imported defaults (.fromFormWithDefaults label form state defaults) where
  defaults := rfl
  named := by
    change otherThan "" form.profile.name ≠ some ""
    rw [otherThan]
    split
    · next named => exact fun same => named (Option.some.inj same)
    · exact nofun

theorem imported_of_values {platform : LedgerPlatform} {toLowercase : Char → List Char}
    {values : ImportRow} {base : Form} {row : Nat} {allowPlaintextSecrets : Bool}
    {defaults : BatchPlanDefaults} {job : BulkJob}
    (accepted : jobFromValuesWithDefaults platform toLowercase values base row
      allowPlaintextSecrets defaults = .ok job) : Imported defaults job := by
  simp only [jobFromValuesWithDefaults] at accepted
  split at accepted
  · cases accepted
  · simp only [bind_eq_ok, pure_eq_ok] at accepted
    obtain ⟨_, _, rfl⟩ := accepted
    exact imported_fromForm _ _ _ _

end MailSwiftSync.Queue
