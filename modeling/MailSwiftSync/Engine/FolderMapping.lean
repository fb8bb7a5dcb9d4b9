import Mathlib.Data.Finset.Insert
import MailSwiftSync.Foundation.Patterns
import MailSwiftSync.Foundation.Words
import MailSwiftSync.Imap.Text

/-!
# Folder mapping

The folder mapping rules of a profile reach the migration twice: the engine turns them into
arguments of `imapsync`, and the verifier into a map and a set.  What `imapsync` makes of its
arguments is outside of the repository and enters as its documented behaviour: a value of `--f1f2`
is split at the first `=` and applied to the folder of that name, and a folder is left out when a
value of `--exclude` matches its name.
-/

namespace MailSwiftSync

open Foundation Imap

structure FolderMappingRule where
  source : String
  destination : String
  exclude : Bool
deriving DecidableEq, Repr

/-! ## Validation -/

/-- `fold_search_text`, over the lower case of Unicode characters. -/
def foldSearchText (toLowercase : Char → List Char) (value : String) : String :=
  if value.toList.all fun c => c.toNat < 128 then value.map Char.toLower
  else String.ofList ((value.toList.flatMap toLowercase).flatMap fun lower =>
    if lower = 'ß' then ['s', 's'] else if lower = 'ς' then ['σ'] else [lower])

/-- The sources seen so far, and the source of each folded destination. -/
structure SeenRules where
  seenSources : List String := []
  destinationSources : List (String × String) := []
deriving DecidableEq, Repr

/-- The destination of a rule that does not exclude its source. -/
def FolderMappingRule.target (rule : FolderMappingRule) : Option String :=
  if rule.exclude then none else some rule.destination

/-- The checks on one rule. -/
def validateFolderMappingRule (toLowercase : Char → List Char) (seen : SeenRules)
    (rule : FolderMappingRule) : Except String SeenRules :=
  if (trim rule.source).isEmpty || rule.target.any fun value => (trim value).isEmpty then
    .error "Folder mapping source and destination are required."
  else if rule.source.toList.any isControl ||
      rule.target.any fun value => value.toList.any isControl then
    .error "Folder mapping names cannot contain control characters."
  else if !rule.exclude && rule.source.toList.contains '=' then
    .error ("Source folder names cannot contain '=' in typed mappings because imapsync --f1f2 " ++
      "uses it as the source/destination separator.")
  else if seen.seenSources.contains rule.source then
    .error ("Folder mapping source is specified more than once: " ++ rule.source)
  else
    let seen := { seen with seenSources := rule.source :: seen.seenSources }
    match rule.target with
    | none => .ok seen
    | some destination =>
      let collisionKey := foldSearchText toLowercase destination
      match seen.destinationSources.lookup collisionKey with
      | some previousSource =>
        .error ("Folder mapping destination targets collide after case folding: " ++
          previousSource ++ " and " ++ rule.source ++ " both map to " ++ destination ++
          ". Choose distinct destination folders to avoid an unintended merge.")
      | none => .ok { seen with
          destinationSources := (collisionKey, rule.source) :: seen.destinationSources }

def validateFolderMappingRules (toLowercase : Char → List Char)
    (rules : List FolderMappingRule) : Except String Unit :=
  if rules.length > 256 then .error "Folder mapping rules cannot exceed 256 entries."
  else (rules.foldlM (validateFolderMappingRule toLowercase) {}).map fun _ => ()

/-- A mapped source of an accepted rule has no separator. -/
theorem validateFolderMappingRule_source {toLowercase : Char → List Char} {seen next : SeenRules}
    {rule : FolderMappingRule}
    (accepted : validateFolderMappingRule toLowercase seen rule = .ok next) :
    rule.exclude = true ∨ '=' ∉ rule.source.toList := by
  simp only [validateFolderMappingRule] at accepted
  split at accepted
  · cases accepted
  · split at accepted
    · cases accepted
    · split at accepted
      · cases accepted
      · rename_i noSeparator
        simp only [Bool.and_eq_true, Bool.not_eq_true', not_and,
          List.contains_eq_mem, decide_eq_true_eq] at noSeparator
        cases excluded : rule.exclude with
        | true => exact .inl rfl
        | false => exact .inr (noSeparator excluded)

/-- The mapped sources of accepted rules have no separator. -/
theorem validateFolderMappingRules_sources {toLowercase : Char → List Char}
    {rules : List FolderMappingRule}
    (accepted : validateFolderMappingRules toLowercase rules = .ok ()) :
    ∀ rule ∈ rules, rule.exclude = true ∨ '=' ∉ rule.source.toList := by
  have ofFold : ∀ (rules : List FolderMappingRule) (seen last : SeenRules),
      rules.foldlM (validateFolderMappingRule toLowercase) seen = .ok last →
      ∀ rule ∈ rules, rule.exclude = true ∨ '=' ∉ rule.source.toList := by
    intro rules
    induction rules with
    | nil => simp
    | cons rule rules ih =>
      intro seen last isLast
      rw [List.foldlM_cons] at isLast
      cases checked : validateFolderMappingRule toLowercase seen rule with
      | error message =>
        rw [checked] at isLast
        cases isLast
      | ok next =>
        rw [checked] at isLast
        rw [List.forall_mem_cons]
        exact ⟨validateFolderMappingRule_source checked, ih next last isLast⟩
  rw [validateFolderMappingRules] at accepted
  split at accepted
  · cases accepted
  · cases folded : rules.foldlM (validateFolderMappingRule toLowercase) {} with
    | error message =>
      rw [folded] at accepted
      cases accepted
    | ok last => exact ofFold rules _ last folded

/-! ## The arguments of the engine -/

/-- The characters that `regex_escape` puts a backslash before. -/
def escapedCharacters : List Char :=
  ['\\', '.', '^', '$', '*', '+', '?', '(', ')', '[', ']', '\x7b', '\x7d', '|']

def escapeCharacter (c : Char) : List Char :=
  if c ∈ escapedCharacters then ['\\', c] else [c]

def regexEscape (value : String) : String :=
  String.ofList (value.toList.flatMap escapeCharacter)

/-- The arguments for the folder mapping rules of a profile. -/
def folderArguments (rules : List FolderMappingRule) : List String :=
  rules.flatMap fun rule =>
    if rule.exclude then ["--exclude", "^(?:" ++ regexEscape rule.source ++ ")$"]
    else ["--f1f2", rule.source ++ "=" ++ rule.destination]

/-! ## The map of the verifier -/

/-- A `HashMap` of folder names. -/
abbrev FolderMap := AList fun _ : String => String

def applyExplicitFolderMapping (mapping : FolderMap) (excluded : Finset String)
    (rules : List FolderMappingRule) : FolderMap × Finset String :=
  rules.foldl (fun (mapping, excluded) rule =>
    if rule.exclude then (mapping, insert rule.source excluded)
    else (mapping.insert rule.source rule.destination, excluded)) (mapping, excluded)

theorem applyExplicitFolderMapping_excluding (mapping : FolderMap) (excluded : Finset String)
    {rule : FolderMappingRule} (isExcluded : rule.exclude = true)
    (rules : List FolderMappingRule) :
    applyExplicitFolderMapping mapping excluded (rule :: rules) =
      applyExplicitFolderMapping mapping (insert rule.source excluded) rules := by
  rw [applyExplicitFolderMapping, List.foldl_cons, isExcluded]
  rfl

theorem applyExplicitFolderMapping_mapping (mapping : FolderMap) (excluded : Finset String)
    {rule : FolderMappingRule} (isMapped : rule.exclude = false)
    (rules : List FolderMappingRule) :
    applyExplicitFolderMapping mapping excluded (rule :: rules) =
      applyExplicitFolderMapping (mapping.insert rule.source rule.destination) excluded rules := by
  rw [applyExplicitFolderMapping, List.foldl_cons, isMapped]
  rfl

/-- The rules that exclude a folder join the set. -/
theorem mem_applyExplicitFolderMapping (mapping : FolderMap) (excluded : Finset String)
    (rules : List FolderMappingRule) (folder : String) :
    folder ∈ (applyExplicitFolderMapping mapping excluded rules).2 ↔
      folder ∈ excluded ∨ folder ∈ (rules.filter (·.exclude)).map (·.source) := by
  induction rules generalizing mapping excluded with
  | nil => simp [applyExplicitFolderMapping]
  | cons rule rules ih =>
    cases isExcluded : rule.exclude with
    | true =>
      rw [applyExplicitFolderMapping_excluding _ _ isExcluded, ih,
        List.filter_cons_of_pos isExcluded, List.map_cons, List.mem_cons,
        Finset.mem_insert, or_left_comm, or_assoc]
    | false =>
      rw [applyExplicitFolderMapping_mapping _ _ isExcluded, ih,
        List.filter_cons_of_neg (by rw [isExcluded]; exact Bool.false_ne_true)]

/-- The destination that the verifier expects for a folder, unless it is excluded.  Without
automapping the map starts empty; the set starts with the excluded sources. -/
def verifierDestination (rules : List FolderMappingRule) (folder : String) : Option String :=
  let excludedSources := ((rules.filter (·.exclude)).map (·.source)).toFinset
  let (mapping, excluded) := applyExplicitFolderMapping ∅ excludedSources rules
  if folder ∈ excluded then none else some ((mapping.lookup folder).getD folder)

/-! ## The engine -/

/-- What `imapsync` keeps of its folder arguments. -/
structure ImapsyncFolders where
  f1f2 : FolderMap := ∅
  exclude : List Regex := []

namespace ImapsyncFolders

/-- Read the arguments.  An argument that is not a folder argument, a mapping without a
separator and a pattern outside of the modelled language are not read. -/
def readArguments : ImapsyncFolders → List String → Option ImapsyncFolders
  | folders, [] => some folders
  | _, [_] => none
  | folders, option :: value :: arguments =>
    if option = "--exclude" then
      (parsePattern value.toList).bind fun regex =>
        readArguments { folders with exclude := folders.exclude ++ [regex] } arguments
    else if option = "--f1f2" then
      (splitOnce '=' value.toList).bind fun names =>
        readArguments { folders with
          f1f2 := folders.f1f2.insert (String.ofList names.1) (String.ofList names.2) }
          arguments
    else none

/-- The destination of a folder, unless it is left out. -/
def destination (folders : ImapsyncFolders) (folder : String) : Option String :=
  if folders.exclude.any fun regex => regex.found folder.toList then none
  else some ((folders.f1f2.lookup folder).getD folder)

end ImapsyncFolders

/-- The destination of a folder that `imapsync` derives from its arguments. -/
def imapsyncDestination (arguments : List String) (folder : String) : Option (Option String) :=
  (ImapsyncFolders.readArguments {} arguments).map (·.destination folder)

/-! ## The two readings agree -/

theorem escapeCharacter_standsFor (c : Char) : StandsFor (escapeCharacter c) c := by
  have punctuation : ∀ c ∈ escapedCharacters, c.isAlphanum = false :=
    forall_eq_false_of_any (by decide)
  rw [escapeCharacter]
  by_cases isEscaped : c ∈ escapedCharacters
  · rw [if_pos isEscaped]
    exact .inl ⟨rfl, punctuation c isEscaped⟩
  · rw [if_neg isEscaped]
    simp only [escapedCharacters, List.mem_cons, List.not_mem_nil, or_false, not_or] at isEscaped
    refine .inr ⟨rfl, isEscaped.1, ?_, ?_⟩
    · simp [isEscaped]
    · simp [patternToken, isEscaped]

/-- The pattern of an excluded folder matches its name only. -/
theorem parsePattern_regexEscape (source : String) :
    parsePattern ("^(?:" ++ regexEscape source ++ ")$").toList =
      some (Regex.exactly source.toList) := by
  rw [← parsePattern_exactly escapeCharacter_standsFor]
  simp [regexEscape, String.toList_append]

namespace ImapsyncFolders

/-- The engine reads the arguments of a rule as the verifier applies the rule. -/
theorem readArguments_folderArguments {rules : List FolderMappingRule}
    (noSeparator : ∀ rule ∈ rules, rule.exclude = true ∨ '=' ∉ rule.source.toList)
    (folders : ImapsyncFolders) (excluded : Finset String) :
    folders.readArguments (folderArguments rules) = some
      { f1f2 := (applyExplicitFolderMapping folders.f1f2 excluded rules).1
        exclude := folders.exclude ++
          (rules.filter (·.exclude)).map fun rule => Regex.exactly rule.source.toList } := by
  induction rules generalizing folders excluded with
  | nil => simp [readArguments, folderArguments, applyExplicitFolderMapping]
  | cons rule rules ih =>
    rw [List.forall_mem_cons] at noSeparator
    cases isExcluded : rule.exclude with
    | true =>
      have arguments : folderArguments (rule :: rules) =
          "--exclude" :: ("^(?:" ++ regexEscape rule.source ++ ")$") ::
            folderArguments rules := by
        rw [folderArguments, List.flatMap_cons, isExcluded]
        rfl
      rw [arguments, readArguments, if_pos rfl, parsePattern_regexEscape, Option.bind_some,
        ih noSeparator.2 _ (insert rule.source excluded), List.filter_cons_of_pos isExcluded,
        applyExplicitFolderMapping_excluding _ _ isExcluded, List.map_cons,
        List.append_assoc, List.singleton_append]
    | false =>
      have arguments : folderArguments (rule :: rules) =
          "--f1f2" :: (rule.source ++ "=" ++ rule.destination) :: folderArguments rules := by
        rw [folderArguments, List.flatMap_cons, isExcluded]
        rfl
      have noSeparatorInSource : '=' ∉ rule.source.toList := by
        simpa [isExcluded] using noSeparator.1
      have isSplit : splitOnce '=' (rule.source ++ "=" ++ rule.destination).toList =
          some (rule.source.toList, rule.destination.toList) := by
        rw [← splitOnce_append noSeparatorInSource]
        simp [String.toList_append]
      rw [arguments, readArguments, if_neg (by decide), if_pos rfl, isSplit,
        Option.bind_some, String.ofList_toList, String.ofList_toList,
        ih noSeparator.2 _ excluded, applyExplicitFolderMapping_mapping _ _ isExcluded,
        List.filter_cons_of_neg (by rw [isExcluded]; exact Bool.false_ne_true)]

/-- The patterns of excluded folders match a name without control characters exactly when it is
one of theirs. -/
theorem exclude_any_found {folder : String}
    (noControl : ∀ c ∈ folder.toList, isControl c = false) (rules : List FolderMappingRule) :
    ((rules.map fun rule => Regex.exactly rule.source.toList).any fun regex =>
      regex.found folder.toList) = true ↔ folder ∈ rules.map (·.source) := by
  have noFinalLine : folder.toList.getLast? ≠ some '\n' := by
    intro isLast
    have lineFeed := noControl '\n' (List.mem_of_getLast? isLast)
    exact absurd lineFeed (by decide)
  rw [List.any_map, List.any_eq_true, List.mem_map]
  constructor
  · rintro ⟨rule, isRule, isFound⟩
    have same := (Regex.found_exactly noFinalLine).mp isFound
    exact ⟨rule, isRule, (String.toList_inj.mp same).symm⟩
  · rintro ⟨rule, isRule, rfl⟩
    exact ⟨rule, isRule, (Regex.found_exactly noFinalLine).mpr rfl⟩

end ImapsyncFolders

/-- For accepted rules and a folder name without control characters, `imapsync` derives from the
arguments of the engine the destination or exclusion that the verifier expects. -/
theorem engine_maps_as_verifier {toLowercase : Char → List Char} {rules : List FolderMappingRule}
    (accepted : validateFolderMappingRules toLowercase rules = .ok ()) {folder : String}
    (noControl : ∀ c ∈ folder.toList, isControl c = false) :
    imapsyncDestination (folderArguments rules) folder =
      some (verifierDestination rules folder) := by
  let excludedSources := ((rules.filter (·.exclude)).map (·.source)).toFinset
  have read := ImapsyncFolders.readArguments_folderArguments
    (validateFolderMappingRules_sources accepted) {} excludedSources
  have alike : folder ∈ (rules.filter (·.exclude)).map (·.source) ↔
      folder ∈ (applyExplicitFolderMapping ∅ excludedSources rules).2 := by
    rw [mem_applyExplicitFolderMapping, List.mem_toFinset, or_self]
  have excludes := (ImapsyncFolders.exclude_any_found noControl
    (rules.filter (·.exclude))).trans alike
  rw [imapsyncDestination, read, Option.map_some, ImapsyncFolders.destination, List.nil_append]
  exact congrArg some (if_congr excludes rfl rfl)

def punctuatedRules : List FolderMappingRule :=
  [{ source := "Sent", destination := "a=b", exclude := false },
    { source := "Old (2019).*", destination := "", exclude := true }]

theorem punctuatedRules_map_alike :
    validateFolderMappingRules (fun c => [c.toLower]) punctuatedRules = .ok () ∧
      verifierDestination punctuatedRules "Old (2019).*" = none ∧
      verifierDestination punctuatedRules "Sent" = some "a=b" ∧
      imapsyncDestination (folderArguments punctuatedRules) "Old (2019).*" = some none ∧
      imapsyncDestination (folderArguments punctuatedRules) "Sent" = some (some "a=b") := by
  have accepted : validateFolderMappingRules (fun c => [c.toLower]) punctuatedRules = .ok () := by
    decide +kernel
  have isExcluded : verifierDestination punctuatedRules "Old (2019).*" = none := by
    decide +kernel
  have isMapped : verifierDestination punctuatedRules "Sent" = some "a=b" := by
    decide +kernel
  refine ⟨accepted, isExcluded, isMapped, ?_, ?_⟩
  · rw [← isExcluded]
    exact engine_maps_as_verifier accepted (forall_eq_false_of_any (by decide +kernel))
  · rw [← isMapped]
    exact engine_maps_as_verifier accepted (forall_eq_false_of_any (by decide +kernel))

end MailSwiftSync
