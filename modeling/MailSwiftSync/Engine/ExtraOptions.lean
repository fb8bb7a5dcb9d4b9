import MailSwiftSync.Engine.ShellWords

/-!
# Extra options

The tuning options of a profile are an allowlist.  Their text is parsed once, and the engine is
started with the options that were generated from it.
-/

namespace MailSwiftSync

open Imap ShellState

def maxExtraOptionsBytes : Nat := 64 * 1024

def maxExtraOptionTokens : Nat := 128

inductive OptionType where
  | boolean
  | integer (min max : Nat)
deriving DecidableEq, Repr

structure OptionSpec where
  name : Text
  kind : OptionType
deriving DecidableEq, Repr

def optionSpecs : List OptionSpec :=
  [ { name := "nofoldersizes".toList, kind := .boolean },
    { name := "skipcrossduplicates".toList, kind := .boolean },
    { name := "subscribe".toList, kind := .boolean },
    { name := "maxlinelength".toList, kind := .integer 1 (16 * 1024 * 1024) },
    { name := "timeout".toList, kind := .integer 1 86400 },
    { name := "reconnectretry1".toList, kind := .integer 0 100 },
    { name := "reconnectretry2".toList, kind := .integer 0 100 },
    { name := "errorsmax".toList, kind := .integer 0 100000 },
    { name := "maxsleep".toList, kind := .integer 0 86400 },
    { name := "sleep".toList, kind := .integer 0 86400 } ]

/-- How the engine is given an option. -/
def OptionSpec.switch (spec : OptionSpec) : Text := ['-', '-'] ++ spec.name

/-- The length of a text in UTF-8. -/
def byteLength : Text → Nat
  | [] => 0
  | character :: rest => character.utf8Size + byteLength rest

/-! ## Canonical options -/

/-- The name of an option, and its value when it has one. -/
def splitOption (option : Text) : Text × Option Text :=
  match splitOnce '=' option with
  | some (name, value) => (name, some value)
  | none => (option, none)

/-- The allowed option that a word begins with. -/
def findSpec (option : Text) : Except String OptionSpec :=
  let name := (splitOption option).1
  if !(['-', '-'].isPrefixOf name) || ['-', '-', '-'].isPrefixOf name then
    .error ("Extra options: " ++ String.ofList name ++
      " must use the canonical --option spelling")
  else
    match optionSpecs.find? fun spec => spec.name == name.drop 2 with
    | none => .error ("Extra options: " ++ String.ofList name ++
        " is not in the safe imapsync option allowlist; use the typed migration controls for " ++
        "settings controlled by the plan")
    | some spec =>
      if option.any isControl then
        .error "Extra options cannot contain control characters."
      else .ok spec

/-- The number that an option has as its value. -/
def parseOptionValue (name : Text) (min max : Nat) (value : Text) : Except String Nat :=
  match parseU64 value with
  | none => .error ("Extra options: " ++ String.ofList name ++ " requires an integer between " ++
      toString min ++ " and " ++ toString max ++ ".")
  | some parsed =>
    if min ≤ parsed && parsed ≤ max then .ok parsed
    else .error ("Extra options: " ++ String.ofList name ++ " must be between " ++
      toString min ++ " and " ++ toString max ++ ".")

/-- The options that are left, added to the canonical ones. -/
def canonicalOptions : List Text → List Text → Except String (List Text)
  | [], canonical => .ok canonical
  | option :: rest, canonical =>
    let name := (splitOption option).1
    match findSpec option with
    | .error message => .error message
    | .ok spec =>
      match spec.kind, (splitOption option).2 with
      | .boolean, some _ =>
        .error ("Extra options: " ++ String.ofList name ++ " does not accept a value.")
      | .boolean, none => canonicalOptions rest (canonical ++ [spec.switch])
      | .integer min max, some value =>
        match parseOptionValue name min max value with
        | .error message => .error message
        | .ok parsed =>
          canonicalOptions rest (canonical ++ [spec.switch, Nat.toDigits 10 parsed])
      | .integer min max, none =>
        match rest with
        | [] => .error ("Extra options: " ++ String.ofList name ++ " requires a value.")
        | value :: rest =>
          if ['-'].isPrefixOf value || value.isEmpty then
            .error ("Extra options: " ++ String.ofList name ++
              " requires a non-option value.")
          else
            match parseOptionValue name min max value with
            | .error message => .error message
            | .ok parsed =>
              canonicalOptions rest (canonical ++ [spec.switch, Nat.toDigits 10 parsed])

/-- The words that the engine is given for the text of a profile. -/
def canonicalExtraOptions (extraOptions : Text) : Except String (List Text) :=
  if maxExtraOptionsBytes < byteLength extraOptions then
    .error ("Extra options exceed the " ++ toString maxExtraOptionsBytes ++ "-byte limit")
  else
    match parseShellWords extraOptions with
    | .error error => .error ("Extra options: " ++ error)
    | .ok options =>
      if maxExtraOptionTokens < options.length then
        .error ("Extra options contain more than " ++ toString maxExtraOptionTokens ++ " tokens")
      else
        match canonicalOptions options [] with
        | .error message => .error message
        | .ok canonical =>
          if maxExtraOptionTokens < canonical.length then
            .error ("Extra options expand to more than " ++ toString maxExtraOptionTokens ++
              " engine arguments")
          else .ok canonical

/-! ## Tuned arguments -/

/-- Switches, and options each followed by a number in its range. -/
inductive IsTuned : List Text → Prop
  | nil : IsTuned []
  | boolean {spec : OptionSpec} {rest : List Text} (allowed : spec ∈ optionSpecs)
      (isBoolean : spec.kind = .boolean) (later : IsTuned rest) : IsTuned (spec.switch :: rest)
  | integer {spec : OptionSpec} {min max number : Nat} {rest : List Text}
      (allowed : spec ∈ optionSpecs) (isInteger : spec.kind = .integer min max)
      (low : min ≤ number) (high : number ≤ max) (later : IsTuned rest) :
      IsTuned (spec.switch :: Nat.toDigits 10 number :: rest)

theorem findSpec_mem {option : Text} {spec : OptionSpec} (found : findSpec option = .ok spec) :
    spec ∈ optionSpecs := by
  rw [findSpec] at found
  split at found
  · cases found
  · split at found
    · cases found
    · next isFound =>
        split at found
        · cases found
        · cases found
          exact List.mem_of_find?_eq_some isFound

theorem parseOptionValue_eq_ok {name value : Text} {min max parsed : Nat}
    (isParsed : parseOptionValue name min max value = .ok parsed) :
    min ≤ parsed ∧ parsed ≤ max := by
  rw [parseOptionValue] at isParsed
  split at isParsed
  · cases isParsed
  · split at isParsed
    next number isNumber inRange =>
      cases isParsed
      rwa [Bool.and_eq_true, decide_eq_true_eq, decide_eq_true_eq] at inRange
    next => cases isParsed

/-- The options that are added are tuned arguments. -/
theorem canonicalOptions_tuned {options canonical argv : List Text}
    (isCanonical : canonicalOptions options canonical = .ok argv) :
    ∃ added, IsTuned added ∧ argv = canonical ++ added := by
  fun_induction canonicalOptions options canonical with
  | case1 =>
    cases isCanonical
    exact ⟨[], .nil, (List.append_nil _).symm⟩
  | case2 => cases isCanonical
  | case3 => cases isCanonical
  | case4 option rest canonical spec found noValue isBoolean ih =>
    obtain ⟨added, isTuned, rfl⟩ := ih isCanonical
    exact ⟨_, .boolean (findSpec_mem found) isBoolean isTuned, List.append_assoc _ _ _⟩
  | case5 => cases isCanonical
  | case6 option rest canonical name spec found min max value inline isInteger parsed isParsed ih =>
    obtain ⟨added, isTuned, rfl⟩ := ih isCanonical
    obtain ⟨low, high⟩ := parseOptionValue_eq_ok isParsed
    exact ⟨_, .integer (findSpec_mem found) isInteger low high isTuned,
      List.append_assoc _ _ _⟩
  | case7 => cases isCanonical
  | case8 => cases isCanonical
  | case9 => cases isCanonical
  | case10 option canonical name spec found min max noValue isInteger value rest isValue parsed
      isParsed ih =>
    obtain ⟨added, isTuned, rfl⟩ := ih isCanonical
    obtain ⟨low, high⟩ := parseOptionValue_eq_ok isParsed
    exact ⟨_, .integer (findSpec_mem found) isInteger low high isTuned,
      List.append_assoc _ _ _⟩

/-! ## Reading tuned arguments again -/

theorem findSpec_switch : ∀ spec ∈ optionSpecs,
    findSpec spec.switch = .ok spec ∧ splitOption spec.switch = (spec.switch, none) := by
  decide +kernel

theorem switch_plain : ∀ spec ∈ optionSpecs,
    spec.switch ≠ [] ∧ spec.switch.length ≤ 21 ∧ spec.switch.all (IsPlain ·) = true := by
  decide +kernel

/-- The greatest number that an option takes. -/
def OptionType.max : OptionType → Nat
  | .boolean => 0
  | .integer _ max => max

theorem optionSpecs_max : ∀ spec ∈ optionSpecs, spec.kind.max < 10 ^ 8 := by decide +kernel

section Tuned

variable {spec : OptionSpec} {min max number : Nat}

theorem number_lt (allowed : spec ∈ optionSpecs) (isInteger : spec.kind = .integer min max)
    (high : number ≤ max) : number < 10 ^ 8 := by
  have bounded := optionSpecs_max spec allowed
  rw [isInteger] at bounded
  exact lt_of_le_of_lt high bounded

theorem parseOptionValue_toDigits (name : Text) (fits : number < 10 ^ 8) (low : min ≤ number)
    (high : number ≤ max) :
    parseOptionValue name min max (Nat.toDigits 10 number) = .ok number := by
  rw [parseOptionValue, parseU64_toDigits (lt_trans fits (by decide))]
  exact if_pos (by rw [decide_eq_true low, decide_eq_true high]; rfl)

theorem isPlain_of_isDigit {character : Char} (isDigit : character.isDigit = true) :
    IsPlain character := by
  refine ⟨isWhitespace_of_isDigit isDigit, fun isSpecial => ?_⟩
  have isEither : character = '\\' ∨ character = '\'' ∨ character = '"' := by
    simpa only [List.mem_cons, List.not_mem_nil, or_false] using isSpecial
  rcases isEither with rfl | rfl | rfl <;> exact absurd isDigit (by decide)

/-- A number is not taken for an option. -/
theorem toDigits_value (number : Nat) :
    (['-'].isPrefixOf (Nat.toDigits 10 number) || (Nat.toDigits 10 number).isEmpty) = false := by
  cases isDigits : Nat.toDigits 10 number with
  | nil => exact absurd isDigits Nat.toDigits_ne_nil
  | cons first rest =>
    have isDigit : first.isDigit = true := by
      have isMember : first ∈ Nat.toDigits 10 number := isDigits ▸ List.mem_cons_self
      exact Nat.isDigit_of_mem_toDigits (by decide) le_rfl isMember
    have notDash : ('-' == first) = false := by
      rw [beq_eq_false_iff_ne]
      rintro rfl
      exact absurd isDigit (by decide)
    rw [List.isPrefixOf_cons_cons, notDash]
    rfl

end Tuned

theorem canonicalOptions_of_isTuned {argv : List Text} (isTuned : IsTuned argv)
    (canonical : List Text) : canonicalOptions argv canonical = .ok (canonical ++ argv) := by
  induction isTuned generalizing canonical with
  | nil => rw [canonicalOptions, List.append_nil]
  | @boolean spec rest allowed isBoolean later ih =>
    obtain ⟨found, split⟩ := findSpec_switch spec allowed
    rw [canonicalOptions, found, split]
    dsimp only
    rw [isBoolean]
    dsimp only
    rw [ih, List.append_assoc, List.singleton_append]
  | @integer spec min max number rest allowed isInteger low high later ih =>
    obtain ⟨found, split⟩ := findSpec_switch spec allowed
    rw [canonicalOptions, found, split]
    dsimp only
    rw [isInteger]
    dsimp only
    rw [toDigits_value, if_neg Bool.false_ne_true,
      parseOptionValue_toDigits _ (number_lt allowed isInteger high) low high]
    dsimp only
    rw [ih, List.append_assoc]
    rfl

/-- Tuned arguments are short words without quotes. -/
theorem IsTuned.words {argv : List Text} (isTuned : IsTuned argv) :
    ∀ word ∈ argv, word.length ≤ 21 ∧ Reads word word := by
  have switchWord : ∀ spec ∈ optionSpecs,
      spec.switch.length ≤ 21 ∧ Reads spec.switch spec.switch := by
    intro spec allowed
    obtain ⟨nonempty, short, plain⟩ := switch_plain spec allowed
    refine ⟨short, reads_plain nonempty fun character isMember => ?_⟩
    exact of_decide_eq_true (List.all_eq_true.mp plain character isMember)
  induction isTuned with
  | nil => exact fun word isWord => absurd isWord List.not_mem_nil
  | boolean allowed isBoolean later ih =>
    exact List.forall_mem_cons.mpr ⟨switchWord _ allowed, ih⟩
  | integer allowed isInteger low high later ih =>
    refine List.forall_mem_cons.mpr
      ⟨switchWord _ allowed, List.forall_mem_cons.mpr ⟨⟨?_, ?_⟩, ih⟩⟩
    · have short := (Nat.length_toDigits_le_iff (by decide) (by decide)).mpr
        (number_lt allowed isInteger high)
      exact le_trans short (by decide)
    · refine reads_plain Nat.toDigits_ne_nil fun character isMember => ?_
      exact isPlain_of_isDigit (Nat.isDigit_of_mem_toDigits (by decide) le_rfl isMember)

theorem byteLength_le (text : Text) : byteLength text ≤ 4 * text.length := by
  induction text with
  | nil => exact Nat.zero_le _
  | cons character text ih =>
    have short : character.utf8Size ≤ 4 := character.utf8Size_le_four
    rw [byteLength, List.length_cons]
    omega

theorem length_intercalate_le {words : List Text} (each : ∀ word ∈ words, word.length ≤ 21) :
    ([' '].intercalate words).length ≤ 22 * words.length := by
  induction words with
  | nil => exact Nat.zero_le _
  | cons word rest ih =>
    obtain ⟨first, later⟩ := List.forall_mem_cons.mp each
    cases rest with
    | nil =>
      rw [List.intercalate_singleton, List.length_singleton]
      exact le_trans first (by decide)
    | cons next rest =>
      have shorter := ih later
      rw [List.intercalate_cons_cons, List.length_append, List.length_append,
        List.length_singleton, List.length_cons]
      omega

theorem canonicalExtraOptions_eq_ok {extraOptions : Text} {argv : List Text}
    (isCanonical : canonicalExtraOptions extraOptions = .ok argv) :
    IsTuned argv ∧ argv.length ≤ maxExtraOptionTokens := by
  rw [canonicalExtraOptions] at isCanonical
  split at isCanonical
  · cases isCanonical
  split at isCanonical
  · cases isCanonical
  split at isCanonical
  · cases isCanonical
  split at isCanonical
  · cases isCanonical
  next canonical isTuned =>
    split at isCanonical
    · cases isCanonical
    next fits =>
      cases isCanonical
      obtain ⟨added, tuned, rfl⟩ := canonicalOptions_tuned isTuned
      exact ⟨tuned, Nat.le_of_not_lt fits⟩

theorem canonicalExtraOptions_join {argv : List Text} (isTuned : IsTuned argv)
    (fits : argv.length ≤ maxExtraOptionTokens) :
    canonicalExtraOptions ([' '].intercalate argv) = .ok argv := by
  have words := isTuned.words
  have isRead : parseShellWords ([' '].intercalate argv) = .ok argv := by
    have identity := @parseShellWords_intercalate id argv fun word isWord => (words word isWord).2
    rwa [List.map_id] at identity
  have short : byteLength ([' '].intercalate argv) ≤ maxExtraOptionsBytes := by
    have bytes := byteLength_le ([' '].intercalate argv)
    have characters := length_intercalate_le fun word isWord => (words word isWord).1
    have tokens : argv.length ≤ 128 := fits
    have limit : maxExtraOptionsBytes = 65536 := rfl
    omega
  rw [canonicalExtraOptions, if_neg (Nat.not_lt.mpr short), isRead]
  dsimp only
  rw [if_neg (Nat.not_lt.mpr fits), canonicalOptions_of_isTuned isTuned, List.nil_append]
  dsimp only
  rw [if_neg (Nat.not_lt.mpr fits)]

/-- Only allowed options get through, and what gets through does so again; quoted words are read
back as they were. -/
theorem extraOptions_closed :
    (∀ extraOptions argv, canonicalExtraOptions extraOptions = .ok argv →
      IsTuned argv ∧ canonicalExtraOptions ([' '].intercalate argv) = .ok argv) ∧
    ∀ words : List Text,
      parseShellWords ([' '].intercalate (words.map shellQuote)) = .ok words := by
  refine ⟨fun extraOptions argv isCanonical => ?_, parseShellWords_shellQuote⟩
  obtain ⟨isTuned, fits⟩ := canonicalExtraOptions_eq_ok isCanonical
  exact ⟨isTuned, canonicalExtraOptions_join isTuned fits⟩

theorem extraOptions_closed_runs :
    canonicalExtraOptions ([' '].intercalate
      ["--timeout".toList, "30".toList, "--subscribe".toList]) =
        .ok ["--timeout".toList, "30".toList, "--subscribe".toList] :=
  (extraOptions_closed.1 "--timeout=+030 '--subscribe'".toList _ (by decide +kernel)).2

end MailSwiftSync
