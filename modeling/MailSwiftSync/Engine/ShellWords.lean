import MailSwiftSync.Imap.Text

/-!
# Shell words

Options and commands are written as words in the manner of a POSIX shell: between single quotes
everything is literal, and elsewhere a backslash takes the next character as it is.
-/

namespace MailSwiftSync

open Imap

/-! ## Reading words -/

structure ShellState where
  words : List Text := []
  current : Text := []
  quote : Option Char := none
  escaped : Bool := false
  inToken : Bool := false
deriving DecidableEq, Repr

namespace ShellState

/-- What a character does when it is neither escaped nor escapes. -/
def accept (state : ShellState) (character : Char) : ShellState :=
  match state.quote with
  | some active =>
    if character = active then { state with quote := none }
    else { state with current := state.current ++ [character] }
  | none =>
    if character = '\'' || character = '"' then { state with quote := some character }
    else if isWhitespace character then
      if state.inToken then
        { state with words := state.words ++ [state.current], current := [], inToken := false }
      else state
    else { state with current := state.current ++ [character] }

def step (state : ShellState) (character : Char) : ShellState :=
  if state.escaped then
    { state with current := state.current ++ [character], escaped := false, inToken := true }
  else if character = '\\' && state.quote != some '\'' then
    { state with escaped := true, inToken := true }
  else
    let next := state.accept character
    if !isWhitespace character || next.quote.isSome then { next with inToken := true } else next

/-- The words at the end of the input. -/
def finish (state : ShellState) : Except String (List Text) :=
  if state.escaped then .error "unfinished escape"
  else if state.quote.isSome then .error "unterminated quote"
  else if state.inToken then .ok (state.words ++ [state.current])
  else .ok state.words

end ShellState

def parseShellWords (input : Text) : Except String (List Text) :=
  (input.foldl ShellState.step {}).finish

/-! ## Writing words -/

/-- A single quote is written outside of the quotes, after a backslash. -/
def replaceQuote (character : Char) : Text :=
  if character = '\'' then ['\'', '\\', '\'', '\''] else [character]

def shellQuote (value : Text) : Text := '\'' :: value.flatMap replaceQuote ++ ['\'']

/-- A character that stands for itself. -/
def IsPlain (character : Char) : Prop :=
  isWhitespace character = false ∧ character ∉ ['\\', '\'', '"']

instance (character : Char) : Decidable (IsPlain character) :=
  inferInstanceAs (Decidable (_ ∧ _))

namespace ShellState

/-! ## States between the characters -/

section States

variable (words : List Text) (current : Text)

/-- Between two words. -/
def between : ShellState := { words := words }

/-- In a word, outside of quotes. -/
def inWord : ShellState := { words := words, current := current, inToken := true }

/-- In a word, between single quotes. -/
def inQuotes : ShellState :=
  { words := words, current := current, quote := some '\'', inToken := true }

@[simp] theorem step_open : (between words).step '\'' = inQuotes words [] := rfl

@[simp] theorem step_close : (inQuotes words current).step '\'' = inWord words current := rfl

@[simp] theorem step_space : (inWord words current).step ' ' = between (words ++ [current]) := rfl

@[simp] theorem finish_inWord : (inWord words current).finish = .ok (words ++ [current]) := rfl

@[simp] theorem foldl_quote :
    ['\'', '\\', '\'', '\''].foldl step (inQuotes words current) =
      inQuotes words (current ++ ['\'']) := rfl

variable {words current}

theorem step_inQuotes {character : Char} (notQuote : character ≠ '\'') :
    (inQuotes words current).step character = inQuotes words (current ++ [character]) := by
  have accepted : (inQuotes words current).accept character =
      inQuotes words (current ++ [character]) := if_neg notQuote
  have literal : (inQuotes words current).quote = some '\'' := rfl
  rw [step, if_neg (by simp [inQuotes]), if_neg (by simp [literal]), accepted]
  exact if_pos (by simp [inQuotes])

theorem step_inWord {character : Char} (isPlain : IsPlain character) :
    (inWord words current).step character = inWord words (current ++ [character]) := by
  obtain ⟨notBlank, notSpecial⟩ := isPlain
  simp only [List.mem_cons, List.not_mem_nil, or_false, not_or] at notSpecial
  simp [step, accept, inWord, notBlank, notSpecial]

theorem step_between {character : Char} (isPlain : IsPlain character) :
    (between words).step character = inWord words [character] := by
  obtain ⟨notBlank, notSpecial⟩ := isPlain
  simp only [List.mem_cons, List.not_mem_nil, or_false, not_or] at notSpecial
  simp [step, accept, inWord, between, notBlank, notSpecial]

/-- The characters of a value between quotes. -/
theorem foldl_inQuotes (value : Text) :
    (value.flatMap replaceQuote).foldl step (inQuotes words current) =
      inQuotes words (current ++ value) := by
  induction value generalizing current with
  | nil => rw [List.append_nil]; rfl
  | cons character value ih =>
    rw [List.flatMap_cons, List.foldl_append, replaceQuote]
    split
    next isQuote => rw [foldl_quote, ih, List.append_assoc, isQuote, List.singleton_append]
    next notQuote =>
      rw [List.foldl_cons, List.foldl_nil, step_inQuotes notQuote, ih, List.append_assoc,
        List.singleton_append]

theorem foldl_inWord {word : Text} (isPlain : ∀ character ∈ word, IsPlain character) :
    word.foldl step (inWord words current) = inWord words (current ++ word) := by
  induction word generalizing current with
  | nil => rw [List.append_nil]; rfl
  | cons character word ih =>
    obtain ⟨first, later⟩ := List.forall_mem_cons.mp isPlain
    rw [List.foldl_cons, step_inWord first, ih later, List.append_assoc,
      List.singleton_append]

end States

/-! ## Texts of one word -/

/-- A text that is read as a word, wherever it begins. -/
def Reads (text word : Text) : Prop :=
  ∀ words, text.foldl step (between words) = inWord words word

theorem reads_shellQuote (value : Text) : Reads (shellQuote value) value := by
  intro words
  rw [shellQuote, List.cons_append, List.foldl_cons, step_open, List.foldl_append, foldl_inQuotes,
    List.nil_append, List.foldl_cons, step_close, List.foldl_nil]

theorem reads_plain {word : Text} (nonempty : word ≠ [])
    (isPlain : ∀ character ∈ word, IsPlain character) : Reads word word := by
  intro words
  cases word with
  | nil => exact absurd rfl nonempty
  | cons character word =>
    obtain ⟨first, later⟩ := List.forall_mem_cons.mp isPlain
    rw [List.foldl_cons, step_between first, foldl_inWord later, List.singleton_append]

end ShellState

open ShellState

/-- Words written as texts that are read as them, after some words. -/
theorem finish_intercalate {write : Text → Text} {words : List Text} (nonempty : words ≠ [])
    (each : ∀ word ∈ words, Reads (write word) word) (before : List Text) :
    (([' '].intercalate (words.map write)).foldl step (between before)).finish =
      .ok (before ++ words) := by
  induction words generalizing before with
  | nil => exact absurd rfl nonempty
  | cons word rest ih =>
    obtain ⟨first, later⟩ := List.forall_mem_cons.mp each
    cases rest with
    | nil =>
      rw [List.map_singleton, List.intercalate_singleton, first before, finish_inWord]
    | cons next rest =>
      rw [List.map_cons, List.map_cons, List.intercalate_cons_cons, List.foldl_append,
        List.foldl_append, first before, List.foldl_cons, List.foldl_nil, step_space,
        ← List.map_cons, ih (List.cons_ne_nil _ _) later, List.append_assoc,
        List.singleton_append]

/-- Words are read back from texts joined by spaces. -/
theorem parseShellWords_intercalate {write : Text → Text} {words : List Text}
    (each : ∀ word ∈ words, Reads (write word) word) :
    parseShellWords ([' '].intercalate (words.map write)) = .ok words := by
  by_cases isEmpty : words = []
  · rw [isEmpty]
    rfl
  · exact finish_intercalate isEmpty each []

/-- Quoting loses no word, not even an empty one. -/
theorem parseShellWords_shellQuote (words : List Text) :
    parseShellWords ([' '].intercalate (words.map shellQuote)) = .ok words :=
  parseShellWords_intercalate fun word _ => reads_shellQuote word

end MailSwiftSync
