import Mathlib.Data.List.Dedup
import Mathlib.Tactic.Push

/-!
# Patterns

A pattern is the text of a regular expression.  The part of the language modelled here has
literals, escaped punctuation, groups, alternatives, the three simple repetitions, the dot and the
two anchors; a text outside of it has no expression.  As in Perl, the end anchor also matches
before a line feed that ends the text.
-/

namespace Foundation

inductive Regex where
  | empty
  | char (c : Char)
  | any
  | start
  | finish
  | seq (first second : Regex)
  | alt (first second : Regex)
  | star (item : Regex)
deriving DecidableEq, Repr

namespace Regex

/-! ## Matching -/

/-- Where a match that begins at a position can end. -/
def ends (text : List Char) : Regex → Nat → List Nat
  | .empty, i => [i]
  | .char c, i => if text[i]? = some c then [i + 1] else []
  | .any, i => if text[i]?.any (· ≠ '\n') then [i + 1] else []
  | .start, i => if i = 0 then [i] else []
  | .finish, i =>
    if i = text.length ∨ (i + 1 = text.length ∧ text[i]? = some '\n') then [i] else []
  | .seq first second, i => (ends text first i).flatMap (ends text second)
  | .alt first second, i => ends text first i ++ ends text second i
  | .star item, i => (List.range (text.length + 1)).foldl
      (fun reached _ => (reached ++ reached.flatMap (ends text item)).dedup) [i]

/-- Whether an expression matches somewhere in a text. -/
def found (regex : Regex) (text : List Char) : Bool :=
  (List.range (text.length + 1)).any fun i => !(regex.ends text i).isEmpty

/-- One expression after the other. -/
def sequence : List Regex → Regex
  | [] => .empty
  | item :: items => .seq item (sequence items)

/-- The characters of a text, one after the other. -/
def literal (text : List Char) : Regex := sequence (text.map .char)

/-- Literal text matches where it stands. -/
theorem ends_literal (text word : List Char) (i : Nat) :
    (literal word).ends text i =
      if word <+: text.drop i then [i + word.length] else [] := by
  induction word generalizing i with
  | nil => simp [literal, sequence, ends]
  | cons c word ih =>
    change ((ends text (.char c) i).flatMap ((literal word).ends text)) = _
    rw [ends, ← List.head?_drop]
    cases here : text.drop i with
    | nil => simp
    | cons d rest =>
      have next : text.drop (i + 1) = rest := by
        rw [← List.tail_drop, here]
        rfl
      by_cases same : d = c
      · rw [same, List.head?_cons, if_pos rfl, List.flatMap_singleton, ih, next]
        have sameLength : i + 1 + word.length = i + (c :: word).length := by
          rw [List.length_cons]
          omega
        exact if_congr (List.prefix_cons_inj c).symm (by rw [sameLength]) rfl
      · have different : ¬(c :: word <+: d :: rest) := by
          intro isPrefix
          exact same (List.cons_prefix_cons.mp isPrefix).1.symm
        rw [List.head?_cons, if_neg (by simpa using same), if_neg different]
        rfl

/-- A literal between the anchors of a text. -/
def exactly (word : List Char) : Regex := sequence [.start, literal word, .finish]

theorem ends_exactly (text word : List Char) (i : Nat) :
    (exactly word).ends text i =
      if i = 0 ∧ word <+: text then (Regex.finish.ends text word.length) else [] := by
  have atEnd : ∀ j, ends text (sequence [.finish]) j = Regex.finish.ends text j := by
    intro j
    rw [sequence, sequence, ends]
    exact List.flatMap_singleton' _
  change ((ends text .start i).flatMap fun j =>
    (ends text (literal word) j).flatMap (ends text (sequence [.finish]))) = _
  rw [ends]
  by_cases atStart : i = 0
  · rw [atStart, if_pos rfl, List.flatMap_singleton, ends_literal, List.drop_zero]
    by_cases isPrefix : word <+: text
    · rw [if_pos isPrefix, if_pos ⟨rfl, isPrefix⟩, List.flatMap_singleton, atEnd, Nat.zero_add]
    · rw [if_neg isPrefix, if_neg fun both => isPrefix both.2]
      rfl
  · rw [if_neg atStart, if_neg fun both => atStart both.1]
    rfl

/-- An anchored literal matches a text without a final line feed exactly when it is the text. -/
theorem found_exactly {text word : List Char} (noFinalLine : text.getLast? ≠ some '\n') :
    (exactly word).found text = true ↔ text = word := by
  have endsAtLength : ∀ i, Regex.finish.ends text i ≠ [] ↔ i = text.length := by
    intro i
    have notBefore : ¬(i + 1 = text.length ∧ text[i]? = some '\n') := by
      intro both
      apply noFinalLine
      rw [List.getLast?_eq_getElem?, ← both.1]
      exact both.2
    rw [ends]
    by_cases atLength : i = text.length
    · simp [atLength]
    · simp [atLength, notBefore]
  constructor
  · intro isFound
    simp only [found, List.any_eq_true, Bool.not_eq_true', List.isEmpty_eq_false_iff] at isFound
    obtain ⟨i, _, reaches⟩ := isFound
    rw [ends_exactly] at reaches
    by_cases whole : i = 0 ∧ word <+: text
    · rw [if_pos whole, endsAtLength] at reaches
      exact (List.IsPrefix.eq_of_length whole.2 reaches).symm
    · exact absurd (if_neg whole) reaches
  · intro same
    simp only [found, List.any_eq_true, Bool.not_eq_true', List.isEmpty_eq_false_iff]
    refine ⟨0, by simp, ?_⟩
    rw [ends_exactly, if_pos ⟨rfl, same ▸ List.prefix_refl _⟩, endsAtLength, same]

end Regex

/-! ## Reading a pattern -/

/-- The parts of a pattern. -/
inductive PatternToken where
  | literal (c : Char)
  | any
  | start
  | finish
  | opening
  | closing
  | bar
  | star
  | plus
  | optional
deriving DecidableEq, Repr

/-- The meaning of a character of a pattern on its own.  Classes and counted repetitions are not
part of the language. -/
def patternToken (c : Char) : Option PatternToken :=
  if c = '.' then some .any
  else if c = '^' then some .start
  else if c = '$' then some .finish
  else if c = ')' then some .closing
  else if c = '|' then some .bar
  else if c = '*' then some .star
  else if c = '+' then some .plus
  else if c = '?' then some .optional
  else if c = '[' ∨ c = '\x7b' then none
  else some (.literal c)

/-- The tokens of a pattern.  A backslash makes punctuation literal; before a letter or a digit it
has meanings that are not part of the language. -/
def patternTokens : List Char → Option (List PatternToken)
  | [] => some []
  | c :: rest =>
    if c = '\\' then
      match rest with
      | [] => none
      | d :: rest =>
        if d.isAlphanum then none else (patternTokens rest).map (.literal d :: ·)
    else if c = '(' then
      match rest with
      | '?' :: ':' :: rest => (patternTokens rest).map (.opening :: ·)
      | '?' :: _ => none
      | rest => (patternTokens rest).map (.opening :: ·)
    else (patternToken c).bind fun token => (patternTokens rest).map (token :: ·)

/-- A group being read: the alternatives before the current one, and the items of that one, last
first, each with whether it is repeated. -/
structure PatternGroup where
  alternatives : List Regex := []
  items : List (Regex × Bool) := []

namespace PatternGroup

/-- The expression of a finished alternative. -/
def current (group : PatternGroup) : Regex :=
  Regex.sequence (group.items.reverse.map Prod.fst)

/-- The expression of a finished group. -/
def regex (group : PatternGroup) : Regex :=
  group.alternatives.foldl (fun later alternative => .alt alternative later) group.current

def push (group : PatternGroup) (item : Regex) : PatternGroup :=
  { group with items := (item, false) :: group.items }

/-- Repeat the last item; a repetition cannot be repeated. -/
def repeated (group : PatternGroup) (wrap : Regex → Regex) : Option PatternGroup :=
  match group.items with
  | (item, false) :: items => some { group with items := (wrap item, true) :: items }
  | _ => none

end PatternGroup

/-- Read tokens, with the groups around the current one. -/
def readPattern : PatternGroup → List PatternGroup → List PatternToken → Option Regex
  | group, outer, [] => if outer.isEmpty then some group.regex else none
  | group, outer, token :: tokens =>
    match token with
    | .literal c => readPattern (group.push (.char c)) outer tokens
    | .any => readPattern (group.push .any) outer tokens
    | .start => readPattern (group.push .start) outer tokens
    | .finish => readPattern (group.push .finish) outer tokens
    | .opening => readPattern {} (group :: outer) tokens
    | .closing =>
      match outer with
      | [] => none
      | parent :: outer => readPattern (parent.push group.regex) outer tokens
    | .bar => readPattern { alternatives := group.current :: group.alternatives } outer tokens
    | .star => (group.repeated .star).bind fun group => readPattern group outer tokens
    | .plus => (group.repeated fun item => .seq item (.star item)).bind fun group =>
      readPattern group outer tokens
    | .optional => (group.repeated fun item => .alt item .empty).bind fun group =>
      readPattern group outer tokens

/-- The expression of a pattern. -/
def parsePattern (pattern : List Char) : Option Regex :=
  (patternTokens pattern).bind (readPattern {} [])

/-! ## Escaped text -/

/-- A text of a pattern that stands for one character. -/
def StandsFor (text : List Char) (c : Char) : Prop :=
  (text = ['\\', c] ∧ c.isAlphanum = false) ∨
    (text = [c] ∧ c ≠ '\\' ∧ c ≠ '(' ∧ patternToken c = some (.literal c))

theorem patternTokens_standsFor {text : List Char} {c : Char} (standsFor : StandsFor text c)
    (rest : List Char) :
    patternTokens (text ++ rest) = (patternTokens rest).map (.literal c :: ·) := by
  cases standsFor with
  | inl escaped =>
    rw [escaped.1, List.cons_append, List.singleton_append, patternTokens.eq_def]
    simp only [if_pos]
    rw [escaped.2]
    rfl
  | inr plain =>
    obtain ⟨isPlain, notBackslash, notOpening, isLiteral⟩ := plain
    rw [isPlain, List.singleton_append, patternTokens.eq_def]
    change (if c = '\\' then _ else if c = '(' then _ else _) = _
    rw [if_neg notBackslash, if_neg notOpening, isLiteral]
    rfl

/-- Escaped text is read as its characters. -/
theorem patternTokens_escaped {escape : Char → List Char}
    (escapes : ∀ c, StandsFor (escape c) c) (word rest : List Char) :
    patternTokens (word.flatMap escape ++ rest) =
      (patternTokens rest).map (word.map .literal ++ ·) := by
  induction word with
  | nil => simp
  | cons c word ih =>
    rw [List.flatMap_cons, List.append_assoc, patternTokens_standsFor (escapes c), ih,
      Option.map_map]
    rfl

/-- Read the characters of a literal, one after the other. -/
theorem readPattern_literals (group : PatternGroup) (outer : List PatternGroup)
    (word : List Char) (tokens : List PatternToken) :
    readPattern group outer (word.map .literal ++ tokens) =
      readPattern
        { group with items := (word.map fun c => (Regex.char c, false)).reverse ++ group.items }
        outer tokens := by
  induction word generalizing group with
  | nil => rfl
  | cons c word ih =>
    change readPattern (group.push (.char c)) outer (word.map .literal ++ tokens) = _
    rw [ih]
    simp [PatternGroup.push]

/-- The expression of a group with a literal between the two anchors. -/
theorem readPattern_exactly (word : List Char) :
    readPattern {} [] (.start :: .opening :: (word.map .literal ++ [.closing, .finish])) =
      some (Regex.exactly word) := by
  change readPattern {} [({} : PatternGroup).push .start]
    (word.map .literal ++ [.closing, .finish]) = _
  rw [readPattern_literals]
  change some (Regex.sequence [.start, Regex.sequence
    (((word.map fun c => (Regex.char c, false)).reverse ++ []).reverse.map Prod.fst), .finish]) = _
  rw [List.append_nil, List.reverse_reverse, List.map_map]
  rfl

/-- Escaped text in a group between the two anchors matches exactly that text. -/
theorem parsePattern_exactly {escape : Char → List Char}
    (escapes : ∀ c, StandsFor (escape c) c) (word : List Char) :
    parsePattern ('^' :: '(' :: '?' :: ':' :: (word.flatMap escape ++ [')', '$'])) =
      some (Regex.exactly word) := by
  have tokens : patternTokens ('^' :: '(' :: '?' :: ':' :: (word.flatMap escape ++ [')', '$'])) =
      some (.start :: .opening :: (word.map .literal ++ [.closing, .finish])) := by
    change ((patternTokens (word.flatMap escape ++ [')', '$'])).map (.opening :: ·)).map
      (.start :: ·) = _
    rw [patternTokens_escaped escapes]
    rfl
  rw [parsePattern, tokens, Option.bind_some, readPattern_exactly]

end Foundation
