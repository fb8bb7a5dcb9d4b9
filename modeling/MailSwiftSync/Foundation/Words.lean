import Mathlib.Data.List.TakeWhile
import Mathlib.Tactic.Push

/-!
# Words of a sequence

The maximal runs of elements that are not blank, and how they are put together again.
-/

namespace Foundation

variable {α : Type*} (isBlank : α → Bool)

/-- The words of a sequence. -/
def words (text : List α) : List (List α) := (text.splitOnP isBlank).filter (!·.isEmpty)

/-- A sequence without the blanks around it. -/
def strip (text : List α) : List α :=
  ((text.dropWhile isBlank).reverse.dropWhile isBlank).reverse

/-- A word: at least one element, none of them blank. -/
def IsWord (word : List α) : Prop := word ≠ [] ∧ ∀ item ∈ word, isBlank item = false

variable {isBlank}

theorem forall_eq_false_of_any {items : List α} (noneHolds : items.any isBlank = false) :
    ∀ item ∈ items, isBlank item = false := by
  intro item isMember
  exact eq_false_of_ne_true (List.any_eq_false.mp noneHolds item isMember)

theorem isWord_of_any {word : List α} (nonempty : word ≠ [])
    (noneBlank : word.any isBlank = false) : IsWord isBlank word :=
  ⟨nonempty, forall_eq_false_of_any noneBlank⟩

@[simp] theorem words_nil : words isBlank [] = [] := by simp [words]

/-- Words do not cross a blank. -/
theorem words_append_blank {blank : α} (isSeparator : isBlank blank = true)
    (before after : List α) :
    words isBlank (before ++ blank :: after) = words isBlank before ++ words isBlank after := by
  rw [words, List.splitOnP_append_cons before after isSeparator, List.filter_append]
  rfl

theorem words_cons_blank {blank : α} (isSeparator : isBlank blank = true) (text : List α) :
    words isBlank (blank :: text) = words isBlank text := by
  have crossed := words_append_blank isSeparator [] text
  rw [words_nil] at crossed
  exact crossed

/-- Words do not cross into a part that begins with a blank. -/
theorem words_append {before after : List α}
    (apart : ∀ item, after.head? = some item → isBlank item = true) :
    words isBlank (before ++ after) = words isBlank before ++ words isBlank after := by
  cases after with
  | nil => rw [List.append_nil, words_nil, List.append_nil]
  | cons blank after =>
    have isSeparator := apart blank rfl
    rw [words_append_blank isSeparator, words_cons_blank isSeparator]

theorem words_append_of_blank {text blanks : List α}
    (allBlank : ∀ item ∈ blanks, isBlank item = true) :
    words isBlank (text ++ blanks) = words isBlank text := by
  induction blanks generalizing text with
  | nil => rw [List.append_nil]
  | cons blank blanks ih =>
    rw [words_append_blank (allBlank blank List.mem_cons_self)]
    have later := @ih [] fun item isItem => allBlank item (List.mem_cons_of_mem _ isItem)
    rw [List.nil_append, words_nil] at later
    rw [later, List.append_nil]

/-- A word is its own only word. -/
theorem words_of_isWord {word : List α} (isWord : IsWord isBlank word) :
    words isBlank word = [word] := by
  rw [words, List.splitOnP_eq_singleton isWord.2, List.filter_cons_of_pos]
  · rfl
  · rw [Bool.not_eq_true', List.isEmpty_eq_false_iff]
    exact isWord.1

/-- A word and the blank after it. -/
theorem words_cons_word {word : List α} (isWord : IsWord isBlank word) {blank : α}
    (isSeparator : isBlank blank = true) (text : List α) :
    words isBlank (word ++ blank :: text) = word :: words isBlank text := by
  rw [words_append_blank isSeparator, words_of_isWord isWord]
  rfl

/-- What does not begin with a blank begins with its first word. -/
theorem words_cons {first : α} (notBlank : isBlank first = false) (text : List α) :
    ∃ word later, words isBlank (first :: text) = (first :: word) :: later := by
  have isWord : IsWord isBlank (first :: text.takeWhile (!isBlank ·)) := by
    refine ⟨List.cons_ne_nil _ _, List.forall_mem_cons.mpr ⟨notBlank, fun item isMember => ?_⟩⟩
    have taken := List.mem_takeWhile_imp isMember
    exact (Bool.not_eq_true' _).mp taken
  have apart : ∀ item, (text.dropWhile (!isBlank ·)).head? = some item → isBlank item = true := by
    intro item isHead
    have stops := List.head?_dropWhile_not (!isBlank ·) text
    rw [isHead] at stops
    simpa using stops
  have parts : first :: text =
      (first :: text.takeWhile (!isBlank ·)) ++ text.dropWhile (!isBlank ·) := by
    rw [List.cons_append, List.takeWhile_append_dropWhile]
  rw [parts, words_append apart, words_of_isWord isWord]
  exact ⟨_, _, rfl⟩

theorem not_blank_of_mem_splitOnP {text part : List α} (isPart : part ∈ text.splitOnP isBlank) :
    ∀ item ∈ part, isBlank item = false := by
  induction text generalizing part with
  | nil =>
    rw [List.splitOnP_nil, List.mem_singleton] at isPart
    simp [isPart]
  | cons item text ih =>
    rw [List.splitOnP_cons_eq_if_modifyHead] at isPart
    split at isPart
    next =>
      cases List.mem_cons.mp isPart with
      | inl isEmpty => simp [isEmpty]
      | inr isLater => exact ih isLater
    next isInside =>
      obtain ⟨first, rest, isSplit⟩ :=
        List.exists_cons_of_ne_nil (List.splitOnP_ne_nil isBlank text)
      rw [isSplit, List.modifyHead_cons] at isPart
      cases List.mem_cons.mp isPart with
      | inl isFirst =>
        rw [isFirst, List.forall_mem_cons]
        exact ⟨Bool.eq_false_iff.mpr isInside, ih (isSplit ▸ List.mem_cons_self)⟩
      | inr isLater => exact ih (isSplit ▸ List.mem_cons_of_mem _ isLater)

/-- What splitting gives are words. -/
theorem isWord_of_mem {text word : List α} (isMember : word ∈ words isBlank text) :
    IsWord isBlank word := by
  obtain ⟨isPart, nonempty⟩ := List.mem_filter.mp isMember
  rw [Bool.not_eq_true', List.isEmpty_eq_false_iff] at nonempty
  exact ⟨nonempty, not_blank_of_mem_splitOnP isPart⟩

/-- Blanks at the end make no words. -/
theorem words_reverse_dropWhile (text : List α) :
    words isBlank (text.reverse.dropWhile isBlank).reverse = words isBlank text := by
  have whole := congrArg List.reverse
    (@List.takeWhile_append_dropWhile α isBlank text.reverse)
  rw [List.reverse_append, List.reverse_reverse] at whole
  have atEnd : ∀ item ∈ (text.reverse.takeWhile isBlank).reverse, isBlank item = true :=
    fun item isItem => List.mem_takeWhile_imp (List.mem_reverse.mp isItem)
  rw [← words_append_of_blank atEnd, whole]

theorem words_dropWhile (text : List α) :
    words isBlank (text.dropWhile isBlank) = words isBlank text := by
  induction text with
  | nil => rfl
  | cons item text ih =>
    cases isSeparator : isBlank item with
    | true => rw [List.dropWhile_cons_of_pos isSeparator, ih, words_cons_blank isSeparator]
    | false => rw [List.dropWhile_cons_of_neg (Bool.eq_false_iff.mp isSeparator)]

/-- Blanks around a sequence make no words. -/
@[simp] theorem words_strip (text : List α) :
    words isBlank (strip isBlank text) = words isBlank text := by
  rw [strip, words_reverse_dropWhile, words_dropWhile]

/-- Without words there are blanks only. -/
theorem words_eq_nil_iff {text : List α} :
    words isBlank text = [] ↔ ∀ item ∈ text, isBlank item = true := by
  constructor
  · intro noWords
    induction text with
    | nil => simp
    | cons item text ih =>
      cases isSeparator : isBlank item with
      | true =>
        rw [words_cons_blank isSeparator] at noWords
        rw [List.forall_mem_cons]
        exact ⟨isSeparator, ih noWords⟩
      | false =>
        rw [words, List.splitOnP_cons_eq_if_modifyHead, isSeparator] at noWords
        obtain ⟨first, rest, isSplit⟩ :=
          List.exists_cons_of_ne_nil (List.splitOnP_ne_nil isBlank text)
        rw [isSplit] at noWords
        simp at noWords
  · intro allBlank
    have fromNothing := @words_append_of_blank α isBlank [] text allBlank
    rw [List.nil_append, words_nil] at fromNothing
    exact fromNothing

/-- What is left of a sequence neither begins nor ends with a blank. -/
theorem strip_ends {text : List α} {item : α}
    (isEnd : (strip isBlank text).head? = some item ∨ (strip isBlank text).getLast? = some item) :
    isBlank item = false := by
  have firstOf : ∀ {part : List α}, (part.dropWhile isBlank).head? = some item →
      isBlank item = false := by
    intro part isFirst
    have notBlank := List.head?_dropWhile_not isBlank part
    rw [isFirst] at notBlank
    exact notBlank
  cases isEnd with
  | inl isFirst =>
    have isPrefix : strip isBlank text <+: text.dropWhile isBlank := by
      rw [strip, ← List.reverse_suffix, List.reverse_reverse]
      exact List.dropWhile_suffix isBlank
    obtain ⟨rest, whole⟩ := isPrefix
    have isHead : (text.dropWhile isBlank).head? = some item := by
      rw [← whole, List.head?_append, isFirst]
      rfl
    exact firstOf isHead
  | inr isLast =>
    rw [strip, List.getLast?_reverse] at isLast
    exact firstOf isLast

theorem strip_eq_nil {text : List α} (noWords : words isBlank text = []) :
    strip isBlank text = [] := by
  rw [← words_strip, words_eq_nil_iff] at noWords
  cases stripped : strip isBlank text with
  | nil => rfl
  | cons item rest =>
    have notBlank := @strip_ends α isBlank text item (.inl (by rw [stripped]; rfl))
    rw [noWords item (by rw [stripped]; exact List.mem_cons_self)] at notBlank
    cases notBlank

/-- A sequence with one word is that word between blanks. -/
theorem strip_of_words {text word : List α} (oneWord : words isBlank text = [word]) :
    strip isBlank text = word := by
  rw [← words_strip] at oneWord
  have ends := @strip_ends α isBlank text
  generalize strip isBlank text = stripped at oneWord ends
  by_cases unbroken : ∀ item ∈ stripped, isBlank item = false
  · cases stripped with
    | nil => cases oneWord
    | cons item rest =>
      rw [words_of_isWord ⟨List.cons_ne_nil _ _, unbroken⟩] at oneWord
      exact List.singleton_inj.mp oneWord
  · push Not at unbroken
    obtain ⟨blank, isMember, isSeparator⟩ := unbroken
    rw [Bool.ne_false_iff] at isSeparator
    obtain ⟨before, after, rfl⟩ := List.append_of_mem isMember
    rw [words_append_blank isSeparator, List.append_eq_singleton_iff] at oneWord
    cases oneWord with
    | inl noneBefore =>
      have allBlank := words_eq_nil_iff.mp noneBefore.1
      cases before with
      | nil => exact absurd (ends (.inl rfl)) (by rw [isSeparator]; decide)
      | cons first before =>
        have firstBlank := allBlank first List.mem_cons_self
        exact absurd (ends (.inl rfl)) (by rw [firstBlank]; decide)
    | inr noneAfter =>
      have allBlank := words_eq_nil_iff.mp noneAfter.2
      cases isLast : (blank :: after).getLast? with
      | none => simp at isLast
      | some last =>
        have isEnd : (before ++ blank :: after).getLast? = some last := by
          rw [List.getLast?_append, isLast]
          rfl
        have lastBlank : isBlank last = true := by
          cases List.mem_cons.mp (List.mem_of_getLast? isLast) with
          | inl isFirst => exact isFirst ▸ isSeparator
          | inr isLater => exact allBlank last isLater
        exact absurd (ends (.inr isEnd)) (by rw [lastBlank]; decide)

/-- What follows the first word of a sequence. -/
def afterWord (isBlank : α → Bool) (text : List α) : List α :=
  (text.dropWhile isBlank).dropWhile (!isBlank ·)

/-- A sequence is blanks, its first word and what follows it. -/
theorem words_eq_cons {text word : List α} {later : List (List α)}
    (areWords : words isBlank text = word :: later) :
    text = text.takeWhile isBlank ++ (word ++ afterWord isBlank text) ∧
      words isBlank (afterWord isBlank text) = later := by
  rw [← words_dropWhile] at areWords
  have begins := List.head?_dropWhile_not isBlank text
  rw [afterWord]
  cases isRest : text.dropWhile isBlank with
  | nil =>
    rw [isRest, words_nil] at areWords
    cases areWords
  | cons first rest =>
    rw [isRest] at areWords begins
    have notBlank : isBlank first = false := begins
    have isWord : IsWord isBlank ((first :: rest).takeWhile (!isBlank ·)) := by
      refine ⟨?_, fun item isMember => ?_⟩
      · rw [List.takeWhile_cons_of_pos (by rw [notBlank]; rfl)]
        exact List.cons_ne_nil _ _
      · have taken := List.mem_takeWhile_imp isMember
        exact (Bool.not_eq_true' _).mp taken
    have apart : ∀ item, ((first :: rest).dropWhile (!isBlank ·)).head? = some item →
        isBlank item = true := by
      intro item isHead
      have stops := List.head?_dropWhile_not (!isBlank ·) (first :: rest)
      rw [isHead] at stops
      simpa using stops
    have split := @words_append α isBlank ((first :: rest).takeWhile (!isBlank ·)) _ apart
    rw [List.takeWhile_append_dropWhile, areWords, words_of_isWord isWord,
      List.singleton_append] at split
    obtain ⟨isFirst, isLater⟩ := List.cons.inj split
    refine ⟨?_, isLater.symm⟩
    rw [isFirst, List.takeWhile_append_dropWhile, ← isRest, List.takeWhile_append_dropWhile]

/-- Words put together with single blanks. -/
theorem words_intercalate {blank : α} (isSeparator : isBlank blank = true)
    {parts : List (List α)} (areWords : ∀ part ∈ parts, IsWord isBlank part) :
    words isBlank ([blank].intercalate parts) = parts := by
  induction parts with
  | nil => simp
  | cons first parts ih =>
    have later := ih fun part isPart => areWords part (List.mem_cons_of_mem _ isPart)
    cases parts with
    | nil =>
      rw [List.intercalate_singleton]
      exact words_of_isWord (areWords first List.mem_cons_self)
    | cons second parts =>
      rw [List.intercalate_cons_cons, List.append_assoc, List.singleton_append,
        words_cons_word (areWords first List.mem_cons_self) isSeparator, later]

/-! ## Spacing -/

variable (isBlank) in
/-- The blanks of a sequence, and where they are. -/
def spacing (text : List α) : List (Option α) :=
  text.map fun item => if isBlank item then some item else none

theorem flatten_splitOnP (text : List α) :
    (text.splitOnP isBlank).flatten = text.filter (!isBlank ·) := by
  induction text with
  | nil => rfl
  | cons item text ih =>
    rw [List.splitOnP_cons_eq_if_modifyHead]
    cases isSeparator : isBlank item with
    | true =>
      rw [if_pos rfl, List.flatten_cons, List.nil_append, ih,
        List.filter_cons_of_neg (by rw [isSeparator]; decide)]
    | false =>
      obtain ⟨first, rest, isSplit⟩ :=
        List.exists_cons_of_ne_nil (List.splitOnP_ne_nil isBlank text)
      rw [if_neg Bool.false_ne_true, isSplit, List.modifyHead_cons, List.flatten_cons,
        List.filter_cons_of_pos (by rw [isSeparator]; rfl), ← ih, isSplit, List.flatten_cons,
        List.cons_append]

theorem flatten_words (text : List α) :
    (words isBlank text).flatten = text.filter (!isBlank ·) := by
  rw [words, List.flatten_filter_not_isEmpty, flatten_splitOnP]

/-- A sequence is determined by its words and the blanks between them. -/
theorem eq_of_spacing {left right : List α}
    (sameWords : words isBlank left = words isBlank right)
    (sameSpacing : spacing isBlank left = spacing isBlank right) : left = right := by
  have sameItems : left.filter (!isBlank ·) = right.filter (!isBlank ·) := by
    rw [← flatten_words, ← flatten_words, sameWords]
  clear sameWords
  induction left generalizing right with
  | nil => exact (List.map_eq_nil_iff.mp sameSpacing.symm).symm
  | cons item left ih =>
    cases right with
    | nil => cases sameSpacing
    | cons other right =>
      obtain ⟨sameFirst, sameRest⟩ := List.cons.inj sameSpacing
      dsimp only at sameFirst
      cases isFirst : isBlank item with
      | true =>
        cases isOther : isBlank other with
        | true =>
          rw [isFirst, isOther, if_pos rfl, if_pos rfl, Option.some.injEq] at sameFirst
          rw [List.filter_cons_of_neg (by rw [isFirst]; decide),
            List.filter_cons_of_neg (by rw [isOther]; decide)] at sameItems
          rw [sameFirst, ih sameRest sameItems]
        | false =>
          rw [isFirst, isOther] at sameFirst
          cases sameFirst
      | false =>
        cases isOther : isBlank other with
        | true =>
          rw [isFirst, isOther] at sameFirst
          cases sameFirst
        | false =>
          rw [List.filter_cons_of_pos (by rw [isFirst]; rfl),
            List.filter_cons_of_pos (by rw [isOther]; rfl), List.cons.injEq] at sameItems
          rw [sameItems.1, ih sameRest sameItems.2]

end Foundation
