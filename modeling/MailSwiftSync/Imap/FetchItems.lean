import MailSwiftSync.Imap.FetchParser

/-!
# Items of a FETCH record

The search for an item compares its name with the words of the record, which end at a space or an
opening parenthesis, and takes the first of them that is the name and ends at a space.
-/

namespace MailSwiftSync.Imap

/-! ## Words of a record -/

/-- Text without a space or an opening parenthesis. -/
def IsItemWord (word : Text) : Prop := ∀ c ∈ word, c ≠ ' ' ∧ c ≠ '('

/-- Text made of words, each with the character that ends it. -/
def wordsText (words : List (Text × Char)) (rest : Text) : Text :=
  words.foldr (fun word text => word.1 ++ word.2 :: text) rest

@[simp] theorem wordsText_nil (rest : Text) : wordsText [] rest = rest := rfl

@[simp] theorem wordsText_cons (word : Text × Char) (words : List (Text × Char)) (rest : Text) :
    wordsText (word :: words) rest = word.1 ++ word.2 :: wordsText words rest := rfl

section FindItem

variable {field : Text}

/-- Inside of a word no item is found. -/
theorem findItem_inside {word : Text} (isWord : IsItemWord word) {delimiter : Char}
    (ends : delimiter = ' ' ∨ delimiter = '(') (rest : Text) :
    findItem field false (word ++ delimiter :: rest) = findItem field true rest := by
  induction word with
  | nil =>
    have boundary : (delimiter = ' ' || delimiter = '(' : Bool) = true := by
      rcases ends with rfl | rfl <;> rfl
    rw [List.nil_append, findItem]
    simp [boundary]
  | cons c word ih =>
    obtain ⟨first, others⟩ := List.forall_mem_cons.mp isWord
    have noBoundary : (c = ' ' || c = '(' : Bool) = false := by
      simp [first]
    rw [List.cons_append, findItem]
    simp only [Bool.false_and, Bool.false_eq_true, if_false, noBoundary]
    exact ih others

/-- The name of an item: a word in any case. -/
structure IsItemName (field : Text) : Prop where
  nonempty : field ≠ []
  isWord : IsItemWord (field.map Char.toLower)

theorem eqIgnoreAsciiCase_iff {left right : Text} :
    eqIgnoreAsciiCase left right = true ↔ left.map Char.toLower = right.map Char.toLower := by
  rw [eqIgnoreAsciiCase, beq_iff_eq]

/-- An item is found at the start of a word when its name is the word and ends at a space. -/
theorem foundHere_iff (isName : IsItemName field) {word : Text} (isWord : IsItemWord word)
    {delimiter : Char} (ends : delimiter = ' ' ∨ delimiter = '(') (rest : Text) :
    (eqIgnoreAsciiCase ((word ++ delimiter :: rest).take field.length) field = true ∧
        ((word ++ delimiter :: rest).drop field.length).head? = some ' ') ↔
      eqIgnoreAsciiCase word field = true ∧ delimiter = ' ' := by
  rw [eqIgnoreAsciiCase_iff, eqIgnoreAsciiCase_iff, List.head?_drop]
  constructor
  · rintro ⟨sameName, isSpace⟩
    have notShorter : ¬field.length < word.length := by
      intro shorter
      rw [List.getElem?_append_left shorter] at isSpace
      exact (isWord ' ' (List.mem_of_getElem? isSpace)).1 rfl
    have notLonger : ¬word.length < field.length := by
      intro longer
      have atDelimiter : ((word ++ delimiter :: rest).take field.length)[word.length]? =
          some delimiter := by
        rw [List.getElem?_take_of_lt longer, List.getElem?_append_right le_rfl, Nat.sub_self]
        rfl
      have inField : delimiter.toLower ∈ field.map Char.toLower := by
        rw [← sameName]
        exact List.mem_map_of_mem (List.mem_of_getElem? atDelimiter)
      have plain := isName.isWord delimiter.toLower inField
      rcases ends with rfl | rfl
      · exact plain.1 rfl
      · exact plain.2 rfl
    have sameLength : field.length = word.length := by
      omega
    rw [sameLength, List.take_left] at sameName
    rw [sameLength, List.getElem?_append_right le_rfl, Nat.sub_self] at isSpace
    exact ⟨sameName, Option.some.inj isSpace⟩
  · rintro ⟨sameName, rfl⟩
    have sameLength : field.length = word.length := by
      have lengths := congrArg List.length sameName
      rw [List.length_map, List.length_map] at lengths
      exact lengths.symm
    rw [sameLength, List.take_left, List.getElem?_append_right le_rfl, Nat.sub_self]
    exact ⟨sameName, rfl⟩

/-- The search looks at the words one after the other. -/
theorem findItem_word (isName : IsItemName field) {word : Text} (isWord : IsItemWord word)
    {delimiter : Char} (ends : delimiter = ' ' ∨ delimiter = '(') (rest : Text) :
    findItem field true (word ++ delimiter :: rest) =
      if eqIgnoreAsciiCase word field = true ∧ delimiter = ' ' then some (delimiter :: rest)
      else findItem field true rest := by
  have here := foundHere_iff isName isWord ends rest
  have inside := @findItem_inside field word isWord delimiter ends rest
  by_cases isFound : eqIgnoreAsciiCase word field = true ∧ delimiter = ' '
  · have sameLength : field.length = word.length := by
      have lengths := congrArg List.length (eqIgnoreAsciiCase_iff.mp isFound.1)
      rw [List.length_map, List.length_map] at lengths
      exact lengths.symm
    have after : (word ++ delimiter :: rest).drop field.length = delimiter :: rest := by
      rw [sameLength, List.drop_left]
    have found := here.mpr isFound
    rw [if_pos isFound]
    cases whole : word ++ delimiter :: rest with
    | nil => simp at whole
    | cons c text =>
      rw [whole] at found after
      rw [findItem, if_pos (by simp [found]), after]
  · rw [if_neg isFound]
    have notFound := mt here.mp isFound
    cases word with
    | nil =>
      have boundary : (delimiter = ' ' || delimiter = '(' : Bool) = true := by
        rcases ends with rfl | rfl <;> rfl
      rw [List.nil_append] at notFound ⊢
      rw [findItem, if_neg (by simpa using notFound), boundary]
    | cons c word =>
      obtain ⟨first, others⟩ := List.forall_mem_cons.mp isWord
      have noBoundary : (c = ' ' || c = '(' : Bool) = false := by
        simp [first]
      rw [List.cons_append] at notFound ⊢
      rw [findItem, if_neg (by simpa using notFound), noBoundary]
      exact findItem_inside others ends rest

/-- The words of some text, and none of them is an item. -/
def Passes (field : Text) (words : List (Text × Char)) : Prop :=
  ∀ word ∈ words, IsItemWord word.1 ∧ (word.2 = ' ' ∨ word.2 = '(') ∧
    ¬(eqIgnoreAsciiCase word.1 field = true ∧ word.2 = ' ')

theorem findItem_passes (isName : IsItemName field) {words : List (Text × Char)}
    (passes : Passes field words) (rest : Text) :
    findItem field true (wordsText words rest) = findItem field true rest := by
  induction words with
  | nil => rfl
  | cons word words ih =>
    obtain ⟨⟨isWord, ends, notFound⟩, others⟩ := List.forall_mem_cons.mp passes
    rw [wordsText_cons, findItem_word isName isWord ends, if_neg notFound, ih others]

end FindItem

end MailSwiftSync.Imap
