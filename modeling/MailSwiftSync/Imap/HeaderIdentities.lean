import MailSwiftSync.Imap.MessageIds

/-!
# Fallback identities

A message without a Message-ID is identified by a hash of some of its header fields.  The first
line of a field and the lines it is folded onto are normalized by different code, so the hash can
depend on how a field is folded.
-/

namespace MailSwiftSync.Imap

open Foundation

/-! ## Fields -/

/-- A field as it was received: the name without its case and the blanks around it, the text after
the colon, and the lines it is folded onto. -/
structure FoldedField where
  name : Text
  value : Text
  folds : List Text
deriving DecidableEq, Repr

/-- The fields of some lines.  A line without a colon is none, and a folded line belongs to the
line before it. -/
def readFields : List Text → List FoldedField
  | [] => []
  | line :: rest =>
    if IsFold line then readFields rest
    else
      match splitOnce ':' line with
      | none => readFields rest
      | some (name, value) =>
        { name := (trimText name).map Char.toLower
          value := value
          folds := rest.takeWhile (IsFold ·) } :: readFields rest

/-- The field of a name; the last one, were there several. -/
def fieldNamed (name : Text) (body : Text) : Option FoldedField :=
  ((readFields (lines body)).filter (·.name = name)).getLast?

namespace FoldedField

/-- The value of a field on one line, with single spaces between its words. -/
def normalized (field : FoldedField) : Text := joinFields (field.value ++ field.folds.flatten)

/-- A value with the lines that continue it. -/
def unfold (value : Text) (folds : List Text) : Text :=
  folds.foldl (fun value line => value ++ ' ' :: trimText line) value

/-- The blanks inside a line, and where they are among its letters; not those around it. -/
def insideSpacing (line : Text) : List (Option Char) :=
  (((Foundation.spacing isWhitespace line).dropWhile Option.isSome).reverse.dropWhile
    Option.isSome).reverse

/-- The blanks of a field and where they are, from its lines as they were received: one space
between the words of the first line, one for each line break with the blanks around it, and the
blanks inside the lines it is folded onto as they are. -/
def spacing (field : FoldedField) : List (Option Char) :=
  [some ' '].intercalate
      ((words isWhitespace field.value).map fun word => List.replicate word.length none) ++
    field.folds.flatMap fun line => some ' ' :: insideSpacing line

end FoldedField

/-- The same selected fields, with the same values. -/
def SameValues (left right : Text) : Prop :=
  ∀ name ∈ selectedHeaders,
    (fieldNamed name left).map FoldedField.normalized =
      (fieldNamed name right).map FoldedField.normalized

/-- The selected fields that both headers have are spaced alike. -/
def SameSpacing (left right : Text) : Prop :=
  ∀ name ∈ selectedHeaders, ∀ field other, fieldNamed name left = some field →
    fieldNamed name right = some other → field.spacing = other.spacing

/-- The values of the selected fields; a field that is not there is empty. -/
def selectedValues (body : Text) : List Text :=
  selectedHeaders.map fun name => ((fieldNamed name body).map FoldedField.normalized).getD []

/-! ## What is hashed -/

/-- The selected headers with the values that were read for them. -/
def canonicalText (values : Text → Option Text) : Text :=
  ['\n'].intercalate <| selectedHeaders.map fun name => name ++ ':' :: (values name).getD []

def headerValues (body : Text) : AList fun _ : Text => Text :=
  ((lines body).foldl HeaderValues.readLine ⟨∅, none⟩).values

/-- The text whose hash is the identity. -/
def hashedText (body : Text) : Text := canonicalText fun name => (headerValues body).lookup name

def utf8Bytes (text : Text) : Bytes := (String.ofList text).toUTF8.data.toList

theorem headerFingerprint_eq (sha256 : Bytes → Bytes) (body : Text) :
    headerFingerprint sha256 body =
      if (headerValues body).entries.isEmpty then none
      else some (String.ofList ("header-fingerprint:".toList ++
        hexEncode (sha256 (utf8Bytes (hashedText body))))) := rfl

/-! ## Reading fields -/

theorem readLine_fold {line : Text} (isFold : IsFold line) (headers : HeaderValues) :
    (headers.readLine line).current = headers.current ∧
      ∀ name, (headers.readLine line).values.lookup name =
        if headers.current = some name then
          (headers.values.lookup name).map fun value => value ++ ' ' :: trimText line
        else headers.values.lookup name := by
  have isMarked : (line.head? = some ' ' || line.head? = some '\t') = true := by
    rw [Bool.or_eq_true, decide_eq_true_eq, decide_eq_true_eq]
    exact isFold
  rw [HeaderValues.readLine, if_pos isMarked]
  cases isCurrent : headers.current with
  | none => exact ⟨isCurrent, fun name => (if_neg (by simp)).symm⟩
  | some current =>
    dsimp only
    cases isValue : headers.values.lookup current with
    | none =>
      refine ⟨isCurrent, fun name => ?_⟩
      by_cases same : current = name
      · rw [if_pos (congrArg some same), ← same, isValue]
        rfl
      · exact (if_neg fun isName => same (Option.some.inj isName)).symm
    | some value =>
      refine ⟨rfl, fun name => ?_⟩
      by_cases same : current = name
      · rw [if_pos (congrArg some same), ← same, isValue]
        exact AList.lookup_insert _
      · rw [if_neg fun isName => same (Option.some.inj isName)]
        exact AList.lookup_insert_ne fun isName => same isName.symm

/-- The value that is read for a name: that of its last field. -/
theorem lookup_foldl_readLine {name : Text} (selected : name ∈ selectedHeaders)
    (lines : List Text) (headers : HeaderValues) :
    (lines.foldl HeaderValues.readLine headers).values.lookup name =
      match ((readFields lines).filter (·.name = name)).getLast? with
      | some field => some (FoldedField.unfold (joinFields field.value) field.folds)
      | none =>
        if headers.current = some name then
          (headers.values.lookup name).map fun value =>
            FoldedField.unfold value (lines.takeWhile (IsFold ·))
        else headers.values.lookup name := by
  induction lines generalizing headers with
  | nil =>
    rw [List.foldl_nil]
    split
    next isSome => cases isSome
    next =>
      split
      · rw [List.takeWhile_nil]
        exact Option.map_id'.symm
      · rfl
  | cons line rest ih =>
    rw [List.foldl_cons, ih, readFields]
    by_cases isFold : IsFold line
    · obtain ⟨current, lookup⟩ := readLine_fold isFold headers
      have folds : (line :: rest).takeWhile (IsFold ·) = line :: rest.takeWhile (IsFold ·) :=
        List.takeWhile_cons_of_pos (decide_eq_true isFold)
      rw [if_pos isFold, current, lookup name, folds]
      cases ((readFields rest).filter (·.name = name)).getLast? with
      | some field => rfl
      | none =>
        by_cases isCurrent : headers.current = some name
        · rw [if_pos isCurrent, if_pos isCurrent, if_pos isCurrent, Option.map_map]
          rfl
        · rw [if_neg isCurrent, if_neg isCurrent, if_neg isCurrent]
    · have noFolds : (line :: rest).takeWhile (IsFold ·) = [] :=
        List.takeWhile_cons_of_neg (by rw [decide_eq_true_eq]; exact isFold)
      have unchanged : (if headers.current = some name then
          (headers.values.lookup name).map fun value => FoldedField.unfold value []
          else headers.values.lookup name) = headers.values.lookup name := by
        split
        · exact Option.map_id'
        · rfl
      have notMarked : ¬(line.head? = some ' ' || line.head? = some '\t') = true := by
        rw [Bool.or_eq_true, decide_eq_true_eq, decide_eq_true_eq]
        exact isFold
      rw [if_neg isFold, noFolds, unchanged]
      cases isSplit : splitOnce ':' line with
      | none =>
        have step : headers.readLine line = { headers with current := none } := by
          rw [HeaderValues.readLine, if_neg notMarked, isSplit]
        rw [step]
        cases ((readFields rest).filter (·.name = name)).getLast? with
        | some field => rfl
        | none => exact if_neg (by simp)
      | some parts =>
        obtain ⟨field, value⟩ := parts
        have step : headers.readLine line =
            if (trimText field).map Char.toLower ∈ selectedHeaders then
              { values := headers.values.insert ((trimText field).map Char.toLower)
                  (joinFields value)
                current := some ((trimText field).map Char.toLower) }
            else { headers with current := none } := by
          rw [HeaderValues.readLine, if_neg notMarked, isSplit]
        rw [step]
        dsimp only
        by_cases isNamed : (trimText field).map Char.toLower = name
        · rw [isNamed, if_pos selected, List.filter_cons_of_pos (by rw [decide_eq_true_eq]),
            List.getLast?_cons]
          cases ((readFields rest).filter (·.name = name)).getLast? with
          | some field => rfl
          | none =>
            dsimp only
            rw [if_pos rfl, AList.lookup_insert]
            rfl
        · rw [List.filter_cons_of_neg (by rw [decide_eq_true_eq]; exact isNamed)]
          cases ((readFields rest).filter (·.name = name)).getLast? with
          | some field => rfl
          | none =>
            dsimp only
            by_cases isSelected : (trimText field).map Char.toLower ∈ selectedHeaders
            · rw [if_pos isSelected, if_neg fun same => isNamed (Option.some.inj same)]
              exact AList.lookup_insert_ne fun same => isNamed same.symm
            · rw [if_neg isSelected]
              exact if_neg (by simp)

/-- Only selected headers have values. -/
theorem selected_of_lookup {name value : Text} (lines : List Text) (headers : HeaderValues)
    (known : ∀ name value, headers.values.lookup name = some value → name ∈ selectedHeaders)
    (isValue : (lines.foldl HeaderValues.readLine headers).values.lookup name = some value) :
    name ∈ selectedHeaders := by
  induction lines generalizing headers with
  | nil => exact known name value isValue
  | cons line rest ih =>
    refine ih (headers.readLine line) (fun other content isContent => ?_) isValue
    by_cases isFold : IsFold line
    · rw [(readLine_fold isFold headers).2 other] at isContent
      split at isContent
      · obtain ⟨content, isContent, -⟩ := Option.map_eq_some_iff.mp isContent
        exact known other content isContent
      · exact known other content isContent
    · have notMarked : ¬(line.head? = some ' ' || line.head? = some '\t') = true := by
        rw [Bool.or_eq_true, decide_eq_true_eq, decide_eq_true_eq]
        exact isFold
      rw [HeaderValues.readLine, if_neg notMarked] at isContent
      cases isSplit : splitOnce ':' line with
      | none =>
        rw [isSplit] at isContent
        exact known other content isContent
      | some parts =>
        rw [isSplit] at isContent
        dsimp only at isContent
        by_cases isSelected : (trimText parts.1).map Char.toLower ∈ selectedHeaders
        · rw [if_pos isSelected] at isContent
          by_cases same : other = (trimText parts.1).map Char.toLower
          · exact same ▸ isSelected
          · rw [AList.lookup_insert_ne same] at isContent
            exact known other content isContent
        · rw [if_neg isSelected] at isContent
          exact known other content isContent

namespace FoldedField

/-- The value that is stored for a field. -/
def stored (field : FoldedField) : Text := unfold (joinFields field.value) field.folds

end FoldedField

/-- The values that are stored are those of the selected fields. -/
theorem lookup_headerValues (name body : Text) :
    (headerValues body).lookup name =
      if name ∈ selectedHeaders then (fieldNamed name body).map FoldedField.stored else none := by
  split
  next selected =>
    rw [headerValues, lookup_foldl_readLine selected, fieldNamed]
    cases ((readFields (lines body)).filter (·.name = name)).getLast? with
    | some field => rfl
    | none => exact if_neg (by simp)
  next notSelected =>
    cases isValue : (headerValues body).lookup name with
    | none => rfl
    | some value =>
      have nothing : ∀ name value, (∅ : AList fun _ : Text => Text).lookup name = some value →
          name ∈ selectedHeaders := by
        intro name value isSome
        rw [AList.lookup_empty] at isSome
        cases isSome
      exact absurd (selected_of_lookup (lines body) ⟨∅, none⟩ nothing isValue) notSelected

theorem isEmpty_headerValues (body : Text) :
    (headerValues body).entries.isEmpty = true ↔
      ∀ name ∈ selectedHeaders, fieldNamed name body = none := by
  have noValues : (headerValues body).entries.isEmpty = true ↔
      ∀ name, (headerValues body).lookup name = none := by
    rw [List.isEmpty_iff]
    constructor
    · intro isEmpty name
      rw [AList.lookup_eq_none, AList.mem_keys, AList.keys, isEmpty]
      exact List.not_mem_nil
    · intro noValue
      cases isEntries : (headerValues body).entries with
      | nil => rfl
      | cons entry rest =>
        have isKey : entry.1 ∈ headerValues body := by
          rw [AList.mem_keys, AList.keys, isEntries]
          exact List.mem_cons_self
        exact absurd isKey (AList.lookup_eq_none.mp (noValue entry.1))
  rw [noValues]
  refine forall_congr' fun name => ?_
  rw [lookup_headerValues]
  split
  next selected => simp [selected]
  next notSelected => simp [notSelected]

/-! ## Stored values -/

theorem fold_of_mem_readFields {lines : List Text} {field : FoldedField}
    (isField : field ∈ readFields lines) :
    (∀ line ∈ field.folds, IsFold line) ∧
      ∀ c ∈ field.value ++ field.folds.flatten, ∃ line ∈ lines, c ∈ line := by
  induction lines with
  | nil => cases isField
  | cons line rest ih =>
    have later : field ∈ readFields rest → (∀ line ∈ field.folds, IsFold line) ∧
        ∀ c ∈ field.value ++ field.folds.flatten, ∃ other ∈ line :: rest, c ∈ other := by
      intro isLater
      refine ⟨(ih isLater).1, fun c isMember => ?_⟩
      obtain ⟨other, isOther, inside⟩ := (ih isLater).2 c isMember
      exact ⟨other, List.mem_cons_of_mem _ isOther, inside⟩
    rw [readFields] at isField
    split at isField
    · exact later isField
    · cases isSplit : splitOnce ':' line with
      | none =>
        rw [isSplit] at isField
        exact later isField
      | some parts =>
        rw [isSplit] at isField
        cases List.mem_cons.mp isField with
        | inr isLater => exact later isLater
        | inl isFirst =>
          rw [isFirst]
          refine ⟨fun fold isFold => ?_, fun c isMember => ?_⟩
          · have taken : fold ∈ rest.takeWhile (IsFold ·) := isFold
            have holds := List.mem_takeWhile_imp taken
            exact of_decide_eq_true holds
          cases List.mem_append.mp isMember with
          | inl inValue =>
            refine ⟨line, List.mem_cons_self, ?_⟩
            rw [(splitOnce_eq_some isSplit).1]
            exact List.mem_append_right _ (List.mem_cons_of_mem _ inValue)
          | inr inFolds =>
            obtain ⟨fold, isFold, inside⟩ := List.mem_flatten.mp inFolds
            exact ⟨fold, List.mem_cons_of_mem _ (List.takeWhile_sublist _ |>.mem isFold),
              inside⟩

theorem mem_readFields {name body : Text} {field : FoldedField}
    (isField : fieldNamed name body = some field) : field ∈ readFields (lines body) :=
  List.mem_of_mem_filter (List.mem_of_getLast? isField)

namespace FoldedField

theorem words_unfold {folds : List Text} (areFolds : ∀ line ∈ folds, IsFold line) (value : Text) :
    words isWhitespace (unfold value folds) =
      words isWhitespace value ++ words isWhitespace folds.flatten := by
  induction folds generalizing value with
  | nil => rw [List.flatten_nil, words_nil, List.append_nil]; rfl
  | cons line folds ih =>
    obtain ⟨-, later⟩ := List.forall_mem_cons.mp areFolds
    have own : words isWhitespace (trimText line) = words isWhitespace line := words_strip line
    rw [unfold, List.foldl_cons, ← unfold, ih later, words_append_blank (by decide),
      List.flatten_cons, words_append (flatten_starts_blank later), own, List.append_assoc]

theorem words_joinFields (text : Text) :
    words isWhitespace (joinFields text) = words isWhitespace text :=
  words_intercalate (by decide) fun _ isMember => isWord_of_mem isMember

variable {left right : FoldedField}

theorem words_stored {field : FoldedField} (areFolds : ∀ line ∈ field.folds, IsFold line) :
    words isWhitespace field.stored = words isWhitespace field.normalized := by
  rw [stored, words_unfold areFolds, words_joinFields, normalized, words_joinFields,
    words_append (flatten_starts_blank areFolds)]

theorem spacing_trimText (line : Text) :
    Foundation.spacing isWhitespace (trimText line) = insideSpacing line := by
  have mark : Option.isSome ∘ (fun c => if isWhitespace c then some c else none) =
      isWhitespace := by
    funext c
    cases isBlank : isWhitespace c with
    | true => simp [isBlank]
    | false => simp [isBlank]
  rw [insideSpacing, Foundation.spacing, Foundation.spacing, trimText, trimStart,
    List.dropWhile_map, mark, ← List.map_reverse, List.dropWhile_map, mark, ← List.map_reverse]

theorem spacing_joinFields (text : Text) :
    Foundation.spacing isWhitespace (joinFields text) = [some ' '].intercalate
      ((words isWhitespace text).map fun word => List.replicate word.length none) := by
  have marks : ∀ word ∈ words isWhitespace text,
      Foundation.spacing isWhitespace word = List.replicate word.length none := by
    intro word isMember
    refine List.eq_replicate_iff.mpr ⟨List.length_map _, fun mark isMark => ?_⟩
    obtain ⟨c, isLetter, rfl⟩ := List.mem_map.mp isMark
    rw [(isWord_of_mem isMember).2 c isLetter, if_neg Bool.false_ne_true]
  have joined : joinFields text = [' '].intercalate (words isWhitespace text) := rfl
  rw [joined, ← List.map_congr_left marks]
  generalize words isWhitespace text = parts
  cases parts with
  | nil => rfl
  | cons first rest =>
    induction rest generalizing first with
    | nil => simp [Foundation.spacing]
    | cons second rest ih =>
      rw [List.map_cons, List.map_cons, List.intercalate_cons_cons,
        List.intercalate_cons_cons, ← List.map_cons, ← ih]
      simp [Foundation.spacing, isWhitespace]

/-- The lines of a field determine the blanks of what is stored for it. -/
theorem spacing_stored (field : FoldedField) :
    Foundation.spacing isWhitespace field.stored = field.spacing := by
  have folded : ∀ (folds : List Text) (value : Text),
      Foundation.spacing isWhitespace (unfold value folds) =
        Foundation.spacing isWhitespace value ++
          folds.flatMap fun line => some ' ' :: insideSpacing line := by
    intro folds
    induction folds with
    | nil =>
      intro value
      rw [List.flatMap_nil, List.append_nil]
      rfl
    | cons line folds ih =>
      intro value
      rw [unfold, List.foldl_cons, ← unfold, ih, List.flatMap_cons, ← spacing_trimText,
        ← List.append_assoc, Foundation.spacing, List.map_append, List.map_cons]
      rfl
  rw [stored, folded, spacing_joinFields, spacing]

/-- Two fields are stored as the same text when they have the same words and are spaced alike. -/
theorem stored_eq_iff (leftFolds : ∀ line ∈ left.folds, IsFold line)
    (rightFolds : ∀ line ∈ right.folds, IsFold line) :
    left.stored = right.stored ↔
      left.normalized = right.normalized ∧ left.spacing = right.spacing := by
  constructor
  · intro same
    have sameWords := words_stored leftFolds
    rw [same, words_stored rightFolds, normalized, normalized, words_joinFields,
      words_joinFields] at sameWords
    refine ⟨?_, by rw [← spacing_stored, same, spacing_stored]⟩
    exact congrArg [' '].intercalate sameWords.symm
  · rintro ⟨sameValue, sameSpacing⟩
    refine eq_of_spacing ?_ (by rw [spacing_stored, sameSpacing, spacing_stored])
    rw [words_stored leftFolds, words_stored rightFolds, sameValue]

theorem mem_joinFields {c : Char} {text : Text} (isMember : c ∈ joinFields text) :
    c = ' ' ∨ c ∈ text := by
  cases mem_intercalate isMember with
  | inl isSpace => exact .inl isSpace
  | inr inWord =>
    have inside : c ∈ (words isWhitespace text).flatten := List.mem_flatten.mpr inWord
    rw [flatten_words] at inside
    exact .inr (List.mem_of_mem_filter inside)

theorem mem_trimText {c : Char} {text : Text} (isMember : c ∈ trimText text) : c ∈ text := by
  rw [trimText, List.mem_reverse] at isMember
  have inside := (List.dropWhile_sublist _).mem isMember
  rw [List.mem_reverse] at inside
  exact (List.dropWhile_sublist _).mem inside

theorem mem_unfold {c : Char} {value : Text} {folds : List Text}
    (isMember : c ∈ unfold value folds) : c = ' ' ∨ c ∈ value ∨ c ∈ folds.flatten := by
  induction folds generalizing value with
  | nil => exact .inr (.inl isMember)
  | cons line folds ih =>
    rcases ih isMember with isSpace | inValue | inFolds
    · exact .inl isSpace
    · rcases List.mem_append.mp inValue with inValue | inLine
      · exact .inr (.inl inValue)
      · rcases List.mem_cons.mp inLine with isSpace | inLine
        · exact .inl isSpace
        · exact .inr (.inr (List.mem_append_left _ (mem_trimText inLine)))
    · exact .inr (.inr (List.mem_append_right _ inFolds))

end FoldedField

theorem newline_not_mem_lines {text line : Text} (isLine : line ∈ lines text) : '\n' ∉ line := by
  have ofPart : ∀ part ∈ text.splitOn '\n', '\n' ∉ part := by
    intro part isPart isMember
    rw [List.splitOn_eq_splitOnP] at isPart
    exact absurd (not_blank_of_mem_splitOnP isPart '\n' isMember) (by decide)
  rcases List.mem_append.mp isLine with isEnded | isLast
  · obtain ⟨part, isPart, rfl⟩ := List.mem_map.mp isEnded
    have noNewline := ofPart part ((List.dropLast_sublist _).mem isPart)
    rw [withoutReturn]
    split
    · exact fun isMember => noNewline ((List.dropLast_sublist _).mem isMember)
    · exact noNewline
  · exact ofPart line (List.mem_of_mem_drop (List.mem_of_mem_filter isLast))

theorem newline_not_mem_stored {name body : Text} {field : FoldedField}
    (isField : fieldNamed name body = some field) : '\n' ∉ field.stored := by
  intro isMember
  have isRead := fold_of_mem_readFields (mem_readFields isField)
  have inside : '\n' ∈ field.value ++ field.folds.flatten := by
    rcases FoldedField.mem_unfold isMember with isSpace | inValue | inFolds
    · cases isSpace
    · rcases FoldedField.mem_joinFields inValue with isSpace | inValue
      · cases isSpace
      · exact List.mem_append_left _ inValue
    · exact List.mem_append_right _ inFolds
  obtain ⟨line, isLine, inLine⟩ := isRead.2 _ inside
  exact newline_not_mem_lines isLine inLine

/-- The text that is hashed has every value on a line of its own. -/
theorem canonicalText_inj {left right : Text → Option Text}
    (leftLine : ∀ name ∈ selectedHeaders, '\n' ∉ (left name).getD [])
    (rightLine : ∀ name ∈ selectedHeaders, '\n' ∉ (right name).getD []) :
    canonicalText left = canonicalText right ↔
      ∀ name ∈ selectedHeaders, (left name).getD [] = (right name).getD [] := by
  have names : ∀ name ∈ selectedHeaders, '\n' ∉ name := by decide +kernel
  have apart : ∀ values : Text → Option Text,
      (∀ name ∈ selectedHeaders, '\n' ∉ (values name).getD []) →
      (canonicalText values).splitOn '\n' =
        selectedHeaders.map fun name => name ++ ':' :: (values name).getD [] := by
    intro values oneLine
    refine List.splitOn_intercalate _ (List.forall_mem_map.mpr fun name selected => ?_)
      (List.cons_ne_nil _ _)
    rw [List.mem_append, List.mem_cons, not_or, not_or]
    exact ⟨names name selected, by decide, oneLine name selected⟩
  constructor
  · intro same
    have sameLines := apart left leftLine
    rw [same, apart right rightLine, List.map_inj_left] at sameLines
    intro name selected
    have sameLine := List.append_cancel_left (sameLines name selected)
    exact (List.cons.inj sameLine).2.symm
  · intro same
    rw [canonicalText, canonicalText]
    refine congrArg _ (List.map_inj_left.mpr fun name selected => ?_)
    rw [same name selected]

/-! ## Hexadecimal digits -/

theorem digitChar_inj : ∀ left < 16, ∀ right < 16,
    Nat.digitChar left = Nat.digitChar right → left = right := by decide

theorem hexEncode_injective : Function.Injective hexEncode := by
  intro left right same
  induction left generalizing right with
  | nil =>
    cases right with
    | nil => rfl
    | cons other right => cases same
  | cons byte left ih =>
    cases right with
    | nil => cases same
    | cons other right =>
      obtain ⟨high, rest⟩ := List.cons.inj same
      obtain ⟨low, rest⟩ := List.cons.inj rest
      have byteSize := byte.toNat_lt
      have otherSize := other.toNat_lt
      have sameHigh := digitChar_inj _ (by omega) _ (by omega) high
      have sameLow := digitChar_inj _ (by omega) _ (by omega) low
      have sameByte : byte = other := UInt8.toNat_inj.mp (by omega)
      rw [sameByte, ih rest]

/-! ## Identities -/

section Identities

variable {left right : Text}

/-- What is hashed for two headers agrees when the values that are stored do. -/
theorem hashedText_eq_iff :
    hashedText left = hashedText right ↔ ∀ name ∈ selectedHeaders,
      ((fieldNamed name left).map FoldedField.stored).getD [] =
        ((fieldNamed name right).map FoldedField.stored).getD [] := by
  have oneLine : ∀ body, ∀ name ∈ selectedHeaders,
      '\n' ∉ ((headerValues body).lookup name).getD [] := by
    intro body name selected
    rw [lookup_headerValues, if_pos selected]
    cases isField : fieldNamed name body with
    | none => exact List.not_mem_nil
    | some field => exact newline_not_mem_stored isField
  rw [hashedText, hashedText, canonicalText_inj (oneLine left) (oneLine right)]
  refine forall₂_congr fun name selected => ?_
  rw [lookup_headerValues, lookup_headerValues, if_pos selected, if_pos selected]

/-- Headers with different values are hashed differently. -/
theorem hashedText_ne (differ : selectedValues left ≠ selectedValues right) :
    hashedText left ≠ hashedText right := by
  intro same
  refine differ (List.map_inj_left.mpr fun name selected => ?_)
  have normalizedOf : ∀ body, words isWhitespace
      (((fieldNamed name body).map FoldedField.stored).getD []) =
        words isWhitespace (((fieldNamed name body).map FoldedField.normalized).getD []) := by
    intro body
    cases isField : fieldNamed name body with
    | none => rfl
    | some field =>
      exact FoldedField.words_stored (fold_of_mem_readFields (mem_readFields isField)).1
  have sameWords := normalizedOf left
  rw [hashedText_eq_iff.mp same name selected, normalizedOf right] at sameWords
  have rejoined : ∀ body, [' '].intercalate (words isWhitespace
      (((fieldNamed name body).map FoldedField.normalized).getD [])) =
        ((fieldNamed name body).map FoldedField.normalized).getD [] := by
    intro body
    cases fieldNamed name body with
    | none => rw [Option.map_none, Option.getD_none, words_nil, List.intercalate_nil]
    | some field =>
      rw [Option.map_some, Option.getD_some, FoldedField.normalized,
        FoldedField.words_joinFields]
      rfl
  rw [← rejoined left, ← rejoined right, sameWords]

theorem spacing_of_stored {name : Text} {field other : FoldedField}
    (isField : fieldNamed name left = some field) (isOther : fieldNamed name right = some other) :
    field.stored = other.stored ↔
      field.normalized = other.normalized ∧ field.spacing = other.spacing :=
  FoldedField.stored_eq_iff (fold_of_mem_readFields (mem_readFields isField)).1
    (fold_of_mem_readFields (mem_readFields isOther)).1

/-- Headers with the same values are hashed as the same text when they are spaced alike. -/
theorem hashedText_eq_of_sameValues (sameValues : SameValues left right) :
    hashedText left = hashedText right ↔ SameSpacing left right := by
  rw [hashedText_eq_iff, SameSpacing]
  refine forall₂_congr fun name selected => ?_
  have same := sameValues name selected
  cases isField : fieldNamed name left with
  | none =>
    rw [isField] at same
    rw [Option.map_eq_none_iff.mp same.symm]
    simp
  | some field =>
    rw [isField] at same
    obtain ⟨other, isOther, sameNormalized⟩ := Option.map_eq_some_iff.mp same.symm
    rw [isOther, Option.map_some, Option.map_some, Option.getD_some, Option.getD_some,
      spacing_of_stored isField isOther]
    simp [sameNormalized]

theorem isEmpty_of_sameValues (sameValues : SameValues left right) :
    (headerValues left).entries.isEmpty = (headerValues right).entries.isEmpty := by
  rw [Bool.eq_iff_iff, isEmpty_headerValues, isEmpty_headerValues]
  refine forall₂_congr fun name selected => ?_
  rw [← Option.map_eq_none_iff, sameValues name selected, Option.map_eq_none_iff]

/-- A Message-ID begins with `<`. -/
theorem fingerprint_ne_messageId (sha256 : Bytes → Bytes) {id : Text}
    (isId : parseMessageIdHeader left = some id) :
    headerFingerprint sha256 right ≠ some (String.ofList id) := by
  have whole : parseMessageIdHeader left =
      ((lines left).foldlM readMessageId none).bind fun messageId =>
        messageId.bind fun value => identifierOf (joinFields value) := rfl
  rw [whole, Option.bind_eq_some_iff] at isId
  obtain ⟨messageId, -, isValue⟩ := isId
  obtain ⟨value, -, isIdentifier⟩ := Option.bind_eq_some_iff.mp isValue
  obtain ⟨-, before, after, isText, -⟩ := identifierOf_eq_some.mp isIdentifier
  rw [headerFingerprint_eq]
  split
  · exact (Option.some_ne_none _).symm
  · intro same
    have sameText := String.ofList_injective (Option.some.inj same)
    rw [isText] at sameText
    have starts : "header-fingerprint:".toList = 'h' :: "eader-fingerprint:".toList := rfl
    rw [starts] at sameText
    exact absurd (List.cons.inj sameText).1 (by decide)

/-- Two headers with the same values are identified alike exactly when they are spaced alike;
headers with different values are hashed differently, and no fallback identity is a Message-ID. -/
theorem headerFingerprint_normalizes_iff {sha256 : Bytes → Bytes}
    (noCollision : sha256 (utf8Bytes (hashedText left)) = sha256 (utf8Bytes (hashedText right)) →
      hashedText left = hashedText right) :
    ((SameValues left right → headerFingerprint sha256 left = headerFingerprint sha256 right) ∧
      (selectedValues left ≠ selectedValues right → hashedText left ≠ hashedText right) ∧
      ∀ id, parseMessageIdHeader left = some id →
        headerFingerprint sha256 right ≠ some (String.ofList id)) ↔
      (SameValues left right → SameSpacing left right) := by
  constructor
  · rintro ⟨normalizes, -, -⟩ sameValues
    have same := normalizes sameValues
    rw [← hashedText_eq_of_sameValues sameValues]
    rw [headerFingerprint_eq, headerFingerprint_eq, isEmpty_of_sameValues sameValues] at same
    cases isEmpty : (headerValues right).entries.isEmpty with
    | true =>
      have noRight := (isEmpty_headerValues right).mp isEmpty
      have noLeft := (isEmpty_headerValues left).mp (isEmpty_of_sameValues sameValues ▸ isEmpty)
      rw [hashedText_eq_iff]
      intro name selected
      rw [noLeft name selected, noRight name selected]
    | false =>
      rw [isEmpty, if_neg Bool.false_ne_true, if_neg Bool.false_ne_true,
        Option.some.injEq] at same
      have sameText := String.ofList_injective same
      exact noCollision (hexEncode_injective (List.append_cancel_left sameText))
  · intro alike
    refine ⟨fun sameValues => ?_, hashedText_ne, fun id => fingerprint_ne_messageId sha256⟩
    rw [headerFingerprint_eq, headerFingerprint_eq, isEmpty_of_sameValues sameValues,
      (hashedText_eq_of_sameValues sameValues).mpr (alike sameValues)]

end Identities

/-! ## Two headers -/

/-- Every selected field occurs at most once. -/
def SingleFields (body : Text) : Prop :=
  ∀ name ∈ selectedHeaders, ((readFields (lines body)).filter (·.name = name)).length ≤ 1

instance (body : Text) : Decidable (SingleFields body) :=
  inferInstanceAs (Decidable (∀ name ∈ selectedHeaders, _))

instance (left right : Text) : Decidable (SameValues left right) :=
  inferInstanceAs (Decidable (∀ name ∈ selectedHeaders, _))

/-- The digest of the text that the headers of a report are hashed as. -/
def reportDigest : Bytes :=
  [0xbf, 0x7a, 0x11, 0xe0, 0xfa, 0xe4, 0xa2, 0x8d, 0x20, 0x64, 0xf2, 0xb6, 0x02, 0x79,
   0x89, 0xa3, 0x65, 0x8f, 0x6a, 0x8a, 0x21, 0x8c, 0xf3, 0xc0, 0x2f, 0x7f, 0xc5, 0x33,
   0xf3, 0x9e, 0x7f, 0xab]

/-- The headers of a report. -/
def reportHeader : Text :=
  ("From: sender@example.test\r\nSubject:  A   report\r\n" ++
    "Date: Tue, 01 Jan 2030 00:00:00 +0000\r\n").toList

/-- The same headers in another order, one of them folded. -/
def reorderedHeader : Text :=
  ("date: Tue, 01 Jan\n\t2030 00:00:00 +0000 \nX-Mailer: none\nSubject: A report\n" ++
    "From: sender@example.test\n").toList

/-- Blanks on the first line, folds and the order of the fields make no difference. -/
theorem report_normalizes :
    headerFingerprint (fun _ => reportDigest) reportHeader =
      headerFingerprint (fun _ => reportDigest) reorderedHeader := by
  have sameValues : SameValues reportHeader reorderedHeader := by decide +kernel
  have sameText : hashedText reportHeader = hashedText reorderedHeader := by decide +kernel
  have normalizes := @headerFingerprint_normalizes_iff reportHeader reorderedHeader
    (fun _ => reportDigest) fun _ => sameText
  exact (normalizes.mpr fun _ => (hashedText_eq_of_sameValues sameValues).mp sameText).1 sameValues

/-- Two spaces on a line that a field is folded onto are kept. -/
theorem folded_spaces_kept :
    ¬∀ (sha256 : Bytes → Bytes) (left right : Text), SingleFields left → SingleFields right →
      (sha256 (utf8Bytes (hashedText left)) = sha256 (utf8Bytes (hashedText right)) →
        hashedText left = hashedText right) →
      SameValues left right →
      headerFingerprint sha256 left = headerFingerprint sha256 right := by
  intro always
  have same := always id "Subject: a b c\r\n".toList "Subject: a\r\n b  c\r\n".toList
    (by decide +kernel) (by decide +kernel) (by decide +kernel) (by decide +kernel)
  exact absurd same (by decide +kernel)

end MailSwiftSync.Imap
