import Mathlib.Data.List.TakeWhile
import MailSwiftSync.Imap.Text

/-!
# FETCH data lists

A FETCH response has a list of names with values: atoms, quoted strings and lists in
parentheses.  The reader of UIDs skips the values and takes that of the item `UID`.
-/

namespace MailSwiftSync.Imap

/-! ## The reader -/

/-- `u8::is_ascii_whitespace`, for a character. -/
def isAsciiBlank (c : Char) : Bool :=
  c == ' ' || c == '\t' || c == '\n' || c == '\x0C' || c == '\r'

/-- A character of an atom. -/
def isDataAtomChar (c : Char) : Bool :=
  !isAsciiBlank c && !(c == '(' || c == ')' || c == '"')

inductive FetchDataComponent where
  | atom (value : Text)
  | quoted
  | list
deriving DecidableEq, Repr

/-- The rest of a quoted string. -/
def quotedEnd (escaped : Bool) : Text → Option Text
  | [] => none
  | c :: rest =>
    if escaped then quotedEnd false rest
    else if c = '\\' then quotedEnd true rest
    else if c = '"' then some rest
    else quotedEnd false rest

/-- The rest of a list that is still open at some depth. -/
def listEnd (depth : Nat) (quoted escaped : Bool) : Text → Option Text
  | [] => none
  | c :: rest =>
    if quoted then
      if escaped then listEnd depth true false rest
      else if c = '\\' then listEnd depth true true rest
      else if c = '"' then listEnd depth false false rest
      else listEnd depth true false rest
    else if c = '"' then listEnd depth true false rest
    else if c = '(' then listEnd (depth + 1) false false rest
    else if c = ')' then
      match depth with
      | 0 => none
      | 1 => some rest
      | depth + 2 => listEnd (depth + 1) false false rest
    else listEnd depth false false rest

def parseFetchDataComponent (text : Text) : Option (FetchDataComponent × Text) :=
  match text with
  | [] => none
  | '(' :: _ => (listEnd 0 false false text).map fun rest => (.list, rest)
  | '"' :: rest => (quotedEnd false rest).map fun rest => (.quoted, rest)
  | ')' :: _ => none
  | _ =>
    if text.takeWhile isDataAtomChar = [] then none
    else some (.atom (text.takeWhile isDataAtomChar), text.dropWhile isDataAtomChar)

/-! ## Well-formed data -/

/-- What is between the quotes of a string. -/
inductive QuotedBody : Text → Prop
  | nil : QuotedBody []
  | plain {c : Char} {rest : Text} (notEscape : c ≠ '\\') (notQuote : c ≠ '"')
      (later : QuotedBody rest) : QuotedBody (c :: rest)
  | escaped (c : Char) {rest : Text} (later : QuotedBody rest) : QuotedBody ('\\' :: c :: rest)

/-- What is between the parentheses of a list. -/
inductive Balanced : Text → Prop
  | nil : Balanced []
  | plain {c : Char} {rest : Text} (isPlain : c ∉ ['"', '(', ')']) (later : Balanced rest) :
      Balanced (c :: rest)
  | quoted {body rest : Text} (isBody : QuotedBody body) (later : Balanced rest) :
      Balanced ('"' :: (body ++ '"' :: rest))
  | list {inner rest : Text} (isInner : Balanced inner) (later : Balanced rest) :
      Balanced ('(' :: (inner ++ ')' :: rest))

/-- The text of a component. -/
inductive ComponentText : FetchDataComponent → Text → Prop
  | atom {value : Text} (nonempty : value ≠ []) (isAtom : ∀ c ∈ value, isDataAtomChar c = true) :
      ComponentText (.atom value) value
  | quoted {body : Text} (isBody : QuotedBody body) :
      ComponentText .quoted ('"' :: (body ++ ['"']))
  | list {inner : Text} (isInner : Balanced inner) :
      ComponentText .list ('(' :: (inner ++ [')']))

/-- A text that does not go on with an atom. -/
def EndsAtom (text : Text) : Prop := ∀ c ∈ text.head?, isDataAtomChar c = false

/-- A name with its value. -/
structure DataItem where
  name : Text
  value : FetchDataComponent
deriving DecidableEq, Repr

/-- The text of some items: names and values, each as long as it can be, with blanks between. -/
inductive ItemsText : List DataItem → Text → Prop
  | nil {text : Text} (isBlank : ∀ c ∈ text, isAsciiBlank c = true) : ItemsText [] text
  | cons {lead name gap valueText rest : Text} {value : FetchDataComponent}
      {items : List DataItem} (leadBlank : ∀ c ∈ lead, isAsciiBlank c = true)
      (isName : ComponentText (.atom name) name) (nameEnds : EndsAtom (gap ++ valueText ++ rest))
      (gapBlank : ∀ c ∈ gap, isAsciiBlank c = true) (isValue : ComponentText value valueText)
      (valueEnds : ∀ text, value = .atom text → EndsAtom rest) (later : ItemsText items rest) :
      ItemsText ({ name := name, value := value } :: items)
        (lead ++ (name ++ (gap ++ (valueText ++ rest))))

/-! ## Components -/

/-- What is left of a quoted string, after a backslash or not. -/
def QuotedRest (escaped : Bool) (body : Text) : Prop :=
  if escaped then ∃ c rest, body = c :: rest ∧ QuotedBody rest else QuotedBody body

variable {text rest : Text}

theorem quotedEnd_sound {escaped : Bool} (isEnd : quotedEnd escaped text = some rest) :
    ∃ body, QuotedRest escaped body ∧ text = body ++ '"' :: rest := by
  induction text generalizing escaped with
  | nil => cases isEnd
  | cons c text ih =>
    rw [quotedEnd] at isEnd
    split at isEnd
    next isEscaped =>
      obtain ⟨body, isBody, rfl⟩ := ih isEnd
      exact ⟨c :: body, by rw [isEscaped]; exact ⟨c, body, rfl, isBody⟩, rfl⟩
    next notEscaped =>
      rw [Bool.eq_false_iff.mpr notEscaped]
      split at isEnd
      next isBackslash =>
        obtain ⟨body, ⟨next, more, rfl, isBody⟩, rfl⟩ := ih isEnd
        exact ⟨c :: next :: more, isBackslash ▸ QuotedBody.escaped next isBody, rfl⟩
      next notBackslash =>
        split at isEnd
        next isQuote =>
          cases isEnd
          exact ⟨[], QuotedBody.nil, by rw [isQuote]; rfl⟩
        next notQuote =>
          obtain ⟨body, isBody, rfl⟩ := ih isEnd
          exact ⟨c :: body, QuotedBody.plain notBackslash notQuote isBody, rfl⟩

theorem listEnd_quoted (depth : Nat) (escaped : Bool) (text : Text) :
    listEnd depth true escaped text =
      (quotedEnd escaped text).bind (listEnd depth false false) := by
  induction text generalizing escaped with
  | nil => rfl
  | cons c text ih =>
    rw [listEnd.eq_def, quotedEnd]
    dsimp only
    rw [if_pos rfl]
    split
    · exact ih false
    · split
      · exact ih true
      · split
        · rfl
        · exact ih false

/-- A text that closes some lists and ends with the last of them. -/
inductive Closes : Nat → Text → Prop
  | last {inner : Text} (isInner : Balanced inner) : Closes 0 (inner ++ [')'])
  | more {depth : Nat} {inner rest : Text} (isInner : Balanced inner) (later : Closes depth rest) :
      Closes (depth + 1) (inner ++ ')' :: rest)

theorem Closes.prepend {depth : Nat} {text : Text} (closes : Closes depth text) (before : Text)
    (extend : ∀ inner, Balanced inner → Balanced (before ++ inner)) :
    Closes depth (before ++ text) := by
  cases closes with
  | last isInner =>
    rw [← List.append_assoc]
    exact .last (extend _ isInner)
  | more isInner later =>
    rw [← List.append_assoc]
    exact .more (extend _ isInner) later

theorem listEnd_sound {depth : Nat} (isEnd : listEnd (depth + 1) false false text = some rest) :
    ∃ before, Closes depth before ∧ text = before ++ rest := by
  induction isLength : text.length using Nat.strong_induction_on generalizing depth text with
  | h length ih =>
    cases text with
    | nil =>
      rw [listEnd] at isEnd
      cases isEnd
    | cons c text =>
      have shorter : ∀ later : Text, later.length ≤ text.length → later.length < length := by
        intro later isShort
        rw [← isLength, List.length_cons]
        omega
      rw [listEnd.eq_def] at isEnd
      dsimp only at isEnd
      rw [if_neg Bool.false_ne_true] at isEnd
      split at isEnd
      next isQuote =>
        rw [listEnd_quoted, Option.bind_eq_some_iff] at isEnd
        obtain ⟨later, isQuoted, isEnd⟩ := isEnd
        obtain ⟨body, isBody, rfl⟩ := quotedEnd_sound isQuoted
        obtain ⟨before, closes, rfl⟩ := ih _ (shorter later (by simp; omega)) isEnd rfl
        refine ⟨'"' :: (body ++ '"' :: before), ?_, ?_⟩
        · have extended := closes.prepend ('"' :: (body ++ ['"'])) fun inner isInner => by
            rw [List.cons_append, List.append_assoc, List.singleton_append]
            exact .quoted isBody isInner
          rw [List.cons_append, List.append_assoc, List.singleton_append] at extended
          exact extended
        · rw [isQuote, List.cons_append, List.append_assoc, List.cons_append]
      next notQuote =>
        split at isEnd
        next isOpen =>
          obtain ⟨before, closes, rfl⟩ := ih _ (shorter text le_rfl) isEnd rfl
          cases closes with
          | @more _ inner rest' isInner later =>
            refine ⟨'(' :: (inner ++ ')' :: rest'), ?_, by rw [isOpen]; rfl⟩
            have extended := later.prepend ('(' :: (inner ++ [')'])) fun more isMore => by
              rw [List.cons_append, List.append_assoc, List.singleton_append]
              exact .list isInner isMore
            rw [List.cons_append, List.append_assoc, List.singleton_append] at extended
            exact extended
        next notOpen =>
          split at isEnd
          next isClose =>
            cases depth with
            | zero =>
              cases isEnd
              exact ⟨[')'], .last .nil, by rw [isClose]; rfl⟩
            | succ depth =>
              obtain ⟨before, closes, rfl⟩ := ih _ (shorter text le_rfl) isEnd rfl
              exact ⟨')' :: before, .more .nil closes, by rw [isClose]; rfl⟩
          next notClose =>
            obtain ⟨before, closes, rfl⟩ := ih _ (shorter text le_rfl) isEnd rfl
            refine ⟨c :: before, ?_, rfl⟩
            exact closes.prepend [c] fun inner isInner =>
              .plain (by simp [notQuote, notOpen, notClose]) isInner

variable {component : FetchDataComponent}

/-- A component is read as long as it can be. -/
theorem parseFetchDataComponent_sound
    (isParsed : parseFetchDataComponent text = some (component, rest)) :
    ∃ before, ComponentText component before ∧ text = before ++ rest ∧
      ∀ value, component = .atom value → EndsAtom rest := by
  rw [parseFetchDataComponent.eq_def] at isParsed
  split at isParsed
  next => cases isParsed
  next isOpen =>
    obtain ⟨later, isEnd, isPair⟩ := Option.map_eq_some_iff.mp isParsed
    cases isPair
    rw [listEnd.eq_def] at isEnd
    obtain ⟨before, closes, rfl⟩ := listEnd_sound isEnd
    cases closes with
    | @last inner isInner =>
      exact ⟨'(' :: (inner ++ [')']), .list isInner, rfl, fun value isAtom => by cases isAtom⟩
  next rest' =>
    obtain ⟨later, isEnd, isPair⟩ := Option.map_eq_some_iff.mp isParsed
    cases isPair
    obtain ⟨body, isBody, rfl⟩ := quotedEnd_sound isEnd
    refine ⟨'"' :: (body ++ ['"']), .quoted isBody, ?_, fun value isAtom => by cases isAtom⟩
    rw [List.cons_append, List.append_assoc, List.singleton_append]
  next => cases isParsed
  next =>
    split at isParsed
    next => cases isParsed
    next nonempty =>
      cases isParsed
      refine ⟨_, .atom nonempty fun c isMember => List.mem_takeWhile_imp isMember,
        (List.takeWhile_append_dropWhile).symm, fun value _ c isHead => ?_⟩
      have stops := List.head?_dropWhile_not isDataAtomChar text
      rw [Option.mem_def.mp isHead] at stops
      exact stops

theorem length_of_componentText {text : Text}
    (isText : ComponentText component text) : 0 < text.length := by
  cases isText with
  | atom nonempty isAtom => exact List.length_pos_of_ne_nil nonempty
  | quoted isBody => exact Nat.succ_pos _
  | list isInner => exact Nat.succ_pos _

theorem length_of_parse (isParsed : parseFetchDataComponent text = some (component, rest)) :
    rest.length < text.length := by
  obtain ⟨before, isText, rfl, -⟩ := parseFetchDataComponent_sound isParsed
  have positive := length_of_componentText isText
  rw [List.length_append]
  omega

/-! ## The UID of a list -/

/-- The value of the field `UID`: a number that was not there before. -/
def readUid (uid : Option Nat) : FetchDataComponent → Option Nat
  | .atom value => if uid.isSome || !value.all Char.isDigit then none else parseU64 value
  | _ => none

/-- The loop over the items of a list, with the name whose value comes next. -/
def fetchUidLoop (field : Option Text) (uid : Option Nat) (text : Text) :
    Option (Option Nat × Text) :=
  match text.dropWhile isAsciiBlank with
  | ')' :: rest => if field.isSome then none else some (uid, rest)
  | _ =>
    match _parsed : parseFetchDataComponent (text.dropWhile isAsciiBlank) with
    | none => none
    | some (component, rest) =>
      match field with
      | some name =>
        if eqIgnoreAsciiCase name "UID".toList then
          match readUid uid component with
          | none => none
          | some number => fetchUidLoop none (some number) rest
        else fetchUidLoop none uid rest
      | none =>
        match component with
        | .atom name => fetchUidLoop (some name) uid rest
        | _ => none
termination_by text.length
decreasing_by
  all_goals
    have shorter := length_of_parse _parsed
    have dropped : (text.dropWhile isAsciiBlank).length ≤ text.length :=
      (List.dropWhile_sublist isAsciiBlank).length_le
    omega

def parseParenthesizedFetchUid (data : Text) : Option Nat :=
  match trimText data with
  | '(' :: rest =>
    match fetchUidLoop none none rest with
    | some (uid, rest) => if rest.all isAsciiBlank then uid else none
    | none => none
  | _ => none

def DataItem.isUid (item : DataItem) : Bool := eqIgnoreAsciiCase item.name "UID".toList

/-- A list in parentheses, with blanks around it, in which one item is a UID. -/
def ListsUid (data : Text) (uid : Nat) : Prop :=
  ∃ items before after item digits, trimText data = '(' :: (before ++ ')' :: after) ∧
    (∀ c ∈ after, isAsciiBlank c = true) ∧ ItemsText items before ∧
    items.filter DataItem.isUid = [item] ∧ item.value = .atom digits ∧
    (∀ c ∈ digits, c.isDigit = true) ∧ parseU64 digits = some uid

/-- The UID after some items: that before them, or that of the only one. -/
def UidAfter (uid : Option Nat) (items : List DataItem) (final : Option Nat) : Prop :=
  items.filter DataItem.isUid = [] ∧ final = uid ∨
    uid = none ∧ ∃ item number, items.filter DataItem.isUid = [item] ∧
      readUid none item.value = some number ∧ final = some number

theorem UidAfter.cons_other {uid final : Option Nat} {items : List DataItem} {item : DataItem}
    (notUid : item.isUid = false) (after : UidAfter uid items final) :
    UidAfter uid (item :: items) final := by
  rw [UidAfter, List.filter_cons_of_neg (Bool.eq_false_iff.mp notUid)]
  exact after

theorem UidAfter.cons_uid {uid final : Option Nat} {items : List DataItem} {item : DataItem}
    {number : Nat} (isUid : item.isUid = true) (isNumber : readUid uid item.value = some number)
    (after : UidAfter (some number) items final) : UidAfter uid (item :: items) final := by
  have isFirst : uid = none := by
    cases uid with
    | none => rfl
    | some before =>
      cases isValue : item.value with
      | atom value =>
        simp [isValue, readUid] at isNumber
      | quoted => rw [isValue] at isNumber; cases isNumber
      | list => rw [isValue] at isNumber; cases isNumber
  rcases after with ⟨noMore, isFinal⟩ | ⟨isNone, -⟩
  · refine .inr ⟨isFirst, item, number, ?_, isFirst ▸ isNumber, isFinal⟩
    rw [List.filter_cons_of_pos isUid, noMore]
  · cases isNone

theorem EndsAtom.of_append {left right : Text} (ends : EndsAtom (left ++ right)) :
    EndsAtom left := by
  intro c isHead
  refine ends c ?_
  rw [Option.mem_def] at isHead ⊢
  rw [List.head?_append, isHead]
  rfl

/-- What the loop has read when it ends at a parenthesis: items, or the value of a name and items
after it. -/
def LoopReads (field : Option Text) (uid : Option Nat) (text : Text) (final : Option Nat)
    (rest : Text) : Prop :=
  match field with
  | none => ∃ items before, text = before ++ ')' :: rest ∧ ItemsText items before ∧
      UidAfter uid items final
  | some name => ∃ gap valueText before value items,
      text = gap ++ (valueText ++ (before ++ ')' :: rest)) ∧
      (∀ c ∈ gap, isAsciiBlank c = true) ∧ ComponentText value valueText ∧
      (∀ atom, value = .atom atom → EndsAtom before) ∧ ItemsText items before ∧
      UidAfter uid ({ name := name, value := value } :: items) final

/-- A component after blanks, and what is left of a text after it. -/
theorem component_after_blanks
    (isParsed : parseFetchDataComponent (text.dropWhile isAsciiBlank) = some (component, rest)) :
    ∃ lead before, (∀ c ∈ lead, isAsciiBlank c = true) ∧ ComponentText component before ∧
      text = lead ++ (before ++ rest) ∧ ∀ value, component = .atom value → EndsAtom rest := by
  obtain ⟨before, isText, isRest, ends⟩ := parseFetchDataComponent_sound isParsed
  refine ⟨text.takeWhile isAsciiBlank, before, fun c isMember => List.mem_takeWhile_imp isMember,
    isText, ?_, ends⟩
  rw [← isRest, List.takeWhile_append_dropWhile]

theorem fetchUidLoop_sound {field : Option Text} {uid final : Option Nat}
    (isRead : fetchUidLoop field uid text = some (final, rest)) :
    LoopReads field uid text final rest := by
  fun_induction fetchUidLoop field uid text with
  | case1 => cases isRead
  | case2 field uid text rest' closes noField =>
    cases isRead
    cases field with
    | some name => exact absurd rfl noField
    | none =>
      refine ⟨[], text.takeWhile isAsciiBlank, ?_,
        .nil fun c isMember => List.mem_takeWhile_imp isMember, .inl ⟨rfl, rfl⟩⟩
      rw [← closes, List.takeWhile_append_dropWhile]
  | case3 => cases isRead
  | case4 => cases isRead
  | case5 uid text component later isParsed name isUid number isNumber notClosed ih =>
    obtain ⟨items, before, rfl, isItems, after⟩ := ih isRead
    obtain ⟨gap, valueText, gapBlank, isValue, rfl, ends⟩ := component_after_blanks isParsed
    exact ⟨gap, valueText, before, component, items, rfl, gapBlank, isValue,
      fun atom isAtom => (ends atom isAtom).of_append, isItems,
      UidAfter.cons_uid isUid isNumber after⟩
  | case6 uid text component later isParsed name notUid notClosed ih =>
    obtain ⟨items, before, rfl, isItems, after⟩ := ih isRead
    obtain ⟨gap, valueText, gapBlank, isValue, rfl, ends⟩ := component_after_blanks isParsed
    exact ⟨gap, valueText, before, component, items, rfl, gapBlank, isValue,
      fun atom isAtom => (ends atom isAtom).of_append, isItems,
      UidAfter.cons_other (Bool.eq_false_iff.mpr notUid) after⟩
  | case7 uid text later name isParsed notClosed isParsed' ih =>
    obtain ⟨gap, valueText, before, value, items, rfl, gapBlank, isValue, valueEnds, isItems,
      after⟩ := ih isRead
    obtain ⟨lead, nameText, leadBlank, isName, rfl, ends⟩ := component_after_blanks isParsed
    cases isName with
    | atom nonempty isAtom =>
      have nameEnds : EndsAtom (gap ++ valueText ++ before) := by
        have longer := ends name rfl
        rw [← List.append_assoc, ← List.append_assoc] at longer
        exact longer.of_append
      refine ⟨{ name := name, value := value } :: items,
        lead ++ (name ++ (gap ++ (valueText ++ before))), ?_,
        .cons leadBlank (.atom nonempty isAtom) nameEnds gapBlank isValue valueEnds isItems,
        after⟩
      simp only [List.append_assoc]
  | case8 => cases isRead

/-- The list a UID was read from: its parentheses match, and the UID is that of its only item
with the name `UID`. -/
theorem parseParenthesizedFetchUid_sound {data : Text} {uid : Nat}
    (isRead : parseParenthesizedFetchUid data = some uid) : ListsUid data uid := by
  rw [parseParenthesizedFetchUid] at isRead
  split at isRead
  next opened isOpen =>
    split at isRead
    next final after isLoop =>
      split at isRead
      next isBlank =>
        cases isRead
        obtain ⟨items, before, rfl, isItems, reads⟩ := fetchUidLoop_sound isLoop
        rcases reads with ⟨-, noUid⟩ | ⟨-, item, number, isOnly, isNumber, isUid⟩
        · cases noUid
        · cases isUid
          cases isValue : item.value with
          | atom digits =>
            simp [isValue, readUid] at isNumber
            exact ⟨items, before, after, item, digits, isOpen, List.all_eq_true.mp isBlank,
              isItems, isOnly, isValue, isNumber.1, isNumber.2⟩
          | quoted => rw [isValue] at isNumber; cases isNumber
          | list => rw [isValue] at isNumber; cases isNumber
      next => cases isRead
    next => cases isRead
  next => cases isRead

end MailSwiftSync.Imap
