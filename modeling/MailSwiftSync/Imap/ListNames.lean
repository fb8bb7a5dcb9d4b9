import MailSwiftSync.Foundation.Words
import MailSwiftSync.Imap.Folders

/-!
# Quoted mailbox names

A mailbox name, quoted and read back from a LIST record.  The quotes are gone when the parser
decides whether a name is a literal.
-/

namespace MailSwiftSync.Imap

open Foundation

/-! ## Quoting -/

/-- `str::replace` of one character. -/
def replaceChar (wanted : Char) (replacement text : Text) : Text :=
  text.flatMap fun c => if c = wanted then replacement else [c]

def imapQuote (value : Text) : Except String Text :=
  if value.any isControl then .error "IMAP quoted value cannot contain control characters"
  else
    .ok ('"' :: replaceChar '"' ['\\', '"'] (replaceChar '\\' ['\\', '\\'] value) ++ ['"'])

/-- A text between quotes, with its quotes and backslashes escaped. -/
def quoted (text : Text) : Text :=
  '"' :: (text.flatMap fun c => if c = '\\' ∨ c = '"' then ['\\', c] else [c]) ++ ['"']

theorem imapQuote_eq {value : Text} (plain : ∀ c ∈ value, isControl c = false) :
    imapQuote value = .ok (quoted value) := by
  have noControl : value.any isControl = false := by
    rw [List.any_eq_false]
    exact fun c isMember => Bool.eq_false_iff.mp (plain c isMember)
  have escapes : ∀ text : Text, replaceChar '"' ['\\', '"'] (replaceChar '\\' ['\\', '\\'] text) =
      text.flatMap fun c => if c = '\\' ∨ c = '"' then ['\\', c] else [c] := by
    intro text
    rw [replaceChar, replaceChar, List.flatMap_assoc]
    apply List.flatMap_congr
    intro c _
    by_cases isBackslash : c = '\\'
    · subst isBackslash
      rfl
    · by_cases isQuote : c = '"'
      · subst isQuote
        rfl
      · simp [isBackslash, isQuote]
  rw [imapQuote, noControl, escapes]
  rfl

/-! ## Records -/

/-- The characters of a flag. -/
def IsFlagChar (c : Char) : Prop := isAsciiGraphic c = true ∧ c ∉ "()\x7b\x7d%*\"\\]".toList

/-- The name of a flag, after its backslash. -/
def IsFlagName (name : Text) : Prop := name ≠ [] ∧ ∀ c ∈ name, IsFlagChar c

/-- The text of an attribute list. -/
def attributeText (flags : List Text) : Text := [' '].intercalate (flags.map ('\\' :: ·))

/-- A hierarchy delimiter, or `NIL`. -/
def delimiterField : Option Char → Text
  | none => "NIL".toList
  | some c => quoted [c]

/-- A LIST record with a name field. -/
def listRecord (flags : List Text) (delimiter : Option Char) (field : Text) : Text :=
  "* LIST (".toList ++ (attributeText flags ++
    ')' :: ' ' :: (delimiterField delimiter ++ ' ' :: field))

/-- A record with the quoted name is accepted, its mailbox has that name and the delimiter, and
the name is quoted the same way again. -/
def ReadsBack (flags : List Text) (delimiter : Option Char) (name : Text)
    (summary : ListInventorySummary) (details : List MailboxDescriptor)
    (inventoryBytes : Nat) : Prop :=
  ∃ field inventory descriptor, imapQuote name = .ok field ∧
    recordListEntry (listRecord flags delimiter field) none
      ⟨summary, some details, inventoryBytes⟩ = .ok inventory ∧
    inventory.details = some (details ++ [descriptor]) ∧
    descriptor.wireName = String.ofList name ∧
    descriptor.delimiter = delimiter.map (fun c => String.ofList [c]) ∧
    imapQuote descriptor.wireName.toList = .ok field

/-! ## Tokens -/

theorem tokensFrom_space (read : List Text) (rest : Text) :
    tokensFrom .between read (' ' :: rest) = tokensFrom .between read rest := by
  rw [tokensFrom, if_pos rfl]

/-- The text of a quoted string. -/
theorem tokensFrom_escaped {text : Text} (plain : ∀ c ∈ text, isAsciiControl c = false)
    (value : Text) (read : List Text) (rest : Text) :
    tokensFrom (.quoted value) read
        ((text.flatMap fun c => if c = '\\' ∨ c = '"' then ['\\', c] else [c]) ++ '"' :: rest) =
      tokensFrom .between (read ++ [value ++ text]) rest := by
  induction text generalizing value with
  | nil =>
    rw [List.flatMap_nil, List.nil_append, tokensFrom, if_neg (by decide), if_pos rfl,
      List.append_nil]
  | cons c text ih =>
    have later := ih (fun other isOther => plain other (List.mem_cons_of_mem _ isOther))
      (value ++ [c])
    rw [List.append_assoc, List.singleton_append] at later
    rw [List.flatMap_cons, List.append_assoc]
    by_cases special : c = '\\' ∨ c = '"'
    · rw [if_pos special, List.cons_append, tokensFrom, if_pos rfl, List.cons_append, tokensFrom,
        if_pos (by simpa using special), List.nil_append, later]
    · have notControl := plain c List.mem_cons_self
      rw [not_or] at special
      rw [if_neg (not_or.mpr special), List.cons_append, tokensFrom, if_neg special.1,
        if_neg special.2, notControl, if_neg (by decide), List.nil_append, later]

theorem tokensFrom_quoted {text : Text} (plain : ∀ c ∈ text, isAsciiControl c = false)
    (read : List Text) (rest : Text) :
    tokensFrom .between read (quoted text ++ rest) =
      tokensFrom .between (read ++ [text]) rest := by
  rw [quoted, List.cons_append, List.cons_append, List.append_assoc, tokensFrom,
    if_neg (by decide), if_pos rfl, List.singleton_append, tokensFrom_escaped plain,
    List.nil_append]

/-- The characters of an atom as the tokenizer reads them. -/
theorem tokensFrom_atom {text : Text}
    (plain : ∀ c ∈ text, c ≠ ' ' ∧ isAsciiControl c = false) (value : Text) (read : List Text)
    (rest : Text) :
    tokensFrom (.atom value) read (text ++ rest) =
      tokensFrom (.atom (value ++ text)) read rest := by
  induction text generalizing value with
  | nil => rw [List.nil_append, List.append_nil]
  | cons c text ih =>
    have later := ih (fun other isOther => plain other (List.mem_cons_of_mem _ isOther))
      (value ++ [c])
    obtain ⟨notSpace, notControl⟩ := plain c List.mem_cons_self
    rw [List.append_assoc, List.singleton_append] at later
    rw [List.cons_append, tokensFrom, if_neg notSpace, notControl, if_neg (by decide), later]

/-! ## Attributes -/

theorem not_control_of_graphic {c : Char} (graphic : isAsciiGraphic c = true) :
    c ≠ ' ' ∧ isAsciiControl c = false ∧ c.toNat < 128 := by
  rw [isAsciiGraphic, Bool.and_eq_true, decide_eq_true_eq, decide_eq_true_eq] at graphic
  refine ⟨?_, ?_, by omega⟩
  · rintro rfl
    exact absurd graphic.1 (by decide)
  · rw [isAsciiControl, Bool.or_eq_false_iff, decide_eq_false_iff_not, decide_eq_false_iff_not]
    omega

/-- Flags are the tokens of their attribute list. -/
theorem tokens_attributeText {flags : List Text} (areFlags : ∀ flag ∈ flags, IsFlagName flag)
    (read : List Text) :
    tokensFrom .between read (attributeText flags) = some (read ++ flags.map ('\\' :: ·)) := by
  rw [attributeText]
  induction flags generalizing read with
  | nil => rw [List.map_nil, List.intercalate_nil, tokensFrom, List.append_nil]
  | cons flag flags ih =>
    have later := ih fun other isOther => areFlags other (List.mem_cons_of_mem _ isOther)
    have plain : ∀ c ∈ flag, c ≠ ' ' ∧ isAsciiControl c = false := fun c isMember =>
      have graphic := not_control_of_graphic
        ((areFlags flag List.mem_cons_self).2 c isMember).1
      ⟨graphic.1, graphic.2.1⟩
    have readFlag : ∀ rest, tokensFrom .between read ('\\' :: (flag ++ rest)) =
        tokensFrom (.atom ('\\' :: flag)) read rest := by
      intro rest
      rw [tokensFrom, if_neg (by decide), if_neg (by decide), if_neg (by decide),
        tokensFrom_atom plain]
      rfl
    cases flags with
    | nil =>
      have last := readFlag []
      rw [List.append_nil] at last
      rw [List.map_cons, List.map_nil, List.intercalate_singleton, last, tokensFrom]
    | cons second flags =>
      rw [List.map_cons] at later
      rw [List.map_cons, List.map_cons, List.intercalate_cons_cons, List.append_assoc,
        List.cons_append, readFlag, List.singleton_append, tokensFrom, if_pos rfl, later,
        List.append_assoc, List.singleton_append]

theorem mem_attributeText {flags : List Text} {c : Char} (isMember : c ∈ attributeText flags) :
    c = ' ' ∨ c = '\\' ∨ ∃ flag ∈ flags, c ∈ flag := by
  rw [attributeText] at isMember
  induction flags with
  | nil => cases isMember
  | cons flag flags ih =>
    have ofFlag : c ∈ '\\' :: flag → c = ' ' ∨ c = '\\' ∨ ∃ other ∈ flag :: flags, c ∈ other := by
      intro inFlag
      cases List.mem_cons.mp inFlag with
      | inl isBackslash => exact .inr (.inl isBackslash)
      | inr inFlag => exact .inr (.inr ⟨flag, List.mem_cons_self, inFlag⟩)
    cases flags with
    | nil =>
      rw [List.map_cons, List.map_nil, List.intercalate_singleton] at isMember
      exact ofFlag isMember
    | cons second flags =>
      rw [List.map_cons, List.map_cons, List.intercalate_cons_cons, List.append_assoc,
        List.mem_append, List.mem_append, List.mem_singleton] at isMember
      rcases isMember with inFlag | isSpace | isLater
      · exact ofFlag inFlag
      · exact .inl isSpace
      · exact (ih isLater).imp_right (Or.imp_right fun ⟨other, isOther, inOther⟩ =>
          ⟨other, List.mem_cons_of_mem _ isOther, inOther⟩)

theorem validListAttributes_attributeText {flags : List Text}
    (areFlags : ∀ flag ∈ flags, IsFlagName flag) :
    validListAttributes (attributeText flags) = true := by
  have plain : ∀ c ∈ attributeText flags, (decide (c.toNat < 128) && !isAsciiControl c &&
      !"\"()\x7b\x7d%*".toList.contains c) = true := by
    intro c isMember
    rcases mem_attributeText isMember with rfl | rfl | ⟨flag, isFlag, inFlag⟩
    · decide
    · decide
    · obtain ⟨graphic, notSpecial⟩ := (areFlags flag isFlag).2 c inFlag
      obtain ⟨-, notControl, isAscii⟩ := not_control_of_graphic graphic
      have alsoSpecial : "\"()\x7b\x7d%*".toList ⊆ "()\x7b\x7d%*\"\\]".toList := by decide
      have notListed : c ∉ "\"()\x7b\x7d%*".toList :=
        fun isListed => notSpecial (alsoSpecial isListed)
      rw [notControl, decide_eq_true isAscii, Bool.not_false, Bool.true_and, Bool.true_and,
        Bool.not_eq_true', ← Bool.not_eq_true, List.contains_iff_mem]
      exact notListed
  have flagTokens := tokens_attributeText areFlags []
  rw [validListAttributes, Bool.and_eq_true, List.all_eq_true]
  refine ⟨plain, ?_⟩
  rw [tokens, flagTokens, List.nil_append, Option.any_some, List.all_eq_true]
  intro flag isMember
  obtain ⟨name, isFlag, rfl⟩ := List.mem_map.mp isMember
  obtain ⟨nonempty, chars⟩ := areFlags name isFlag
  simp only [Bool.and_eq_true, Bool.not_eq_true', List.isEmpty_eq_false_iff, List.all_eq_true]
  refine ⟨nonempty, fun c inName => ?_⟩
  obtain ⟨graphic, notSpecial⟩ := chars c inName
  rw [← Bool.not_eq_true, List.contains_iff_mem]
  exact ⟨graphic, notSpecial⟩

/-- The attribute list ends at the first closing parenthesis. -/
theorem splitAttributes_attributes {attributes : Text}
    (plain : ∀ c ∈ attributes, c ≠ '"' ∧ c ≠ '(' ∧ c ≠ ')') (read rest : Text) :
    splitAttributes 1 false read (attributes ++ ')' :: rest) =
      some (read ++ attributes ++ [')'], rest) := by
  induction attributes generalizing read with
  | nil =>
    rw [List.nil_append, splitAttributes]
    · simp
    · simp
  | cons c attributes ih =>
    have later := ih (fun other isOther => plain other (List.mem_cons_of_mem _ isOther))
      (read ++ [c])
    obtain ⟨notQuote, notOpen, notClose⟩ := plain c List.mem_cons_self
    rw [List.append_assoc read, List.singleton_append] at later
    rw [List.cons_append, splitAttributes]
    · simp only [notQuote, notOpen, notClose, if_false, decide_false, Bool.false_and,
        Bool.false_eq_true]
      exact later
    · simp

/-! ## Records read back -/

theorem not_asciiControl {c : Char} (plain : isControl c = false) : isAsciiControl c = false := by
  rw [isControl, Bool.or_eq_false_iff, Bool.and_eq_false_iff, decide_eq_false_iff_not,
    decide_eq_false_iff_not, decide_eq_false_iff_not] at plain
  rw [isAsciiControl, Bool.or_eq_false_iff, decide_eq_false_iff_not, decide_eq_false_iff_not]
  omega

/-- The token of a delimiter field. -/
def delimiterToken : Option Char → Text
  | none => "NIL".toList
  | some c => [c]

/-- A delimiter of one ASCII character. -/
def IsDelimiter (c : Char) : Prop := c.toNat < 128 ∧ isControl c = false

section Record

variable {flags : List Text} {delimiter : Option Char} {name : Text}

theorem tokens_fields (isDelimiter : ∀ c, delimiter = some c → IsDelimiter c)
    (plain : ∀ c ∈ name, isControl c = false) :
    tokens (' ' :: (delimiterField delimiter ++ ' ' :: quoted name)) =
      some [delimiterToken delimiter, name] := by
  have readName :
      ∀ read, tokensFrom .between read (' ' :: quoted name) = some (read ++ [name]) := by
    intro read
    have isQuoted :=
      tokensFrom_quoted (fun c isMember => not_asciiControl (plain c isMember)) read []
    rw [List.append_nil] at isQuoted
    rw [tokensFrom_space, isQuoted, tokensFrom]
  rw [tokens, tokensFrom_space]
  cases delimiter with
  | none =>
    exact readName ["NIL".toList]
  | some c =>
    have notControl : ∀ other ∈ [c], isAsciiControl other = false := by
      intro other isMember
      rw [List.mem_singleton.mp isMember]
      exact not_asciiControl (isDelimiter c rfl).2
    rw [delimiterField, tokensFrom_quoted notControl]
    exact readName [[c]]

theorem listFieldLayout_record (areFlags : ∀ flag ∈ flags, IsFlagName flag)
    (isDelimiter : ∀ c, delimiter = some c → IsDelimiter c)
    (plain : ∀ c ∈ name, isControl c = false) :
    listFieldLayout (listRecord flags delimiter (quoted name)) =
      some ([delimiterToken delimiter, name], 1) := by
  have attributesPlain : ∀ c ∈ attributeText flags, c ≠ '"' ∧ c ≠ '(' ∧ c ≠ ')' := by
    intro c isMember
    have listed : ['"', '(', ')'] ⊆ "()\x7b\x7d%*\"\\]".toList := by decide
    have ofListed : c ∉ ['"', '(', ')'] := by
      rcases mem_attributeText isMember with rfl | rfl | ⟨flag, isFlag, inFlag⟩
      · decide
      · decide
      · exact fun isListed => ((areFlags flag isFlag).2 c inFlag).2 (listed isListed)
    simpa only [List.mem_cons, List.not_mem_nil, or_false, not_or] using ofListed
  have attributesSplit : ∀ rest, splitAttributes 0 false [] ('(' :: (attributeText flags ++
      ')' :: rest)) = some ('(' :: attributeText flags ++ [')'], rest) := by
    intro rest
    rw [splitAttributes]
    · exact splitAttributes_attributes attributesPlain ['('] rest
    · simp
  have inner : (('(' :: attributeText flags ++ [')']).drop 1).dropLast = attributeText flags := by
    rw [List.cons_append, List.drop_one, List.tail_cons, List.dropLast_concat]
  have steps : listFieldLayout (listRecord flags delimiter (quoted name)) =
      (splitAttributes 0 false [] ('(' :: (attributeText flags ++
        ')' :: ' ' :: (delimiterField delimiter ++ ' ' :: quoted name)))).bind fun parts =>
      Option.bind (guard (validListAttributes ((parts.1.drop 1).dropLast) = true)) fun _ =>
      (tokens parts.2).bind fun fields =>
      Option.bind (guard (fields ≠ [])) fun _ => some (fields, 1) := rfl
  rw [steps, attributesSplit]
  simp only [Option.bind_some, inner, validListAttributes_attributeText areFlags,
    tokens_fields isDelimiter plain]
  rfl

theorem splitWhitespace_list (rest : Text) :
    splitWhitespace ('*' :: ' ' :: 'L' :: 'I' :: 'S' :: 'T' :: ' ' :: rest) =
      ['*'] :: ['L', 'I', 'S', 'T'] :: words isWhitespace rest := by
  have star : IsWord isWhitespace ['*'] := isWord_of_any (by decide) (by decide)
  have keyword : IsWord isWhitespace ['L', 'I', 'S', 'T'] :=
    isWord_of_any (by decide) (by decide)
  have blank : isWhitespace ' ' = true := by decide
  have afterKeyword := words_cons_word keyword blank rest
  have afterStar := words_cons_word star blank (['L', 'I', 'S', 'T'] ++ ' ' :: rest)
  rw [afterKeyword] at afterStar
  exact afterStar

theorem isUntaggedResponse_record (field : Text) :
    isUntaggedResponse (listRecord flags delimiter field) "LIST" = true := by
  have fields : splitWhitespace (listRecord flags delimiter field) =
      ['*'] :: ['L', 'I', 'S', 'T'] :: words isWhitespace ('(' :: (attributeText flags ++
        ')' :: ' ' :: (delimiterField delimiter ++ ' ' :: field))) := splitWhitespace_list _
  have matched : (decide (['*'] = ['*']) && atomEq ['L', 'I', 'S', 'T'] "LIST") = true := by
    decide
  rw [isUntaggedResponse, fields]
  exact matched

/-- Whether there is room for another mailbox. -/
def HasRoom (summary : ListInventorySummary) (inventoryBytes : Nat)
    (descriptor : MailboxDescriptor) : Prop :=
  saturatingAdd summary.mailboxCount 1 ≤ maxImapListMailboxes ∧
    saturatingAdd inventoryBytes descriptor.bytes ≤ maxImapListInventoryBytes

variable {summary : ListInventorySummary} {details : List MailboxDescriptor}
  {inventoryBytes : Nat}

/-- A name that is not taken for a literal is read as it is. -/
theorem mailboxName_record (areFlags : ∀ flag ∈ flags, IsFlagName flag)
    (isDelimiter : ∀ c, delimiter = some c → IsDelimiter c)
    (plain : ∀ c ∈ name, isControl c = false) :
    mailboxName (listRecord flags delimiter (quoted name)) =
      if name.head? = some '\x7b' then none else some name := by
  have layout := listFieldLayout_record areFlags isDelimiter plain
  rw [mailboxName, listFields, layout]
  simp only [Option.bind_eq_bind, Option.bind_some]
  rw [guard, if_pos (by simp)]
  simp only [Option.pure_def, Option.bind_some, List.getElem?_cons_succ, List.getElem?_cons_zero,
    Option.filter_some, bne_iff_ne, ne_eq, ite_not]

theorem descriptor_delimiter (areFlags : ∀ flag ∈ flags, IsFlagName flag)
    (isDelimiter : ∀ c, delimiter = some c → IsDelimiter c)
    (plain : ∀ c ∈ name, isControl c = false) :
    listDelimiter (listRecord flags delimiter (quoted name)) = delimiter.map ([·]) ∧
      hasFixedFields (listRecord flags delimiter (quoted name)) = true := by
  have layout := listFieldLayout_record areFlags isDelimiter plain
  have fields : listFields (listRecord flags delimiter (quoted name)) =
      some ([delimiterToken delimiter, name], 1) := by
    rw [listFields, layout]
    rfl
  rw [listDelimiter, hasFixedFields, fields]
  cases delimiter with
  | none => exact ⟨rfl, rfl⟩
  | some c =>
    have isHierarchy : isHierarchyDelimiter [c] = true := by
      obtain ⟨isAscii, notControl⟩ := isDelimiter c rfl
      have notNull : c.toNat ≠ 0 := by
        intro isNull
        rw [isControl, isNull] at notControl
        cases notControl
      rw [isHierarchyDelimiter, decide_eq_true isAscii, decide_eq_true notNull]
      rfl
    constructor
    · exact Option.filter_some_pos isHierarchy
    · have isField : (eqIgnoreAsciiCase [c] "NIL".toList || isHierarchyDelimiter [c]) = true := by
        rw [isHierarchy, Bool.or_true]
      exact isField

/-- A quoted name is accepted and reads back exactly when it does not begin with a brace and there
is room for its mailbox. -/
theorem quoted_name_reads_back_iff (areFlags : ∀ flag ∈ flags, IsFlagName flag)
    (isDelimiter : ∀ c, delimiter = some c → IsDelimiter c)
    (plain : ∀ c ∈ name, isControl c = false) :
    ReadsBack flags delimiter name summary details inventoryBytes ↔
      name.head? ≠ some '\x7b' ∧ HasRoom summary inventoryBytes
        (descriptorOf (listRecord flags delimiter (quoted name)) name) := by
  have isName := mailboxName_record areFlags isDelimiter plain
  obtain ⟨isToken, fixed⟩ := descriptor_delimiter areFlags isDelimiter plain
  have isQuoted := imapQuote_eq plain
  by_cases isBrace : name.head? = some '\x7b'
  · have refused : recordListEntry (listRecord flags delimiter (quoted name)) none
        ⟨summary, some details, inventoryBytes⟩ =
        .error "IMAP LIST mailbox name was missing or malformed" := by
      simp only [recordListEntry, isUntaggedResponse_record, entryName, isName, if_pos isBrace]
      rfl
    constructor
    · rintro ⟨field, inventory, descriptor, isField, accepted, -⟩
      rw [isQuoted, Except.ok.injEq] at isField
      rw [← isField, refused] at accepted
      cases accepted
    · exact fun fits => absurd isBrace fits.1
  · rw [if_neg isBrace] at isName
    by_cases hasRoom : HasRoom summary inventoryBytes
        (descriptorOf (listRecord flags delimiter (quoted name)) name)
    · have accepted : ∃ inventory, recordListEntry (listRecord flags delimiter (quoted name)) none
          ⟨summary, some details, inventoryBytes⟩ = .ok inventory ∧
          inventory.details = some (details ++
            [descriptorOf (listRecord flags delimiter (quoted name)) name]) := by
        simp only [recordListEntry, isUntaggedResponse_record, entryName, isName, fixed,
          Bool.not_true, Bool.false_eq_true, if_false, bind, Except.bind,
          if_neg (not_lt.mpr hasRoom.1), if_neg (not_lt.mpr hasRoom.2), pure, Except.pure,
          Except.ok.injEq, exists_eq_left']
      obtain ⟨inventory, isAccepted, isDetails⟩ := accepted
      have sameDelimiter :
          (descriptorOf (listRecord flags delimiter (quoted name)) name).delimiter =
          delimiter.map fun c => String.ofList [c] := by
        rw [descriptorOf, isToken, Option.map_map]
        rfl
      have sameField : imapQuote (String.ofList name).toList = .ok (quoted name) := by
        rw [String.toList_ofList]
        exact isQuoted
      exact iff_of_true
        ⟨quoted name, inventory, _, isQuoted, isAccepted, isDetails, rfl, sameDelimiter, sameField⟩
        ⟨isBrace, hasRoom⟩
    · constructor
      · rintro ⟨field, inventory, descriptor, isField, accepted, -⟩
        rw [isQuoted, Except.ok.injEq] at isField
        rw [← isField] at accepted
        refine ⟨isBrace, ?_⟩
        simp only [recordListEntry, isUntaggedResponse_record, entryName, isName, fixed,
          Bool.not_true, Bool.false_eq_true, if_false, bind, Except.bind] at accepted
        split at accepted
        next => cases accepted
        next enoughMailboxes =>
          split at accepted
          next => cases accepted
          next enoughBytes => exact ⟨not_lt.mp enoughMailboxes, not_lt.mp enoughBytes⟩
      · exact fun fits => absurd fits.2 hasRoom

end Record

/-! ## A name that begins with a brace -/

namespace BraceName

/-- A name with quotes and a backslash reads back. -/
theorem quotes_read_back :
    ReadsBack ["HasNoChildren".toList, "Sent".toList] (some '.') "\"old\" \\ sent".toList
      {} [] 0 := by
  have areFlags : (["HasNoChildren".toList, "Sent".toList].all fun flag =>
      flag ≠ [] && flag.all fun c => isAsciiGraphic c &&
        c ∉ "()\x7b\x7d%*\"\\]".toList) = true := by decide
  simp only [List.all_eq_true, Bool.and_eq_true, decide_eq_true_eq] at areFlags
  exact (quoted_name_reads_back_iff areFlags (by rintro c ⟨⟩; exact ⟨by decide, by decide⟩)
    (forall_eq_false_of_any (by decide))).mpr ⟨by decide, by decide +kernel, by decide +kernel⟩

/-- The name `{a` is refused. -/
theorem brace_refused :
    ¬∀ (flags : List Text) (delimiter : Option Char) (name : Text),
      (∀ flag ∈ flags, IsFlagName flag) → (∀ c, delimiter = some c → IsDelimiter c) →
      (∀ c ∈ name, isControl c = false) → ReadsBack flags delimiter name {} [] 0 := by
  intro always
  obtain ⟨field, inventory, descriptor, isField, accepted, -⟩ :=
    always [] none ['\x7b', 'a'] (by simp) (by simp) (forall_eq_false_of_any (by decide))
  have isQuoted : field = ['"', '\x7b', 'a', '"'] := (Except.ok.inj isField).symm
  have refused :
      recordListEntry (listRecord [] none ['"', '\x7b', 'a', '"']) none ⟨{}, some [], 0⟩ =
      .error "IMAP LIST mailbox name was missing or malformed" := by decide +kernel
  rw [isQuoted, refused] at accepted
  cases accepted

end BraceName

end MailSwiftSync.Imap
