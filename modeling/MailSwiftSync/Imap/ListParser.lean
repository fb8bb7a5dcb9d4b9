import MailSwiftSync.Imap.Text

/-!
# LIST records

The fields of an untagged LIST response: its attributes, the hierarchy delimiter and the name of
the mailbox.
-/

namespace MailSwiftSync.Imap

/-! ## Atoms -/

/-- `u8::is_ascii_control`, of a character. -/
def isAsciiControl (c : Char) : Bool := c.toNat < 0x20 || c.toNat = 0x7F

/-- `u8::is_ascii_graphic`, of a character. -/
def isAsciiGraphic (c : Char) : Bool := 0x21 ≤ c.toNat && c.toNat ≤ 0x7E

def atomEq (actual : Text) (expected : String) : Bool :=
  eqIgnoreAsciiCase actual expected.toList

def isTaggedResponse (line tag : Text) : Bool :=
  match splitWhitespace line with
  | first :: _ :: _ => first = tag
  | _ => false

def isUntaggedResponse (line : Text) (keyword : String) : Bool :=
  match splitWhitespace line with
  | first :: actual :: _ => first = ['*'] && atomEq actual keyword
  | _ => false

/-- `trim_matches(['(', ')'])`. -/
def trimParentheses (field : Text) : Text :=
  let isParenthesis (c : Char) : Bool := c = '(' || c = ')'
  ((field.dropWhile isParenthesis).reverse.dropWhile isParenthesis).reverse

/-- Whether an attribute is among the fields of an attribute list. -/
def attributeIn (wanted : String) : List Text → Bool
  | [] => false
  | field :: fields =>
    atomEq (trimParentheses field) wanted ||
      (field.getLast? != some ')' && attributeIn wanted fields)

/-- Whether the attribute list of a LIST response has an attribute. -/
def listHasAttribute (line : Text) (wanted : String) : Bool :=
  isUntaggedResponse line "LIST" &&
    attributeIn wanted (((splitWhitespace line).drop 2).dropWhile fun field =>
      field.head? != some '(')

/-! ## Fields -/

/-- What the tokenizer is reading. -/
inductive Tokenizing where
  | between
  | quoted (value : Text)
  | escaped (value : Text)
  | atom (value : Text)
deriving DecidableEq, Repr

/-- The tokens of a text, after those already read. -/
def tokensFrom : Tokenizing → List Text → Text → Option (List Text)
  | .between, read, [] => some read
  | .atom value, read, [] => some (read ++ [value])
  | .quoted _, _, [] => none
  | .escaped _, _, [] => none
  | .between, read, c :: rest =>
    if c = ' ' then tokensFrom .between read rest
    else if c = '"' then tokensFrom (.quoted []) read rest
    else if isAsciiControl c then none
    else tokensFrom (.atom [c]) read rest
  | .quoted value, read, c :: rest =>
    if c = '\\' then tokensFrom (.escaped value) read rest
    else if c = '"' then tokensFrom .between (read ++ [value]) rest
    else if isAsciiControl c then none
    else tokensFrom (.quoted (value ++ [c])) read rest
  | .escaped value, read, c :: rest =>
    if c = '\\' || c = '"' then tokensFrom (.quoted (value ++ [c])) read rest else none
  | .atom value, read, c :: rest =>
    if c = ' ' then tokensFrom .between (read ++ [value]) rest
    else if isAsciiControl c then none
    else tokensFrom (.atom (value ++ [c])) read rest

/-- The tokens of the non-literal part of a LIST response. -/
def tokens (line : Text) : Option (List Text) := tokensFrom .between [] line

/-- The attribute list up to its closing parenthesis, and what follows it. -/
def splitAttributes : (depth : Nat) → (quoted : Bool) → (read : Text) → Text → Option (Text × Text)
  | _, _, _, [] => none
  | depth, true, read, '\\' :: c :: rest => splitAttributes depth true (read ++ ['\\', c]) rest
  | depth, quoted, read, c :: rest =>
    if c = '"' then splitAttributes depth (!quoted) (read ++ [c]) rest
    else if c = '(' && !quoted then splitAttributes (depth + 1) quoted (read ++ [c]) rest
    else if c = ')' && !quoted then
      if depth = 1 then some (read ++ [c], rest)
      else splitAttributes (depth - 1) quoted (read ++ [c]) rest
    else splitAttributes depth quoted (read ++ [c]) rest

/-- Whether the text of an attribute list is made of flags. -/
def validListAttributes (attributes : Text) : Bool :=
  attributes.all (fun c =>
      c.toNat < 128 && !isAsciiControl c && !"\"()\x7b\x7d%*".toList.contains c) &&
    (tokens attributes).any fun flags => flags.all fun flag =>
      match flag with
      | '\\' :: atom =>
        !atom.isEmpty && atom.all fun c =>
          isAsciiGraphic c && !"()\x7b\x7d%*\"\\]".toList.contains c
      | _ => false

/-- The fields after the attributes, and the place of the mailbox name among them. -/
def listFieldLayout (line : Text) : Option (List Text × Nat) := do
  let isSpace (c : Char) : Bool := c = ' '
  let trimmed := line.dropWhile isSpace
  guard (trimmed.head? = some '*')
  let afterAsterisk := trimmed.drop 1
  guard (afterAsterisk.head? = some ' ')
  let keyword := afterAsterisk.dropWhile isSpace
  guard (eqIgnoreAsciiCase (keyword.take 4) "LIST".toList = true)
  let afterList := keyword.drop 4
  guard (afterList.head? = some ' ')
  let list := afterList.dropWhile isSpace
  guard (list.head? = some '(')
  let (attributes, rest) ← splitAttributes 0 false [] list
  guard (validListAttributes ((attributes.drop 1).dropLast) = true)
  let fields ← tokens rest
  guard (fields ≠ [])
  return (fields, 1)

def listFields (line : Text) : Option (List Text × Nat) := do
  let (fields, mailboxIndex) ← listFieldLayout line
  guard (mailboxIndex < fields.length)
  return (fields, mailboxIndex)

def mailboxName (line : Text) : Option Text := do
  let (fields, mailboxIndex) ← listFields line
  fields[mailboxIndex]?.filter fun value => value.head? != some '\x7b'

def isHierarchyDelimiter (value : Text) : Bool :=
  match value with
  | [c] => c.toNat < 128 && c.toNat ≠ 0
  | _ => false

def hasFixedFields (line : Text) : Bool :=
  (listFields line).any fun (fields, mailboxIndex) =>
    (fields[mailboxIndex - 1]?).any fun delimiter =>
      eqIgnoreAsciiCase delimiter "NIL".toList || isHierarchyDelimiter delimiter

/-- Whether a literal after a prefix is the mailbox name, or belongs to the data after it. -/
def literalIsMailboxName (lead : Text) : Option Bool := do
  let (fields, mailboxIndex) ← listFieldLayout lead
  guard (mailboxIndex ≤ fields.length)
  return fields.length = mailboxIndex

def listDelimiter (line : Text) : Option Text := do
  let (fields, mailboxIndex) ← listFields line
  fields[mailboxIndex - 1]?.filter isHierarchyDelimiter

/-- Attributes that name the use of a mailbox. -/
def specialUses : List (String × String) :=
  [("\\ALL", "all"), ("\\ARCHIVE", "archive"), ("\\DRAFTS", "drafts"), ("\\JUNK", "junk"),
    ("\\SENT", "sent"), ("\\TRASH", "trash")]

def listSpecialUse (line : Text) : List String :=
  (specialUses.filter fun (wanted, _) => listHasAttribute line wanted).map Prod.snd

end MailSwiftSync.Imap
