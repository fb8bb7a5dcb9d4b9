import Mathlib.Data.List.Basic

/-!
# Objects of quoted fields

A writer and a reader for records whose fields are texts: each field is a literal followed by the
text in quotes, where quotes and backslashes are escaped.  The reader gives back what was written.
-/

namespace Foundation

/-- A character inside quotes. -/
def escapeQuoted (c : Char) : List Char :=
  if c = '"' ∨ c = '\\' then ['\\', c] else [c]

def quote (text : List Char) : List Char :=
  '"' :: text.flatMap escapeQuoted ++ ['"']

/-- What is left of a quoted text, and what follows it. -/
def unquoteRest : List Char → Option (List Char × List Char)
  | [] => none
  | '"' :: rest => some ([], rest)
  | '\\' :: c :: rest => (unquoteRest rest).map (Prod.map (c :: ·) id)
  | c :: rest => (unquoteRest rest).map (Prod.map (c :: ·) id)

def unquote : List Char → Option (List Char × List Char)
  | '"' :: rest => unquoteRest rest
  | _ => none

theorem unquoteRest_escaped (text rest : List Char) :
    unquoteRest (text.flatMap escapeQuoted ++ '"' :: rest) = some (text, rest) := by
  induction text with
  | nil => rfl
  | cons c text ih =>
    rw [List.flatMap_cons, List.append_assoc, escapeQuoted]
    split
    · rw [List.cons_append, List.singleton_append, unquoteRest, ih]
      rfl
    · next plain =>
        rw [List.singleton_append, unquoteRest, ih]
        · rfl
        · exact fun isQuote => plain (.inl isQuote)
        · exact fun _ _ isBackslash _ => plain (.inr isBackslash)

theorem unquote_quote (text rest : List Char) :
    unquote (quote text ++ rest) = some (text, rest) := by
  rw [quote, List.cons_append, List.cons_append, List.append_assoc, unquote]
  exact unquoteRest_escaped text rest

/-- What follows a literal. -/
def afterLiteral (literal text : List Char) : Option (List Char) :=
  if literal.isPrefixOf text then some (text.drop literal.length) else none

theorem afterLiteral_append (literal rest : List Char) :
    afterLiteral literal (literal ++ rest) = some rest := by
  rw [afterLiteral, if_pos (List.isPrefixOf_iff_prefix.mpr (List.prefix_append _ _)),
    List.drop_left]

/-- The fields of a record, each after its literal. -/
def writeFields : List (List Char × List Char) → List Char
  | [] => ['\x7d']
  | field :: fields => field.1 ++ (quote field.2 ++ writeFields fields)

def readFields : List (List Char) → List Char → Option (List (List Char))
  | [], text => if text = ['\x7d'] then some [] else none
  | literal :: literals, text => do
      let quoted ← afterLiteral literal text
      let field ← unquote quoted
      let fields ← readFields literals field.2
      return field.1 :: fields

/-- What was written is read. -/
theorem readFields_writeFields (fields : List (List Char × List Char)) :
    readFields (fields.map Prod.fst) (writeFields fields) = some (fields.map Prod.snd) := by
  induction fields with
  | nil => rfl
  | cons field fields ih =>
    rw [List.map_cons, writeFields, readFields, afterLiteral_append, Option.bind_eq_bind,
      Option.bind_some, unquote_quote, Option.bind_eq_bind, Option.bind_some, ih]
    rfl

end Foundation
