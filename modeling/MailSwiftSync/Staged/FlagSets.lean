import MailSwiftSync.Foundation.Words
import MailSwiftSync.Imap.FetchParser
import MailSwiftSync.Staged.Flags

/-!
# Flag texts and flag sets

The flags of a message are kept as one canonical text.  Such a text is determined by the set of
its words, so that texts can be counted in place of sets.
-/

namespace MailSwiftSync

open Foundation Imap

/-! ## The words of a flag text -/

theorem wordsFrom_eq {current : List Char} (unbroken : ∀ c ∈ current, isWhitespace c = false)
    (text : List Char) :
    wordsFrom current text = (words isWhitespace (current.reverse ++ text)).map String.ofList := by
  have unbrokenWord : current ≠ [] → IsWord isWhitespace current.reverse := by
    intro nonempty
    refine ⟨by simpa using nonempty, ?_⟩
    intro c isMember
    exact unbroken c (List.mem_reverse.mp isMember)
  induction text generalizing current with
  | nil =>
    cases current with
    | nil => rfl
    | cons c current =>
      rw [List.append_nil, words_of_isWord (unbrokenWord (List.cons_ne_nil c current))]
      rfl
  | cons char text ih =>
    have noWord := @ih [] (by simp) (fun nonempty => absurd rfl nonempty)
    rw [List.reverse_nil, List.nil_append] at noWord
    rw [wordsFrom]
    cases isBlank : isWhitespace char with
    | true =>
      rw [words_append_blank isBlank, if_pos rfl, noWord]
      cases current with
      | nil => rfl
      | cons c current =>
        rw [words_of_isWord (unbrokenWord (List.cons_ne_nil c current))]
        rfl
    | false =>
      have longer : ∀ c ∈ char :: current, isWhitespace c = false :=
        List.forall_mem_cons.mpr ⟨isBlank, unbroken⟩
      rw [if_neg Bool.false_ne_true, ih longer, List.reverse_cons, List.append_assoc]
      · rfl
      · intro _
        refine ⟨by simp, ?_⟩
        intro c isMember
        exact longer c (List.mem_reverse.mp isMember)

/-- The flags of a text are its words. -/
theorem flagSet_eq (flags : String) :
    flagSet flags = ((words isWhitespace flags.toList).map String.ofList).toFinset := by
  rw [flagSet, wordsFrom_eq (by simp)]
  rfl

/-! ## Canonical texts -/

/-- A text that the reader of FETCH responses makes from a list of flags. -/
def IsCanonicalFlags (flags : String) : Prop :=
  ∃ list : Text, flags = canonicalFlagSet (splitWhitespace list)

/-- The flags of every message are canonical. -/
theorem fetchFlags_canonical {text : Text} {flags : String}
    (isRead : fetchFlags text = some flags) : IsCanonicalFlags flags := by
  rw [fetchFlags] at isRead
  obtain ⟨value, -, isRead⟩ := Option.bind_eq_some_iff.mp isRead
  split at isRead
  · next list opened =>
    obtain ⟨_, -, isRead⟩ := Option.bind_eq_some_iff.mp isRead
    exact ⟨_, (Option.some.inj isRead).symm⟩
  · cases isRead

theorem isWhitespace_letter {c : Char} (low : 97 ≤ c.toNat) (high : c.toNat ≤ 122) :
    isWhitespace c = false := by
  simp only [isWhitespace, Bool.or_eq_false_iff, Bool.and_eq_false_iff, decide_eq_false_iff_not,
    beq_eq_false_iff_ne]
  omega

theorem toLower_not_whitespace {c : Char} (notBlank : isWhitespace c = false) :
    isWhitespace c.toLower = false := by
  delta Char.toLower
  split
  · next isUpper =>
    have low : 65 ≤ c.val.toNat := isUpper.1
    have high : c.val.toNat ≤ 90 := isUpper.2
    have shifted : (c.val + ('a'.val - 'A'.val)).toNat = c.val.toNat + 32 := by
      have distance : ('a'.val - 'A'.val).toNat = 32 := rfl
      rw [UInt32.toNat_add, distance]
      exact Nat.mod_eq_of_lt (by omega)
    apply isWhitespace_letter
    · exact le_of_le_of_eq (by omega) shifted.symm
    · exact le_of_eq_of_le shifted (by omega)
  · exact notBlank

theorem systemFlag_isWord : ∀ flag ∈ systemFlags, IsWord isWhitespace flag := by
  have plain : ∀ flag ∈ systemFlags, flag ≠ [] ∧ flag.any isWhitespace = false := by decide
  intro flag isFlag
  obtain ⟨nonempty, noneBlank⟩ := plain flag isFlag
  exact isWord_of_any nonempty noneBlank

/-- A sorted list without neighbours that are equal is strictly sorted. -/
theorem destutter_strict (names : List String) :
    ((sortUnstable names).destutter (· ≠ ·)).Pairwise (· < ·) := by
  have sorted := ((List.pairwise_insertionSort (· ≤ ·) names).sublist
    (List.destutter_sublist (· ≠ ·) _)).isChain
  have apart := List.isChain_destutter (· ≠ ·) (sortUnstable names)
  rw [← List.isChain_iff_pairwise, List.isChain_iff_getElem]
  rw [List.isChain_iff_getElem] at sorted apart
  intro i inRange
  exact lt_of_le_of_ne (sorted i inRange) (apart i inRange)

/-- Words put together are the flags of the text. -/
theorem flagSet_intercalate {parts : List String}
    (areWords : ∀ part ∈ parts, IsWord isWhitespace part.toList) :
    flagSet (" ".intercalate parts) = parts.toFinset := by
  have asTexts : words isWhitespace ([' '].intercalate (parts.map String.toList)) =
      parts.map String.toList := by
    apply words_intercalate (by decide)
    intro word isMember
    obtain ⟨part, isPart, rfl⟩ := List.mem_map.mp isMember
    exact areWords part isPart
  have backToStrings : (parts.map String.toList).map String.ofList = parts := by
    rw [List.map_map]
    exact (List.map_congr_left fun part _ => String.ofList_toList).trans (List.map_id parts)
  calc flagSet (" ".intercalate parts)
    _ = ((words isWhitespace ([' '].intercalate (parts.map String.toList))).map
          String.ofList).toFinset := by
      rw [flagSet_eq, String.toList_intercalate]
      rfl
    _ = parts.toFinset := by rw [asTexts, backToStrings]

/-- The flags of a canonical text, in order. -/
theorem exists_sorted_flags {flags : String} (canonical : IsCanonicalFlags flags) :
    ∃ parts : List String, flags = " ".intercalate parts ∧ parts.Pairwise (· < ·) ∧
      flagSet flags = parts.toFinset := by
  obtain ⟨list, rfl⟩ := canonical
  refine ⟨_, rfl, destutter_strict _, flagSet_intercalate ?_⟩
  intro part isPart
  obtain ⟨atom, isKept, rfl⟩ := List.mem_map.mp
    ((List.mem_insertionSort _).mp ((List.destutter_sublist _ _).subset isPart))
  have isAtom := isWord_of_mem (List.mem_filter.mp isKept).1
  rw [String.toList_ofList]
  cases spelled : systemFlags.find? fun system => eqIgnoreAsciiCase system atom with
  | some system => exact systemFlag_isWord system (List.mem_of_find?_eq_some spelled)
  | none =>
    constructor
    · simpa using isAtom.1
    · intro c isLower
      obtain ⟨original, isOriginal, rfl⟩ := List.mem_map.mp isLower
      exact toLower_not_whitespace (isAtom.2 original isOriginal)

/-- Canonical texts of one flag set are equal. -/
theorem IsCanonicalFlags.ext {flags other : String} (canonical : IsCanonicalFlags flags)
    (otherCanonical : IsCanonicalFlags other) (same : flagSet flags = flagSet other) :
    flags = other := by
  obtain ⟨parts, isText, sorted, isSet⟩ := exists_sorted_flags canonical
  obtain ⟨otherParts, isOther, otherSorted, isOtherSet⟩ := exists_sorted_flags otherCanonical
  rw [isSet, isOtherSet] at same
  have perm : parts.Perm otherParts := by
    apply (List.perm_ext_iff_of_nodup sorted.nodup otherSorted.nodup).mpr
    intro part
    rw [← List.mem_toFinset, same, List.mem_toFinset]
  rw [isText, isOther, perm.eq_of_pairwise' sorted otherSorted]

end MailSwiftSync
