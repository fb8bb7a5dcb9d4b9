import Mathlib.Algebra.Group.Nat.Defs
import Mathlib.Data.List.Basic

/-!
# Delimited encodings

An encoding is delimited when a decoder knows where each value ends: of two texts that
continue encoded values in any way, equality gives equality of the values.  Fixed-width
numbers and length-prefixed texts are delimited, and so are sequences of delimited values.
-/

namespace Foundation

variable {α β γ : Type*}

/-- Values that satisfy a condition can be read off any text that starts with them. -/
def Delimited (valid : α → Prop) (encode : α → List β) : Prop :=
  ∀ (first second : α) (rest rest' : List β), valid first → valid second →
    encode first ++ rest = encode second ++ rest' → first = second ∧ rest = rest'

variable {valid : α → Prop} {encode : α → List β}

/-- Injective encodings of one length are delimited. -/
theorem delimited_of_length {length : Nat} (fixed : ∀ value, (encode value).length = length)
    (injective : ∀ first second, valid first → valid second →
      encode first = encode second → first = second) : Delimited valid encode := by
  intro first second rest rest' isFirst isSecond same
  obtain ⟨values, rests⟩ := List.append_inj same ((fixed first).trans (fixed second).symm)
  exact ⟨injective first second isFirst isSecond values, rests⟩

/-- A value after its delimited length. -/
theorem delimited_lengthPrefixed {valid : Nat → Prop} {encode : Nat → List β}
    (delimited : Delimited valid encode) :
    Delimited (fun text : List β => valid text.length)
      (fun text => encode text.length ++ text) := by
  intro first second rest rest' isFirst isSecond same
  rw [List.append_assoc, List.append_assoc] at same
  obtain ⟨lengths, texts⟩ := delimited _ _ _ _ isFirst isSecond same
  exact List.append_inj texts lengths

/-- Delimited values behind distinct tags. -/
theorem delimited_option {absent present : β}
    (distinct : absent ≠ present) (delimited : Delimited valid encode) :
    Delimited (fun value : Option α => ∀ content ∈ value, valid content)
      (fun value => value.elim [absent] fun content => present :: encode content) := by
  intro first second rest rest' isFirst isSecond same
  cases first with
  | none =>
    cases second with
    | none => exact ⟨rfl, List.cons.inj same |>.2⟩
    | some content => exact absurd (List.cons.inj same).1 distinct
  | some content =>
    cases second with
    | none => exact absurd (List.cons.inj same).1.symm distinct
    | some content' =>
      obtain ⟨contents, rests⟩ :=
        delimited _ _ _ _ (isFirst content rfl) (isSecond content' rfl) (List.cons.inj same).2
      exact ⟨congrArg some contents, rests⟩

/-- A change of the encoded type. -/
theorem Delimited.comp {valid : β → Prop} {encode : β → List γ} (delimited : Delimited valid encode)
    {translate : α → β} (injective : Function.Injective translate) :
    Delimited (fun value => valid (translate value)) (fun value => encode (translate value)) := by
  intro first second rest rest' isFirst isSecond same
  obtain ⟨values, rests⟩ := delimited _ _ _ _ isFirst isSecond same
  exact ⟨injective values, rests⟩

/-- Sequences of the same length. -/
theorem Delimited.flatMap
    (delimited : Delimited valid encode) {first second : List α} {rest rest' : List β}
    (areFirst : ∀ value ∈ first, valid value) (areSecond : ∀ value ∈ second, valid value)
    (length : first.length = second.length)
    (same : first.flatMap encode ++ rest = second.flatMap encode ++ rest') :
    first = second ∧ rest = rest' := by
  induction first generalizing second with
  | nil =>
    rw [List.length_nil, eq_comm, List.length_eq_zero_iff] at length
    subst length
    exact ⟨rfl, same⟩
  | cons value values ih =>
    cases second with
    | nil => cases length
    | cons value' values' =>
      rw [List.flatMap_cons, List.flatMap_cons, List.append_assoc, List.append_assoc] at same
      obtain ⟨heads, tails⟩ := delimited _ _ _ _ (areFirst value List.mem_cons_self)
        (areSecond value' List.mem_cons_self) same
      obtain ⟨others, rests⟩ := ih
        (fun other isOther => areFirst other (List.mem_cons_of_mem _ isOther))
        (fun other isOther => areSecond other (List.mem_cons_of_mem _ isOther))
        (Nat.succ.inj length) tails
      rw [heads, others]
      exact ⟨rfl, rests⟩

/-- A pair of delimited values. -/
theorem Delimited.pair {encode : α → List γ} {valid' : β → Prop}
    {encode' : β → List γ} (delimited : Delimited valid encode)
    (delimited' : Delimited valid' encode') :
    Delimited (fun pair : α × β => valid pair.1 ∧ valid' pair.2)
      (fun pair => encode pair.1 ++ encode' pair.2) := by
  intro first second rest rest' isFirst isSecond same
  rw [List.append_assoc, List.append_assoc] at same
  obtain ⟨lefts, rights⟩ := delimited _ _ _ _ isFirst.1 isSecond.1 same
  obtain ⟨rights, rests⟩ := delimited' _ _ _ _ isFirst.2 isSecond.2 rights
  exact ⟨Prod.ext lefts rights, rests⟩

/-- A fixed text in front. -/
theorem Delimited.after (delimited : Delimited valid encode) (start : List β) :
    Delimited valid (fun value => start ++ encode value) := by
  intro first second rest rest' isFirst isSecond same
  rw [List.append_assoc, List.append_assoc] at same
  exact delimited _ _ _ _ isFirst isSecond (List.append_cancel_left same)

/-- A text without its terminator. -/
theorem delimited_terminated (terminator : β) :
    Delimited (fun text : List β => terminator ∉ text) (fun text => text ++ [terminator]) := by
  intro first
  induction first with
  | nil =>
    intro second rest rest' _ isSecond same
    cases second with
    | nil => exact ⟨rfl, (List.cons.inj same).2⟩
    | cons head second =>
      exact absurd (List.mem_cons.mpr (.inl (List.cons.inj same).1)) isSecond
  | cons head first ih =>
    intro second rest rest' isFirst isSecond same
    cases second with
    | nil => exact absurd (List.mem_cons.mpr (.inl (List.cons.inj same).1.symm)) isFirst
    | cons head' second =>
      obtain ⟨heads, tails⟩ := List.cons.inj same
      obtain ⟨texts, rests⟩ := ih second rest rest'
        (fun isMember => isFirst (List.mem_cons_of_mem _ isMember))
        (fun isMember => isSecond (List.mem_cons_of_mem _ isMember)) tails
      exact ⟨by rw [heads, texts], rests⟩

/-- Any number of delimited values, closed by what none of them begins with. -/
theorem Delimited.closed (delimited : Delimited valid encode) {closing : β}
    (opening : ∀ value, valid value → ∃ head tail, encode value = head :: tail ∧ head ≠ closing) :
    Delimited (fun values : List α => ∀ value ∈ values, valid value)
      (fun values => values.flatMap encode ++ [closing]) := by
  intro first
  induction first with
  | nil =>
    intro second rest rest' _ areSecond same
    cases second with
    | nil => exact ⟨rfl, (List.cons.inj same).2⟩
    | cons value values =>
      obtain ⟨head, tail, isEncoding, distinct⟩ :=
        opening value (areSecond value List.mem_cons_self)
      simp only [List.flatMap_cons, isEncoding] at same
      exact absurd (List.cons.inj same).1.symm distinct
  | cons value values ih =>
    intro second rest rest' areFirst areSecond same
    cases second with
    | nil =>
      obtain ⟨head, tail, isEncoding, distinct⟩ :=
        opening value (areFirst value List.mem_cons_self)
      simp only [List.flatMap_cons, isEncoding] at same
      exact absurd (List.cons.inj same).1 distinct
    | cons value' values' =>
      simp only [List.flatMap_cons, List.append_assoc] at same
      obtain ⟨heads, tails⟩ := delimited _ _ _ _ (areFirst value List.mem_cons_self)
        (areSecond value' List.mem_cons_self) same
      rw [← List.append_assoc, ← List.append_assoc] at tails
      obtain ⟨others, rests⟩ := ih values' rest rest'
        (fun other isOther => areFirst other (List.mem_cons_of_mem _ isOther))
        (fun other isOther => areSecond other (List.mem_cons_of_mem _ isOther)) tails
      exact ⟨by rw [heads, others], rests⟩

/-! ## Numbers -/

/-- The low bytes of a number, the most significant first: `to_be_bytes`. -/
def bigEndian : Nat → Nat → List UInt8
  | 0, _ => []
  | width + 1, value => bigEndian width (value / 256) ++ [UInt8.ofNat value]

theorem length_bigEndian (width value : Nat) : (bigEndian width value).length = width := by
  induction width generalizing value with
  | zero => rfl
  | succ width ih => rw [bigEndian, List.length_append, ih, List.length_singleton]

theorem bigEndian_injective (width first second : Nat) (isFirst : first < 256 ^ width)
    (isSecond : second < 256 ^ width) (same : bigEndian width first = bigEndian width second) :
    first = second := by
  induction width generalizing first second with
  | zero =>
    rw [Nat.pow_zero, Nat.lt_one_iff] at isFirst isSecond
    rw [isFirst, isSecond]
  | succ width ih =>
    rw [Nat.pow_succ] at isFirst isSecond
    obtain ⟨high, low⟩ := List.append_inj' same rfl
    have highs := ih _ _ (Nat.div_lt_of_lt_mul (by omega)) (Nat.div_lt_of_lt_mul (by omega)) high
    have lows : first % 256 = second % 256 := by
      have bytes := congrArg UInt8.toNat (List.cons.inj low).1
      simpa using bytes
    omega

theorem delimited_bigEndian (width : Nat) :
    Delimited (fun value => value < 256 ^ width) (bigEndian width) :=
  delimited_of_length (length_bigEndian width) (bigEndian_injective width)

/-- The low bytes of a number, the least significant first: `to_le_bytes`. -/
def littleEndian (width value : Nat) : List UInt8 := (bigEndian width value).reverse

theorem delimited_littleEndian (width : Nat) :
    Delimited (fun value => value < 256 ^ width) (littleEndian width) := by
  apply delimited_of_length
  · intro value
    exact List.length_reverse.trans (length_bigEndian width value)
  · intro first second isFirst isSecond same
    exact bigEndian_injective width first second isFirst isSecond (List.reverse_injective same)

/-! ## Characters -/

/-- No byte of a character is `0xFF`, and only the null character has a null byte. -/
theorem mem_utf8EncodeChar {c : Char} {byte : UInt8} (isByte : byte ∈ String.utf8EncodeChar c) :
    byte ≠ 0xFF ∧ (byte = 0 → c = Char.ofNat 0) := by
  have written : ∃ value, byte = UInt8.ofNat value ∧ value ≤ 0xF7 ∧
      (value = 0 → c.val.toNat = 0) := by
    simp only [String.utf8EncodeChar] at isByte
    split at isByte
    · next small =>
        exact ⟨_, List.mem_singleton.mp isByte, by omega, id⟩
    · split at isByte
      · simp only [List.mem_cons, List.not_mem_nil, or_false] at isByte
        rcases isByte with isByte | isByte <;> exact ⟨_, isByte, by omega, by omega⟩
      · split at isByte
        · simp only [List.mem_cons, List.not_mem_nil, or_false] at isByte
          rcases isByte with isByte | isByte | isByte <;> exact ⟨_, isByte, by omega, by omega⟩
        · simp only [List.mem_cons, List.not_mem_nil, or_false] at isByte
          rcases isByte with isByte | isByte | isByte | isByte <;>
            exact ⟨_, isByte, by omega, by omega⟩
  obtain ⟨value, rfl, bound, zero⟩ := written
  constructor
  · intro same
    have bytes : value % 256 = 255 := congrArg UInt8.toNat same
    omega
  · intro same
    have bytes : value % 256 = 0 := congrArg UInt8.toNat same
    have isZero := zero (by omega)
    exact Char.ext (UInt32.toNat_inj.mp isZero)

end Foundation
