import MailSwiftSync.Imap.ListParser

/-!
# UID pages

The UIDs of a mailbox are fetched in pages.  A page is a prefix of the UIDs that are left, written
as a sequence set in which consecutive UIDs form a range.
-/

namespace MailSwiftSync.Imap

/-! ## The planner -/

def maxUidSetBytes : Nat := 7000

/-- Page sizes adapted to the responses. -/
structure FetchPagePlanner where
  size : Nat
  min : Nat
  max : Nat
  targetResponseBytes : Nat
deriving DecidableEq, Repr

namespace FetchPagePlanner

def metadata : FetchPagePlanner :=
  { size := 128, min := 32, max := 1024, targetResponseBytes := 1024 * 1024 }

def body : FetchPagePlanner :=
  { size := 8, min := 1, max := 64, targetResponseBytes := 64 * 1024 * 1024 / 4 }

def observe (planner : FetchPagePlanner) (messages responseBytes : Nat) : FetchPagePlanner :=
  if messages = 0 then planner
  else
    let perMessage := Nat.max (responseBytes / messages) 1
    let ideal := planner.targetResponseBytes / perMessage
    let grown := Nat.min ideal (Nat.min (planner.size * 2) (2 ^ 64 - 1))
    { planner with size := Nat.min (Nat.max grown planner.min) planner.max }

end FetchPagePlanner

/-! ## Encoding -/

/-- The last index of the run of consecutive UIDs, known up to an index. -/
def runEnd (uids : List Nat) (limit endIndex : Nat) : Nat :=
  if endIndex + 1 < limit then
    match uids[endIndex]?, uids[endIndex + 1]? with
    | some uid, some next =>
      if uid + 1 < 2 ^ 64 ∧ next = uid + 1 then runEnd uids limit (endIndex + 1) else endIndex
    | _, _ => endIndex
  else endIndex
termination_by limit - endIndex

theorem le_runEnd (uids : List Nat) (limit endIndex : Nat) :
    endIndex ≤ runEnd uids limit endIndex := by
  fun_induction runEnd uids limit endIndex with
  | case1 endIndex inside uid next isNext isUid follows ih => omega
  | case2 => exact le_rfl
  | case3 => exact le_rfl
  | case4 => exact le_rfl

/-- A UID, or the first and the last of a range. -/
def uidItem (uids : List Nat) (count endIndex : Nat) : Text :=
  if endIndex = count then Nat.toDigits 10 (uids.getD count 0)
  else Nat.toDigits 10 (uids.getD count 0) ++ ':' :: Nat.toDigits 10 (uids.getD endIndex 0)

/-- The rest of a set after some UIDs. -/
def encodeFrom (uids : List Nat) (limit count : Nat) (set : Text) : Nat × Text :=
  if count < limit then
    let endIndex := runEnd uids limit count
    let item := uidItem uids count endIndex
    let separator : Text := if set.isEmpty then [] else [',']
    if 0 < count && maxUidSetBytes < set.length + separator.length + item.length then (count, set)
    else encodeFrom uids limit (endIndex + 1) (set ++ separator ++ item)
  else (count, set)
termination_by limit - count
decreasing_by
  have bound := le_runEnd uids limit count
  omega

/-- How many UIDs the next page has, and their set. -/
def encodeUidPage (uids : List Nat) (maxCount : Nat) : Nat × Text :=
  encodeFrom uids (min uids.length (max maxCount 1)) 0 []

/-! ## The meaning of a set -/

/-- The UIDs of an item: one, or those between two. -/
def readUidRange (item : Text) : Option (Nat × Nat) :=
  match splitOnce ':' item with
  | none => (parseDigits item).map fun uid => (uid, uid)
  | some (first, last) => do
      let first ← parseDigits first
      let last ← parseDigits last
      return (min first last, max first last)

/-- The ranges of a sequence set; a page without UIDs has none. -/
def readUidSet (set : Text) : Option (List (Nat × Nat)) :=
  if set = [] then some [] else (set.splitOn ',').mapM readUidRange

/-- The UIDs that a server takes a set for. -/
def Denotes (set : Text) (uids : List Nat) : Prop :=
  ∃ ranges, readUidSet set = some ranges ∧
    ∀ uid, (∃ range ∈ ranges, range.1 ≤ uid ∧ uid ≤ range.2) ↔ uid ∈ uids

/-! ## Runs -/

section Runs

variable {uids : List Nat} {count last : Nat}

/-- The UIDs from one index to another follow each other. -/
structure IsRun (uids : List Nat) (count last : Nat) : Prop where
  ordered : count ≤ last
  follows : ∀ index, count ≤ index → index ≤ last →
    uids[index]? = some (uids.getD count 0 + (index - count))

theorem isRun_single (inside : count < uids.length) : IsRun uids count count where
  ordered := le_rfl
  follows := by
    intro index low high
    obtain rfl : index = count := by omega
    rw [List.getD_eq_getElem?_getD, List.getElem?_eq_getElem inside, Option.getD_some,
      Nat.sub_self, Nat.add_zero]

theorem IsRun.runEnd {limit endIndex : Nat} (isRun : IsRun uids count endIndex)
    (inside : endIndex < limit) :
    runEnd uids limit endIndex < limit ∧ IsRun uids count (runEnd uids limit endIndex) := by
  fun_induction Imap.runEnd uids limit endIndex with
  | case1 endIndex more uid next isNext isUid follows ih =>
    refine ih ⟨by have := isRun.ordered; omega, fun index low high => ?_⟩ more
    by_cases isLast : index = endIndex + 1
    · have here := isRun.follows endIndex isRun.ordered le_rfl
      rw [isUid] at here
      rw [isLast, isNext, follows.2, Option.some.inj here]
      have ordered := isRun.ordered
      congr 1
      omega
    · exact isRun.follows index low (by omega)
  | case2 => exact ⟨inside, isRun⟩
  | case3 => exact ⟨inside, isRun⟩
  | case4 => exact ⟨inside, isRun⟩

theorem IsRun.last_eq (isRun : IsRun uids count last) :
    uids.getD last 0 = uids.getD count 0 + (last - count) := by
  rw [List.getD_eq_getElem?_getD, isRun.follows last isRun.ordered le_rfl, Option.getD_some]

theorem mem_take_iff {n uid : Nat} :
    uid ∈ uids.take n ↔ ∃ index < n, uids[index]? = some uid := by
  rw [List.mem_iff_getElem?]
  refine exists_congr fun index => ?_
  rw [List.getElem?_take]
  split
  next inside => exact ⟨fun isUid => ⟨inside, isUid⟩, fun both => both.2⟩
  next outside => exact ⟨fun isUid => absurd isUid (by simp), fun both => absurd both.1 outside⟩

/-- A run adds the UIDs between its first and its last. -/
theorem IsRun.mem_take (isRun : IsRun uids count last) (uid : Nat) :
    uid ∈ uids.take (last + 1) ↔
      uid ∈ uids.take count ∨ (uids.getD count 0 ≤ uid ∧ uid ≤ uids.getD last 0) := by
  have ordered := isRun.ordered
  rw [mem_take_iff, mem_take_iff, isRun.last_eq]
  constructor
  · rintro ⟨index, inside, isUid⟩
    by_cases isBefore : index < count
    · exact .inl ⟨index, isBefore, isUid⟩
    · have here := isRun.follows index (by omega) (by omega)
      rw [isUid] at here
      have value := Option.some.inj here
      exact .inr ⟨by omega, by omega⟩
  · rintro (⟨index, inside, isUid⟩ | ⟨low, high⟩)
    · exact ⟨index, by omega, isUid⟩
    · refine ⟨count + (uid - uids.getD count 0), by omega, ?_⟩
      rw [isRun.follows _ (by omega) (by omega)]
      congr 1
      omega

end Runs

/-! ## Reading a set back -/

/-- The text of a range. -/
def rangeText (range : Nat × Nat) : Text :=
  if range.2 = range.1 then Nat.toDigits 10 range.1
  else Nat.toDigits 10 range.1 ++ ':' :: Nat.toDigits 10 range.2

theorem comma_not_mem_rangeText (range : Nat × Nat) : ',' ∉ rangeText range := by
  have noComma := not_mem_toDigits (by decide : ','.isDigit = false)
  rw [rangeText]
  split
  · exact noComma range.1
  · rw [List.mem_append, List.mem_cons, not_or, not_or]
    exact ⟨noComma range.1, by decide, noComma range.2⟩

theorem readUidRange_rangeText {range : Nat × Nat} (ordered : range.1 ≤ range.2)
    (fits : range.2 < 2 ^ 64) : readUidRange (rangeText range) = some range := by
  have noColon := not_mem_toDigits (by decide : ':'.isDigit = false)
  rw [rangeText]
  split
  next single =>
    rw [readUidRange, splitOnce, if_neg (noColon range.1)]
    dsimp only
    rw [parseDigits_toDigits (by omega), Option.map_some]
    exact congrArg some (Prod.ext rfl single.symm)
  next =>
    rw [readUidRange, splitOnce_append (noColon range.1)]
    simp only [parseDigits_toDigits (lt_of_le_of_lt ordered fits), parseDigits_toDigits fits,
      Option.bind_eq_bind, Option.bind_some, Nat.min_eq_left ordered, Nat.max_eq_right ordered]
    rfl

theorem rangeText_ne_nil (range : Nat × Nat) : rangeText range ≠ [] := by
  rw [rangeText]
  split
  · exact Nat.toDigits_ne_nil
  · exact List.append_ne_nil_of_left_ne_nil Nat.toDigits_ne_nil _

/-- A range of two UIDs is short. -/
theorem length_rangeText_le {range : Nat × Nat} (first : range.1 < 2 ^ 32)
    (last : range.2 < 2 ^ 32) : (rangeText range).length ≤ 21 := by
  have short : ∀ uid < 2 ^ 32, (Nat.toDigits 10 uid).length ≤ 10 := fun uid fits =>
    (Nat.length_toDigits_le_iff (by decide) (by decide)).mpr (lt_trans fits (by decide))
  have firstShort := short _ first
  have lastShort := short _ last
  rw [rangeText]
  split
  · omega
  · rw [List.length_append, List.length_cons]
    omega

theorem intercalate_ne_nil {items : List Text} (nonempty : items ≠ [])
    (each : ∀ item ∈ items, item ≠ []) : [','].intercalate items ≠ [] := by
  cases items with
  | nil => exact absurd rfl nonempty
  | cons first rest =>
    cases rest with
    | nil =>
      rw [List.intercalate_singleton]
      exact each first List.mem_cons_self
    | cons next rest =>
      rw [List.intercalate_cons_cons, List.append_assoc]
      exact List.append_ne_nil_of_left_ne_nil (each first List.mem_cons_self) _

/-- A set is read as the ranges it was written from. -/
theorem readUidSet_intercalate {ranges : List (Nat × Nat)}
    (each : ∀ range ∈ ranges, range.1 ≤ range.2 ∧ range.2 < 2 ^ 64) :
    readUidSet ([','].intercalate (ranges.map rangeText)) = some ranges := by
  cases ranges with
  | nil => rfl
  | cons first rest =>
    have nonempty : (first :: rest).map rangeText ≠ [] := List.cons_ne_nil _ _
    have texts : ∀ item ∈ (first :: rest).map rangeText, item ≠ [] := by
      intro item isItem
      obtain ⟨range, -, rfl⟩ := List.mem_map.mp isItem
      exact rangeText_ne_nil range
    have noComma : ∀ item ∈ (first :: rest).map rangeText, ',' ∉ item := by
      intro item isItem
      obtain ⟨range, -, rfl⟩ := List.mem_map.mp isItem
      exact comma_not_mem_rangeText range
    rw [readUidSet, if_neg (intercalate_ne_nil nonempty texts),
      List.splitOn_intercalate _ noComma nonempty, List.mapM_map]
    generalize first :: rest = ranges at each
    induction ranges with
    | nil => rfl
    | cons range ranges ih =>
      obtain ⟨⟨ordered, fits⟩, later⟩ := List.forall_mem_cons.mp each
      rw [List.mapM_cons, Function.comp_apply, readUidRange_rangeText ordered fits, ih later]
      rfl

theorem intercalate_concat {items : List Text} (nonempty : items ≠ []) (item : Text) :
    [','].intercalate (items ++ [item]) = [','].intercalate items ++ [','] ++ item := by
  induction items with
  | nil => exact absurd rfl nonempty
  | cons first rest ih =>
    cases rest with
    | nil => rw [List.singleton_append, List.intercalate_cons_cons, List.intercalate_singleton,
        List.intercalate_singleton]
    | cons next rest =>
      rw [List.cons_append, List.cons_append, List.intercalate_cons_cons,
        List.intercalate_cons_cons, ← List.cons_append, ih (List.cons_ne_nil _ _)]
      simp only [List.append_assoc]

/-! ## What is encoded -/

/-- A set for some first UIDs, within the limits of a page. -/
structure Encoded (uids : List Nat) (limit count : Nat) (set : Text) : Prop where
  within : count ≤ limit
  short : set.length ≤ maxUidSetBytes
  start : count = 0 → set = []
  ranges : ∃ ranges : List (Nat × Nat), set = [','].intercalate (ranges.map rangeText) ∧
    (∀ range ∈ ranges, range.1 ≤ range.2 ∧ range.2 < 2 ^ 32) ∧
    ∀ uid, (∃ range ∈ ranges, range.1 ≤ uid ∧ uid ≤ range.2) ↔ uid ∈ uids.take count

section Encoding

variable {uids : List Nat} {limit count : Nat} {set : Text}

theorem encoded_nil (uids : List Nat) (limit : Nat) : Encoded uids limit 0 [] where
  within := Nat.zero_le _
  short := Nat.zero_le _
  start := fun _ => rfl
  ranges := ⟨[], rfl, by simp, by simp⟩

theorem uidItem_eq_rangeText {endIndex : Nat} (isRun : IsRun uids count endIndex) :
    uidItem uids count endIndex = rangeText (uids.getD count 0, uids.getD endIndex 0) := by
  have ordered := isRun.ordered
  have last := isRun.last_eq
  rw [uidItem, rangeText]
  by_cases isSingle : endIndex = count
  · rw [if_pos isSingle, if_pos (by rw [isSingle])]
  · rw [if_neg isSingle, if_neg (by omega)]

theorem IsRun.fits {endIndex : Nat} (isRun : IsRun uids count endIndex)
    (fits : ∀ uid ∈ uids, uid < 2 ^ 32) : uids.getD endIndex 0 < 2 ^ 32 := by
  rw [isRun.last_eq]
  exact fits _ (List.mem_of_getElem? (isRun.follows endIndex isRun.ordered le_rfl))

/-- A run is added to a set. -/
theorem Encoded.add {endIndex : Nat} (encoded : Encoded uids limit count set)
    (fits : ∀ uid ∈ uids, uid < 2 ^ 32) (isRun : IsRun uids count endIndex)
    (inside : endIndex < limit)
    (allowed : 0 < count → (set ++ (if set.isEmpty then [] else [',']) ++
      uidItem uids count endIndex).length ≤ maxUidSetBytes) :
    Encoded uids limit (endIndex + 1)
      (set ++ (if set.isEmpty then [] else [',']) ++ uidItem uids count endIndex) := by
  obtain ⟨ranges, isSet, each, covers⟩ := encoded.ranges
  have lastFits := isRun.fits fits
  have ordered : uids.getD count 0 ≤ uids.getD endIndex 0 := by
    rw [isRun.last_eq]
    exact Nat.le_add_right _ _
  refine
    { within := inside
      short := ?_
      start := fun isZero => absurd isZero (Nat.succ_ne_zero _)
      ranges := ⟨ranges ++ [(uids.getD count 0, uids.getD endIndex 0)], ?_, ?_, fun uid => ?_⟩ }
  · cases count with
    | zero =>
      rw [encoded.start rfl, uidItem_eq_rangeText isRun]
      exact le_trans (length_rangeText_le (lt_of_le_of_lt ordered lastFits) lastFits) (by decide)
    | succ previous => exact allowed (Nat.succ_pos _)
  · rw [uidItem_eq_rangeText isRun, List.map_append, List.map_singleton]
    cases ranges with
    | nil =>
      have isEmpty : set = [] := isSet
      rw [isEmpty]
      exact (List.intercalate_singleton).symm
    | cons first rest =>
      have nonempty : (first :: rest).map rangeText ≠ [] := List.cons_ne_nil _ _
      have texts : ∀ item ∈ (first :: rest).map rangeText, item ≠ [] :=
        List.forall_mem_map.mpr fun range _ => rangeText_ne_nil range
      have notEmpty : set.isEmpty = false := by
        rw [List.isEmpty_eq_false_iff, isSet]
        exact intercalate_ne_nil nonempty texts
      rw [intercalate_concat nonempty, ← isSet, notEmpty]
      rfl
  · rw [List.forall_mem_append, List.forall_mem_singleton]
    exact ⟨each, ordered, lastFits⟩
  · rw [isRun.mem_take uid, ← covers uid]
    simp only [List.mem_append, List.mem_singleton, or_and_right, exists_or, exists_eq_left]

theorem Encoded.encodeFrom (encoded : Encoded uids limit count set)
    (fits : ∀ uid ∈ uids, uid < 2 ^ 32) (known : limit ≤ uids.length) :
    Encoded uids limit (encodeFrom uids limit count set).1 (encodeFrom uids limit count set).2 := by
  fun_induction Imap.encodeFrom uids limit count set with
  | case1 => exact encoded
  | case2 count set more endIndex item separator allowed ih =>
    obtain ⟨inside, isRun⟩ : runEnd uids limit count < limit ∧
        IsRun uids count (runEnd uids limit count) :=
      (isRun_single (lt_of_lt_of_le more known)).runEnd more
    refine ih (encoded.add fits isRun inside fun later => ?_)
    rw [Bool.and_eq_true, decide_eq_true_eq, decide_eq_true_eq, not_and] at allowed
    rw [List.length_append, List.length_append]
    exact Nat.le_of_not_lt (allowed later)
  | case3 => exact encoded

theorem Encoded.denotes (encoded : Encoded uids limit count set) :
    Denotes set (uids.take count) := by
  obtain ⟨ranges, rfl, each, covers⟩ := encoded.ranges
  refine ⟨ranges, readUidSet_intercalate fun range isRange => ?_, covers⟩
  exact ⟨(each range isRange).1, lt_trans (each range isRange).2 (by decide)⟩

theorem le_encodeFrom (uids : List Nat) (limit count : Nat) (set : Text) :
    count ≤ (encodeFrom uids limit count set).1 := by
  fun_induction Imap.encodeFrom uids limit count set with
  | case1 => exact le_rfl
  | case2 count set more endIndex item separator allowed ih =>
    have later : count ≤ endIndex := le_runEnd uids limit count
    omega
  | case3 => exact le_rfl

/-- The first UID is on the page, however long it is. -/
theorem encodeUidPage_pos (nonempty : uids ≠ []) (maxCount : Nat) :
    1 ≤ (encodeUidPage uids maxCount).1 := by
  have more : 0 < min uids.length (max maxCount 1) := by
    have := List.length_pos_of_ne_nil nonempty
    omega
  rw [encodeUidPage, encodeFrom, if_pos more]
  dsimp only
  rw [if_neg (by simp)]
  exact le_trans (Nat.le_add_left _ _) (le_encodeFrom _ _ _ _)

theorem encoded_encodeUidPage (fits : ∀ uid ∈ uids, uid < 2 ^ 32) (maxCount : Nat) :
    Encoded uids (min uids.length (max maxCount 1)) (encodeUidPage uids maxCount).1
      (encodeUidPage uids maxCount).2 :=
  (encoded_nil uids _).encodeFrom fits (min_le_left _ _)

end Encoding

/-! ## The page loop -/

/-- A page of UIDs and the set it is asked for with. -/
structure UidPage where
  uids : List Nat
  set : Text
deriving DecidableEq, Repr

/-- The pages that were consumed, and the UIDs left when one could not be. -/
structure PageRun where
  pages : List UidPage
  left : List Nat
deriving DecidableEq, Repr

section Pages

variable {σ : Type*}

/-- The UIDs are consumed page by page; a page that cannot be consumed ends the loop. -/
def consumePages (size : σ → Nat) (consume : σ → UidPage → Option σ) (state : σ)
    (uids : List Nat) : PageRun :=
  if uids = [] then { pages := [], left := [] }
  else
    let page : UidPage :=
      { uids := uids.take (encodeUidPage uids (size state)).1
        set := (encodeUidPage uids (size state)).2 }
    match consume state page with
    | none => { pages := [], left := uids }
    | some next =>
      let rest := consumePages size consume next
        (uids.drop (encodeUidPage uids (size state)).1)
      { rest with pages := page :: rest.pages }
termination_by uids.length
decreasing_by
  have nonempty : uids ≠ [] := ‹¬uids = []›
  have taken := encodeUidPage_pos nonempty (size state)
  have := List.length_pos_of_ne_nil nonempty
  rw [List.length_drop]
  omega

variable (size : σ → Nat) (consume : σ → UidPage → Option σ)

theorem consumePages_slices (state : σ) (uids : List Nat) :
    ((consumePages size consume state uids).pages.map (·.uids)).flatten ++
      (consumePages size consume state uids).left = uids := by
  fun_induction consumePages size consume state uids with
  | case1 => rfl
  | case2 => rfl
  | case3 state uids nonempty page next consumed rest ih =>
    rw [List.map_cons, List.flatten_cons, List.append_assoc, ih]
    exact List.take_append_drop _ _

theorem consumePages_left (each : ∀ state page, (consume state page).isSome) (state : σ)
    (uids : List Nat) : (consumePages size consume state uids).left = [] := by
  fun_induction consumePages size consume state uids with
  | case1 => rfl
  | case2 state uids nonempty page refused =>
    have accepted := each state page
    rw [refused] at accepted
    cases accepted
  | case3 state uids nonempty page next consumed rest ih => exact ih

theorem consumePages_denotes (state : σ) (uids : List Nat)
    (fits : ∀ uid ∈ uids, uid < 2 ^ 32) :
    ∀ page ∈ (consumePages size consume state uids).pages,
      page.uids ≠ [] ∧ Denotes page.set page.uids := by
  fun_induction consumePages size consume state uids with
  | case1 => exact fun page isPage => absurd isPage List.not_mem_nil
  | case2 => exact fun page isPage => absurd isPage List.not_mem_nil
  | case3 state uids nonempty page next consumed rest ih =>
    rw [List.forall_mem_cons]
    refine ⟨⟨fun isEmpty => ?_, (encoded_encodeUidPage fits _).denotes⟩,
      ih fun uid isUid => fits uid (List.mem_of_mem_drop isUid)⟩
    have taken := encodeUidPage_pos nonempty (size state)
    rcases List.take_eq_nil_iff.mp isEmpty with isZero | noUids
    · omega
    · exact nonempty noUids

end Pages

/-- Pages are slices of the UIDs, and each is asked for with a set of its own UIDs. -/
theorem uidPages_partition {uids : List Nat} (fits : ∀ uid ∈ uids, uid < 2 ^ 32) :
    (∀ maxCount,
      Denotes (encodeUidPage uids maxCount).2 (uids.take (encodeUidPage uids maxCount).1) ∧
      (encodeUidPage uids maxCount).1 ≤ uids.length ∧
      (uids ≠ [] → 1 ≤ (encodeUidPage uids maxCount).1) ∧
      (encodeUidPage uids maxCount).1 ≤ max 1 maxCount ∧
      (encodeUidPage uids maxCount).2.length ≤ maxUidSetBytes) ∧
    ∀ {σ : Type} (size : σ → Nat) (consume : σ → UidPage → Option σ) (state : σ),
      ((consumePages size consume state uids).pages.map (·.uids)).flatten ++
        (consumePages size consume state uids).left = uids ∧
      (∀ page ∈ (consumePages size consume state uids).pages,
        page.uids ≠ [] ∧ Denotes page.set page.uids) ∧
      ((∀ state page, (consume state page).isSome) →
        ((consumePages size consume state uids).pages.map (·.uids)).flatten = uids) := by
  refine ⟨fun maxCount => ?_, fun size consume state =>
    ⟨consumePages_slices size consume state uids,
      consumePages_denotes size consume state uids fits, fun each => ?_⟩⟩
  · have encoded := encoded_encodeUidPage fits maxCount
    have within := encoded.within
    exact ⟨encoded.denotes, le_trans within (min_le_left _ _),
      fun nonempty => encodeUidPage_pos nonempty maxCount,
      le_trans within (le_trans (min_le_right _ _) (max_comm maxCount 1).le), encoded.short⟩
  · have slices := consumePages_slices size consume state uids
    rw [consumePages_left size consume each state uids, List.append_nil] at slices
    exact slices

theorem uidPages_partition_runs :
    Denotes (encodeUidPage [1, 2, 3, 5, 7, 8] 5).2
      ([1, 2, 3, 5, 7, 8].take (encodeUidPage [1, 2, 3, 5, 7, 8] 5).1) :=
  ((uidPages_partition (by decide : ∀ uid ∈ [1, 2, 3, 5, 7, 8], uid < 2 ^ 32)).1 5).1

end MailSwiftSync.Imap
