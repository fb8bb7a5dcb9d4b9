import Mathlib.Logic.Relation
import MailSwiftSync.Assurance.Snapshots
import MailSwiftSync.Foundation.Words

/-!
# Identities of files

A file is identified by its path.  The path is resolved with the slash as its only separator, and
its backslashes become slashes afterwards.
-/

namespace MailSwiftSync.Assurance

open Foundation
open Control (Json splitText)

/-! ## Places -/

def isSlash (c : Char) : Bool := c == '/'

def isSeparator (c : Char) : Bool := c == '/' || c == '\\'

/-- Where a path leads: from the root or from here, and the names on the way. -/
structure Place where
  rooted : Bool
  names : List String
deriving DecidableEq, Repr

def Place.text (place : Place) : String :=
  (if place.rooted then "/" else "") ++ "/".intercalate place.names

/-- The components of a path, for some separators. -/
def pieces (separates : Char → Bool) (path : String) : List String :=
  (words separates path.toList).map String.ofList

/-- The parts of a component between its backslashes. -/
def parts (component : String) : List String := splitText '\\' component

/-- Where some components lead. -/
def walk (rooted : Bool) (components : List String) : List String :=
  components.foldl (pushComponent rooted) []

/-- Where a path leads, for some separators. -/
def place (separates : Char → Bool) (path : String) : Place where
  rooted := path.toList.head?.any separates
  names := walk (path.toList.head?.any separates) (pieces separates path)

/-- A path with slashes for its backslashes. -/
def inSlashes (path : String) : String := path.map fun c => if c = '\\' then '/' else c

theorem pushComponent_empty (rooted : Bool) (normalized : List String) :
    pushComponent rooted normalized "" = normalized := rfl

/-- Empty components make no difference. -/
theorem foldl_pushComponent_filter (rooted : Bool) (components normalized : List String) :
    (components.filter (· ≠ "")).foldl (pushComponent rooted) normalized =
      components.foldl (pushComponent rooted) normalized := by
  induction components generalizing normalized with
  | nil => rfl
  | cons component components ih =>
    by_cases isEmpty : component = ""
    · rw [List.filter_cons_of_neg (by simp [isEmpty]), List.foldl_cons, isEmpty,
        pushComponent_empty, ih]
    · rw [List.filter_cons_of_pos (by simp [isEmpty]), List.foldl_cons, List.foldl_cons, ih]

theorem pieces_isSlash (path : String) :
    pieces isSlash path = (splitText '/' path).filter (· ≠ "") := by
  have sameParts : path.toList.splitOn '/' = path.toList.splitOnP isSlash :=
    List.splitOn_eq_splitOnP
  rw [pieces, words, splitText, sameParts, List.filter_map]
  congr 1
  refine List.filter_congr fun part _ => ?_
  cases part with
  | nil => rfl
  | cons c part => exact (decide_eq_true (by simp)).symm

theorem head_any_isSlash (path : String) :
    path.toList.head?.any isSlash = decide (path.toList.head? = some '/') := by
  cases path.toList.head? with
  | none => rfl
  | some c => simp [isSlash, beq_eq_decide]

theorem normalizePath_eq (path : String) :
    normalizePath path = inSlashes (place isSlash path).text := by
  have sameNames : (place isSlash path).names =
      (splitText '/' path).foldl (pushComponent (path.toList.head? = some '/')) [] := by
    rw [place, pieces_isSlash, walk, foldl_pushComponent_filter, head_any_isSlash]
  rw [normalizePath, Place.text, sameNames, place, head_any_isSlash, inSlashes]
  simp only [decide_eq_true_eq]

/-! ## Components one by one -/

/-- A component that stands until it is left. -/
def IsName (component : String) : Prop :=
  component ≠ "" ∧ component ≠ "." ∧ component ≠ ".."

instance (component : String) : Decidable (IsName component) :=
  inferInstanceAs (Decidable (_ ∧ _))

/-- Upward components, and a number of names after them. -/
def Climbs (rooted : Bool) (height : Nat) (components : List String) : Prop :=
  ∃ up names, components = List.replicate up ".." ++ names ∧ (∀ name ∈ names, IsName name) ∧
    names.length = height ∧ (rooted = true → up = 0)

section Climbing

variable {rooted : Bool} {height : Nat} {normalized : List String} {component : String}

theorem pushComponent_skip (skipped : component = "" ∨ component = ".") :
    pushComponent rooted normalized component = normalized := by
  rw [pushComponent, if_pos (by simpa using skipped)]

theorem pushComponent_name (isName : IsName component) :
    pushComponent rooted normalized component = normalized ++ [component] := by
  rw [pushComponent, if_neg (by simp [isName.1, isName.2.1]), if_neg isName.2.2]

theorem pushComponent_leave (isName : IsName component) :
    pushComponent rooted (normalized ++ [component]) ".." = normalized := by
  rw [pushComponent, if_neg (by decide), if_pos rfl, List.getLast?_concat,
    if_pos (by simp [isName.2.2]), List.dropLast_concat]

theorem pushComponent_up (rooted : Bool) (up : Nat) :
    pushComponent rooted (List.replicate up "..") ".." =
      List.replicate (if rooted then up else up + 1) ".." := by
  have noName : (List.replicate up "..").getLast?.any (· ≠ "..") = false := by
    cases up with
    | zero => rfl
    | succ up =>
      rw [List.replicate_succ', List.getLast?_concat]
      decide
  rw [pushComponent, if_neg (by decide), if_pos rfl, noName, if_neg Bool.false_ne_true]
  split
  · rfl
  · exact List.replicate_succ'.symm

theorem climbs_nil (rooted : Bool) : Climbs rooted 0 [] :=
  ⟨0, [], rfl, by simp, rfl, fun _ => rfl⟩

theorem Climbs.name (climbs : Climbs rooted height normalized) (isName : IsName component) :
    Climbs rooted (height + 1) (normalized ++ [component]) := by
  obtain ⟨up, names, rfl, areNames, isHeight, root⟩ := climbs
  refine ⟨up, names ++ [component], List.append_assoc .., ?_, ?_, root⟩
  · rw [List.forall_mem_append, List.forall_mem_singleton]
    exact ⟨areNames, isName⟩
  · rw [List.length_append, isHeight]
    rfl

theorem Climbs.up (climbs : Climbs rooted height normalized) :
    Climbs rooted (height - 1) (pushComponent rooted normalized "..") := by
  obtain ⟨up, names, rfl, areNames, isHeight, root⟩ := climbs
  rcases List.eq_nil_or_concat names with rfl | ⟨names, name, rfl⟩
  · rw [List.append_nil, pushComponent_up]
    refine ⟨_, [], (List.append_nil _).symm, by simp, by rw [← isHeight]; rfl, fun isRoot => ?_⟩
    rw [if_pos isRoot, root isRoot]
  · rw [List.concat_eq_append] at areNames isHeight ⊢
    rw [← List.append_assoc, pushComponent_leave (areNames name (by simp))]
    refine ⟨up, names, rfl, fun name isName => areNames name (List.mem_append_left _ isName), ?_,
      root⟩
    rw [← isHeight, List.length_append]
    rfl

/-- Every component is skipped, leads upwards or is a name. -/
theorem component_cases (component : String) :
    (component = "" ∨ component = ".") ∨ component = ".." ∨ IsName component := by
  by_cases skipped : component = "" ∨ component = "."
  · exact .inl skipped
  · rw [not_or] at skipped
    by_cases isUp : component = ".."
    · exact .inr (.inl isUp)
    · exact .inr (.inr ⟨skipped.1, skipped.2, isUp⟩)

theorem exists_climbs (rooted : Bool) (components : List String) :
    ∃ height, Climbs rooted height (walk rooted components) := by
  induction components using List.reverseRecOn with
  | nil => exact ⟨0, climbs_nil rooted⟩
  | append_singleton components last ih =>
    obtain ⟨height, climbs⟩ := ih
    rw [walk] at climbs ⊢
    rw [List.foldl_append, List.foldl_cons, List.foldl_nil]
    rcases component_cases last with skipped | rfl | isName
    · rw [pushComponent_skip skipped]
      exact ⟨height, climbs⟩
    · exact ⟨_, climbs.up⟩
    · rw [pushComponent_name isName]
      exact ⟨_, climbs.name isName⟩

theorem mem_pushComponent {name : String}
    (isMember : name ∈ pushComponent rooted normalized component) :
    name ∈ normalized ∨ name = component := by
  rw [pushComponent] at isMember
  split at isMember
  · exact .inl isMember
  split at isMember
  next isUp =>
    split at isMember
    · exact .inl (List.mem_of_mem_dropLast isMember)
    split at isMember
    · exact .inl isMember
    · rw [isUp]
      exact (List.mem_append.mp isMember).imp_right List.mem_singleton.mp
  · exact (List.mem_append.mp isMember).imp_right List.mem_singleton.mp

/-- What resolution keeps is among the components. -/
theorem mem_walk {components : List String} {name : String}
    (isMember : name ∈ walk rooted components) : name ∈ components := by
  induction components using List.reverseRecOn with
  | nil => exact isMember
  | append_singleton components last ih =>
    rw [walk, List.foldl_append] at isMember
    rcases mem_pushComponent isMember with earlier | rfl
    · exact List.mem_append_left _ (ih earlier)
    · simp

end Climbing

/-! ## Components that stay -/

/-- The names before a component and after it, if resolution leaves the component as it is. -/
def rise (rooted : Bool) (height : Nat) (component : String) : Option Nat :=
  if component = "" ∨ component = "." then none
  else if component = ".." then if rooted = false ∧ height = 0 then some 0 else none
  else some (height + 1)

section Rising

variable {rooted : Bool} {height higher : Nat} {normalized : List String}

theorem rise_name {component : String} (isName : IsName component) :
    rise rooted height component = some (height + 1) := by
  rw [rise, if_neg (by simp [isName.1, isName.2.1]), if_neg isName.2.2]

theorem Climbs.rise {component : String} (climbs : Climbs rooted height normalized)
    (rises : Assurance.rise rooted height component = some higher) :
    pushComponent rooted normalized component = normalized ++ [component] ∧
      Climbs rooted higher (normalized ++ [component]) := by
  rcases component_cases component with skipped | rfl | isName
  · rw [Assurance.rise, if_pos skipped] at rises
    cases rises
  · rw [Assurance.rise, if_neg (by decide), if_pos rfl] at rises
    split at rises
    next flat =>
      obtain ⟨up, names, rfl, -, isHeight, -⟩ := climbs
      obtain ⟨notRooted, rfl⟩ := flat
      obtain rfl := List.length_eq_zero_iff.mp isHeight
      obtain rfl := Option.some.inj rises
      rw [List.append_nil, pushComponent_up, if_neg (by simp [notRooted]), ← List.replicate_succ']
      exact ⟨rfl, _, [], (List.append_nil _).symm, by simp, rfl, by simp [notRooted]⟩
    · cases rises
  · rw [rise_name isName] at rises
    obtain rfl := Option.some.inj rises
    exact ⟨pushComponent_name isName, climbs.name isName⟩

theorem Climbs.foldl {components : List String} (climbs : Climbs rooted height normalized)
    (rises : components.foldlM (Assurance.rise rooted) height = some higher) :
    components.foldl (pushComponent rooted) normalized = normalized ++ components ∧
      Climbs rooted higher (normalized ++ components) := by
  induction components generalizing height normalized with
  | nil =>
    obtain rfl := Option.some.inj rises
    exact ⟨(List.append_nil _).symm, by rwa [List.append_nil]⟩
  | cons component components ih =>
    rw [List.foldlM_cons, Option.bind_eq_bind, Option.bind_eq_some_iff] at rises
    obtain ⟨next, first, later⟩ := rises
    obtain ⟨pushed, climbs⟩ := climbs.rise first
    obtain ⟨folded, climbs⟩ := ih climbs later
    rw [List.append_assoc, List.singleton_append] at folded climbs
    rw [List.foldl_cons, pushed]
    exact ⟨folded, climbs⟩

/-- Where components lead is left as it is. -/
theorem Climbs.walk (climbs : Climbs rooted height normalized) :
    walk rooted normalized = normalized := by
  obtain ⟨up, names, rfl, areNames, rfl, root⟩ := climbs
  have upward : (List.replicate up "..").foldlM (Assurance.rise rooted) 0 = some 0 := by
    cases rooted with
    | true => rw [root rfl]; rfl
    | false =>
      clear root
      induction up with
      | zero => rfl
      | succ up ih => exact ih
  have named : ∀ height, names.foldlM (Assurance.rise rooted) height =
      some (height + names.length) := by
    induction names with
    | nil => exact fun _ => rfl
    | cons name names ih =>
      obtain ⟨isName, areNames⟩ := List.forall_mem_cons.mp areNames
      intro height
      rw [List.foldlM_cons, rise_name isName]
      refine (ih areNames (height + 1)).trans ?_
      rw [List.length_cons, Nat.add_right_comm, Nat.add_assoc]
  have rises : (List.replicate up ".." ++ names).foldlM (Assurance.rise rooted) 0 =
      some (0 + names.length) := by
    rw [List.foldlM_append, upward]
    exact named 0
  exact ((climbs_nil rooted).foldl rises).1

end Rising

/-! ## Texts of places -/

theorem Place.toList_text (place : Place) :
    place.text.toList =
      (if place.rooted then ['/'] else []) ++
        ['/'].intercalate (place.names.map String.toList) := by
  rw [Place.text, String.toList_append, String.toList_intercalate]
  cases place.rooted with
  | true => rfl
  | false => rfl

section Texts

variable {separates : Char → Bool} {place : Place}

/-- The components of the text of a place are its names. -/
theorem pieces_text (isSlash : separates '/' = true)
    (areWords : ∀ name ∈ place.names, IsWord separates name.toList) :
    pieces separates place.text = place.names := by
  have areWords := List.forall_mem_map.mpr areWords
  have joined : words separates place.text.toList = place.names.map String.toList := by
    rw [Place.toList_text]
    split
    · rw [List.singleton_append, words_cons_blank isSlash, words_intercalate isSlash areWords]
    · rw [List.nil_append, words_intercalate isSlash areWords]
  rw [pieces, joined, List.map_map]
  exact (List.map_congr_left fun name _ => String.ofList_toList).trans (List.map_id _)

theorem rooted_text (isSlash : separates '/' = true)
    (areWords : ∀ name ∈ place.names, IsWord separates name.toList) :
    place.text.toList.head?.any separates = place.rooted := by
  rw [Place.toList_text]
  cases place.rooted with
  | true => exact isSlash
  | false =>
    rw [if_neg Bool.false_ne_true, List.nil_append]
    cases isNames : place.names with
    | nil => rfl
    | cons name names =>
      have isWord := areWords name (isNames ▸ List.mem_cons_self)
      cases isText : name.toList with
      | nil => exact absurd isText isWord.1
      | cons c text =>
        have notBlank : separates c = false :=
          isWord.2 c (isText ▸ List.mem_cons_self)
        have starts : (['/'].intercalate ((name :: names).map String.toList)).head? =
            some c := by
          rw [List.map_cons, isText]
          cases names with
          | nil => rw [List.map_nil, List.intercalate_singleton, List.head?_cons]
          | cons next names => rw [List.map_cons, List.intercalate_cons_cons]; rfl
        rw [starts]
        exact notBlank

end Texts

theorem isWord_of_mem_names {path name : String} (isName : name ∈ (place isSeparator path).names) :
    IsWord isSeparator name.toList := by
  obtain ⟨word, isWord, rfl⟩ := List.mem_map.mp (mem_walk isName)
  rw [String.toList_ofList]
  exact isWord_of_mem isWord

/-- The text of a place leads there. -/
theorem place_text (path : String) :
    place isSeparator (place isSeparator path).text = place isSeparator path := by
  have areWords : ∀ name ∈ (place isSeparator path).names, IsWord isSeparator name.toList :=
    fun _ => isWord_of_mem_names
  obtain ⟨_, climbs⟩ :=
    exists_climbs (path.toList.head?.any isSeparator) (pieces isSeparator path)
  rw [place, rooted_text (by decide) areWords, pieces_text (by decide) areWords]
  exact congrArg (Place.mk _) climbs.walk

/-! ## Backslashes -/

theorem toList_inSlashes (path : String) :
    (inSlashes path).toList = path.toList.map fun c => if c = '\\' then '/' else c :=
  String.toList_map

variable {path : String}

/-- A path without backslashes has none to change. -/
theorem inSlashes_eq_self (noBackslash : '\\' ∉ path.toList) : inSlashes path = path := by
  rw [← String.toList_inj, toList_inSlashes]
  refine (List.map_congr_left fun c isMember => ?_).trans (List.map_id _)
  exact if_neg fun (isBackslash : c = '\\') => noBackslash (isBackslash ▸ isMember)

theorem backslash_not_mem_inSlashes (path : String) : '\\' ∉ (inSlashes path).toList := by
  rw [toList_inSlashes, List.mem_map]
  rintro ⟨c, -, isBackslash⟩
  split at isBackslash
  · cases isBackslash
  next notBackslash => exact notBackslash isBackslash

theorem inSlashes_append (first second : String) :
    inSlashes (first ++ second) = inSlashes first ++ inSlashes second := by
  rw [← String.toList_inj, String.toList_append, toList_inSlashes, toList_inSlashes,
    toList_inSlashes, String.toList_append, List.map_append]

theorem cons_intercalate {texts : List (List Char)} (nonempty : texts ≠ []) :
    '/' :: ['/'].intercalate texts = texts.flatMap ('/' :: ·) := by
  induction texts with
  | nil => exact absurd rfl nonempty
  | cons text texts ih =>
    by_cases isLast : texts = []
    · rw [isLast, List.intercalate_singleton, List.flatMap_singleton]
    · rw [List.intercalate_cons_of_ne_nil isLast, List.flatMap_cons, ← ih isLast]
      simp

theorem cons_map_slash (text : List Char) :
    '/' :: text.map (fun c => if c = '\\' then '/' else c) =
      (text.splitOn '\\').flatMap ('/' :: ·) := by
  induction text with
  | nil => rfl
  | cons c text ih =>
    rw [List.splitOn_eq_splitOnP] at ih ⊢
    rw [List.splitOnP_cons_eq_if_modifyHead, List.map_cons]
    by_cases isBackslash : c = '\\'
    · rw [isBackslash, if_pos rfl, if_pos (by decide), List.flatMap_cons, ← ih]
      rfl
    · rw [if_neg isBackslash, if_neg (by simp [isBackslash])]
      obtain ⟨part, rest, split⟩ :=
        List.exists_cons_of_ne_nil (List.splitOnP_ne_nil (· == '\\') text)
      rw [split, List.flatMap_cons, List.cons_append] at ih
      rw [split, List.modifyHead_cons, List.flatMap_cons, (List.cons.inj ih).2]
      rfl

/-- Names joined by slashes, with slashes for their backslashes, are their parts joined. -/
theorem inSlashes_intercalate (names : List String) :
    inSlashes ("/".intercalate names) = "/".intercalate (names.flatMap parts) := by
  by_cases nonempty : names = []
  · rw [nonempty]
    exact inSlashes_eq_self (by decide)
  have texts : (names.flatMap parts).map String.toList =
      (names.map String.toList).flatMap (List.splitOn '\\') := by
    rw [List.map_flatMap, List.flatMap_map]
    refine List.flatMap_congr fun name _ => ?_
    rw [parts, splitText, List.map_map]
    exact (List.map_congr_left fun _ _ => String.toList_ofList).trans (List.map_id _)
  have someNames : names.map String.toList ≠ [] := List.map_eq_nil_iff.not.mpr nonempty
  have someParts : (names.map String.toList).flatMap (List.splitOn '\\') ≠ [] := by
    obtain ⟨name, rest, isNames⟩ := List.exists_cons_of_ne_nil someNames
    rw [isNames, List.flatMap_cons, List.splitOn_eq_splitOnP]
    exact List.append_ne_nil_of_left_ne_nil (List.splitOnP_ne_nil _ _) _
  have joined := congrArg (List.map fun c => if c = '\\' then '/' else c)
    (cons_intercalate someNames)
  rw [List.map_flatMap, List.map_cons, if_neg (by decide)] at joined
  simp only [List.map_cons, if_neg (show '/' ≠ '\\' by decide), cons_map_slash] at joined
  rw [← List.flatMap_assoc, ← cons_intercalate someParts, ← texts] at joined
  rw [← String.toList_inj, toList_inSlashes, String.toList_intercalate, String.toList_intercalate]
  exact (List.cons.inj ((cons_map_slash _).trans joined)).2

theorem parts_of_noBackslash {name : String} (noBackslash : '\\' ∉ name.toList) :
    parts name = [name] := by
  have whole : name.toList.splitOn '\\' = [name.toList] := by
    rw [List.splitOn_eq_splitOnP]
    exact List.splitOnP_eq_singleton fun c isMember =>
      beq_eq_false_iff_ne.mpr fun isBackslash => noBackslash (isBackslash ▸ isMember)
  rw [parts, splitText, whole, List.map_singleton, String.ofList_toList]

/-- The components for both separators are the parts of those for slashes. -/
theorem splitOnP_isSeparator (text : List Char) :
    text.splitOnP isSeparator = (text.splitOnP isSlash).flatMap (List.splitOn '\\') := by
  induction text with
  | nil => rfl
  | cons c text ih =>
    obtain ⟨part, rest, split⟩ :=
      List.exists_cons_of_ne_nil (List.splitOnP_ne_nil isSlash text)
    rw [split, List.flatMap_cons] at ih
    rw [List.splitOnP_cons_eq_if_modifyHead, List.splitOnP_cons_eq_if_modifyHead, ih, split]
    by_cases slash : c = '/'
    · rw [slash]
      rfl
    have notSlash : isSlash c = false := beq_eq_false_iff_ne.mpr slash
    simp only [List.splitOn_eq_splitOnP, notSlash, isSeparator, Bool.false_eq_true, if_false,
      List.modifyHead_cons, List.flatMap_cons, List.splitOnP_cons_eq_if_modifyHead]
    by_cases isBackslash : c = '\\'
    · rw [isBackslash]
      rfl
    · obtain ⟨first, later, split⟩ :=
        List.exists_cons_of_ne_nil (List.splitOnP_ne_nil (· == '\\') part)
      rw [split, if_neg (by simp [slash, isBackslash]), if_neg (by simp [isBackslash])]
      rfl

theorem pieces_isSeparator (path : String) :
    pieces isSeparator path = ((pieces isSlash path).flatMap parts).filter (· ≠ "") := by
  rw [pieces, pieces, words, words, splitOnP_isSeparator]
  induction path.toList.splitOnP isSlash with
  | nil => rfl
  | cons part rest ih =>
    rw [List.flatMap_cons, List.filter_append, List.map_append, ih]
    cases part with
    | nil => rfl
    | cons c part =>
      rw [List.filter_cons_of_pos rfl, List.map_cons, List.flatMap_cons, List.filter_append,
        parts, splitText, String.toList_ofList, List.filter_map]
      congr 2
      refine List.filter_congr fun part _ => ?_
      cases part with
      | nil => rfl
      | cons c part => exact (decide_eq_true (by simp)).symm

theorem parts_ne_nil (name : String) : parts name ≠ [] := by
  rw [parts, splitText, List.splitOn_eq_splitOnP]
  exact List.map_eq_nil_iff.not.mpr (List.splitOnP_ne_nil _ _)

/-! ## Components with backslashes -/

/-- Resolution goes on without removing a component with a backslash, above the `floor` of names
that stand on the last one, and would leave the parts of such components as they are. -/
def untouchedFrom (rooted : Bool) : Nat → Option Nat → List String → Bool
  | _, _, [] => true
  | height, floor, component :: later =>
    if '\\' ∈ component.toList then
      ((parts component).foldlM (rise rooted) height).any fun height =>
        untouchedFrom rooted height (some height) later
    else if component = "" ∨ component = "." then untouchedFrom rooted height floor later
    else if component = ".." then
      floor.all (· < height) && untouchedFrom rooted (height - 1) floor later
    else untouchedFrom rooted (height + 1) floor later

/-- No component with a backslash is removed or has parts that would be resolved; the backslash
that starts a path is its root. -/
def isUntouched (path : String) : Bool :=
  if path.toList.head? = some '\\' then
    match pieces isSlash path with
    | [] => true
    | first :: later =>
      ((parts first).tail.foldlM (rise true) 0).any fun height =>
        untouchedFrom true height (some height) later
  else untouchedFrom (path.toList.head?.any isSeparator) 0 none (pieces isSlash path)

/-- A name that has a backslash is not resolved on slashes. -/
theorem isName_of_backslash {component : String} (backslash : '\\' ∈ component.toList) :
    IsName component := by
  refine ⟨?_, ?_, ?_⟩ <;>
    · rintro rfl
      exact absurd backslash (by decide)

/-- Names that lead to the same place, whether backslashes separate before or after the
resolution: all of them are alike so far, or those above the last component with a
backslash. -/
inductive Alike (rooted' rooted : Bool) (lead : List String) :
    Option Nat → Nat → List String → List String → Prop
  | whole {height : Nat} {names : List String} (sameRoot : rooted' = rooted) (noLead : lead = [])
      (noBackslash : ∀ name ∈ names, '\\' ∉ name.toList) :
      Alike rooted' rooted lead none height names names
  | above {floor : Nat} {below kept names : List String}
      (sameParts : below.flatMap parts = lead ++ kept) (nonempty : kept ≠ [])
      (areNames : ∀ name ∈ names, IsName name ∧ '\\' ∉ name.toList) :
      Alike rooted' rooted lead (some floor) (floor + names.length) (below ++ names)
        (kept ++ names)

theorem flatMap_parts {names : List String} (noBackslash : ∀ name ∈ names, '\\' ∉ name.toList) :
    names.flatMap parts = names := by
  rw [List.flatMap_congr fun name isName => parts_of_noBackslash (noBackslash name isName)]
  exact List.flatMap_singleton' names

section Resolution

variable {rooted' rooted : Bool} {lead : List String} {floor : Option Nat} {height : Nat}
  {names others later : List String}

theorem Alike.flatMap (alike : Alike rooted' rooted lead floor height names others) :
    names.flatMap parts = lead ++ others := by
  cases alike with
  | whole sameRoot noLead noBackslash => rw [flatMap_parts noBackslash, noLead, List.nil_append]
  | above sameParts nonempty areNames =>
    rw [List.flatMap_append, sameParts, flatMap_parts fun name isName => (areNames name isName).2,
      List.append_assoc]

theorem Alike.nonempty (alike : Alike rooted' rooted lead floor height names others) :
    lead = [] ∨ others ≠ [] := by
  cases alike with
  | whole _ noLead _ => exact .inl noLead
  | above _ nonempty _ => exact .inr (List.append_ne_nil_of_left_ne_nil nonempty _)

theorem Alike.name (alike : Alike rooted' rooted lead floor height names others)
    {component : String} (isName : IsName component) (noBackslash : '\\' ∉ component.toList) :
    Alike rooted' rooted lead floor (height + 1) (names ++ [component])
      (others ++ [component]) := by
  cases alike with
  | whole sameRoot noLead earlier =>
    refine .whole sameRoot noLead ?_
    rw [List.forall_mem_append, List.forall_mem_singleton]
    exact ⟨earlier, noBackslash⟩
  | @above floor below kept names sameParts nonempty areNames =>
    have raised := @Alike.above rooted' rooted lead floor below kept (names ++ [component])
      sameParts nonempty (by
        rw [List.forall_mem_append, List.forall_mem_singleton]
        exact ⟨areNames, isName, noBackslash⟩)
    rwa [List.length_append, ← List.append_assoc, ← List.append_assoc, ← Nat.add_assoc] at raised

theorem Alike.up (alike : Alike rooted' rooted lead floor height names others)
    (isAbove : floor.all (· < height) = true) :
    Alike rooted' rooted lead floor (height - 1) (pushComponent rooted' names "..")
      (pushComponent rooted others "..") := by
  cases alike with
  | whole sameRoot noLead noBackslash =>
    rw [sameRoot]
    refine .whole rfl noLead fun name isMember => ?_
    rcases mem_pushComponent isMember with earlier | rfl
    · exact noBackslash name earlier
    · decide
  | @above floor below kept names sameParts nonempty areNames =>
    rcases List.eq_nil_or_concat names with rfl | ⟨names, name, rfl⟩
    · simp at isAbove
    · rw [List.concat_eq_append] at areNames ⊢
      have isName := (areNames name (by simp)).1
      rw [← List.append_assoc, ← List.append_assoc, pushComponent_leave isName,
        pushComponent_leave isName, List.length_append]
      exact .above sameParts nonempty fun name isName =>
        areNames name (List.mem_append_left _ isName)

/-- A component with backslashes stands on both sides. -/
theorem Alike.backslash (alike : Alike rooted' rooted lead floor height names others)
    (component : String) {higher : Nat} :
    Alike rooted' rooted lead (some higher) higher (names ++ [component])
      (others ++ parts component) := by
  have sameParts : (names ++ [component]).flatMap parts = lead ++ (others ++ parts component) := by
    rw [List.flatMap_append, alike.flatMap, List.flatMap_singleton, List.append_assoc]
  have stands := @Alike.above rooted' rooted lead higher _ _ [] sameParts
    (List.append_ne_nil_of_right_ne_nil _ (parts_ne_nil component)) (by simp)
  rwa [List.append_nil, List.append_nil] at stands

/-- Untouched components are resolved alike. -/
theorem Alike.foldl (alike : Alike rooted' rooted lead floor height names others)
    (climbs : Climbs rooted height others) (untouched : untouchedFrom rooted height floor later) :
    ∃ floor height, Alike rooted' rooted lead floor height
      (later.foldl (pushComponent rooted') names)
      ((later.flatMap parts).foldl (pushComponent rooted) others) := by
  induction later generalizing floor height names others with
  | nil => exact ⟨floor, height, alike⟩
  | cons component later ih =>
    rw [List.flatMap_cons, List.foldl_append, List.foldl_cons]
    rw [untouchedFrom] at untouched
    split at untouched
    next backslash =>
      obtain ⟨higher, rises, untouched⟩ := (Option.any_eq_true _ _).mp untouched
      obtain ⟨folded, climbs⟩ := climbs.foldl rises
      rw [pushComponent_name (isName_of_backslash backslash), folded]
      exact ih (alike.backslash component) climbs untouched
    next noBackslash =>
      rw [parts_of_noBackslash noBackslash, List.foldl_cons, List.foldl_nil]
      rcases component_cases component with skipped | rfl | isName
      · rw [if_pos skipped] at untouched
        rw [pushComponent_skip skipped, pushComponent_skip skipped]
        exact ih alike climbs untouched
      · rw [if_neg (by decide), if_pos rfl, Bool.and_eq_true] at untouched
        exact ih (alike.up untouched.1) climbs.up untouched.2
      · rw [if_neg (by simp [isName.1, isName.2.1]), if_neg isName.2.2] at untouched
        rw [pushComponent_name isName, pushComponent_name isName]
        exact ih (alike.name isName noBackslash) (climbs.name isName) untouched

end Resolution

theorem rooted_eq (noBackslash : path.toList.head? ≠ some '\\') :
    path.toList.head?.any isSlash = path.toList.head?.any isSeparator := by
  cases isHead : path.toList.head? with
  | none => rfl
  | some c =>
    have notBackslash : c ≠ '\\' := fun isBackslash => noBackslash (isBackslash ▸ isHead)
    simp [isSlash, isSeparator, notBackslash]

/-- A path that starts with a backslash starts with a component that does. -/
theorem exists_first (starts : path.toList.head? = some '\\') :
    ∃ name after, pieces isSlash path = name :: after ∧ '\\' ∈ name.toList ∧
      ∃ tail, parts name = "" :: tail ∧ tail ≠ [] := by
  obtain ⟨text, isText⟩ : ∃ text, path.toList = '\\' :: text := by
    cases isText : path.toList with
    | nil =>
      rw [isText] at starts
      cases starts
    | cons c text =>
      rw [isText, List.head?_cons, Option.some_inj] at starts
      exact ⟨text, by rw [starts]⟩
  obtain ⟨part, rest, split⟩ := List.exists_cons_of_ne_nil (List.splitOnP_ne_nil isSlash text)
  refine ⟨String.ofList ('\\' :: part), ((rest.filter (!·.isEmpty)).map String.ofList), ?_, ?_,
    parts (String.ofList part), ?_, parts_ne_nil _⟩
  · rw [pieces, words, isText, List.splitOnP_cons_eq_if_modifyHead, split, if_neg (by decide),
      List.modifyHead_cons]
    rfl
  · rw [String.toList_ofList]
    exact List.mem_cons_self
  · rw [parts, parts, splitText, splitText, String.toList_ofList, String.toList_ofList,
      List.splitOn_eq_splitOnP, List.splitOn_eq_splitOnP, List.splitOnP_cons_eq_if_modifyHead]
    rfl

/-- Resolution on slashes leaves the parts that resolution on both separators leaves. -/
theorem exists_alike (untouched : isUntouched path) :
    ∃ lead, (place isSlash path).names.flatMap parts = lead ++ (place isSeparator path).names ∧
      (if path.toList.head?.any isSlash then "/" else "") ++
          "/".intercalate (lead ++ (place isSeparator path).names) =
        (place isSeparator path).text := by
  have sameNames : (place isSeparator path).names =
      walk (path.toList.head?.any isSeparator) ((pieces isSlash path).flatMap parts) := by
    rw [place, pieces_isSeparator, walk, foldl_pushComponent_filter]
    rfl
  by_cases starts : path.toList.head? = some '\\'
  · obtain ⟨first, later, isFirst, backslash, tail, isParts, nonempty⟩ := exists_first starts
    rw [isUntouched, if_pos starts, isFirst] at untouched
    obtain ⟨height, rises, untouched⟩ := (Option.any_eq_true _ _).mp untouched
    rw [isParts, List.tail_cons] at rises
    obtain ⟨folded, climbs⟩ := (climbs_nil true).foldl rises
    have stands := @Alike.above false true [""] height [first] tail []
      (by rw [List.flatMap_singleton, isParts]; rfl) nonempty (by simp)
    rw [List.append_nil, List.append_nil] at stands
    rw [List.nil_append] at folded climbs
    obtain ⟨floor, height, alike⟩ := stands.foldl climbs untouched
    have others : (place isSeparator path).names =
        (later.flatMap parts).foldl (pushComponent true) tail := by
      rw [sameNames, isFirst, starts, List.flatMap_cons, isParts, walk, List.foldl_append]
      exact congrArg (fun names => (later.flatMap parts).foldl (pushComponent true) names) folded
    have names : (place isSlash path).names = later.foldl (pushComponent false) [first] := by
      rw [place, walk, isFirst, starts, List.foldl_cons,
        pushComponent_name (isName_of_backslash backslash)]
      rfl
    rw [← others, ← names] at alike
    refine ⟨[""], alike.flatMap, ?_⟩
    have someNames := alike.nonempty.resolve_left (List.cons_ne_nil _ _)
    have isRooted : (place isSeparator path).rooted = true := by
      rw [place, starts]
      rfl
    rw [Place.text, isRooted, starts, ← String.toList_inj, String.toList_append,
      String.toList_append, String.toList_intercalate, String.toList_intercalate,
      List.map_append, List.map_singleton, List.singleton_append,
      List.intercalate_cons_of_ne_nil (List.map_eq_nil_iff.not.mpr someNames)]
    rfl
  · rw [isUntouched, if_neg starts] at untouched
    have sameRoot := rooted_eq starts
    have start : Alike (path.toList.head?.any isSlash) (path.toList.head?.any isSeparator) []
        none 0 [] [] := .whole sameRoot rfl (by simp)
    obtain ⟨floor, height, alike⟩ := start.foldl (climbs_nil _) untouched
    refine ⟨[], ?_, by rw [sameRoot]; rfl⟩
    rw [sameNames]
    exact alike.flatMap

/-- An untouched path is written as the place it leads to when backslashes separate. -/
theorem normalizePath_of_untouched (untouched : isUntouched path) :
    normalizePath path = (place isSeparator path).text := by
  obtain ⟨lead, alike, leads⟩ := exists_alike untouched
  have ofRoot : ∀ rooted : Bool,
      inSlashes (if rooted then "/" else "") = if rooted then "/" else "" := by
    intro rooted
    cases rooted <;> exact inSlashes_eq_self (by decide)
  rw [normalizePath_eq, ← leads, Place.text, inSlashes_append, inSlashes_intercalate, alike, ofRoot]
  rfl

/-! ## Spellings of a path -/

/-- One more `.`, or one more name that is left again. -/
inductive PieceStep : List String → List String → Prop
  | dot (before after : List String) : PieceStep (before ++ after) (before ++ "." :: after)
  | parent (before after : List String) {name : String} (isName : IsName name) :
      PieceStep (before ++ after) (before ++ name :: ".." :: after)

/-- Paths that differ in their separators, in `.` and in names that are left again. -/
def Respelled (path other : String) : Prop :=
  path.toList.head?.any isSeparator = other.toList.head?.any isSeparator ∧
    Relation.EqvGen PieceStep (pieces isSeparator path) (pieces isSeparator other)

theorem PieceStep.walk {components others : List String} (step : PieceStep components others)
    (rooted : Bool) : walk rooted components = walk rooted others := by
  cases step with
  | dot before after =>
    rw [Assurance.walk, Assurance.walk, List.foldl_append, List.foldl_append, List.foldl_cons]
    rfl
  | parent before after isName =>
    rw [Assurance.walk, Assurance.walk, List.foldl_append, List.foldl_append, List.foldl_cons,
      List.foldl_cons, pushComponent_name isName, pushComponent_leave isName]

/-- Spellings of a path lead to the same place. -/
theorem Respelled.place_eq {path other : String} (respelled : Respelled path other) :
    place isSeparator path = place isSeparator other := by
  obtain ⟨sameRoot, samePieces⟩ := respelled
  have sameNames : ∀ rooted, walk rooted (pieces isSeparator path) =
      walk rooted (pieces isSeparator other) := by
    intro rooted
    generalize pieces isSeparator path = components at samePieces
    generalize pieces isSeparator other = others at samePieces
    induction samePieces with
    | rel _ _ step => exact step.walk rooted
    | refl => rfl
    | symm _ _ _ ih => exact ih.symm
    | trans _ _ _ _ _ first second => exact first.trans second
  rw [place, place, sameRoot, sameNames]

/-! ## Canonical paths -/

/-- A path without `.`, and without `..` after a name or the root. -/
def IsCanonical (path : String) : Prop :=
  "." ∉ pieces isSlash path ∧
    ∀ before after, pieces isSlash path = before ++ ".." :: after →
      path.toList.head? ≠ some '/' ∧ ∀ name ∈ before, name = ".."

/-- A path without backslashes is untouched. -/
theorem untouched_of_noBackslash (noBackslash : '\\' ∉ path.toList) : isUntouched path := by
  have noName : ∀ name ∈ pieces isSlash path, '\\' ∉ name.toList := by
    intro name isName backslash
    obtain ⟨word, isWord, rfl⟩ := List.mem_map.mp isName
    rw [String.toList_ofList] at backslash
    have isMember := List.mem_flatten.mpr ⟨word, isWord, backslash⟩
    rw [flatten_words] at isMember
    exact noBackslash (List.mem_filter.mp isMember).1
  rw [isUntouched, if_neg fun starts => noBackslash (List.mem_of_head? starts)]
  generalize pieces isSlash path = components at noName
  suffices every : ∀ rooted height, untouchedFrom rooted height none components from every _ 0
  intro rooted
  induction components with
  | nil => exact fun _ => rfl
  | cons component components ih =>
    obtain ⟨first, later⟩ := List.forall_mem_cons.mp noName
    intro height
    rw [untouchedFrom, if_neg first]
    split
    · exact ih later height
    split
    · exact ih later (height - 1)
    · exact ih later (height + 1)

theorem idempotent_of_untouched (untouched : isUntouched path) :
    normalizePath (normalizePath path) = normalizePath path := by
  have noBackslash : '\\' ∉ (normalizePath path).toList := by
    rw [normalizePath_eq]
    exact backslash_not_mem_inSlashes _
  rw [normalizePath_of_untouched (untouched_of_noBackslash noBackslash),
    normalizePath_of_untouched untouched, place_text]

theorem isCanonical_of_untouched (untouched : isUntouched path) :
    IsCanonical (normalizePath path) := by
  have areWords : ∀ name ∈ (place isSeparator path).names, IsWord isSlash name.toList := by
    intro name isName
    obtain ⟨nonempty, inside⟩ := isWord_of_mem_names isName
    exact ⟨nonempty, fun c isMember => (Bool.or_eq_false_iff.mp (inside c isMember)).1⟩
  obtain ⟨-, up, names, walked, areNames, -, root⟩ :=
    exists_climbs (path.toList.head?.any isSeparator) (pieces isSeparator path)
  rw [normalizePath_of_untouched untouched, IsCanonical, pieces_text (by decide) areWords]
  change "." ∉ walk _ _ ∧ ∀ before after, walk _ _ = _ → _
  rw [walked]
  constructor
  · intro isDot
    rcases List.mem_append.mp isDot with isUp | isName
    · exact absurd (List.eq_of_mem_replicate isUp) (by decide)
    · exact (areNames "." isName).2.1 rfl
  · intro before after whole
    have notUp : ∀ rest, names ≠ rest ++ ".." :: after := by
      rintro rest rfl
      exact (areNames ".." (by simp)).2.2 rfl
    rcases List.append_eq_append_iff.mp whole with ⟨rest, -, isNames⟩ | ⟨rest, isUp, isNames⟩
    · exact absurd isNames (notUp rest)
    have allUp : ∀ name ∈ before, name = ".." := fun name isName =>
      List.eq_of_mem_replicate (isUp ▸ List.mem_append_left rest isName)
    refine ⟨fun isRoot => ?_, allUp⟩
    have rooted := rooted_text (by decide) areWords
    rw [isRoot] at rooted
    rw [root rooted.symm, eq_comm] at isUp
    obtain ⟨-, rfl⟩ := List.append_eq_nil_iff.mp isUp
    exact notUp [] isNames.symm

/-! ## Identities -/

section Identities

variable (libraries : Libraries)

/-- Records that differ in their paths only have one identity. -/
def SameIdentity (path other : String) : Prop :=
  ∀ (schema : IdentitySchema) (fields others : List (String × Json)),
    field fields "path" = some (.string path) → field others "path" = some (.string other) →
    (∀ name ∈ schema.fields, name ≠ "path" → field fields name = field others name) →
    typedIdentity libraries (.object fields) schema =
      typedIdentity libraries (.object others) schema

variable {libraries}

theorem sameIdentity {path other : String} (same : normalizePath path = normalizePath other) :
    SameIdentity libraries path other := by
  intro schema fields others isPath isOther sameFields
  have sameValues : ∀ name ∈ schema.fields,
      identityValue schema fields name = identityValue schema others name := by
    intro name isField
    by_cases isPathField : name = "path"
    · rw [identityValue, identityValue, isPathField, isPath, isOther]
      simp only [if_pos, same]
    · rw [identityValue, identityValue, sameFields name isField isPathField]
  have sameList : schema.fields.mapM (identityValue schema fields) =
      schema.fields.mapM (identityValue schema others) := by
    generalize schema.fields = names at sameValues
    induction names with
    | nil => rfl
    | cons name names ih =>
        obtain ⟨first, later⟩ := List.forall_mem_cons.mp sameValues
        rw [List.mapM_cons, List.mapM_cons, first, ih later]
  simp only [typedIdentity, sameList]

/-- The identity of an untouched path is canonical, and that of every spelling of the path
with slashes; untouched spellings of one path have one identity. -/
theorem normalizePath_canonical :
    (∀ path, isUntouched path →
      normalizePath (normalizePath path) = normalizePath path ∧
        IsCanonical (normalizePath path) ∧
        ∀ other, '\\' ∉ other.toList → Respelled path other →
          SameIdentity libraries path other) ∧
    ∀ path other, isUntouched path → isUntouched other → Respelled path other →
      SameIdentity libraries path other := by
  have together : ∀ path other, isUntouched path → isUntouched other → Respelled path other →
      SameIdentity libraries path other := by
    intro path other untouched otherUntouched respelled
    refine sameIdentity ?_
    rw [normalizePath_of_untouched untouched, normalizePath_of_untouched otherUntouched,
      respelled.place_eq]
  exact ⟨fun path untouched => ⟨idempotent_of_untouched untouched,
    isCanonical_of_untouched untouched, fun other noBackslash =>
      together path other untouched (untouched_of_noBackslash noBackslash)⟩, together⟩

end Identities

/-! ## A path with backslashes -/

def pathLibraries : Libraries where
  text
    | .array [.string path] => "[\"" ++ path ++ "\"]"
    | _ => "null"
  sha256 _ := .zero

/-- Two spellings of a path, with backslashes that nothing is resolved across. -/
theorem spellings_identified :
    SameIdentity pathLibraries "a\\b/./c" "a/y/../b\\c/x/.." := by
  refine normalizePath_canonical.2 "a\\b/./c" "a/y/../b\\c/x/.." (by decide +kernel)
    (by decide +kernel) ⟨by decide +kernel, ?_⟩
  have isPath : pieces isSeparator "a\\b/./c" = ["a", "b"] ++ "." :: ["c"] := by decide +kernel
  have isOther : pieces isSeparator "a/y/../b\\c/x/.." =
      ["a"] ++ "y" :: ".." :: ["b", "c", "x", ".."] := by decide +kernel
  rw [isPath, isOther]
  exact .trans _ ["a", "b", "c"] _ (.symm _ _ (.rel _ _ (.dot ["a", "b"] ["c"])))
    (.trans _ ["a", "b", "c", "x", ".."] _
      (.rel _ _ (.parent ["a", "b", "c"] [] (by decide)))
      (.rel _ _ (.parent ["a"] ["b", "c", "x", ".."] (by decide))))

/-- A parent between backslashes is found only when it is too late. -/
theorem backslash_parent_kept :
    ¬∀ path, normalizePath (normalizePath path) = normalizePath path ∧
      IsCanonical (normalizePath path) := by
  intro canonical
  exact absurd (canonical "a\\..\\b").1 (by decide +kernel)

end MailSwiftSync.Assurance
