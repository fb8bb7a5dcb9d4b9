import Mathlib.Logic.Relation
import MailSwiftSync.Scan.Sessions

/-!
# Mailboxes that change

A mailbox of a server changes step by step: messages arrive, with higher UIDs than all before, they
are expunged, their flags change, or the whole mailbox is renewed under a higher UIDVALIDITY.  Two
equal snapshots then prove that the mailbox was the same all the time between them, and a watermark
that the flags were, too.
-/

namespace MailSwiftSync.Scan

open Foundation Imap

/-- A mailbox: its identity, and its messages in order, by UID. -/
structure MailboxState where
  uidvalidity : Nat
  uidnext : Nat
  highestModseq : Nat
  messages : Log
  increasing : (messages.map Prod.fst).Pairwise (· < ·)

/-- A message without its flags: a UID stands for it as long as the UIDVALIDITY is the same. -/
def unflagged (entry : Nat × ExtractedMessage) : Nat × ExtractedMessage :=
  (entry.1, { entry.2 with flags := none })

/-- Change the flags of one message. -/
def setFlags (uid : Nat) (flags : Option String) (entry : Nat × ExtractedMessage) :
    Nat × ExtractedMessage :=
  if entry.1 = uid then (entry.1, { entry.2 with flags }) else entry

/-- What can happen to a mailbox. -/
inductive MailboxStep (before after : MailboxState) : Prop where
  | deliver (uid : Nat) (message : ExtractedMessage)
      (sameValidity : after.uidvalidity = before.uidvalidity)
      (assigned : before.uidnext ≤ uid) (next : uid < after.uidnext)
      (higher : before.highestModseq < after.highestModseq)
      (added : after.messages = before.messages ++ [(uid, message)])
  | expunge (uid : Nat)
      (sameValidity : after.uidvalidity = before.uidvalidity)
      (sameNext : after.uidnext = before.uidnext)
      (notLower : before.highestModseq ≤ after.highestModseq)
      (removed : after.messages = before.messages.filter (·.1 ≠ uid))
  | store (uid : Nat) (flags : Option String)
      (sameValidity : after.uidvalidity = before.uidvalidity)
      (sameNext : after.uidnext = before.uidnext)
      (higher : before.highestModseq < after.highestModseq)
      (changed : after.messages = before.messages.map (setFlags uid flags))
  | renew (higher : before.uidvalidity < after.uidvalidity)

/-- What time does to a mailbox. -/
structure SameValidity (before after : MailboxState) : Prop where
  validity : after.uidvalidity = before.uidvalidity
  next : before.uidnext ≤ after.uidnext
  modseq : before.highestModseq ≤ after.highestModseq
  fewer : before.uidnext = after.uidnext →
    (after.messages.map unflagged).Sublist (before.messages.map unflagged)
  fewerFlagged : before.uidnext = after.uidnext → before.highestModseq = after.highestModseq →
    after.messages.Sublist before.messages

/-- A mailbox is renewed, or it is the same with more or fewer messages. -/
def Grows (before after : MailboxState) : Prop :=
  before.uidvalidity < after.uidvalidity ∨ SameValidity before after

variable {before between after : MailboxState}

theorem sameValidity_refl (state : MailboxState) : SameValidity state state :=
  ⟨rfl, le_rfl, le_rfl, fun _ => .refl _, fun _ _ => .refl _⟩

theorem SameValidity.trans (first : SameValidity before between)
    (second : SameValidity between after) : SameValidity before after where
  validity := second.validity.trans first.validity
  next := first.next.trans second.next
  modseq := first.modseq.trans second.modseq
  fewer same := by
    have sameFirst := le_antisymm first.next (same ▸ second.next)
    exact (second.fewer (sameFirst ▸ same)).trans (first.fewer sameFirst)
  fewerFlagged same sameModseq := by
    have sameFirst := le_antisymm first.next (same ▸ second.next)
    have sameFirstModseq := le_antisymm first.modseq (sameModseq ▸ second.modseq)
    exact (second.fewerFlagged (sameFirst ▸ same) (sameFirstModseq ▸ sameModseq)).trans
      (first.fewerFlagged sameFirst sameFirstModseq)

theorem Grows.trans (first : Grows before between) (second : Grows between after) :
    Grows before after := by
  cases first with
  | inl renewed =>
    cases second with
    | inl again => exact .inl (renewed.trans again)
    | inr same => exact .inl (same.validity ▸ renewed)
  | inr same =>
    cases second with
    | inl renewed => exact .inl (same.validity ▸ renewed)
    | inr again => exact .inr (same.trans again)

theorem unflagged_setFlags (uid : Nat) (flags : Option String)
    (entry : Nat × ExtractedMessage) : unflagged (setFlags uid flags entry) = unflagged entry := by
  rw [setFlags]
  split
  · rfl
  · rfl

/-- Every step makes a mailbox grow. -/
theorem grows_of_step (step : MailboxStep before after) : Grows before after := by
  cases step with
  | deliver uid message sameValidity assigned next higher added =>
    have more : before.uidnext < after.uidnext := assigned.trans_lt next
    exact .inr ⟨sameValidity, more.le, higher.le, fun same => absurd same more.ne,
      fun same => absurd same more.ne⟩
  | expunge uid sameValidity sameNext notLower removed =>
    refine .inr ⟨sameValidity, sameNext.ge, notLower, fun _ => ?_, fun _ _ => ?_⟩
    · rw [removed]
      exact List.filter_sublist.map _
    · rw [removed]
      exact List.filter_sublist
  | store uid flags sameValidity sameNext higher changed =>
    refine .inr ⟨sameValidity, sameNext.ge, higher.le, fun _ => ?_, fun _ same =>
      absurd same higher.ne⟩
    have same : unflagged ∘ setFlags uid flags = unflagged :=
      funext (unflagged_setFlags uid flags)
    rw [changed, List.map_map, same]
  | renew higher => exact .inl higher

/-- A mailbox grows over any number of steps. -/
theorem grows_of_steps (steps : Relation.ReflTransGen MailboxStep before after) :
    Grows before after := by
  induction steps with
  | refl => exact .inr (sameValidity_refl before)
  | tail _ step ih => exact ih.trans (grows_of_step step)

/-! ## Two equal snapshots -/

theorem Grows.validity (grows : Grows before after) : before.uidvalidity ≤ after.uidvalidity := by
  cases grows with
  | inl renewed => exact renewed.le
  | inr same => exact same.validity.ge

/-- A mailbox that ends as it began was the same in between. -/
theorem steady (first : Grows before between) (second : Grows between after)
    (sameValidity : before.uidvalidity = after.uidvalidity)
    (sameNext : before.uidnext = after.uidnext)
    (sameLength : before.messages.length = after.messages.length) :
    between.messages.map unflagged = after.messages.map unflagged ∧
      (before.highestModseq = after.highestModseq → between.messages = after.messages) := by
  cases first with
  | inl renewed => exact absurd sameValidity (renewed.trans_le second.validity).ne
  | inr first =>
    cases second with
    | inl renewed => exact absurd sameValidity (first.validity ▸ renewed).ne
    | inr second =>
      have nextFirst : before.uidnext = between.uidnext :=
        le_antisymm first.next (sameNext ▸ second.next)
      have nextSecond : between.uidnext = after.uidnext := nextFirst.symm.trans sameNext
      have shorter := (first.fewer nextFirst).length_le
      rw [List.length_map, List.length_map, sameLength] at shorter
      constructor
      · apply ((second.fewer nextSecond).eq_of_length_le _).symm
        rw [List.length_map, List.length_map]
        exact shorter
      · intro sameModseq
        have modseqFirst : before.highestModseq = between.highestModseq :=
          le_antisymm first.modseq (sameModseq ▸ second.modseq)
        have modseqSecond := modseqFirst.symm.trans sameModseq
        exact ((second.fewerFlagged nextSecond modseqSecond).eq_of_length_le shorter).symm

/-! ## Servers -/

/-- The mailboxes of the servers over time. -/
abbrev Servers : Type := StagedFolder → Nat → MailboxState

/-- Time only does to mailboxes what can happen to them. -/
def Servers.Evolve (servers : Servers) : Prop :=
  ∀ folder time,
    Relation.ReflTransGen MailboxStep (servers folder time) (servers folder (time + 1))

/-- A snapshot is that of a mailbox. -/
structure HasSnapshot (state : MailboxState) (snapshot : FolderSnapshot) : Prop where
  validity : state.uidvalidity = snapshot.uidvalidity
  next : state.uidnext = snapshot.uidnext
  length : state.messages.length = snapshot.existsCount
  modseq : ∀ modseq ∈ snapshot.highestModseq, state.highestModseq = modseq

/-- A message, with its flags where they are wanted. -/
def shown (flags : Bool) (message : ExtractedMessage) : ExtractedMessage :=
  if flags then message else { message with flags := none }

/-- What is true of the mailboxes. -/
def Servers.testimony (servers : Servers) : Testimony where
  seen time folder snapshot := HasSnapshot (servers folder time) snapshot
  placed time folder position uid :=
    ∃ message, (servers folder time).messages[position - 1]? = some (uid, message)
  described time folder flags uid message :=
    ∃ original, (uid, original) ∈ (servers folder time).messages ∧ message = shown flags original

/-- The first messages of a mailbox, as a scan stages them. -/
def MailboxState.firstMessages (state : MailboxState) (flags : Bool) (count : Nat) : Log :=
  (state.messages.take count).map fun entry => (entry.1, shown flags entry.2)

variable {servers : Servers} {folder : StagedFolder} {snapshot : FolderSnapshot}

theorem Servers.Evolve.grows (evolve : servers.Evolve) {earlier later : Nat}
    (inOrder : earlier ≤ later) : Grows (servers folder earlier) (servers folder later) := by
  induction inOrder with
  | refl => exact .inr (sameValidity_refl _)
  | step _ ih => exact ih.trans (grows_of_steps (evolve folder _))

theorem HasSnapshot.steady {start now finish : Nat} (evolve : servers.Evolve)
    (first : HasSnapshot (servers folder start) snapshot) (isFirst : start ≤ now)
    (last : HasSnapshot (servers folder finish) snapshot) (isLast : now ≤ finish) :
    (servers folder now).messages.map unflagged =
        (servers folder finish).messages.map unflagged ∧
      (snapshot.highestModseq.isSome = true →
        (servers folder now).messages = (servers folder finish).messages) := by
  have same := Scan.steady (evolve.grows isFirst) (evolve.grows isLast)
    (first.validity.trans last.validity.symm) (first.next.trans last.next.symm)
    (first.length.trans last.length.symm)
  refine ⟨same.1, fun tracked => same.2 ?_⟩
  obtain ⟨modseq, isModseq⟩ := Option.isSome_iff_exists.mp tracked
  exact (first.modseq modseq isModseq).trans (last.modseq modseq isModseq).symm

/-- The UIDs of a mailbox are distinct. -/
theorem MailboxState.unique (state : MailboxState) {uid : Nat} {first second : ExtractedMessage}
    (isFirst : (uid, first) ∈ state.messages) (isSecond : (uid, second) ∈ state.messages) :
    first = second := by
  have distinct : (state.messages.map Prod.fst).Nodup := state.increasing.imp fun less => less.ne
  exact congrArg Prod.snd (List.inj_on_of_nodup_map distinct isFirst isSecond rfl)

/-- What was told of a place is what is there at the end. -/
theorem told_true {finish index : Nat} {entry : Nat × ExtractedMessage} (evolve : servers.Evolve)
    (last : HasSnapshot (servers folder finish) snapshot)
    (told : servers.testimony.Told finish folder snapshot (index + 1) entry) :
    ∃ original, (servers folder finish).messages[index]? = some (entry.1, original) ∧
      entry.2 = shown snapshot.highestModseq.isSome original := by
  obtain ⟨start, located, fetched, first, placed, described, isLocated, isFetched, locatedBefore,
    fetchedBefore⟩ := told
  have atLocated := first.steady evolve isLocated last locatedBefore.le
  have atFetched := first.steady evolve isFetched last fetchedBefore.le
  obtain ⟨message, isPlaced⟩ := placed
  rw [Nat.add_sub_cancel] at isPlaced
  have here : (servers folder finish).messages[index]?.map unflagged =
      some (unflagged (entry.1, message)) := by
    rw [← List.getElem?_map, ← atLocated.1, List.getElem?_map, isPlaced, Option.map_some]
  obtain ⟨found, isFound, sameFound⟩ := Option.map_eq_some_iff.mp here
  have isUid : (unflagged found).1 = (unflagged (entry.1, message)).1 :=
    congrArg Prod.fst sameFound
  obtain ⟨uid, original⟩ := found
  obtain rfl : uid = entry.1 := isUid
  refine ⟨original, isFound, ?_⟩
  have isMember := List.mem_of_getElem? isFound
  obtain ⟨other, isOther, isShown⟩ := described
  rw [isShown]
  cases tracked : snapshot.highestModseq.isSome with
  | true =>
    rw [atFetched.2 tracked] at isOther
    rw [MailboxState.unique _ isOther isMember]
  | false =>
    have isUnflagged := List.mem_map_of_mem (f := unflagged) isOther
    rw [atFetched.1] at isUnflagged
    obtain ⟨⟨uid, last⟩, isLast, sameLast⟩ := List.mem_map.mp isUnflagged
    have isSame : (unflagged (uid, last)).1 = (unflagged (entry.1, other)).1 :=
      congrArg Prod.fst sameLast
    obtain rfl : uid = entry.1 := isSame
    rw [MailboxState.unique _ isLast isMember] at sameLast
    have sameMessage : (unflagged (entry.1, original)).2 = (unflagged (entry.1, other)).2 :=
      congrArg Prod.snd sameLast
    exact sameMessage.symm

/-- What was told of a folder is how it begins. -/
theorem backs_true {finish : Nat} {log : Log} (evolve : servers.Evolve)
    (last : HasSnapshot (servers folder finish) snapshot)
    (backs : servers.testimony.Backs finish folder snapshot log) :
    log = (servers folder finish).firstMessages snapshot.highestModseq.isSome log.length := by
  apply List.ext_getElem?
  intro index
  rw [MailboxState.firstMessages, List.getElem?_map]
  by_cases isIndex : index < log.length
  · have isEntry := List.getElem?_eq_getElem isIndex
    obtain ⟨original, isOriginal, isShown⟩ := told_true evolve last (backs.told index _ isEntry)
    rw [isEntry, List.getElem?_take_of_lt isIndex, isOriginal, Option.map_some, ← isShown]
  · rw [List.getElem?_eq_none (Nat.le_of_not_lt isIndex), List.getElem?_eq_none, Option.map_none]
    rw [List.length_take]
    omega

end MailSwiftSync.Scan
