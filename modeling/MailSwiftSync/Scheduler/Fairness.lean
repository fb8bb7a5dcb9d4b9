import MailSwiftSync.Foundation.Classes
import MailSwiftSync.Foundation.Transition
import MailSwiftSync.Scheduler.Queues

/-!
# Fairness of the tenant queue

A fair queue is used through pushes, pops and drains.  Seen from outside it is a list of tenants
and a list of items for each of them: a pop serves the first tenant and sends it to the back, and a
push adds a tenant at most at the back.  So the turn of a tenant comes when those before it had
theirs, whatever is pushed meanwhile, and the items of a tenant leave in the order they stand in.
-/

namespace MailSwiftSync

open Foundation

def TenantQueue.map {α β : Type} (image : α → β) (row : TenantQueue α) : TenantQueue β where
  tenant := row.tenant
  items := row.items.map image

theorem TenantQueue.tenant_map {α β : Type} (image : α → β) (row : TenantQueue α) :
    (row.map image).tenant = row.tenant := rfl

namespace FairQueue

variable {α β : Type}

/-! ## Tenants and their items -/

/-- The items a tenant has in the queue. -/
def itemsOf (queue : FairQueue α) (tenant : String) : List α :=
  (queue.queues.find tenant).elim [] (·.items)

/-- Hand out everything; the tenants come in the order in which the map has them. -/
def drain (queue : FairQueue α) (tenants : List String) : List α × FairQueue α :=
  (tenants.flatMap queue.itemsOf, {})

variable {queue next : FairQueue α} {tenant other : String} {item : α} {front : Bool}

theorem itemsOf_eq {row : TenantQueue α} (found : queue.queues.find tenant = some row) :
    queue.itemsOf tenant = row.items := by
  rw [itemsOf, found]
  rfl

theorem itemsOf_upsert (row : TenantQueue α) (order : List String) (len : Nat) (tenant : String) :
    itemsOf { order, queues := queue.queues.upsert row, len } tenant =
      if tenant = row.tenant then row.items else queue.itemsOf tenant := by
  split
  · next isTenant =>
      rw [isTenant, itemsOf, Table.find_upsert_self]
      rfl
  · next notTenant =>
      rw [itemsOf, Table.find_upsert_of_ne fun same => notTenant same.symm]
      rfl

theorem itemsOf_delete (order : List String) (len : Nat) (removed : String) (tenant : String) :
    itemsOf { order, queues := queue.queues.delete (·.tenant = removed), len } tenant =
      if tenant = removed then [] else queue.itemsOf tenant := by
  rw [itemsOf, Table.find_delete]
  cases found : queue.queues.find tenant with
  | none =>
    rw [itemsOf, found]
    exact (ite_self []).symm
  | some row =>
    rw [itemsOf_eq found, Option.filter_some, (Table.find_eq_some.mp found).2]
    by_cases isRemoved : tenant = removed
    · rw [decide_eq_true isRemoved, if_pos isRemoved]
      rfl
    · rw [decide_eq_false isRemoved, if_neg isRemoved]
      rfl

theorem itemsOf_push : (queue.push tenant item front).itemsOf other =
    if other = tenant then
      if front then item :: queue.itemsOf tenant else queue.itemsOf tenant ++ [item]
    else queue.itemsOf other :=
  itemsOf_upsert _ _ _ other

/-- A push changes the order at most by a tenant at the back. -/
theorem order_push :
    ∃ joined, (queue.push tenant item front).order = queue.order ++ joined := by
  rw [push]
  split
  · exact ⟨[], (List.append_nil _).symm⟩
  · exact ⟨[tenant], rfl⟩

theorem WellFormed.nodup_order (wellFormed : queue.WellFormed) : queue.order.Nodup :=
  wellFormed.tenants.nodup_iff.mpr queue.queues.primaryKey

theorem WellFormed.mem_order (wellFormed : queue.WellFormed) :
    tenant ∈ queue.order ↔ queue.itemsOf tenant ≠ [] := by
  rw [wellFormed.tenants.mem_iff, List.mem_map]
  constructor
  · intro ⟨row, isRow, isTenant⟩
    rw [itemsOf_eq (Table.find_eq_some.mpr ⟨isRow, isTenant⟩)]
    exact wellFormed.occupied row isRow
  · intro occupied
    cases found : queue.queues.find tenant with
    | none => exact absurd (by rw [itemsOf, found]; rfl) occupied
    | some row => exact ⟨row, Table.find_eq_some.mp found⟩

/-- What a pop does when there is a first tenant. -/
structure Turn (queue : FairQueue α) (tenant : String) (order : List String) (item : α)
    (next : FairQueue α) : Prop where
  popped : queue.popNext = (some item, next)
  oldest : queue.itemsOf tenant = item :: next.itemsOf tenant
  others : ∀ other, other ≠ tenant → next.itemsOf other = queue.itemsOf other
  behind : ∃ back, next.order = order ++ back

theorem WellFormed.turn (wellFormed : queue.WellFormed) {order : List String}
    (ordered : queue.order = tenant :: order) : ∃ item next, queue.Turn tenant order item next := by
  obtain ⟨⟨name, stored⟩, found, _⟩ := wellFormed.find_next ordered
  have itemsOfTenant : queue.itemsOf tenant = stored := itemsOf_eq found
  cases stored with
  | nil => exact absurd rfl (wellFormed.occupied _ (Table.find_eq_some.mp found).1)
  | cons item rest =>
    cases rest with
    | nil =>
      refine ⟨item, _, by simp only [FairQueue.popNext, ordered, found]; rfl, ?_, ?_, [], ?_⟩
      · rw [itemsOfTenant, itemsOf_delete, if_pos rfl]
      · intro other different
        rw [itemsOf_delete, if_neg different]
      · exact (List.append_nil _).symm
    | cons second rest =>
      refine ⟨item, _, by simp only [FairQueue.popNext, ordered, found]; rfl, ?_, ?_,
        [tenant], rfl⟩
      · rw [itemsOfTenant, itemsOf_upsert, if_pos rfl]
      · intro other different
        rw [itemsOf_upsert, if_neg different]

/-- A drain hands out all items. -/
theorem drain_perm {tenants : List String}
    (enumerated : tenants.Perm (queue.queues.rows.map (·.tenant))) :
    (queue.drain tenants).1.Perm queue.items := by
  refine (enumerated.flatMap_right queue.itemsOf).trans ?_
  rw [List.flatMap_map, items]
  apply List.Perm.of_eq
  apply List.flatMap_congr
  intro row isRow
  exact itemsOf_eq (Table.find_eq_some.mpr ⟨isRow, rfl⟩)

/-! ## Calls -/

/-- The calls of a queue.  A drain comes with the order in which the map has its tenants. -/
inductive Call (α : Type) where
  | push (tenant : String) (item : α) (front : Bool)
  | popNext
  | drain (tenants : List String)

namespace Call

/-- The item that is pushed. -/
def pushed : Call α → Option α
  | push _ item _ => some item
  | popNext => none
  | drain _ => none

def isPop : Call α → Bool
  | popNext => true
  | _ => false

def isDrain : Call α → Bool
  | drain _ => true
  | _ => false

end Call

/-- A queue with the items it has handed out. -/
structure Service (α : Type) where
  queue : FairQueue α := {}
  handedOut : List α := []

def Service.perform (service : Service α) : Call α → Service α
  | .push tenant item front => { service with queue := service.queue.push tenant item front }
  | .popNext =>
    { queue := service.queue.popNext.2
      handedOut := service.handedOut ++ service.queue.popNext.1.toList }
  | .drain tenants =>
    { queue := (service.queue.drain tenants).2
      handedOut := service.handedOut ++ (service.queue.drain tenants).1 }

/-- One call; the map has each of its tenants once. -/
inductive Step : Service α → Call α → Service α → Prop where
  | push (service : Service α) (tenant : String) (item : α) (front : Bool) :
      Step service (.push tenant item front) (service.perform (.push tenant item front))
  | popNext (service : Service α) : Step service .popNext (service.perform .popNext)
  | drain (service : Service α) {tenants : List String}
      (enumerated : tenants.Perm (service.queue.queues.rows.map (·.tenant))) :
      Step service (.drain tenants) (service.perform (.drain tenants))

variable {service after last : Service α} {call : Call α} {calls later : List (Call α)}

theorem Step.wellFormed (step : Step service call after) (wellFormed : service.queue.WellFormed) :
    after.queue.WellFormed := by
  cases step with
  | push tenant item front => exact wellFormed.push
  | popNext =>
    cases wellFormed.popNext with
    | inl unchanged =>
      rw [Service.perform, unchanged.1]
      exact wellFormed
    | inr served =>
      obtain ⟨item, next, popped, isWellFormed, _⟩ := served
      rw [Service.perform, popped]
      exact isWellFormed
  | drain enumerated => exact wellFormed_empty

theorem wellFormed_of_run (run : Trace Step service calls last)
    (wellFormed : service.queue.WellFormed) : last.queue.WellFormed :=
  run.invariant (·.queue.WellFormed) wellFormed Step.wellFormed

/-- A call adds what it pushes to the items handed out or queued, and nothing else. -/
theorem Step.conserves (step : Step service call after) (wellFormed : service.queue.WellFormed) :
    (after.handedOut ++ after.queue.items).Perm
      (service.handedOut ++ service.queue.items ++ call.pushed.toList) := by
  cases step with
  | push tenant item front =>
    rw [List.append_assoc]
    apply List.Perm.append_left
    exact items_push.trans (List.perm_append_singleton item _).symm
  | popNext =>
    rw [Service.perform]
    change List.Perm _ (_ ++ [])
    rw [List.append_nil]
    cases wellFormed.popNext with
    | inl unchanged =>
      rw [unchanged.1]
      exact .of_eq (by rw [Option.toList_none, List.append_nil])
    | inr served =>
      obtain ⟨item, next, popped, _, parts⟩ := served
      rw [popped, List.append_assoc]
      exact parts.symm.append_left _
  | drain enumerated =>
    change (_ ++ _ ++ []).Perm (_ ++ _ ++ [])
    rw [List.append_nil, List.append_nil]
    exact (drain_perm enumerated).append_left _

theorem conserved (run : Trace Step {} calls last) :
    (last.handedOut ++ last.queue.items).Perm (calls.filterMap Call.pushed) := by
  induction run with
  | nil => exact .nil
  | @snoc calls state next call earlier step ih =>
    have wellFormed := wellFormed_of_run earlier wellFormed_empty
    have single : call.pushed.toList = [call].filterMap Call.pushed := by cases call <;> rfl
    rw [List.filterMap_append, ← single]
    exact (step.conserves wellFormed).trans (ih.append_right _)

/-! ## Turns -/

/-- As long as there were not more pops than tenants, the order is what these left of it, with other
tenants behind. -/
theorem rotates (run : Trace Step service later last) (wellFormed : service.queue.WellFormed)
    (noDrain : ∀ call ∈ later, call.isDrain = false)
    (few : later.countP Call.isPop ≤ service.queue.order.length) :
    ∃ joined, last.queue.order =
      service.queue.order.drop (later.countP Call.isPop) ++ joined := by
  induction run with
  | nil => exact ⟨[], (List.append_nil _).symm⟩
  | @snoc calls state next call earlier step ih =>
    rw [List.countP_append] at few ⊢
    obtain ⟨joined, ordered⟩ := ih
      (fun call isCall => noDrain call (List.mem_append_left _ isCall)) (by omega)
    cases step with
    | push tenant item front =>
      have pushed : ∃ back, (state.queue.push tenant item front).order =
          state.queue.order ++ back := order_push
      obtain ⟨back, pushed⟩ := pushed
      exact ⟨joined ++ back, by rw [Service.perform, pushed, ordered, List.append_assoc]; rfl⟩
    | popNext =>
      have inBounds : calls.countP Call.isPop < service.queue.order.length := few
      rw [List.drop_eq_getElem_cons inBounds, List.cons_append] at ordered
      obtain ⟨item, next, turn⟩ := (wellFormed_of_run earlier wellFormed).turn ordered
      obtain ⟨back, rotated⟩ := turn.behind
      exact ⟨joined ++ back, by
        rw [Service.perform, turn.popped, rotated, List.append_assoc]; rfl⟩
    | drain enumerated =>
      exact Bool.noConfusion (noDrain _ (List.mem_append_right _ List.mem_cons_self))

/-- The element after a number of those that satisfy a condition, and satisfies it itself. -/
theorem split_of_lt_countP {ι : Type} {condition : ι → Bool} {items : List ι} {k : Nat}
    (enough : k < items.countP condition) :
    ∃ before item after, items = before ++ item :: after ∧ condition item = true ∧
      before.countP condition = k := by
  induction items generalizing k with
  | nil => exact absurd enough (Nat.not_lt_zero k)
  | cons item items ih =>
    cases isTrue : condition item with
    | false =>
      rw [List.countP_cons_of_neg (by rw [isTrue]; exact Bool.false_ne_true)] at enough
      obtain ⟨before, found, after, rfl, isFound, count⟩ := ih enough
      refine ⟨item :: before, found, after, rfl, isFound, ?_⟩
      rw [List.countP_cons_of_neg (by rw [isTrue]; exact Bool.false_ne_true), count]
    | true =>
      cases k with
      | zero => exact ⟨[], item, items, rfl, isTrue, rfl⟩
      | succ k =>
        rw [List.countP_cons_of_pos isTrue] at enough
        obtain ⟨before, found, after, rfl, isFound, count⟩ :=
          ih (Nat.lt_of_succ_lt_succ enough)
        refine ⟨item :: before, found, after, rfl, isFound, ?_⟩
        rw [List.countP_cons_of_pos isTrue, count]

/-- The tenant behind `k` others is served by the pop after `k` pops. -/
theorem served (run : Trace Step service later last) (wellFormed : service.queue.WellFormed)
    (noDrain : ∀ call ∈ later, call.isDrain = false) {k : Nat}
    (waits : service.queue.order[k]? = some tenant) (enough : k < later.countP Call.isPop) :
    ∃ before after middle item, later = before ++ .popNext :: after ∧
      before.countP Call.isPop = k ∧ Trace Step service before middle ∧
      (middle.perform .popNext).handedOut = middle.handedOut ++ [item] ∧
      middle.queue.itemsOf tenant =
        item :: (middle.perform .popNext).queue.itemsOf tenant := by
  obtain ⟨before, call, after, rfl, isPop, count⟩ := split_of_lt_countP enough
  obtain ⟨middle, reached, _⟩ := run.of_append
  obtain ⟨inBounds, isTenant⟩ := List.getElem?_eq_some_iff.mp waits
  obtain ⟨joined, ordered⟩ := rotates reached wellFormed
    (fun call isCall => noDrain call (List.mem_append_left _ isCall))
    (by rw [count]; exact inBounds.le)
  rw [count, List.drop_eq_getElem_cons inBounds, List.cons_append, isTenant] at ordered
  obtain ⟨item, next, turn⟩ := (wellFormed_of_run reached wellFormed).turn ordered
  refine ⟨before, after, middle, item, ?_, count, reached, ?_, ?_⟩
  · cases call with
    | push => cases isPop
    | popNext => rfl
    | drain => cases isPop
  · rw [Service.perform, turn.popped]
    rfl
  · rw [Service.perform, turn.popped]
    exact turn.oldest

/-! ## Tickets -/

/-- An item with the number of the call that pushed it and where it was pushed. -/
structure Ticket (α : Type) where
  number : Nat
  tenant : String
  front : Bool
  item : α
deriving DecidableEq, Repr

/-- The tenant whose queue an item was pushed to the back of. -/
def Ticket.behind (ticket : Ticket α) : Option String :=
  if ticket.front then none else some ticket.tenant

/-- The same call with a ticket for the item. -/
def Call.ticket (number : Nat) : Call α → Call (Ticket α)
  | push tenant item front => push tenant { number, tenant, front, item } front
  | popNext => popNext
  | drain tenants => drain tenants

/-- The queue with other items in the same places. -/
def map (image : α → β) (queue : FairQueue α) : FairQueue β where
  order := queue.order
  queues := queue.queues.mapRows (TenantQueue.map image) (TenantQueue.tenant_map image)
  len := queue.len

def Service.map (image : α → β) (service : Service α) : Service β where
  queue := service.queue.map image
  handedOut := service.handedOut.map image

variable {image : α → β}

theorem find_map : (queue.map image).queues.find tenant =
    (queue.queues.find tenant).map (TenantQueue.map image) :=
  Table.find_mapRows (TenantQueue.tenant_map image)

theorem itemsOf_map : (queue.map image).itemsOf tenant = (queue.itemsOf tenant).map image := by
  rw [itemsOf, itemsOf, find_map]
  cases queue.queues.find tenant <;> rfl

theorem map_push :
    (queue.push tenant item front).map image =
      (queue.map image).push tenant (image item) front := by
  rw [push, push, map, Table.mapRows_upsert, find_map, Option.isSome_map]
  cases queue.queues.find tenant <;> cases front <;> simp [map, TenantQueue.map]

theorem popNext_eq {row : TenantQueue α} {order : List String}
    (ordered : queue.order = tenant :: order) (found : queue.queues.find tenant = some row) :
    queue.popNext =
      match row.items with
      | [] => (none, { queue with order, queues := queue.queues.delete (·.tenant = tenant) })
      | [item] =>
        (some item, {
          order
          queues := queue.queues.delete (·.tenant = tenant)
          len := queue.len - 1 })
      | item :: rest =>
        (some item, {
          order := order ++ [tenant]
          queues := queue.queues.upsert { tenant, items := rest }
          len := queue.len - 1 }) := by
  obtain ⟨name, items⟩ := row
  simp only [popNext, ordered, found]
  cases items with
  | nil => rfl
  | cons item rest => cases rest <;> rfl

theorem map_popNext : (queue.map image).popNext =
    (queue.popNext.1.map image, queue.popNext.2.map image) := by
  cases ordered : queue.order with
  | nil =>
    have mapped : (queue.map image).order = [] := ordered
    rw [popNext, popNext, ordered, mapped]
    rfl
  | cons tenant order =>
    have mapped : (queue.map image).order = tenant :: order := ordered
    have deleted : (queue.map image).queues.delete (·.tenant = tenant) =
        (queue.queues.delete (·.tenant = tenant)).mapRows (TenantQueue.map image)
          (TenantQueue.tenant_map image) :=
      (Table.mapRows_delete _).symm
    have upserted : ∀ row : TenantQueue α, (queue.map image).queues.upsert (row.map image) =
        (queue.queues.upsert row).mapRows (TenantQueue.map image)
          (TenantQueue.tenant_map image) :=
      fun _ => (Table.mapRows_upsert _).symm
    cases found : queue.queues.find tenant with
    | none =>
      have notFound : (queue.map image).queues.find tenant = none := by
        rw [find_map, found]
        rfl
      simp only [popNext, ordered, mapped, found, notFound]
      rfl
    | some row =>
      have foundMapped : (queue.map image).queues.find tenant =
          some (row.map image) := by
        rw [find_map, found]
        rfl
      rw [popNext_eq ordered found, popNext_eq mapped foundMapped]
      obtain ⟨name, items⟩ := row
      cases items with
      | nil => exact Prod.ext rfl (congrArg (FairQueue.mk order · queue.len) deleted)
      | cons item rest =>
        cases rest with
        | nil =>
          exact Prod.ext rfl (congrArg (FairQueue.mk order · (queue.len - 1)) deleted)
        | cons second rest =>
          exact Prod.ext rfl (congrArg
            (FairQueue.mk (order ++ [tenant]) · (queue.len - 1))
            (upserted ⟨tenant, second :: rest⟩))

theorem drain_map {tenants : List String} :
    (queue.map image).drain tenants =
      ((queue.drain tenants).1.map image, (queue.drain tenants).2.map image) := by
  rw [drain, drain, List.map_flatMap]
  congr 2
  funext tenant
  exact itemsOf_map

/-- Tickets go where their items go. -/
theorem Service.map_perform {tickets : Service (Ticket α)} {number : Nat} :
    (tickets.perform (call.ticket number)).map Ticket.item =
      (tickets.map Ticket.item).perform call := by
  cases call with
  | push tenant item front =>
    exact congrArg (Service.mk · (tickets.handedOut.map Ticket.item)) map_push
  | popNext =>
    simp only [Call.ticket, perform, Service.map, map_popNext, List.map_append]
    cases tickets.queue.popNext.1 <;> rfl
  | drain tenants =>
    simp only [Call.ticket, perform, Service.map, drain_map, List.map_append]

/-- Every run is one of tickets with the tickets taken off. -/
theorem ticketed (run : Trace Step {} calls last) :
    ∃ tickets, Trace Step {} (calls.mapIdx Call.ticket) tickets ∧
      last = tickets.map Ticket.item := by
  induction run with
  | nil => exact ⟨{}, .nil, rfl⟩
  | @snoc calls state next call earlier step ih =>
    obtain ⟨tickets, run, rfl⟩ := ih
    rw [List.mapIdx_concat]
    refine ⟨tickets.perform (call.ticket calls.length), .snoc run ?_, ?_⟩
    · cases step with
      | push => exact .push _ _ _ _
      | popNext => exact .popNext _
      | drain enumerated => exact .drain _ (enumerated.trans (.of_eq List.map_map))
    · rw [Service.map_perform]
      cases step <;> rfl

/-- Calls whose items carry the tenant and the end they are pushed to. -/
def Call.Ticketed : Call (Ticket α) → Prop
  | push tenant ticket front => ticket.tenant = tenant ∧ ticket.front = front
  | _ => True

theorem ticketed_mapIdx (calls : List (Call α)) :
    ∀ call ∈ calls.mapIdx Call.ticket, call.Ticketed := by
  intro call isCall
  obtain ⟨position, inBounds, rfl⟩ := List.mem_mapIdx.mp isCall
  cases calls[position] with
  | push => exact ⟨rfl, rfl⟩
  | popNext => trivial
  | drain => trivial

/-- The items pushed to the back for a tenant leave in the order of the pushes. -/
structure InOrder (calls : List (Call (Ticket α))) (service : Service (Ticket α)) : Prop where
  wellFormed : service.queue.WellFormed
  filed : ∀ tenant, ∀ ticket ∈ service.queue.itemsOf tenant, ticket.tenant = tenant
  ordered : ∀ tenant,
    ofClass Ticket.behind tenant (service.handedOut ++ service.queue.itemsOf tenant) =
      ofClass Ticket.behind tenant (calls.filterMap Call.pushed)

namespace InOrder

variable {calls : List (Call (Ticket α))} {service : Service (Ticket α)}

/-- Tickets of other tenants. -/
theorem ofClass_of_ne {tickets : List (Ticket α)}
    (filed : ∀ ticket ∈ tickets, ticket.tenant ≠ tenant) :
    ofClass Ticket.behind tenant tickets = [] := by
  rw [ofClass, List.filter_eq_nil_iff]
  intro ticket isTicket
  rw [Ticket.behind]
  split <;> simp [filed ticket isTicket]

theorem push (inOrder : InOrder calls service) {ticket : Ticket α}
    (isTenant : ticket.tenant = tenant) (isFront : ticket.front = front) :
    InOrder (calls ++ [.push tenant ticket front])
      (service.perform (.push tenant ticket front)) where
  wellFormed := inOrder.wellFormed.push
  filed := by
    intro other stored isStored
    have isStored : stored ∈ (service.queue.push tenant ticket front).itemsOf other := isStored
    rw [itemsOf_push] at isStored
    split at isStored
    · next same =>
        have among : stored = ticket ∨ stored ∈ service.queue.itemsOf tenant := by
          cases front with
          | true => exact List.mem_cons.mp isStored
          | false =>
            exact (List.mem_append.mp isStored).symm.imp_left List.mem_singleton.mp
        rw [same]
        cases among with
        | inl isNew => exact isNew ▸ isTenant
        | inr isOld => exact inOrder.filed tenant stored isOld
    · exact inOrder.filed other stored isStored
  ordered := by
    intro other
    change ofClass Ticket.behind other
      (service.handedOut ++ (service.queue.push tenant ticket front).itemsOf other) = _
    rw [List.filterMap_append, ofClass_append _ _ (calls.filterMap _), ← inOrder.ordered,
      itemsOf_push]
    split
    · next same =>
        rw [same]
        cases front with
        | true =>
          have notBehind : ticket.behind ≠ some tenant := by
            rw [Ticket.behind, if_pos isFront]
            exact Option.some_ne_none tenant |>.symm
          rw [if_pos rfl, ofClass_append, ofClass_cons_of_ne notBehind, ← ofClass_append]
          exact (List.append_nil _).symm.trans
            (congrArg _ (ofClass_cons_of_ne notBehind []).symm)
        | false =>
          rw [if_neg Bool.false_ne_true, ← List.append_assoc, ofClass_append]
          rfl
    · next different =>
        have noPart : ofClass Ticket.behind other [ticket] = [] := by
          apply ofClass_of_ne
          intro stored isStored
          rw [List.mem_singleton.mp isStored, isTenant]
          exact fun same => different same.symm
        exact ((congrArg _ noPart).trans (List.append_nil _)).symm

theorem popNext (inOrder : InOrder calls service) :
    InOrder (calls ++ [.popNext]) (service.perform .popNext) := by
  have wellFormed := (Step.popNext service).wellFormed inOrder.wellFormed
  have noItem : (calls ++ [Call.popNext]).filterMap Call.pushed = calls.filterMap Call.pushed := by
    rw [List.filterMap_append]
    exact List.append_nil _
  cases isOrder : service.queue.order with
  | nil =>
    have unchanged : service.perform .popNext = service := by
      rw [Service.perform, FairQueue.popNext, isOrder]
      exact congrArg (Service.mk service.queue) (List.append_nil _)
    rw [unchanged]
    exact ⟨inOrder.wellFormed, inOrder.filed, fun tenant => by
      rw [noItem]; exact inOrder.ordered tenant⟩
  | cons first order =>
    obtain ⟨item, next, turn⟩ := inOrder.wellFormed.turn isOrder
    have performed : service.perform .popNext = ⟨next, service.handedOut ++ [item]⟩ := by
      rw [Service.perform, turn.popped]
      rfl
    rw [performed] at wellFormed ⊢
    have isFirst : item.tenant = first :=
      inOrder.filed first item (by rw [turn.oldest]; exact List.mem_cons_self)
    refine ⟨wellFormed, ?_, ?_⟩
    · intro other stored isStored
      by_cases same : other = first
      · rw [same] at isStored ⊢
        exact inOrder.filed first stored (by
          rw [turn.oldest]; exact List.mem_cons_of_mem _ isStored)
      · rw [turn.others other same] at isStored
        exact inOrder.filed other stored isStored
    · intro other
      rw [noItem, ← inOrder.ordered]
      by_cases same : other = first
      · rw [same, turn.oldest]
        exact congrArg _ (List.append_assoc _ _ _)
      · have noPart : ofClass Ticket.behind other [item] = [] := by
          apply ofClass_of_ne
          intro stored isStored
          rw [List.mem_singleton.mp isStored, isFirst]
          exact fun same' => same same'.symm
        rw [turn.others other same, ofClass_append, ofClass_append, ofClass_append, noPart,
          List.append_nil]

theorem drain (inOrder : InOrder calls service) {tenants : List String}
    (enumerated : tenants.Perm (service.queue.queues.rows.map (·.tenant))) :
    InOrder (calls ++ [.drain tenants]) (service.perform (.drain tenants)) where
  wellFormed := wellFormed_empty
  filed := fun _ _ isStored => absurd isStored List.not_mem_nil
  ordered := by
    intro tenant
    -- what other tenants had does not count
    have ofOthers : ∀ others : List String, tenant ∉ others →
        ofClass Ticket.behind tenant (others.flatMap service.queue.itemsOf) = [] := by
      intro others notAmong
      apply ofClass_of_ne
      intro ticket isTicket same
      obtain ⟨other, isOther, isTicket⟩ := List.mem_flatMap.mp isTicket
      have isOtherTicket := inOrder.filed other ticket isTicket
      exact notAmong (isOtherTicket.symm.trans same ▸ isOther)
    have part : ofClass Ticket.behind tenant (tenants.flatMap service.queue.itemsOf) =
        ofClass Ticket.behind tenant (service.queue.itemsOf tenant) := by
      by_cases isTenant : tenant ∈ tenants
      · obtain ⟨before, after, rfl⟩ := List.append_of_mem isTenant
        have nodup := enumerated.nodup_iff.mpr service.queue.queues.primaryKey
        have notBefore : tenant ∉ before := fun isBefore =>
          (List.nodup_append.mp nodup).2.2 _ isBefore _ List.mem_cons_self rfl
        have notAfter : tenant ∉ after :=
          (List.nodup_cons.mp (List.nodup_append.mp nodup).2.1).1
        rw [List.flatMap_append, List.flatMap_cons, ofClass_append, ofClass_append,
          ofOthers before notBefore, ofOthers after notAfter, List.append_nil]
        rfl
      · rw [ofOthers tenants isTenant]
        have notOrdered : tenant ∉ service.queue.order := fun isOrdered =>
          isTenant ((inOrder.wellFormed.tenants.trans enumerated.symm).mem_iff.mp isOrdered)
        have nothing : service.queue.itemsOf tenant = [] :=
          by_contra fun occupied => notOrdered (inOrder.wellFormed.mem_order.mpr occupied)
        rw [nothing]
        rfl
    have noItem : (calls ++ [Call.drain tenants]).filterMap Call.pushed =
        calls.filterMap Call.pushed := by
      rw [List.filterMap_append]
      exact List.append_nil _
    change ofClass Ticket.behind tenant
      (service.handedOut ++ tenants.flatMap service.queue.itemsOf ++ []) = _
    rw [noItem, ← inOrder.ordered, List.append_nil, ofClass_append, ofClass_append, part]

theorem of_run (run : Trace Step {} calls service)
    (areTicketed : ∀ call ∈ calls, call.Ticketed) : InOrder calls service := by
  induction run with
  | nil =>
    exact ⟨wellFormed_empty, fun _ _ isTicket => absurd isTicket List.not_mem_nil, fun _ => rfl⟩
  | @snoc calls state next call earlier step ih =>
    have inOrder := ih fun call isCall => areTicketed call (List.mem_append_left _ isCall)
    have isTicketed := areTicketed call (List.mem_append_right _ List.mem_cons_self)
    cases step with
    | push => exact inOrder.push isTicketed.1 isTicketed.2
    | popNext => exact inOrder.popNext
    | drain enumerated => exact inOrder.drain enumerated

end InOrder

/-! ## Any sequence of calls -/

/-- After any calls the order lists the tenants with items, each of them once; the items handed out
and those queued are the pushed ones, and as many are queued as are counted; what was pushed to the
back for a tenant leaves in the order of the pushes; and a tenant behind `k` others is served by the
pop after the next `k`. -/
theorem lossless_and_fair (run : Trace Step {} calls service) :
    (service.queue.order.Nodup ∧
      ∀ tenant, tenant ∈ service.queue.order ↔ service.queue.itemsOf tenant ≠ []) ∧
    service.queue.len = service.queue.items.length ∧
    (service.handedOut ++ service.queue.items).Perm (calls.filterMap Call.pushed) ∧
    (∃ tickets, Trace Step {} (calls.mapIdx Call.ticket) tickets ∧
      service = tickets.map Ticket.item ∧
      ∀ tenant,
        ofClass Ticket.behind tenant (tickets.handedOut ++ tickets.queue.itemsOf tenant) =
          ofClass Ticket.behind tenant ((calls.mapIdx Call.ticket).filterMap Call.pushed)) ∧
    ∀ (k : Nat) (tenant : String) (later : List (Call α)) (last : Service α),
      service.queue.order[k]? = some tenant → Trace Step service later last →
      (∀ call ∈ later, call.isDrain = false) → k < later.countP Call.isPop →
      ∃ before after middle item, later = before ++ .popNext :: after ∧
        before.countP Call.isPop = k ∧ Trace Step service before middle ∧
        (middle.perform .popNext).handedOut = middle.handedOut ++ [item] ∧
        middle.queue.itemsOf tenant =
          item :: (middle.perform .popNext).queue.itemsOf tenant := by
  have wellFormed := wellFormed_of_run run wellFormed_empty
  obtain ⟨tickets, ticketRun, same⟩ := ticketed run
  have inOrder := InOrder.of_run ticketRun (ticketed_mapIdx calls)
  exact ⟨⟨wellFormed.nodup_order, fun tenant => wellFormed.mem_order⟩, wellFormed.counted,
    conserved run, ⟨tickets, ticketRun, same, inOrder.ordered⟩,
    fun k tenant later last waits laterRun noDrain enough =>
      served laterRun wellFormed noDrain waits enough⟩

/-- Two tenants after one pop, and another tenant that comes later. -/
theorem first_tenant_served_again :
    let calls : List (Call Nat) :=
      [.push "a" 1 false, .push "a" 2 false, .push "b" 3 false, .popNext]
    let later : List (Call Nat) := [.push "c" 4 true, .popNext, .popNext]
    let service := calls.foldl Service.perform {}
    ∃ before after middle item, later = before ++ .popNext :: after ∧
      before.countP Call.isPop = 1 ∧ Trace Step service before middle ∧
      (middle.perform .popNext).handedOut = middle.handedOut ++ [item] ∧
      middle.queue.itemsOf "a" = item :: (middle.perform .popNext).queue.itemsOf "a" :=
  have run : Trace Step {} [.push "a" 1 false, .push "a" 2 false, .push "b" 3 false, .popNext] _ :=
    .snoc (.snoc (.snoc (.snoc .nil (.push _ "a" 1 false)) (.push _ "a" 2 false))
      (.push _ "b" 3 false)) (.popNext _)
  have laterRun : Trace Step _ [.push "c" 4 true, .popNext, .popNext] _ :=
    .snoc (.snoc (.snoc .nil (.push _ "c" 4 true)) (.popNext _)) (.popNext _)
  (lossless_and_fair run).2.2.2.2 1 "a" _ _ (by decide) laterRun (by decide) (by decide)

end FairQueue

end MailSwiftSync
