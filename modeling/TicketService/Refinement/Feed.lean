import TicketService.Model.Publisher
import TicketService.Refinement.Life

set_option autoImplicit false

namespace TicketService

open Interleaving Relational

variable {platform : Platform} {g g' : Global} {i : Nat}

def Tx.enqueued (tx : Tx) : List AnalyticsOutbox :=
  tx.writes.filterMap fun
    | .insertOutbox row => some row
    | _ => none

theorem Tx.outbox_apply (tx : Tx) (s : Store) :
    (tx.apply s).analyticsOutbox = s.analyticsOutbox ++ tx.enqueued := by
  obtain ⟨writes⟩ := tx
  induction writes generalizing s with
  | nil => simp [Tx.apply, Tx.enqueued]
  | cons write rest ih =>
    have later := ih (write.apply s)
    simp only [Tx.apply, Tx.enqueued, List.foldl_cons, List.filterMap_cons] at later ⊢
    rw [later]
    cases write <;> simp [Write.apply]

def Fresh (row : AnalyticsOutbox) : Prop :=
  ∃ context tenantId topic payload createdAt,
    row = AnalyticsOutboxService.row context tenantId row.id topic payload createdAt

theorem Enqueued.fresh {context : RequestContext} {id : Uuid} {topic : FactTopic} {fact : FactInput}
    {row : AnalyticsOutbox} (enqueued : Enqueued platform context id topic fact row) :
    row.id = id ∧ Fresh row := by
  obtain ⟨tenantId, occurredAt, createdAt, -, rfl⟩ := enqueued
  exact ⟨rfl, context, tenantId, topic, _, createdAt, rfl⟩

structure Adds (i : Nat) (rows : List AnalyticsOutbox) : Prop where
  distinct : (rows.map (·.id)).Nodup
  call : ∀ row ∈ rows, row.id.call = i
  fresh : ∀ row ∈ rows, Fresh row

theorem Adds.nothing : Adds i [] :=
  ⟨List.nodup_nil, List.forall_mem_nil _, List.forall_mem_nil _⟩

theorem Adds.single {context : RequestContext} {draw : Nat} {topic : FactTopic} {fact : FactInput}
    {row : AnalyticsOutbox} (enqueued : Enqueued platform context ⟨i, draw⟩ topic fact row) :
    Adds i [row] := by
  obtain ⟨here, fresh⟩ := enqueued.fresh
  constructor
  · simp
  · simp [here]
  · simpa using fresh

theorem Commits.adds {tx : Tx} (commits : Commits platform g i tx) : Adds i tx.enqueued := by
  cases commits with
  | created context data createdAt fact called free enqueued => exact .single enqueued
  | revoked context ticketId reason actorId ticket row now updatedAt createdAt fact called read granted
      valid present enqueued => exact .single enqueued
  | presence context ticketId state actorId ticket row checkedInAt updatedAt createdAt fact called
      override present enqueued => exact .single enqueued
  | rejected context input result createdAt fact called refused read granted present enqueued =>
    exact .single enqueued
  | accepted context input payload ticket row checkedInAt updatedAt returnedAt createdAt scanned
      presence called accepted granted present enqueued enqueued' =>
    obtain ⟨first, fresh⟩ := enqueued.fresh
    obtain ⟨second, fresh'⟩ := enqueued'.fresh
    show Adds i [scanned, presence]
    constructor
    · simp [first, second]
    · simp [first, second]
    · simp [fresh, fresh']
  | activated input ticket row siblings now updatedAt unboundAt =>
    have none : Tx.enqueued ⟨.putTicket input.ticketId
        (TicketWriteService.bindDevice input now row.toTicketState) updatedAt ::
        siblings.map fun other =>
          .putTicket other.id (TicketWriteService.unbindDevice other.toTicketState) unboundAt⟩ = [] := by
      simp [Tx.enqueued]
    rw [none]
    exact .nothing
  | _ => exact .nothing

structure Feed (g : Global) : Prop where
  distinct : (g.world.store.analyticsOutbox.map (·.id)).Nodup
  committed : ∀ row ∈ g.world.store.analyticsOutbox, Committed g row.id.call
  fresh : ∀ row ∈ g.world.store.analyticsOutbox, Fresh row

theorem Feed.same (feed : Feed g) (moved : Extends g g')
    (same : g'.world.store.analyticsOutbox = g.world.store.analyticsOutbox) : Feed g' := by
  constructor
  · rw [same]
    exact feed.distinct
  · rw [same]
    exact fun row member => moved.committed (feed.committed row member)
  · rw [same]
    exact feed.fresh

theorem Feed.commit (feed : Feed g) {tx : Tx} (commits : Commits platform g i tx)
    (first : ¬Committed g i) : Feed (g.commit (engine platform) i tx) := by
  have adds := commits.adds
  have outbox : (g.commit (engine platform) i tx).world.store.analyticsOutbox =
      g.world.store.analyticsOutbox ++ tx.enqueued := tx.outbox_apply g.world.store
  have moved : Extends g (g.commit (engine platform) i tx) :=
    (Change.commit i tx commits first).extends
  constructor
  · rw [outbox, List.map_append]
    refine feed.distinct.append adds.distinct fun id old new => ?_
    obtain ⟨row, member, rfl⟩ := List.mem_map.mp old
    obtain ⟨added, member', same⟩ := List.mem_map.mp new
    have own := adds.call added member'
    rw [same] at own
    exact first (own ▸ feed.committed row member)
  · rw [outbox]
    intro row member
    rcases List.mem_append.mp member with old | new
    · exact moved.committed (feed.committed row old)
    · rw [adds.call row new]
      exact ⟨tx, g.world, List.mem_cons_self⟩
  · rw [outbox]
    intro row member
    rcases List.mem_append.mp member with old | new
    · exact feed.fresh row old
    · exact adds.fresh row new

theorem Change.feed {actor : Option Nat} (change : Change platform actor g g') (feed : Feed g) :
    Feed g' := by
  have moved := change.extends
  cases change with
  | invoke call => exact feed.same moved rfl
  | environ action => exact feed.same moved (by cases action <;> rfl)
  | rollback i => exact feed.same moved rfl
  | commit i tx commits first => exact feed.commit commits first
  | stmt i stmt result w tx tx' executed issued =>
    refine feed.same moved ?_
    rcases exec_cases executed with ⟨-, -, -, outbox⟩ | ⟨rfl, -⟩ | ⟨id, data, row, rfl, -, -, rfl⟩
    · exact outbox
    · rfl
    · exact Store.analyticsOutbox_putTicket ..

theorem reachable_feed {w : World} (pristine : Pristine w) {c : ServiceState}
    (reachable : (service platform).Reachable w c) : Feed c.shared := by
  refine reachable_invariant pristine reachable Feed ?_ fun _ _ _ _ feed change => change.feed feed
  have empty : ((service platform).initial w).shared.world.store.analyticsOutbox = [] :=
    pristine.analyticsOutbox
  constructor <;> simp [empty]

namespace AnalyticsOutboxPublisher

theorem enqueue_row {p : PublisherState} {row : AnalyticsOutbox} (fresh : Fresh row)
    (free : row.id ∉ p.shared.world.outbox.rows.map (·.id)) :
    ∃ p', publishers.Runs p p' ∧
      p'.shared.world.outbox.rows = p.shared.world.outbox.rows ++ [row] := by
  obtain ⟨context, tenantId, topic, payload, createdAt, created⟩ := fresh
  let action : EnvAct := .enqueue context tenantId row.id topic payload createdAt
  refine ⟨_, .single ⟨.environ action, rfl⟩, ?_⟩
  have added : (action.apply p.shared.world).outbox = p.shared.world.outbox.insert row := by
    rw [created]
    rfl
  have rows := Table.rows_insert (Table.get?_eq_none.mpr free)
  exact (congrArg Table.rows added).trans rows

theorem enqueue_rows (rows : List AnalyticsOutbox) (p : PublisherState)
    (distinct : ((p.shared.world.outbox.rows ++ rows).map (·.id)).Nodup)
    (fresh : ∀ row ∈ rows, Fresh row) :
    ∃ p', publishers.Runs p p' ∧ p'.shared.world.outbox.rows = p.shared.world.outbox.rows ++ rows := by
  induction rows generalizing p with
  | nil => exact ⟨p, .refl, (List.append_nil _).symm⟩
  | cons row rest ih =>
    rw [List.forall_mem_cons] at fresh
    have free : row.id ∉ p.shared.world.outbox.rows.map (·.id) := by
      rw [List.map_append, List.nodup_append'] at distinct
      exact fun taken => distinct.2.2 taken List.mem_cons_self
    obtain ⟨next, first, added⟩ := enqueue_row fresh.1 free
    have split : next.shared.world.outbox.rows ++ rest = p.shared.world.outbox.rows ++ row :: rest := by
      simp [added]
    rw [← split] at distinct ⊢
    obtain ⟨p', runs, reached⟩ := ih next distinct fresh.2
    exact ⟨p', first.trans runs, reached⟩

end AnalyticsOutboxPublisher

open AnalyticsOutboxPublisher in
/-- What the service has committed to its outbox is a table that the publishers reach. -/
theorem service_feeds_publishers {w : World} (pristine : Pristine w) {c : ServiceState}
    (reachable : (service platform).Reachable w c) (clock : String → Time) :
    ∃ p, publishers.Reachable (AnalyticsOutboxPublisher.World.start clock) p ∧
      p.shared.world.outbox.rows = c.shared.world.store.analyticsOutbox := by
  have feed := reachable_feed pristine reachable
  exact enqueue_rows _ (publishers.initial (World.start clock)) feed.distinct feed.fresh

end TicketService
