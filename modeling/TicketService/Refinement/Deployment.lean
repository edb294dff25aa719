import TicketService.Refinement.Feed
import TicketService.Refinement.Leases

set_option autoImplicit false

namespace TicketService

open Interleaving Relational

namespace AnalyticsOutboxPublisher

def World.enqueued (w : World) (rows : List AnalyticsOutbox) : World :=
  { w with outbox := rows.foldl Table.insert w.outbox }

def enqueue (p : PublisherState) (rows : List AnalyticsOutbox) : PublisherState :=
  { p with shared.world := p.shared.world.enqueued rows }

def keepsRows : Act Call EnvAct → Bool
  | .environ (.enqueue ..) => false
  | _ => true

end AnalyticsOutboxPublisher

open AnalyticsOutboxPublisher in
inductive Deployed (platform : Platform) (w : World) (clock : String → Time) :
    ServiceState → PublisherState → Prop where
  | started : Deployed platform w clock ((service platform).initial w) (publishers.initial (.start clock))
  | serves {c c' : ServiceState} {p : PublisherState} (act : ServiceAct) : Deployed platform w clock c p →
    (service platform).step c act = some c' →
    Deployed platform w clock c' (enqueue p
      (c'.shared.world.store.analyticsOutbox.drop c.shared.world.store.analyticsOutbox.length))
  | publishes {c : ServiceState} {p p' : PublisherState} (act : Act AnalyticsOutboxPublisher.Call
      AnalyticsOutboxPublisher.EnvAct) : Deployed platform w clock c p → publishers.step p act = some p' →
    keepsRows act = true → Deployed platform w clock c p'

variable {platform : Platform} {w : World} {clock : String → Time} {g g' : Global} {c c' : ServiceState}
  {p p' : AnalyticsOutboxPublisher.PublisherState}

theorem Change.outbox {actor : Option Nat} (change : Change platform actor g g') :
    g.world.store.analyticsOutbox <+: g'.world.store.analyticsOutbox := by
  cases change with
  | commit i tx commits first =>
    have added := tx.outbox_apply g.world.store
    exact ⟨tx.enqueued, added.symm⟩
  | environ action => cases action <;> exact List.prefix_rfl
  | stmt i stmt result w tx tx' executed issued =>
    rcases exec_cases executed with ⟨-, -, -, outbox⟩ | ⟨rfl, -⟩ | ⟨id, data, row, rfl, -, -, rfl⟩
    · exact ⟨[], (List.append_nil _).trans outbox.symm⟩
    · exact List.prefix_rfl
    · exact ⟨[], (List.append_nil _).trans (Store.analyticsOutbox_putTicket ..).symm⟩
  | _ => exact List.prefix_rfl

namespace Deployed

theorem service (deployed : Deployed platform w clock c p) : (service platform).Reachable w c := by
  induction deployed with
  | started => exact .refl
  | serves act _ stepped ih => exact ih.tail ⟨act, stepped⟩
  | publishes _ _ _ _ ih => exact ih

/-- What an act of the service adds to the outbox follows what is there. -/
theorem added (pristine : Pristine w) (deployed : Deployed platform w clock c p) {act : ServiceAct}
    (stepped : (TicketService.service platform).step c act = some c') :
    c'.shared.world.store.analyticsOutbox = c.shared.world.store.analyticsOutbox ++
      c'.shared.world.store.analyticsOutbox.drop c.shared.world.store.analyticsOutbox.length := by
  have kept : c.shared.world.store.analyticsOutbox <+: c'.shared.world.store.analyticsOutbox :=
    runs_invariant pristine deployed.service (.single ⟨act, stepped⟩)
      (fun g => c.shared.world.store.analyticsOutbox <+: g.world.store.analyticsOutbox) List.prefix_rfl
      fun _ _ _ _ before change => before.trans change.outbox
  exact (List.prefix_iff_eq_append.mp kept).symm

end Deployed

namespace AnalyticsOutboxPublisher

variable {rows : List AnalyticsOutbox}

theorem enqueue_runs (fresh : ∀ row ∈ rows, Fresh row) (p : PublisherState) :
    publishers.Runs p (enqueue p rows) := by
  induction rows generalizing p with
  | nil => exact .refl
  | cons row rest ih =>
    rw [List.forall_mem_cons] at fresh
    obtain ⟨⟨context, tenantId, topic, payload, createdAt, created⟩, fresh⟩ := fresh
    let action : EnvAct := .enqueue context tenantId row.id topic payload createdAt
    have first : publishers.step p (.environ action) = some (enqueue p [row]) := by
      rw [created]
      rfl
    exact .head ⟨.environ action, first⟩ (ih fresh (enqueue p [row]))

theorem enqueue_adds (p : PublisherState)
    (distinct : ((p.shared.world.outbox.rows ++ rows).map (·.id)).Nodup) :
    (enqueue p rows).shared.world.outbox.rows = p.shared.world.outbox.rows ++ rows := by
  induction rows generalizing p with
  | nil => exact (List.append_nil _).symm
  | cons row rest ih =>
    have free : row.id ∉ p.shared.world.outbox.rows.map (·.id) := by
      rw [List.map_append, List.nodup_append'] at distinct
      exact fun taken => distinct.2.2 taken List.mem_cons_self
    have first : (enqueue p [row]).shared.world.outbox.rows = p.shared.world.outbox.rows ++ [row] :=
      Table.rows_insert (Table.get?_eq_none.mpr free)
    have split : (enqueue p [row]).shared.world.outbox.rows ++ rest =
        p.shared.world.outbox.rows ++ row :: rest := by simp [first]
    rw [← split] at distinct ⊢
    exact ih (enqueue p [row]) distinct

def World.facts (w : World) : List RawMessage :=
  w.outbox.rows.map message

theorem facts_put {w : World} {id : Uuid} {old new : AnalyticsOutbox} (found : w.row id = some old)
    (same : message new = message old) : (w.put new).facts = w.facts := by
  have key : new.id = old.id := congrArg RawMessage.eventId same
  simp only [World.facts, World.put, Table.put, List.map_map]
  refine List.map_congr_left fun row member => ?_
  by_cases own : row.id = new.id
  · have target : old.id = id := Table.key_of_get? found
    have there : w.row id = some row := by
      rw [← target, ← key, ← own]
      exact Table.get?_of_mem member
    rw [found] at there
    simp [own, same, Option.some.inj there]
  · simp [own]

theorem exec_facts {stmt : Stmt} {result : stmt.Res} {w w' : World}
    (executed : exec stmt w = some (result, w')) : w'.facts = w.facts := by
  cases stmt with
  | claim id staleBefore lockedAt lockedBy =>
    simp only [exec] at executed
    split at executed
    next row found =>
      cases executed
      exact facts_put (Option.filter_eq_some_iff.mp found).1 rfl
    next => cases executed; rfl
  | update id data =>
    obtain ⟨row, found, same⟩ := Option.map_eq_some_iff.mp executed
    cases same
    exact facts_put found (by cases data <;> rfl)
  | findUniqueOrThrow id =>
    obtain ⟨row, -, same⟩ := Option.map_eq_some_iff.mp executed
    cases same
    rfl
  | _ =>
    cases executed
    rfl

theorem step_facts {p p' : PublisherState} {act : Act Call EnvAct} (keeps : keepsRows act = true)
    (stepped : publishers.step p act = some p') : p'.shared.world.facts = p.shared.world.facts := by
  have same {i : Nat} {g g' : PublisherShared} (step : g.StepBy engine i g') : g'.world.facts = g.world.facts := by
    cases step with
    | record executed =>
      obtain ⟨_, ran, ended⟩ := Option.map_eq_some_iff.mp executed
      cases ended
      exact exec_facts ran
    | _ => rfl
  cases act with
  | invoke call =>
    cases stepped
    rfl
  | step i =>
    obtain ⟨th, -, moved⟩ := Option.bind_eq_some_iff.mp stepped
    exact same (System.stepThread_shared moved).1
  | fault i =>
    obtain ⟨th, -, moved⟩ := Option.bind_eq_some_iff.mp stepped
    exact same (System.faultThread_shared moved).1
  | environ action =>
    cases stepped
    cases action with
    | enqueue => cases keeps
    | _ => rfl

end AnalyticsOutboxPublisher

namespace Deployed

open AnalyticsOutboxPublisher

theorem facts (pristine : Pristine w) (deployed : Deployed platform w clock c p) :
    p.shared.world.facts = c.shared.world.store.analyticsOutbox.map message := by
  induction deployed with
  | started =>
    have empty : ((TicketService.service platform).initial w).shared.world.store.analyticsOutbox = [] :=
      pristine.analyticsOutbox
    rw [empty]
    rfl
  | publishes act _ stepped keeps ih => exact (step_facts keeps stepped).trans ih
  | @serves c c' p act deployed stepped ih =>
    have added := deployed.added pristine stepped
    have feed := reachable_feed pristine (deployed.service.tail ⟨act, stepped⟩)
    have distinct := feed.distinct
    generalize c'.shared.world.store.analyticsOutbox.drop _ = rows at added ⊢
    rw [added] at distinct ⊢
    have ids : p.shared.world.outbox.rows.map (·.id) = c.shared.world.store.analyticsOutbox.map (·.id) := by
      have same := congrArg (List.map RawMessage.eventId) ih
      rw [World.facts, List.map_map, List.map_map] at same
      exact same
    rw [List.map_append, ← ids, ← List.map_append] at distinct
    rw [World.facts, enqueue_adds p distinct, List.map_append, List.map_append]
    exact congrArg (· ++ rows.map message) ih

theorem publishers (pristine : Pristine w) (deployed : Deployed platform w clock c p) :
    publishers.Reachable (World.start clock) p := by
  induction deployed with
  | started => exact .refl
  | publishes act _ stepped _ ih => exact ih.tail ⟨act, stepped⟩
  | serves act deployed stepped ih =>
    have feed := reachable_feed pristine (deployed.service.tail ⟨act, stepped⟩)
    exact ih.trans (enqueue_runs (fun row member => feed.fresh row (List.mem_of_mem_drop member)) _)

end Deployed

end TicketService
