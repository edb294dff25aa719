import TicketService.Properties.FactsOfLogs
import TicketService.Properties.Outbox
import TicketService.Refinement.Attempts
import TicketService.Refinement.Deployment

set_option autoImplicit false

namespace TicketService

open Interleaving Relational

namespace AnalyticsOutboxPublisher

structure Genuine (g : PublisherShared) (φ : Nat → Phase) : Prop where
  sent : ∀ m ∈ messages g.history, m ∈ g.world.facts
  sending : ∀ i id rest record, φ i = .publishing id rest (.sending record) →
    message record ∈ g.world.facts

variable {g g' : PublisherShared} {φ : Nat → Phase} {i : Nat} {φ' : Phase} {instanceId : String}

theorem facts_environ (action : EnvAct) (w : World) : w.facts ⊆ (action.apply w).facts := by
  cases action with
  | enqueue context tenantId id topic payload createdAt =>
    refine List.map_subset _ ?_
    rcases w.outbox.rows_insert_cases
      (AnalyticsOutboxService.row context tenantId id topic payload createdAt) with same | added
    · exact fun row member => same ▸ member
    · exact fun row member => added ▸ List.mem_append_left _ member
  | _ => exact List.Subset.refl _

theorem messages_cons {stmt : Stmt} {result : stmt.Res} {w : World} {log : Record} {m : RawMessage}
    (member : m ∈ messages (.stmt i stmt result w :: log)) : m ∈ messages log ∨ stmt = .rawSend m := by
  rw [← List.singleton_append, messages_append] at member
  refine (List.mem_append.mp member).imp_right fun new => ?_
  cases stmt with
  | rawSend sent => rw [List.mem_singleton.mp new]
  | _ => cases new

theorem preserves_genuine : publishers.Preserves route (fun _ _ => True) Genuine where
  invoke c φ call _ genuine _ := by
    refine ⟨genuine.sent, fun i id rest record here => ?_⟩
    by_cases own : i = c.threads.length
    · rw [own, Function.update_self] at here
      cases here
    · rw [Function.update_of_ne own] at here
      exact genuine.sending i id rest record here
  call c φ i call stmt next result w φ' _ genuine _ present called moves executed := by
    have ran : exec stmt c.shared.world = some (result, w) := engine_exec.mp executed
    have same := exec_facts ran
    constructor
    · intro m member
      show m ∈ w.facts
      rw [same]
      rcases messages_cons member with before | rfl
      · exact genuine.sent m before
      · obtain ⟨id, rest, record, here, rfl⟩ := moves.sending
        exact genuine.sending i id rest record here
    · intro j id rest record here
      show message record ∈ w.facts
      rw [same]
      by_cases own : j = i
      · subst own
        rw [Function.update_self] at here
        subst here
        -- The row has just been read.
        generalize φ j = before at moves
        cases moves with
        | read =>
          obtain ⟨found, there, ended⟩ := Option.map_eq_some_iff.mp ran
          cases ended
          exact List.mem_map_of_mem (Table.mem_of_get? there)
      · rw [Function.update_of_ne own] at here
        exact genuine.sending j id rest record here
  throws c φ i call act stmt next φ' _ genuine _ _ _ _ moves := by
    refine ⟨genuine.sent, fun j id rest record here => ?_⟩
    by_cases own : j = i
    · subst own
      rw [Function.update_self] at here
      subst here
      generalize φ j = before at moves
      cases moves
    · rw [Function.update_of_ne own] at here
      exact genuine.sending j id rest record here
  environ c φ action _ genuine _ :=
    ⟨fun m member => facts_environ action _ (genuine.sent m member),
      fun i id rest record here => facts_environ action _ (genuine.sending i id rest record here)⟩

theorem reachable_messages {clock : String → Time} {p : PublisherState}
    (reachable : publishers.Reachable (World.start clock) p) :
    ∀ m ∈ messages p.shared.history, m ∈ p.shared.world.facts := by
  have runs : publishers.RunsUnder (fun _ _ => True) (publishers.initial (World.start clock)) p :=
    Relation.ReflTransGen.mono (fun _ _ ⟨act, stepped⟩ => ⟨act, trivial, stepped⟩) _ _ reachable
  have base : Genuine (publishers.initial (World.start clock)).shared fun _ => .ended := by
    constructor
    · intro m member
      cases member
    · intro i id rest record here
      cases here
  obtain ⟨φ, -, genuine⟩ := System.Guided.runs autocommits route_guides preserves_genuine
    (System.initial_guided _ _) base runs
  exact genuine.sent

end AnalyticsOutboxPublisher

open AnalyticsOutboxPublisher

def AnalyticsOutboxPublisher.RawMessage.report (m : RawMessage) : Report where
  topic := m.topic
  fact :=
    { eventName := m.payload.eventName
      aggregateId := m.payload.aggregateId
      aggregateType := m.payload.aggregateType
      subjectId := m.payload.subjectId
      properties := m.payload.properties }

theorem reports_messages (rows : List AnalyticsOutbox) (id : Uuid) :
    (rows.filter (·.payload.aggregateId = id)).map (·.report) =
      ((rows.map message).filter (·.payload.aggregateId = id)).map (·.report) := by
  rw [List.filter_map, List.map_map]
  rfl

structure Delivers (g : Global) (p : PublisherShared) : Prop where
  -- A message tells a fact that its call has committed.
  genuine : ∀ m ∈ messages p.history, ∃ fact ∈ g.world.store.analyticsOutbox,
    message fact = m ∧ Committed g fact.id.call
  -- The facts of a ticket are its generation and what its scan logs report.
  told : ∀ row ∈ g.world.store.tickets.rows,
    (p.world.outbox.rows.filter (·.payload.aggregateId = row.id)).map (·.report) =
      row.generated :: (life g.world.store row.id).logs.flatMap row.reports
  -- A fact is published after it was sent and given up after ten failed attempts.
  accounted : ∀ fact ∈ p.world.outbox.rows, AnalyticsOutboxPublisher.Accounted p.history fact

variable {platform : Platform} {w : World} {clock : String → Time} {c : ServiceState} {p : PublisherState}

/-- In every state that the service and the publishers reach together, every message that has been sent
tells a fact that was committed, and the facts of each ticket that the publishers have are, in order,
those that its scan logs report. -/
theorem messages_tell_logs (pristine : Pristine w) (deployed : Deployed platform w clock c p) :
    Delivers c.shared p.shared := by
  have facts := deployed.facts pristine
  have reachable := deployed.publishers pristine
  constructor
  · intro m member
    have held := reachable_messages reachable m member
    rw [facts] at held
    obtain ⟨fact, there, same⟩ := List.mem_map.mp held
    exact ⟨fact, there, same, (reachable_feed pristine deployed.service).committed fact there⟩
  · intro row present
    have told := ((reachable_telling pristine deployed.service).told row.id).facts row
      (Store.ticket_mem.mp present)
    rw [← told, reports_messages, life, reports_messages, ← facts]
    rfl
  · exact (AnalyticsOutboxPublisher.reachable_sound reachable).inv

namespace Sample

abbrev Both : Type := ServiceState × PublisherState

abbrev BothAct : Type := ServiceAct ⊕ Act AnalyticsOutboxPublisher.Call AnalyticsOutboxPublisher.EnvAct

def together (c : Both) : BothAct → Both
  | .inl act =>
    match (service deployment).step c.1 act with
    | some c' => (c', enqueue c.2
      (c'.shared.world.store.analyticsOutbox.drop c.1.shared.world.store.analyticsOutbox.length))
    | none => c
  | .inr act => if keepsRows act then (c.1, (publishers.step c.2 act).getD c.2) else c

def runBoth (acts : List BothAct) : Both :=
  acts.foldl together ((service deployment).initial .empty, publishers.initial (.start fun _ => 100000))

theorem deployed_together {c : Both} (deployed : Deployed deployment .empty clock c.1 c.2) (act : BothAct) :
    Deployed deployment .empty clock (together c act).1 (together c act).2 := by
  cases act with
  | inl act =>
    dsimp only [together]
    split
    next c' stepped => exact .serves act deployed stepped
    next => exact deployed
  | inr act =>
    dsimp only [together]
    split
    next keeps =>
      cases stepped : publishers.step c.2 act with
      | none => exact deployed
      | some p' => exact .publishes act deployed stepped keeps
    next => exact deployed

theorem deployed_run (acts : List BothAct) :
    Deployed deployment .empty (fun _ => 100000) (runBoth acts).1 (runBoth acts).2 := by
  unfold runBoth
  generalize started : ((service deployment).initial .empty, publishers.initial (.start fun _ => 100000)) = c
  have deployed : Deployed deployment .empty (fun _ => 100000) c.1 c.2 := started ▸ .started
  clear started
  induction acts generalizing c with
  | nil => exact deployed
  | cons act rest ih => exact ih _ (deployed_together deployed act)

def ofService (acts : List ServiceAct) : List BothAct :=
  acts.map .inl

def ofPublishers (acts : List (Act AnalyticsOutboxPublisher.Call AnalyticsOutboxPublisher.EnvAct)) :
    List BothAct :=
  acts.map .inr

def polledDuringScan : List BothAct :=
  ofService prepared ++ ofPublishers (AnalyticsOutboxPublisher.Sample.poll "first" 0 8) ++
    ofService (call 4 (.scan context entry) 30) ++ ofPublishers (List.replicate 8 (.step 0))

end Sample

open Sample in
theorem messages_tell_logs_scanned :
    (messages (runBoth polledDuringScan).2.shared.history).map (·.topic) = [.ticketGenerated] ∧
      (runBoth polledDuringScan).2.shared.world.outbox.rows.map (·.topic) =
        [.ticketGenerated, .ticketScanSucceeded, .ticketGuestCheckedIn] ∧
      Delivers (runBoth polledDuringScan).1.shared (runBoth polledDuringScan).2.shared :=
  ⟨by decide +kernel, by decide +kernel, messages_tell_logs pristine_empty (deployed_run _)⟩

end TicketService
