import TicketService.Properties.Nonces
import TicketService.Refinement.Trail

set_option autoImplicit false

namespace TicketService

open Interleaving Relational ScanService TicketWriteService

structure Report where
  topic : FactTopic
  fact : FactInput
deriving DecidableEq

def AnalyticsOutbox.report (row : AnalyticsOutbox) : Report where
  topic := row.topic
  fact :=
    { eventName := row.payload.eventName
      aggregateId := row.payload.aggregateId
      aggregateType := row.payload.aggregateType
      subjectId := row.payload.subjectId
      properties := row.payload.properties }

namespace Ticket

def generated (row : Ticket) : Report :=
  ⟨.ticketGenerated, generatedFact row⟩

def movedTo (row : Ticket) (state : PresenceState) : Report :=
  ⟨presenceTopic state, presenceFact row.id row state⟩

def scanned (row : Ticket) (log : ScanLog) : Report where
  topic := scanTopic log.verdict
  fact :=
    { eventName := if log.verdict = .ok then .qrScanSucceeded else .qrScanRejected
      aggregateId := row.id
      aggregateType := "Ticket"
      subjectId := row.guestProfileId
      properties :=
        { ticketId := row.id, eventId := row.eventId, verdict := some log.verdict
          direction := some log.direction, hasGate := some (truthy log.gate).isSome } }

-- The logs of the staff have no nonce. A reset of the device binding is not reported.
def reports (row : Ticket) (log : ScanLog) : List Report :=
  match log.nonce, log.verdict with
  | some _, .ok => [row.scanned log, row.movedTo log.direction]
  | some _, _ => [row.scanned log]
  | none, .ok => [row.movedTo log.direction]
  | none, .revoked => [⟨.ticketRevoked, revokedFact row.id row⟩]
  | none, _ => []

theorem reports_rejected {row : Ticket} {log : ScanLog} {nonce : Nat} (carried : log.nonce = some nonce)
    (refused : log.verdict ≠ .ok) : row.reports log = [row.scanned log] := by
  unfold reports
  rw [carried]
  cases verdict : log.verdict with
  | ok => exact absurd verdict refused
  | _ => rfl

theorem reports_congr {row other : Ticket} (same : row.identity = other.identity) :
    row.reports = other.reports := by
  obtain ⟨id, event, -, -, guest, -⟩ := identity_iff.mp same
  funext log
  simp only [reports, scanned, movedTo, presenceFact, revokedFact, id, event, guest]

theorem generated_congr {row other : Ticket} (same : row.identity = other.identity) :
    row.generated = other.generated := by
  obtain ⟨id, event, -, -, guest, -⟩ := identity_iff.mp same
  simp only [generated, generatedFact, id, event, guest]

end Ticket

theorem Enqueued.report {platform : Platform} {context : RequestContext} {id : Uuid}
    {topic : FactTopic} {fact : FactInput} {row : AnalyticsOutbox}
    (enqueued : Enqueued platform context id topic fact row) : row.report = ⟨topic, fact⟩ := by
  obtain ⟨tenantId, occurredAt, createdAt, -, rfl⟩ := enqueued
  rfl

structure Told (l : Life) : Prop where
  events : ∀ row ∈ l.row, ∀ log ∈ l.logs, log.eventId = row.eventId
  facts : ∀ row ∈ l.row, l.facts.map (·.report) = row.generated :: l.logs.flatMap row.reports

namespace Told

variable {row row' ticket : Ticket} {logs : List ScanLog} {facts added : List AnalyticsOutbox}

theorem of_absent {l : Life} (absent : l.row = none) : Told l := by
  constructor <;> simp [absent]

theorem kept (told : Told ⟨some row, logs, facts⟩) (same : row'.identity = row.identity) :
    Told ⟨some row', logs, facts⟩ := by
  constructor
  · rintro _ ⟨⟩ log member
    rw [(Ticket.identity_iff.mp same).2.1]
    exact told.events row rfl log member
  · rintro _ ⟨⟩
    rw [Ticket.reports_congr same, Ticket.generated_congr same]
    exact told.facts row rfl

theorem logged (told : Told ⟨some row, logs, facts⟩) (kept : row'.identity = row.identity)
    (same : row.identity = ticket.identity) {log : ScanLog} (event : log.eventId = ticket.eventId)
    (reported : added.map (·.report) = ticket.reports log) :
    Told ⟨some row', logs ++ [log], facts ++ added⟩ := by
  have before : Told ⟨some row', logs, facts⟩ := told.kept kept
  have same' : row'.identity = ticket.identity := kept.trans same
  constructor
  · rintro _ ⟨⟩ other member
    rcases List.mem_append.mp member with earlier | last
    · exact before.events row' rfl other earlier
    · rw [List.mem_singleton.mp last, event, (Ticket.identity_iff.mp same').2.1]
  · rintro _ ⟨⟩
    have reports := before.facts row' rfl
    dsimp only at reports
    rw [List.map_append, reports, reported, List.flatMap_append, List.flatMap_singleton,
      Ticket.reports_congr same', List.cons_append]

end Told

section Turns

variable {platform : Platform} {g g' : Global} {t : Uuid} {i : Nat} {before after : Life}

theorem Past.same_ticket {client : Client} {id : Uuid} {row ticket : Ticket} (past : Past g)
    (read : Read g i client id ticket) (key : t = ticket.id) (present : g.world.ticket t = some row) :
    row.identity = ticket.identity :=
  (past.read read).2 row (key ▸ present)

theorem Turn.told (turn : Turn platform g t i before after) (past : Past g)
    (here : before.row = g.world.ticket t) (accounted : Accounted before)
    (fresh : ¬Committed g t.call → before.facts = []) (told : Told before) : Told after := by
  cases turn with
  | created context data createdAt fact logs facts same called first enqueued =>
    obtain rfl : logs = [] := accounted.absent rfl
    obtain rfl : facts = [] := fresh (by rw [same]; exact first)
    constructor
    · rintro _ ⟨⟩ log member
      cases member
    · rintro _ ⟨⟩
      simp [enqueued.report, Ticket.generated]
  | bound input ticket row siblings now updatedAt logs facts => exact told.kept rfl
  | unbound input ticket row siblings unboundAt logs facts => exact told.kept rfl
  | deleted call row logs facts => exact .of_absent rfl
  | revoked context reason actorId ticket row now updatedAt createdAt fact logs facts called read
      granted valid enqueued =>
    have key := read.id
    have same := past.same_ticket read key.symm here.symm
    refine told.logged ?_ same ?_ ?_
    · rfl
    · rfl
    simp [enqueued.report, Ticket.reports, staffLogRow, key]
  | presence context state actorId ticket row checkedInAt updatedAt createdAt fact logs facts called
      override enqueued =>
    have key := override.read.id
    have same := past.same_ticket override.read key.symm here.symm
    refine told.logged ?_ same ?_ ?_
    · rfl
    · rfl
    simp [enqueued.report, Ticket.reports, Ticket.movedTo, staffLogRow, key]
  | reset actorId ticket row updatedAt createdAt logs facts called read granted =>
    have same := past.same_ticket read read.id.symm here.symm
    have logged : Told ⟨some (row.updated unbindDevice updatedAt), logs ++ [staffLogRow ⟨i, 0⟩ t ticket
        actorId .outside .unknown (some "MANUAL") ticket.deviceId createdAt], facts ++ []⟩ := by
      refine told.logged ?_ same ?_ ?_ <;> rfl
    rwa [List.append_nil] at logged
  | accepted context input payload ticket row checkedInAt updatedAt returnedAt createdAt scanned
      presence logs facts called key accepted granted scanned_row presence_row =>
    have same := past.same_ticket accepted.admitted.read key here.symm
    refine told.logged ?_ same ?_ ?_
    · rfl
    · rfl
    simp [scanned_row.report, presence_row.report, Ticket.reports, Ticket.scanned, Ticket.movedTo,
      scanLogRow, TicketService.accepted, scanFact, scanTopic]
  | rejected context input result row createdAt fact logs facts called key refused read enqueued =>
    have same := past.same_ticket read key here.symm
    refine told.logged ?_ same ?_ ?_
    · rfl
    · rfl
    rw [Ticket.reports_rejected rfl refused]
    simp [enqueued.report, Ticket.scanned, scanLogRow, scanFact, scanTopic, refused]
  | autoRevoked row now updatedAt logs facts => exact told.kept rfl

structure Telling (g : Global) : Prop extends Tallied g where
  past : Past g
  told : ∀ t, Told (life g.world.store t)

theorem Change.telling {actor : Option Nat} (change : Change platform actor g g')
    (rooted : Rooted g) (reported : Telling g) : Telling g' where
  toTallied := change.tallied rooted reported.toTallied
  past := change.past rooted reported.past
  told t := by
    rcases change.turn t with same | ⟨i, -, turn⟩
    · rw [same]
      exact reported.told t
    · exact turn.told reported.past rfl (reported.accounted t) (reported.fresh t) (reported.told t)

theorem reachable_telling {w : World} (pristine : Pristine w) {c : ServiceState}
    (reachable : (service platform).Reachable w c) : Telling c.shared := by
  refine reachable_invariant pristine reachable Telling ?_
    fun _ _ _ rooted reported change => change.telling rooted reported
  refine ⟨pristine.tallied platform, initial_past, fun t => ?_⟩
  refine Told.of_absent ?_
  simp [System.initial, life, Store.ticket, Table.get?, pristine.tickets]

end Turns

/-- In every state of every run, the facts of a ticket are its generation and then, log by log in
commit order, what its scan logs report. -/
theorem logs_tell_facts {platform : Platform} {w : World} (pristine : Pristine w) {c : ServiceState}
    (reachable : (service platform).Reachable w c) {row : Ticket}
    (present : row ∈ c.shared.world.store.tickets.rows) :
    (life c.shared.world.store row.id).facts.map (·.report) =
      row.generated :: (life c.shared.world.store row.id).logs.flatMap row.reports :=
  ((reachable_telling pristine reachable).told row.id).facts row (Store.ticket_mem.mp present)

open Sample in
theorem entry_tells_facts :
    ∃ row ∈ (run (prepared ++ call 4 (.scan context entry) 30)).shared.world.store.tickets.rows,
      (life (run (prepared ++ call 4 (.scan context entry) 30)).shared.world.store row.id).facts.map
        (·.report.topic) = [.ticketGenerated, .ticketScanSucceeded, .ticketGuestCheckedIn] := by
  have logged : ∃ row ∈ (run (prepared ++ call 4 (.scan context entry)
      30)).shared.world.store.tickets.rows,
      (row.generated :: (life (run (prepared ++ call 4 (.scan context entry)
        30)).shared.world.store row.id).logs.flatMap row.reports).map (·.topic) =
        [.ticketGenerated, .ticketScanSucceeded, .ticketGuestCheckedIn] := by
    decide +kernel
  obtain ⟨row, present, topics⟩ := logged
  have told := logs_tell_facts pristine_empty (reachable_run _) present
  refine ⟨row, present, ?_⟩
  rw [← topics, ← told, List.map_map]
  rfl

end TicketService
