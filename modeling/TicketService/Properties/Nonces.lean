import TicketService.Refinement.Life

set_option autoImplicit false

namespace TicketService

open Interleaving Relational

namespace Life

variable (l : Life)

def okLogs : List ScanLog :=
  l.logs.filter (·.verdict = .ok)

def acceptedNonces : List Nat :=
  l.okLogs.filterMap (·.nonce)

def factsOf (topic : FactTopic) : List AnalyticsOutbox :=
  l.facts.filter (·.topic = topic)

def okLogsTowards (state : PresenceState) : List ScanLog :=
  l.okLogs.filter (·.direction = state)

end Life

-- The nonce of the last accepted scan, 0 before the first.
def Ticket.usedNonces (row : Ticket) : Nat :=
  row.lastNonce.getD 0

structure Accounted (l : Life) : Prop where
  next : ∀ row ∈ l.row, row.nextNonce = some (row.usedNonces + 1)
  nonces : ∀ row ∈ l.row, l.acceptedNonces = List.range' 1 row.usedNonces
  scanned : ∀ row ∈ l.row, (l.factsOf .ticketScanSucceeded).length = row.usedNonces
  presence : l.row.isSome → ∀ state,
    (l.factsOf (ScanService.presenceTopic state)).length = (l.okLogsTowards state).length
  absent : l.row = none → l.logs = []

namespace Accounted

variable {row : Ticket} {logs : List ScanLog} {facts : List AnalyticsOutbox}

theorem updated (accounted : Accounted ⟨some row, logs, facts⟩) {data : TicketState → TicketState}
    (last : (data row.toTicketState).lastNonce = row.lastNonce)
    (next : (data row.toTicketState).nextNonce = row.nextNonce) (now : Time) :
    Accounted ⟨some (row.updated data now), logs, facts⟩ := by
  have used : (row.updated data now).usedNonces = row.usedNonces := by
    simp [Ticket.usedNonces, Ticket.updated, last]
  constructor
  · rintro _ ⟨⟩
    rw [used]
    exact Eq.trans next (accounted.next row rfl)
  · rintro _ ⟨⟩
    rw [used]
    exact accounted.nonces row rfl
  · rintro _ ⟨⟩
    rw [used]
    exact accounted.scanned row rfl
  · exact accounted.presence
  · simp

theorem logged (accounted : Accounted ⟨some row, logs, facts⟩) {log : ScanLog}
    (other : log.verdict ≠ .ok) : Accounted ⟨some row, logs ++ [log], facts⟩ := by
  constructor
  · exact accounted.next
  · simpa [Life.acceptedNonces, Life.okLogs, other] using accounted.nonces
  · exact accounted.scanned
  · simpa [Life.factsOf, Life.okLogsTowards, Life.okLogs, other] using accounted.presence
  · simp

theorem recorded (accounted : Accounted ⟨some row, logs, facts⟩) {fact : AnalyticsOutbox}
    (topic : fact.topic ≠ .ticketScanSucceeded)
    (other : ∀ state, fact.topic ≠ ScanService.presenceTopic state) :
    Accounted ⟨some row, logs, facts ++ [fact]⟩ := by
  constructor
  · exact accounted.next
  · exact accounted.nonces
  · simpa [Life.factsOf, topic] using accounted.scanned
  · simpa [Life.factsOf, Life.okLogsTowards, Life.okLogs, other] using accounted.presence
  · simp

theorem created {data : CreateTicketInput} {createdAt : Time} {id : Uuid} {fact : AnalyticsOutbox}
    (topic : fact.topic = .ticketGenerated) :
    Accounted ⟨some (TicketWriteService.newTicket id data createdAt), [], [fact]⟩ := by
  constructor
  · simp [TicketWriteService.newTicket, Ticket.usedNonces]
  · simp [TicketWriteService.newTicket, Ticket.usedNonces, Life.acceptedNonces, Life.okLogs]
  · simp [TicketWriteService.newTicket, Ticket.usedNonces, Life.factsOf, topic]
  · intro _ state
    cases state <;>
      simp [Life.factsOf, Life.okLogsTowards, Life.okLogs, ScanService.presenceTopic, topic]
  · simp

theorem overridden (accounted : Accounted ⟨some row, logs, facts⟩) {log : ScanLog}
    {fact : AnalyticsOutbox} (verdict : log.verdict = .ok) (manual : log.nonce = none)
    (topic : fact.topic = ScanService.presenceTopic log.direction) :
    Accounted ⟨some row, logs ++ [log], facts ++ [fact]⟩ := by
  constructor
  · exact accounted.next
  · simpa [Life.acceptedNonces, Life.okLogs, verdict, manual] using accounted.nonces
  · have other : fact.topic ≠ .ticketScanSucceeded := by
      rw [topic]
      cases log.direction <;> simp [ScanService.presenceTopic]
    simpa [Life.factsOf, other] using accounted.scanned
  · intro present state
    have before := accounted.presence rfl state
    have towards : fact.topic = ScanService.presenceTopic state ↔ log.direction = state := by
      rw [topic]
      cases log.direction <;> cases state <;> simp [ScanService.presenceTopic]
    by_cases same : log.direction = state <;>
      simpa [Life.factsOf, Life.okLogsTowards, Life.okLogs, verdict, towards, same] using before
  · simp

theorem accepted (accounted : Accounted ⟨some row, logs, facts⟩) {log : ScanLog}
    {scanned presence : AnalyticsOutbox} {payload : QrPayload} {state : PresenceState}
    {checkedInAt : Option Time} {now : Time} (nonce : row.nextNonce = some payload.dn)
    (verdict : log.verdict = .ok) (carried : log.nonce = some payload.dn)
    (direction : log.direction = state) (succeeded : scanned.topic = .ticketScanSucceeded)
    (topic : presence.topic = ScanService.presenceTopic state) :
    Accounted ⟨some (row.updated (VerifyService.acceptedState payload state checkedInAt) now),
      logs ++ [log], facts ++ [scanned, presence]⟩ := by
  have dn : payload.dn = row.usedNonces + 1 := by
    have next := accounted.next row rfl
    rw [nonce] at next
    exact Option.some.inj next
  have used : (row.updated (VerifyService.acceptedState payload state checkedInAt) now).usedNonces =
      row.usedNonces + 1 := by
    simp [Ticket.usedNonces, Ticket.updated, VerifyService.acceptedState, dn]
  constructor
  · rintro _ ⟨⟩
    rw [used]
    simp [Ticket.updated, VerifyService.acceptedState, dn]
  · rintro _ ⟨⟩
    have before := accounted.nonces row rfl
    simp only [Life.acceptedNonces, Life.okLogs] at before
    rw [used, List.range'_concat]
    simp [Life.acceptedNonces, Life.okLogs, verdict, carried, before, dn, Nat.add_comm]
  · rintro _ ⟨⟩
    have before := accounted.scanned row rfl
    have other : presence.topic ≠ .ticketScanSucceeded := by
      rw [topic]
      cases state <;> simp [ScanService.presenceTopic]
    simp only [Life.factsOf] at before
    simp [Life.factsOf, succeeded, other, used, before]
  · intro _ other
    have before := accounted.presence rfl other
    simp only [Life.factsOf, Life.okLogsTowards, Life.okLogs] at before
    cases state <;> cases other <;>
      simp_all [Life.factsOf, Life.okLogsTowards, Life.okLogs, ScanService.presenceTopic]
  · simp

end Accounted

open ScanService TicketWriteService in
theorem Turn.accounted {platform : Platform} {g : Global} {t : Uuid} {i : Nat} {before after : Life}
    (turn : Turn platform g t i before after) (fresh : ¬Committed g t.call → before.facts = [])
    (accounted : Accounted before) : Accounted after := by
  have other (topic : FactTopic) (staff : topic = .ticketRevoked ∨ topic = .ticketScanRejected) :
      topic ≠ .ticketScanSucceeded ∧ ∀ state, topic ≠ presenceTopic state := by
    constructor
    · rcases staff with rfl | rfl <;> simp
    · intro state
      rcases staff with rfl | rfl <;> cases state <;> simp [presenceTopic]
  cases turn with
  | created context data createdAt fact logs facts same called first enqueued =>
    obtain rfl : logs = [] := accounted.absent rfl
    obtain rfl : facts = [] := fresh (by rw [same]; exact first)
    exact .created enqueued.topic
  | bound input ticket row siblings now updatedAt logs facts =>
    exact accounted.updated rfl rfl updatedAt
  | unbound input ticket row siblings unboundAt logs facts =>
    exact accounted.updated rfl rfl unboundAt
  | deleted call row logs facts => exact ⟨by simp, by simp, by simp, by simp, fun _ => rfl⟩
  | revoked context reason actorId ticket row now updatedAt createdAt fact logs facts called read
      granted valid enqueued =>
    obtain ⟨scanned, presence⟩ := other fact.topic (.inl enqueued.topic)
    exact ((accounted.updated rfl rfl updatedAt).logged (by simp [staffLogRow])).recorded scanned
      presence
  | presence context state actorId ticket row checkedInAt updatedAt createdAt fact logs facts called
      override enqueued =>
    exact (accounted.updated rfl rfl updatedAt).overridden rfl rfl enqueued.topic
  | reset actorId ticket row updatedAt createdAt logs facts =>
    exact (accounted.updated rfl rfl updatedAt).logged (by simp [staffLogRow])
  | accepted context input payload ticket row checkedInAt updatedAt returnedAt createdAt scanned
      presence logs facts called same accepted granted scanned_row presence_row =>
    exact Accounted.accepted accounted accepted.nonce rfl rfl rfl scanned_row.topic
      presence_row.topic
  | rejected context input result row createdAt fact logs facts called same refused read enqueued =>
    obtain ⟨scanned, presence⟩ := other fact.topic (.inr enqueued.topic)
    exact (accounted.logged refused).recorded scanned presence
  | autoRevoked row now updatedAt logs facts => exact accounted.updated rfl rfl updatedAt

theorem Turn.facts_of_none {platform : Platform} {g : Global} {t : Uuid} {i : Nat}
    {before after : Life} (turn : Turn platform g t i before after) (absent : before.row = none)
    (still : after.row = none) : after.facts = before.facts := by
  cases turn with
  | created => simp at still
  | deleted => rfl
  | _ => simp at absent

structure Tallied (g : Global) : Prop where
  accounted : ∀ t, Accounted (life g.world.store t)
  fresh : ∀ t, ¬Committed g t.call → (life g.world.store t).facts = []

theorem Change.tallied {platform : Platform} {actor : Option Nat} {g g' : Global}
    (change : Change platform actor g g') (rooted : Rooted g) (tallied : Tallied g) :
    Tallied g' := by
  constructor
  · intro t
    rcases change.turn t with same | ⟨i, -, turn⟩
    · rw [same]
      exact tallied.accounted t
    · exact turn.accounted (tallied.fresh t) (tallied.accounted t)
  · intro t uncommitted
    have before : ¬Committed g t.call := fun committed =>
      uncommitted (change.extends.committed committed)
    have absent : (life g'.world.store t).row = none := by
      by_contra present
      obtain ⟨row, found⟩ := Option.ne_none_iff_exists'.mp present
      have key : row.id = t := Table.key_of_get? found
      exact uncommitted (key ▸ (change.rooted rooted).tickets row (Table.mem_of_get? found))
    have absent' : (life g.world.store t).row = none := by
      by_contra present
      obtain ⟨row, found⟩ := Option.ne_none_iff_exists'.mp present
      have key : row.id = t := Table.key_of_get? found
      exact before (key ▸ rooted.tickets row (Table.mem_of_get? found))
    rcases change.turn t with same | ⟨i, -, turn⟩
    · rw [same]
      exact tallied.fresh t before
    · rw [turn.facts_of_none absent' absent]
      exact tallied.fresh t before

theorem Pristine.tallied {w : World} (pristine : Pristine w) (platform : Platform) :
    Tallied ((service platform).initial w).shared := by
  have absent (t : Uuid) : w.store.ticket t = none := by
    simp [Store.ticket, Table.get?, pristine.tickets]
  have empty (t : Uuid) : life ((service platform).initial w).shared.world.store t =
      ⟨none, [], []⟩ := by
    simp [System.initial, life, absent, pristine.scanLogs, pristine.analyticsOutbox]
  constructor
  · intro t
    rw [empty]
    exact ⟨by simp, by simp, by simp, by simp, fun _ => rfl⟩
  · intro t _
    rw [empty]

theorem reachable_tallied {platform : Platform} {w : World} (pristine : Pristine w)
    {c : ServiceState} (reachable : (service platform).Reachable w c) : Tallied c.shared :=
  reachable_invariant pristine reachable Tallied (pristine.tallied platform)
    fun _ _ _ rooted tallied change => change.tallied rooted tallied

/-- In every state of every run, the accepted scans of a ticket have used the nonces from 1 on, in
order and once each, and its facts count them and its presence changes. -/
theorem nonces_single_use {platform : Platform} {w : World} (pristine : Pristine w)
    {c : ServiceState} (reachable : (service platform).Reachable w c) {row : Ticket}
    (present : row ∈ c.shared.world.store.tickets.rows) :
    row.nextNonce = some (row.usedNonces + 1) ∧
    (life c.shared.world.store row.id).acceptedNonces = List.range' 1 row.usedNonces ∧
    ((life c.shared.world.store row.id).factsOf .ticketScanSucceeded).length = row.usedNonces ∧
    ((life c.shared.world.store row.id).factsOf .ticketGuestCheckedIn).length =
      ((life c.shared.world.store row.id).okLogsTowards .inside).length ∧
    ((life c.shared.world.store row.id).factsOf .ticketGuestCheckedOut).length =
      ((life c.shared.world.store row.id).okLogsTowards .outside).length := by
  have accounted := (reachable_tallied pristine reachable).accounted row.id
  have found : (life c.shared.world.store row.id).row = some row := Store.ticket_mem.mp present
  have exists_ : (life c.shared.world.store row.id).row.isSome := by simp [found]
  exact ⟨accounted.next row found, accounted.nonces row found, accounted.scanned row found,
    accounted.presence exists_ .inside, accounted.presence exists_ .outside⟩

open Sample in
theorem nonces_single_use_entry :
    ∃ row ∈ (run (prepared ++ call 4 (.scan context entry) 30)).shared.world.store.tickets.rows,
      row.nextNonce = some 2 ∧
      (life (run (prepared ++ call 4 (.scan context entry) 30)).shared.world.store
        row.id).acceptedNonces = [1] := by
  have entered : ∃ row ∈ (run (prepared ++ call 4 (.scan context entry)
      30)).shared.world.store.tickets.rows, row.usedNonces = 1 := by decide +kernel
  obtain ⟨row, present, used⟩ := entered
  obtain ⟨next, nonces, -⟩ := nonces_single_use pristine_empty (reachable_run _) present
  rw [used] at next nonces
  exact ⟨row, present, next, nonces⟩

end TicketService
