import TicketService.Refinement.Service

set_option autoImplicit false

namespace TicketService

open Interleaving Relational

structure Life where
  row : Option Ticket
  logs : List ScanLog
  facts : List AnalyticsOutbox

def life (s : Store) (t : Uuid) : Life where
  row := s.ticket t
  logs := s.scanLogs.filter (·.ticketId = t)
  facts := s.analyticsOutbox.filter (·.payload.aggregateId = t)

def Life.write (t : Uuid) (l : Life) : Write → Life
  | .putTicket id state now =>
    if t = id then { l with row := l.row.map fun row => row.updated (fun _ => state) now } else l
  | .insertTicket row => if t = row.id then { l with row := l.row.or (some row) } else l
  | .deleteTickets ids => if t ∈ ids then { l with row := none, logs := [] } else l
  | .insertScanLog log => if log.ticketId = t then { l with logs := l.logs ++ [log] } else l
  | .deleteScanLogs ids => if t ∈ ids then { l with logs := [] } else l
  | .deleteShareGuards _ => l
  | .insertOutbox row =>
    if row.payload.aggregateId = t then { l with facts := l.facts ++ [row] } else l

theorem filter_dropped (logs : List ScanLog) (t : Uuid) (ids : List Uuid) :
    (logs.filter fun log => log.ticketId ∉ ids).filter (·.ticketId = t) =
      if t ∈ ids then [] else logs.filter (·.ticketId = t) := by
  rw [List.filter_filter]
  split
  next member =>
    apply List.filter_eq_nil_iff.mpr
    intro log _
    by_cases same : log.ticketId = t <;> simp [same, member]
  next kept =>
    congr 1
    funext log
    by_cases same : log.ticketId = t <;> simp [same, kept]

theorem life_apply (write : Write) (s : Store) (t : Uuid) :
    life (write.apply s) t = (life s t).write t write := by
  cases write with
  | putTicket id state now =>
    have row := Write.ticket_apply_putTicket s t id state now
    by_cases same : t = id
    · subst same
      simp only [life, row, Life.write, if_pos]
      simp [Write.apply, Ticket.updated]
    · simp only [life, row, Life.write, if_neg same]
      simp [Write.apply]
  | insertTicket row =>
    have changed := Write.ticket_apply_insertTicket s t row
    simp only [life, changed, Life.write]
    by_cases same : t = row.id
    · cases found : s.ticket t <;> simp [Write.apply, same]
    · simp [Write.apply, same]
  | deleteTickets ids =>
    simp only [life, Write.ticket_apply_deleteTickets, Life.write]
    have logs := filter_dropped s.scanLogs t ids
    split
    next member =>
      rw [if_pos member] at logs
      simpa [Write.apply] using logs
    next kept =>
      rw [if_neg kept] at logs
      simpa [Write.apply] using logs
  | insertScanLog log =>
    simp only [life, Write.ticket_apply_insertScanLog, Life.write]
    by_cases same : log.ticketId = t <;> simp [Write.apply, same]
  | deleteScanLogs ids =>
    simp only [life, Write.ticket_apply_deleteScanLogs, Life.write]
    have logs := filter_dropped s.scanLogs t ids
    split
    next member =>
      rw [if_pos member] at logs
      simpa [Write.apply] using logs
    next kept =>
      rw [if_neg kept] at logs
      simpa [Write.apply] using logs
  | deleteShareGuards ids => rfl
  | insertOutbox row =>
    simp only [life, Write.ticket_apply_insertOutbox, Life.write]
    by_cases same : row.payload.aggregateId = t <;> simp [Write.apply, same]

theorem life_commit (tx : Tx) (s : Store) (t : Uuid) :
    life (tx.apply s) t = tx.writes.foldl (Life.write t) (life s t) := by
  obtain ⟨writes⟩ := tx
  induction writes generalizing s with
  | nil => rfl
  | cons write rest ih =>
    rw [List.foldl_cons, ← life_apply]
    exact ih (write.apply s)

open AnalyticsOutboxService ScanService ShareGuardService TicketWriteService VerifyService

/-- What a step of call number `i` does to the life of ticket `t`, and on what grounds. -/
inductive Turn (platform : Platform) (g : Global) (t : Uuid) (i : Nat) : Life → Life → Prop where
  | created (context : RequestContext) (data : CreateTicketInput) (createdAt : Time)
      (fact : AnalyticsOutbox) (logs : List ScanLog) (facts : List AnalyticsOutbox) :
      t = ⟨i, 0⟩ → g.calls[i]? = some (.createTicket context data) → ¬Committed g i →
      Enqueued platform context ⟨i, 1⟩ .ticketGenerated
        (generatedFact (newTicket t data createdAt)) fact →
      Turn platform g t i ⟨none, logs, facts⟩
        ⟨some (newTicket t data createdAt), logs, facts ++ [fact]⟩
  | bound (input : ActivateDeviceDTO) (ticket row : Ticket) (siblings : List Ticket)
      (now updatedAt : Time) (logs : List ScanLog) (facts : List AnalyticsOutbox) :
      t = input.ticketId → Activation platform g i input ticket →
      Cleaned g i input ticket siblings →
      Turn platform g t i ⟨some row, logs, facts⟩
        ⟨some (row.updated (bindDevice input now) updatedAt), logs, facts⟩
  | unbound (input : ActivateDeviceDTO) (ticket row : Ticket) (siblings : List Ticket)
      (unboundAt : Time) (logs : List ScanLog) (facts : List AnalyticsOutbox) :
      t ≠ input.ticketId → Activation platform g i input ticket →
      Cleaned g i input ticket siblings → row ∈ siblings →
      sibling ticket input.deviceId row = true →
      Turn platform g t i ⟨some row, logs, facts⟩
        ⟨some (row.updated unbindDevice unboundAt), logs, facts⟩
  | deleted (call : Call) (row : Option Ticket) (logs : List ScanLog)
      (facts : List AnalyticsOutbox) :
      g.calls[i]? = some call → call.deletes →
      Turn platform g t i ⟨row, logs, facts⟩ ⟨none, [], facts⟩
  | revoked (context : RequestContext) (reason : Option String) (actorId : Uuid)
      (ticket row : Ticket) (now updatedAt createdAt : Time) (fact : AnalyticsOutbox)
      (logs : List ScanLog) (facts : List AnalyticsOutbox) :
      g.calls[i]? = some (.revoke context t reason actorId) →
      Read g i .prisma t ticket → Granted platform g i .manageTickets ticket.eventId actorId →
      ticket.revoked = false →
      Enqueued platform context ⟨i, 1⟩ .ticketRevoked (revokedFact t ticket) fact →
      Turn platform g t i ⟨some row, logs, facts⟩
        ⟨some (row.updated (revokedState now actorId reason) updatedAt),
          logs ++ [staffLogRow ⟨i, 0⟩ t ticket actorId .outside .revoked none none createdAt],
          facts ++ [fact]⟩
  | presence (context : RequestContext) (state : PresenceState) (actorId : Uuid)
      (ticket row : Ticket) (checkedInAt : Option Time) (updatedAt createdAt : Time)
      (fact : AnalyticsOutbox) (logs : List ScanLog) (facts : List AnalyticsOutbox) :
      g.calls[i]? = some (.updatePresence context t state actorId) →
      Override platform g i t state actorId ticket row checkedInAt →
      Enqueued platform context ⟨i, 1⟩ (presenceTopic state) (presenceFact t ticket state) fact →
      Turn platform g t i ⟨some row, logs, facts⟩
        ⟨some (row.updated (presenceState state checkedInAt) updatedAt),
          logs ++ [staffLogRow ⟨i, 0⟩ t ticket actorId state .ok (some "MANUAL") none createdAt],
          facts ++ [fact]⟩
  | reset (actorId : Uuid) (ticket row : Ticket) (updatedAt createdAt : Time)
      (logs : List ScanLog) (facts : List AnalyticsOutbox) :
      g.calls[i]? = some (.resetDeviceBinding t actorId) →
      Read g i .prisma t ticket → Granted platform g i .manageTickets ticket.eventId actorId →
      Turn platform g t i ⟨some row, logs, facts⟩
        ⟨some (row.updated unbindDevice updatedAt),
          logs ++ [staffLogRow ⟨i, 0⟩ t ticket actorId .outside .unknown (some "MANUAL")
            ticket.deviceId createdAt], facts⟩
  | accepted (context : RequestContext) (input : SecurityScanInput) (payload : QrPayload)
      (ticket row : Ticket) (checkedInAt : Option Time) (updatedAt returnedAt createdAt : Time)
      (scanned presence : AnalyticsOutbox) (logs : List ScanLog) (facts : List AnalyticsOutbox) :
      g.calls[i]? = some (.scan context input) → t = ticket.id →
      Accepted g i input payload ticket row checkedInAt →
      Granted platform g i .scanTickets ticket.eventId input.actorId →
      Enqueued platform context ⟨i, 1⟩ .ticketScanSucceeded (scanFact ticket .ok input) scanned →
      Enqueued platform context ⟨i, 2⟩ (presenceTopic (intendedState input.direction))
        (presenceFact ticket.id ticket (intendedState input.direction)) presence →
      Turn platform g t i ⟨some row, logs, facts⟩
        ⟨some (row.updated (acceptedState payload (intendedState input.direction) checkedInAt)
            updatedAt),
          logs ++ [scanLogRow ⟨i, 0⟩
            (TicketService.accepted input payload ticket checkedInAt returnedAt) input createdAt],
          facts ++ [scanned, presence]⟩
  | rejected (context : RequestContext) (input : SecurityScanInput) (result : VerifyResult)
      (row : Ticket) (createdAt : Time) (fact : AnalyticsOutbox) (logs : List ScanLog)
      (facts : List AnalyticsOutbox) :
      g.calls[i]? = some (.scan context input) → t = result.ticket.id → result.verdict ≠ .ok →
      Read g i .tx result.payload.tid result.ticket →
      Enqueued platform context ⟨i, 1⟩ .ticketScanRejected
        (scanFact result.ticket result.verdict input) fact →
      Turn platform g t i ⟨some row, logs, facts⟩
        ⟨some row, logs ++ [scanLogRow ⟨i, 0⟩ result input createdAt], facts ++ [fact]⟩
  | autoRevoked (row : Ticket) (now updatedAt : Time) (logs : List ScanLog)
      (facts : List AnalyticsOutbox) :
      Turn platform g t i ⟨some row, logs, facts⟩
        ⟨some (row.updated (autoRevoked now) updatedAt), logs, facts⟩

variable {platform : Platform} {g g' : Global} {i : Nat} {t : Uuid}

theorem unbind_others (l : Life) (siblings : List Ticket) (unboundAt : Time)
    (others : ∀ other ∈ siblings, other.id ≠ t) :
    (siblings.map fun other => Write.putTicket other.id (unbindDevice other.toTicketState)
      unboundAt).foldl (Life.write t) l = l := by
  induction siblings with
  | nil => rfl
  | cons other rest ih =>
    rw [List.forall_mem_cons] at others
    simpa [Life.write, Ne.symm others.1] using ih others.2

theorem unbind_row (row : Ticket) (unboundAt : Time) (logs : List ScanLog)
    (facts : List AnalyticsOutbox) (siblings : List Ticket)
    (only : ∀ other ∈ siblings, other.id = t → other = row) (current : Ticket)
    (shape : row ∈ siblings ∧ current = row ∨ current = row.updated unbindDevice unboundAt)
    (key : row.id = t) :
    (siblings.map fun other => Write.putTicket other.id (unbindDevice other.toTicketState)
      unboundAt).foldl (Life.write t) ⟨some current, logs, facts⟩ =
        ⟨some (row.updated unbindDevice unboundAt), logs, facts⟩ := by
  induction siblings generalizing current with
  | nil =>
    rcases shape with ⟨member, -⟩ | rfl
    · cases member
    · rfl
  | cons other rest ih =>
    rw [List.forall_mem_cons] at only
    rw [List.map_cons, List.foldl_cons]
    by_cases same : other.id = t
    · obtain rfl := only.1 same
      have written : Life.write t ⟨some current, logs, facts⟩
          (.putTicket other.id (unbindDevice other.toTicketState) unboundAt) =
          ⟨some (other.updated unbindDevice unboundAt), logs, facts⟩ := by
        rcases shape with ⟨-, rfl⟩ | rfl <;> simp [Life.write, key, Ticket.updated]
      rw [written]
      exact ih only.2 _ (.inr rfl)
    · have kept : Life.write t ⟨some current, logs, facts⟩
          (.putTicket other.id (unbindDevice other.toTicketState) unboundAt) =
          ⟨some current, logs, facts⟩ := by
        simp [Life.write, Ne.symm same]
      rw [kept]
      refine ih only.2 _ (shape.imp (fun ⟨member, here⟩ => ⟨?_, here⟩) id)
      rcases List.mem_cons.mp member with rfl | later
      · exact absurd key same
      · exact later

theorem life_of_ticket {row : Ticket} {id : Uuid} (present : g.world.ticket id = some row) :
    life g.world.store id = ⟨some row, (life g.world.store id).logs,
      (life g.world.store id).facts⟩ :=
  congrArg (Life.mk · _ _) present

section Activated

variable {input : ActivateDeviceDTO} {row : Ticket} {siblings : List Ticket}
  {now updatedAt unboundAt : Time}

theorem life_activated (present : g.world.ticket input.ticketId = some row)
    (others : ∀ other ∈ siblings, other.id ≠ input.ticketId) :
    life (Tx.apply ⟨.putTicket input.ticketId (bindDevice input now row.toTicketState) updatedAt ::
      siblings.map fun other => .putTicket other.id (unbindDevice other.toTicketState) unboundAt⟩
        g.world.store) input.ticketId =
      ⟨some (row.updated (bindDevice input now) updatedAt),
        (life g.world.store input.ticketId).logs, (life g.world.store input.ticketId).facts⟩ := by
  rw [life_commit, life_of_ticket present, List.foldl_cons, unbind_others _ siblings unboundAt others]
  simp [Life.write, Ticket.updated]

theorem life_activated_sibling {other : Ticket} (different : other.id ≠ input.ticketId)
    (member : other ∈ siblings)
    (locked : ∀ other ∈ siblings, g.world.ticket other.id = some other) :
    life (Tx.apply ⟨.putTicket input.ticketId (bindDevice input now row.toTicketState) updatedAt ::
      siblings.map fun other => .putTicket other.id (unbindDevice other.toTicketState) unboundAt⟩
        g.world.store) other.id =
      ⟨some (other.updated unbindDevice unboundAt), (life g.world.store other.id).logs,
        (life g.world.store other.id).facts⟩ := by
  have kept (l : Life) : Life.write other.id l
      (.putTicket input.ticketId (bindDevice input now row.toTicketState) updatedAt) = l := by
    simp [Life.write, different]
  rw [life_commit, List.foldl_cons, kept, life_of_ticket (locked other member)]
  refine unbind_row other unboundAt _ _ siblings ?_ other (.inl ⟨member, rfl⟩) rfl
  intro another member' alike
  have there := locked another member'
  rw [alike, locked other member] at there
  exact (Option.some.inj there).symm

theorem life_activated_other (different : t ≠ input.ticketId)
    (unlisted : ∀ other ∈ siblings, other.id ≠ t) :
    life (Tx.apply ⟨.putTicket input.ticketId (bindDevice input now row.toTicketState) updatedAt ::
      siblings.map fun other => .putTicket other.id (unbindDevice other.toTicketState) unboundAt⟩
        g.world.store) t = life g.world.store t := by
  rw [life_commit, List.foldl_cons]
  have kept : Life.write t (life g.world.store t)
      (.putTicket input.ticketId (bindDevice input now row.toTicketState) updatedAt) =
      life g.world.store t := by
    simp [Life.write, different]
  rw [kept]
  exact unbind_others _ siblings unboundAt unlisted

end Activated

theorem Cleaned.others {input : ActivateDeviceDTO} {ticket : Ticket} {siblings : List Ticket}
    (cleaned : Cleaned g i input ticket siblings) {other : Ticket} (member : other ∈ siblings) :
    sibling ticket input.deviceId other = true := by
  obtain ⟨count, w, -, listed⟩ := cleaned
  rw [listed] at member
  exact List.of_mem_filter member

theorem Activation.ticket_id {input : ActivateDeviceDTO} {ticket : Ticket}
    (activation : Activation platform g i input ticket) : ticket.id = input.ticketId := by
  obtain ⟨w, -, found⟩ := activation.read
  exact Table.key_of_get? found

theorem sibling_id {ticket other : Ticket} {deviceId : String}
    (matched : sibling ticket deviceId other = true) : other.id ≠ ticket.id := by
  simp only [sibling, decide_eq_true_eq] at matched
  exact matched.2.2

/-- A commit is a turn in the life of every ticket whose life it changes. -/
theorem Commits.turn {tx : Tx} (commits : Commits platform g i tx) (first : ¬Committed g i) :
    life (tx.apply g.world.store) t = life g.world.store t ∨
      Turn platform g t i (life g.world.store t) (life (tx.apply g.world.store) t) := by
  cases commits with
  | created context data createdAt fact called free enqueued =>
    rw [life_commit]
    have aggregate : fact.payload.aggregateId = ⟨i, 0⟩ := enqueued.aggregate
    by_cases same : t = ⟨i, 0⟩
    · right
      have absent : g.world.store.ticket t = none := same ▸ (taken_eq_false.mp free).1
      have before : life g.world.store t = ⟨none, (life g.world.store t).logs,
          (life g.world.store t).facts⟩ := congrArg (Life.mk · _ _) absent
      rw [before]
      subst same
      simpa [Life.write, newTicket, aggregate] using
        Turn.created context data createdAt fact _ _ rfl called first enqueued
    · left
      simp [Life.write, newTicket, aggregate, same, Ne.symm same]
  | activated input ticket row siblings now updatedAt unboundAt activation present cleaned locked =>
    have others : ∀ other ∈ siblings, other.id ≠ input.ticketId := fun other member =>
      activation.ticket_id ▸ sibling_id (cleaned.others member)
    by_cases same : t = input.ticketId
    · right
      subst same
      rw [life_activated present others, life_of_ticket present]
      exact .bound input ticket row siblings now updatedAt _ _ rfl activation cleaned
    · by_cases listed : ∃ other ∈ siblings, other.id = t
      · right
        obtain ⟨other, member, rfl⟩ := listed
        rw [life_activated_sibling same member locked, life_of_ticket (locked other member)]
        exact .unbound input ticket other siblings unboundAt _ _ same activation cleaned member
          (cleaned.others member)
      · left
        exact life_activated_other same fun other member alike => listed ⟨other, member, alike⟩
  | deleted call ids gone called deletes within rest =>
    rw [life_commit]
    have turn : Turn platform g t i (life g.world.store t) ⟨none, [], (life g.world.store t).facts⟩ :=
      .deleted call _ _ _ called deletes
    by_cases member : t ∈ ids
    · right
      by_cases kept : t ∈ gone
      · simpa [Life.write, member, kept] using turn
      · have absent : (life g.world.store t).row = none := rest t member kept
        simpa [Life.write, member, kept, absent] using turn
    · left
      have kept : t ∉ gone := fun member' => member (within member')
      simp [Life.write, member, kept]
  | empty call => exact .inl rfl
  | revoked context ticketId reason actorId ticket row now updatedAt createdAt fact called read
      granted valid present enqueued =>
    rw [life_commit]
    have aggregate : fact.payload.aggregateId = ticketId := enqueued.aggregate
    by_cases same : t = ticketId
    · right
      subst same
      rw [life_of_ticket present]
      simpa [Life.write, Ticket.updated, aggregate, staffLogRow] using
        Turn.revoked context reason actorId ticket row now updatedAt createdAt fact _ _ called read
          granted valid enqueued
    · left
      simp [Life.write, aggregate, staffLogRow, same, Ne.symm same]
  | presence context ticketId state actorId ticket row checkedInAt updatedAt createdAt fact called
      override present enqueued =>
    rw [life_commit]
    have aggregate : fact.payload.aggregateId = ticketId := enqueued.aggregate
    by_cases same : t = ticketId
    · right
      subst same
      rw [life_of_ticket present]
      simpa [Life.write, Ticket.updated, aggregate, staffLogRow] using
        Turn.presence context state actorId ticket row checkedInAt updatedAt createdAt fact _ _
          called override enqueued
    · left
      simp [Life.write, aggregate, staffLogRow, same, Ne.symm same]
  | reset ticketId actorId ticket row updatedAt createdAt called read granted present =>
    rw [life_commit]
    by_cases same : t = ticketId
    · right
      subst same
      rw [life_of_ticket present]
      simpa [Life.write, Ticket.updated, staffLogRow] using
        Turn.reset actorId ticket row updatedAt createdAt _ _ called read granted
    · left
      simp [Life.write, staffLogRow, same, Ne.symm same]
  | accepted context input payload ticket row checkedInAt updatedAt returnedAt createdAt scanned
      presence called accepted granted present scanned_row presence_row =>
    rw [life_commit]
    have aggregate : scanned.payload.aggregateId = ticket.id := scanned_row.aggregate
    have aggregate' : presence.payload.aggregateId = ticket.id := presence_row.aggregate
    by_cases same : t = ticket.id
    · right
      subst same
      rw [life_of_ticket present]
      simpa [Life.write, Ticket.updated, aggregate, aggregate', scanLogRow,
        TicketService.accepted] using
        Turn.accepted context input payload ticket row checkedInAt updatedAt returnedAt createdAt
          scanned presence _ _ called rfl accepted granted scanned_row presence_row
    · left
      simp [Life.write, aggregate, aggregate', scanLogRow, TicketService.accepted, Ne.symm same, same]
  | rejected context input result createdAt fact called refused read granted present enqueued =>
    rw [life_commit]
    have aggregate : fact.payload.aggregateId = result.ticket.id := enqueued.aggregate
    by_cases same : t = result.ticket.id
    · right
      subst same
      obtain ⟨row, found⟩ := Option.isSome_iff_exists.mp present
      rw [life_of_ticket found]
      simpa [Life.write, aggregate, scanLogRow] using
        Turn.rejected context input result row createdAt fact _ _ called rfl refused read enqueued
    · left
      simp [Life.write, aggregate, scanLogRow, Ne.symm same]

/-- A statement leaves the life of a ticket as it was or revokes the ticket. -/
theorem stmt_turn {stmt : Stmt} {result : stmt.Res} {w : World} {tx tx' : Option Tx}
    (executed : exec platform stmt g.world tx = some (result, w, tx'))
    (issued : Issued platform g i stmt) (t : Uuid) :
    life w.store t = life g.world.store t ∨ ∃ row now updatedAt logs facts,
      life g.world.store t = ⟨some row, logs, facts⟩ ∧
        life w.store t = ⟨some (row.updated (autoRevoked now) updatedAt), logs, facts⟩ := by
  rcases exec_cases executed with ⟨-, tickets, logs, outbox⟩ | ⟨rfl, -⟩ |
    ⟨id, data, row, rfl, found, -, rfl⟩
  · left
    simp [life, Store.ticket, tickets, logs, outbox]
  · exact .inl rfl
  · have after := life_apply (.putTicket id (data row.toTicketState) g.world.clock)
      g.world.store t
    by_cases same : t = id
    · right
      subst same
      obtain ⟨guard, now, -, rfl⟩ := issued
      rw [life_of_ticket found] at after
      refine ⟨row, now, g.world.clock, _, _, life_of_ticket found, after.trans ?_⟩
      simp [Life.write, Ticket.updated]
    · left
      simp only [Life.write, if_neg same] at after
      exact after

/-- Each step of a run is a turn in the life of a ticket or leaves it as it was. -/
theorem Change.turn {actor : Option Nat} (change : Change platform actor g g') (t : Uuid) :
    life g'.world.store t = life g.world.store t ∨
      ∃ i, actor = some i ∧
        Turn platform g t i (life g.world.store t) (life g'.world.store t) := by
  cases change with
  | invoke call => exact .inl rfl
  | environ action => exact .inl (by cases action <;> rfl)
  | stmt i stmt result w tx tx' executed issued =>
    refine (stmt_turn executed issued t).imp id ?_
    rintro ⟨row, now, updatedAt, logs, facts, before, after⟩
    rw [before]
    refine ⟨i, rfl, ?_⟩
    change Turn platform g t i _ (life w.store t)
    rw [after]
    exact .autoRevoked row now updatedAt logs facts
  | commit i tx commits first =>
    exact (commits.turn first).imp id fun turn => ⟨i, rfl, turn⟩
  | rollback i => exact .inl rfl

end TicketService
