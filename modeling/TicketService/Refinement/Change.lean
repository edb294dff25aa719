import TicketService.Interleaving.Guarantee
import TicketService.Model.Calls
import TicketService.Refinement.Locks

set_option autoImplicit false

namespace TicketService

open Interleaving Relational

def Seen (g : Global) (i : Nat) (stmt : Stmt) (result : stmt.Res) (P : World → Prop) : Prop :=
  ∃ w, Event.stmt i stmt result w ∈ g.history ∧ P w

def Committed (g : Global) (i : Nat) : Prop :=
  ∃ tx w, Event.commit i tx w ∈ g.history

def Read (g : Global) (i : Nat) (client : Client) (id : Uuid) (row : Ticket) : Prop :=
  Seen g i (.ticketFindUnique client id) (some row) fun w => w.ticket id = some row

variable (platform : Platform)

def Granted (g : Global) (i : Nat) (permission : EventPermissionKey) (eventId actorId : Uuid) :
    Prop :=
  (∃ access, Seen g i (.accessFindUnique eventId actorId) (some access)
      (fun w => w.access eventId actorId = some access) ∧
    permission ∈ platform.uniqueEventPermissions access.permissions) ∨
  ∃ role, Seen g i (.accessFindUnique eventId actorId) none
      (fun w => w.access eventId actorId = none) ∧
    Seen g i (.roleFindUnique eventId actorId) role (fun w => w.role eventId actorId = role) ∧
    permission ∈ platform.getDefaultPermissionsForEventRole (role.map (·.role))

def Enqueued (context : RequestContext) (id : Uuid) (topic : FactTopic) (fact : FactInput)
    (row : AnalyticsOutbox) : Prop :=
  ∃ tenantId occurredAt createdAt, AnalyticsOutboxService.tenant platform context = some tenantId ∧
    row = AnalyticsOutboxService.row context tenantId id topic
      (AnalyticsOutboxService.payload fact occurredAt) createdAt

theorem Enqueued.aggregate {context : RequestContext} {id : Uuid} {topic : FactTopic}
    {fact : FactInput} {row : AnalyticsOutbox}
    (enqueued : Enqueued platform context id topic fact row) :
    row.payload.aggregateId = fact.aggregateId := by
  obtain ⟨tenantId, occurredAt, createdAt, -, rfl⟩ := enqueued
  rfl

theorem Enqueued.topic {context : RequestContext} {id : Uuid} {topic : FactTopic}
    {fact : FactInput} {row : AnalyticsOutbox}
    (enqueued : Enqueued platform context id topic fact row) : row.topic = topic := by
  obtain ⟨tenantId, occurredAt, createdAt, -, rfl⟩ := enqueued
  rfl

def Unblocked (g : Global) (i : Nat) (ticketId : Uuid) : Prop :=
  ∃ guard, Seen g i (.shareGuardFindUnique ticketId) guard (fun w => w.guard ticketId = guard) ∧
    ∀ blockedUntil ∈ guard.bind (·.blockedUntil),
      ∃ now, Seen g i .now now (fun w => w.clock = now) ∧ blockedUntil ≤ now

/-- What a scan has established about the token and the ticket row that it read when it updates
the ticket. -/
structure Admitted (g : Global) (i : Nat) (input : SecurityScanInput) (payload : QrPayload)
    (ticket : Ticket) : Prop where
  token : Seen g i (.tokenVerify input.token) (some payload) fun w =>
    w.verified input.token = some payload
  read : Read g i .tx payload.tid ticket
  valid : ticket.revoked = false
  unblocked : Unblocked g i ticket.id
  signed : ∃ publicKey, truthy ticket.devicePublicKey = some publicKey ∧
    Seen g i (.verifySignature (VerifyService.signedMessage input.token input.deviceId)
      input.signature publicKey) true fun w =>
        ⟨publicKey, VerifyService.signedMessage input.token input.deviceId, input.signature⟩ ∈
          w.signatures
  device : ticket.deviceId = some input.deviceId
  recent : ticket.lastNonce.any (payload.dn ≤ ·) = false
  nonce : ticket.nextNonce = some payload.dn
  outside : ticket.currentState ≠ intendedState input.direction

-- `new Date()` on entry, else the value that the scan read.
def CheckedIn (ticket : Ticket) (state : PresenceState) (checkedInAt : Option Time) : Prop :=
  match state with
  | .inside => checkedInAt.isSome
  | .outside => checkedInAt = ticket.checkedInAt

def nonceFilter (ticket : Ticket) (payload : QrPayload) (row : Ticket) : Bool :=
  row.id = ticket.id ∧ row.nextNonce = some payload.dn

structure Accepted (g : Global) (i : Nat) (input : SecurityScanInput) (payload : QrPayload)
    (ticket row : Ticket) (checkedInAt : Option Time) : Prop where
  admitted : Admitted g i input payload ticket
  checkedIn : CheckedIn ticket (intendedState input.direction) checkedInAt
  updated : ∃ count, Seen g i (.ticketUpdateMany (nonceFilter ticket payload)
    (VerifyService.acceptedState payload (intendedState input.direction) checkedInAt)) count
      fun w => w.ticket ticket.id = some row
  nonce : row.nextNonce = some payload.dn

def accepted (input : SecurityScanInput) (payload : QrPayload) (ticket : Ticket)
    (checkedInAt : Option Time) (updatedAt : Time) : VerifyResult where
  ticket :=
    { ticket with
      toTicketState := VerifyService.acceptedState payload (intendedState input.direction)
        checkedInAt ticket.toTicketState
      updatedAt := some updatedAt }
  payload := payload
  verdict := .ok
  message := scanMessages .ok

structure Activation (g : Global) (i : Nat) (input : ActivateDeviceDTO) (ticket : Ticket) :
    Prop where
  called : g.calls[i]? = some (.activateDevice input ticket.guestProfileId)
  device : input.deviceId ≠ ""
  key : input.publicKey ≠ ""
  curve : platform.isP256PublicKey input.publicKey
  read : Read g i .tx input.ticketId ticket
  free : TicketWriteService.boundElsewhere ticket input.deviceId = false

-- The clean-up of an `activateDevice` call unbound `siblings`.
def Cleaned (g : Global) (i : Nat) (input : ActivateDeviceDTO) (ticket : Ticket)
    (siblings : List Ticket) : Prop :=
  ∃ count, Seen g i (.ticketUpdateMany (TicketWriteService.sibling ticket input.deviceId)
    TicketWriteService.unbindDevice) count fun w =>
      siblings = w.matching (TicketWriteService.sibling ticket input.deviceId)

structure Override (g : Global) (i : Nat) (ticketId : Uuid) (state : PresenceState)
    (actorId : Uuid) (ticket row : Ticket) (checkedInAt : Option Time) : Prop where
  read : Read g i .prisma ticketId ticket
  granted : Granted platform g i .scanTickets ticket.eventId actorId
  valid : ticket.revoked = false
  other : ticket.currentState ≠ state
  checkedIn : checkedInAt.isSome = true ↔ state = .inside ∧ ticket.checkedInAt = none
  updated : ∃ result, Seen g i
    (.ticketUpdate .tx ticketId (TicketWriteService.presenceState state checkedInAt)) result
      fun w => w.ticket ticketId = some row

def Call.deletes : Call → Bool
  | .delete .. => true
  | .deleteByEventIds _ => true
  | .deleteByGuestId _ => true
  | _ => false

open EventRoleHandler in
-- Call number `i` has handled an access message: it has stored the row of the message, or it has
-- found a newer one.
def Handled (g : Global) (i : Nat) (payload : EventAccessDTO) : Prop :=
  (∃ result, Seen g i (.accessUpsert (accessRow payload) (accessData payload)) result fun _ => True) ∨
    ∃ existing, Seen g i (.accessFindUnique payload.eventId payload.userId) existing
        (fun w => w.access payload.eventId payload.userId = existing) ∧
      stale (existing.bind (·.occurredAt)) payload.occurredAt = true

def Call.Answered (g : Global) (i : Nat) : Call → Prop
  | .activateDevice .. => Committed g i
  | .userAccessChanged payload => Handled g i payload
  | _ => True

open AnalyticsOutboxService EventRoleHandler ScanService ShareGuardService TicketWriteService
  VerifyService

inductive Commits (g : Global) (i : Nat) : Tx → Prop where
  | created (context : RequestContext) (data : CreateTicketInput) (createdAt : Time)
      (fact : AnalyticsOutbox) :
      g.calls[i]? = some (.createTicket context data) →
      g.world.taken (newTicket ⟨i, 0⟩ data createdAt) = false →
      Enqueued platform context ⟨i, 1⟩ .ticketGenerated
        (generatedFact (newTicket ⟨i, 0⟩ data createdAt)) fact →
      Commits g i ⟨[.insertTicket (newTicket ⟨i, 0⟩ data createdAt), .insertOutbox fact]⟩
  | activated (input : ActivateDeviceDTO) (ticket row : Ticket) (siblings : List Ticket)
      (now updatedAt unboundAt : Time) :
      Activation platform g i input ticket →
      g.world.ticket input.ticketId = some row →
      Cleaned g i input ticket siblings →
      (∀ other ∈ siblings, g.world.ticket other.id = some other) →
      Commits g i
        ⟨.putTicket input.ticketId (bindDevice input now row.toTicketState) updatedAt ::
          siblings.map fun other =>
            .putTicket other.id (unbindDevice other.toTicketState) unboundAt⟩
  | deleted (call : Call) (ids gone : List Uuid) :
      g.calls[i]? = some call → call.deletes →
      gone ⊆ ids → (∀ id ∈ ids, id ∉ gone → g.world.ticket id = none) →
      Commits g i ⟨[.deleteScanLogs ids, .deleteShareGuards ids, .deleteTickets gone]⟩
  | empty (call : Call) : g.calls[i]? = some call → call.deletes → Commits g i ⟨[]⟩
  | revoked (context : RequestContext) (ticketId : Uuid) (reason : Option String) (actorId : Uuid)
      (ticket row : Ticket) (now updatedAt createdAt : Time) (fact : AnalyticsOutbox) :
      g.calls[i]? = some (.revoke context ticketId reason actorId) →
      Read g i .prisma ticketId ticket →
      Granted platform g i .manageTickets ticket.eventId actorId →
      ticket.revoked = false →
      g.world.ticket ticketId = some row →
      Enqueued platform context ⟨i, 1⟩ .ticketRevoked (revokedFact ticketId ticket) fact →
      Commits g i
        ⟨[.putTicket ticketId (revokedState now actorId reason row.toTicketState) updatedAt,
          .insertScanLog
            (staffLogRow ⟨i, 0⟩ ticketId ticket actorId .outside .revoked none none createdAt),
          .insertOutbox fact]⟩
  | presence (context : RequestContext) (ticketId : Uuid) (state : PresenceState) (actorId : Uuid)
      (ticket row : Ticket) (checkedInAt : Option Time) (updatedAt createdAt : Time)
      (fact : AnalyticsOutbox) :
      g.calls[i]? = some (.updatePresence context ticketId state actorId) →
      Override platform g i ticketId state actorId ticket row checkedInAt →
      g.world.ticket ticketId = some row →
      Enqueued platform context ⟨i, 1⟩ (presenceTopic state) (presenceFact ticketId ticket state)
        fact →
      Commits g i
        ⟨[.putTicket ticketId (presenceState state checkedInAt row.toTicketState) updatedAt,
          .insertScanLog
            (staffLogRow ⟨i, 0⟩ ticketId ticket actorId state .ok (some "MANUAL") none createdAt),
          .insertOutbox fact]⟩
  | reset (ticketId actorId : Uuid) (ticket row : Ticket) (updatedAt createdAt : Time) :
      g.calls[i]? = some (.resetDeviceBinding ticketId actorId) →
      Read g i .prisma ticketId ticket →
      Granted platform g i .manageTickets ticket.eventId actorId →
      g.world.ticket ticketId = some row →
      Commits g i
        ⟨[.putTicket ticketId (unbindDevice row.toTicketState) updatedAt,
          .insertScanLog
            (staffLogRow ⟨i, 0⟩ ticketId ticket actorId .outside .unknown (some "MANUAL")
              ticket.deviceId createdAt)]⟩
  | accepted (context : RequestContext) (input : SecurityScanInput) (payload : QrPayload)
      (ticket row : Ticket) (checkedInAt : Option Time) (updatedAt returnedAt createdAt : Time)
      (scanned presence : AnalyticsOutbox) :
      g.calls[i]? = some (.scan context input) →
      Accepted g i input payload ticket row checkedInAt →
      Granted platform g i .scanTickets ticket.eventId input.actorId →
      g.world.ticket ticket.id = some row →
      Enqueued platform context ⟨i, 1⟩ .ticketScanSucceeded (scanFact ticket .ok input) scanned →
      Enqueued platform context ⟨i, 2⟩ (presenceTopic (intendedState input.direction))
        (presenceFact ticket.id ticket (intendedState input.direction)) presence →
      Commits g i
        ⟨[.putTicket ticket.id (acceptedState payload (intendedState input.direction) checkedInAt
            row.toTicketState) updatedAt,
          .insertScanLog (scanLogRow ⟨i, 0⟩
            (TicketService.accepted input payload ticket checkedInAt returnedAt) input createdAt),
          .insertOutbox scanned, .insertOutbox presence]⟩
  | rejected (context : RequestContext) (input : SecurityScanInput) (result : VerifyResult)
      (createdAt : Time) (fact : AnalyticsOutbox) :
      g.calls[i]? = some (.scan context input) →
      result.verdict ≠ .ok →
      Read g i .tx result.payload.tid result.ticket →
      Granted platform g i .scanTickets result.ticket.eventId input.actorId →
      (g.world.ticket result.ticket.id).isSome →
      Enqueued platform context ⟨i, 1⟩ .ticketScanRejected
        (scanFact result.ticket result.verdict input) fact →
      Commits g i
        ⟨[.insertScanLog (scanLogRow ⟨i, 0⟩ result input createdAt), .insertOutbox fact]⟩

theorem Commits.called {g : Global} {i : Nat} {tx : Tx} (commits : Commits platform g i tx) :
    i < g.calls.length := by
  have within {call : Call} (called : g.calls[i]? = some call) : i < g.calls.length :=
    (List.getElem?_eq_some_iff.mp called).1
  cases commits with
  | created _ _ _ _ called => exact within called
  | activated _ _ _ _ _ _ _ activation => exact within activation.called
  | deleted _ _ _ called => exact within called
  | empty _ called => exact within called
  | revoked _ _ _ _ _ _ _ _ _ _ called => exact within called
  | presence _ _ _ _ _ _ _ _ _ _ called => exact within called
  | reset _ _ _ _ _ _ called => exact within called
  | accepted _ _ _ _ _ _ _ _ _ _ _ called => exact within called
  | rejected _ _ _ _ _ called => exact within called

def Issued (g : Global) (i : Nat) : Stmt → Prop
  | .tokenGenerate payload =>
    ∃ ticketId actorId ticket dn ts minted, g.calls[i]? = some (.generateToken ticketId actorId) ∧
      Read g i .prisma ticketId ticket ∧ ticket.guestProfileId = actorId ∧
      ticket.nextNonce = some dn ∧
      payload = { tokenPayload platform ticket dn ts with
        ts := minted, kid := some platform.activeKid }
  | .ticketUpdate .prisma id data =>
    ∃ guard now, Seen g i (.shareGuardUpsert id) guard (fun _ => True) ∧ data = autoRevoked now
  | .shareGuardUpdate id data =>
    data = cleared ∨ ∃ guard now reason, Seen g i (.shareGuardUpsert id) guard (fun _ => True) ∧
      guard.failCount + 1 < revokeThreshold ∧
      (data = failed now (guard.failCount + 1) reason ∨
        data = blocked now (guard.failCount + 1) reason)
  | .accessUpsert row data =>
    ∃ payload existing, g.calls[i]? = some (.userAccessChanged payload) ∧
      Seen g i (.accessFindUnique payload.eventId payload.userId) existing
        (fun w => w.access payload.eventId payload.userId = existing) ∧
      stale (existing.bind (·.occurredAt)) payload.occurredAt = false ∧
      row = accessRow payload ∧ data = accessData payload
  | .accessDeleteMany eventIds => g.calls[i]? = some (.eventDeleted eventIds)
  | _ => True

inductive Change : Option Nat → Global → Global → Prop where
  | invoke {g : Global} (call : Call) : Change none g (g.invoke call)
  | environ {g : Global} (action : EnvAct) :
      Change none g (g.environ (engine platform) action)
  | stmt {g : Global} (i : Nat) (stmt : Stmt) (result : stmt.Res) (w : World)
      (tx tx' : Option Tx) :
      exec platform stmt g.world tx = some (result, w, tx') → Issued platform g i stmt →
      Change (some i) g (g.record i stmt result w)
  | commit {g : Global} (i : Nat) (tx : Tx) :
      Commits platform g i tx → ¬Committed g i →
      Change (some i) g (g.commit (engine platform) i tx)
  | rollback {g : Global} (i : Nat) : Change (some i) g (g.rollback i)

end TicketService
