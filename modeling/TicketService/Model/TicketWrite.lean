import TicketService.Model.Scan

set_option autoImplicit false

namespace TicketService

open Interleaving

namespace TicketWriteService

open AnalyticsOutboxService ScanService TicketEventRoleResolver TokenService

variable (platform : Platform)

def publishMilestone (payload : EventMilestoneRecordedDTO) (context : RequestContext) :
    Program Unit :=
  discard (.send
    (.milestoneRecorded payload (messageMeta platform context context.principalActorId)))

def assertManageTicket (eventId actorId : Uuid) : Program Unit := do
  let permissions ← getPermissionsForUser platform actorId eventId
  if .manageTickets ∈ permissions then .done ()
  else
    .throw (.eventAccessDenied eventId actorId "event-permission-mismatch" permissions
      [.manageTickets])

def newTicket (id : Uuid) (data : CreateTicketInput) (createdAt : Time) : Ticket where
  id := id
  eventId := data.eventId
  invitationId := data.invitationId
  guestProfileId := data.userId
  seatId := data.seatId
  devicePublicKey := none
  deviceActivationAt := none
  deviceActivationIP := none
  deviceId := none
  lastNonce := none
  nextNonce := some 1
  checkedInAt := none
  currentState := .outside
  revoked := false
  revokedAt := none
  revokedBy := none
  revokedReason := none
  createdAt := createdAt
  updatedAt := some createdAt

def generatedFact (ticket : Ticket) : FactInput where
  eventName := .ticketGenerated
  aggregateId := ticket.id
  aggregateType := "Ticket"
  subjectId := ticket.guestProfileId
  properties :=
    -- `seatId` is a UUID and so never empty.
    { ticketId := ticket.id, eventId := ticket.eventId, hasSeat := some true }

def generatedMilestone (ticket : Ticket) : EventMilestoneRecordedDTO where
  eventId := ticket.eventId
  milestoneId := ⟨ticket.id, "generated"⟩
  type := .ticketGenerated
  label := "Ticket generated"
  occurredAt := ticket.createdAt
  referenceId := ticket.id

def createTransaction (uuid : Nat → Uuid) (context : RequestContext) (data : CreateTicketInput) :
    Program Ticket := do
  let result : Ticket ← issue (.ticketCreate (newTicket (uuid 0) data))
  enqueue platform context (uuid 1) .ticketGenerated (generatedFact result)
  .done result

def createTicket (uuid : Nat → Uuid) (context : RequestContext) (data : CreateTicketInput) :
    Program Ticket := do
  let existing : Option Ticket ← issue (.ticketFindByInvitation data.invitationId)
  match existing with
  | some existing =>
    if existing.eventId ≠ data.eventId ∨ existing.guestProfileId ≠ data.userId ∨
        existing.seatId ≠ data.seatId then
      .throw (.ticketAlreadyExists data.invitationId)
    else
      publishMilestone platform (generatedMilestone existing) context
      .done existing
  | none =>
    let created ← transaction (createTransaction platform uuid context data)
    publishMilestone platform (generatedMilestone created) context
    .done created

-- An address that is `undefined` in the input is left as it was.
def bindDevice (input : ActivateDeviceDTO) (now : Time) (row : TicketState) : TicketState :=
  { row with
    devicePublicKey := some input.publicKey
    deviceId := some input.deviceId
    deviceActivationAt := some now
    deviceActivationIP := input.ip.or row.deviceActivationIP }

def unbindDevice (row : TicketState) : TicketState :=
  { row with
    devicePublicKey := none
    deviceId := none
    deviceActivationAt := none
    deviceActivationIP := none }

-- `ticket.deviceId && ticket.devicePublicKey && ticket.deviceId !== deviceId`
def boundElsewhere (ticket : Ticket) (deviceId : String) : Bool :=
  (truthy ticket.deviceId).isSome && (truthy ticket.devicePublicKey).isSome &&
    ticket.deviceId ≠ some deviceId

def sibling (ticket : Ticket) (deviceId : String) (row : Ticket) : Bool :=
  row.eventId = ticket.eventId ∧ row.deviceId = some deviceId ∧ row.id ≠ ticket.id

def activateTransaction (input : ActivateDeviceDTO) (actorId : Uuid) : Program Ticket := do
  let ticket : Option Ticket ← issue (.ticketFindUnique .tx input.ticketId)
  match ticket with
  | none => .throw (.ticketNotFound input.ticketId)
  | some ticket =>
    if ticket.guestProfileId ≠ actorId then
      .throw (.ticketAccessDenied input.ticketId "device-binding-owner-mismatch")
    else if boundElsewhere ticket input.deviceId then
      .throw (.ticketDeviceAlreadyBound input.ticketId)
    else if ¬platform.isP256PublicKey input.publicKey then
      .throw (.ticketDeviceKeyInvalid input.ticketId)
    else
      let now : Time ← issue .now
      let updated : Ticket ← issue (.ticketUpdate .tx ticket.id (bindDevice input now))
      let _ : Nat ← issue (.ticketUpdateMany (sibling ticket input.deviceId) unbindDevice)
      .done updated

def activateDevice (input : ActivateDeviceDTO) (actorId : Uuid) : Program Ticket :=
  transaction (activateTransaction platform input actorId)

def tokenPayload (ticket : Ticket) (dn : Nat) (ts : Time) : QrPayload where
  tid := ticket.id
  eid := ticket.eventId
  gid := ticket.guestProfileId
  sid := ticket.seatId
  dn := dn
  ts := ts
  dh := (truthy ticket.deviceId).map (hashDevice platform)
  kid := none

def generateToken (ticketId actorId : Uuid) : Program String := do
  let ticket : Option Ticket ← issue (.ticketFindUnique .prisma ticketId)
  match ticket with
  | none => .throw (.ticketNotFound ticketId)
  | some ticket =>
    if ticket.guestProfileId ≠ actorId then
      .throw (.ticketAccessDenied ticketId "token-owner-mismatch")
    else
      match ticket.nextNonce with
      | none => .throw (.ticketNonceUninitialized ticketId)
      | some nextNonce =>
        let ts : Time ← issue .now
        generate platform (tokenPayload platform ticket nextNonce ts)

def deleteTransaction (ticketId : Uuid) : Program Unit := do
  discard (.scanLogDeleteMany [ticketId])
  discard (.shareGuardDeleteMany [ticketId])
  discard (.ticketDelete ticketId)

def delete (ticketId actorId : Uuid) : Program Unit := do
  let ticket : Option Ticket ← issue (.ticketFindUnique .prisma ticketId)
  match ticket with
  | none => .throw (.ticketNotFound ticketId)
  | some ticket =>
    assertManageTicket platform ticket.eventId actorId
    transaction (deleteTransaction ticketId)

def deleteWhere (filter : Ticket → Bool) : Program Unit := do
  let ticketIds : List Uuid ← issue (.ticketFindIds filter)
  if ticketIds = [] then .done ()
  else
    discard (.scanLogDeleteMany ticketIds)
    discard (.shareGuardDeleteMany ticketIds)
    discard (.ticketDeleteMany ticketIds)

def deleteByEventIds (eventIds : List Uuid) : Program Unit :=
  if eventIds = [] then .done ()
  else transaction (deleteWhere fun row => row.eventId ∈ eventIds)

def deleteByGuestId (guestId : Uuid) : Program Unit :=
  transaction (deleteWhere fun row => row.guestProfileId = guestId)

def revokedMilestone (ticket : Ticket) (occurredAt : Time) : EventMilestoneRecordedDTO where
  eventId := ticket.eventId
  milestoneId := ⟨ticket.id, "revoked"⟩
  type := .ticketRevoked
  label := "Ticket revoked"
  occurredAt := occurredAt
  referenceId := ticket.id

def publishRevokedMilestone (ticket : Ticket) (context : RequestContext) : Program Unit :=
  match ticket.revokedAt.or ticket.updatedAt with
  | some occurredAt => publishMilestone platform (revokedMilestone ticket occurredAt) context
  | none => do
    let now : Time ← issue .now
    publishMilestone platform (revokedMilestone ticket now) context

def revokedState (now : Time) (actorId : Uuid) (reason : Option String) (row : TicketState) :
    TicketState :=
  { row with
    revoked := true
    currentState := .outside
    revokedAt := some now
    revokedBy := some actorId
    revokedReason := some (reason.getD "Manual revoke") }

def revokedFact (ticketId : Uuid) (ticket : Ticket) : FactInput where
  eventName := .ticketRevoked
  aggregateId := ticketId
  aggregateType := "Ticket"
  subjectId := ticket.guestProfileId
  properties := { ticketId, eventId := ticket.eventId }

def staffLogRow (id ticketId : Uuid) (ticket : Ticket) (actorId : Uuid)
    (direction : PresenceState) (verdict : ScanVerdict) (gate deviceId : Option String)
    (createdAt : Time) : ScanLog where
  id := id
  ticketId := ticketId
  eventId := ticket.eventId
  actorId := actorId
  direction := direction
  gate := gate
  verdict := verdict
  nonce := none
  deviceId := deviceId
  createdAt := createdAt

def revokeTransaction (uuid : Nat → Uuid) (context : RequestContext) (ticketId actorId : Uuid)
    (reason : Option String) (now : Time) (ticket : Ticket) : Program Ticket := do
  let result : Ticket ← issue (.ticketUpdate .tx ticketId (revokedState now actorId reason))
  let _ : ScanLog ← issue (.scanLogCreate
    (staffLogRow (uuid 0) ticketId ticket actorId .outside .revoked none none))
  enqueue platform context (uuid 1) .ticketRevoked (revokedFact ticketId ticket)
  .done result

def revoke (uuid : Nat → Uuid) (context : RequestContext) (ticketId : Uuid)
    (reason : Option String) (actorId : Uuid) : Program Ticket := do
  let now : Time ← issue .now
  let ticket : Option Ticket ← issue (.ticketFindUnique .prisma ticketId)
  match ticket with
  | none => .throw (.ticketNotFound ticketId)
  | some ticket =>
    assertManageTicket platform ticket.eventId actorId
    if ticket.revoked then
      publishRevokedMilestone platform ticket context
      .done ticket
    else
      let updated ← transaction
        (revokeTransaction platform uuid context ticketId actorId reason now ticket)
      publishRevokedMilestone platform updated context
      .done updated

-- `...(state === INSIDE && !ticket.checkedInAt ? { checkedInAt: new Date() } : {})`
def firstCheckIn (ticket : Ticket) (state : PresenceState) : Program (Option Time) :=
  if state = .inside ∧ ticket.checkedInAt = none then do
    let now : Time ← issue .now
    .done (some now)
  else .done none

def presenceState (state : PresenceState) (checkedInAt : Option Time) (row : TicketState) :
    TicketState :=
  { row with currentState := state, checkedInAt := checkedInAt.or row.checkedInAt }

def presenceTransaction (uuid : Nat → Uuid) (context : RequestContext) (ticketId : Uuid)
    (state : PresenceState) (actorId : Uuid) (ticket : Ticket) : Program Ticket := do
  let checkedInAt ← firstCheckIn ticket state
  let result : Ticket ← issue (.ticketUpdate .tx ticketId (presenceState state checkedInAt))
  let _ : ScanLog ← issue (.scanLogCreate
    (staffLogRow (uuid 0) ticketId ticket actorId state .ok (some "MANUAL") none))
  enqueue platform context (uuid 1) (presenceTopic state) (presenceFact ticketId ticket state)
  .done result

def updatePresence (uuid : Nat → Uuid) (context : RequestContext) (ticketId : Uuid)
    (state : PresenceState) (actorId : Uuid) : Program Ticket := do
  let ticket : Option Ticket ← issue (.ticketFindUnique .prisma ticketId)
  match ticket with
  | none => .throw (.ticketNotFound ticketId)
  | some ticket =>
    let permissions ← getPermissionsForUser platform actorId ticket.eventId
    if .scanTickets ∉ permissions then
      .throw (.eventAccessDenied ticket.eventId actorId "event-permission-mismatch" permissions
        [.scanTickets])
    else if ticket.revoked then .throw (.ticketAccessDenied ticketId "ticket-revoked")
    else if ticket.currentState = state then .done ticket
    else
      transaction (presenceTransaction platform uuid context ticketId state actorId ticket)

def resetTransaction (uuid : Nat → Uuid) (ticketId actorId : Uuid) (ticket : Ticket) :
    Program Ticket := do
  let result : Ticket ← issue (.ticketUpdate .tx ticketId unbindDevice)
  let _ : ScanLog ← issue (.scanLogCreate
    (staffLogRow (uuid 0) ticketId ticket actorId .outside .unknown (some "MANUAL")
      ticket.deviceId))
  .done result

def resetDeviceBinding (uuid : Nat → Uuid) (ticketId actorId : Uuid) : Program Ticket := do
  let ticket : Option Ticket ← issue (.ticketFindUnique .prisma ticketId)
  match ticket with
  | none => .throw (.ticketNotFound ticketId)
  | some ticket =>
    assertManageTicket platform ticket.eventId actorId
    if truthy ticket.deviceId = none ∧ truthy ticket.devicePublicKey = none then .done ticket
    else transaction (resetTransaction uuid ticketId actorId ticket)

end TicketWriteService

end TicketService
