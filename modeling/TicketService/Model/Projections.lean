import TicketService.Model.Scan

set_option autoImplicit false

namespace TicketService

open Interleaving

namespace EventRoleHandler

-- `existing?.at && occurredAt < existing.at`
def stale (existing : Option Time) (occurredAt : Time) : Bool :=
  existing.any (occurredAt < ·)

def accessRow (payload : EventAccessDTO) : EventAccessProjection where
  eventId := payload.eventId
  userId := payload.userId
  permissions := payload.permissions
  roles := payload.roles
  occurredAt := some payload.occurredAt
  updatedAt := none

-- Roles that are `undefined` in the message keep their value.
def accessData (payload : EventAccessDTO) (row : EventAccessProjection) : EventAccessProjection :=
  { row with
    permissions := payload.permissions
    roles := payload.roles.or row.roles
    occurredAt := some payload.occurredAt }

def handleUserAccessChanged (payload : EventAccessDTO) : Program Unit := do
  let existing : Option EventAccessProjection ←
    issue (.accessFindUnique payload.eventId payload.userId)
  if stale (existing.bind (·.occurredAt)) payload.occurredAt then .done ()
  else discard (.accessUpsert (accessRow payload) (accessData payload))

def roleRow (eventId userId : Uuid) (role : EventRoleType) : EventRoleProjection where
  eventId := eventId
  userId := userId
  role := role
  updatedAt := none

def handleRoleAssigned (payload : EventRoleAssignedDTO) : Program Unit := do
  let existing : Option EventRoleProjection ←
    issue (.roleFindUnique payload.eventId payload.userId)
  if stale (existing.bind (·.updatedAt)) payload.occurredAt then .done ()
  else discard (.roleUpsert (roleRow payload.eventId payload.userId payload.role))

def handleRoleRemoved (payload : EventRoleRemovedDTO) : Program Unit := do
  let existing : Option EventRoleProjection ←
    issue (.roleFindUnique payload.eventId payload.userId)
  if stale (existing.bind (·.updatedAt)) payload.occurredAt then .done ()
  else discard (.roleDeleteMany fun key => key = (payload.eventId, payload.userId))

def removeOldOwner (payload : EventOwnerChangedDTO) (oldOwnerId : Uuid) : Program Unit := do
  let existing : Option EventRoleProjection ←
    issue (.roleFindUnique payload.eventId oldOwnerId)
  if stale (existing.bind (·.updatedAt)) payload.occurredAt then .done ()
  else discard (.roleDeleteMany fun key => key = (payload.eventId, oldOwnerId))

def promoteNewOwner (payload : EventOwnerChangedDTO) : Program Unit := do
  let existing : Option EventRoleProjection ←
    issue (.roleFindUnique payload.eventId payload.newOwnerId)
  if stale (existing.bind (·.updatedAt)) payload.occurredAt then .done ()
  else discard (.roleUpsert (roleRow payload.eventId payload.newOwnerId .admin))

def handleOwnerChanged (payload : EventOwnerChangedDTO) : Program Unit := do
  match payload.oldOwnerId with
  | some oldOwnerId =>
    removeOldOwner payload oldOwnerId
    promoteNewOwner payload
  | none => promoteNewOwner payload

-- `Promise.all` starts all three deletions, and rejects if one of them fails.
def handleEventDeleted (eventIds : List Uuid) : Program Unit := do
  let roles ← attempt (.roleDeleteMany fun key => key.1 ∈ eventIds)
  let settings ← attempt (.settingsDeleteMany eventIds)
  let access ← attempt (.accessDeleteMany eventIds)
  if roles && settings && access then .done () else .throw .statementFailed

end EventRoleHandler

namespace EventSettingsHandler

def createdRow (payload : EventCreatedDTO) : EventSettingsProjection where
  eventId := payload.eventId
  name := some payload.name
  endsAt := payload.endsAt
  startsAt := payload.startsAt
  ticketReleaseAt := payload.ticketReleaseAt
  updatedAt := none

def handleEventCreated (payload : EventCreatedDTO) : Program Unit :=
  discard (.settingsUpsert (createdRow payload) fun _ => createdRow payload)

def updatedRow (payload : EventUpdatedDTO) : EventSettingsProjection where
  eventId := payload.eventId
  name := payload.name
  endsAt := payload.endsAt.join
  startsAt := payload.startsAt.join
  ticketReleaseAt := payload.ticketReleaseAt.join
  updatedAt := none

-- A field that is `undefined` in the message keeps its value.
def updatedData (payload : EventUpdatedDTO) (row : EventSettingsProjection) :
    EventSettingsProjection :=
  { row with
    name := payload.name.or row.name
    endsAt := payload.endsAt.getD row.endsAt
    startsAt := payload.startsAt.getD row.startsAt
    ticketReleaseAt := payload.ticketReleaseAt.getD row.ticketReleaseAt }

def handleEventUpdated (payload : EventUpdatedDTO) : Program Unit := do
  let existing : Option EventSettingsProjection ← issue (.settingsFindUnique payload.eventId)
  if EventRoleHandler.stale (existing.bind (·.updatedAt)) payload.occurredAt then .done ()
  else discard (.settingsUpsert (updatedRow payload) (updatedData payload))

end EventSettingsHandler

namespace TicketReadService

def findById (id : Uuid) : Program Ticket := do
  let row : Option Ticket ← issue (.ticketFindUnique .prisma id)
  match row with
  | none => .throw (.ticketNotFound id)
  | some row => .done row

def findByInvitation (invitationId : Uuid) : Program Ticket := do
  let row : Option Ticket ← issue (.ticketFindByInvitation invitationId)
  match row with
  | none => .throw (.ticketNotFound invitationId)
  | some row => .done row

def isAdmin (eventRole : Option EventRoleType) : Bool :=
  eventRole = some .admin

def assertReadable (ticket : Ticket) (id actorId : Uuid) (eventRole : Option EventRoleType) :
    Program Ticket :=
  if ticket.guestProfileId ≠ actorId ∧ ¬isAdmin eventRole then
    .throw (.ticketAccessDenied id "ticket-owner-mismatch")
  else .done ticket

def findByIdForActor (id actorId : Uuid) (eventRole : Option EventRoleType) : Program Ticket := do
  let ticket ← findById id
  assertReadable ticket id actorId eventRole

def findByInvitationForActor (invitationId actorId : Uuid) (eventRole : Option EventRoleType) :
    Program Ticket := do
  let ticket ← findByInvitation invitationId
  assertReadable ticket ticket.id actorId eventRole

def scanLogs (ticketId : Uuid) : Program (List ScanLog) := do
  issue (.scanLogFindMany ticketId)

def scanLogsForActor (ticketId actorId : Uuid) (eventRole : Option EventRoleType) :
    Program (List ScanLog) := do
  let _ ← findByIdForActor ticketId actorId eventRole
  scanLogs ticketId

end TicketReadService

namespace TicketQueryResolver

open TicketEventRoleResolver TicketReadService

def ticketById (id userId : Uuid) : Program Ticket := do
  let ticket ← findById id
  let eventRole ← getRoleForUser userId ticket.eventId
  findByIdForActor id userId eventRole

def ticketByInvitation (invitationId userId : Uuid) : Program Ticket := do
  let ticket ← findByInvitation invitationId
  let eventRole ← getRoleForUser userId ticket.eventId
  findByInvitationForActor invitationId userId eventRole

def scanLogsByTicket (ticketId userId : Uuid) : Program (List ScanLog) := do
  let ticket ← findById ticketId
  let eventRole ← getRoleForUser userId ticket.eventId
  scanLogsForActor ticketId userId eventRole

end TicketQueryResolver

end TicketService
