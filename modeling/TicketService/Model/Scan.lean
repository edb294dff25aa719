import TicketService.Model.Store

set_option autoImplicit false

namespace TicketService

open Interleaving

abbrev Program := Prog statements Exn

def issue (stmt : Stmt) : Program stmt.Res :=
  @Prog.perform statements Exn .statementFailed stmt

def discard (stmt : Stmt) : Program Unit := do
  let _ ← issue stmt
  .done ()

def attempt (stmt : Stmt) : Program Bool :=
  .call stmt fun result => .done result.isSome

def transaction {α : Type} (body : Program α) : Program α :=
  Prog.transaction .statementFailed body

variable (platform : Platform)

namespace TokenService

def hashDevice (deviceId : String) : String :=
  platform.sha256Hex deviceId

def verifyDeviceHash (deviceId : String) (dh : Option String) : Bool :=
  match truthy dh with
  | none => true
  | some dh => hashDevice platform deviceId = dh

def generate (payload : QrPayload) : Program String := do
  let ts : Time ← issue .now
  issue (.tokenGenerate { payload with ts, kid := some platform.activeKid })

def verify (token : String) : Program QrPayload := do
  let payload : Option QrPayload ← issue (.tokenVerify token)
  match payload with
  | some payload => .done payload
  | none => .throw .ticketTokenInvalid

end TokenService

namespace ShareGuardService

def baseThreshold : Nat := 3

def blockTtlMs : Nat := 5 * 60 * 1000

def revokeThreshold : Nat := 10

def systemActor : Uuid := ⟨0x8822d655e7117194bd65aaa5bf5f254c, 0⟩

def cleared (row : ShareGuard) : ShareGuard :=
  { row with failCount := 0, blockedUntil := none, reason := none }

def resetShareGuard (ticketId : Uuid) : Program (Option ShareGuard) := do
  let guard : Option ShareGuard ← issue (.shareGuardFindUnique ticketId)
  match guard with
  | none => .done none
  | some _ =>
    let updated : ShareGuard ← issue (.shareGuardUpdate ticketId cleared)
    .done (some updated)

def isBlocked (ticketId : Uuid) : Program Bool := do
  let guard : Option ShareGuard ← issue (.shareGuardFindUnique ticketId)
  match guard.bind (·.blockedUntil) with
  | none => .done false
  | some blockedUntil =>
    let now : Time ← issue .now
    .done (now < blockedUntil)

def mapReason (input : RiskInput) : String :=
  if input.invalidSignature then "INVALID_SIGNATURE"
  else if input.deviceMismatch then "DEVICE_MISMATCH"
  else if input.replay then "REPLAY_ATTACK"
  else if input.invalidNonce then "INVALID_NONCE"
  else "UNKNOWN"

def score (input : RiskInput) : Nat :=
  (if input.invalidSignature then 5 else 0) + (if input.deviceMismatch then 4 else 0) +
    (if input.replay then 3 else 0) + (if input.invalidNonce then 2 else 0) +
    (if input.rapidScan then 2 else 0)

def calculateRisk (input : RiskInput) : RiskResult where
  score := score input
  shouldBlock := score input ≥ baseThreshold
  shouldRevoke := score input ≥ revokeThreshold
  reason := mapReason input

def autoRevoked (now : Time) (row : TicketState) : TicketState :=
  { row with
    revoked := true
    currentState := .outside
    revokedAt := some now
    revokedBy := some systemActor }

def failed (now : Time) (failCount : Nat) (reason : String) (row : ShareGuard) : ShareGuard :=
  { row with failCount := failCount, lastFailAt := some now, reason := some reason }

def blocked (now : Time) (failCount : Nat) (reason : String) (row : ShareGuard) : ShareGuard :=
  { failed now failCount reason row with blockedUntil := some (now + blockTtlMs) }

def applyDecision (ticketId : Uuid) (result : RiskResult) : Program Unit := do
  let now : Time ← issue .now
  let guard : ShareGuard ← issue (.shareGuardUpsert ticketId)
  let failCount := guard.failCount + 1
  if result.shouldRevoke ∨ failCount ≥ revokeThreshold then
    let _ : Ticket ← issue (.ticketUpdate .prisma ticketId (autoRevoked now))
    .done ()
  else if result.shouldBlock ∨ failCount ≥ baseThreshold then
    let _ : ShareGuard ← issue (.shareGuardUpdate ticketId (blocked now failCount result.reason))
    .done ()
  else
    let _ : ShareGuard ← issue (.shareGuardUpdate ticketId (failed now failCount result.reason))
    .done ()

end ShareGuardService

namespace TicketEventRoleResolver

def getRoleForUser (userId eventId : Uuid) : Program (Option EventRoleType) := do
  let row : Option EventRoleProjection ← issue (.roleFindUnique eventId userId)
  .done (row.map (·.role))

def getPermissionsForUser (userId eventId : Uuid) : Program (List EventPermissionKey) := do
  let access : Option EventAccessProjection ← issue (.accessFindUnique eventId userId)
  match access with
  | some access => .done (platform.uniqueEventPermissions access.permissions)
  | none =>
    let role ← getRoleForUser userId eventId
    .done (platform.getDefaultPermissionsForEventRole role)

end TicketEventRoleResolver

structure FactInput where
  eventName : FactEventName
  aggregateId : Uuid
  aggregateType : String
  subjectId : Uuid
  properties : FactProperties
deriving DecidableEq, Repr

namespace AnalyticsOutboxService

def tenant (context : RequestContext) : Option String :=
  (truthy context.tenantId).filter platform.isUUID

def payload (fact : FactInput) (occurredAt : Time) : AnalyticsDomainFact where
  producer := "ticket"
  occurredAt := occurredAt
  eventName := fact.eventName
  aggregateId := fact.aggregateId
  aggregateType := fact.aggregateType
  subjectId := fact.subjectId
  properties := fact.properties

def row (context : RequestContext) (tenantId : String) (id : Uuid) (topic : FactTopic)
    (payload : AnalyticsDomainFact) (createdAt : Time) : AnalyticsOutbox where
  id := id
  tenantId := tenantId
  topic := topic
  payload := payload
  correlationId := context.correlationId
  actorId := context.principalActorId
  nextAttemptAt := createdAt
  createdAt := createdAt

def enqueue (context : RequestContext) (id : Uuid) (topic : FactTopic) (fact : FactInput) :
    Program Unit :=
  match tenant platform context with
  | none => .throw .tenantContextRequired
  | some tenantId => do
    let occurredAt : Time ← issue .now
    if platform.acceptsFact (payload fact occurredAt) then
      discard (.outboxCreate (row context tenantId id topic (payload fact occurredAt)))
    else .throw .factInvalid

end AnalyticsOutboxService

structure VerifyResult where
  ticket : Ticket
  payload : QrPayload
  verdict : ScanVerdict
  message : String
deriving DecidableEq, Repr

namespace VerifyService

open ShareGuardService TokenService

def signedMessage (tokenStr deviceId : String) : String :=
  tokenStr ++ "." ++ deviceId

def acceptedState (payload : QrPayload) (state : PresenceState) (checkedInAt : Option Time)
    (row : TicketState) : TicketState :=
  { row with
    currentState := state
    lastNonce := some payload.dn
    nextNonce := some (payload.dn + 1)
    checkedInAt := checkedInAt }

def rejectRisk (ticket : Ticket) (payload : QrPayload) (risk : RiskInput) (verdict : ScanVerdict)
    (message : String) : Program VerifyResult := do
  applyDecision ticket.id (calculateRisk risk)
  .done { ticket, payload, verdict, message }

-- `state === PresenceState.INSIDE ? new Date() : ticket.checkedInAt`
def checkedInAt (ticket : Ticket) (state : PresenceState) : Program (Option Time) :=
  match state with
  | .inside => do
    let now : Time ← issue .now
    .done (some now)
  | .outside => .done ticket.checkedInAt

def rotateNonce (ticket : Ticket) (payload : QrPayload) (state : PresenceState) :
    Program VerifyResult := do
  let checkedInAt ← checkedInAt ticket state
  let count : Nat ← issue (.ticketUpdateMany
    (fun row => row.id = ticket.id ∧ row.nextNonce = some payload.dn)
    (acceptedState payload state checkedInAt))
  if count = 0 then
    .done { ticket, payload, verdict := .replay, message := "Nonce race condition detected" }
  else
    let updatedAt : Time ← issue .now
    .done
      { ticket :=
          { ticket with
            toTicketState := acceptedState payload state checkedInAt ticket.toTicketState
            updatedAt := some updatedAt }
        payload, verdict := .ok, message := scanMessages .ok }

def acquireReplayKey (ticket : Ticket) (payload : QrPayload) (state : PresenceState) :
    Program VerifyResult := do
  let acquired : Bool ← issue (.rawSetIfAbsent ticket.id payload.dn 120)
  if acquired then
    let _ ← resetShareGuard ticket.id
    rotateNonce ticket payload state
  else rejectRisk ticket payload { replay := true } .replay (scanMessages .replay)

-- `direction === ENTRY` and the projected end of the event has passed.
def eventEnded (ticket : Ticket) (direction : GateDirection) : Program Bool :=
  match direction with
  | .exit => .done false
  | .entry => do
    let settings : Option EventSettingsProjection ← issue (.settingsFindUnique ticket.eventId)
    match settings.bind (·.endsAt) with
    | none => .done false
    | some endsAt =>
      let now : Time ← issue .now
      .done (endsAt < now)

def directionVerdict (intended : PresenceState) : ScanVerdict :=
  match intended with
  | .inside => .alreadyInside
  | .outside => .notInside

def applyDirectionPolicy (ticket : Ticket) (payload : QrPayload) (direction : GateDirection) :
    Program VerifyResult := do
  let intended := intendedState direction
  if ticket.currentState = intended then
    .done
      { ticket, payload, verdict := directionVerdict intended
        message := scanMessages (directionVerdict intended) }
  else
    let ended ← eventEnded ticket direction
    if ended then
      .done { ticket, payload, verdict := .expiredEvent, message := scanMessages .expiredEvent }
    else acquireReplayKey ticket payload intended

def checkNonce (ticket : Ticket) (payload : QrPayload) (direction : GateDirection) :
    Program VerifyResult :=
  if ticket.lastNonce.any (payload.dn ≤ ·) then
    rejectRisk ticket payload { replay := true } .replay (scanMessages .replay)
  else if some payload.dn ≠ ticket.nextNonce then
    rejectRisk ticket payload { invalidNonce := true } .invalidNonce (scanMessages .invalidNonce)
  else applyDirectionPolicy ticket payload direction

def checkDevice (ticket : Ticket) (payload : QrPayload) (tokenStr signature deviceId : String)
    (direction : GateDirection) : Program VerifyResult :=
  match truthy ticket.devicePublicKey with
  | none => .done { ticket, payload, verdict := .deviceMismatch, message := "No Public Key" }
  | some publicKey => do
    let genuine : Bool ←
      issue (.verifySignature (signedMessage tokenStr deviceId) signature publicKey)
    if ¬genuine then
      rejectRisk ticket payload { invalidSignature := true } .deviceMismatch "Signature Changed"
    else if ticket.deviceId ≠ some deviceId then
      rejectRisk ticket payload { deviceMismatch := true } .deviceMismatch "Device Id Changed"
    else checkNonce ticket payload direction

def verifyToken (tokenStr signature deviceId : String) (direction : GateDirection) :
    Program VerifyResult := do
  let payload ← verify tokenStr
  let ticket : Option Ticket ← issue (.ticketFindUnique .tx payload.tid)
  match ticket with
  | none => .throw (.ticketNotFound payload.tid)
  | some ticket =>
    if ticket.revoked then
      .done
        { ticket, payload, verdict := .revoked
          message := ticket.revokedReason.getD (scanMessages .revoked) }
    else
      let blocked ← isBlocked ticket.id
      if blocked then
        .done { ticket, payload, verdict := .blocked, message := scanMessages .blocked }
      else checkDevice ticket payload tokenStr signature deviceId direction

end VerifyService

structure ScanPayloadDTO where
  ticket : Ticket
  log : ScanLog
  verdict : ScanVerdict
  message : String
deriving DecidableEq, Repr

namespace ScanService

open AnalyticsOutboxService TicketEventRoleResolver VerifyService

def scanFact (ticket : Ticket) (verdict : ScanVerdict) (input : SecurityScanInput) : FactInput where
  eventName := if verdict = .ok then .qrScanSucceeded else .qrScanRejected
  aggregateId := ticket.id
  aggregateType := "Ticket"
  subjectId := ticket.guestProfileId
  properties :=
    { ticketId := ticket.id, eventId := ticket.eventId, verdict := some verdict
      direction := some (intendedState input.direction)
      hasGate := some (truthy input.gate).isSome }

def scanTopic (verdict : ScanVerdict) : FactTopic :=
  if verdict = .ok then .ticketScanSucceeded else .ticketScanRejected

def presenceFact (ticketId : Uuid) (ticket : Ticket) (state : PresenceState) : FactInput where
  eventName := if state = .inside then .guestCheckedIn else .guestCheckedOut
  aggregateId := ticketId
  aggregateType := "Ticket"
  subjectId := ticket.guestProfileId
  properties := { ticketId, eventId := ticket.eventId }

def presenceTopic (state : PresenceState) : FactTopic :=
  if state = .inside then .ticketGuestCheckedIn else .ticketGuestCheckedOut

def scanLogRow (id : Uuid) (result : VerifyResult) (input : SecurityScanInput) (createdAt : Time) :
    ScanLog where
  id := id
  ticketId := result.ticket.id
  eventId := result.ticket.eventId
  actorId := input.actorId
  direction := intendedState input.direction
  gate := input.gate
  verdict := result.verdict
  nonce := some result.payload.dn
  deviceId := some input.deviceId
  createdAt := createdAt

def recordScan (uuid : Nat → Uuid) (context : RequestContext) (input : SecurityScanInput)
    (result : VerifyResult) : Program ScanPayloadDTO := do
  let log : ScanLog ← issue (.scanLogCreate (scanLogRow (uuid 0) result input))
  enqueue platform context (uuid 1) (scanTopic result.verdict)
    (scanFact result.ticket result.verdict input)
  if result.verdict = .ok then
    enqueue platform context (uuid 2) (presenceTopic result.ticket.currentState)
      (presenceFact result.ticket.id result.ticket result.ticket.currentState)
    .done { ticket := result.ticket, log, verdict := result.verdict, message := result.message }
  else
    .done { ticket := result.ticket, log, verdict := result.verdict, message := result.message }

def scanTransaction (uuid : Nat → Uuid) (context : RequestContext) (input : SecurityScanInput) :
    Program ScanPayloadDTO := do
  let result ← verifyToken input.token input.signature input.deviceId input.direction
  let permissions ← getPermissionsForUser platform input.actorId result.ticket.eventId
  if .scanTickets ∈ permissions then recordScan platform uuid context input result
  else
    .throw (.eventAccessDenied result.ticket.eventId input.actorId "event-permission-mismatch"
      permissions [.scanTickets])

def messageMeta (context : RequestContext) (actorId : Option Uuid) : MessageMeta where
  service := "ticket-service"
  operation := "Record Event Milestone"
  version := "1"
  type := "EVENT"
  actorId := actorId
  tenantId := (context.tenantId.or context.principalTenantId).getD platform.defaultTenantId

def scannedMilestone (input : SecurityScanInput) (result : ScanPayloadDTO) :
    EventMilestoneRecordedDTO where
  eventId := result.ticket.eventId
  milestoneId := ⟨result.log.id, "scanned"⟩
  type := .ticketScanned
  label :=
    match truthy input.gate with
    | some gate => "Ticket scanned at " ++ gate
    | none => "Ticket scanned"
  occurredAt := result.log.createdAt
  referenceId := result.ticket.id

-- A failed publication is logged and not thrown.
def publishMilestone (payload : EventMilestoneRecordedDTO) (context : RequestContext)
    (actorId : Uuid) : Program Unit :=
  .call (.send (.milestoneRecorded payload (messageMeta platform context (some actorId))))
    fun _ => .done ()

def scan (uuid : Nat → Uuid) (context : RequestContext) (input : SecurityScanInput) :
    Program ScanPayloadDTO := do
  let result ← transaction (scanTransaction platform uuid context input)
  if result.verdict = .ok then
    publishMilestone platform (scannedMilestone input result) context input.actorId
    .done result
  else .done result

end ScanService

end TicketService
