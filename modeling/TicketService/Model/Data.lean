import Mathlib.Data.List.Basic
import TicketService.Shared.Table

set_option autoImplicit false

namespace TicketService

open Relational

-- The `draw`-th `uuid()` of call number `call`; ids from outside are arbitrary values.
structure Uuid where
  call : Nat
  draw : Nat
deriving DecidableEq, Repr

abbrev Time := Nat

inductive PresenceState where
  | inside
  | outside
deriving DecidableEq, Repr

inductive ScanVerdict where
  | ok
  | replay
  | invalidNonce
  | deviceMismatch
  | blocked
  | revoked
  | unknown
  | expiredEvent
  | alreadyInside
  | notInside
deriving DecidableEq, Repr

inductive GateDirection where
  | entry
  | exit
deriving DecidableEq, Repr

def intendedState : GateDirection → PresenceState
  | .entry => .inside
  | .exit => .outside

def scanMessages : ScanVerdict → String
  | .ok => "Access granted"
  | .revoked => "Ticket is no longer valid"
  | .blocked => "Too many attempts. Please wait"
  | .deviceMismatch => "Invalid device"
  | .invalidNonce => "Invalid scan"
  | .replay => "Scan already used"
  | .unknown => "Unknown"
  | .expiredEvent => "Event Expired"
  | .alreadyInside => "Already inside"
  | .notInside => "Not inside"

inductive EventRoleType where
  | admin
  | security
  | guest
  | support
  | driver
  | usher
deriving DecidableEq, Repr

-- The permission keys this service names; `other` stands for the rest of the contract's keys.
inductive EventPermissionKey where
  | scanTickets
  | manageTickets
  | viewTickets
  | other (name : String)
deriving DecidableEq, Repr

-- The truthiness of a nullable string: `null` and `""` are both false.
def truthy (value : Option String) : Option String :=
  value.filter (· ≠ "")

structure TicketState where
  devicePublicKey : Option String
  deviceActivationAt : Option Time
  deviceActivationIP : Option String
  deviceId : Option String
  lastNonce : Option Nat
  nextNonce : Option Nat
  checkedInAt : Option Time
  currentState : PresenceState
  revoked : Bool
  revokedAt : Option Time
  revokedBy : Option Uuid
  revokedReason : Option String
deriving DecidableEq, Repr

structure Ticket extends TicketState where
  id : Uuid
  eventId : Uuid
  invitationId : Uuid
  seatId : Uuid
  guestProfileId : Uuid
  createdAt : Time
  updatedAt : Option Time
deriving DecidableEq, Repr

structure ScanLog where
  id : Uuid
  ticketId : Uuid
  eventId : Uuid
  actorId : Uuid
  direction : PresenceState
  gate : Option String
  verdict : ScanVerdict
  nonce : Option Nat
  deviceId : Option String
  createdAt : Time
deriving DecidableEq, Repr

structure ShareGuard where
  ticketId : Uuid
  failCount : Nat
  lastFailAt : Option Time
  blockedUntil : Option Time
  reason : Option String
deriving DecidableEq, Repr

inductive FactTopic where
  | ticketGenerated
  | ticketScanSucceeded
  | ticketScanRejected
  | ticketGuestCheckedIn
  | ticketGuestCheckedOut
  | ticketRevoked
deriving DecidableEq, Repr

inductive FactEventName where
  | ticketGenerated
  | qrScanSucceeded
  | qrScanRejected
  | guestCheckedIn
  | guestCheckedOut
  | ticketRevoked
deriving DecidableEq, Repr

structure FactProperties where
  ticketId : Uuid
  eventId : Uuid
  verdict : Option ScanVerdict := none
  direction : Option PresenceState := none
  hasGate : Option Bool := none
  hasSeat : Option Bool := none
deriving DecidableEq, Repr

structure AnalyticsDomainFact where
  producer : String
  occurredAt : Time
  eventName : FactEventName
  aggregateId : Uuid
  aggregateType : String
  subjectId : Uuid
  properties : FactProperties
deriving DecidableEq, Repr

structure AnalyticsOutbox where
  id : Uuid
  tenantId : String
  topic : FactTopic
  payload : AnalyticsDomainFact
  correlationId : Option String
  actorId : Option Uuid
  attempts : Nat := 0
  nextAttemptAt : Time
  lockedAt : Option Time := none
  lockedBy : Option String := none
  publishedAt : Option Time := none
  deadLetteredAt : Option Time := none
  lastError : Option String := none
  createdAt : Time
deriving DecidableEq, Repr

structure EventAccessProjection where
  eventId : Uuid
  userId : Uuid
  permissions : List String
  roles : Option String
  occurredAt : Option Time
  updatedAt : Option Time
deriving DecidableEq, Repr

structure EventRoleProjection where
  eventId : Uuid
  userId : Uuid
  role : EventRoleType
  updatedAt : Option Time
deriving DecidableEq, Repr

structure EventSettingsProjection where
  eventId : Uuid
  name : Option String
  endsAt : Option Time
  startsAt : Option Time
  ticketReleaseAt : Option Time
  updatedAt : Option Time
deriving DecidableEq, Repr

structure ReplayKey where
  ticketId : Uuid
  nonce : Nat
  expiresAt : Time
deriving DecidableEq, Repr

structure QrPayload where
  tid : Uuid
  eid : Uuid
  gid : Uuid
  sid : Uuid
  dn : Nat
  ts : Time
  dh : Option String
  kid : Option String
deriving DecidableEq, Repr

-- A compact JWE that `TokenService.generate` returned; `iat` is in seconds.
structure MintedToken where
  token : String
  payload : QrPayload
  iat : Nat
deriving DecidableEq, Repr

-- A signature that the holder of the private key of `publicKey` made over `message`.
structure DeviceSignature where
  publicKey : String
  message : String
  signature : String
deriving DecidableEq, Repr

inductive MilestoneType where
  | ticketGenerated
  | ticketScanned
  | ticketRevoked
deriving DecidableEq, Repr

-- `${subject}:${step}`.
structure MilestoneId where
  subject : Uuid
  step : String
deriving DecidableEq, Repr

structure EventMilestoneRecordedDTO where
  eventId : Uuid
  milestoneId : MilestoneId
  type : MilestoneType
  label : String
  occurredAt : Time
  referenceId : Uuid
deriving DecidableEq, Repr

structure MessageMeta where
  service : String
  operation : String
  version : String
  type : String
  actorId : Option Uuid
  tenantId : String
deriving DecidableEq, Repr

structure AddGuestIdDTO where
  userId : Uuid
  invitationId : Uuid
  actorId : Uuid
deriving DecidableEq, Repr

inductive Message where
  | milestoneRecorded (payload : EventMilestoneRecordedDTO) (header : MessageMeta)
  | addGuestId (payload : AddGuestIdDTO) (header : MessageMeta)
deriving DecidableEq, Repr

structure VerificationTokenMetadata where
  invitationId : Option Uuid := none
  cause : Option String := none
deriving DecidableEq, Repr

inductive Exn where
  | ticketNotFound (ticketId : Uuid)
  | ticketAlreadyExists (invitationId : Uuid)
  | ticketAccessDenied (ticketId : Uuid) (reason : String)
  | ticketDeviceAlreadyBound (ticketId : Uuid)
  | ticketDeviceKeyInvalid (ticketId : Uuid)
  | ticketNonceUninitialized (ticketId : Uuid)
  | ticketTokenInvalid
  | ticketVerificationToken (reason : String) (details : VerificationTokenMetadata)
  | eventAccessDenied (eventId userId : Uuid) (reason : String)
      (actualPermissions requiredPermissions : List EventPermissionKey)
  -- 'Verified UUID tenant context is required for analytics facts'
  | tenantContextRequired
  -- AnalyticsDomainFactSchema.parse
  | factInvalid
  -- The validation pipe refused the arguments.
  | badRequest
  -- A statement, commit or publication that threw.
  | statementFailed
deriving DecidableEq, Repr

def Exn.accessDenied : Exn → Bool
  | .eventAccessDenied .. => true
  | .ticketAccessDenied .. => true
  | _ => false

structure RequestContext where
  tenantId : Option String
  principalTenantId : Option String
  principalActorId : Option Uuid
  correlationId : Option String
deriving DecidableEq, Repr

structure SecurityScanInput where
  token : String
  signature : String
  deviceId : String
  direction : GateDirection
  gate : Option String
  actorId : Uuid
deriving DecidableEq, Repr

structure ActivateDeviceDTO where
  ticketId : Uuid
  publicKey : String
  deviceId : String
  ip : Option String
deriving DecidableEq, Repr

structure CreateTicketInput where
  eventId : Uuid
  invitationId : Uuid
  userId : Uuid
  seatId : Uuid
  actorId : Uuid
deriving DecidableEq, Repr

structure RiskInput where
  invalidSignature : Bool := false
  replay : Bool := false
  invalidNonce : Bool := false
  deviceMismatch : Bool := false
  rapidScan : Bool := false
deriving DecidableEq, Repr

structure RiskResult where
  score : Nat
  shouldBlock : Bool
  shouldRevoke : Bool
  reason : String
deriving DecidableEq, Repr

structure EventAccessDTO where
  eventId : Uuid
  userId : Uuid
  permissions : List String
  roles : Option String
  occurredAt : Time
deriving DecidableEq, Repr

structure EventRoleAssignedDTO where
  eventId : Uuid
  userId : Uuid
  role : EventRoleType
  occurredAt : Time
deriving DecidableEq, Repr

structure EventRoleRemovedDTO where
  eventId : Uuid
  userId : Uuid
  occurredAt : Time
deriving DecidableEq, Repr

structure EventOwnerChangedDTO where
  eventId : Uuid
  oldOwnerId : Option Uuid
  newOwnerId : Uuid
  occurredAt : Time
deriving DecidableEq, Repr

structure EventCreatedDTO where
  eventId : Uuid
  name : String
  endsAt : Option Time
  startsAt : Option Time
  ticketReleaseAt : Option Time
deriving DecidableEq, Repr

-- A time that is absent is `undefined`; one that is present may be null.
structure EventUpdatedDTO where
  eventId : Uuid
  name : Option String
  endsAt : Option (Option Time)
  startsAt : Option (Option Time)
  ticketReleaseAt : Option (Option Time)
  occurredAt : Time
deriving DecidableEq, Repr

/-- Constants of the deployment and functions of the packages the service calls. -/
structure Platform where
  uniqueEventPermissions : List String → List EventPermissionKey
  getDefaultPermissionsForEventRole : Option EventRoleType → List EventPermissionKey
  isUUID : String → Bool
  -- Whether `AnalyticsDomainFactSchema.parse` accepts the fact; it returns what it accepts.
  acceptsFact : AnalyticsDomainFact → Bool
  -- Whether the string decodes to an SPKI key of the curve prime256v1.
  isP256PublicKey : String → Bool
  sha256Hex : String → String
  -- The compact JWE that the `n`-th encryption under a fresh initialization vector returns.
  compactJwe : Nat → String
  compactJwe_injective : Function.Injective compactJwe
  activeKid : String
  defaultTenantId : String

end TicketService
