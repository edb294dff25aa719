import TicketService.Model.TicketWrite

set_option autoImplicit false

namespace TicketService

open Interleaving

structure CreateUserWithInvitationIdDTO where
  token : String
  invitationId : Uuid
  userId : Uuid
deriving DecidableEq, Repr

structure GuestTicket where
  invitationId : Uuid
  seatId : Uuid
deriving DecidableEq, Repr

structure GuestTicketKey where
  eventId : Uuid
  actorId : Uuid
  tickets : List GuestTicket
deriving DecidableEq, Repr

-- A member of a JSON object is `none` if it is missing or of another type.
structure PartialGuestTicket where
  invitationId : Option Uuid
  seatId : Option Uuid
deriving DecidableEq, Repr

structure PartialGuestTicketKey where
  eventId : Option Uuid
  actorId : Option Uuid
  tickets : Option (List PartialGuestTicket)
deriving DecidableEq, Repr

/-- What the handler uses of its environment: `SERVICE`, `JSON.parse` on the texts of the cache, with
the message of the error that it throws, and how ids are spelled. -/
structure SeatEnv where
  service : String
  parse : String → Except String PartialGuestTicketKey
  spell : Uuid → String

namespace SeatHandler

open TicketWriteService

variable (platform : Platform) (env : SeatEnv)

def isHexDigit (c : Char) : Bool :=
  ('0' ≤ c && c ≤ '9') || ('a' ≤ c && c ≤ 'f') || ('A' ≤ c && c ≤ 'F')

-- /^[0-9a-f]{8}-[0-9a-f]{4}-7[0-9a-f]{3}-[89ab][0-9a-f]{3}-[0-9a-f]{12}$/i
def uuidV7Pattern : List (Char → Bool) :=
  let hex (n : Nat) : List (Char → Bool) := List.replicate n isHexDigit
  let oneOf (allowed : List Char) (c : Char) : Bool := allowed.contains c
  hex 8 ++ [oneOf ['-']] ++ hex 4 ++ [oneOf ['-'], oneOf ['7']] ++ hex 3 ++
    [oneOf ['-'], oneOf ['8', '9', 'a', 'b', 'A', 'B']] ++ hex 3 ++ [oneOf ['-']] ++ hex 12

def isValidUuidV7 (value : String) : Bool :=
  value.length = uuidV7Pattern.length &&
    (value.toList.zip uuidV7Pattern).all fun (c, allowed) => allowed c

def linkMeta (context : RequestContext) (actorId : Uuid) : MessageMeta where
  service := env.service
  operation := "Link invitation to guest"
  version := "1"
  type := "EVENT"
  actorId := some
    ((context.principalActorId.filter fun actorId => isValidUuidV7 (env.spell actorId)).getD actorId)
  tenantId := (context.tenantId.or context.principalTenantId).getD platform.defaultTenantId

def guestTicket (ticket : PartialGuestTicket) : Option GuestTicket := do
  let invitationId ← ticket.invitationId
  let seatId ← ticket.seatId
  some { invitationId, seatId }

def guestTicketKey (value : PartialGuestTicketKey) : Option GuestTicketKey := do
  let eventId ← value.eventId
  let actorId ← value.actorId
  let tickets ← value.tickets
  let tickets ← tickets.mapM guestTicket
  if isValidUuidV7 (env.spell actorId) then some { eventId, actorId, tickets } else none

def invalidToken (cause : String) : Exn :=
  .ticketVerificationToken "invalid-token" { cause := some cause }

def parseGuestTicketKey (raw : String) : Except Exn GuestTicketKey :=
  match env.parse raw with
  | .error cause => .error (invalidToken cause)
  | .ok value =>
    match guestTicketKey env value with
    | some key => .ok key
    | none =>
      .error (invalidToken "Guest ticket payload has an invalid shape or actorId not UUIDv7")

def ticketInput (payload : CreateUserWithInvitationIdDTO) (input : GuestTicketKey)
    (ticket : GuestTicket) : CreateTicketInput where
  eventId := input.eventId
  invitationId := payload.invitationId
  userId := payload.userId
  seatId := ticket.seatId
  actorId := input.actorId

def addGuestId (payload : CreateUserWithInvitationIdDTO) (actorId : Uuid) : AddGuestIdDTO where
  userId := payload.userId
  invitationId := payload.invitationId
  actorId := actorId

def provision (uuid : Nat → Uuid) (context : RequestContext)
    (payload : CreateUserWithInvitationIdDTO) (input : GuestTicketKey) (ticket : GuestTicket) :
    Program Unit := do
  let _ ← createTicket platform uuid context (ticketInput payload input ticket)
  discard (.send (.addGuestId (addGuestId payload input.actorId)
    (linkMeta platform env context input.actorId)))

def handleCreateTicket (uuid : Nat → Uuid) (context : RequestContext)
    (read : String → Except Exn (Option String)) (payload : CreateUserWithInvitationIdDTO) :
    Program Unit :=
  match read payload.token with
  | .error error => .throw error
  | .ok raw =>
    match truthy raw with
    | none => .throw (.ticketVerificationToken "invalid-token" {})
    | some raw =>
      match parseGuestTicketKey env raw with
      | .error error => .throw error
      | .ok input =>
        match input.tickets.find? fun ticket => ticket.invitationId = payload.invitationId with
        | none =>
          .throw (.ticketVerificationToken "mapping-not-found"
            { invitationId := some payload.invitationId })
        | some ticket => provision platform env uuid context payload input ticket

end SeatHandler

end TicketService
