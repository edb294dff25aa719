import TicketService.Model.Projections
import TicketService.Model.TicketWrite

set_option autoImplicit false

namespace TicketService

open Interleaving

inductive Call where
  | createTicket (context : RequestContext) (data : CreateTicketInput)
  | activateDevice (input : ActivateDeviceDTO) (actorId : Uuid)
  | generateToken (ticketId actorId : Uuid)
  | delete (ticketId actorId : Uuid)
  | deleteByEventIds (eventIds : List Uuid)
  | deleteByGuestId (guestId : Uuid)
  | revoke (context : RequestContext) (ticketId : Uuid) (reason : Option String) (actorId : Uuid)
  | updatePresence (context : RequestContext) (ticketId : Uuid) (state : PresenceState)
      (actorId : Uuid)
  | resetDeviceBinding (ticketId actorId : Uuid)
  | scan (context : RequestContext) (input : SecurityScanInput)
  | resetShareGuard (ticketId : Uuid)
  | applyDecision (ticketId : Uuid) (result : RiskResult)
  | userAccessChanged (payload : EventAccessDTO)
  | roleAssigned (payload : EventRoleAssignedDTO)
  | roleRemoved (payload : EventRoleRemovedDTO)
  | ownerChanged (payload : EventOwnerChangedDTO)
  | eventDeleted (eventIds : List Uuid)
  | eventCreated (payload : EventCreatedDTO)
  | eventUpdated (payload : EventUpdatedDTO)
deriving DecidableEq, Repr

inductive Reply where
  | nothing
  | ticket (row : Ticket)
  | token (token : String)
  | scan (payload : ScanPayloadDTO)
deriving DecidableEq, Repr

variable (platform : Platform)

namespace TicketMutationResolver

def activateDevice (input : ActivateDeviceDTO) (userId : Uuid) : Program Ticket :=
  if input.deviceId = "" ∨ input.publicKey = "" then .throw .badRequest
  else TicketWriteService.activateDevice platform input userId

def scanToken (uuid : Nat → Uuid) (context : RequestContext) (input : SecurityScanInput) :
    Program ScanPayloadDTO :=
  if input.token = "" ∨ input.signature = "" ∨ input.deviceId = "" then .throw .badRequest
  else ScanService.scan platform uuid context input

end TicketMutationResolver

def answer {α : Type} (p : Program α) (reply : α → Reply) : Program Reply :=
  p.bind fun value => .done (reply value)

open EventRoleHandler EventSettingsHandler TicketWriteService in
def program (number : Nat) : Call → Program Reply
  | .createTicket context data =>
    answer (createTicket platform (Uuid.mk number) context data) .ticket
  | .activateDevice input actorId =>
    answer (TicketMutationResolver.activateDevice platform input actorId) .ticket
  | .generateToken ticketId actorId => answer (generateToken platform ticketId actorId) .token
  | .delete ticketId actorId => answer (delete platform ticketId actorId) fun _ => .nothing
  | .deleteByEventIds eventIds => answer (deleteByEventIds eventIds) fun _ => .nothing
  | .deleteByGuestId guestId => answer (deleteByGuestId guestId) fun _ => .nothing
  | .revoke context ticketId reason actorId =>
    answer (revoke platform (Uuid.mk number) context ticketId reason actorId) .ticket
  | .updatePresence context ticketId state actorId =>
    answer (updatePresence platform (Uuid.mk number) context ticketId state actorId) .ticket
  | .resetDeviceBinding ticketId actorId =>
    answer (resetDeviceBinding platform (Uuid.mk number) ticketId actorId) .ticket
  | .scan context input =>
    answer (TicketMutationResolver.scanToken platform (Uuid.mk number) context input) .scan
  | .resetShareGuard ticketId =>
    answer (ShareGuardService.resetShareGuard ticketId) fun _ => .nothing
  | .applyDecision ticketId result =>
    answer (ShareGuardService.applyDecision ticketId result) fun _ => .nothing
  | .userAccessChanged payload => answer (handleUserAccessChanged payload) fun _ => .nothing
  | .roleAssigned payload => answer (handleRoleAssigned payload) fun _ => .nothing
  | .roleRemoved payload => answer (handleRoleRemoved payload) fun _ => .nothing
  | .ownerChanged payload => answer (handleOwnerChanged payload) fun _ => .nothing
  | .eventDeleted eventIds => answer (handleEventDeleted eventIds) fun _ => .nothing
  | .eventCreated payload => answer (handleEventCreated payload) fun _ => .nothing
  | .eventUpdated payload => answer (handleEventUpdated payload) fun _ => .nothing

def service : System statements World Tx Lock EnvAct Call Exn Reply where
  engine := engine platform
  program := program platform

abbrev ServiceAct := Act Call EnvAct

abbrev Global := Shared statements World Tx Call

abbrev ServiceState := Config statements World Tx Call Exn Reply

namespace Sample

def permissionKey : String → Option EventPermissionKey
  | "ScanTickets" => some .scanTickets
  | "ManageTickets" => some .manageTickets
  | "ViewTickets" => some .viewTickets
  | _ => none

def compactJwe (n : Nat) : String :=
  "header.key.iv.text." ++ String.ofList (List.replicate (n + 1) 'x')

theorem compactJwe_injective : Function.Injective compactJwe := by
  intro m n same
  unfold compactJwe at same
  generalize "header.key.iv.text." = head at same
  have lengths := congrArg String.length same
  simpa using lengths

def deployment : Platform where
  uniqueEventPermissions permissions := (permissions.filterMap permissionKey).dedup
  getDefaultPermissionsForEventRole
    | some .admin => [.scanTickets, .manageTickets, .viewTickets]
    | some .security => [.scanTickets, .viewTickets]
    | _ => []
  isUUID tenantId := tenantId.length = 36
  acceptsFact _ := true
  isP256PublicKey _ := true
  sha256Hex deviceId := "sha256-" ++ deviceId
  compactJwe := compactJwe
  compactJwe_injective := compactJwe_injective
  activeKid := "v1"
  defaultTenantId := "00000000-0000-0000-0000-000000000000"

def id (n : Nat) : Uuid := ⟨1000000, n⟩

def event : Uuid := id 0
def guest : Uuid := id 1
def staff : Uuid := id 2

def context : RequestContext where
  tenantId := some "0190a5d0-7d0a-7cc3-9d0e-3f1f6a1b2c3d"
  principalTenantId := none
  principalActorId := some staff
  correlationId := none

def call (number : Nat) (call : Call) (count : Nat) : List ServiceAct :=
  .invoke call :: List.replicate count (.step number)

def run (acts : List ServiceAct) : ServiceState :=
  (service deployment).run ((service deployment).initial World.empty) acts

theorem reachable_run (acts : List ServiceAct) :
    (service deployment).Reachable World.empty (run acts) :=
  System.runs_run _ _ acts

theorem runs_append (acts more : List ServiceAct) :
    (service deployment).Runs (run acts) (run (acts ++ more)) := by
  unfold run
  rw [System.run_append]
  exact System.runs_run _ _ more

def ticket : Uuid := ⟨0, 0⟩

def ticketInput : CreateTicketInput where
  eventId := event
  invitationId := id 10
  userId := guest
  seatId := id 20
  actorId := staff

def access (permissions : List String) : EventAccessDTO where
  eventId := event
  userId := staff
  permissions := permissions
  roles := none
  occurredAt := 0

def phone : ActivateDeviceDTO where
  ticketId := ticket
  publicKey := "phone-key"
  deviceId := "phone"
  ip := none

def token : String := compactJwe 0

def signature : DeviceSignature where
  publicKey := "phone-key"
  message := VerifyService.signedMessage token "phone"
  signature := "signature"

def prepared : List ServiceAct :=
  call 0 (.createTicket context ticketInput) 8 ++
    call 1 (.userAccessChanged (access ["ScanTickets", "ManageTickets"])) 2 ++
    call 2 (.activateDevice phone guest) 7 ++
    call 3 (.generateToken ticket guest) 5 ++
    [.environ (.sign signature)]

def entry : SecurityScanInput where
  token := token
  signature := "signature"
  deviceId := "phone"
  direction := .entry
  gate := none
  actorId := staff

def forgedScan (n : Nat) : List ServiceAct :=
  call (4 + 2 * n) (.generateToken ticket guest) 5 ++
    call (5 + 2 * n)
      (.scan context { entry with token := compactJwe (n + 1), signature := "forged" }) 16 ++
    [.environ (.tick 300000)]

end Sample

end TicketService
