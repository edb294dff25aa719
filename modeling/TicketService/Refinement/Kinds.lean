import TicketService.Interleaving.Along
import TicketService.Model.Calls

set_option autoImplicit false

namespace TicketService

open Interleaving AnalyticsOutboxService EventRoleHandler EventSettingsHandler ScanService
open ShareGuardService TicketEventRoleResolver TicketWriteService TokenService VerifyService

inductive Kind where
  | now
  | tokenGenerate
  | tokenVerify
  | verifySignature
  | ticketFindUnique (client : Client)
  | ticketFindByInvitation
  | ticketFindIds
  | ticketCreate
  | ticketUpdate (client : Client)
  | ticketUpdateMany
  | ticketDelete
  | ticketDeleteMany
  | scanLogCreate
  | scanLogFindMany
  | scanLogDeleteMany
  | shareGuardFindUnique
  | shareGuardUpsert
  | shareGuardUpdate
  | shareGuardDeleteMany
  | outboxCreate
  | rawSetIfAbsent
  | accessFindUnique
  | accessUpsert
  | roleFindUnique
  | roleUpsert
  | roleDeleteMany
  | settingsFindUnique
  | settingsUpsert
  | settingsDeleteMany
  | accessDeleteMany
  | send
deriving DecidableEq

def Stmt.kind : Stmt → Kind
  | .now => .now
  | .tokenGenerate _ => .tokenGenerate
  | .tokenVerify _ => .tokenVerify
  | .verifySignature .. => .verifySignature
  | .ticketFindUnique client _ => .ticketFindUnique client
  | .ticketFindByInvitation _ => .ticketFindByInvitation
  | .ticketFindIds _ => .ticketFindIds
  | .ticketCreate _ => .ticketCreate
  | .ticketUpdate client .. => .ticketUpdate client
  | .ticketUpdateMany .. => .ticketUpdateMany
  | .ticketDelete _ => .ticketDelete
  | .ticketDeleteMany _ => .ticketDeleteMany
  | .scanLogCreate _ => .scanLogCreate
  | .scanLogFindMany _ => .scanLogFindMany
  | .scanLogDeleteMany _ => .scanLogDeleteMany
  | .shareGuardFindUnique _ => .shareGuardFindUnique
  | .shareGuardUpsert _ => .shareGuardUpsert
  | .shareGuardUpdate .. => .shareGuardUpdate
  | .shareGuardDeleteMany _ => .shareGuardDeleteMany
  | .outboxCreate _ => .outboxCreate
  | .rawSetIfAbsent .. => .rawSetIfAbsent
  | .accessFindUnique .. => .accessFindUnique
  | .accessUpsert .. => .accessUpsert
  | .roleFindUnique .. => .roleFindUnique
  | .roleUpsert _ => .roleUpsert
  | .roleDeleteMany _ => .roleDeleteMany
  | .settingsFindUnique _ => .settingsFindUnique
  | .settingsUpsert .. => .settingsUpsert
  | .settingsDeleteMany _ => .settingsDeleteMany
  | .accessDeleteMany _ => .accessDeleteMany
  | .send _ => .send

variable {platform : Platform} {α β : Type} {ks : List Kind}

abbrev Kinds (ks : List Kind) (p : Program α) : Prop :=
  p.Issues fun stmt : Stmt => ks.contains stmt.kind = true

theorem kinds_issue {stmt : Stmt} (listed : ks.contains stmt.kind = true) : Kinds ks (issue stmt) :=
  Prog.Issues.perform listed

theorem kinds_discard {stmt : Stmt} (listed : ks.contains stmt.kind = true) : Kinds ks (discard stmt) :=
  (kinds_issue listed).bind fun _ => trivial

theorem kinds_attempt {stmt : Stmt} (listed : ks.contains stmt.kind = true) : Kinds ks (attempt stmt) :=
  ⟨listed, fun _ => trivial⟩

theorem Kinds.all {p : Program α} {P : Stmt → Prop} {test : Kind → Bool} (issues : Kinds ks p)
    (passed : ks.all test = true) (holds : ∀ stmt : Stmt, test stmt.kind = true → P stmt) : p.Issues P := by
  refine Prog.Issues.mono issues fun stmt member => holds stmt ?_
  exact List.all_eq_true.mp passed stmt.kind (List.contains_iff_mem.mp member)

theorem Kinds.mono {p : Program α} {more : List Kind} (issues : Kinds ks p)
    (listed : ks.all more.contains = true) : Kinds more p :=
  issues.all listed fun _ member => member

section Parts

def permissionKinds : List Kind := [.accessFindUnique, .roleFindUnique]

def factKinds : List Kind := [.now, .outboxCreate]

def decisionKinds : List Kind := [.now, .shareGuardUpsert, .shareGuardUpdate, .ticketUpdate .prisma]

def policyKinds : List Kind :=
  [.shareGuardFindUnique, .verifySignature, .settingsFindUnique, .rawSetIfAbsent, .ticketUpdateMany] ++
    decisionKinds

def verifyKinds : List Kind := [.tokenVerify, .ticketFindUnique .tx] ++ policyKinds

theorem kinds_getPermissionsForUser {userId eventId : Uuid} :
    Kinds permissionKinds (getPermissionsForUser platform userId eventId) := by
  refine (kinds_issue rfl).bind fun access => ?_
  cases access with
  | some access => trivial
  | none => exact Prog.Issues.bind (Prog.Issues.bind (kinds_issue rfl) fun _ => trivial) fun _ => trivial

theorem kinds_assertManageTicket {eventId actorId : Uuid} :
    Kinds permissionKinds (assertManageTicket platform eventId actorId) := by
  refine kinds_getPermissionsForUser.bind fun permissions => ?_
  split
  · trivial
  · trivial

variable {uuid : Nat → Uuid} {context : RequestContext}

theorem kinds_enqueue {id : Uuid} {topic : FactTopic} {fact : FactInput} :
    Kinds factKinds (enqueue platform context id topic fact) := by
  unfold enqueue
  split
  · trivial
  · refine (kinds_issue rfl).bind fun _ => ?_
    split
    · exact kinds_discard rfl
    · trivial

theorem kinds_applyDecision {ticketId : Uuid} {result : RiskResult} :
    Kinds decisionKinds (applyDecision ticketId result) := by
  refine (kinds_issue rfl).bind fun now => (kinds_issue rfl).bind fun guard => ?_
  dsimp only
  repeat' split
  · exact (kinds_issue rfl).bind fun _ => trivial
  · exact (kinds_issue rfl).bind fun _ => trivial
  · exact (kinds_issue rfl).bind fun _ => trivial

theorem kinds_resetShareGuard {ticketId : Uuid} :
    Kinds [.shareGuardFindUnique, .shareGuardUpdate] (resetShareGuard ticketId) := by
  refine (kinds_issue rfl).bind fun guard => ?_
  cases guard with
  | none => trivial
  | some guard => exact (kinds_issue rfl).bind fun _ => trivial

theorem kinds_isBlocked {ticketId : Uuid} : Kinds [.shareGuardFindUnique, .now] (isBlocked ticketId) := by
  refine (kinds_issue rfl).bind fun guard => ?_
  cases Option.bind guard (·.blockedUntil) with
  | none => trivial
  | some blockedUntil => exact (kinds_issue rfl).bind fun _ => trivial

variable {ticket : Ticket} {payload : QrPayload} {direction : GateDirection}

theorem kinds_rejectRisk {risk : RiskInput} {verdict : ScanVerdict} {message : String} :
    Kinds policyKinds (rejectRisk ticket payload risk verdict message) :=
  (kinds_applyDecision.mono rfl).bind fun _ => trivial

theorem kinds_rotateNonce {state : PresenceState} :
    Kinds [.now, .ticketUpdateMany] (rotateNonce ticket payload state) := by
  have checked : Kinds [.now, .ticketUpdateMany] (checkedInAt ticket state) := by
    cases state with
    | inside => exact (kinds_issue rfl).bind fun _ => trivial
    | outside => trivial
  refine checked.bind fun checkedInAt => (kinds_issue rfl).bind fun count => ?_
  split
  · trivial
  · exact (kinds_issue rfl).bind fun _ => trivial

theorem kinds_eventEnded : Kinds [.settingsFindUnique, .now] (eventEnded ticket direction) := by
  cases direction with
  | exit => trivial
  | entry =>
    refine (kinds_issue rfl).bind fun settings => ?_
    cases Option.bind settings (·.endsAt) with
    | none => trivial
    | some endsAt => exact (kinds_issue rfl).bind fun _ => trivial

theorem kinds_applyDirectionPolicy : Kinds policyKinds (applyDirectionPolicy ticket payload direction) := by
  unfold applyDirectionPolicy
  dsimp only
  split
  · trivial
  refine (kinds_eventEnded.mono rfl).bind fun ended => ?_
  split
  · trivial
  refine Prog.Issues.bind (kinds_issue rfl) fun acquired => ?_
  split
  · exact (kinds_resetShareGuard.mono rfl).bind fun _ => kinds_rotateNonce.mono rfl
  · exact kinds_rejectRisk

theorem kinds_checkDevice {token signature deviceId : String} :
    Kinds policyKinds (checkDevice ticket payload token signature deviceId direction) := by
  unfold checkDevice
  split
  · trivial
  refine (kinds_issue rfl).bind fun genuine => ?_
  split
  · exact kinds_rejectRisk
  split
  · exact kinds_rejectRisk
  unfold checkNonce
  repeat' split
  · exact kinds_rejectRisk
  · exact kinds_rejectRisk
  · exact kinds_applyDirectionPolicy

theorem kinds_verifyToken {token signature deviceId : String} :
    Kinds verifyKinds (verifyToken token signature deviceId direction) := by
  have verified : Kinds verifyKinds (TokenService.verify token) := by
    refine (kinds_issue rfl).bind fun payload => ?_
    cases payload <;> trivial
  refine verified.bind fun payload => (kinds_issue rfl).bind fun ticket => ?_
  cases ticket with
  | none => trivial
  | some ticket =>
    dsimp only
    split
    · trivial
    refine (kinds_isBlocked.mono rfl).bind fun blocked => ?_
    split
    · trivial
    · exact kinds_checkDevice.mono rfl

theorem kinds_recordScan {result : VerifyResult} {input : SecurityScanInput} :
    Kinds (.scanLogCreate :: factKinds) (recordScan platform uuid context input result) := by
  refine (kinds_issue rfl).bind fun log => (kinds_enqueue.mono rfl).bind fun _ => ?_
  split
  · exact (kinds_enqueue.mono rfl).bind fun _ => trivial
  · trivial

theorem kinds_scanned {result : VerifyResult} {input : SecurityScanInput} :
    Kinds (permissionKinds ++ .scanLogCreate :: factKinds) (do
      let permissions ← getPermissionsForUser platform input.actorId result.ticket.eventId
      if EventPermissionKey.scanTickets ∈ permissions then
        recordScan platform uuid context input result
      else
        .throw (.eventAccessDenied result.ticket.eventId input.actorId "event-permission-mismatch"
          permissions [.scanTickets]) : Program ScanPayloadDTO) := by
  refine (kinds_getPermissionsForUser.mono rfl).bind fun permissions => ?_
  split
  · exact kinds_recordScan.mono rfl
  · trivial

theorem kinds_finished {result : ScanPayloadDTO} {input : SecurityScanInput} :
    Kinds [.send] (if result.verdict = .ok then do
        ScanService.publishMilestone platform (scannedMilestone input result) context input.actorId
        .done result
      else .done result : Program ScanPayloadDTO) := by
  split
  · exact ⟨rfl, fun _ => trivial⟩
  · trivial

theorem kinds_publishRevokedMilestone :
    Kinds [.now, .send] (publishRevokedMilestone platform ticket context) := by
  unfold publishRevokedMilestone
  split
  · exact kinds_discard rfl
  · exact (kinds_issue rfl).bind fun _ => kinds_discard rfl

end Parts

section Calls

def Call.kinds : Call → List Kind
  | .createTicket .. => [.ticketFindByInvitation, .ticketCreate, .send] ++ factKinds
  | .activateDevice .. => [.ticketFindUnique .tx, .now, .ticketUpdate .tx, .ticketUpdateMany]
  | .generateToken .. => [.ticketFindUnique .prisma, .now, .tokenGenerate]
  | .delete .. =>
    [.ticketFindUnique .prisma, .scanLogDeleteMany, .shareGuardDeleteMany, .ticketDelete] ++ permissionKinds
  | .deleteByEventIds _ => [.ticketFindIds, .scanLogDeleteMany, .shareGuardDeleteMany, .ticketDeleteMany]
  | .deleteByGuestId _ => [.ticketFindIds, .scanLogDeleteMany, .shareGuardDeleteMany, .ticketDeleteMany]
  | .revoke .. =>
    [.ticketFindUnique .prisma, .ticketUpdate .tx, .scanLogCreate, .send] ++ factKinds ++ permissionKinds
  | .updatePresence .. =>
    [.ticketFindUnique .prisma, .ticketUpdate .tx, .scanLogCreate] ++ factKinds ++ permissionKinds
  | .resetDeviceBinding .. =>
    [.ticketFindUnique .prisma, .ticketUpdate .tx, .scanLogCreate] ++ permissionKinds
  | .scan .. => verifyKinds ++ permissionKinds ++ [.scanLogCreate, .outboxCreate, .send]
  | .resetShareGuard _ => [.shareGuardFindUnique, .shareGuardUpdate]
  | .applyDecision .. => decisionKinds
  | .userAccessChanged _ => [.accessFindUnique, .accessUpsert]
  | .roleAssigned _ => [.roleFindUnique, .roleUpsert]
  | .roleRemoved _ => [.roleFindUnique, .roleDeleteMany]
  | .ownerChanged _ => [.roleFindUnique, .roleUpsert, .roleDeleteMany]
  | .eventDeleted _ => [.roleDeleteMany, .settingsDeleteMany, .accessDeleteMany]
  | .eventCreated _ => [.settingsUpsert]
  | .eventUpdated _ => [.settingsFindUnique, .settingsUpsert]

variable {uuid : Nat → Uuid} {context : RequestContext} {ticketId actorId : Uuid}

theorem kinds_createTicket {data : CreateTicketInput} :
    Kinds (Call.createTicket context data).kinds (createTicket platform uuid context data) := by
  refine (kinds_issue rfl).bind fun existing => ?_
  cases existing with
  | some existing =>
    dsimp only
    split
    · trivial
    · exact (kinds_discard rfl).bind fun _ => trivial
  | none =>
    refine Prog.Issues.bind (Prog.Issues.transaction ?_) fun created =>
      (kinds_discard rfl).bind fun _ => trivial
    exact (kinds_issue rfl).bind fun result => (kinds_enqueue.mono rfl).bind fun _ => trivial

theorem kinds_activateDevice {input : ActivateDeviceDTO} :
    Kinds (Call.activateDevice input actorId).kinds
      (TicketMutationResolver.activateDevice platform input actorId) := by
  unfold TicketMutationResolver.activateDevice
  split
  · trivial
  refine Prog.Issues.transaction ((kinds_issue rfl).bind fun ticket => ?_)
  cases ticket with
  | none => trivial
  | some ticket =>
    dsimp only
    repeat' split
    · trivial
    · trivial
    · trivial
    · refine (kinds_issue rfl).bind fun now => (kinds_issue rfl).bind fun updated => ?_
      exact (kinds_issue rfl).bind fun _ => trivial

theorem kinds_generateToken :
    Kinds (Call.generateToken ticketId actorId).kinds (generateToken platform ticketId actorId) := by
  refine (kinds_issue rfl).bind fun ticket => ?_
  cases ticket with
  | none => trivial
  | some ticket =>
    dsimp only
    split
    · trivial
    · split
      · trivial
      · exact (kinds_issue rfl).bind fun _ => (kinds_issue rfl).bind fun _ => kinds_issue rfl

theorem kinds_delete : Kinds (Call.delete ticketId actorId).kinds (delete platform ticketId actorId) := by
  refine (kinds_issue rfl).bind fun ticket => ?_
  cases ticket with
  | none => trivial
  | some ticket =>
    refine (kinds_assertManageTicket.mono rfl).bind fun _ => Prog.Issues.transaction ?_
    exact (kinds_discard rfl).bind fun _ => (kinds_discard rfl).bind fun _ => kinds_discard rfl

theorem kinds_deleteWhere {filter : Ticket → Bool} :
    Kinds [.ticketFindIds, .scanLogDeleteMany, .shareGuardDeleteMany, .ticketDeleteMany]
      (transaction (deleteWhere filter)) := by
  refine Prog.Issues.transaction ((kinds_issue rfl).bind fun ids => ?_)
  split
  · trivial
  · exact (kinds_discard rfl).bind fun _ => (kinds_discard rfl).bind fun _ => kinds_discard rfl

theorem kinds_revoke {reason : Option String} :
    Kinds (Call.revoke context ticketId reason actorId).kinds
      (revoke platform uuid context ticketId reason actorId) := by
  refine (kinds_issue rfl).bind fun now => (kinds_issue rfl).bind fun ticket => ?_
  cases ticket with
  | none => trivial
  | some ticket =>
    refine (kinds_assertManageTicket.mono rfl).bind fun _ => ?_
    split
    · exact (kinds_publishRevokedMilestone.mono rfl).bind fun _ => trivial
    · refine Prog.Issues.bind (Prog.Issues.transaction ?_) fun updated => ?_
      · refine (kinds_issue rfl).bind fun result => (kinds_issue rfl).bind fun _ => ?_
        exact (kinds_enqueue.mono rfl).bind fun _ => trivial
      · exact (kinds_publishRevokedMilestone.mono rfl).bind fun _ => trivial

theorem kinds_updatePresence {state : PresenceState} :
    Kinds (Call.updatePresence context ticketId state actorId).kinds
      (updatePresence platform uuid context ticketId state actorId) := by
  refine (kinds_issue rfl).bind fun ticket => ?_
  cases ticket with
  | none => trivial
  | some ticket =>
    refine (kinds_getPermissionsForUser.mono rfl).bind fun permissions => ?_
    repeat' split
    · trivial
    · trivial
    · trivial
    · have checked : Kinds [.now] (firstCheckIn ticket state) := by
        unfold firstCheckIn
        split
        · exact (kinds_issue rfl).bind fun _ => trivial
        · trivial
      refine Prog.Issues.transaction ((checked.mono rfl).bind fun checkedInAt => ?_)
      refine (kinds_issue rfl).bind fun _ => ?_
      exact (kinds_issue rfl).bind fun _ => (kinds_enqueue.mono rfl).bind fun _ => trivial

theorem kinds_resetDeviceBinding :
    Kinds (Call.resetDeviceBinding ticketId actorId).kinds
      (resetDeviceBinding platform uuid ticketId actorId) := by
  refine (kinds_issue rfl).bind fun ticket => ?_
  cases ticket with
  | none => trivial
  | some ticket =>
    refine (kinds_assertManageTicket.mono rfl).bind fun _ => ?_
    split
    · trivial
    · refine Prog.Issues.transaction ((kinds_issue rfl).bind fun _ => ?_)
      exact (kinds_issue rfl).bind fun _ => trivial

theorem kinds_scanToken {input : SecurityScanInput} :
    Kinds (Call.scan context input).kinds (TicketMutationResolver.scanToken platform uuid context input) := by
  unfold TicketMutationResolver.scanToken
  split
  · trivial
  refine Prog.Issues.bind (Prog.Issues.transaction ?_) fun result => kinds_finished.mono rfl
  exact (kinds_verifyToken.mono rfl).bind fun result => kinds_scanned.mono rfl

theorem kinds_handler {stmt stmt' : Stmt} {stale : stmt.Res → Bool}
    (finds : ks.contains stmt.kind = true) (writes : ks.contains stmt'.kind = true) :
    Kinds ks (issue stmt >>= fun existing => if stale existing then .done () else discard stmt') := by
  refine (kinds_issue finds).bind fun existing => ?_
  split
  · trivial
  · exact kinds_discard writes

theorem kinds_handleOwnerChanged {payload : EventOwnerChangedDTO} :
    Kinds (Call.ownerChanged payload).kinds (handleOwnerChanged payload) := by
  have promoted : Kinds (Call.ownerChanged payload).kinds (promoteNewOwner payload) := kinds_handler rfl rfl
  unfold handleOwnerChanged
  split
  · exact Prog.Issues.bind (kinds_handler rfl rfl) fun _ => promoted
  · exact promoted

theorem kinds_handleEventDeleted {eventIds : List Uuid} :
    Kinds (Call.eventDeleted eventIds).kinds (handleEventDeleted eventIds) := by
  refine Prog.Issues.bind (kinds_attempt rfl) fun roles => ?_
  refine Prog.Issues.bind (kinds_attempt rfl) fun settings => ?_
  refine Prog.Issues.bind (kinds_attempt rfl) fun access => ?_
  split <;> trivial

theorem kinds_program (call : Call) (number : Nat) : Kinds call.kinds (program platform number call) := by
  have answered {α : Type} {ks : List Kind} {p : Program α} {reply : α → Reply} (issues : Kinds ks p) :
      Kinds ks (answer p reply) :=
    Prog.Issues.bind issues fun _ => trivial
  cases call with
  | createTicket context data => exact answered kinds_createTicket
  | activateDevice input actorId => exact answered kinds_activateDevice
  | generateToken ticketId actorId => exact answered kinds_generateToken
  | delete ticketId actorId => exact answered kinds_delete
  | deleteByEventIds eventIds =>
    refine answered ?_
    unfold deleteByEventIds
    split
    · trivial
    · exact kinds_deleteWhere
  | deleteByGuestId guestId => exact answered kinds_deleteWhere
  | revoke context ticketId reason actorId => exact answered kinds_revoke
  | updatePresence context ticketId state actorId => exact answered kinds_updatePresence
  | resetDeviceBinding ticketId actorId => exact answered kinds_resetDeviceBinding
  | scan context input => exact answered kinds_scanToken
  | resetShareGuard ticketId => exact answered kinds_resetShareGuard
  | applyDecision ticketId result => exact answered kinds_applyDecision
  | userAccessChanged payload => exact answered (kinds_handler rfl rfl)
  | roleAssigned payload => exact answered (kinds_handler rfl rfl)
  | roleRemoved payload => exact answered (kinds_handler rfl rfl)
  | ownerChanged payload => exact answered kinds_handleOwnerChanged
  | eventDeleted eventIds => exact answered kinds_handleEventDeleted
  | eventCreated payload => exact answered (kinds_discard rfl)
  | eventUpdated payload => exact answered (kinds_handler rfl rfl)

end Calls

end TicketService
