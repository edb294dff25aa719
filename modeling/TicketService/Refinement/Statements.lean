import TicketService.Interleaving.Along
import TicketService.Model.Calls

set_option autoImplicit false

namespace TicketService

open Interleaving AnalyticsOutboxService ScanService ShareGuardService TicketEventRoleResolver
open VerifyService

variable {platform : Platform}

def Stmt.proceeds : Stmt → Bool
  | .now => true
  | .verifySignature .. => true
  | .ticketUpdate .prisma _ _ => true
  | .ticketUpdateMany .. => true
  | .scanLogCreate _ => true
  | .shareGuardFindUnique _ => true
  | .shareGuardUpsert _ => true
  | .shareGuardUpdate .. => true
  | .outboxCreate _ => true
  | .rawSetIfAbsent .. => true
  | .accessFindUnique .. => true
  | .roleFindUnique .. => true
  | .settingsFindUnique _ => true
  | .send _ => true
  | _ => false

abbrev Proceeds {α : Type} (p : Program α) : Prop :=
  p.Issues fun stmt : Stmt => stmt.proceeds = true

theorem proceeds_issue {stmt : Stmt} (asked : stmt.proceeds = true) : Proceeds (issue stmt) :=
  Prog.Issues.perform asked

theorem proceeds_isBlocked {ticketId : Uuid} : Proceeds (isBlocked ticketId) := by
  refine (proceeds_issue rfl).bind fun guard => ?_
  cases Option.bind guard (·.blockedUntil) with
  | none => trivial
  | some blockedUntil => exact (proceeds_issue rfl).bind fun _ => trivial

theorem proceeds_applyDecision {ticketId : Uuid} {result : RiskResult} :
    Proceeds (applyDecision ticketId result) := by
  refine (proceeds_issue rfl).bind fun now => (proceeds_issue rfl).bind fun guard => ?_
  dsimp only
  split
  · exact (proceeds_issue rfl).bind fun _ => trivial
  · split
    · exact (proceeds_issue rfl).bind fun _ => trivial
    · exact (proceeds_issue rfl).bind fun _ => trivial

theorem proceeds_resetShareGuard {ticketId : Uuid} : Proceeds (resetShareGuard ticketId) := by
  refine (proceeds_issue rfl).bind fun guard => ?_
  cases guard with
  | none => trivial
  | some guard => exact (proceeds_issue rfl).bind fun _ => trivial

variable {ticket : Ticket} {payload : QrPayload}

theorem proceeds_rejectRisk {risk : RiskInput} {verdict : ScanVerdict} {message : String} :
    Proceeds (rejectRisk ticket payload risk verdict message) :=
  proceeds_applyDecision.bind fun _ => trivial

theorem proceeds_rotateNonce {state : PresenceState} : Proceeds (rotateNonce ticket payload state) := by
  have checked : Proceeds (checkedInAt ticket state) := by
    cases state with
    | inside => exact (proceeds_issue rfl).bind fun _ => trivial
    | outside => trivial
  refine checked.bind fun checkedInAt => (proceeds_issue rfl).bind fun count => ?_
  split
  · trivial
  · exact (proceeds_issue rfl).bind fun _ => trivial

theorem proceeds_acquireReplayKey {state : PresenceState} :
    Proceeds (acquireReplayKey ticket payload state) := by
  refine (proceeds_issue rfl).bind fun acquired => ?_
  split
  · exact proceeds_resetShareGuard.bind fun _ => proceeds_rotateNonce
  · exact proceeds_rejectRisk

theorem proceeds_applyDirectionPolicy {direction : GateDirection} :
    Proceeds (applyDirectionPolicy ticket payload direction) := by
  have ended : Proceeds (eventEnded ticket direction) := by
    cases direction with
    | exit => trivial
    | entry =>
      refine (proceeds_issue rfl).bind fun settings => ?_
      cases Option.bind settings (·.endsAt) with
      | none => trivial
      | some endsAt => exact (proceeds_issue rfl).bind fun _ => trivial
  unfold applyDirectionPolicy
  dsimp only
  split
  · trivial
  · refine ended.bind fun ended => ?_
    split
    · trivial
    · exact proceeds_acquireReplayKey

theorem proceeds_checkDevice {tokenStr signature deviceId : String} {direction : GateDirection} :
    Proceeds (checkDevice ticket payload tokenStr signature deviceId direction) := by
  unfold checkDevice
  split
  · trivial
  · refine (proceeds_issue rfl).bind fun genuine => ?_
    split
    · exact proceeds_rejectRisk
    · split
      · exact proceeds_rejectRisk
      · unfold checkNonce
        split
        · exact proceeds_rejectRisk
        · split
          · exact proceeds_rejectRisk
          · exact proceeds_applyDirectionPolicy

theorem proceeds_getPermissionsForUser {userId eventId : Uuid} :
    Proceeds (getPermissionsForUser platform userId eventId) := by
  refine (proceeds_issue rfl).bind fun access => ?_
  cases access with
  | some access => trivial
  | none => exact Prog.Issues.bind (Prog.Issues.bind (proceeds_issue rfl) fun _ => trivial) fun _ => trivial

variable {uuid : Nat → Uuid} {context : RequestContext} {input : SecurityScanInput}

theorem proceeds_enqueue {id : Uuid} {topic : FactTopic} {fact : FactInput} :
    Proceeds (enqueue platform context id topic fact) := by
  unfold enqueue
  split
  · trivial
  · refine (proceeds_issue rfl).bind fun _ => ?_
    split
    · exact (proceeds_issue rfl).bind fun _ => trivial
    · trivial

theorem proceeds_recordScan {result : VerifyResult} :
    Proceeds (recordScan platform uuid context input result) := by
  refine (proceeds_issue rfl).bind fun log => proceeds_enqueue.bind fun _ => ?_
  split
  · exact proceeds_enqueue.bind fun _ => trivial
  · trivial

theorem proceeds_publishMilestone {milestone : EventMilestoneRecordedDTO} {actorId : Uuid} :
    Proceeds (publishMilestone platform milestone context actorId) :=
  ⟨rfl, fun _ => trivial⟩

theorem issues_scan {kind : Stmt → Prop} (verifies : ∀ token, kind (.tokenVerify token))
    (finds : ∀ id, kind (.ticketFindUnique .tx id)) (asks : ∀ stmt, stmt.proceeds = true → kind stmt)
    (number : Nat) : (program platform number (.scan context input)).Issues kind := by
  have verified : (TokenService.verify input.token).Issues kind := by
    refine (Prog.Issues.perform (verifies input.token)).bind fun payload => ?_
    cases payload <;> trivial
  have ticket : (verifyToken input.token input.signature input.deviceId input.direction).Issues kind := by
    refine verified.bind fun payload => (Prog.Issues.perform (finds payload.tid)).bind fun ticket => ?_
    cases ticket with
    | none => trivial
    | some ticket =>
      dsimp only
      split
      · trivial
      · refine (proceeds_isBlocked.mono asks).bind fun blocked => ?_
        split
        · trivial
        · exact proceeds_checkDevice.mono asks
  refine Prog.Issues.bind ?_ fun _ => trivial
  unfold TicketMutationResolver.scanToken
  split
  · trivial
  refine Prog.Issues.bind (Prog.Issues.transaction (ticket.bind fun result => ?_)) fun result => ?_
  · refine (proceeds_getPermissionsForUser.mono asks).bind fun permissions => ?_
    split
    · exact proceeds_recordScan.mono asks
    · trivial
  · split
    · exact (proceeds_publishMilestone.mono asks).bind fun _ => trivial
    · trivial

end TicketService
