import TicketService.Refinement.Alone
import TicketService.Refinement.Life

set_option autoImplicit false

namespace TicketService

open Interleaving Relational

variable {platform : Platform}

theorem executes_sequential {world : World} (pristine : Pristine world) {c : ServiceState}
    (reachable : (service platform).Reachable world c) (closed : ∀ th ∈ c.threads, th.tx = none)
    {call : Call} {out : Except Exn Reply} {tx' : Option Tx} {w' : World}
    (run : Executes platform (program platform c.shared.calls.length call) none c.shared.world out
      tx' w') :
    ∃ c', (service platform).Sequential Ticks c call c' ∧ c'.shared.world = w' ∧
      c'.threads[c.threads.length]? = some ⟨Prog.ended out, tx'⟩ := by
  have numbered := (reachable_sound pristine reachable).numbered
  rw [← numbered] at run
  let begun : ServiceState :=
    { shared := c.shared.invoke call
      threads := c.threads ++ [⟨program platform c.threads.length call, none⟩] }
  have invoked : (service platform).step c (.invoke call) = some begun := by
    simp [System.step, begun, numbered, service]
  have idle : (service platform).Idle begun c.threads.length := by
    intro j th different present
    have member : th ∈ begun.threads := List.mem_of_getElem? present
    have unopened : th.tx = none := by
      rcases List.mem_append.mp member with before | last
      · exact closed th before
      · rw [List.mem_singleton.mp last]
    rw [unopened]
    rfl
  have present : begun.threads[c.threads.length]? =
      some ⟨program platform c.threads.length call, none⟩ := by simp [begun]
  have run : Alone (service platform).engine Ticks (program platform c.threads.length call) none
      c.shared.world out tx' w' := run
  obtain ⟨c', runs, world', ended⟩ := run.runs present rfl idle
  exact ⟨c', ⟨begun, invoked, runs⟩, world', ended⟩

-- The exceptions that refuse the caller.
def Denied (error : Exn) : Prop :=
  error.accessDenied = true

def Stmt.acquires : Stmt → Bool
  | .rawSetIfAbsent .. => true
  | _ => false

def Stmt.writesAccess : Stmt → Bool
  | .accessUpsert .. => true
  | .accessDeleteMany _ => true
  | _ => false

theorem Tx.apply_kept (tx : Tx) (s : Store) :
    (tx.apply s).replayKeys = s.replayKeys ∧ (tx.apply s).eventAccess = s.eventAccess := by
  obtain ⟨writes⟩ := tx
  induction writes generalizing s with
  | nil => exact ⟨rfl, rfl⟩
  | cons write rest ih =>
    have first : (write.apply s).replayKeys = s.replayKeys ∧
        (write.apply s).eventAccess = s.eventAccess := by
      cases write with
      | putTicket id state updatedAt => simp [Write.apply]
      | _ => exact ⟨rfl, rfl⟩
    have later := ih (write.apply s)
    exact ⟨later.1.trans first.1, later.2.trans first.2⟩

theorem exec_kept {stmt : Stmt} {w w' : World} {tx tx' : Option Tx} {result : stmt.Res}
    (executed : exec platform stmt w tx = some (result, w', tx')) :
    (stmt.acquires = false → w'.store.replayKeys = w.store.replayKeys) ∧
      (stmt.writesAccess = false → w'.store.eventAccess = w.store.eventAccess) := by
  cases exec_effect executed with
  | ticketUpdate id data row found =>
    exact ⟨fun _ => Store.replayKeys_putTicket .., fun _ => Store.eventAccess_putTicket ..⟩
  | rawSetIfAbsent ticketId nonce seconds expired => exact ⟨nofun, fun _ => rfl⟩
  | accessUpsert row data rows => exact ⟨fun _ => rfl, nofun⟩
  | accessDeleteMany ids rows => exact ⟨fun _ => rfl, nofun⟩
  | _ => exact ⟨fun _ => rfl, fun _ => rfl⟩

abbrev ChecksFirst {α : Type} (p : Program α) : Prop :=
  p.ChecksFirst KeepsStore Denied

abbrev NeverDenies {α : Type} (p : Program α) : Prop :=
  p.Avoids Denied

section Blocks

open Prog AnalyticsOutboxService ScanService ShareGuardService TicketEventRoleResolver
  TicketWriteService TokenService

variable {α : Type}

theorem statementFailed_undenied : ¬Denied .statementFailed := by simp [Denied, Exn.accessDenied]

theorem neverDenies_issue (stmt : Stmt) : NeverDenies (issue stmt) :=
  Avoids.perform statementFailed_undenied

theorem neverDenies_discard (stmt : Stmt) : NeverDenies (discard stmt) :=
  Avoids.bind (neverDenies_issue stmt) fun _ => trivial

theorem neverDenies_enqueue {context : RequestContext} {id : Uuid} {topic : FactTopic}
    {fact : FactInput} : NeverDenies (enqueue platform context id topic fact) := by
  unfold enqueue
  split
  · simp [Avoids, Denied, Exn.accessDenied]
  · refine Avoids.bind (neverDenies_issue _) fun _ => ?_
    split
    · exact neverDenies_discard _
    · simp [Avoids, Denied, Exn.accessDenied]

theorem neverDenies_publishMilestone {payload : EventMilestoneRecordedDTO}
    {context : RequestContext} :
    NeverDenies (TicketWriteService.publishMilestone platform payload context) :=
  neverDenies_discard _

theorem quiet_assertManageTicket {eventId actorId : Uuid} :
    Quiet (assertManageTicket platform eventId actorId) :=
  silent_assertManageTicket.mono fun _ silent => silent.1

theorem checksFirst_transaction {body : Program α} (quiet : Quiet body) :
    ChecksFirst (transaction body) :=
  ChecksFirst.transaction statementFailed_undenied quiet

theorem checksFirst_read {stmt : Stmt} {next : stmt.Res → Program α} (keeps : KeepsStore stmt)
    (rest : ∀ result, ChecksFirst (next result)) : ChecksFirst ((issue stmt).bind next) :=
  ChecksFirst.bind_leaves (quiet_issue keeps) rest

theorem neverDenies_createTicket {uuid : Nat → Uuid} {context : RequestContext}
    {data : CreateTicketInput} : NeverDenies (createTicket platform uuid context data) := by
  refine Avoids.bind (neverDenies_issue _) fun existing => ?_
  cases existing with
  | some existing =>
    dsimp only
    split
    · simp [Avoids, Denied, Exn.accessDenied]
    · exact Avoids.bind neverDenies_publishMilestone fun _ => trivial
  | none =>
    refine Avoids.bind (Avoids.transaction statementFailed_undenied ?_) fun _ =>
      Avoids.bind neverDenies_publishMilestone fun _ => trivial
    exact Avoids.bind (neverDenies_issue _) fun _ => Avoids.bind neverDenies_enqueue fun _ => trivial

theorem checksFirst_activateDevice {input : ActivateDeviceDTO} {userId : Uuid} :
    ChecksFirst (TicketMutationResolver.activateDevice platform input userId) := by
  unfold TicketMutationResolver.activateDevice
  split
  · trivial
  · refine checksFirst_transaction (Leaves.bind (quiet_issue rfl) fun ticket => ?_)
    cases ticket with
    | none => trivial
    | some ticket =>
      dsimp only
      split
      · trivial
      · split
        · trivial
        · split
          · trivial
          · exact Leaves.bind (quiet_issue rfl) fun _ => Leaves.bind (quiet_issue rfl) fun _ =>
              Leaves.bind (quiet_issue rfl) fun _ => trivial

theorem checksFirst_generateToken {ticketId actorId : Uuid} :
    ChecksFirst (generateToken platform ticketId actorId) := by
  refine checksFirst_read rfl fun ticket => ?_
  cases ticket with
  | none => trivial
  | some ticket =>
    dsimp only
    split
    · trivial
    · split
      · trivial
      · exact Leaves.checksFirst (Leaves.bind (quiet_issue rfl) fun _ =>
          Leaves.bind (quiet_issue rfl) fun _ => quiet_issue rfl)

theorem checksFirst_delete {ticketId actorId : Uuid} :
    ChecksFirst (delete platform ticketId actorId) := by
  refine checksFirst_read rfl fun ticket => ?_
  cases ticket with
  | none => trivial
  | some ticket =>
    refine ChecksFirst.bind_leaves quiet_assertManageTicket fun _ => checksFirst_transaction ?_
    exact Leaves.bind (quiet_discard rfl) fun _ => Leaves.bind (quiet_discard rfl) fun _ =>
      quiet_discard rfl

theorem checksFirst_deleteWhere {filter : Ticket → Bool} :
    ChecksFirst (transaction (deleteWhere filter)) := by
  refine checksFirst_transaction (Leaves.bind (quiet_issue rfl) fun ticketIds => ?_)
  split
  · trivial
  · exact Leaves.bind (quiet_discard rfl) fun _ => Leaves.bind (quiet_discard rfl) fun _ =>
      quiet_discard rfl

theorem neverDenies_publishRevokedMilestone {ticket : Ticket} {context : RequestContext} :
    NeverDenies (publishRevokedMilestone platform ticket context) := by
  unfold publishRevokedMilestone
  split
  · exact neverDenies_publishMilestone
  · exact Avoids.bind (neverDenies_issue _) fun _ => neverDenies_publishMilestone

theorem checksFirst_revoke {uuid : Nat → Uuid} {context : RequestContext} {ticketId : Uuid}
    {reason : Option String} {actorId : Uuid} :
    ChecksFirst (revoke platform uuid context ticketId reason actorId) := by
  refine checksFirst_read rfl fun now => checksFirst_read rfl fun ticket => ?_
  cases ticket with
  | none => trivial
  | some ticket =>
    refine ChecksFirst.bind_leaves quiet_assertManageTicket fun _ => ?_
    have published (row : Ticket) : NeverDenies
        ((publishRevokedMilestone platform row context).bind fun _ => .done row) :=
      Avoids.bind neverDenies_publishRevokedMilestone fun _ => trivial
    split
    · exact (published ticket).checksFirst
    · refine ChecksFirst.bind (checksFirst_transaction ?_) published
      exact Leaves.bind (quiet_issue rfl) fun _ => Leaves.bind (quiet_issue rfl) fun _ =>
        Leaves.bind quiet_enqueue fun _ => trivial

theorem checksFirst_updatePresence {uuid : Nat → Uuid} {context : RequestContext} {ticketId : Uuid}
    {state : PresenceState} {actorId : Uuid} :
    ChecksFirst (updatePresence platform uuid context ticketId state actorId) := by
  refine checksFirst_read rfl fun ticket => ?_
  cases ticket with
  | none => trivial
  | some ticket =>
    refine ChecksFirst.bind_leaves quiet_getPermissionsForUser fun permissions => ?_
    split
    · trivial
    · split
      · trivial
      · split
        · trivial
        · refine checksFirst_transaction (Leaves.bind ?_ fun _ => ?_)
          · unfold firstCheckIn
            split
            · exact Leaves.bind (quiet_issue rfl) fun _ => trivial
            · trivial
          · exact Leaves.bind (quiet_issue rfl) fun _ => Leaves.bind (quiet_issue rfl) fun _ =>
              Leaves.bind quiet_enqueue fun _ => trivial

theorem checksFirst_resetDeviceBinding {uuid : Nat → Uuid} {ticketId actorId : Uuid} :
    ChecksFirst (resetDeviceBinding platform uuid ticketId actorId) := by
  refine checksFirst_read rfl fun ticket => ?_
  cases ticket with
  | none => trivial
  | some ticket =>
    refine ChecksFirst.bind_leaves quiet_assertManageTicket fun _ => ?_
    split
    · trivial
    · exact checksFirst_transaction (Leaves.bind (quiet_issue rfl) fun _ =>
        Leaves.bind (quiet_issue rfl) fun _ => trivial)

theorem neverDenies_resetShareGuard {ticketId : Uuid} :
    NeverDenies (resetShareGuard ticketId) := by
  refine Avoids.bind (neverDenies_issue _) fun guard => ?_
  cases guard with
  | none => trivial
  | some guard => exact Avoids.bind (neverDenies_issue _) fun _ => trivial

theorem neverDenies_applyDecision {ticketId : Uuid} {result : RiskResult} :
    NeverDenies (applyDecision ticketId result) := by
  refine Avoids.bind (neverDenies_issue _) fun _ => Avoids.bind (neverDenies_issue _) fun _ => ?_
  dsimp only
  split
  · exact Avoids.bind (neverDenies_issue _) fun _ => trivial
  · split <;> exact Avoids.bind (neverDenies_issue _) fun _ => trivial

theorem neverDenies_handler {find write : Stmt} {stale : find.Res → Bool} :
    NeverDenies (issue find >>= fun row => if stale row then .done () else discard write) := by
  refine Avoids.bind (neverDenies_issue _) fun row => ?_
  split
  · trivial
  · exact neverDenies_discard _

theorem neverDenies_handleOwnerChanged {payload : EventOwnerChangedDTO} :
    NeverDenies (EventRoleHandler.handleOwnerChanged payload) := by
  unfold EventRoleHandler.handleOwnerChanged
  split
  · exact Avoids.bind neverDenies_handler fun _ => neverDenies_handler
  · exact neverDenies_handler

theorem neverDenies_handleEventDeleted {eventIds : List Uuid} :
    NeverDenies (EventRoleHandler.handleEventDeleted eventIds) := by
  have attempted (stmt : Stmt) : NeverDenies (attempt stmt) := fun _ => trivial
  refine Avoids.bind (attempted _) fun roles => Avoids.bind (attempted _) fun settings => ?_
  refine Avoids.bind (attempted _) fun access => ?_
  split
  · trivial
  · exact Bool.false_ne_true

theorem checksFirst_answer {p : Program α} {reply : α → Reply} (checks : ChecksFirst p) :
    ChecksFirst (answer p reply) :=
  ChecksFirst.bind checks fun _ => trivial

def Call.scans : Call → Bool
  | .scan .. => true
  | _ => false

theorem checksFirst_program {number : Nat} {call : Call} (other : call.scans = false) :
    ChecksFirst (program platform number call) := by
  cases call with
  | createTicket => exact checksFirst_answer neverDenies_createTicket.checksFirst
  | activateDevice => exact checksFirst_answer checksFirst_activateDevice
  | generateToken => exact checksFirst_answer checksFirst_generateToken
  | delete => exact checksFirst_answer checksFirst_delete
  | deleteByEventIds eventIds =>
    refine checksFirst_answer ?_
    unfold deleteByEventIds
    split
    · trivial
    · exact checksFirst_deleteWhere
  | deleteByGuestId => exact checksFirst_answer checksFirst_deleteWhere
  | revoke => exact checksFirst_answer checksFirst_revoke
  | updatePresence => exact checksFirst_answer checksFirst_updatePresence
  | resetDeviceBinding => exact checksFirst_answer checksFirst_resetDeviceBinding
  | scan => cases other
  | resetShareGuard => exact checksFirst_answer neverDenies_resetShareGuard.checksFirst
  | applyDecision => exact checksFirst_answer neverDenies_applyDecision.checksFirst
  | userAccessChanged => exact checksFirst_answer neverDenies_handler.checksFirst
  | roleAssigned => exact checksFirst_answer neverDenies_handler.checksFirst
  | roleRemoved => exact checksFirst_answer neverDenies_handler.checksFirst
  | ownerChanged => exact checksFirst_answer neverDenies_handleOwnerChanged.checksFirst
  | eventDeleted => exact checksFirst_answer neverDenies_handleEventDeleted.checksFirst
  | eventCreated => exact checksFirst_answer (neverDenies_discard _).checksFirst
  | eventUpdated => exact checksFirst_answer neverDenies_handler.checksFirst

end Blocks

end TicketService
