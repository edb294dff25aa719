import TicketService.Refinement.Writes

set_option autoImplicit false

namespace TicketService

open Interleaving Relational

variable {platform : Platform} {i : Nat} {g : Global}

structure Pristine (w : World) : Prop where
  tickets : w.store.tickets.rows = []
  scanLogs : w.store.scanLogs = []
  shareGuards : w.store.shareGuards.rows = []
  analyticsOutbox : w.store.analyticsOutbox = []
  replayKeys : w.store.replayKeys.rows = []
  minted : w.minted = []

theorem pristine_empty : Pristine World.empty := ⟨rfl, rfl, rfl, rfl, rfl, rfl⟩

namespace EventRoleHandler

theorem safe_handler {find write : Stmt} {stale : find.Res → Bool}
    {Q : Unit → Option Tx → Global → Prop} {value : World → find.Res}
    (reading : ∀ w, exec platform find w none = some (value w, w, none))
    (finds : ∀ g', Issued platform g' i find)
    (writes : ∀ g' existing, Moves i none g g' → Seen g' i find existing (fun w => value w = existing) →
      stale existing = false → Issued platform g' i write)
    (skips : ∀ later existing, Seen later i find existing (fun w => value w = existing) →
      stale existing = true → Q () none later)
    (stores : ∀ later result, Seen later i write result (fun _ => True) → Q () none later) :
    Safe platform i Q
      (issue find >>= fun row => if stale row then .done () else discard write) none g := by
  refine Safe.bind (Safe.query reading finds fun g₁ g₂ before _ after seen => ?_)
  have read : Seen g₂ i find (value g₁.world) fun w => value w = value g₁.world :=
    seen.imp fun w same => by rw [same]
  split
  next newer => exact Safe.done fun later moved => skips later _ (moved.toExtends.seen read) newer
  next fresh =>
    refine safe_discard (Safe.store (by simp) (fun _ _ _ _ => exec_alone) (fun g' moved => ?_) ?_)
    · exact writes g' _ ((before.trans after).trans moved) (moved.toExtends.seen read)
        (by simpa using fresh)
    · intro g' result w later _ _ _ _ stored last moved
      exact stores last result (moved.toExtends.seen (stored.imp fun _ _ => trivial))

theorem safe_role_handler {find write : Stmt} {stale : find.Res → Bool}
    {Q : Unit → Option Tx → Global → Prop} {value : World → find.Res}
    (reading : ∀ w, exec platform find w none = some (value w, w, none))
    (finds : ∀ g', Issued platform g' i find) (writes : ∀ g', Issued platform g' i write)
    (post : ∀ later, Q () none later) :
    Safe platform i Q
      (issue find >>= fun row => if stale row then .done () else discard write) none g :=
  safe_handler reading finds (fun g' _ _ _ _ => writes g') (fun later _ _ _ => post later)
    fun later _ _ => post later

theorem safe_handleUserAccessChanged {payload : EventAccessDTO}
    (called : g.calls[i]? = some (.userAccessChanged payload)) :
    Safe platform i (fun _ _ g' => Handled g' i payload) (handleUserAccessChanged payload) none g := by
  refine safe_handler (fun _ => rfl) (fun _ => trivial) ?_ ?_ ?_
  · intro g' existing moved read fresh
    exact ⟨payload, existing, moved.calls _ _ called, read, fresh, rfl, rfl⟩
  · intro later existing read newer
    exact .inr ⟨existing, read, newer⟩
  · intro later result stored
    exact .inl ⟨result, stored⟩

theorem safe_handleRoleAssigned {payload : EventRoleAssignedDTO} :
    Safe platform i (fun _ _ _ => True) (handleRoleAssigned payload) none g :=
  safe_role_handler (fun _ => rfl) (fun _ => trivial) (fun _ => trivial) fun _ => trivial

theorem safe_handleRoleRemoved {payload : EventRoleRemovedDTO} :
    Safe platform i (fun _ _ _ => True) (handleRoleRemoved payload) none g :=
  safe_role_handler (fun _ => rfl) (fun _ => trivial) (fun _ => trivial) fun _ => trivial

theorem safe_handleOwnerChanged {payload : EventOwnerChangedDTO} :
    Safe platform i (fun _ _ _ => True) (handleOwnerChanged payload) none g := by
  have promote (later : Global) :
      Safe platform i (fun _ _ _ => True) (promoteNewOwner payload) none later :=
    safe_role_handler (fun _ => rfl) (fun _ => trivial) (fun _ => trivial) fun _ => trivial
  unfold handleOwnerChanged
  split
  · exact Safe.bind (safe_role_handler (fun _ => rfl) (fun _ => trivial) (fun _ => trivial) promote)
  · exact promote g

theorem safe_handleEventDeleted {eventIds : List Uuid}
    (called : g.calls[i]? = some (.eventDeleted eventIds)) :
    Safe platform i (fun _ _ _ => True) (handleEventDeleted eventIds) none g := by
  refine Safe.bind (safe_attempt (fun _ _ => trivial) fun roles g₁ first => ?_)
  refine Safe.bind (safe_attempt (fun _ _ => trivial) fun settings g₂ second => ?_)
  have called₂ := (first.trans second).calls _ _ called
  refine Safe.bind (safe_attempt (fun _ moved => moved.calls _ _ called₂) fun access g₃ third => ?_)
  split
  · exact Safe.done fun _ _ => trivial
  · exact Safe.throw _

end EventRoleHandler

namespace EventSettingsHandler

theorem safe_handleEventCreated {payload : EventCreatedDTO} :
    Safe platform i (fun _ _ _ => True) (handleEventCreated payload) none g :=
  safe_alone (fun _ => trivial) fun _ _ => trivial

theorem safe_handleEventUpdated {payload : EventUpdatedDTO} :
    Safe platform i (fun _ _ _ => True) (handleEventUpdated payload) none g :=
  EventRoleHandler.safe_role_handler (fun _ => rfl) (fun _ => trivial) (fun _ => trivial)
    fun _ => trivial

end EventSettingsHandler

theorem safe_answer {α : Type} {p : Program α} {reply : α → Reply} {call : Call}
    (safe : Safe platform i (fun _ _ g' => call.Answered g' i) p none g) :
    Safe platform i (fun _ _ g' => call.Answered g' i) (answer p reply) none g :=
  Safe.bind (safe.mono fun _ _ _ answered => Safe.done fun _ moved =>
    answered.extends moved.toExtends)

open EventRoleHandler EventSettingsHandler TicketWriteService in
theorem safe_program {call : Call} (uncommitted : ¬Committed g i)
    (called : g.calls[i]? = some call) :
    Safe platform i (fun _ _ g' => call.Answered g' i) (program platform i call) none g := by
  cases call with
  | createTicket context data => exact safe_answer (safe_createTicket uncommitted called)
  | activateDevice input actorId =>
    exact safe_answer (safe_activateDevice uncommitted called)
  | generateToken ticketId actorId => exact safe_answer (safe_generateToken called)
  | delete ticketId actorId => exact safe_answer (safe_delete uncommitted called)
  | deleteByEventIds eventIds =>
    exact safe_answer (safe_deleteByEventIds uncommitted called)
  | deleteByGuestId guestId => exact safe_answer (safe_deleteByGuestId uncommitted called)
  | revoke context ticketId reason actorId =>
    exact safe_answer (safe_revoke uncommitted called)
  | updatePresence context ticketId state actorId =>
    exact safe_answer (safe_updatePresence uncommitted called)
  | resetDeviceBinding ticketId actorId =>
    exact safe_answer (safe_resetDeviceBinding uncommitted called)
  | scan context input =>
    refine safe_answer ?_
    unfold TicketMutationResolver.scanToken
    split
    · exact Safe.throw _
    · exact ScanService.safe_scan uncommitted called
  | resetShareGuard ticketId =>
    exact safe_answer (ShareGuardService.safe_resetShareGuard (by simp) fun _ _ _ => trivial)
  | applyDecision ticketId result =>
    exact safe_answer (ShareGuardService.safe_applyDecision (by simp) fun _ _ => trivial)
  | userAccessChanged payload => exact safe_answer (safe_handleUserAccessChanged called)
  | roleAssigned payload => exact safe_answer safe_handleRoleAssigned
  | roleRemoved payload => exact safe_answer safe_handleRoleRemoved
  | ownerChanged payload => exact safe_answer safe_handleOwnerChanged
  | eventDeleted eventIds => exact safe_answer (safe_handleEventDeleted called)
  | eventCreated payload => exact safe_answer safe_handleEventCreated
  | eventUpdated payload => exact safe_answer safe_handleEventUpdated

/-- Every step of every call is a `Change`. -/
theorem service_keeps (platform : Platform) : (service platform).Keeps (contract platform) where
  conflict_comm := Lock.conflict_comm
  fresh_held := rfl
  exec_held _ _ _ _ _ _ executed := exec_held executed
  exec_frame _ _ _ _ _ _ _ executed free := exec_protected executed free
  publish_frame _ _ _ free := publish_protected free
  environ_frame := environ_protected
  frame_refl := Protected.refl
  invoke _ call _ := .invoke call
  environ _ action _ := .environ action
  inv_guar _ _ _ rooted change := Change.rooted change rooted
  safe g call rooted := by
    have called : (g.invoke call).calls[g.calls.length]? = some call := by
      simp [Shared.invoke]
    have uncommitted : ¬Committed (g.invoke call) g.calls.length := fun committed =>
      absurd (rooted.numbered _ committed) (Nat.lt_irrefl _)
    have safe : Safe platform g.calls.length
        (fun _ _ g' => call.Answered g' g.calls.length)
        (program platform g.calls.length call) none (g.invoke call) :=
      safe_program uncommitted called
    have kept := safe.invariant (P := fun g' => g'.calls[g.calls.length]? = some call)
      (fun _ _ _ change present => (Change.extends change).calls _ _ present) called
    refine kept.mono ?_
    rintro reply tx later ⟨answered, present⟩ call' found
    rw [present] at found
    cases found
    exact answered

theorem Pristine.rooted {w : World} (pristine : Pristine w) :
    Rooted ((service platform).initial w).shared where
  numbered := by
    rintro i ⟨tx, w', member⟩
    cases member
  tickets row present := by
    have : row ∈ w.store.tickets.rows := present
    simp [pristine.tickets] at this

theorem reachable_sound {w : World} (pristine : Pristine w) {c : ServiceState}
    (reachable : (service platform).Reachable w c) : (service platform).Sound (contract platform) c :=
  (System.initial_sound pristine.rooted).runs (service_keeps platform) reachable

theorem reachable_rooted {w : World} (pristine : Pristine w) {c : ServiceState}
    (reachable : (service platform).Reachable w c) : Rooted c.shared :=
  (reachable_sound pristine reachable).inv

theorem runs_invariant {w : World} (pristine : Pristine w) {c c' : ServiceState}
    (reachable : (service platform).Reachable w c) (runs : (service platform).Runs c c')
    (P : Global → Prop) (base : P c.shared)
    (preserved : ∀ actor g g', Rooted g → P g → Change platform actor g g' → P g') : P c'.shared :=
  (reachable_sound pristine reachable).invariant (service_keeps platform) runs P base preserved

theorem reachable_invariant {w : World} (pristine : Pristine w) {c : ServiceState}
    (reachable : (service platform).Reachable w c) (P : Global → Prop)
    (base : P ((service platform).initial w).shared)
    (preserved : ∀ actor g g', Rooted g → P g → Change platform actor g g' → P g') : P c.shared :=
  runs_invariant pristine .refl reachable P base preserved

theorem initial_past {w : World} : Past ((service platform).initial w).shared := by
  intro e member
  cases member

theorem reachable_past {w : World} (pristine : Pristine w) {c : ServiceState}
    (reachable : (service platform).Reachable w c) : Past c.shared :=
  reachable_invariant pristine reachable Past initial_past
    fun _ _ _ rooted past change => change.past rooted past

theorem reachable_returned {w : World} (pristine : Pristine w) {c : ServiceState}
    (reachable : (service platform).Reachable w c) {i : Nat} {reply : Reply}
    (returned : c.threads[i]?.bind Thread.returned = some reply) : Returned i reply c.shared := by
  obtain ⟨⟨prog, tx⟩, present, ended⟩ := Option.bind_eq_some_iff.mp returned
  have safe := (reachable_sound pristine reachable).safe i _ present
  cases prog with
  | done value =>
    cases ended
    exact safe c.shared .refl
  | throw => cases ended
  | call => cases ended
  | start => cases ended
  | commit => cases ended

end TicketService
