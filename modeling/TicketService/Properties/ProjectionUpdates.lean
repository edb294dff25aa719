import TicketService.Properties.Deliveries

set_option autoImplicit false

namespace TicketService

open EventRoleHandler EventSettingsHandler Interleaving Projecting Relational

variable {platform : Platform} {c c' : ServiceState} {ds : List Delivery}

-- The handler has issued every write that the message asks for.
def Delivery.complete (d : Delivery) : Prop :=
  d.writes = d.roleEdits.length + d.settingsEdits.length

theorem Delivered.complete_iff {d : Delivery} (delivered : Delivered platform c d c') :
    d.complete ↔ Applied c.shared.world.roleRows d.roleEdits ∧
      Applied c.shared.world.settingsRows d.settingsEdits := by
  obtain ⟨-, -, writes⟩ := delivered.edits
  have roles := written_le c.shared.world.roleRows d.roleEdits
  have settings := written_le c.shared.world.settingsRows d.settingsEdits
  rw [applied_iff_written, applied_iff_written, Delivery.complete]
  omega

theorem Deliveries.edits (deliveries : Deliveries platform c ds c') :
    c'.shared.world.roleRows =
        (ds.flatMap Delivery.roleEdits).foldl Edit.apply c.shared.world.roleRows ∧
      c'.shared.world.settingsRows =
        (ds.flatMap Delivery.settingsEdits).foldl Edit.apply c.shared.world.settingsRows ∧
      ((∀ d ∈ ds, d.complete) ↔
        Applied c.shared.world.roleRows (ds.flatMap Delivery.roleEdits) ∧
          Applied c.shared.world.settingsRows (ds.flatMap Delivery.settingsEdits)) := by
  induction deliveries with
  | nil c => simp [Applied]
  | cons delivered _ ih =>
    obtain ⟨roles, settings, -⟩ := delivered.edits
    obtain ⟨restRoles, restSettings, restComplete⟩ := ih
    have complete := delivered.complete_iff
    rw [roles] at restRoles restComplete
    rw [settings] at restSettings restComplete
    refine ⟨?_, ?_, ?_⟩
    · rw [List.flatMap_cons, List.foldl_append, restRoles]
    · rw [List.flatMap_cons, List.foldl_append, restSettings]
    · rw [List.forall_mem_cons, complete, restComplete, List.flatMap_cons, List.flatMap_cons,
        applied_append, applied_append]
      exact and_and_and_comm

def Delivery.Spaced (w : World) (ds : List Delivery) : Prop :=
  Projecting.Spaced w.roleRows.stamps (ds.flatMap roleEdits) ∧
    Projecting.Spaced w.settingsRows.stamps (ds.flatMap settingsEdits)

structure Lossless (w : World) (ds : List Delivery) (w' : World) : Prop where
  complete : ∀ d ∈ ds, d.complete
  roles : w'.roleRows.values = (ds.flatMap Delivery.roleEdits).foldl Edit.fold w.roleRows.values
  settings : w'.settingsRows.values =
    (ds.flatMap Delivery.settingsEdits).foldl Edit.fold w.settingsRows.values

/-- Messages that are handled one at a time are all projected if and only if none of them occurred
before the message that wrote its row was handled. -/
theorem lossless_iff_spaced (deliveries : Deliveries platform c ds c') :
    Lossless c.shared.world ds c'.shared.world ↔ Delivery.Spaced c.shared.world ds := by
  obtain ⟨roles, settings, complete⟩ := deliveries.edits
  rw [applied_iff_spaced, applied_iff_spaced] at complete
  constructor
  case mp =>
    intro lossless
    exact complete.mp lossless.complete
  case mpr =>
    rintro ⟨spacedRoles, spacedSettings⟩
    have appliedRoles := (applied_iff_spaced _ _).mpr spacedRoles
    have appliedSettings := (applied_iff_spaced _ _).mpr spacedSettings
    exact
      { complete := complete.mpr ⟨spacedRoles, spacedSettings⟩
        roles := by rw [roles, values_of_applied _ _ appliedRoles]
        settings := by rw [settings, values_of_applied _ _ appliedSettings] }

section Samples

open Sample

def soloAct (i : Nat) : ServiceAct → Bool
  | .invoke _ => false
  | .step j => j = i
  | .fault j => j = i
  | .environ _ => true

theorem solo_of_soloAct {i : Nat} {act : ServiceAct} (solo : soloAct i act = true) :
    act.Solo (fun _ => True) i := by
  cases act with
  | invoke call => cases solo
  | step j =>
    have same : j = i := of_decide_eq_true solo
    exact same
  | fault j =>
    have same : j = i := of_decide_eq_true solo
    exact same
  | environ action => trivial

theorem delivered_run (acts more : List ServiceAct) (d : Delivery)
    (projected : d.message.projected = true)
    (alone : more.all (soloAct (run acts).threads.length) = true)
    (returned : (run (acts ++ .invoke d.message :: more)).threads[(run acts).threads.length]?.bind
      Thread.returned = some .nothing)
    (within : (run acts).shared.world.clock ≤ d.time ∧
      d.time ≤ (run (acts ++ .invoke d.message :: more)).shared.world.clock)
    (clock : ∀ e ∈ (run (acts ++ .invoke d.message :: more)).shared.history.take
      ((run (acts ++ .invoke d.message :: more)).shared.history.length -
        (run acts).shared.history.length),
      stmtSatisfies Stmt.stamps e = true → e.world.clock = d.time)
    (writes : (((run (acts ++ .invoke d.message :: more)).shared.history.take
      ((run (acts ++ .invoke d.message :: more)).shared.history.length -
        (run acts).shared.history.length)).filter (stmtSatisfies Stmt.projects)).length =
          d.writes) :
    Delivered deployment (run acts) d (run (acts ++ .invoke d.message :: more)) := by
  have continued : run (acts ++ .invoke d.message :: more) =
      (service deployment).run (run acts) (.invoke d.message :: more) := System.run_append ..
  obtain ⟨steps, recorded⟩ : (run acts).shared.history <:+
      (run (acts ++ .invoke d.message :: more)).shared.history := by
    rw [continued]
    exact System.run_history _ _
  rw [← recorded, List.length_append, Nat.add_sub_cancel, List.take_left] at clock writes
  refine ⟨projected, ⟨_, rfl, ?_⟩, returned, within, steps, recorded.symm, clock, writes⟩
  rw [continued]
  exact (service deployment).runsBy_run _ more fun act member =>
    solo_of_soloAct (List.all_eq_true.mp alone act member)

def assignment (role : EventRoleType) (occurredAt : Time) : Call :=
  .roleAssigned { eventId := event, userId := staff, role, occurredAt }

def dayOne : List ServiceAct := [.environ (.tick 5000)]

def firstRole : Delivery where
  message := assignment .usher 1000
  time := 5000
  writes := 1

def afterFirst : List ServiceAct :=
  dayOne ++ .invoke firstRole.message :: [.step 0, .step 0]

-- The second message occurred before the first one was handled.
def lostRole : Delivery where
  message := assignment .admin 2000
  time := 6000
  writes := 0

def afterLost : List ServiceAct :=
  afterFirst ++ .invoke lostRole.message :: [.environ (.tick 1000), .step 1]

theorem lost_deliveries :
    Deliveries deployment (run dayOne) [firstRole, lostRole] (run afterLost) :=
  .cons (delivered_run dayOne _ firstRole (by decide) (by decide +kernel) (by decide +kernel)
    (by decide +kernel) (by decide +kernel) (by decide +kernel))
  (.cons (delivered_run afterFirst _ lostRole (by decide) (by decide +kernel) (by decide +kernel)
    (by decide +kernel) (by decide +kernel) (by decide +kernel)) (.nil _))

def Call.occurredAt : Call → Option Time
  | .roleAssigned payload => some payload.occurredAt
  | .roleRemoved payload => some payload.occurredAt
  | .ownerChanged payload => some payload.occurredAt
  | .eventUpdated payload => some payload.occurredAt
  | _ => none

structure InOrder (ds : List Delivery) : Prop where
  occurred : (ds.filterMap fun d => d.message.occurredAt).Pairwise (· ≤ ·)
  handled : (ds.map Delivery.time).Pairwise (· ≤ ·)
  later : ∀ d ∈ ds, ∀ occurredAt ∈ d.message.occurredAt, occurredAt ≤ d.time

theorem lost_inOrder : InOrder [firstRole, lostRole] where
  occurred := by decide
  handled := by decide
  later := by decide

theorem ordered_update_lost : ¬∀ c ds c', (service deployment).Reachable World.empty c →
    Deliveries deployment c ds c' → InOrder ds → Lossless c.shared.world ds c'.shared.world := by
  intro lossless
  have all := lossless _ _ _ (reachable_run dayOne) lost_deliveries lost_inOrder
  have last : (run afterLost).shared.world.roleRows.values (event, staff) = some .usher := by
    decide +kernel
  rw [all.roles] at last
  revert last
  decide +kernel

def grant : Delivery where
  message := assignment .admin 5000
  time := 6000
  writes := 1

def handover : Delivery where
  message := .ownerChanged
    { eventId := event, oldOwnerId := some staff, newOwnerId := guest, occurredAt := 6000 }
  time := 6000
  writes := 2

def announced : Delivery where
  message := .eventCreated
    { eventId := event, name := "Gala", endsAt := some 9000, startsAt := none, ticketReleaseAt := none }
  time := 6000
  writes := 1

def postponed : Delivery where
  message := .eventUpdated
    { eventId := event, name := none, endsAt := some (some 12000), startsAt := none
      ticketReleaseAt := none, occurredAt := 6500 }
  time := 7000
  writes := 1

def afterGrant : List ServiceAct :=
  afterFirst ++ .invoke grant.message :: [.environ (.tick 1000), .step 1, .step 1]

def afterHandover : List ServiceAct :=
  afterGrant ++ .invoke handover.message :: [.step 2, .step 2, .step 2, .step 2]

def afterAnnounced : List ServiceAct :=
  afterHandover ++ .invoke announced.message :: [.step 3]

def afterPostponed : List ServiceAct :=
  afterAnnounced ++ .invoke postponed.message :: [.step 4, .environ (.tick 1000), .step 4]

def spacedMessages : List Delivery := [firstRole, grant, handover, announced, postponed]

theorem spaced_deliveries : Deliveries deployment (run dayOne) spacedMessages (run afterPostponed) :=
  .cons (delivered_run dayOne _ firstRole (by decide) (by decide +kernel) (by decide +kernel)
    (by decide +kernel) (by decide +kernel) (by decide +kernel))
  (.cons (delivered_run afterFirst _ grant (by decide) (by decide +kernel) (by decide +kernel)
    (by decide +kernel) (by decide +kernel) (by decide +kernel))
  (.cons (delivered_run afterGrant _ handover (by decide) (by decide +kernel) (by decide +kernel)
    (by decide +kernel) (by decide +kernel) (by decide +kernel))
  (.cons (delivered_run afterHandover _ announced (by decide) (by decide +kernel)
    (by decide +kernel) (by decide +kernel) (by decide +kernel) (by decide +kernel))
  (.cons (delivered_run afterAnnounced _ postponed (by decide) (by decide +kernel)
    (by decide +kernel) (by decide +kernel) (by decide +kernel) (by decide +kernel)) (.nil _)))))

theorem lossless_iff_spaced_messages :
    Lossless (run dayOne).shared.world spacedMessages (run afterPostponed).shared.world :=
  (lossless_iff_spaced spaced_deliveries).mpr ⟨by decide +kernel, by decide +kernel⟩

end Samples

end TicketService
