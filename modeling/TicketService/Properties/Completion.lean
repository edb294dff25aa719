import TicketService.Refinement.LockOrder

set_option autoImplicit false

namespace TicketService

open Interleaving Relation System

variable {platform : Platform} {w : World} {i : Nat} {r r' : (service platform).Locking}

theorem reachable_ordered (pristine : Pristine w)
    (reachable : Locking.Reachable (lockOrder platform) w r) :
    r.Ordered (lockOrder platform) Call.locksSeveral := by
  have each := reachable_orderly (fun number call => @program_ascending platform number call)
    reachable.config
  exact ⟨Locking.reachable_granted reachable, (reachable_sound pristine reachable.config).numbered,
    each.holds⟩

def LocksSeveral (r : (service platform).Locking) (i : Nat) : Prop :=
  (service platform).Unfinished r.config i ∧
    ∃ call, r.config.shared.calls[i]? = some call ∧ call.locksSeveral

theorem LocksSeveral.before (advances : Locking.Advances (lockOrder platform) i r r') {j : Nat}
    (several : LocksSeveral r' j) : LocksSeveral r j := by
  cases advances with
  | takes => exact several
  | steps c' stepped clear =>
    obtain ⟨unfinished, call, called, locks⟩ := several
    obtain ⟨th, present, moved⟩ := Option.bind_eq_some_iff.mp stepped
    obtain ⟨th', -, -, calls⟩ := stepThread_next moved
    exact ⟨unfinished_before stepped unfinished, call, calls ▸ called, locks⟩

namespace Sample

theorem unfinished_of_any {acts : List ServiceAct} {i : Nat}
    (going : ((run acts).threads[i]?.any fun th => !th.ended) = true) :
    (service deployment).Unfinished (run acts) i := by
  obtain ⟨th, present, unfinished⟩ := (Option.any_eq_true _ _).mp going
  exact ⟨th, present, by simpa using unfinished⟩

def locking (acts : List ServiceAct) : (service deployment).Locking :=
  { config := run acts, taken := fun _ => [] }

theorem locking_reachable (acts : List ServiceAct) :
    Locking.Reachable (lockOrder deployment) World.empty (locking acts) :=
  Locking.reachable_of_config (lockOrder deployment) (reachable_run acts)

-- A revocation holds the ticket that a deletion, which holds its guard, waits for.
def deletedWhileRevoked : List ServiceAct :=
  call 0 (.createTicket context ticketInput) 8 ++
    call 1 (.userAccessChanged (access ["ManageTickets"])) 2 ++
    call 2 (.revoke context ticket none staff) 5 ++
    call 3 (.deleteByGuestId guest) 4

def otherGuest : Uuid := id 3

-- The second of two tickets of an event is bound to a phone. A deletion of the event comes to its
-- tickets, and an activation of the first ticket for that phone to those it cleans up.
def activatedWhileDeleted : List ServiceAct :=
  call 0 (.createTicket context ticketInput) 8 ++
    call 1 (.createTicket context
      { ticketInput with invitationId := id 11, seatId := id 21, userId := otherGuest }) 8 ++
    call 2 (.activateDevice { phone with ticketId := ⟨1, 0⟩ } otherGuest) 8 ++
    call 3 (.deleteByEventIds [event]) 4 ++
    call 4 (.activateDevice phone guest) 4

abbrev locked (id : Uuid) (mode : RowLock) : Lock := .ticket id mode

def standsAt (c : ServiceState) (i : Nat) (locks : List Lock) : Bool :=
  c.threads[i]?.any fun th => match th.prog with
    | .call stmt _ => needs stmt c.shared.world th.tx == locks
    | _ => false

theorem standsAt_iff {c : ServiceState} {i : Nat} {locks : List Lock}
    (stands : standsAt c i locks = true) : ∃ th stmt next, c.threads[i]? = some th ∧
      th.prog = .call stmt next ∧ needs stmt c.shared.world th.tx = locks := by
  obtain ⟨th, present, here⟩ := (Option.any_eq_true _ _).mp stands
  obtain ⟨prog, tx⟩ := th
  cases prog with
  | call stmt next => exact ⟨_, stmt, next, present, rfl, by simpa using here⟩
  | _ => cases here

theorem wants_ticket {r : (service deployment).Locking} {stmt : Stmt} {tx : Option Tx} {i : Nat}
    {locks : List Lock} {id : Uuid} {mode : RowLock}
    (needed : needs stmt r.config.shared.world tx = locks) (member : locked id mode ∈ locks)
    (tickets : ∀ l ∈ locks, l.rank = 1) (fresh : locked id mode ∉ r.taken i) :
    r.Wants (lockOrder deployment) i stmt tx (locked id mode) := by
  refine ⟨?_, fresh, fun l other lower => ?_⟩
  · show locked id mode ∈ needs stmt r.config.shared.world tx
    rwa [needed]
  have rank : (lockOrder deployment).rank l = 1 := tickets l (needed ▸ other)
  rw [rank] at lower
  exact absurd lower (Nat.lt_irrefl 1)

theorem deadlock_of_crossed {c : ServiceState} {i j : Nat} (first second : Uuid)
    (reachable : (service deployment).Reachable World.empty c) (apart : i ≠ j)
    (several : ∃ call, c.shared.calls[i]? = some call ∧ call.locksSeveral)
    (several' : ∃ call, c.shared.calls[j]? = some call ∧ call.locksSeveral)
    (deletes : standsAt c i [locked first .update, locked second .update] = true)
    (cleans : standsAt c j [locked second .noKeyUpdate] = true) (different : first ≠ second)
    (holds : (c.threads[j]?.any fun th => locked first .noKeyUpdate ∈ heldBy th.tx) = true)
    (free : (c.threads.all fun th => (heldBy th.tx).all fun l =>
      !Lock.conflict (locked second .update) l) = true) :
    ∃ r : (service deployment).Locking, Locking.Reachable (lockOrder deployment) World.empty r ∧
      TransGen (r.LevelWaits (lockOrder deployment) Call.locksSeveral) i i := by
  let before : (service deployment).Locking := { config := c, taken := fun _ => [] }
  let r : (service deployment).Locking :=
    { config := c, taken := Function.update before.taken i [locked second .update] }
  have taken : r.taken i = [locked second .update] := Function.update_self ..
  have untaken : r.taken j = [] := Function.update_of_ne apart.symm ..
  obtain ⟨th, stmt, next, present, calls, needed⟩ := standsAt_iff deletes
  obtain ⟨th', stmt', next', present', calls', needed'⟩ := standsAt_iff cleans
  have takes : Locking.Advances (lockOrder deployment) i before r := by
    refine .takes before th stmt next (locked second .update) present calls
      (wants_ticket needed (by simp) (by simp [Lock.rank]) List.not_mem_nil) fun k l' obstructs => ?_
    have nobody {th} (there : th ∈ c.threads)
        (held : l' ∈ heldBy th.tx) : Lock.conflict (locked second .update) l' = false := by
      simpa using List.all_eq_true.mp (List.all_eq_true.mp free th there) l' held
    obtain ⟨conflict, ⟨-, taken | ⟨other, there, held⟩⟩ | ⟨-, -, held⟩⟩ := obstructs
    · cases taken
    · exact Bool.false_ne_true
        ((nobody (List.mem_of_getElem? there) (engine_heldBy other.tx ▸ held)).symm.trans conflict)
    · exact Bool.false_ne_true
        ((nobody (List.mem_of_getElem? present) (engine_heldBy th.tx ▸ held)).symm.trans conflict)
  have waits : r.WaitsFor (lockOrder deployment) i j := by
    obtain ⟨other, there, held⟩ := (Option.any_eq_true _ _).mp holds
    refine ⟨th, stmt, next, locked first .update, locked first .noKeyUpdate, present, calls,
      wants_ticket needed (by simp) (by simp [Lock.rank]) ?_, ?_, .inl ⟨apart.symm, .inr ?_⟩⟩
    · rw [taken]
      simpa using different
    · show Lock.conflict (.ticket first .update) (.ticket first .noKeyUpdate) = true
      simp [Lock.conflict, RowLock.conflict]
    · exact ⟨other, there, engine_heldBy other.tx ▸ of_decide_eq_true held⟩
  have waits' : r.WaitsFor (lockOrder deployment) j i := by
    refine ⟨th', stmt', next', locked second .noKeyUpdate, locked second .update, present', calls',
      wants_ticket needed' (by simp) (by simp [Lock.rank]) ?_, ?_, .inl ⟨apart, .inl ?_⟩⟩
    · rw [untaken]
      exact List.not_mem_nil
    · show Lock.conflict (.ticket second .noKeyUpdate) (.ticket second .update) = true
      simp [Lock.conflict, RowLock.conflict]
    · rw [taken]
      exact List.mem_cons_self
  have reached : Locking.Reachable (lockOrder deployment) World.empty before :=
    Locking.reachable_of_config (lockOrder deployment) reachable
  exact ⟨r, reached.tail (.advances i before r takes),
    .tail (.single ⟨waits, several, several'⟩) ⟨waits', several', several⟩⟩

theorem activation_deletion_deadlock :
    ∃ r : (service deployment).Locking, Locking.Reachable (lockOrder deployment) World.empty r ∧
      TransGen (r.LevelWaits (lockOrder deployment) Call.locksSeveral) 3 3 :=
  deadlock_of_crossed (j := 4) ⟨0, 0⟩ ⟨1, 0⟩ (reachable_run activatedWhileDeleted) (by decide)
    ⟨.deleteByEventIds [event], by decide +kernel, trivial⟩
    ⟨.activateDevice phone guest, by decide +kernel, trivial⟩
    (by decide +kernel) (by decide +kernel) (by decide) (by decide +kernel) (by decide +kernel)

end Sample

end TicketService
