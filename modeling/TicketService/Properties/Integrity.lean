import TicketService.Properties.FactsOfLogs

set_option autoImplicit false

namespace TicketService

open Interleaving Relational

variable {platform : Platform} {w : World} {s : Store}

structure Referential (s : Store) : Prop where
  logs : ∀ log ∈ s.scanLogs, ∃ row, s.ticket log.ticketId = some row ∧ row.eventId = log.eventId
  guards : ∀ guard ∈ s.shareGuards.rows, (s.ticket guard.ticketId).isSome

def Guarded (s : Store) : Prop :=
  ∀ id, (s.shareGuards.get? id).isSome → (s.ticket id).isSome

theorem guards_erased (s : Store) (ids : List Uuid) (id : Uuid) :
    (s.shareGuards.erase fun other => other ∈ ids).get? id =
      if id ∈ ids then none else s.shareGuards.get? id := by
  rw [Table.get?_erase]
  simp

theorem Write.guarded {write : Write} (guarded : Guarded s) : Guarded (write.apply s) := by
  intro id present
  cases write with
  | putTicket target state now =>
    have guards : ((putTicket target state now).apply s).shareGuards = s.shareGuards := by
      simp only [Write.apply, Store.putTicket]
      split <;> rfl
    rw [guards] at present
    have before := guarded id present
    rw [ticket_apply_putTicket]
    split
    · rw [Option.isSome_map]
      exact before
    · exact before
  | insertTicket row =>
    have before := guarded id present
    rw [ticket_apply_insertTicket]
    split
    · rfl
    · exact before
  | deleteTickets ids =>
    have erased : ((deleteTickets ids).apply s).shareGuards.get? id =
        if id ∈ ids then none else s.shareGuards.get? id := guards_erased s ids id
    rw [erased] at present
    rw [ticket_apply_deleteTickets]
    split at present
    · cases present
    next kept =>
      rw [if_neg kept]
      exact guarded id present
  | deleteShareGuards ids =>
    have erased : ((deleteShareGuards ids).apply s).shareGuards.get? id =
        if id ∈ ids then none else s.shareGuards.get? id := guards_erased s ids id
    rw [erased] at present
    split at present
    · cases present
    · exact guarded id present
  | insertScanLog => exact guarded id present
  | deleteScanLogs => exact guarded id present
  | insertOutbox => exact guarded id present

theorem Tx.guarded (tx : Tx) (guarded : Guarded s) : Guarded (tx.apply s) := by
  obtain ⟨writes⟩ := tx
  induction writes generalizing s with
  | nil => exact guarded
  | cons write rest ih => exact ih (write.guarded guarded)

theorem exec_guarded {stmt : Stmt} {result : stmt.Res} {w' : World} {tx tx' : Option Tx}
    (executed : exec platform stmt w tx = some (result, w', tx')) (guarded : Guarded w.store) :
    Guarded w'.store := by
  cases exec_effect executed with
  | ticketUpdate id data row found =>
    exact (Write.putTicket id (data row.toTicketState) w.clock).guarded guarded
  | shareGuardUpsert ticketId absent =>
    simp only [exec, absent] at executed
    split at executed
    next exists_ =>
      intro id present
      have inserted : (w.store.shareGuards.insert (ShareGuard.created ticketId)).get? id =
          if id = ticketId ∧ w.store.shareGuards.get? id = none then
            some (ShareGuard.created ticketId)
          else w.store.shareGuards.get? id := Table.get?_insert id
      rw [inserted] at present
      split at present
      next new =>
        rw [new.1]
        exact exists_
      · exact guarded id present
    next => cases executed
  | shareGuardUpdate ticketId data row found =>
    intro id present
    have put : (w.store.shareGuards.put (row.updated data)).get? id =
        if id = row.ticketId then (w.store.shareGuards.get? id).map fun _ => row.updated data
        else w.store.shareGuards.get? id := Table.get?_put id
    rw [put] at present
    split at present
    · rw [Option.isSome_map] at present
      exact guarded id present
    · exact guarded id present
  | _ => exact guarded

theorem Change.guarded {actor : Option Nat} {g g' : Global} (change : Change platform actor g g')
    (guarded : Guarded g.world.store) : Guarded g'.world.store := by
  cases change with
  | invoke call => exact guarded
  | environ action => cases action <;> exact guarded
  | stmt i stmt result w tx tx' executed => exact exec_guarded executed guarded
  | commit i tx => exact tx.guarded guarded
  | rollback i => exact guarded

/-- In every state of every run, each scan log belongs to a ticket of its own event, and each share
guard to a ticket. -/
theorem reachable_referential (pristine : Pristine w) {c : ServiceState}
    (reachable : (service platform).Reachable w c) : Referential c.shared.world.store := by
  have reported := reachable_telling pristine reachable
  have guarded : Guarded c.shared.world.store := by
    refine reachable_invariant pristine reachable (fun g => Guarded g.world.store) ?_
      fun _ _ _ _ guarded change => change.guarded guarded
    intro id present
    have none : w.store.shareGuards.get? id = none := by simp [Table.get?, pristine.shareGuards]
    have present' : (w.store.shareGuards.get? id).isSome := present
    simp [none] at present'
  constructor
  · intro log member
    have listed : log ∈ (life c.shared.world.store log.ticketId).logs :=
      List.mem_filter.mpr ⟨member, by simp⟩
    cases found : c.shared.world.store.ticket log.ticketId with
    | none =>
      have empty := (reported.accounted log.ticketId).absent found
      rw [empty] at listed
      cases listed
    | some row => exact ⟨row, rfl, ((reported.told log.ticketId).events row found log listed).symm⟩
  · intro guard member
    refine guarded guard.ticketId ?_
    rw [Table.get?_of_mem member]
    rfl

open Sample in
theorem scanned_referential :
    (run (prepared ++ forgedScan 0)).shared.world.store.scanLogs ≠ [] ∧
      (run (prepared ++ forgedScan 0)).shared.world.store.shareGuards.rows ≠ [] ∧
      Referential (run (prepared ++ forgedScan 0)).shared.world.store :=
  ⟨by decide +kernel, by decide +kernel, reachable_referential pristine_empty (reachable_run _)⟩

end TicketService
