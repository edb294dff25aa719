import TicketService.Properties.Integrity
import TicketService.Refinement.Deletions
import TicketService.Refinement.Trail

set_option autoImplicit false

namespace TicketService

open Interleaving Relational

variable {platform : Platform} {w : World} {c c' c'' : ServiceState} {g g' : Global} {i : Nat}
  {call : Call} {row : Ticket}

def Call.removes : Call → Ticket → Bool
  | .delete ticketId _, row => row.id = ticketId
  | .deleteByEventIds eventIds, row => row.eventId ∈ eventIds
  | .deleteByGuestId guestId, row => row.guestProfileId = guestId
  | _, _ => false

structure Gone (s : Store) (t : Uuid) : Prop where
  ticket : s.ticket t = none
  logs : ∀ log ∈ s.scanLogs, log.ticketId ≠ t
  guard : s.shareGuards.get? t = none

theorem Referential.gone {s : Store} {t : Uuid} (referential : Referential s)
    (absent : s.ticket t = none) : Gone s t where
  ticket := absent
  logs log member same := by
    obtain ⟨row, present, -⟩ := referential.logs log member
    rw [same, absent] at present
    cases present
  guard := by
    by_contra present
    obtain ⟨guard, found⟩ := Option.ne_none_iff_exists'.mp present
    have exists_ := referential.guards guard (Table.mem_of_get? found)
    rw [Table.key_of_get? found, absent] at exists_
    cases exists_

structure Watched (i : Nat) (row : Ticket) (g : Global) : Prop where
  known : Known g row
  met : ∀ e ∈ g.history, e.thread = i →
    (e.world.ticket row.id = none → g.world.ticket row.id = none) ∧
      ∀ other, e.world.ticket row.id = some other → other.identity = row.identity
  deleted : ∀ t w ids gone, .commit i t w ∈ g.history → t.writes = erasure ids gone →
    row.id ∈ gone → g.world.ticket row.id = none

theorem Change.watched {actor : Option Nat} (change : Change platform actor g g')
    (watched : Watched i row g) : Watched i row g' := by
  have moved := change.extends
  have stays (absent : g.world.ticket row.id = none) : g'.world.ticket row.id = none :=
    moved.gone row.id watched.known.1 absent
  refine ⟨moved.known row watched.known, fun e member own => ?_, ?_⟩
  · rcases change.recorded e member with before | same
    · obtain ⟨gone, alike⟩ := watched.met e before own
      exact ⟨stays ∘ gone, alike⟩
    · rw [same]
      exact ⟨stays, watched.known.2⟩
  · intro t w ids gone member writes listed
    have before (earlier : .commit i t w ∈ g.history) : g'.world.ticket row.id = none :=
      stays (watched.deleted t w ids gone earlier writes listed)
    cases change with
    | invoke call => exact before member
    | environ action => exact before member
    | stmt j stmt result w' tx tx' => exact before (by simpa [Shared.record] using member)
    | rollback j => exact before (by simpa [Shared.rollback] using member)
    | commit j tx commits =>
      rcases List.mem_cons.mp member with same | earlier
      · cases same
        obtain ⟨writes'⟩ := t
        obtain rfl : writes' = erasure ids gone := writes
        have applied : (Tx.apply ⟨erasure ids gone⟩ g.world.store).ticket row.id = none := by
          simp only [Tx.apply, erasure, List.foldl_cons, List.foldl_nil,
            Write.ticket_apply_deleteTickets, if_pos listed]
        exact applied
      · exact before earlier

theorem Watched.gone (watched : Watched i row g) {t : Tx} {w' : World}
    (committed : .commit i t w' ∈ g.history) (deletes : call.Deletes platform i t (g.own i))
    (names : call.removes row = true) : g.world.ticket row.id = none := by
  have filtered {filter : Ticket → Bool} (named : ∀ other : Ticket, other.identity = row.identity →
      filter other = true) (found : DeletesWhere i filter t (g.own i)) :
      g.world.ticket row.id = none := by
    obtain ⟨ids, w₁, read, rfl, rest⟩ := found
    obtain ⟨listed, thread, -⟩ := (Shared.mem_own _ _).mp read
    obtain ⟨absent, alike⟩ := watched.met _ listed thread
    cases present : w₁.ticket row.id with
    | none => exact absent present
    | some other =>
      have same := alike other present
      have member : row.id ∈ (w₁.matching filter).map (·.id) := by
        refine List.mem_map.mpr ⟨other, ?_, Ticket.id_of_identity same⟩
        exact List.mem_filter.mpr ⟨Table.mem_of_get? present, named other same⟩
      rcases rest with ⟨empty, -⟩ | ⟨w₂, deleted, writes⟩
      · rw [empty] at member
        cases member
      · obtain ⟨listed', thread', -⟩ := (Shared.mem_own _ _).mp deleted
        obtain ⟨absent', -⟩ := watched.met _ listed' thread'
        cases still : w₂.ticket row.id with
        | none => exact absent' still
        | some last =>
          refine watched.deleted t w' _ _ committed writes ?_
          exact List.mem_filter.mpr ⟨member, by rw [still]; rfl⟩
  cases call with
  | delete ticketId actorId =>
    obtain ⟨writes, -⟩ := deletes
    refine watched.deleted t w' _ _ committed writes ?_
    simpa [Call.removes] using names
  | deleteByEventIds eventIds =>
    refine filtered (fun other same => ?_) (deletes _ rfl)
    simpa [Call.removes, (Ticket.identity_iff.mp same).2.1] using names
  | deleteByGuestId guestId =>
    refine filtered (fun other same => ?_) (deletes _ rfl)
    simpa [Call.removes, (Ticket.identity_iff.mp same).2.2.2.2.1] using names
  | _ => cases names

theorem Call.deletes_of_removes (names : call.removes row = true) : call.deletes = true := by
  cases call <;> first | rfl | cases names

/-- When a deletion has returned, in whatever company it ran, the tickets that it names and that
existed when it began are gone with their scan logs and guards, for the rest of the run. -/
theorem deletion_complete (pristine : Pristine w) (reachable : (service platform).Reachable w c)
    (invoked : (service platform).step c (.invoke call) = some c')
    (runs : (service platform).Runs c' c'') {reply : Reply}
    (returned : c''.threads[c.threads.length]?.bind Thread.returned = some reply)
    (present : row ∈ c.shared.world.store.tickets.rows) (names : call.removes row = true) :
    Gone c''.shared.world.store row.id := by
  have sound := reachable_sound pristine reachable
  have begun : (service platform).Reachable w c' := reachable.tail ⟨_, invoked⟩
  have ended : (service platform).Reachable w c'' := begun.trans runs
  cases invoked
  have called : (c.shared.invoke call).calls[c.threads.length]? = some call := by
    simp [Shared.invoke, sound.numbered]
  have watched : Watched c.threads.length row c''.shared := by
    refine runs_invariant pristine begun runs (Watched c.threads.length row) ?_
      fun _ _ _ _ watched change => change.watched watched
    have fresh {e : Event statements World Tx} (member : e ∈ c.shared.history) :
        e.thread ≠ c.threads.length := by
      have within := System.thread_of_history reachable e member
      omega
    constructor
    · exact sound.inv.known (Store.ticket_mem.mp present)
    · exact fun e member own => absurd own (fresh member)
    · exact fun t w ids gone member => absurd rfl (fresh member)
  have called' := (runs_extends pristine begun runs).calls _ _ called
  have kind := Call.deletes_of_removes names
  refine (reachable_referential pristine ended).gone ?_
  rcases returned_commits ended called' kind returned with rfl | ⟨t, w', committed⟩
  · simp [Call.removes] at names
  · exact watched.gone committed (committed_deletes ended called' kind committed) names

namespace Sample

def beforeDeletion : List ServiceAct := prepared ++ forgedScan 0

theorem guest_deleted :
    Gone (run (beforeDeletion ++ [.invoke (.deleteByGuestId guest)] ++
      List.replicate 9 (.step 6))).shared.world.store ticket := by
  have invoked : (service deployment).step (run beforeDeletion) (.invoke (.deleteByGuestId guest)) =
      some (run (beforeDeletion ++ [.invoke (.deleteByGuestId guest)])) := by
    unfold run
    rw [System.run_append]
    rfl
  have there : ∃ row ∈ (run beforeDeletion).shared.world.store.tickets.rows,
      row.id = ticket ∧ row.guestProfileId = guest := by
    decide +kernel
  have returned : ((run (beforeDeletion ++ [.invoke (.deleteByGuestId guest)] ++
      List.replicate 9 (.step 6))).threads[(run beforeDeletion).threads.length]?.bind
        Thread.returned) = some .nothing := by
    decide +kernel
  obtain ⟨row, present, same, named⟩ := there
  rw [← same]
  exact deletion_complete pristine_empty (reachable_run _) invoked (runs_append _ _) returned present
    (by simpa [Call.removes] using named)

end Sample

end TicketService
