import TicketService.Refinement.Deletions
import TicketService.Refinement.Grounds
import TicketService.Refinement.Trail

set_option autoImplicit false

namespace TicketService

open Interleaving Relational ShareGuardService TicketWriteService

variable {platform : Platform} {w w' : World} {t : Uuid} {i : Nat} {g : Global}

structure Untouched (t : Uuid) (w w' : World) : Prop where
  life : life w'.store t = life w.store t
  guard : w'.guard t = w.guard t
  nonces : ∀ nonce, w'.replayKeyLive t nonce = true → w.replayKeyLive t nonce = true

theorem Untouched.of_kept (life : TicketService.life w'.store t = TicketService.life w.store t)
    (guard : w'.guard t = w.guard t) (keys : w'.store.replayKeys = w.store.replayKeys)
    (clock : w.clock ≤ w'.clock) : Untouched t w w' where
  life := life
  guard := guard
  nonces nonce live := by
    simp only [World.replayKeyLive, keys] at live ⊢
    obtain ⟨key, found, later⟩ := (Option.any_eq_true _ _).mp live
    exact (Option.any_eq_true _ _).mpr ⟨key, found, by
      have expires := of_decide_eq_true later
      exact decide_eq_true (Nat.lt_of_le_of_lt clock expires)⟩

theorem Untouched.of_store (same : w'.store = w.store) (clock : w.clock ≤ w'.clock) :
    Untouched t w w' :=
  .of_kept (by rw [same]) (by simp only [World.guard, same]) (by rw [same]) clock

section Frame

-- The tickets about which a transaction writes.
def Write.targets : Write → List Uuid
  | .putTicket id _ _ => [id]
  | .insertTicket row => [row.id]
  | .deleteTickets ids => ids
  | .insertScanLog log => [log.ticketId]
  | .deleteScanLogs ids => ids
  | .deleteShareGuards ids => ids
  | .insertOutbox row => [row.payload.aggregateId]

theorem Write.elsewhere {write : Write} (s : Store) (elsewhere : t ∉ write.targets) :
    life (write.apply s) t = life s t ∧ (write.apply s).shareGuards.get? t = s.shareGuards.get? t ∧
      (write.apply s).replayKeys = s.replayKeys := by
  rw [life_apply]
  cases write with
  | putTicket id state now =>
    refine ⟨if_neg (by simpa [Write.targets] using elsewhere), ?_⟩
    simp only [Write.apply, Store.putTicket]
    split <;> exact ⟨rfl, rfl⟩
  | insertTicket row => exact ⟨if_neg (by simpa [Write.targets] using elsewhere), rfl, rfl⟩
  | deleteTickets ids =>
    refine ⟨if_neg elsewhere, ?_, rfl⟩
    simp only [Write.apply, Table.get?_erase]
    exact if_neg (by simpa [Write.targets] using elsewhere)
  | insertScanLog log =>
    exact ⟨if_neg fun same => elsewhere (List.mem_singleton.mpr same.symm), rfl, rfl⟩
  | deleteScanLogs ids => exact ⟨if_neg elsewhere, rfl, rfl⟩
  | deleteShareGuards ids =>
    refine ⟨rfl, ?_, rfl⟩
    simp only [Write.apply, Table.get?_erase]
    exact if_neg (by simpa [Write.targets] using elsewhere)
  | insertOutbox row =>
    exact ⟨if_neg fun same => elsewhere (List.mem_singleton.mpr same.symm), rfl, rfl⟩

theorem Tx.elsewhere (tx : Tx) (s : Store) (elsewhere : ∀ write ∈ tx.writes, t ∉ write.targets) :
    life (tx.apply s) t = life s t ∧ (tx.apply s).shareGuards.get? t = s.shareGuards.get? t ∧
      (tx.apply s).replayKeys = s.replayKeys := by
  obtain ⟨writes⟩ := tx
  induction writes generalizing s with
  | nil => exact ⟨rfl, rfl, rfl⟩
  | cons write rest ih =>
    obtain ⟨first, others⟩ := List.forall_mem_cons.mp elsewhere
    obtain ⟨life, guard, keys⟩ := ih (write.apply s) others
    obtain ⟨life', guard', keys'⟩ := write.elsewhere s first
    exact ⟨life.trans life', guard.trans guard', keys.trans keys'⟩

theorem Untouched.of_commit (tx : Tx) (elsewhere : ∀ write ∈ tx.writes, t ∉ write.targets) :
    Untouched t w { w with store := tx.apply w.store } := by
  obtain ⟨life, guard, keys⟩ := tx.elsewhere w.store elsewhere
  exact .of_kept life guard keys (Nat.le_refl _)

theorem exec_untouched {stmt : Stmt} {result : stmt.Res} {tx tx' : Option Tx}
    (executed : exec platform stmt w tx = some (result, w', tx')) (other : stmt.judges ≠ some t) :
    Untouched t w w' := by
  have kept {w' : World} (same : life w'.store t = life w.store t ∧ w'.guard t = w.guard t)
      (keys : w'.store.replayKeys = w.store.replayKeys) (clock : w'.clock = w.clock) :
      Untouched t w w' := .of_kept same.1 same.2 keys (Nat.le_of_eq clock.symm)
  cases exec_effect executed with
  | ticketUpdate id data row found =>
    have elsewhere : t ≠ id := fun same => other (congrArg some same.symm)
    obtain ⟨life, guard, keys⟩ := @Write.elsewhere t (.putTicket id (data row.toTicketState) w.clock)
      w.store (by simpa [Write.targets] using elsewhere)
    exact kept ⟨life, guard⟩ keys rfl
  | shareGuardUpsert id absent =>
    have elsewhere : t ≠ id := fun same => other (congrArg some same.symm)
    refine kept ⟨rfl, ?_⟩ rfl rfl
    simp only [World.guard, Table.get?_insert]
    exact if_neg fun both => elsewhere both.1
  | shareGuardUpdate id data row found =>
    have elsewhere : t ≠ row.ticketId := fun same =>
      other (congrArg some ((Table.key_of_get? found).symm.trans same.symm))
    refine kept ⟨rfl, ?_⟩ rfl rfl
    simp only [World.guard, Table.get?_put]
    exact if_neg elsewhere
  | rawSetIfAbsent id nonce seconds expired =>
    have elsewhere : t ≠ id := fun same => other (congrArg some same.symm)
    refine ⟨rfl, rfl, fun nonce' live => ?_⟩
    simp only [World.replayKeyLive, Table.get?_upsert] at live ⊢
    rwa [if_neg (by simp [elsewhere])] at live
  | _ => exact kept ⟨rfl, rfl⟩ rfl rfl

end Frame

section Grounds

def Call.manages : Call → Option (Uuid × Uuid)
  | .delete ticketId actorId => some (ticketId, actorId)
  | .revoke _ ticketId _ actorId => some (ticketId, actorId)
  | .resetDeviceBinding ticketId actorId => some (ticketId, actorId)
  | _ => none

/-- The grounds on which call number `i` writes the ticket, its scan logs and its facts. -/
inductive Warranted (platform : Platform) (g : Global) (i : Nat) (t : Uuid) : Call → Prop where
  | creates (context : RequestContext) (data : CreateTicketInput) :
      t = ⟨i, 0⟩ → Warranted platform g i t (.createTicket context data)
  | owns (input : ActivateDeviceDTO) (actorId : Uuid) (ticket : Ticket) :
      t = input.ticketId → Read g i .tx t ticket → ticket.guestProfileId = actorId →
      Warranted platform g i t (.activateDevice input actorId)
  | displaces (input : ActivateDeviceDTO) (actorId : Uuid) (ticket row : Ticket) (count : Nat) :
      Read g i .tx input.ticketId ticket → ticket.guestProfileId = actorId →
      Seen g i (.ticketUpdateMany (sibling ticket input.deviceId) unbindDevice) count
        (fun w => w.ticket t = some row) → sibling ticket input.deviceId row = true →
      Warranted platform g i t (.activateDevice input actorId)
  | scans (context : RequestContext) (input : SecurityScanInput) (ticket : Ticket) :
      Presented i input.token t (g.own i) → Read g i .tx t ticket →
      Granted platform g i .scanTickets ticket.eventId input.actorId →
      Warranted platform g i t (.scan context input)
  | overrides (context : RequestContext) (state : PresenceState) (actorId : Uuid) (ticket : Ticket) :
      Read g i .prisma t ticket → Granted platform g i .scanTickets ticket.eventId actorId →
      Warranted platform g i t (.updatePresence context t state actorId)
  | manages (call : Call) (actorId : Uuid) (ticket : Ticket) :
      call.manages = some (t, actorId) → Read g i .prisma t ticket →
      Granted platform g i .manageTickets ticket.eventId actorId → Warranted platform g i t call
  | sweeps (call : Call) (filter : Ticket → Bool) (ids : List Uuid) (row : Ticket) (w : World) :
      call.filter = some filter → .stmt i (.ticketFindIds filter) ids w ∈ g.history →
      w.ticket t = some row → filter row = true → Warranted platform g i t call

variable {c c' : ServiceState}

theorem deletion_warranted (reachable : (service platform).Reachable w c) {call : Call} {tx : Tx}
    (called : c.shared.calls[i]? = some call) (kind : call.deletes = true)
    (committed : .commit i tx w' ∈ c.shared.history) {ids gone : List Uuid}
    (writes : tx.writes = erasure ids gone) (listed : t ∈ ids) :
    Warranted platform c.shared i t call := by
  have deletes := committed_deletes reachable called kind committed
  have within : ∀ e ∈ (Record.shared (c.shared.own i)).history, e ∈ c.shared.history :=
    fun e member => ((Shared.mem_own _ _).mp member).1
  have found {filter : Ticket → Bool} (same : call.filter = some filter)
      (deletes : DeletesWhere i filter tx (c.shared.own i)) : Warranted platform c.shared i t call := by
    obtain ⟨ids', w₁, read, rfl, rest⟩ := deletes
    obtain ⟨issued, -, -⟩ := (Shared.mem_own _ _).mp read
    have chosen : t ∈ (w₁.matching filter).map (·.id) := by
      rcases rest with ⟨-, none⟩ | ⟨w₂, -, some⟩
      · rw [none] at writes
        cases writes
      · rw [some] at writes
        cases writes
        exact listed
    obtain ⟨row, matched, rfl⟩ := List.mem_map.mp chosen
    obtain ⟨member, passes⟩ := List.mem_filter.mp matched
    exact .sweeps call filter _ row w₁ same issued (Table.get?_of_mem member) passes
  cases call with
  | delete ticketId actorId =>
    obtain ⟨written, ticket, read, granted⟩ := deletes
    rw [written] at writes
    cases writes
    obtain rfl := List.mem_singleton.mp listed
    exact .manages _ actorId ticket rfl (read.of_history within) (granted.of_history within)
  | deleteByEventIds eventIds => exact found rfl (deletes _ rfl)
  | deleteByGuestId guestId => exact found rfl (deletes _ rfl)
  | _ => cases kind

theorem commit_warranted (reachable : (service platform).Reachable w c) {tx : Tx}
    (moved : Extends g c.shared) (commits : Commits platform g i tx)
    (committed : .commit i tx w' ∈ c.shared.history)
    (targeted : ∃ write ∈ tx.writes, t ∈ write.targets) :
    ∃ call, c.shared.calls[i]? = some call ∧ Warranted platform c.shared i t call := by
  cases commits with
  | created context data createdAt fact called free enqueued =>
    refine ⟨_, moved.calls i _ called, .creates context data ?_⟩
    simpa [Write.targets, enqueued.aggregate, newTicket, generatedFact] using targeted
  | activated input ticket row siblings now updatedAt unboundAt activation present cleaned locked =>
    have read := moved.seen activation.read
    refine ⟨_, moved.calls i _ activation.called, ?_⟩
    obtain ⟨write, member, targets⟩ := targeted
    rcases List.mem_cons.mp member with rfl | unbinds
    · obtain rfl := List.mem_singleton.mp targets
      exact .owns input _ ticket rfl read rfl
    · obtain ⟨other, chosen, rfl⟩ := List.mem_map.mp unbinds
      obtain rfl := List.mem_singleton.mp targets
      have passes := cleaned.others chosen
      obtain ⟨count, w₁, issued, rfl⟩ := cleaned
      have stored := Table.get?_of_mem (List.mem_filter.mp chosen).1
      exact .displaces input _ ticket other count read rfl ⟨w₁, moved.history _ issued, stored⟩ passes
  | deleted call ids gone called kind within rest =>
    refine ⟨call, moved.calls i _ called, ?_⟩
    have listed : t ∈ ids := by
      obtain ⟨write, member, targets⟩ := targeted
      simp only [List.mem_cons, List.not_mem_nil, or_false] at member
      rcases member with rfl | rfl | rfl
      · exact targets
      · exact targets
      · exact within targets
    exact deletion_warranted reachable (moved.calls i _ called) kind committed rfl listed
  | empty call called deletes =>
    obtain ⟨write, member, -⟩ := targeted
    cases member
  | revoked context ticketId reason actorId ticket row now updatedAt createdAt fact called read granted
      valid present enqueued =>
    obtain rfl : t = ticketId := by
      simpa [Write.targets, enqueued.aggregate, staffLogRow, revokedFact] using targeted
    exact ⟨_, moved.calls i _ called, .manages _ actorId ticket rfl (moved.seen read) (granted.extends moved)⟩
  | presence context ticketId state actorId ticket row checkedInAt updatedAt createdAt fact called
      override present enqueued =>
    obtain rfl : t = ticketId := by
      simpa [Write.targets, enqueued.aggregate, staffLogRow, ScanService.presenceFact] using targeted
    exact ⟨_, moved.calls i _ called, .overrides context state actorId ticket (moved.seen override.read)
      (override.granted.extends moved)⟩
  | reset ticketId actorId ticket row updatedAt createdAt called read granted present =>
    obtain rfl : t = ticketId := by
      simpa [Write.targets, staffLogRow] using targeted
    exact ⟨_, moved.calls i _ called, .manages _ actorId ticket rfl (moved.seen read) (granted.extends moved)⟩
  | accepted context input payload ticket row checkedInAt updatedAt returnedAt createdAt scanned
      presence called accepted granted present enqueued enqueued' =>
    have key := accepted.admitted.read.id
    obtain rfl : t = payload.tid := by
      simpa [Write.targets, enqueued.aggregate, enqueued'.aggregate, ScanService.scanLogRow,
        TicketService.accepted, ScanService.scanFact, ScanService.presenceFact, key] using targeted
    have called' := moved.calls i _ called
    have read := moved.seen accepted.admitted.read
    exact ⟨_, called', .scans context input ticket (read_presented reachable called' read) read
      (granted.extends moved)⟩
  | rejected context input result createdAt fact called refused read granted present enqueued =>
    have key := read.id
    obtain rfl : t = result.payload.tid := by
      simpa [Write.targets, enqueued.aggregate, ScanService.scanLogRow, ScanService.scanFact, key]
        using targeted
    have called' := moved.calls i _ called
    have read' := moved.seen read
    exact ⟨_, called', .scans context input result.ticket (read_presented reachable called' read') read'
      (granted.extends moved)⟩

/-- The judgement of a ticket: its guard and its replay keys, or its automatic revocation, and neither
its scan logs nor its facts. -/
def JudgedOnly (t : Uuid) (w w' : World) : Prop :=
  life w'.store t = life w.store t ∨ ∃ row now updatedAt, w.ticket t = some row ∧
    life w'.store t =
      { life w.store t with row := some (row.updated (autoRevoked now) updatedAt) }

def Mediated (platform : Platform) (t : Uuid) (g g' : Global) : Prop :=
  ∃ e call, g'.history = e :: g.history ∧ g'.calls[e.thread]? = some call ∧
    (Warranted platform g' e.thread t call ∨
      call.judges e.thread t (g'.own e.thread) ∧ JudgedOnly t g.world g'.world)

theorem environ_untouched (action : EnvAct) : Untouched t w (action.apply w) := by
  cases action with
  | tick ms => exact .of_store rfl (Nat.le_add_right _ _)
  | expire ticketId nonce =>
    refine ⟨rfl, rfl, fun nonce' live => ?_⟩
    simp only [World.replayKeyLive, EnvAct.apply, Table.get?_erase] at live ⊢
    split at live
    · cases live
    · exact live
  | sign signature => exact .of_store rfl (Nat.le_refl _)

theorem called_of_history (pristine : Pristine w) (reachable : (service platform).Reachable w c)
    {e : Event statements World Tx} (member : e ∈ c.shared.history) :
    ∃ call, c.shared.calls[e.thread]? = some call := by
  have within := System.thread_of_history reachable e member
  rw [(reachable_sound pristine reachable).numbered] at within
  exact ⟨_, List.getElem?_eq_getElem within⟩

theorem Change.mediated {actor : Option Nat} (pristine : Pristine w)
    (after : (service platform).Reachable w c)
    (change : Change platform actor g c.shared) (t : Uuid) :
    Untouched t g.world c.shared.world ∨ Mediated platform t g c.shared := by
  have called : ∀ e ∈ c.shared.history, ∃ call, c.shared.calls[e.thread]? = some call :=
    fun e => called_of_history pristine after
  have judged {i : Nat} {call : Call} {stmt : Stmt} {result : stmt.Res} {w' : World} :
      c.shared.calls[i]? = some call → .stmt i stmt result w' ∈ c.shared.history →
        stmt.judges = some t → call.judges i t (c.shared.own i) :=
    fun here issued judges => judged_on_grounds after here issued judges
  have warranted {i : Nat} {tx : Tx} {w' : World} : Extends g c.shared → Commits platform g i tx →
      .commit i tx w' ∈ c.shared.history → (∃ write ∈ tx.writes, t ∈ write.targets) →
        ∃ call, c.shared.calls[i]? = some call ∧ Warranted platform c.shared i t call :=
    commit_warranted after
  have moved := change.extends
  have advance := change.advance t
  generalize c.shared = g' at change moved advance called judged warranted
  cases change with
  | invoke call => exact .inl (.of_store rfl (Nat.le_refl _))
  | environ action => exact .inl (environ_untouched action)
  | rollback i => exact .inl (.of_store rfl (Nat.le_refl _))
  | stmt i stmt result w₁ tx tx' executed issued =>
    by_cases judges : stmt.judges = some t
    · right
      obtain ⟨call, here⟩ := called (.stmt i stmt result g.world) List.mem_cons_self
      refine ⟨_, call, rfl, here, .inr ⟨judged here List.mem_cons_self judges, ?_⟩⟩
      cases advance with
      | still same => exact .inl same
      | turned j tx same => cases congrArg Shared.history same
      | revoked j e same revokes =>
        obtain ⟨now, result, row, updatedAt, -, present, after⟩ := revokes
        exact .inr ⟨row, now, updatedAt, present, after⟩
    · exact .inl (exec_untouched executed judges)
  | commit i tx commits first =>
    by_cases targeted : ∃ write ∈ tx.writes, t ∈ write.targets
    · obtain ⟨call, here, allowed⟩ := warranted moved commits List.mem_cons_self targeted
      exact .inr ⟨_, call, rfl, here, .inl allowed⟩
    · refine .inl (Untouched.of_commit tx fun write member targets => ?_)
      exact targeted ⟨write, member, targets⟩

end Grounds

end TicketService
