import TicketService.Refinement.Scans

set_option autoImplicit false

namespace TicketService

open Interleaving Relational

variable {platform : Platform} {i : Nat} {tx : Option Tx} {g : Global} {α : Type}

theorem taken_eq_false {w : World} {row : Ticket} : w.taken row = false ↔
    w.store.ticket row.id = none ∧ w.store.Free (·.invitationId = row.invitationId) ∧
      w.store.Free (·.seatId = row.seatId) ∧
      w.store.Free fun other =>
        other.eventId = row.eventId ∧ other.guestProfileId = row.guestProfileId := by
  have absent : w.store.ticket row.id = none ↔ w.store.Free (·.id = row.id) := by
    simp [Store.ticket, Store.Free, Table.get?_eq_none]
  rw [absent]
  simp only [World.taken, List.any_eq_false, Store.Free, decide_eq_true_eq, not_or]
  constructor
  · intro free
    exact ⟨fun other member => (free other member).1, fun other member => (free other member).2.1,
      fun other member => (free other member).2.2.1, fun other member => (free other member).2.2.2⟩
  · rintro ⟨id, invitation, seat, guest⟩ other member
    exact ⟨id other member, invitation other member, seat other member, guest other member⟩

theorem Protected.untaken {t : Tx} {w w' : World} {row : Ticket} (guarded : Protected t w w')
    (locked : ∀ l ∈ (Write.insertTicket row).locks, l ∈ t.locks) (free : w.taken row = false) :
    w'.taken row = false := by
  obtain ⟨id, invitation, seat, guest⟩ := taken_eq_false.mp free
  have held (l : Lock) (member : l ∈ (Write.insertTicket row).locks) := guarded l (locked l member)
  simp only [Write.locks, List.forall_mem_cons] at held
  exact taken_eq_false.mpr
    ⟨Eq.trans held.1 id, held.2.1 invitation, held.2.2.1 seat, held.2.2.2.1 guest⟩

theorem safe_discard {Q : Unit → Option Tx → Global → Prop} {stmt : Stmt}
    (safe : Safe platform i (fun _ tx g => ∀ later, Moves i tx g later → Q () tx later)
      (issue stmt) tx g) : Safe platform i Q (discard stmt) tx g :=
  Safe.bind (safe.mono fun _ _ _ post => Safe.done post)

theorem safe_alone {Q : Unit → Option Tx → Global → Prop} {stmt : Stmt}
    (issued : ∀ g', Issued platform g' i stmt)
    (post : ∀ later, Moves i none g later → Q () none later) :
    Safe platform i Q (discard stmt) none g :=
  safe_discard (Safe.store (by simp) (fun _ _ _ _ => exec_alone) (fun g' _ => issued g')
    fun _ _ _ _ before _ _ after _ last moved => post last ((before.trans after).trans moved))

theorem safe_attempt {Q : Bool → Option Tx → Global → Prop} {stmt : Stmt}
    (issued : ∀ g', Moves i none g g' → Issued platform g' i stmt)
    (post : ∀ value later, Moves i none g later → Q value none later) :
    Safe platform i Q (attempt stmt) none g := by
  intro g' rely _
  have moved := Moves.of_rely rely
  refine ⟨fun result w tx' executed => ?_, ?_⟩
  · obtain rfl := exec_alone executed
    refine ⟨.stmt i stmt result w none none executed (issued g' moved), Safe.done fun later after => ?_⟩
    exact post true later ((moved.trans (.of_record executed (issued g' moved) (by simp))).trans after)
  · exact Safe.done fun later after => post false later (moved.trans after)

theorem safe_ticketUpdate {Q : Ticket → Option Tx → Global → Prop} {id : Uuid}
    {data : TicketState → TicketState}
    (post : ∀ g' row later, Moves i (some ⟨[]⟩) g g' → g'.world.ticket id = some row →
      Moves i (some ⟨[.putTicket id (data row.toTicketState) g'.world.clock]⟩) g' later →
      Seen later i (.ticketUpdate .tx id data) (row.updated data g'.world.clock) (· = g'.world) →
        Q (row.updated data g'.world.clock)
          (some ⟨[.putTicket id (data row.toTicketState) g'.world.clock]⟩) later) :
    Safe platform i Q (issue (.ticketUpdate .tx id data)) (some ⟨[]⟩) g := by
  refine Safe.write (P := fun w result added => ∃ row, w.ticket id = some row ∧
    row.updated data w.clock = result ∧ [.putTicket id (data row.toTicketState) w.clock] = added)
    ?_ (fun _ => trivial) ?_
  · intro w result w' tx' executed
    obtain ⟨row, found, same⟩ := Option.bind_eq_some_iff.mp executed
    cases same
    exact ⟨rfl, _, ⟨row, found, rfl, rfl⟩, rfl⟩
  · rintro g' _ _ later before ⟨row, found, rfl, rfl⟩ after seen
    exact post g' row later before found after seen

theorem Activation.extends {g' : Global} (moved : Extends g g') {input : ActivateDeviceDTO}
    {ticket : Ticket} (activation : Activation platform g i input ticket) :
    Activation platform g' i input ticket where
  called := moved.calls i _ activation.called
  device := activation.device
  key := activation.key
  curve := activation.curve
  read := activation.read.extends moved
  free := activation.free

namespace TicketWriteService

open AnalyticsOutboxService ScanService TicketEventRoleResolver TokenService

variable {context : RequestContext}

theorem safe_publishMilestone {payload : EventMilestoneRecordedDTO}
    {Q : Unit → Option Tx → Global → Prop} (post : ∀ later, Moves i none g later → Q () none later) :
    Safe platform i Q (publishMilestone platform payload context) none g :=
  safe_alone (fun _ => trivial) post

theorem safe_assertManageTicket {eventId actorId : Uuid} {Q : Unit → Option Tx → Global → Prop}
    (post : ∀ later, Moves i tx g later →
      Granted platform later i .manageTickets eventId actorId → Q () tx later) :
    Safe platform i Q (assertManageTicket platform eventId actorId) tx g := by
  refine Safe.bind (safe_getPermissionsForUser fun g₁ permissions moved granted => ?_)
  split
  next allowed =>
    exact Safe.done fun last rest =>
      post last (moved.trans rest) ((granted _ allowed).extends rest.toExtends)
  next => exact Safe.throw _

theorem safe_read {id : Uuid} {f : Option Ticket → Program α}
    {Q : α → Option Tx → Global → Prop}
    (absent : ∀ later, Safe platform i Q (f none) none later)
    (present : ∀ later row, Moves i none g later → Read later i .prisma id row →
      Safe platform i Q (f (some row)) none later) :
    Safe platform i Q ((issue (.ticketFindUnique .prisma id) : Program (Option Ticket)) >>= f)
      none g := by
  refine Safe.bind (Safe.query (fun w => rfl) (fun _ => trivial)
    fun g₁ g₂ before _ after seen => ?_)
  cases found : (g₁.world.clientView .prisma none).ticket id with
  | none => exact absent g₂
  | some row =>
    rw [found] at seen
    exact present g₂ row (before.trans after) (seen.imp fun w same => same ▸ found)

theorem safe_createTransaction {data : CreateTicketInput} (uncommitted : ¬Committed g i)
    (called : g.calls[i]? = some (.createTicket context data)) :
    Safe platform i (fun _ tx g' => Ready platform i tx g')
      (createTransaction platform (Uuid.mk i) context data) (some ⟨[]⟩) g := by
  refine Safe.bind (Safe.write (P := fun w result added =>
    w.taken (newTicket ⟨i, 0⟩ data w.clock) = false ∧ newTicket ⟨i, 0⟩ data w.clock = result ∧
      [.insertTicket (newTicket ⟨i, 0⟩ data w.clock)] = added) ?_ (fun _ => trivial) ?_)
  · intro w result w' tx' executed
    simp only [exec] at executed
    split at executed
    next => cases executed
    next free =>
      cases executed
      exact ⟨rfl, _, ⟨Bool.eq_false_iff.mpr free, rfl, rfl⟩, rfl⟩
  · rintro g₁ _ _ g₂ before ⟨free, rfl, rfl⟩ after _
    refine Safe.bind (safe_enqueue fun g₃ fact moved row => ?_)
    refine Safe.done fun g₄ rest => ⟨_, rfl, ?_, fun later last => ?_⟩
    · exact rest.uncommitted (moved.uncommitted
        (after.uncommitted (before.uncommitted uncommitted)))
    · have onward := (rest.trans last).weaken fun l member => Tx.locks_append member
      have written := after.trans (moved.trans onward)
      have whole := before.toExtends.trans written.toExtends
      refine .created context data g₁.world.clock fact (whole.calls i _ called) ?_ row
      refine (written.guarded _ rfl).untaken (fun l member => ?_) free
      simpa [Tx.locks] using member

theorem safe_createTicket {data : CreateTicketInput} (uncommitted : ¬Committed g i)
    (called : g.calls[i]? = some (.createTicket context data)) :
    Safe platform i (fun _ _ _ => True) (createTicket platform (Uuid.mk i) context data) none g := by
  refine Safe.bind (Safe.query (fun w => rfl) (fun _ => trivial)
    fun g₁ g₂ before _ after _ => ?_)
  cases g₁.world.store.tickets.rows.find? fun row => row.invitationId = data.invitationId with
  | none =>
    have moved := before.trans after
    refine Safe.bind (Safe.transaction (fun g₃ onward => safe_createTransaction
      ((moved.trans onward).uncommitted uncommitted) ((moved.trans onward).calls i _ called)) ?_)
    exact fun created later _ =>
      Safe.bind (safe_publishMilestone fun _ _ => Safe.done fun _ _ => trivial)
  | some existing =>
    dsimp only
    split
    · exact Safe.throw _
    · exact Safe.bind (safe_publishMilestone fun _ _ => Safe.done fun _ _ => trivial)

theorem matching_putTicket {w : World} {id : Uuid} {state : TicketState} {now : Time}
    {filter : Ticket → Bool} (excludes : ∀ row : Ticket, row.id = id → filter row = false) :
    (w.view (some ⟨[.putTicket id state now]⟩)).matching filter = w.matching filter := by
  change ((w.store.putTicket id state now).tickets.rows).filter filter = _
  unfold Store.putTicket
  cases found : w.store.tickets.get? id with
  | none => rfl
  | some row =>
    obtain rfl : row.id = id := Table.key_of_get? found
    simp only [Table.put, World.matching]
    induction w.store.tickets.rows with
    | nil => rfl
    | cons old rest ih =>
      rw [List.map_cons, List.filter_cons, List.filter_cons, ih]
      by_cases same : old.id = row.id
      · simp [same, excludes old same,
          excludes { row with toTicketState := state, updatedAt := some now } rfl]
      · simp [same]

theorem safe_activateTransaction {input : ActivateDeviceDTO} {actorId : Uuid}
    (uncommitted : ¬Committed g i) (called : g.calls[i]? = some (.activateDevice input actorId))
    (device : input.deviceId ≠ "") (key : input.publicKey ≠ "") :
    Safe platform i (fun _ tx g' => Ready platform i tx g')
      (activateTransaction platform input actorId) (some ⟨[]⟩) g := by
  refine Safe.bind (Safe.query (fun w => rfl) (fun _ => trivial)
    fun g₁ g₂ before _ after seen => ?_)
  cases found : (g₁.world.clientView .tx (some ⟨[]⟩)).ticket input.ticketId with
  | none => exact Safe.throw _
  | some ticket =>
    rw [found] at seen
    have same_id : ticket.id = input.ticketId := Table.key_of_get? found
    have moved := before.trans after
    dsimp only
    split
    next => exact Safe.throw _
    next owner =>
    split
    next => exact Safe.throw _
    next free =>
    split
    next => exact Safe.throw _
    next curve =>
    refine Safe.bind (Safe.query (fun w => rfl) (fun _ => trivial)
      fun g₃ g₄ during _ onward _ => ?_)
    refine Safe.bind (safe_ticketUpdate fun g₅ row g₆ updating current updated _ => ?_)
    have through := (during.trans onward).trans (updating.trans updated.unlocked)
    have whole := moved.trans through
    have activation : Activation platform g₆ i input ticket :=
      { called := (not_not.mp owner).symm ▸ whole.calls i _ called
        device
        key
        curve := not_not.mp curve
        read := through.toExtends.seen (seen.imp fun w same => same ▸ found)
        free := by simpa using free }
    rw [same_id] at current updated ⊢
    refine Safe.bind (Safe.write (P := fun w _ added => ∃ siblings,
      siblings = w.matching (sibling ticket input.deviceId) ∧
        added = siblings.map fun other =>
          .putTicket other.id (unbindDevice other.toTicketState) w.clock)
      ?_ (fun _ => trivial) ?_)
    · intro w result w' tx' executed
      cases executed
      refine ⟨rfl, _, ⟨_, rfl, rfl⟩, ?_⟩
      rw [matching_putTicket fun row same => by simp [sibling, same, same_id]]
    · rintro g₇ count _ g₈ cleaning ⟨siblings, rfl, rfl⟩ cleaned seen
      refine Safe.done fun g₉ rest => ⟨_, rfl, ?_, fun later last => ?_⟩
      · exact rest.uncommitted (cleaned.uncommitted
          (cleaning.uncommitted (whole.uncommitted uncommitted)))
      · have onward := cleaned.trans (rest.trans last)
        have held := onward.weaken fun l member => Tx.locks_append member
        have bound := ((updated.trans (cleaning.trans held)).guarded _ rfl).row input.ticketId
          (by simp [Tx.locks, Write.locks])
        have extended := (cleaning.trans held).toExtends
        refine .activated input ticket row _ _ _ _ (activation.extends extended)
          (bound.trans current) ⟨count, ?_⟩ fun other member => ?_
        · exact (rest.trans last).toExtends.seen (seen.imp fun w same => same ▸ rfl)
        · have present : g₇.world.ticket other.id = some other :=
            Store.ticket_mem.mp (List.mem_of_mem_filter member)
          refine ((onward.guarded _ rfl).row other.id ?_).trans present
          simp only [Tx.locks, List.flatMap_append, List.mem_append, List.flatMap_map]
          exact .inr (List.mem_flatMap.mpr ⟨other, member, by simp [Write.locks]⟩)

theorem safe_activateDevice {input : ActivateDeviceDTO} {actorId : Uuid}
    (uncommitted : ¬Committed g i) (called : g.calls[i]? = some (.activateDevice input actorId)) :
    Safe platform i (fun _ _ g' => Committed g' i)
      (TicketMutationResolver.activateDevice platform input actorId) none g := by
  unfold TicketMutationResolver.activateDevice
  split
  next => exact Safe.throw _
  next valid =>
    obtain ⟨device, key⟩ := not_or.mp valid
    exact Safe.transaction (fun g₁ moved => safe_activateTransaction
      (moved.uncommitted uncommitted) (moved.calls i _ called) device key) fun _ _ => id

theorem safe_generateToken {ticketId actorId : Uuid}
    (called : g.calls[i]? = some (.generateToken ticketId actorId)) :
    Safe platform i (fun _ _ _ => True) (generateToken platform ticketId actorId) none g := by
  refine safe_read (fun _ => Safe.throw _) fun g₁ ticket moved read => ?_
  dsimp only
  split
  next => exact Safe.throw _
  next owner =>
    cases nonce : ticket.nextNonce with
    | none => exact Safe.throw _
    | some dn =>
      refine Safe.bind (Safe.query (fun w => rfl) (fun _ => trivial)
        fun g₂ g₃ before _ after _ => ?_)
      refine Safe.bind (Safe.query (fun w => rfl) (fun _ => trivial)
        fun g₄ g₅ during _ onward _ => ?_)
      refine Safe.store (by simp) (fun _ _ _ _ => exec_alone) (fun g₆ last => ?_)
        fun _ _ _ _ _ _ _ _ _ => trivial
      have extended := (before.trans after).toExtends.trans
        ((during.trans onward).toExtends.trans last.toExtends)
      exact ⟨ticketId, actorId, ticket, dn, _, _,
        (moved.toExtends.trans extended).calls i _ called, read.extends extended,
        not_not.mp owner, nonce, rfl⟩

theorem safe_deletions {call : Call} {ids : List Uuid} {stmt : Stmt} (gone : World → List Uuid)
    (uncommitted : ¬Committed g i) (called : g.calls[i]? = some call) (deletes : call.deletes)
    (deleting : ∀ w result w' tx',
      exec platform stmt w (some ⟨[.deleteScanLogs ids, .deleteShareGuards ids]⟩) =
        some (result, w', tx') → w' = w ∧ ∃ added, added = [.deleteTickets (gone w)] ∧
          tx' = some ⟨[.deleteScanLogs ids, .deleteShareGuards ids] ++ added⟩)
    (issued : ∀ g', Issued platform g' i stmt)
    (within : ∀ w, gone w ⊆ ids)
    (rest : ∀ g', Moves i (some ⟨[]⟩) g g' →
      ∀ id ∈ ids, id ∉ gone g'.world → Committed g' id.call ∧ g'.world.ticket id = none) :
    Safe platform i (fun _ tx g' => Ready platform i tx g') (do
      discard (.scanLogDeleteMany ids)
      discard (.shareGuardDeleteMany ids)
      discard stmt) (some ⟨[]⟩) g := by
  refine Safe.bind (safe_discard (Safe.write
    (P := fun _ _ added => added = [.deleteScanLogs ids]) ?_ (fun _ => trivial) ?_))
  · intro w result w' tx' executed
    cases executed
    exact ⟨rfl, _, rfl, rfl⟩
  rintro g₁ _ _ g₂ before rfl after _ g₃ first
  refine Safe.bind (safe_discard (Safe.write
    (P := fun _ _ added => added = [.deleteShareGuards ids]) ?_ (fun _ => trivial) ?_))
  · intro w result w' tx' executed
    cases executed
    exact ⟨rfl, _, rfl, rfl⟩
  rintro g₄ _ _ g₅ during rfl onward _ g₆ second
  refine safe_discard (Safe.write (P := fun w _ added => added = [.deleteTickets (gone w)])
    deleting issued ?_)
  rintro g₇ _ _ g₈ then_ rfl written _ g₉ third
  have through := before.trans ((after.trans (first.trans during)).unlocked.trans
    (onward.trans (second.trans then_)).unlocked)
  refine ⟨_, rfl, ?_, fun later last => ?_⟩
  · exact third.uncommitted (written.uncommitted (through.uncommitted uncommitted))
  · have extended := written.toExtends.trans (third.toExtends.trans last.toExtends)
    refine .deleted call ids _ (extended.calls i _ (through.calls i _ called)) deletes
      (within g₇.world) fun id member kept => ?_
    obtain ⟨committed, absent⟩ := rest g₇ through id member kept
    exact extended.gone id committed absent

theorem safe_delete {ticketId actorId : Uuid} (uncommitted : ¬Committed g i)
    (called : g.calls[i]? = some (.delete ticketId actorId)) :
    Safe platform i (fun _ _ _ => True) (delete platform ticketId actorId) none g := by
  refine safe_read (fun _ => Safe.throw _) fun g₁ ticket moved _ => ?_
  refine Safe.bind (safe_assertManageTicket fun g₂ onward _ => ?_)
  refine Safe.transaction (fun g₃ during => ?_) fun _ _ _ => trivial
  have whole := moved.trans (onward.trans during)
  refine safe_deletions (fun _ => [ticketId]) (whole.uncommitted uncommitted)
    (whole.calls i _ called) rfl ?_ (fun _ => trivial) (fun _ => List.Subset.refl _) ?_
  · intro w result w' tx' executed
    simp only [exec] at executed
    split at executed
    · cases executed
      exact ⟨rfl, _, rfl, rfl⟩
    · cases executed
  · intro g' _ id member kept
    exact absurd member kept

theorem safe_deleteWhere {call : Call} {filter : Ticket → Bool} (uncommitted : ¬Committed g i)
    (called : g.calls[i]? = some call) (deletes : call.deletes) :
    Safe platform i (fun _ tx g' => Ready platform i tx g') (deleteWhere filter) (some ⟨[]⟩) g := by
  refine Safe.bind (Safe.query (fun w => rfl) (fun _ => trivial)
    fun g₁ g₂ before rooted after _ => ?_)
  have moved := before.trans after
  have committed : ∀ id ∈ ((g₁.world.view (some ⟨[]⟩)).matching filter).map (·.id),
      Committed g₁ id.call := by
    intro id member
    obtain ⟨row, found, rfl⟩ := List.mem_map.mp member
    exact rooted.tickets row (List.mem_of_mem_filter found)
  generalize ((g₁.world.view (some ⟨[]⟩)).matching filter).map (·.id) = ids at committed ⊢
  split
  next =>
    exact Safe.done fun later last => ⟨_, rfl, (moved.trans last).uncommitted uncommitted,
      fun final rest => .empty call ((moved.trans (last.trans rest)).calls i _ called) deletes⟩
  next =>
    refine safe_deletions (fun w => w.existing ids) (moved.uncommitted uncommitted)
      (moved.calls i _ called) deletes ?_ (fun _ => trivial) ?_ ?_
    · intro w result w' tx' executed
      cases executed
      exact ⟨rfl, _, rfl, rfl⟩
    · exact fun w id member => List.mem_of_mem_filter member
    · intro g' last id member kept
      refine ⟨(after.toExtends.trans last.toExtends).committed (committed id member), ?_⟩
      by_contra present
      exact kept (List.mem_filter.mpr ⟨member, Option.isSome_iff_ne_none.mpr present⟩)

theorem safe_deleteByEventIds {eventIds : List Uuid} (uncommitted : ¬Committed g i)
    (called : g.calls[i]? = some (.deleteByEventIds eventIds)) :
    Safe platform i (fun _ _ _ => True) (deleteByEventIds eventIds) none g := by
  unfold deleteByEventIds
  split
  · exact Safe.done fun _ _ => trivial
  · exact Safe.transaction (fun _ moved => safe_deleteWhere (moved.uncommitted uncommitted)
      (moved.calls i _ called) rfl) fun _ _ _ => trivial

theorem safe_deleteByGuestId {guestId : Uuid} (uncommitted : ¬Committed g i)
    (called : g.calls[i]? = some (.deleteByGuestId guestId)) :
    Safe platform i (fun _ _ _ => True) (deleteByGuestId guestId) none g :=
  Safe.transaction (fun _ moved => safe_deleteWhere (moved.uncommitted uncommitted)
    (moved.calls i _ called) rfl) fun _ _ _ => trivial

theorem safe_publishRevokedMilestone {ticket : Ticket} :
    Safe platform i (fun _ _ _ => True) (publishRevokedMilestone platform ticket context) none g := by
  unfold publishRevokedMilestone
  split
  · exact safe_publishMilestone fun _ _ => trivial
  · exact Safe.bind (Safe.query (fun w => rfl) (fun _ => trivial)
      fun _ _ _ _ _ _ => safe_publishMilestone fun _ _ => trivial)

theorem safe_revokeTransaction {ticketId actorId : Uuid} {reason : Option String} {now : Time}
    {ticket : Ticket} (uncommitted : ¬Committed g i)
    (called : g.calls[i]? = some (.revoke context ticketId reason actorId))
    (read : Read g i .prisma ticketId ticket)
    (granted : Granted platform g i .manageTickets ticket.eventId actorId)
    (valid : ticket.revoked = false) :
    Safe platform i (fun _ tx g' => Ready platform i tx g')
      (revokeTransaction platform (Uuid.mk i) context ticketId actorId reason now ticket)
      (some ⟨[]⟩) g := by
  refine Safe.bind (safe_ticketUpdate fun g₁ row g₂ before current after _ => ?_)
  refine Safe.bind (safe_scanLogCreate fun g₃ g₄ during _ onward => ?_)
  refine Safe.bind (safe_enqueue fun g₅ fact moved fact_row => ?_)
  refine Safe.done fun g₆ rest => ⟨_, rfl, ?_, fun later last => ?_⟩
  · exact rest.uncommitted (moved.uncommitted (onward.uncommitted
      (during.uncommitted (after.uncommitted (before.uncommitted uncommitted)))))
  · have ending := (rest.trans last).weaken fun l member => Tx.locks_append member
    have logged := (onward.trans (moved.trans ending)).weaken fun l member =>
      Tx.locks_append member
    have written := after.trans (during.trans logged)
    have whole := before.toExtends.trans written.toExtends
    have held := (written.guarded _ rfl).row ticketId (by simp [Tx.locks, Write.locks])
    exact .revoked context ticketId reason actorId ticket row now g₁.world.clock g₃.world.clock fact
      (whole.calls i _ called) (read.extends whole) (granted.extends whole) valid
      (held.trans current) fact_row

theorem safe_revoke {ticketId actorId : Uuid} {reason : Option String}
    (uncommitted : ¬Committed g i)
    (called : g.calls[i]? = some (.revoke context ticketId reason actorId)) :
    Safe platform i (fun _ _ _ => True)
      (revoke platform (Uuid.mk i) context ticketId reason actorId) none g := by
  refine Safe.bind (Safe.query (fun w => rfl) (fun _ => trivial) fun g₁ g₂ before _ after _ => ?_)
  refine safe_read (fun _ => Safe.throw _) fun g₃ ticket moved read => ?_
  refine Safe.bind (safe_assertManageTicket fun g₄ onward granted => ?_)
  have whole := (before.trans after).trans (moved.trans onward)
  split
  next =>
    exact Safe.bind (safe_publishRevokedMilestone.mono fun _ _ _ _ => Safe.done fun _ _ => trivial)
  next valid =>
    refine Safe.bind (Safe.transaction (fun g₅ during => ?_) fun updated later _ => ?_)
    · have extended := during.toExtends
      exact safe_revokeTransaction ((whole.trans during).uncommitted uncommitted)
        ((whole.trans during).calls i _ called)
        (read.extends (onward.toExtends.trans extended)) (granted.extends extended)
        (by simpa using valid)
    · exact Safe.bind (safe_publishRevokedMilestone.mono fun _ _ _ _ => Safe.done fun _ _ => trivial)

theorem safe_firstCheckIn {ticket : Ticket} {state : PresenceState}
    {Q : Option Time → Option Tx → Global → Prop}
    (post : ∀ later (checkedInAt : Option Time), Moves i tx g later →
      (checkedInAt.isSome = true ↔ state = .inside ∧ ticket.checkedInAt = none) →
        Q checkedInAt tx later) :
    Safe platform i Q (firstCheckIn ticket state) tx g := by
  unfold firstCheckIn
  split
  next first =>
    refine Safe.bind (Safe.query (fun w => rfl) (fun _ => trivial)
      fun g₁ g₂ before _ after _ => ?_)
    exact Safe.done fun last moved =>
      post last _ ((before.trans after).trans moved) (by simpa using first)
  next other => exact Safe.done fun last moved => post last _ moved (by simpa using other)

theorem safe_presenceTransaction {ticketId actorId : Uuid} {state : PresenceState}
    {ticket : Ticket} (uncommitted : ¬Committed g i)
    (called : g.calls[i]? = some (.updatePresence context ticketId state actorId))
    (read : Read g i .prisma ticketId ticket)
    (granted : Granted platform g i .scanTickets ticket.eventId actorId)
    (valid : ticket.revoked = false) (other : ticket.currentState ≠ state) :
    Safe platform i (fun _ tx g' => Ready platform i tx g')
      (presenceTransaction platform (Uuid.mk i) context ticketId state actorId ticket)
      (some ⟨[]⟩) g := by
  refine Safe.bind (safe_firstCheckIn fun g₀ checkedInAt first checkedIn => ?_)
  refine Safe.bind (safe_ticketUpdate fun g₁ row g₂ before current after updated => ?_)
  refine Safe.bind (safe_scanLogCreate fun g₃ g₄ during _ onward => ?_)
  refine Safe.bind (safe_enqueue fun g₅ fact moved fact_row => ?_)
  refine Safe.done fun g₆ rest => ⟨_, rfl, ?_, fun later last => ?_⟩
  · exact rest.uncommitted (moved.uncommitted (onward.uncommitted (during.uncommitted
      (after.uncommitted (before.uncommitted (first.uncommitted uncommitted))))))
  · have ending := (rest.trans last).weaken fun l member => Tx.locks_append member
    have logged := (onward.trans (moved.trans ending)).weaken fun l member =>
      Tx.locks_append member
    have since := during.trans logged
    have written := after.trans since
    have whole := first.toExtends.trans (before.toExtends.trans written.toExtends)
    have held := (written.guarded _ rfl).row ticketId (by simp [Tx.locks, Write.locks])
    refine .presence context ticketId state actorId ticket row checkedInAt g₁.world.clock
      g₃.world.clock fact (whole.calls i _ called) ?_ (held.trans current) fact_row
    exact
      { read := read.extends whole
        granted := granted.extends whole
        valid
        other
        checkedIn
        updated := ⟨_, since.toExtends.seen (updated.imp fun w same => same ▸ current)⟩ }

theorem safe_updatePresence {ticketId actorId : Uuid} {state : PresenceState}
    (uncommitted : ¬Committed g i)
    (called : g.calls[i]? = some (.updatePresence context ticketId state actorId)) :
    Safe platform i (fun _ _ _ => True)
      (updatePresence platform (Uuid.mk i) context ticketId state actorId) none g := by
  refine safe_read (fun _ => Safe.throw _) fun g₁ ticket moved read => ?_
  refine Safe.bind (safe_getPermissionsForUser fun g₂ permissions onward granted => ?_)
  split
  next => exact Safe.throw _
  next allowed =>
  split
  next => exact Safe.throw _
  next valid =>
  split
  next => exact Safe.done fun _ _ => trivial
  next other =>
    refine Safe.transaction (fun g₃ during => ?_) fun _ _ _ => trivial
    have whole := moved.trans (onward.trans during)
    exact safe_presenceTransaction (whole.uncommitted uncommitted) (whole.calls i _ called)
      (read.extends (onward.trans during).toExtends)
      ((granted _ (not_not.mp allowed)).extends during.toExtends) (by simpa using valid) other

theorem safe_resetTransaction {ticketId actorId : Uuid} {ticket : Ticket}
    (uncommitted : ¬Committed g i)
    (called : g.calls[i]? = some (.resetDeviceBinding ticketId actorId))
    (read : Read g i .prisma ticketId ticket)
    (granted : Granted platform g i .manageTickets ticket.eventId actorId) :
    Safe platform i (fun _ tx g' => Ready platform i tx g')
      (resetTransaction (Uuid.mk i) ticketId actorId ticket) (some ⟨[]⟩) g := by
  refine Safe.bind (safe_ticketUpdate fun g₁ row g₂ before current after _ => ?_)
  refine Safe.bind (safe_scanLogCreate fun g₃ g₄ during _ onward => ?_)
  refine Safe.done fun g₅ rest => ⟨_, rfl, ?_, fun later last => ?_⟩
  · exact rest.uncommitted (onward.uncommitted
      (during.uncommitted (after.uncommitted (before.uncommitted uncommitted))))
  · have logged := (onward.trans (rest.trans last)).weaken fun l member => Tx.locks_append member
    have written := after.trans (during.trans logged)
    have whole := before.toExtends.trans written.toExtends
    have held := (written.guarded _ rfl).row ticketId (by simp [Tx.locks, Write.locks])
    exact .reset ticketId actorId ticket row g₁.world.clock g₃.world.clock (whole.calls i _ called)
      (read.extends whole) (granted.extends whole) (held.trans current)

theorem safe_resetDeviceBinding {ticketId actorId : Uuid} (uncommitted : ¬Committed g i)
    (called : g.calls[i]? = some (.resetDeviceBinding ticketId actorId)) :
    Safe platform i (fun _ _ _ => True)
      (resetDeviceBinding platform (Uuid.mk i) ticketId actorId) none g := by
  refine safe_read (fun _ => Safe.throw _) fun g₁ ticket moved read => ?_
  refine Safe.bind (safe_assertManageTicket fun g₂ onward granted => ?_)
  split
  next => exact Safe.done fun _ _ => trivial
  next =>
    refine Safe.transaction (fun g₃ during => ?_) fun _ _ _ => trivial
    have whole := moved.trans (onward.trans during)
    exact safe_resetTransaction (whole.uncommitted uncommitted) (whole.calls i _ called)
      (read.extends (onward.trans during).toExtends) (granted.extends during.toExtends)

end TicketWriteService

end TicketService
