import TicketService.Refinement.Effects

set_option autoImplicit false

namespace TicketService

open Interleaving Relational

def Ticket.identity (row : Ticket) : Uuid × Uuid × Uuid × Uuid × Uuid × Time :=
  (row.id, row.eventId, row.invitationId, row.seatId, row.guestProfileId, row.createdAt)

theorem Ticket.identity_iff {row other : Ticket} : row.identity = other.identity ↔
    row.id = other.id ∧ row.eventId = other.eventId ∧ row.invitationId = other.invitationId ∧
      row.seatId = other.seatId ∧ row.guestProfileId = other.guestProfileId ∧
      row.createdAt = other.createdAt := by
  simp [identity]

theorem Ticket.id_of_identity {row other : Ticket} (same : row.identity = other.identity) :
    row.id = other.id := (identity_iff.mp same).1

namespace Store

def ticket (s : Store) (id : Uuid) : Option Ticket :=
  s.tickets.get? id

def Free (s : Store) (claims : Ticket → Prop) : Prop :=
  ∀ row ∈ s.tickets.rows, ¬claims row

@[simp] theorem ticket_putTicket (s : Store) (id other : Uuid) (state : TicketState) (now : Time) :
    (s.putTicket id state now).ticket other =
      if other = id then
        (s.ticket other).map fun row =>
          { row with toTicketState := state, updatedAt := some now }
      else s.ticket other := by
  unfold putTicket ticket
  cases found : s.tickets.get? id with
  | none =>
    by_cases same : other = id
    · subst same
      simp [found]
    · simp [same]
  | some row =>
    have key : row.id = id := Table.key_of_get? found
    simp only [Table.get?_put, key]
    by_cases same : other = id
    · simp [same, found, key]
    · simp [same]

theorem ticket_mem {s : Store} {row : Ticket} :
    row ∈ s.tickets.rows ↔ s.ticket row.id = some row := Table.mem_iff

@[simp] theorem scanLogs_putTicket (s : Store) (id : Uuid) (state : TicketState) (now : Time) :
    (s.putTicket id state now).scanLogs = s.scanLogs := by
  unfold putTicket
  cases s.tickets.get? id <;> rfl

@[simp] theorem analyticsOutbox_putTicket (s : Store) (id : Uuid) (state : TicketState)
    (now : Time) : (s.putTicket id state now).analyticsOutbox = s.analyticsOutbox := by
  unfold putTicket
  cases s.tickets.get? id <;> rfl

@[simp] theorem replayKeys_putTicket (s : Store) (id : Uuid) (state : TicketState) (now : Time) :
    (s.putTicket id state now).replayKeys = s.replayKeys := by
  unfold putTicket
  cases s.tickets.get? id <;> rfl

@[simp] theorem eventAccess_putTicket (s : Store) (id : Uuid) (state : TicketState) (now : Time) :
    (s.putTicket id state now).eventAccess = s.eventAccess := by
  unfold putTicket
  cases s.tickets.get? id <;> rfl

end Store

namespace Write

@[simp] theorem ticket_apply_putTicket (s : Store) (id target : Uuid) (state : TicketState)
    (now : Time) : ((putTicket target state now).apply s).ticket id =
      if id = target then
        (s.ticket id).map fun row => { row with toTicketState := state, updatedAt := some now }
      else s.ticket id :=
  Store.ticket_putTicket s target id state now

@[simp] theorem ticket_apply_insertTicket (s : Store) (id : Uuid) (row : Ticket) :
    ((insertTicket row).apply s).ticket id =
      if id = row.id ∧ s.ticket id = none then some row else s.ticket id :=
  Table.get?_insert id

@[simp] theorem ticket_apply_deleteTickets (s : Store) (id : Uuid) (ids : List Uuid) :
    ((deleteTickets ids).apply s).ticket id = if id ∈ ids then none else s.ticket id := by
  have erased := @Table.get?_erase _ _ _ _ s.tickets (fun other => other ∈ ids) id
  simp only [decide_eq_true_eq] at erased
  exact erased

@[simp] theorem ticket_apply_insertScanLog (s : Store) (id : Uuid) (row : ScanLog) :
    ((insertScanLog row).apply s).ticket id = s.ticket id := rfl

@[simp] theorem ticket_apply_deleteScanLogs (s : Store) (id : Uuid) (ids : List Uuid) :
    ((deleteScanLogs ids).apply s).ticket id = s.ticket id := rfl

@[simp] theorem ticket_apply_deleteShareGuards (s : Store) (id : Uuid) (ids : List Uuid) :
    ((deleteShareGuards ids).apply s).ticket id = s.ticket id := rfl

@[simp] theorem ticket_apply_insertOutbox (s : Store) (id : Uuid) (row : AnalyticsOutbox) :
    ((insertOutbox row).apply s).ticket id = s.ticket id := rfl

theorem row_before {write : Write} {s : Store} {row : Ticket}
    (present : row ∈ (write.apply s).tickets.rows) :
    (∃ before ∈ s.tickets.rows, before.identity = row.identity) ∨ write = .insertTicket row := by
  have found := Store.ticket_mem.mp present
  have unchanged (same : s.ticket row.id = some row) :
      ∃ before ∈ s.tickets.rows, before.identity = row.identity :=
    ⟨row, Store.ticket_mem.mpr same, rfl⟩
  cases write with
  | putTicket target state now =>
    rw [ticket_apply_putTicket] at found
    split at found
    · obtain ⟨before, there, rfl⟩ := Option.map_eq_some_iff.mp found
      exact .inl ⟨before, Store.ticket_mem.mpr there, rfl⟩
    · exact .inl (unchanged found)
  | insertTicket inserted =>
    rw [ticket_apply_insertTicket] at found
    split at found
    · cases found
      exact .inr rfl
    · exact .inl (unchanged found)
  | deleteTickets ids =>
    rw [ticket_apply_deleteTickets] at found
    split at found
    · cases found
    · exact .inl (unchanged found)
  | insertScanLog log => exact .inl ⟨row, present, rfl⟩
  | deleteScanLogs ids => exact .inl ⟨row, present, rfl⟩
  | deleteShareGuards ids => exact .inl ⟨row, present, rfl⟩
  | insertOutbox fact => exact .inl ⟨row, present, rfl⟩

theorem free_apply {write : Write} {s : Store} {claims : Ticket → Prop}
    (respects : ∀ row other : Ticket, row.identity = other.identity → claims row → claims other)
    (clear : ∀ row, write = .insertTicket row → ¬claims row) (free : s.Free claims) :
    (write.apply s).Free claims := by
  intro row present claimed
  rcases row_before present with ⟨before, there, same⟩ | inserted
  · exact free before there (respects row before same.symm claimed)
  · exact clear row inserted claimed

end Write

namespace Lock

-- The fact about the committed rows that holders of the lock rely on.
def Stable : Lock → Store → Store → Prop
  | .ticket id .keyShare, s, s' => (s.ticket id).isSome → (s'.ticket id).isSome
  | .ticket id _, s, s' => s'.ticket id = s.ticket id
  | .shareGuard _, _, _ => True
  | .invitation id, s, s' => s.Free (·.invitationId = id) → s'.Free (·.invitationId = id)
  | .seat id, s, s' => s.Free (·.seatId = id) → s'.Free (·.seatId = id)
  | .guest eventId profileId, s, s' =>
    s.Free (fun row => row.eventId = eventId ∧ row.guestProfileId = profileId) →
      s'.Free fun row => row.eventId = eventId ∧ row.guestProfileId = profileId

theorem Stable.refl (l : Lock) (s : Store) : l.Stable s s := by
  cases l with
  | ticket id mode => cases mode <;> simp [Stable]
  | _ => simp [Stable]

theorem Stable.trans {l : Lock} {s₁ s₂ s₃ : Store} (first : l.Stable s₁ s₂)
    (second : l.Stable s₂ s₃) : l.Stable s₁ s₃ := by
  cases l with
  | ticket id mode =>
    cases mode with
    | keyShare => exact second ∘ first
    | noKeyUpdate => exact Eq.trans second first
    | update => exact Eq.trans second first
  | shareGuard id => trivial
  | invitation id => exact second ∘ first
  | seat id => exact second ∘ first
  | guest eventId profileId => exact second ∘ first

theorem Stable.of_tickets {l : Lock} {s s' : Store} (same : s'.tickets = s.tickets) :
    l.Stable s s' := by
  cases l with
  | ticket id mode => cases mode <;> simp [Stable, Store.ticket, same]
  | _ => simp [Stable, Store.Free, same]

theorem conflict_comm (l l' : Lock) : l.conflict l' = l'.conflict l := by
  cases l <;> cases l' <;> simp only [conflict, eq_comm]
  next id mode id' mode' => cases mode <;> cases mode' <;> simp [RowLock.conflict]

end Lock

theorem Write.stable {write : Write} {l : Lock} {s : Store}
    (free : ∀ own ∈ write.locks, own.conflict l = false) : l.Stable s (write.apply s) := by
  have fresh (row : Ticket) (claims : Prop) (inserted : write = .insertTicket row)
      (conflicts : claims → ∃ own ∈ write.locks, own.conflict l = true) : ¬claims := by
    intro claimed
    obtain ⟨own, member, conflict⟩ := conflicts claimed
    simp [free own member] at conflict
  cases l with
  | shareGuard id => trivial
  | invitation id =>
    refine free_apply (fun row other same claimed => ?_) fun row inserted => fresh row _ inserted ?_
    · exact (Ticket.identity_iff.mp same).2.2.1.symm.trans claimed
    · intro claimed
      exact ⟨.invitation row.invitationId, by simp [inserted, locks],
        by simp [Lock.conflict, claimed]⟩
  | seat id =>
    refine free_apply (fun row other same claimed => ?_) fun row inserted => fresh row _ inserted ?_
    · exact (Ticket.identity_iff.mp same).2.2.2.1.symm.trans claimed
    · intro claimed
      exact ⟨.seat row.seatId, by simp [inserted, locks], by simp [Lock.conflict, claimed]⟩
  | guest eventId profileId =>
    refine free_apply (fun row other same claimed => ?_) fun row inserted => fresh row _ inserted ?_
    · obtain ⟨-, event, -, -, profile, -⟩ := Ticket.identity_iff.mp same
      exact ⟨event.symm.trans claimed.1, profile.symm.trans claimed.2⟩
    · intro claimed
      exact ⟨.guest row.eventId row.guestProfileId, by simp [inserted, locks],
        by simp [Lock.conflict, claimed.1, claimed.2]⟩
  | ticket id mode =>
    suffices kept : (mode = .keyShare ∧ ((s.ticket id).isSome → ((write.apply s).ticket id).isSome)) ∨
        (write.apply s).ticket id = s.ticket id by
      rcases kept with ⟨rfl, present⟩ | same
      · exact present
      · cases mode <;> simp [Lock.Stable, same]
    cases write with
    | putTicket target state now =>
      by_cases same : id = target
      · have shared := free (.ticket target .noKeyUpdate) (by simp [locks])
        cases mode with
        | keyShare =>
          left
          simp [same]
        | noKeyUpdate => simp [Lock.conflict, RowLock.conflict, same] at shared
        | update => simp [Lock.conflict, RowLock.conflict, same] at shared
      · right
        simp [same]
    | insertTicket row =>
      have other : id ≠ row.id := by
        rintro rfl
        have exclusive := free (.ticket row.id .update) (by simp [locks])
        cases mode <;> simp [Lock.conflict, RowLock.conflict] at exclusive
      right
      simp [other]
    | deleteTickets ids =>
      have other : id ∉ ids := by
        intro member
        have exclusive := free (.ticket id .update) (by simpa [locks] using member)
        cases mode <;> simp [Lock.conflict, RowLock.conflict] at exclusive
      right
      simp [other]
    | insertScanLog log => exact .inr rfl
    | deleteScanLogs ids => exact .inr rfl
    | deleteShareGuards ids => exact .inr rfl
    | insertOutbox fact => exact .inr rfl

theorem Tx.locks_append {writes added : List Write} {l : Lock} (member : l ∈ Tx.locks ⟨writes⟩) :
    l ∈ Tx.locks ⟨writes ++ added⟩ := by
  simp only [Tx.locks, List.flatMap_append, List.mem_append]
  exact .inl member

theorem Tx.stable {tx : Tx} {l : Lock} {s : Store}
    (free : ∀ own ∈ tx.locks, own.conflict l = false) : l.Stable s (tx.apply s) := by
  obtain ⟨writes⟩ := tx
  induction writes generalizing s with
  | nil => exact .refl l s
  | cons write rest ih =>
    simp only [Tx.locks, List.flatMap_cons, List.mem_append] at free
    exact .trans (Write.stable fun own member => free own (.inl member))
      (ih fun own member => free own (.inr member))

/-- What the locks of a transaction protect is the same in both worlds. -/
def Protected (tx : Tx) (w w' : World) : Prop :=
  ∀ l ∈ tx.locks, l.Stable w.store w'.store

theorem Protected.refl (tx : Tx) (w : World) : Protected tx w w :=
  fun l _ => .refl l w.store

theorem Protected.of_tickets (tx : Tx) {w w' : World} (same : w'.store.tickets = w.store.tickets) :
    Protected tx w w' :=
  fun _ _ => .of_tickets same

theorem Protected.row {tx : Tx} {w w' : World} (guarded : Protected tx w w') (id : Uuid)
    (locked : .ticket id .noKeyUpdate ∈ tx.locks) : w'.ticket id = w.ticket id :=
  guarded _ locked

theorem Protected.present {tx : Tx} {w w' : World} (guarded : Protected tx w w') (id : Uuid)
    (locked : .ticket id .keyShare ∈ tx.locks) (present : (w.ticket id).isSome) :
    (w'.ticket id).isSome :=
  guarded _ locked present

theorem Protected.of_write {tx : Tx} {w : World} {write : Write}
    (free : ∀ own ∈ write.locks, ∀ l ∈ tx.locks, own.conflict l = false) {w' : World}
    (same : w'.store.tickets = (write.apply w.store).tickets) : Protected tx w w' := by
  intro l member
  exact .trans (Write.stable fun own here => free own here l member) (.of_tickets same)

section Statements

variable {platform : Platform} {stmt : Stmt} {w w' : World} {tx tx' : Option Tx}
  {result : stmt.Res}

/-- A statement leaves its transaction and the tickets, scan logs and facts alone, or it adds
writes to the transaction whose locks it had to acquire, or it is an update of a ticket through
the client that no transaction has. -/
theorem exec_cases (executed : exec platform stmt w tx = some (result, w', tx')) :
    (tx' = tx ∧ w'.store.tickets = w.store.tickets ∧ w'.store.scanLogs = w.store.scanLogs ∧
        w'.store.analyticsOutbox = w.store.analyticsOutbox) ∨
      (w' = w ∧ ∃ t added, tx = some t ∧ tx' = some ⟨t.writes ++ added⟩ ∧
        ∀ l ∈ added.flatMap Write.locks, l ∈ needs stmt w tx) ∨
      ∃ id data row, stmt = .ticketUpdate .prisma id data ∧ w.ticket id = some row ∧ tx' = tx ∧
        w' = { w with store := w.store.putTicket id (data row.toTicketState) w.clock } := by
  cases exec_effect executed with
  | writes stmt result t added opened locked logged =>
    exact .inr (.inl ⟨rfl, t, added, opened, rfl, locked⟩)
  | ticketUpdate id data row found => exact .inr (.inr ⟨id, data, row, rfl, found, rfl, rfl⟩)
  | _ => exact .inl ⟨rfl, rfl, rfl, rfl⟩

theorem exec_alone (executed : exec platform stmt w none = some (result, w', tx')) :
    tx' = none := by
  rcases exec_cases executed with ⟨same, -⟩ | ⟨-, t, _, opened, -⟩ | ⟨_, _, _, -, -, same, -⟩
  · exact same
  · cases opened
  · exact same

theorem exec_protected (executed : exec platform stmt w tx = some (result, w', tx')) {other : Tx}
    (free : (engine platform).Compatible (needs stmt w tx) other.locks) :
    Protected other w w' := by
  rcases exec_cases executed with ⟨-, same, -⟩ | ⟨rfl, -⟩ | ⟨id, data, row, rfl, found, -, rfl⟩
  · exact .of_tickets other same
  · exact .refl other w'
  · refine @Protected.of_write other w (.putTicket id (data row.toTicketState) w.clock)
      (fun own here l member => free own ?_ l member) _ rfl
    simpa [needs, World.clientView, found, Write.locks] using here

theorem exec_held (executed : exec platform stmt w tx = some (result, w', tx')) :
    ∀ l ∈ (engine platform).heldBy tx',
      l ∈ (engine platform).heldBy tx ∨ l ∈ needs stmt w tx := by
  intro l member
  rcases exec_cases executed with ⟨rfl, -⟩ | ⟨-, t, added, rfl, rfl, acquired⟩ | ⟨_, _, _, -, -, rfl, -⟩
  · exact .inl member
  · simp only [Engine.heldBy, engine, Tx.locks, List.flatMap_append, List.mem_append] at member
    exact member.imp id (acquired l)
  · exact .inl member

theorem publish_protected {tx other : Tx} {w : World}
    (free : (engine platform).Compatible tx.locks other.locks) :
    Protected other w ((engine platform).publish tx w) :=
  fun l member => Tx.stable fun own here => free own here l member

theorem environ_protected (action : EnvAct) (w : World) (tx : Tx) :
    Protected tx w (action.apply w) :=
  .of_tickets tx (by cases action <;> rfl)

end Statements

end TicketService
