import TicketService.Model.TicketWrite

set_option autoImplicit false

namespace TicketService

open Relational VerifyService

def Ticket.OldNonces (row : Ticket) : Prop :=
  row.lastNonce = some 1 ∧ row.nextNonce = some 1

instance (row : Ticket) : Decidable row.OldNonces :=
  inferInstanceAs (Decidable (_ ∧ _))

namespace FixTicketNonce

-- `EXISTS (SELECT 1 FROM "scan_log" AS s WHERE s."ticket_id" = t."id")`
def logged (s : Store) (row : Ticket) : Bool :=
  s.scanLogs.any fun log => log.ticketId = row.id

def repaired (s : Store) (row : Ticket) : Ticket :=
  if row.OldNonces ∧ logged s row = false then { row with lastNonce := none } else row

theorem repaired_id (s : Store) (row : Ticket) : (repaired s row).id = row.id := by
  unfold repaired
  split <;> rfl

-- Dropping the default of the column changes no row.
def migrate (s : Store) : Store :=
  { s with tickets := s.tickets.update (repaired s) (repaired_id s) }

end FixTicketNonce

/-- The database before the migration: the nonces of a ticket are those it started with, and then
no scan of it was accepted, or those that an accepted scan left. -/
structure Store.BeforeFix (s : Store) : Prop where
  nonces : ∀ row ∈ s.tickets.rows, row.OldNonces ∨
    ∃ last, row.lastNonce = some last ∧ row.nextNonce = some (last + 1)
  unaccepted : ∀ row ∈ s.tickets.rows, row.OldNonces →
    ∀ log ∈ s.scanLogs, log.ticketId = row.id → log.verdict ≠ .ok

-- The next nonce has not been consumed.
def Ticket.NonceFree (row : Ticket) : Prop :=
  row.lastNonce = none ∨ ∃ last ∈ row.lastNonce, ∃ next ∈ row.nextNonce, last < next

-- A token that carries the next nonce gets past the checks of the nonce.
def Ticket.NonceAdmitted (row : Ticket) : Prop :=
  ∀ payload direction, row.nextNonce = some payload.dn →
    checkNonce row payload direction = applyDirectionPolicy row payload direction

theorem checkNonce_stale {row : Ticket} {payload : QrPayload} {direction : GateDirection}
    (stale : row.lastNonce.any (payload.dn ≤ ·) = true) :
    checkNonce row payload direction =
      rejectRisk row payload { replay := true } .replay (scanMessages .replay) := by
  unfold checkNonce
  rw [if_pos stale]

theorem Ticket.NonceFree.admitted {row : Ticket} (free : row.NonceFree) : row.NonceAdmitted := by
  intro payload direction next
  have fresh : ¬row.lastNonce.any (payload.dn ≤ ·) = true := by
    rcases free with unused | ⟨last, consumed, next', ahead, less⟩
    · simp [unused]
    · have same : next' = payload.dn := by
        rw [Option.mem_def, next] at ahead
        exact (Option.some.inj ahead).symm
      simp only [Option.mem_def.mp consumed, Option.any_some, decide_eq_true_eq]
      omega
  unfold checkNonce
  rw [if_neg fresh, if_neg (by simp [next])]

theorem Ticket.OldNonces.not_free {row : Ticket} (old : row.OldNonces) : ¬row.NonceFree := by
  rintro (unused | ⟨last, consumed, next, ahead, less⟩)
  · simp [old.1] at unused
  · rw [Option.mem_def, old.1] at consumed
    rw [Option.mem_def, old.2] at ahead
    cases consumed
    cases ahead
    omega

namespace FixTicketNonce

variable {s : Store} {row : Ticket}

theorem mem_migrate : row ∈ (migrate s).tickets.rows ↔ ∃ old ∈ s.tickets.rows, repaired s old = row :=
  List.mem_map

theorem logged_eq_false : logged s row = false ↔ ∀ log ∈ s.scanLogs, log.ticketId ≠ row.id := by
  simp [logged]

theorem repaired_free (nonces : row.OldNonces ∨
    ∃ last, row.lastNonce = some last ∧ row.nextNonce = some (last + 1)) :
    (repaired s row).NonceFree ↔ (row.OldNonces → logged s row = false) := by
  unfold repaired
  split
  next selected => exact ⟨fun _ _ => selected.2, fun _ => .inl rfl⟩
  next kept =>
    constructor
    · exact fun free old => absurd free old.not_free
    · intro unlogged
      rcases nonces with old | ⟨last, consumed, next⟩
      · exact absurd ⟨old, unlogged old⟩ kept
      · exact .inr ⟨last, consumed, last + 1, next, Nat.lt_succ_self last⟩

/-- After the migration no ticket has its next nonce consumed, and tokens that carry it get past
the nonce checks, if and only if no ticket with the former nonces has a scan log. -/
theorem migrate_repairs_iff (before : s.BeforeFix) :
    (∀ row ∈ (migrate s).tickets.rows, row.NonceFree ∧ row.NonceAdmitted) ↔
      ∀ row ∈ s.tickets.rows, row.OldNonces → ∀ log ∈ s.scanLogs, log.ticketId ≠ row.id := by
  constructor
  · intro repairs row member old
    have after : repaired s row ∈ (migrate s).tickets.rows := mem_migrate.mpr ⟨row, member, rfl⟩
    have free := (repairs _ after).1
    exact logged_eq_false.mp ((repaired_free (before.nonces row member)).mp free old)
  · intro unlogged row' after
    obtain ⟨row, member, rfl⟩ := mem_migrate.mp after
    have free : (repaired s row).NonceFree :=
      (repaired_free (before.nonces row member)).mpr fun old =>
        logged_eq_false.mpr (unlogged row member old)
    exact ⟨free, free.admitted⟩

theorem migrate_leaves (member : row ∈ s.tickets.rows) (old : row.OldNonces)
    (scanned : logged s row = true) :
    row ∈ (migrate s).tickets.rows ∧ ∀ payload direction, row.nextNonce = some payload.dn →
      checkNonce row payload direction =
        rejectRisk row payload { replay := true } .replay (scanMessages .replay) := by
  constructor
  · refine mem_migrate.mpr ⟨row, member, ?_⟩
    simp [repaired, scanned]
  · intro payload direction next
    have same : payload.dn = 1 := by
      rw [old.2] at next
      exact (Option.some.inj next).symm
    exact checkNonce_stale (by simp [old.1, same])

theorem migrate_frame (id : Uuid) :
    (migrate s).tickets.get? id = (s.tickets.get? id).map (repaired s) ∧
      migrate s = { s with tickets := (migrate s).tickets } :=
  ⟨@Table.get?_update _ _ _ _ _ _ (repaired_id s) id, rfl⟩

end FixTicketNonce

section Samples

namespace FixTicketNonce.Sample

def ticket : Ticket where
  devicePublicKey := some "phone-key"
  deviceActivationAt := some 0
  deviceActivationIP := none
  deviceId := some "phone"
  lastNonce := some 1
  nextNonce := some 1
  checkedInAt := none
  currentState := .outside
  revoked := false
  revokedAt := none
  revokedBy := none
  revokedReason := none
  id := ⟨0, 0⟩
  eventId := ⟨0, 1⟩
  invitationId := ⟨0, 2⟩
  seatId := ⟨0, 3⟩
  guestProfileId := ⟨0, 4⟩
  createdAt := 0
  updatedAt := none

def replayed : ScanLog where
  id := ⟨0, 5⟩
  ticketId := ⟨0, 0⟩
  eventId := ⟨0, 1⟩
  actorId := ⟨0, 6⟩
  direction := .inside
  gate := none
  verdict := .replay
  nonce := some 1
  deviceId := some "phone"
  createdAt := 0

def database (scanLogs : List ScanLog) : Store :=
  { Store.empty with
    tickets := Store.empty.tickets.insert ticket
    scanLogs }

theorem rows_database (scanLogs : List ScanLog) :
    (database scanLogs).tickets.rows = [ticket] := rfl

theorem beforeFix_database {scanLogs : List ScanLog}
    (unaccepted : ∀ log ∈ scanLogs, log.verdict ≠ .ok) : (database scanLogs).BeforeFix where
  nonces row member := by
    rw [rows_database, List.mem_singleton] at member
    exact member ▸ .inl ⟨rfl, rfl⟩
  unaccepted _ _ _ log member _ := unaccepted log member

end FixTicketNonce.Sample

open FixTicketNonce.Sample

theorem FixTicketNonce.migrate_repairs_unscanned :
    (∀ row ∈ (migrate (database [])).tickets.rows, row.NonceFree ∧ row.NonceAdmitted) ↔
      ∀ row ∈ (database []).tickets.rows, row.OldNonces →
        ∀ log ∈ (database []).scanLogs, log.ticketId ≠ row.id :=
  migrate_repairs_iff (beforeFix_database (by decide))

theorem FixTicketNonce.migrate_leaves_replayed :
    ¬∀ s : Store, s.BeforeFix →
      ∀ row ∈ (migrate s).tickets.rows, row.NonceFree ∧ row.NonceAdmitted := by
  intro claim
  have kept : ticket ∈ (migrate (database [replayed])).tickets.rows :=
    (migrate_leaves (List.mem_singleton_self _) ⟨rfl, rfl⟩ (by decide)).1
  have free := (claim _ (beforeFix_database (by decide)) _ kept).1
  exact Ticket.OldNonces.not_free ⟨rfl, rfl⟩ free

end Samples

end TicketService
