import TicketService.Refinement.Life

set_option autoImplicit false

namespace TicketService

open Interleaving Relational

variable {platform : Platform} {g g' : Global} {i : Nat} {t : Uuid} {w : World}

theorem Read.id {client : Client} {id : Uuid} {ticket : Ticket} (read : Read g i client id ticket) :
    ticket.id = id := by
  obtain ⟨w, -, found⟩ := read
  exact Table.key_of_get? found

structure Status where
  currentState : PresenceState
  revoked : Bool
deriving DecidableEq, Repr

def Ticket.status (row : Ticket) : Status :=
  ⟨row.currentState, row.revoked⟩

structure RevocationRecord where
  revokedAt : Option Time
  revokedBy : Option Uuid
  revokedReason : Option String
deriving DecidableEq, Repr

def Ticket.revocation (row : Ticket) : RevocationRecord :=
  ⟨row.revokedAt, row.revokedBy, row.revokedReason⟩

def Ticket.alike (a b : Ticket) : Prop :=
  b.status = a.status ∧ b.revocation = a.revocation

theorem Ticket.alike_of_same {a b : Ticket} {l l' : Life} (same : l'.row = l.row)
    (before : l.row = some a) (after : l'.row = some b) : a.alike b := by
  obtain rfl : a = b := Option.some.inj (before.symm.trans (same.symm.trans after))
  exact ⟨rfl, rfl⟩

theorem foldl_outbox (l : Life) (facts : List AnalyticsOutbox) :
    ((facts.map .insertOutbox).foldl (Life.write t) l).logs = l.logs ∧
      ((facts.map .insertOutbox).foldl (Life.write t) l).row = l.row := by
  induction facts generalizing l with
  | nil => exact ⟨rfl, rfl⟩
  | cons fact rest ih =>
    obtain ⟨logs, row⟩ := ih (Life.write t l (.insertOutbox fact))
    rw [List.map_cons, List.foldl_cons, logs, row]
    by_cases same : fact.payload.aggregateId = t <;> simp [Life.write, same]

theorem logged (l : Life) (data : TicketState) (updatedAt : Time) {log : ScanLog}
    (facts : List AnalyticsOutbox) (own : log.ticketId = t) :
    ((.putTicket t data updatedAt :: .insertScanLog log :: facts.map .insertOutbox).foldl
        (Life.write t) l).row = l.row.map (fun row => row.updated (fun _ => data) updatedAt) ∧
      ((.putTicket t data updatedAt :: .insertScanLog log :: facts.map .insertOutbox).foldl
        (Life.write t) l).logs = l.logs ++ [log] := by
  simp only [List.foldl_cons, foldl_outbox]
  simp [Life.write, own]

theorem logged_or_kept (l : Life) (id : Uuid) (state : TicketState) (updatedAt : Time)
    {log : ScanLog} (facts : List AnalyticsOutbox) (own : log.ticketId = id) :
    ((.putTicket id state updatedAt :: .insertScanLog log :: facts.map .insertOutbox).foldl
        (Life.write t) l).logs = l.logs ++ [log] ∨
      ((.putTicket id state updatedAt :: .insertScanLog log :: facts.map .insertOutbox).foldl
        (Life.write t) l).row = l.row := by
  by_cases same : t = id
  · subst same
    exact .inl (logged l state updatedAt facts own).2
  · right
    simp only [List.foldl_cons, foldl_outbox]
    simp [Life.write, same, own, Ne.symm same]

theorem last_log (writes : List Write) (l : Life) :
    (writes.foldl (Life.write t) l).logs <+: l.logs ∨
      ∃ logs log, (writes.foldl (Life.write t) l).logs = logs ++ [log] ∧
        .insertScanLog log ∈ writes := by
  induction writes generalizing l with
  | nil => exact .inl List.prefix_rfl
  | cons write rest ih =>
    have first : (Life.write t l write).logs <+: l.logs ∨
        ∃ log, (Life.write t l write).logs = l.logs ++ [log] ∧ write = .insertScanLog log := by
      cases write with
      | insertScanLog log =>
        by_cases own : log.ticketId = t
        · exact .inr ⟨log, by simp [Life.write, own], rfl⟩
        · exact .inl (by simp [Life.write, own])
      | deleteShareGuards ids => exact .inl List.prefix_rfl
      | _ =>
        left
        unfold Life.write
        simp only
        split <;> simp
    rw [List.foldl_cons]
    rcases ih (Life.write t l write) with kept | ⟨logs, log, last, written⟩
    · rcases first with shorter | ⟨log, added, rfl⟩
      · exact .inl (kept.trans shorter)
      · rw [added] at kept
        rcases List.prefix_concat_iff.mp kept with whole | before
        · exact .inr ⟨l.logs, log, whole, List.mem_cons_self⟩
        · exact .inl before
    · exact .inr ⟨logs, log, last, List.mem_cons_of_mem _ written⟩

theorem log_written {tx : Tx} {s : Store} {log : ScanLog}
    (added : (life (tx.apply s) t).logs = (life s t).logs ++ [log]) :
    .insertScanLog log ∈ tx.writes := by
  rw [life_commit] at added
  rcases last_log tx.writes (life s t) with kept | ⟨logs, last, same, written⟩
  · rw [added] at kept
    have shorter := kept.length_le
    rw [List.length_append, List.length_singleton] at shorter
    omega
  · rw [added] at same
    obtain ⟨-, rfl⟩ := List.append_singleton_inj.mp same
    exact written

theorem Commits.quiet {tx : Tx} (commits : Commits platform g i tx)
    (unlogged : (life (tx.apply g.world.store) t).logs = (life g.world.store t).logs) {a b : Ticket}
    (before : (life g.world.store t).row = some a)
    (after : (life (tx.apply g.world.store) t).row = some b) : a.alike b := by
  have settle {log : ScanLog} (cases :
      (life (tx.apply g.world.store) t).logs = (life g.world.store t).logs ++ [log] ∨
        (life (tx.apply g.world.store) t).row = (life g.world.store t).row) : a.alike b := by
    rcases cases with logged | same
    · rw [unlogged] at logged
      simp at logged
    · exact Ticket.alike_of_same same before after
  cases commits with
  | created context data createdAt fact called free enqueued =>
    refine Ticket.alike_of_same ?_ before after
    rw [life_commit]
    by_cases same : t = ⟨i, 0⟩
    · have absent : (life g.world.store t).row = none := same ▸ (taken_eq_false.mp free).1
      rw [absent] at before
      cases before
    · by_cases about : fact.payload.aggregateId = t <;>
        simp [Life.write, TicketWriteService.newTicket, same, about]
  | activated input ticket row siblings now updatedAt unboundAt activation present cleaned locked =>
    by_cases same : t = input.ticketId
    · subst same
      have others : ∀ other ∈ siblings, other.id ≠ input.ticketId := fun other member =>
        activation.ticket_id ▸ sibling_id (cleaned.others member)
      rw [life_activated present others] at after
      rw [life_of_ticket present] at before
      cases before
      cases after
      exact ⟨rfl, rfl⟩
    · by_cases listed : ∃ other ∈ siblings, other.id = t
      · obtain ⟨other, member, rfl⟩ := listed
        rw [life_activated_sibling same member locked] at after
        rw [life_of_ticket (locked other member)] at before
        cases before
        cases after
        exact ⟨rfl, rfl⟩
      · refine Ticket.alike_of_same ?_ before after
        rw [life_activated_other same fun other member alike => listed ⟨other, member, alike⟩]
  | deleted call ids gone called deletes within rest =>
    refine Ticket.alike_of_same ?_ before after
    rw [life_commit] at after ⊢
    by_cases gone' : t ∈ gone
    · simp [Life.write, gone'] at after
    · by_cases listed : t ∈ ids <;> simp [Life.write, gone', listed]
  | empty call => exact Ticket.alike_of_same rfl before after
  | revoked context ticketId reason actorId ticket row now updatedAt createdAt fact =>
    rw [life_commit] at settle
    exact settle (logged_or_kept _ ticketId _ updatedAt [fact] rfl)
  | presence context ticketId state actorId ticket row checkedInAt updatedAt createdAt fact =>
    rw [life_commit] at settle
    exact settle (logged_or_kept _ ticketId _ updatedAt [fact] rfl)
  | reset ticketId actorId ticket row updatedAt createdAt =>
    rw [life_commit] at settle
    exact settle (logged_or_kept _ ticketId _ updatedAt [] rfl)
  | accepted context input payload ticket row checkedInAt updatedAt returnedAt createdAt scanned
      presence =>
    rw [life_commit] at settle
    exact settle (logged_or_kept _ ticket.id _ updatedAt [scanned, presence] rfl)
  | rejected context input result createdAt fact =>
    refine Ticket.alike_of_same ?_ before after
    rw [life_commit]
    by_cases own : result.ticket.id = t <;>
      by_cases about : fact.payload.aggregateId = t <;>
        simp [Life.write, ScanService.scanLogRow, own, about]

def AutoRevokes (g : Global) (i : Nat) (t : Uuid) (e : Event statements World Tx) (after : Life) :
    Prop :=
  ∃ now result row updatedAt,
    e = .stmt i (.ticketUpdate .prisma t (ShareGuardService.autoRevoked now)) result g.world ∧
    (life g.world.store t).row = some row ∧
    after = { life g.world.store t with
      row := some (row.updated (ShareGuardService.autoRevoked now) updatedAt) }

/-- How a step moves the life of a ticket on: by a commit, an automatic revocation or not at all. -/
inductive Advance (platform : Platform) (g g' : Global) (t : Uuid) : Prop where
  | still : life g'.world.store t = life g.world.store t → Advance platform g g' t
  | turned (i : Nat) (tx : Tx) : g' = g.commit (engine platform) i tx → Commits platform g i tx →
      ¬Committed g i →
      Turn platform g t i (life g.world.store t) (life g'.world.store t) →
      ((life g'.world.store t).logs = (life g.world.store t).logs →
        ∀ a ∈ (life g.world.store t).row, ∀ b ∈ (life g'.world.store t).row, a.alike b) →
      Advance platform g g' t
  | revoked (i : Nat) (e : Event statements World Tx) : g'.history = e :: g.history →
      AutoRevokes g i t e (life g'.world.store t) → Advance platform g g' t

theorem Change.advance {actor : Option Nat} (change : Change platform actor g g') (t : Uuid) :
    Advance platform g g' t := by
  cases change with
  | invoke call => exact .still rfl
  | environ action => exact .still (by cases action <;> rfl)
  | rollback i => exact .still rfl
  | commit i tx commits first =>
    rcases commits.turn first with same | turn
    · exact .still same
    · exact .turned i tx rfl commits first turn fun logs a before b after =>
        commits.quiet logs before after
  | stmt i stmt result w tx tx' executed issued =>
    rcases exec_cases executed with ⟨-, tickets, logs, outbox⟩ | ⟨rfl, -⟩ |
      ⟨id, data, row, rfl, found, -, rfl⟩
    · refine .still ?_
      simp [life, Store.ticket, tickets, logs, outbox]
    · exact .still rfl
    · have after := life_apply (.putTicket id (data row.toTicketState) g.world.clock)
        g.world.store t
      by_cases same : t = id
      · subst same
        obtain ⟨guard, now, -, rfl⟩ := issued
        refine .revoked i _ rfl ⟨now, result, row, g.world.clock, rfl, found, ?_⟩
        have present : (life g.world.store t).row = some row := found
        refine after.trans ?_
        simp [Life.write, Ticket.updated, present]
      · simp only [Life.write, if_neg same] at after
        exact .still after

/-- What every step of a run preserves, given what holds in all states of the run, holds at its
end. -/
theorem reachable_along (pristine : Pristine w) {c : ServiceState}
    (reachable : (service platform).Reachable w c) (Q P : Global → Prop)
    (all : ∀ b, (service platform).Reachable w b → (service platform).Runs b c → Q b.shared)
    (base : P ((service platform).initial w).shared)
    (preserved : ∀ (actor : Option Nat) (b c : ServiceState), (service platform).Reachable w b →
      (service platform).Reachable w c → Change platform actor b.shared c.shared → Q b.shared →
      Q c.shared → P b.shared → P c.shared) : P c.shared := by
  induction reachable with
  | refl => exact base
  | @tail b c before last ih =>
    have held := ih fun b' reachable runs => all b' reachable (runs.tail last)
    have here := all b before (.single last)
    obtain ⟨act, stepped⟩ := last
    have sound := reachable_sound pristine before
    rcases (sound.step (service_keeps platform) stepped).2 with same | ⟨actor, change⟩
    · exact same ▸ held
    · have after : (service platform).Reachable w c := .tail before ⟨act, stepped⟩
      exact preserved actor b c before after change here (all c after .refl) held

/-- A property of the shared state holds in every reachable state when every step between
reachable states preserves it. -/
theorem reachable_induction (pristine : Pristine w) {c : ServiceState}
    (reachable : (service platform).Reachable w c) (P : Global → Prop)
    (base : P ((service platform).initial w).shared)
    (preserved : ∀ (actor : Option Nat) (b c : ServiceState), (service platform).Reachable w b →
      (service platform).Reachable w c → Change platform actor b.shared c.shared → P b.shared →
      P c.shared) : P c.shared :=
  reachable_along pristine reachable (fun _ => True) P (fun _ _ _ => trivial) base
    fun actor b c before after change _ _ => preserved actor b c before after change

theorem runs_extends (pristine : Pristine w) {c c' : ServiceState}
    (reachable : (service platform).Reachable w c) (runs : (service platform).Runs c c') :
    Extends c.shared c'.shared :=
  runs_invariant pristine reachable runs (Extends c.shared) (Extends.refl _)
    fun _ _ _ _ moved change => moved.trans change.extends

end TicketService
