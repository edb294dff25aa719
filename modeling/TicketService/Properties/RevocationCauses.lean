import TicketService.Properties.FailedAttempts
import TicketService.Properties.Integrity
import TicketService.Properties.Mediation
import TicketService.Refinement.Decisions

set_option autoImplicit false

namespace TicketService

open Interleaving Relational ShareGuardService

variable {platform : Platform} {w w' : World} {g g' : Global} {c : ServiceState} {i : Nat} {t : Uuid}

section Counts

theorem Write.failures_le (write : Write) (s : Store) :
    (write.apply s).shareGuards.get? t = s.shareGuards.get? t ∨
      (write.apply s).shareGuards.get? t = none := by
  have erased (ids : List Uuid) : (s.shareGuards.erase fun id => id ∈ ids).get? t = s.shareGuards.get? t ∨
      (s.shareGuards.erase fun id => id ∈ ids).get? t = none := by
    rw [guards_erased]
    split
    · exact .inr rfl
    · exact .inl rfl
  cases write with
  | deleteTickets ids => exact erased ids
  | deleteShareGuards ids => exact erased ids
  | putTicket id state now =>
    left
    simp only [Write.apply, Store.putTicket]
    split <;> rfl
  | _ => exact .inl rfl

theorem Tx.failures_le (tx : Tx) (s : Store) :
    (tx.apply s).shareGuards.get? t = s.shareGuards.get? t ∨ (tx.apply s).shareGuards.get? t = none := by
  obtain ⟨writes⟩ := tx
  induction writes generalizing s with
  | nil => exact .inl rfl
  | cons write rest ih =>
    rcases ih (write.apply s) with kept | gone
    · rcases write.failures_le s with same | gone
      · exact .inl (kept.trans same)
      · exact .inr (kept.trans gone)
    · exact .inr gone

theorem failures_of_guard {n : Nat} (kept : w'.guard t = w.guard t ∨ w'.guard t = none)
    (bounded : w.failures t ≤ n) : w'.failures t ≤ n := by
  unfold World.failures at bounded ⊢
  rcases kept with same | none
  · rwa [same]
  · rw [none]
    exact Nat.zero_le n

def Caused (g : Global) (i : Nat) (t : Uuid) : Prop :=
  (∃ result, g.calls[i]? = some (.applyDecision t result) ∧ result.shouldRevoke = true) ∨
    ∃ n, Counted i t n g.history ∧ revokeThreshold ≤ n + 1

structure Reckoned (t : Uuid) (g : Global) : Prop where
  stored : g.world.failures t ≤ (deciders t g.history).length
  read : ∀ i guard w, .stmt i (.shareGuardUpsert t) guard w ∈ g.history →
    guard.failCount < (deciders t g.history).length
  revocations : ∀ later i data row w earlier,
    g.history = later ++ .stmt i (.ticketUpdate .prisma t data) row w :: earlier →
      (∃ result, g.calls[i]? = some (.applyDecision t result) ∧ result.shouldRevoke = true) ∨
        revokeThreshold ≤ (deciders t earlier).length

theorem deciders_le_cons (e : Event statements World Tx) (log : Record) :
    (deciders t log).length ≤ (deciders t (e :: log)).length :=
  ((List.sublist_cons_self e log).filterMap (decider t)).length_le

theorem Reckoned.cons (reckoned : Reckoned t g) {e : Event statements World Tx}
    (recorded : g'.history = e :: g.history) (moved : Extends g g')
    (caused : ∀ i data row w, .stmt i (.ticketUpdate .prisma t data) row w ∈ g'.history → Caused g' i t)
    (stored : g'.world.failures t ≤ (deciders t g'.history).length)
    (read : ∀ i guard w, e = .stmt i (.shareGuardUpsert t) guard w → guard.failCount ≤ g.world.failures t) :
    Reckoned t g' where
  stored := stored
  read i guard w member := by
    rw [recorded] at member ⊢
    rcases List.mem_cons.mp member with same | before
    · have counted : deciders t (e :: g.history) = i :: deciders t g.history :=
        List.filterMap_cons_some (same ▸ decider_of_upsert)
      rw [counted, List.length_cons]
      exact Nat.lt_succ_of_le (Nat.le_trans (read i guard w same.symm) reckoned.stored)
    · exact Nat.lt_of_lt_of_le (reckoned.read i guard w before) (deciders_le_cons e g.history)
  revocations later i data row w earlier split := by
    have member : .stmt i (.ticketUpdate .prisma t data) row w ∈ g'.history := by
      rw [split]
      exact List.mem_append_right later List.mem_cons_self
    have cause := caused i data row w member
    rw [recorded] at split
    cases later with
    | nil =>
      -- The count has been read before.
      cases split
      refine cause.imp_right ?_
      rintro ⟨n, ⟨guard, w', counted, rfl⟩, reached⟩
      rw [recorded] at counted
      have before := (List.mem_cons.mp counted).resolve_left (by simp)
      exact Nat.le_trans reached (reckoned.read i guard w' before)
    | cons first later =>
      obtain ⟨-, before⟩ := List.cons.inj split
      refine (reckoned.revocations later i data row w earlier before).imp_left ?_
      rintro ⟨result, called, revokes⟩
      exact ⟨result, moved.calls i _ called, revokes⟩

theorem Change.reckoned {actor : Option Nat} (change : Change platform actor g g')
    (caused : ∀ i data row w, .stmt i (.ticketUpdate .prisma t data) row w ∈ g'.history → Caused g' i t)
    (reckoned : Reckoned t g) : Reckoned t g' := by
  have moved := change.extends
  have passed {g' : Global} {e : Event statements World Tx} (recorded : g'.history = e :: g.history)
      (kept : g'.world.guard t = g.world.guard t ∨ g'.world.guard t = none) :
      g'.world.failures t ≤ (deciders t g'.history).length := by
    rw [recorded]
    exact failures_of_guard kept (Nat.le_trans reckoned.stored (deciders_le_cons e g.history))
  cases change with
  | invoke call =>
    refine ⟨reckoned.stored, reckoned.read, fun later i data row w earlier split => ?_⟩
    refine (reckoned.revocations later i data row w earlier split).imp_left ?_
    rintro ⟨result, called, revokes⟩
    exact ⟨result, moved.calls i _ called, revokes⟩
  | environ action =>
    have same : (g.environ (engine platform) action).world.guard t = g.world.guard t := by
      cases action <;> rfl
    exact ⟨failures_of_guard (.inl same) reckoned.stored, reckoned.read, reckoned.revocations⟩
  | rollback i => exact reckoned.cons rfl moved caused (passed rfl (.inl rfl)) (by simp)
  | commit i tx commits first =>
    exact reckoned.cons rfl moved caused (passed rfl (tx.failures_le g.world.store)) (by simp)
  | stmt i stmt result w tx tx' executed issued =>
    by_cases judges : stmt.judges = some t
    · cases stmt with
      | shareGuardUpsert id =>
        cases judges
        obtain ⟨count, same, -⟩ := failures_upsert executed
        refine reckoned.cons rfl moved caused ?_ ?_
        · have kept : (g.record i (.shareGuardUpsert t) result w).world.failures t = g.world.failures t := same
          rw [kept]
          exact Nat.le_trans reckoned.stored (deciders_le_cons _ g.history)
        · rintro j guard w' ⟨⟩
          exact Nat.le_of_eq count
      | shareGuardUpdate id data =>
        cases judges
        refine reckoned.cons rfl moved caused ?_ (by simp)
        have written {n : Nat} (counts : ∀ row, (data row).failCount = n) :
            (g.record i (.shareGuardUpdate t data) result w).world.failures t = n :=
          (failures_update counts executed).1
        rcases issued with rfl | ⟨guard, now, reason, ⟨w', counted, -⟩, -, rfl | rfl⟩
        · rw [written fun _ => rfl]
          exact Nat.zero_le _
        · rw [written fun _ => rfl]
          exact Nat.le_trans (reckoned.read i guard w' counted) (deciders_le_cons _ g.history)
        · rw [written fun _ => rfl]
          exact Nat.le_trans (reckoned.read i guard w' counted) (deciders_le_cons _ g.history)
      | ticketUpdate client id data =>
        refine reckoned.cons rfl moved caused (passed rfl (.inl ?_)) (by simp)
        cases client with
        | tx => cases judges
        | prisma =>
          obtain ⟨row, found, stored⟩ := Option.bind_eq_some_iff.mp executed
          cases stored
          simp only [World.guard, Store.putTicket]
          split <;> rfl
      | rawSetIfAbsent id nonce seconds =>
        refine reckoned.cons rfl moved caused (passed rfl (.inl ?_)) (by simp)
        simp only [exec] at executed
        split at executed
        · cases executed
          rfl
        · cases executed
          rfl
      | _ => cases judges
    · refine reckoned.cons rfl moved caused (passed rfl (.inl (exec_untouched executed judges).guard)) ?_
      rintro i guard w same
      cases same
      exact absurd rfl judges

theorem reachable_reckoned (pristine : Pristine w) (reachable : (service platform).Reachable w c) :
    Reckoned t c.shared := by
  refine reachable_induction pristine reachable (Reckoned t) ?_ ?_
  · have none : w.store.shareGuards.get? t = none := by simp [Table.get?, pristine.shareGuards]
    have zero : ((service platform).initial w).shared.world.failures t = 0 := by
      simp [System.initial, World.failures, World.guard, none]
    refine ⟨Nat.le_of_eq zero, ?_, ?_⟩
    · intro i guard w' member
      cases member
    · intro later i data row w' earlier split
      cases later <;> cases split
  · intro actor b c _ after change reckoned
    refine change.reckoned (fun i data row w' issued => ?_) reckoned
    obtain ⟨call, called⟩ := called_of_history pristine after issued
    refine (revoked_by_count after called issued).imp_left ?_
    rintro ⟨result, rfl, revokes⟩
    exact ⟨result, called, revokes⟩

theorem decider_thread {e : Event statements World Tx} (decides : decider t e = some i) :
    ∃ guard w, e = .stmt i (.shareGuardUpsert t) guard w := by
  cases e with
  | stmt j stmt result w =>
    cases stmt with
    | shareGuardUpsert id =>
      simp only [decider, Option.ite_none_right_eq_some, Option.some.injEq] at decides
      obtain ⟨rfl, rfl⟩ := decides
      exact ⟨result, w, rfl⟩
    | _ => cases decides
  | commit => cases decides
  | rollback => cases decides

theorem deciders_nodup (pristine : Pristine w) (reachable : (service platform).Reachable w c) :
    (deciders t c.shared.history).Nodup := by
  refine Shared.nodup_filterMap id (fun e _ i decides => ?_) fun i member => ?_
  · obtain ⟨guard, w', rfl⟩ := decider_thread decides
    exact ⟨rfl, rfl⟩
  · obtain ⟨e, issued, decides⟩ := List.mem_filterMap.mp member
    obtain ⟨guard, w', rfl⟩ := decider_thread decides
    obtain ⟨call, called⟩ := called_of_history pristine reachable issued
    exact deciders_own reachable called

end Counts

section Causes

def ByManager (platform : Platform) (g : Global) (t eventId : Uuid) (logs : List ScanLog) : Prop :=
  ∃ i context reason actorId, g.calls[i]? = some (.revoke context t reason actorId) ∧
    Granted platform g i .manageTickets eventId actorId ∧
    ∃ log ∈ logs, log.id = ⟨i, 0⟩ ∧ log.verdict = .revoked

def ByGuard (g : Global) (t : Uuid) : Prop :=
  ∃ i data row w, .stmt i (.ticketUpdate .prisma t data) row w ∈ g.history

def Traceable (platform : Platform) (t : Uuid) (g : Global) (l : Life) : Prop :=
  ∀ row ∈ l.row, row.revoked = true → ByManager platform g t row.eventId l.logs ∨ ByGuard g t

variable {row row' : Ticket} {logs : List ScanLog} {facts : List AnalyticsOutbox} {before after : Life}

theorem Traceable.extends {l : Life} (traceable : Traceable platform t g l) (moved : Extends g g') :
    Traceable platform t g' l := by
  intro row present revoked
  rcases traceable row present revoked with ⟨i, context, reason, actorId, called, granted, logged⟩ |
    ⟨i, data, result, w, issued⟩
  · exact .inl ⟨i, context, reason, actorId, moved.calls i _ called, granted.extends moved, logged⟩
  · exact .inr ⟨i, data, result, w, moved.history _ issued⟩

theorem Traceable.kept (traceable : Traceable platform t g ⟨some row, logs, facts⟩)
    (added : List ScanLog) (facts' : List AnalyticsOutbox) (event : row'.eventId = row.eventId)
    (revoked : row'.revoked = true → row.revoked = true) :
    Traceable platform t g ⟨some row', logs ++ added, facts'⟩ := by
  rintro _ ⟨⟩ invalid
  refine (traceable row rfl (revoked invalid)).imp_left ?_
  rintro ⟨i, context, reason, actorId, called, granted, log, member, own⟩
  rw [← event] at granted
  exact ⟨i, context, reason, actorId, called, granted, log, List.mem_append_left added member, own⟩

theorem Traceable.unlogged (traceable : Traceable platform t g ⟨some row, logs, facts⟩)
    (event : row'.eventId = row.eventId) (revoked : row'.revoked = true → row.revoked = true) :
    Traceable platform t g ⟨some row', logs, facts⟩ := by
  have kept := traceable.kept [] facts event revoked
  rwa [List.append_nil] at kept

theorem Turn.traceable (turn : Turn platform g t i before after) (past : Past g)
    (here : before.row = g.world.ticket t)
    (quiet : after.logs = before.logs → ∀ a ∈ before.row, ∀ b ∈ after.row, a.alike b)
    (traceable : Traceable platform t g before) : Traceable platform t g after := by
  cases turn with
  | created context data createdAt fact logs facts same called first enqueued =>
    rintro _ ⟨⟩ ⟨⟩
  | bound input ticket row siblings now updatedAt logs facts => exact traceable.unlogged rfl id
  | unbound input ticket row siblings unboundAt logs facts => exact traceable.unlogged rfl id
  | deleted call row logs facts =>
    rintro _ ⟨⟩
  | revoked context reason actorId ticket row now updatedAt createdAt fact logs facts called read
      granted valid enqueued =>
    rintro _ ⟨⟩ -
    have same := past.same_ticket read read.id.symm here.symm
    have event : row.eventId = ticket.eventId := (Ticket.identity_iff.mp same).2.1
    rw [← event] at granted
    exact .inl ⟨i, context, reason, actorId, called, granted, _,
      List.mem_append_right logs (List.mem_singleton.mpr rfl), rfl, rfl⟩
  | presence context state actorId ticket row checkedInAt updatedAt createdAt fact logs facts called
      override enqueued => exact traceable.kept _ _ rfl id
  | reset actorId ticket row updatedAt createdAt logs facts called read granted =>
    exact traceable.kept _ _ rfl id
  | accepted context input payload ticket row checkedInAt updatedAt returnedAt createdAt scanned
      presence logs facts called key accepted granted scanned_row presence_row =>
    exact traceable.kept _ _ rfl id
  | rejected context input result row createdAt fact logs facts called key refused read enqueued =>
    exact traceable.kept _ _ rfl id
  | autoRevoked row now updatedAt logs facts =>
    have status := (quiet rfl row rfl _ rfl).1
    exact traceable.unlogged rfl fun revoked => (congrArg Status.revoked status).symm.trans revoked

theorem reachable_traceable (pristine : Pristine w) (reachable : (service platform).Reachable w c) :
    Traceable platform t c.shared (life c.shared.world.store t) := by
  refine reachable_induction pristine reachable
    (fun g => Traceable platform t g (life g.world.store t)) ?_ ?_
  · intro row present
    simp [System.initial, life, Store.ticket, Table.get?, pristine.tickets] at present
  · intro actor b c before _ change traceable
    have moved := change.extends
    cases change.advance t with
    | still same =>
      rw [same]
      exact traceable.extends moved
    | turned i tx committed commits _ turn quiet =>
      exact (turn.traceable (reachable_telling pristine before).past rfl quiet traceable).extends moved
    | revoked i e recorded revokes =>
      obtain ⟨now, result, row, updatedAt, rfl, -, -⟩ := revokes
      intro row _ _
      exact .inr ⟨i, _, result, _, recorded ▸ List.mem_cons_self⟩

structure TenRefused (g : Global) (t : Uuid) (earlier : Record) : Prop where
  ten : revokeThreshold ≤ (deciders t earlier).length
  distinct : (deciders t earlier).Nodup
  refused : ∀ i ∈ deciders t earlier, ∃ call, g.calls[i]? = some call ∧ call.refuses i t (g.own i)

def Escalated (g : Global) (t : Uuid) : Prop :=
  ∃ i data row w later earlier,
    g.history = later ++ .stmt i (.ticketUpdate .prisma t data) row w :: earlier ∧
      ((∃ result, g.calls[i]? = some (.applyDecision t result) ∧ result.shouldRevoke = true) ∨
        TenRefused g t earlier)

theorem ByGuard.escalated (pristine : Pristine w) (reachable : (service platform).Reachable w c)
    (guarded : ByGuard c.shared t) : Escalated c.shared t := by
  obtain ⟨i, data, row, w', issued⟩ := guarded
  obtain ⟨later, earlier, split⟩ := List.append_of_mem issued
  have within : earlier.Sublist c.shared.history := by
    rw [split]
    exact (List.sublist_cons_self _ earlier).trans (List.sublist_append_right later _)
  refine ⟨i, data, row, w', later, earlier, split, ?_⟩
  refine ((reachable_reckoned pristine reachable).revocations later i data row w' earlier split).imp_right ?_
  intro ten
  refine ⟨ten, (deciders_nodup pristine reachable).sublist (within.filterMap _), fun j member => ?_⟩
  obtain ⟨e, issued, decides⟩ := List.mem_filterMap.mp member
  obtain ⟨guard, w₁, rfl⟩ := decider_thread decides
  have before := within.subset issued
  obtain ⟨call, called⟩ := called_of_history pristine reachable before
  exact ⟨call, called, refuses_of_upsert reachable called before⟩

/-- In every state of every run, a revoked ticket has been revoked by a call whose actor was granted the
management of the tickets of its event, with a scan log that says so, or by the share guard: on a decision
to revoke at once, or after ten different calls have counted a failure, of which the scans were given a
token of the ticket and none was accepted. -/
theorem revocations_explained (pristine : Pristine w) (reachable : (service platform).Reachable w c)
    {row : Ticket} (present : row ∈ c.shared.world.store.tickets.rows) (revoked : row.revoked = true) :
    ByManager platform c.shared row.id row.eventId (life c.shared.world.store row.id).logs ∨
      Escalated c.shared row.id :=
  (reachable_traceable pristine reachable row (Store.ticket_mem.mp present) revoked).imp_right
    fun guarded => guarded.escalated pristine reachable

end Causes

section Samples

open Sample

def forgedTen : List ServiceAct :=
  prepared ++ (List.range 10).flatMap forgedScan

theorem forged_ten_explained : Escalated (run forgedTen).shared ticket := by
  have outcome : ((run forgedTen).shared.world.ticket ticket).any (fun row => row.id = ticket && row.revoked) ∧
      ∀ log ∈ (life (run forgedTen).shared.world.store ticket).logs, log.verdict ≠ .revoked := by
    decide +kernel
  obtain ⟨found, unlogged⟩ := outcome
  obtain ⟨row, present, facts⟩ := (Option.any_eq_true _ _).mp found
  simp only [Bool.and_eq_true, decide_eq_true_eq] at facts
  obtain ⟨same, revoked⟩ := facts
  rcases revocations_explained pristine_empty (reachable_run forgedTen) (Table.mem_of_get? present) revoked with
    manager | escalated
  · obtain ⟨i, context, reason, actorId, -, -, log, member, -, verdict⟩ := manager
    rw [same] at member
    exact absurd verdict (unlogged log member)
  · rwa [same] at escalated

end Samples

end TicketService
