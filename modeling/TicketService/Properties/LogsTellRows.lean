import TicketService.Properties.AuditTrail
import TicketService.Properties.RowShape

set_option autoImplicit false

namespace TicketService

open Interleaving Relational ScanService TicketWriteService VerifyService

variable {platform : Platform} {w : World} {g g' : Global} {i : Nat} {t : Uuid} {before after : Life}

def ScanLog.checksIn (log : ScanLog) : Prop :=
  log.verdict = .ok ∧ log.direction = .inside

structure Traced (l : Life) : Prop where
  status : ∀ row ∈ l.row, row.revoked = false → replay l.logs = row.status
  checkedIn : ∀ row ∈ l.row, row.checkedInAt.isSome ↔ ∃ log ∈ l.logs, log.checksIn
  revoked : ∀ row ∈ l.row, ∀ log ∈ l.logs, log.verdict = .revoked → row.revoked = true

namespace Traced

variable {row row' : Ticket} {logs : List ScanLog} {facts facts' : List AnalyticsOutbox} {log : ScanLog}

theorem kept (traced : Traced ⟨some row, logs, facts⟩) (status : row'.status = row.status)
    (checkedIn : row'.checkedInAt = row.checkedInAt) : Traced ⟨some row', logs, facts'⟩ := by
  have revoked : row'.revoked = row.revoked := congrArg Status.revoked status
  constructor
  · rintro _ ⟨⟩ valid
    rw [status]
    exact traced.status row rfl (revoked.symm.trans valid)
  · rintro _ ⟨⟩
    rw [checkedIn]
    exact traced.checkedIn row rfl
  · rintro _ ⟨⟩ log member verdict
    rw [revoked]
    exact traced.revoked row rfl log member verdict

theorem logged (traced : Traced ⟨some row, logs, facts⟩)
    (status : row'.revoked = false → row'.status = row.status.after log)
    (checkedIn : row'.checkedInAt.isSome ↔ row.checkedInAt.isSome ∨ log.checksIn)
    (revoked : log.verdict = .revoked ∨ row.revoked = true → row'.revoked = true) :
    Traced ⟨some row', logs ++ [log], facts'⟩ := by
  constructor
  · rintro _ ⟨⟩ valid
    have before : row.revoked = false := by
      by_contra gone
      rw [revoked (.inr (by simpa using gone))] at valid
      cases valid
    rw [status valid, replay_concat, traced.status row rfl before]
  · rintro _ ⟨⟩
    rw [checkedIn, traced.checkedIn row rfl]
    simp [or_and_right, exists_or]
  · rintro _ ⟨⟩ other member verdict
    rcases List.mem_append.mp member with old | new
    · exact revoked (.inr (traced.revoked row rfl other old verdict))
    · rw [List.mem_singleton.mp new] at verdict
      exact revoked (.inl verdict)

end Traced

theorem Turn.traced (turn : Turn platform g t i before after) (shaped : Shaped g)
    (here : before.row = g.world.ticket t)
    (quiet : after.logs = before.logs → ∀ a ∈ before.row, ∀ b ∈ after.row, a.alike b)
    (absent : before.row = none → before.logs = [])
    (seen : ∀ context input log, g.calls[i]? = some (.scan context input) → log.ticketId = t →
      log.verdict = .revoked → after.logs = before.logs ++ [log] → ∀ row ∈ before.row, row.revoked = true)
    (traced : Traced before) : Traced after := by
  cases turn with
  | created context data createdAt fact logs facts =>
    obtain rfl : logs = [] := absent rfl
    constructor
    · rintro _ ⟨⟩ -
      rfl
    · rintro _ ⟨⟩
      simp [newTicket]
    · rintro _ ⟨⟩ log member
      cases member
  | bound input ticket row siblings now updatedAt logs facts => exact traced.kept rfl rfl
  | unbound input ticket row siblings unboundAt logs facts => exact traced.kept rfl rfl
  | deleted call row logs facts => exact ⟨by simp, by simp, by simp⟩
  | revoked context reason actorId ticket row now updatedAt createdAt fact logs facts =>
    refine traced.logged (fun _ => rfl) ?_ fun _ => rfl
    simp [ScanLog.checksIn, staffLogRow, Ticket.updated, revokedState]
  | presence context state actorId ticket row checkedInAt updatedAt createdAt fact logs facts called
      override =>
    refine traced.logged (fun _ => rfl) ?_ (by simp [staffLogRow, Ticket.updated, presenceState])
    have written : (checkedInAt.or row.checkedInAt).isSome ↔ row.checkedInAt.isSome ∨ state = .inside := by
      cases towards : state with
      | outside =>
        have unset : checkedInAt = none := by simpa [towards] using override.checkedIn
        simp [unset]
      | inside =>
        -- The override leaves the check-in time out when it has read one.
        by_cases first : ticket.checkedInAt = none
        · have set := override.checkedIn.mpr ⟨towards, first⟩
          simp [set]
        · have kept := ((shaped.read override.read).2 row here.symm).checkedIn first
          simp [Option.isSome_iff_ne_none.mpr kept]
    simpa [ScanLog.checksIn, staffLogRow, Ticket.updated, presenceState] using written
  | reset actorId ticket row updatedAt createdAt logs facts =>
    refine traced.logged (fun _ => rfl) ?_ ?_
    · simp [ScanLog.checksIn, staffLogRow, Ticket.updated, unbindDevice]
    · simp [staffLogRow, Ticket.updated, unbindDevice]
  | accepted context input payload ticket row checkedInAt updatedAt returnedAt createdAt scanned
      presence logs facts called same accepted =>
    refine traced.logged (fun _ => rfl) ?_
      (by simp [scanLogRow, TicketService.accepted, Ticket.updated, acceptedState])
    have checkedIn := accepted.checkedIn
    have outside := accepted.admitted.outside
    have written : checkedInAt.isSome ↔ row.checkedInAt.isSome ∨ intendedState input.direction = .inside := by
      cases towards : intendedState input.direction with
      | inside =>
        rw [towards] at checkedIn
        have set : checkedInAt.isSome := checkedIn
        simp [set]
      | outside =>
        -- Who leaves has been found inside, and so has been checked in.
        rw [towards] at checkedIn outside
        have known : checkedInAt = ticket.checkedInAt := checkedIn
        subst same
        obtain ⟨held, ages⟩ := shaped.read accepted.admitted.read.own
        have inside : ticket.currentState = .inside := by
          cases state : ticket.currentState with
          | inside => rfl
          | outside => exact absurd state outside
        have set := held.inside inside
        have kept := (ages row here.symm).checkedIn set
        simp [known, Option.isSome_iff_ne_none.mpr set, Option.isSome_iff_ne_none.mpr kept]
    simpa [ScanLog.checksIn, scanLogRow, TicketService.accepted, Ticket.updated, acceptedState] using written
  | rejected context input result row createdAt fact logs facts called same refused =>
    have gone (verdict : result.verdict = .revoked) : row.revoked = true :=
      seen context input _ called same.symm verdict rfl row rfl
    refine traced.logged ?_ ?_ ?_
    · intro valid
      unfold Status.after
      split
      next accepted => exact absurd accepted refused
      next verdict => exact absurd (valid.symm.trans (gone verdict)) Bool.false_ne_true
      next => rfl
    · simp [ScanLog.checksIn, scanLogRow, refused]
    · rintro (verdict | revoked)
      · exact gone verdict
      · exact revoked
  | autoRevoked row now updatedAt logs facts =>
    exact traced.kept (quiet rfl row rfl _ rfl).1 rfl

def Lasting (t : Uuid) (g : Global) : Prop :=
  ∀ e ∈ g.history, ∀ old, e.world.ticket t = some old → old.revoked = true →
    ∀ row, g.world.ticket t = some row → row.revoked = true

theorem Turn.keeps_revoked (turn : Turn platform g t i before after) :
    ∀ row ∈ before.row, ∀ row' ∈ after.row, row.revoked = true → row'.revoked = true := by
  cases turn with
  | created => rintro _ ⟨⟩
  | deleted => rintro _ _ _ ⟨⟩
  | revoked =>
    rintro _ ⟨⟩ _ ⟨⟩ _
    rfl
  | autoRevoked =>
    rintro _ ⟨⟩ _ ⟨⟩ _
    rfl
  | _ =>
    rintro _ ⟨⟩ _ ⟨⟩ revoked
    exact revoked

theorem Change.lasting {actor : Option Nat} (change : Change platform actor g g') (rooted : Rooted g)
    (shaped : Shaped g) (lasting : Lasting t g) : Lasting t g' := by
  intro e member old found revoked row' present
  have before : Committed g t.call ∧ ∀ row, g.world.ticket t = some row → row.revoked = true := by
    rcases change.recorded e member with earlier | here
    · exact ⟨shaped.committed e earlier t old found, lasting e earlier old found revoked⟩
    · rw [here] at found
      refine ⟨rooted.committed found, fun row present => ?_⟩
      rw [found] at present
      cases present
      exact revoked
  obtain ⟨committed, gone⟩ := before
  cases stood : g.world.ticket t with
  | none =>
    rw [change.extends.gone t committed stood] at present
    cases present
  | some row =>
    rcases change.turn t with same | ⟨i, -, turn⟩
    · have kept : g'.world.ticket t = g.world.ticket t := congrArg Life.row same
      rw [kept, stood] at present
      rw [← Option.some.inj present]
      exact gone row stood
    · exact turn.keeps_revoked row stood row' present (gone row stood)

theorem reachable_lasting (pristine : Pristine w) {c : ServiceState}
    (reachable : (service platform).Reachable w c) : Lasting t c.shared := by
  refine reachable_induction pristine reachable (Lasting t) ?_ ?_
  · intro e member
    cases member
  · intro actor b c before _ change lasting
    exact change.lasting (reachable_rooted pristine before) (reachable_shaped pristine before) lasting

theorem reachable_traced (pristine : Pristine w) {c : ServiceState}
    (reachable : (service platform).Reachable w c) (t : Uuid) : Traced (life c.shared.world.store t) := by
  refine reachable_induction pristine reachable (fun g => Traced (life g.world.store t)) ?_ ?_
  · have absent : (life ((service platform).initial w).shared.world.store t).row = none := by
      simp [System.initial, life, Store.ticket, Table.get?, pristine.tickets]
    exact ⟨by simp [absent], by simp [absent], by simp [absent]⟩
  · intro actor b c before after change traced
    cases change.advance t with
    | still same => exact same ▸ traced
    | turned i tx committed _ _ turn quiet =>
      refine turn.traced (reachable_shaped pristine before) rfl quiet
        ((reachable_tallied pristine before).accounted t).absent ?_ traced
      intro context input log called own verdict added row present
      obtain ⟨ticket, ⟨w', issued, found⟩, revoked⟩ := revoked_log_read after committed
        (change.extends.calls i _ called) own verdict added
      exact reachable_lasting pristine before _ issued ticket found revoked row present
    | revoked i e _ revokes =>
      obtain ⟨now, result, row, updatedAt, -, present, written⟩ := revokes
      rw [written]
      constructor
      · rintro _ ⟨⟩ ⟨⟩
      · rintro _ ⟨⟩
        exact traced.checkedIn row present
      · rintro _ ⟨⟩ log member verdict
        rfl

/-- In every state of every run, whatever interleaves, the replay of the scan logs gives the status of
every ticket that is not revoked, a ticket has been checked in if and only if an accepted log says so, and
only a revoked ticket has a log with the verdict REVOKED. -/
theorem logs_tell_rows (pristine : Pristine w) {c : ServiceState}
    (reachable : (service platform).Reachable w c) (t : Uuid) : Traced (life c.shared.world.store t) :=
  reachable_traced pristine reachable t

section Samples

open Sample

-- Two overrides have both read that the guest is outside.
def crossingOverrides : List ServiceAct :=
  prepared ++ call 4 (.updatePresence context ticket .inside staff) 2 ++
    call 5 (.updatePresence context ticket .inside staff) 10 ++ List.replicate 10 (.step 4)

theorem crossing_overrides_traced :
    ((life (run crossingOverrides).shared.world.store ticket).logs.map (·.direction)) = [.inside, .inside] ∧
      Traced (life (run crossingOverrides).shared.world.store ticket) :=
  ⟨by decide +kernel, logs_tell_rows pristine_empty (reachable_run _) ticket⟩

end Samples

end TicketService
