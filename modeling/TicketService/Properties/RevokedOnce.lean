import TicketService.Properties.Nonces
import TicketService.Refinement.Trail

set_option autoImplicit false

namespace TicketService

open Interleaving Relational

variable {platform : Platform} {g g' : Global} {i : Nat} {t : Uuid} {w : World}
  {record : RevocationRecord}

def Call.revokes (t : Uuid) : Call → Bool
  | .revoke _ ticketId _ _ => ticketId = t
  | _ => false

-- Whether the event writes a revocation to the row of the ticket that is revoked already.
def rewrites (calls : List Call) (t : Uuid) : Event statements World Tx → Bool
  | .stmt _ (.ticketUpdate .prisma id _) _ w => id = t && (w.ticket t).any (·.revoked)
  | .stmt .. => false
  | .commit i _ w => calls[i]?.any (Call.revokes t) && (w.ticket t).any (·.revoked)
  | .rollback .. => false

/-- No `revoke` commits and no automatic revocation is written while the ticket is revoked. -/
def RevokesUnrevoked (t : Uuid) (g : Global) : Prop :=
  ∀ e ∈ g.history, rewrites g.calls t e = false

instance (t : Uuid) (g : Global) : Decidable (RevokesUnrevoked t g) :=
  inferInstanceAs (Decidable (∀ e ∈ g.history, rewrites g.calls t e = false))

def Deleted (g : Global) : Prop :=
  ∃ (i : Nat) (call : Call), g.calls[i]? = some call ∧ call.deletes ∧ Committed g i

def Recorded (record : RevocationRecord) (deleted : Prop) : Option Ticket → Prop
  | some row => row.revoked = true ∧ row.revocation = record
  | none => deleted

def OnRecord (t : Uuid) (record : RevocationRecord) (g : Global) : Prop :=
  Recorded record (Deleted g) (g.world.ticket t)

structure RecordedOnce (t : Uuid) (g g' : Global) : Prop where
  lasting : ∀ row, g.world.ticket t = some row → row.revoked = true → OnRecord t row.revocation g'
  fact : ((life g'.world.store t).factsOf .ticketRevoked).length ≤ 1

theorem RecordedOnce.same (once : RecordedOnce t g g') {row row' : Ticket}
    (present : g.world.ticket t = some row) (revoked : row.revoked = true)
    (later : g'.world.ticket t = some row') : row'.revocation = row.revocation := by
  have kept := once.lasting row present revoked
  unfold OnRecord at kept
  rw [later] at kept
  exact kept.2

theorem Deleted.extends (deleted : Deleted g) (moved : Extends g g') : Deleted g' := by
  obtain ⟨i, call, called, deletes, committed⟩ := deleted
  exact ⟨i, call, moved.calls i call called, deletes, moved.committed committed⟩

theorem RevokesUnrevoked.before (unrevoked : RevokesUnrevoked t g') (moved : Extends g g') :
    RevokesUnrevoked t g := by
  intro e member
  have spared := unrevoked e (moved.history e member)
  cases e with
  | stmt i stmt result w =>
    cases stmt with
    | ticketUpdate client => cases client <;> exact spared
    | _ => exact spared
  | rollback => rfl
  | commit i tx w =>
    cases called : g.calls[i]? with
    | none => simp [rewrites, called]
    | some call => simpa [rewrites, called, moved.calls i call called] using spared

theorem RevokesUnrevoked.revoke {tx : Tx} (unrevoked : RevokesUnrevoked t
    (g.commit (engine platform) i tx)) {context : RequestContext} {reason : Option String}
    {actorId : Uuid} (called : g.calls[i]? = some (.revoke context t reason actorId)) {row : Ticket}
    (present : g.world.ticket t = some row) : row.revoked = false := by
  have spared := unrevoked _ List.mem_cons_self
  simpa [rewrites, called, Call.revokes, present] using spared

theorem RevokesUnrevoked.auto (unrevoked : RevokesUnrevoked t g') {e : Event statements World Tx}
    (recorded : g'.history = e :: g.history) {after : Life} (revokes : AutoRevokes g i t e after)
    {row : Ticket} (present : g.world.ticket t = some row) : row.revoked = false := by
  have spared := unrevoked e (recorded ▸ List.mem_cons_self)
  obtain ⟨now, result, -, -, rfl, -⟩ := revokes
  simpa [rewrites, present] using spared

theorem Recorded.updated {deleted deleted' : Prop} {row : Ticket}
    (recorded : Recorded record deleted (some row)) {data : TicketState → TicketState} (now : Time)
    (revoked : (data row.toTicketState).revoked = row.revoked)
    (same : (row.updated data now).revocation = row.revocation) :
    Recorded record deleted' (some (row.updated data now)) :=
  ⟨revoked.trans recorded.1, same.trans recorded.2⟩

theorem Turn.on_record {before after : Life} {tx : Tx} (turn : Turn platform g t i before after)
    (known : Committed g t.call) (present : g.world.ticket t = before.row)
    (unrevoked : RevokesUnrevoked t (g.commit (engine platform) i tx))
    (quiet : after.logs = before.logs → ∀ a ∈ before.row, ∀ b ∈ after.row, a.alike b)
    (recorded : Recorded record (Deleted g) before.row) :
    Recorded record (Deleted (g.commit (engine platform) i tx)) after.row := by
  cases turn with
  | created context data createdAt fact logs facts same called first =>
    rw [same] at known
    exact absurd known first
  | bound input ticket row siblings now updatedAt => exact recorded.updated updatedAt rfl rfl
  | unbound input ticket row siblings unboundAt => exact recorded.updated unboundAt rfl rfl
  | deleted call row logs facts called deletes =>
    exact ⟨i, call, called, deletes, tx, g.world, List.mem_cons_self⟩
  | revoked context reason actorId ticket row now updatedAt createdAt fact logs facts called =>
    have valid := unrevoked.revoke called present
    rw [recorded.1] at valid
    cases valid
  | presence context state actorId ticket row checkedInAt updatedAt =>
    exact recorded.updated updatedAt rfl rfl
  | reset actorId ticket row updatedAt => exact recorded.updated updatedAt rfl rfl
  | accepted context input payload ticket row checkedInAt updatedAt =>
    exact recorded.updated updatedAt rfl rfl
  | rejected context input result row => exact recorded
  | autoRevoked row now updatedAt =>
    obtain ⟨status, revocation⟩ := quiet rfl row rfl _ rfl
    exact recorded.updated updatedAt (congrArg Status.revoked status) revocation

theorem Change.on_record {actor : Option Nat} (change : Change platform actor g g')
    (known : Committed g t.call) (unrevoked : RevokesUnrevoked t g') (recorded : OnRecord t record g) :
    OnRecord t record g' := by
  have later (deleted : Recorded record (Deleted g) (g'.world.ticket t)) : OnRecord t record g' := by
    unfold OnRecord
    cases present : g'.world.ticket t with
    | none =>
      rw [present] at deleted
      exact Deleted.extends deleted change.extends
    | some row =>
      rw [present] at deleted
      exact deleted
  cases change.advance t with
  | still same =>
    have same' : g'.world.ticket t = g.world.ticket t := congrArg Life.row same
    exact later (same' ▸ recorded)
  | turned i tx committed _ _ turn quiet =>
    subst committed
    exact turn.on_record known rfl unrevoked quiet recorded
  | revoked i e logged revokes =>
    obtain ⟨now, result, row, updatedAt, -, present, -⟩ := id revokes
    have valid := unrevoked.auto logged revokes present
    have found : g.world.ticket t = some row := present
    unfold OnRecord at recorded
    rw [found] at recorded
    rw [recorded.1] at valid
    cases valid

theorem runs_on_record (pristine : Pristine w) {c c' : ServiceState}
    (reachable : (service platform).Reachable w c) (runs : (service platform).Runs c c')
    (unrevoked : RevokesUnrevoked t c'.shared) {row : Ticket}
    (present : c.shared.world.ticket t = some row) (revoked : row.revoked = true) :
    OnRecord t row.revocation c'.shared := by
  have key : row.id = t := Table.key_of_get? present
  have known : Committed c.shared t.call :=
    key ▸ (reachable_rooted pristine reachable).tickets row (Table.mem_of_get? present)
  have kept := runs_invariant pristine reachable runs (fun g => Committed g t.call ∧
    (RevokesUnrevoked t g → OnRecord t row.revocation g)) ?_ ?_
  · exact kept.2 unrevoked
  · refine ⟨known, fun _ => ?_⟩
    unfold OnRecord
    rw [present]
    exact ⟨revoked, rfl⟩
  · rintro actor g g' - ⟨committed, ih⟩ change
    refine ⟨change.extends.committed committed, fun unrevoked => ?_⟩
    exact change.on_record committed unrevoked (ih (unrevoked.before change.extends))

structure ReportedOnce (l : Life) : Prop where
  valid : ∀ row ∈ l.row, row.revoked = false → l.factsOf .ticketRevoked = []
  once : (l.factsOf .ticketRevoked).length ≤ 1

namespace ReportedOnce

variable {row : Ticket} {logs logs' : List ScanLog} {facts : List AnalyticsOutbox}

theorem updated (reported : ReportedOnce ⟨some row, logs, facts⟩) {data : TicketState → TicketState}
    (now : Time) (kept : (data row.toTicketState).revoked = false → row.revoked = false) :
    ReportedOnce ⟨some (row.updated data now), logs', facts⟩ where
  valid := by
    rintro _ ⟨⟩ valid
    exact reported.valid row rfl (kept valid)
  once := reported.once

theorem other {l : Option Ticket} (reported : ReportedOnce ⟨l, logs, facts⟩)
    {added : List AnalyticsOutbox} (topics : ∀ fact ∈ added, fact.topic ≠ .ticketRevoked) :
    ReportedOnce ⟨l, logs', facts ++ added⟩ := by
  have none : added.filter (·.topic = .ticketRevoked) = [] := by
    simpa [List.filter_eq_nil_iff] using topics
  have same : Life.factsOf ⟨l, logs', facts ++ added⟩ .ticketRevoked =
      Life.factsOf ⟨l, logs, facts⟩ .ticketRevoked := by
    simp [Life.factsOf, List.filter_append, none]
  constructor
  · rw [same]
    exact reported.valid
  · rw [same]
    exact reported.once

end ReportedOnce

theorem Turn.reported {before after : Life} {tx : Tx} (turn : Turn platform g t i before after)
    (fresh : ¬Committed g t.call → before.facts = []) (present : g.world.ticket t = before.row)
    (unrevoked : RevokesUnrevoked t (g.commit (engine platform) i tx))
    (reported : ReportedOnce before) : ReportedOnce after := by
  have unrevoking (state : PresenceState) : ScanService.presenceTopic state ≠ .ticketRevoked := by
    cases state <;> decide
  cases turn with
  | created context data createdAt fact logs facts same called first enqueued =>
    obtain rfl : facts = [] := fresh (by rw [same]; exact first)
    have topic := enqueued.topic
    constructor
    · rintro row - -
      simp [Life.factsOf, topic]
    · simp [Life.factsOf, topic]
  | bound input ticket row siblings now updatedAt => exact reported.updated updatedAt id
  | unbound input ticket row siblings unboundAt => exact reported.updated unboundAt id
  | deleted call row logs facts => exact ⟨by simp, reported.once⟩
  | revoked context reason actorId ticket row now updatedAt createdAt fact logs facts called read
      granted valid enqueued =>
    have before := reported.valid row rfl (unrevoked.revoke called present)
    have added (row' : Option Ticket) (logs' : List ScanLog) :
        Life.factsOf ⟨row', logs', facts ++ [fact]⟩ .ticketRevoked = [fact] := by
      simp only [Life.factsOf] at before
      simp [Life.factsOf, List.filter_append, before, enqueued.topic]
    constructor
    · rintro _ ⟨⟩ ⟨⟩
    · rw [added]
      simp
  | presence context state actorId ticket row checkedInAt updatedAt createdAt fact logs facts called
      override enqueued =>
    have updated : ReportedOnce ⟨some (row.updated (TicketWriteService.presenceState state checkedInAt)
        updatedAt), logs, facts⟩ :=
      reported.updated updatedAt id
    refine updated.other fun fact member => ?_
    rw [List.mem_singleton.mp member, enqueued.topic]
    exact unrevoking state
  | reset actorId ticket row updatedAt => exact reported.updated updatedAt id
  | accepted context input payload ticket row checkedInAt updatedAt returnedAt createdAt scanned
      presence logs facts called same accepted granted scanned_row presence_row =>
    have updated : ReportedOnce ⟨some (row.updated (VerifyService.acceptedState payload
        (intendedState input.direction) checkedInAt) updatedAt), logs, facts⟩ :=
      reported.updated updatedAt id
    refine updated.other fun fact member => ?_
    rcases List.mem_pair.mp member with rfl | rfl
    · rw [scanned_row.topic]
      decide
    · rw [presence_row.topic]
      exact unrevoking (intendedState input.direction)
  | rejected context input result row createdAt fact logs facts called same refused read enqueued =>
    refine reported.other fun fact member => ?_
    rw [List.mem_singleton.mp member, enqueued.topic]
    decide
  | autoRevoked row now updatedAt =>
    exact reported.updated updatedAt fun valid => absurd valid (by simp [ShareGuardService.autoRevoked])

theorem reachable_reported (pristine : Pristine w) {c : ServiceState}
    (reachable : (service platform).Reachable w c) (unrevoked : RevokesUnrevoked t c.shared) :
    ReportedOnce (life c.shared.world.store t) := by
  refine reachable_induction pristine reachable
    (fun g => RevokesUnrevoked t g → ReportedOnce (life g.world.store t)) ?_ ?_ unrevoked
  · intro _
    have absent : w.store.ticket t = none := by
      simp [Store.ticket, Table.get?, pristine.tickets]
    have empty : life ((service platform).initial w).shared.world.store t = ⟨none, [], []⟩ := by
      simp [System.initial, life, absent, pristine.scanLogs, pristine.analyticsOutbox]
    rw [empty]
    exact ⟨by simp, by simp [Life.factsOf]⟩
  · intro actor b c before _ change ih unrevoked
    have reported := ih (unrevoked.before change.extends)
    cases change.advance t with
    | still same => exact same ▸ reported
    | turned i tx committed _ _ turn =>
      rw [committed] at unrevoked
      exact turn.reported ((reachable_tallied pristine before).fresh t) rfl unrevoked reported
    | revoked i e _ revokes =>
      obtain ⟨now, result, row, updatedAt, -, present, after⟩ := revokes
      have here : life b.shared.world.store t = ⟨some row, (life b.shared.world.store t).logs,
          (life b.shared.world.store t).facts⟩ := life_of_ticket present
      rw [here] at reported
      rw [after]
      exact reported.updated updatedAt fun valid => absurd valid (by simp [ShareGuardService.autoRevoked])

/-- As long as no revocation is written to a revoked row, the record of the first revocation lasts
and one fact at most reports it. -/
theorem revocation_recorded_once (pristine : Pristine w) {c c' : ServiceState}
    (reachable : (service platform).Reachable w c) (runs : (service platform).Runs c c')
    (unrevoked : RevokesUnrevoked t c'.shared) : RecordedOnce t c.shared c'.shared where
  lasting _ present revoked := runs_on_record pristine reachable runs unrevoked present revoked
  fact := (reachable_reported pristine (reachable.trans runs) unrevoked).once

section Samples

open Sample

-- Two calls have read the ticket before either of them revokes it.
def revokedTwice : List ServiceAct :=
  prepared ++ call 4 (.revoke context ticket (some "lost") staff) 3 ++
    call 5 (.revoke context ticket (some "stolen") staff) 3 ++ List.replicate 10 (.step 4)

def revokedFor (reason : String) (row : Ticket) : Bool :=
  row.revoked && row.revokedReason = some reason

theorem revokedFor_iff {reason : String} {row : Ticket} :
    revokedFor reason row ↔ row.revoked = true ∧ row.revokedReason = some reason := by
  simp [revokedFor]

theorem revocation_rewritten : ¬∀ (w : World) (c c' : ServiceState) (t : Uuid), Pristine w →
    (service deployment).Reachable w c → (service deployment).Runs c c' →
    RecordedOnce t c.shared c'.shared := by
  intro claim
  have once := claim World.empty (run revokedTwice) (run (revokedTwice ++ List.replicate 10 (.step 5)))
    ticket pristine_empty (reachable_run _) (runs_append _ _)
  have first : ((run revokedTwice).shared.world.ticket ticket).any (revokedFor "lost") := by
    decide +kernel
  have second : ((run (revokedTwice ++ List.replicate 10 (.step 5))).shared.world.ticket
      ticket).any (revokedFor "stolen") := by decide +kernel
  obtain ⟨row, present, lost⟩ := (Option.any_eq_true _ _).mp first
  obtain ⟨row', present', stolen⟩ := (Option.any_eq_true _ _).mp second
  obtain ⟨revoked, reason⟩ := revokedFor_iff.mp lost
  obtain ⟨-, reason'⟩ := revokedFor_iff.mp stolen
  have kept : row'.revocation = row.revocation := once.same present revoked present'
  have same : row'.revokedReason = row.revokedReason := congrArg RevocationRecord.revokedReason kept
  rw [reason, reason'] at same
  exact absurd same (by decide)

def revokedInTurn : List ServiceAct :=
  prepared ++ call 4 (.revoke context ticket (some "lost") staff) 13

def revokedInTurnAgain : List ServiceAct :=
  revokedInTurn ++ call 5 (.revoke context ticket (some "stolen") staff) 5

theorem revocation_recorded_once_in_turn :
    RecordedOnce ticket (run revokedInTurn).shared (run revokedInTurnAgain).shared := by
  have unrevoked : RevokesUnrevoked ticket (run revokedInTurnAgain).shared := by decide +kernel
  exact revocation_recorded_once pristine_empty (reachable_run _) (runs_append _ _) unrevoked

end Samples

end TicketService
