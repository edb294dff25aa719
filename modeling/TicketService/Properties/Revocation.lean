import TicketService.Refinement.Life

set_option autoImplicit false

namespace TicketService

open Interleaving Relational

def Call.setsPresence : Call → Bool
  | .scan .. => true
  | .updatePresence .. => true
  | _ => false

def Stmt.rowsUpdated (w : World) : Stmt → List Ticket
  | .ticketUpdate .tx id _ => (w.ticket id).toList
  | .ticketUpdateMany filter _ => w.matching filter
  | _ => []

def spares (calls : List Call) : Event statements World Tx → Bool
  | .stmt i stmt _ w =>
    !calls[i]?.any Call.setsPresence || (stmt.rowsUpdated w).all fun row => !row.revoked
  | _ => true

/-- No scan and no override has updated a row that was revoked after it had read it. -/
def UpdatesUnrevoked (g : Global) : Prop :=
  ∀ e ∈ g.history, spares g.calls e

instance (g : Global) : Decidable (UpdatesUnrevoked g) :=
  inferInstanceAs (Decidable (∀ e ∈ g.history, spares g.calls e = true))

variable {platform : Platform} {g g' : Global} {i : Nat}

theorem UpdatesUnrevoked.row (unrevoked : UpdatesUnrevoked g) {stmt : Stmt} {result : stmt.Res}
    {w : World} (member : Event.stmt i stmt result w ∈ g.history) {call : Call}
    (called : g.calls[i]? = some call) (sets : call.setsPresence) {row : Ticket}
    (listed : row ∈ stmt.rowsUpdated w) : row.revoked = false := by
  have spared := unrevoked _ member
  simp only [spares, called, Option.any_some, sets, Bool.not_true, Bool.false_or,
    List.all_eq_true, Bool.not_eq_true'] at spared
  exact spared row listed

theorem UpdatesUnrevoked.before (unrevoked : UpdatesUnrevoked g') (moved : Extends g g') :
    UpdatesUnrevoked g := by
  intro e member
  have spared := unrevoked e (moved.history e member)
  cases e with
  | stmt i stmt result w =>
    cases called : g.calls[i]? with
    | none => simp [spares, called]
    | some call => simpa [spares, called, moved.calls i call called] using spared
  | commit => rfl
  | rollback => rfl

theorem UpdatesUnrevoked.presence (unrevoked : UpdatesUnrevoked g) {context : RequestContext}
    {t actorId : Uuid} {state : PresenceState} {ticket row : Ticket} {checkedInAt : Option Time}
    (called : g.calls[i]? = some (.updatePresence context t state actorId))
    (override : Override platform g i t state actorId ticket row checkedInAt) :
    row.revoked = false := by
  obtain ⟨result, w, member, found⟩ := override.updated
  exact unrevoked.row member called rfl (by simp [Stmt.rowsUpdated, found])

theorem UpdatesUnrevoked.accepted (unrevoked : UpdatesUnrevoked g) {context : RequestContext}
    {input : SecurityScanInput} {payload : QrPayload} {ticket row : Ticket}
    {checkedInAt : Option Time} (called : g.calls[i]? = some (.scan context input))
    (accepted : Accepted g i input payload ticket row checkedInAt) : row.revoked = false := by
  obtain ⟨count, w, member, found⟩ := accepted.updated
  have key : row.id = ticket.id := Table.key_of_get? found
  have listed : row ∈ w.store.tickets.rows := Table.mem_of_get? found
  exact unrevoked.row member called rfl
    (by simp [Stmt.rowsUpdated, World.matching, nonceFilter, listed, key, accepted.nonce])

theorem Turn.revoked_outside {t : Uuid} {before after : Life}
    (turn : Turn platform g t i before after) (unrevoked : UpdatesUnrevoked g)
    (outside : ∀ row ∈ before.row, row.revoked = true → row.currentState = .outside) :
    ∀ row ∈ after.row, row.revoked = true → row.currentState = .outside := by
  cases turn with
  | created context data createdAt fact logs facts => simp [TicketWriteService.newTicket]
  | bound input ticket row siblings now updatedAt logs facts =>
    rintro _ ⟨⟩
    exact outside row rfl
  | unbound input ticket row siblings unboundAt logs facts =>
    rintro _ ⟨⟩
    exact outside row rfl
  | deleted call row logs facts => simp
  | revoked context reason actorId ticket row now updatedAt createdAt fact logs facts =>
    rintro _ ⟨⟩ _
    rfl
  | presence context state actorId ticket row checkedInAt updatedAt createdAt fact logs facts called
      override enqueued =>
    rintro _ ⟨⟩ revoked
    have valid := unrevoked.presence called override
    simp [Ticket.updated, TicketWriteService.presenceState, valid] at revoked
  | reset actorId ticket row updatedAt createdAt logs facts =>
    rintro _ ⟨⟩
    exact outside row rfl
  | accepted context input payload ticket row checkedInAt updatedAt returnedAt createdAt scanned
      presence logs facts called same accepted =>
    rintro _ ⟨⟩ revoked
    have valid := unrevoked.accepted called accepted
    simp [Ticket.updated, VerifyService.acceptedState, valid] at revoked
  | rejected context input result row createdAt fact logs facts => exact outside
  | autoRevoked row now updatedAt logs facts =>
    rintro _ ⟨⟩ _
    rfl

structure StaysRevoked (logs : List ScanLog) (l : Life) : Prop where
  revoked : ∀ row ∈ l.row, row.revoked = true
  accepted : ∀ log ∈ l.logs, log.verdict = .ok → log ∈ logs

namespace StaysRevoked

variable {logs : List ScanLog} {row : Ticket} {current : List ScanLog}
  {facts facts' : List AnalyticsOutbox}

theorem updated (stays : StaysRevoked logs ⟨some row, current, facts⟩)
    {data : TicketState → TicketState} {now : Time}
    (keeps : row.revoked = true → (data row.toTicketState).revoked = true) :
    StaysRevoked logs ⟨some (row.updated data now), current, facts⟩ where
  revoked := by
    rintro _ ⟨⟩
    exact keeps (stays.revoked row rfl)
  accepted := stays.accepted

theorem logged (stays : StaysRevoked logs ⟨some row, current, facts⟩) {log : ScanLog}
    (other : log.verdict ≠ .ok) : StaysRevoked logs ⟨some row, current ++ [log], facts'⟩ where
  revoked := stays.revoked
  accepted old member verdict := by
    rcases List.mem_append.mp member with before | added
    · exact stays.accepted old before verdict
    · rw [List.mem_singleton.mp added] at verdict
      exact absurd verdict other

end StaysRevoked

theorem Turn.stays_revoked {t : Uuid} {before after : Life} {logs : List ScanLog}
    (turn : Turn platform g t i before after) (unrevoked : UpdatesUnrevoked g)
    (known : Committed g t.call) (stays : StaysRevoked logs before) : StaysRevoked logs after := by
  cases turn with
  | created context data createdAt fact logs facts same called first =>
    rw [same] at known
    exact absurd known first
  | bound input ticket row siblings now updatedAt logs facts => exact stays.updated id
  | unbound input ticket row siblings unboundAt logs facts => exact stays.updated id
  | deleted call row logs facts => exact ⟨by simp, by simp⟩
  | revoked context reason actorId ticket row now updatedAt createdAt fact logs facts =>
    exact (stays.updated fun _ => rfl).logged (by simp [TicketWriteService.staffLogRow])
  | presence context state actorId ticket row checkedInAt updatedAt createdAt fact logs facts called
      override enqueued =>
    have valid := unrevoked.presence called override
    simp [stays.revoked row rfl] at valid
  | reset actorId ticket row updatedAt createdAt logs facts =>
    exact (stays.updated id).logged (by simp [TicketWriteService.staffLogRow])
  | accepted context input payload ticket row checkedInAt updatedAt returnedAt createdAt scanned
      presence logs facts called same accepted =>
    have valid := unrevoked.accepted called accepted
    simp [stays.revoked row rfl] at valid
  | rejected context input result row createdAt fact logs facts called same refused =>
    exact stays.logged refused
  | autoRevoked row now updatedAt logs facts => exact stays.updated fun _ => rfl

structure RevocationWins (before after : Store) : Prop where
  outside : ∀ row ∈ after.tickets.rows, row.revoked = true → row.currentState = .outside
  accepted : ∀ row ∈ before.tickets.rows, row.revoked = true →
    ∀ log ∈ after.scanLogs, log.ticketId = row.id → log.verdict = .ok → log ∈ before.scanLogs

theorem reachable_outside {w : World} (pristine : Pristine w) {c : ServiceState}
    (reachable : (service platform).Reachable w c) (unrevoked : UpdatesUnrevoked c.shared) (t : Uuid) :
    ∀ row ∈ (life c.shared.world.store t).row, row.revoked = true → row.currentState = .outside := by
  refine reachable_invariant pristine reachable (fun g => UpdatesUnrevoked g →
    ∀ row ∈ (life g.world.store t).row, row.revoked = true → row.currentState = .outside) ?_ ?_
    unrevoked
  · intro _ row present
    have absent : w.store.ticket t = none := by
      simp [Store.ticket, Table.get?, pristine.tickets]
    simp [System.initial, life, absent] at present
  · intro actor g g' _ ih change unrevoked
    have before := unrevoked.before change.extends
    rcases change.turn t with same | ⟨i, -, turn⟩
    · rw [same]
      exact ih before
    · exact turn.revoked_outside before (ih before)

theorem runs_stay_revoked {w : World} (pristine : Pristine w) {c c' : ServiceState}
    (reachable : (service platform).Reachable w c) (runs : (service platform).Runs c c')
    (unrevoked : UpdatesUnrevoked c'.shared) {row : Ticket}
    (present : row ∈ c.shared.world.store.tickets.rows) (revoked : row.revoked = true) :
    StaysRevoked (life c.shared.world.store row.id).logs (life c'.shared.world.store row.id) := by
  have known := (reachable_rooted pristine reachable).tickets row present
  have found : c.shared.world.store.ticket row.id = some row := Store.ticket_mem.mp present
  have kept := runs_invariant pristine reachable runs (fun g => Committed g row.id.call ∧
    (UpdatesUnrevoked g → StaysRevoked (life c.shared.world.store row.id).logs
      (life g.world.store row.id))) ?_ ?_
  · exact kept.2 unrevoked
  · refine ⟨known, fun _ => ⟨?_, fun log member _ => member⟩⟩
    intro other there
    have same : some row = some other := found.symm.trans there
    cases same
    exact revoked
  · rintro actor g g' _ ⟨committed, ih⟩ change
    refine ⟨change.extends.committed committed, fun unrevoked => ?_⟩
    have before := unrevoked.before change.extends
    rcases change.turn row.id with same | ⟨i, -, turn⟩
    · rw [same]
      exact ih before
    · exact turn.stays_revoked before committed (ih before)

/-- In a run whose scans and overrides update no revoked row, revocation wins every race. -/
theorem revocation_wins {w : World} (pristine : Pristine w) {c c' : ServiceState}
    (reachable : (service platform).Reachable w c) (runs : (service platform).Runs c c')
    (unrevoked : UpdatesUnrevoked c'.shared) :
    RevocationWins c.shared.world.store c'.shared.world.store where
  outside row present :=
    reachable_outside pristine (reachable.trans runs) unrevoked row.id row
      (Store.ticket_mem.mp present)
  accepted row present revoked log member same verdict := by
    have stays := runs_stay_revoked pristine reachable runs unrevoked present revoked
    have logged : log ∈ (life c'.shared.world.store row.id).logs :=
      List.mem_filter.mpr ⟨member, by simpa using same⟩
    exact List.mem_of_mem_filter (stays.accepted log logged verdict)

section Race

open Sample

-- The scan has read its ticket when the revocation begins and commits.
def revokedDuringScan : List ServiceAct :=
  prepared ++ call 4 (.scan context entry) 9 ++ call 5 (.revoke context ticket none staff) 10

theorem revocation_wins_after_entry :
    RevocationWins (run (prepared ++ call 4 (.scan context entry) 30)).shared.world.store
      (run (prepared ++ call 4 (.scan context entry) 30 ++
        call 5 (.revoke context ticket none staff) 10)).shared.world.store := by
  have unrevoked : UpdatesUnrevoked (run (prepared ++ call 4 (.scan context entry) 30 ++
      call 5 (.revoke context ticket none staff) 10)).shared := by decide +kernel
  exact revocation_wins pristine_empty (reachable_run _) (runs_append _ _) unrevoked

theorem revocation_overtakes_scan : ¬∀ (platform : Platform) (w : World) (c c' : ServiceState),
    Pristine w → (service platform).Reachable w c → (service platform).Runs c c' →
      RevocationWins c.shared.world.store c'.shared.world.store := by
  intro claim
  have wins := claim deployment World.empty (run revokedDuringScan)
    (run (revokedDuringScan ++ List.replicate 10 (.step 4))) pristine_empty (reachable_run _)
    (runs_append _ _)
  have inside : ∃ row ∈ (run (revokedDuringScan ++ List.replicate 10
      (.step 4))).shared.world.store.tickets.rows,
      row.revoked = true ∧ row.currentState = .inside := by decide +kernel
  obtain ⟨row, present, revoked, entered⟩ := inside
  have outside := wins.outside row present revoked
  simp [entered] at outside

end Race

end TicketService
