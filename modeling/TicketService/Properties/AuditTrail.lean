import TicketService.Interleaving.Solo
import TicketService.Properties.Access
import TicketService.Properties.Nonces
import TicketService.Refinement.Records
import TicketService.Refinement.Trail

set_option autoImplicit false

namespace TicketService

open Interleaving Relational

variable {platform : Platform} {calls : List Call} {g g' : Global} {i : Nat} {t : Uuid} {w : World}
  {tx : Option Tx} {log : Record}

-- The calls that the audit trail records, and those that bind a device.
def Call.audited : Call → Bool
  | .createTicket .. => true
  | .scan .. => true
  | .updatePresence .. => true
  | .revoke .. => true
  | .activateDevice .. => true
  | .resetDeviceBinding .. => true
  | _ => false

def audits (calls : List Call) (i : Nat) : Bool :=
  calls[i]?.any Call.audited

def auditors (calls : List Call) (g : Global) : List Nat :=
  (g.history.map Event.thread).filter (audits calls)

def OneAfterAnother (g : Global) : Prop :=
  oneAtATime (auditors g.calls g)

-- Whether the event is the automatic revocation of a valid ticket.
def silences : Event statements World Tx → Bool
  | .stmt _ (.ticketUpdate .prisma id _) _ w => (w.ticket id).any (!·.revoked)
  | _ => false

def NoSilentRevocation (g : Global) : Prop :=
  ∀ e ∈ g.history, silences e = false

instance (g : Global) : Decidable (OneAfterAnother g) :=
  inferInstanceAs (Decidable (oneAtATime (auditors g.calls g) = true))

instance (g : Global) : Decidable (NoSilentRevocation g) :=
  inferInstanceAs (Decidable (∀ e ∈ g.history, silences e = false))

def Status.after (status : Status) (log : ScanLog) : Status :=
  match log.verdict with
  | .ok => { status with currentState := log.direction }
  | .revoked => ⟨.outside, true⟩
  | _ => status

def replay (logs : List ScanLog) : Status :=
  logs.foldl Status.after ⟨.outside, false⟩

def ScanLog.mark (log : ScanLog) : Option FactTopic :=
  match log.verdict with
  | .ok => some (ScanService.presenceTopic log.direction)
  | .revoked => some .ticketRevoked
  | _ => none

def marks : FactTopic → Bool
  | .ticketGuestCheckedIn => true
  | .ticketGuestCheckedOut => true
  | .ticketRevoked => true
  | _ => false

def Life.marks (l : Life) : List AnalyticsOutbox :=
  l.facts.filter fun fact => TicketService.marks fact.topic

def Accompanied (l l' : Life) : Prop :=
  ∀ row ∈ l.row, ∀ row' ∈ l'.row, row'.status ≠ row.status → ∃ log fact,
    l'.logs = l.logs ++ [log] ∧ row'.status = row.status.after log ∧
    l'.marks = l.marks ++ [fact] ∧ log.mark = some fact.topic

def Determined (l : Life) : Prop :=
  ∀ row ∈ l.row, replay l.logs = row.status

structure Audited (platform : Platform) (start : World) (c : ServiceState) : Prop where
  accompanied : ∀ b b', (service platform).Reachable start b → (service platform).Steps b b' →
    (service platform).Runs b' c → ∀ t,
      Accompanied (life b.shared.world.store t) (life b'.shared.world.store t)
  determined : ∀ b, (service platform).Reachable start b → (service platform).Runs b c → ∀ t,
    Determined (life b.shared.world.store t)

section Revoked

open ShareGuardService TicketMutationResolver VerifyService

def SeenRevoked (i : Nat) (t : Uuid) (log : Record) : Prop :=
  ∃ ticket w, .stmt i (.ticketFindUnique .tx t) (some ticket) w ∈ log ∧ w.ticket t = some ticket ∧
    ticket.revoked = true

def LogsSeen (i : Nat) (log : Record) : Prop :=
  ∀ entry, EntryCreated i log entry → entry.verdict = .revoked → SeenRevoked i entry.ticketId log

theorem SeenRevoked.later (seen : SeenRevoked i t log) (e : Event statements World Tx) :
    SeenRevoked i t (e :: log) := by
  obtain ⟨ticket, w, member, found⟩ := seen
  exact ⟨ticket, w, List.mem_cons_of_mem e member, found⟩

theorem LogsSeen.plain (seen : LogsSeen i log) {e : Event statements World Tx}
    (plain : Unlogged i e) : LogsSeen i (e :: log) := by
  rintro entry ⟨row, w, member⟩ verdict
  rcases List.mem_cons.mp member with same | before
  · exact absurd ⟨row, w, List.mem_singleton.mpr same⟩ (plain entry)
  · exact (seen entry ⟨row, w, before⟩ verdict).later e

theorem along_quiet {stmt : Stmt} (other : ∀ row, stmt ≠ .scanLogCreate row) (seen : LogsSeen i log) :
    Along (engine platform) .any i (LogsSeen i) (fun _ _ => True) (fun _ _ log => LogsSeen i log)
      (issue stmt) tx log :=
  along_issue stmt
    (fun _ _ _ _ _ => ⟨seen.plain (unlogged_stmt other), seen.plain (unlogged_stmt other)⟩)
    fun _ _ => trivial

def Unrevoked (i : Nat) (result : VerifyResult) (_ : Option Tx) (log : Record) : Prop :=
  LogsSeen i log ∧ result.verdict ≠ .revoked

theorem along_applyDecision {result : RiskResult} (seen : LogsSeen i log) :
    Along (engine platform) .any i (LogsSeen i) (fun _ _ => True) (fun _ _ log => LogsSeen i log)
      (applyDecision t result) tx log := by
  refine (along_quiet (by simp) seen).andThen fun now tx log seen => ?_
  refine (along_quiet (by simp) seen).andThen fun guard tx log seen => ?_
  simp only
  split
  · exact (along_quiet (by simp) seen).andThen fun _ _ _ seen => seen
  · split
    · exact (along_quiet (by simp) seen).andThen fun _ _ _ seen => seen
    · exact (along_quiet (by simp) seen).andThen fun _ _ _ seen => seen

variable {ticket : Ticket} {payload : QrPayload} {direction : GateDirection}

theorem along_rejectRisk {risk : RiskInput} {verdict : ScanVerdict} {message : String}
    (other : verdict ≠ .revoked) (seen : LogsSeen i log) :
    Along (engine platform) .any i (LogsSeen i) (fun _ _ => True) (Unrevoked i)
      (rejectRisk ticket payload risk verdict message) tx log :=
  (along_applyDecision seen).andThen fun _ _ _ seen => ⟨seen, other⟩

theorem along_rotateNonce {state : PresenceState} (seen : LogsSeen i log) :
    Along (engine platform) .any i (LogsSeen i) (fun _ _ => True) (Unrevoked i)
      (rotateNonce ticket payload state) tx log := by
  have checked : Along (engine platform) .any i (LogsSeen i) (fun _ _ => True)
      (fun _ _ log => LogsSeen i log) (checkedInAt ticket state) tx log := by
    cases state with
    | inside => exact (along_quiet (by simp) seen).andThen fun _ _ _ seen => seen
    | outside => exact seen
  refine checked.andThen fun checkedInAt tx log seen => ?_
  refine (along_quiet (by simp) seen).andThen fun count tx log seen => ?_
  split
  · exact ⟨seen, by simp⟩
  · exact (along_quiet (by simp) seen).andThen fun _ _ _ seen => ⟨seen, by simp⟩

theorem along_acquireReplayKey {state : PresenceState} (seen : LogsSeen i log) :
    Along (engine platform) .any i (LogsSeen i) (fun _ _ => True) (Unrevoked i)
      (acquireReplayKey ticket payload state) tx log := by
  refine (along_quiet (by simp) seen).andThen fun acquired tx log seen => ?_
  split
  · have reset : Along (engine platform) .any i (LogsSeen i) (fun _ _ => True)
        (fun _ _ log => LogsSeen i log) (resetShareGuard ticket.id) tx log := by
      refine (along_quiet (by simp) seen).andThen fun guard tx log seen => ?_
      cases guard with
      | none => exact seen
      | some guard => exact (along_quiet (by simp) seen).andThen fun _ _ _ seen => seen
    exact reset.andThen fun _ _ _ seen => along_rotateNonce seen
  · exact along_rejectRisk (by simp) seen

theorem along_applyDirectionPolicy (seen : LogsSeen i log) :
    Along (engine platform) .any i (LogsSeen i) (fun _ _ => True) (Unrevoked i)
      (applyDirectionPolicy ticket payload direction) tx log := by
  unfold applyDirectionPolicy
  simp only
  split
  · exact ⟨seen, by cases direction <;> simp [intendedState, directionVerdict]⟩
  · have ended : Along (engine platform) .any i (LogsSeen i) (fun _ _ => True)
        (fun _ _ log => LogsSeen i log) (eventEnded ticket direction) tx log := by
      cases direction with
      | exit => exact seen
      | entry =>
        refine (along_quiet (by simp) seen).andThen fun settings tx log seen => ?_
        split
        · exact seen
        · exact (along_quiet (by simp) seen).andThen fun _ _ _ seen => seen
    refine ended.andThen fun ended tx log seen => ?_
    split
    · exact ⟨seen, by simp⟩
    · exact along_acquireReplayKey seen

theorem along_checkNonce (seen : LogsSeen i log) :
    Along (engine platform) .any i (LogsSeen i) (fun _ _ => True) (Unrevoked i)
      (checkNonce ticket payload direction) tx log := by
  unfold checkNonce
  split
  · exact along_rejectRisk (by simp) seen
  · split
    · exact along_rejectRisk (by simp) seen
    · exact along_applyDirectionPolicy seen

theorem along_checkDevice {token signature deviceId : String} (seen : LogsSeen i log) :
    Along (engine platform) .any i (LogsSeen i) (fun _ _ => True) (Unrevoked i)
      (checkDevice ticket payload token signature deviceId direction) tx log := by
  unfold checkDevice
  split
  · exact ⟨seen, by simp⟩
  · refine (along_quiet (by simp) seen).andThen fun genuine tx log seen => ?_
    split
    · exact along_rejectRisk (by simp) seen
    · split
      · exact along_rejectRisk (by simp) seen
      · exact along_checkNonce seen

theorem along_blockedBefore (seen : LogsSeen i log) :
    Along (engine platform) .any i (LogsSeen i) (fun _ _ => True) (fun _ _ log => LogsSeen i log)
      (isBlocked t) tx log := by
  refine (along_quiet (by simp) seen).andThen fun guard tx log seen => ?_
  split
  · exact seen
  · exact (along_quiet (by simp) seen).andThen fun _ _ _ seen => seen

def Vouched (i : Nat) (result : VerifyResult) (log : Record) : Prop :=
  LogsSeen i log ∧ (result.verdict = .revoked → SeenRevoked i result.ticket.id log)

theorem along_verifyToken_seen {token signature deviceId : String} :
    Along (engine platform) .any i (LogsSeen i) (fun _ _ => True)
      (fun result _ log => Vouched i result log)
      (verifyToken token signature deviceId direction) (some ⟨[]⟩) [] := by
  have fresh : LogsSeen i [] := by
    rintro entry ⟨row, w, member⟩
    cases member
  refine Along.bind (Along.bind (along_issue (.tokenVerify token)
    (fun payload w w' tx' executed => ?_) fun _ _ => trivial))
  obtain rfl : tx' = some ⟨[]⟩ := by
    cases executed
    rfl
  have verified : LogsSeen i [.stmt i (.tokenVerify token) payload w] :=
    fresh.plain (unlogged_stmt (by simp))
  refine ⟨verified, ?_⟩
  cases payload with
  | none => trivial
  | some payload =>
    refine Along.bind (along_issue (.ticketFindUnique .tx payload.tid)
      (fun found w₁ w₂ tx₁ executed => ?_) fun _ _ => trivial)
    have same : found = w₁.ticket payload.tid := by
      cases executed
      rfl
    have read : LogsSeen i (.stmt i (.ticketFindUnique .tx payload.tid) found w₁ ::
        [.stmt i (.tokenVerify token) _ w]) := verified.plain (unlogged_stmt (by simp))
    refine ⟨read, ?_⟩
    cases found with
    | none => trivial
    | some ticket =>
      have key : ticket.id = payload.tid := Table.key_of_get? same.symm
      have unseen {result : VerifyResult} {tx : Option Tx} {log : Record}
          (unrevoked : Unrevoked i result tx log) : Vouched i result log :=
        ⟨unrevoked.1, fun revoked => absurd revoked unrevoked.2⟩
      simp only
      split
      next revoked =>
        refine ⟨read, fun _ => ⟨ticket, w₁, ?_, ?_, revoked⟩⟩
        · rw [key]
          exact List.mem_cons_self
        · rw [key]
          exact same.symm
      next valid =>
        refine (along_blockedBefore read).andThen fun blocked tx log seen => ?_
        split
        · exact ⟨seen, by simp⟩
        · exact (along_checkDevice seen).mono fun _ _ _ unrevoked => unseen unrevoked

def seenStory : Story statements World Tx Call Exn Reply where
  keeps i call log :=
    match call with
    | .scan .. => LogsSeen i log
    | _ => True
  returns _ _ _ _ := True
  throws _ _ _ _ := True

theorem tells_seen (call : Call) (i : Nat) :
    (service platform).Tells seenStory .any i call ⟨program platform i call, none⟩ [] := by
  cases call with
  | scan context input =>
    refine Along.bind ?_
    unfold scanToken
    split
    · trivial
    · refine (along_scan (R := Vouched i) ?_ ?_ (fun _ _ => trivial) along_verifyToken_seen).mono
        fun _ _ _ _ => trivial
      · rintro result log e plain ⟨seen, revoked⟩
        exact ⟨seen.plain plain, seen.plain plain, fun verdict => (revoked verdict).later e⟩
      · rintro result log row entry w verdict own ⟨seen, revoked⟩
        have after : LogsSeen i (.stmt i (.scanLogCreate row) entry w :: log) := by
          rintro other ⟨row', w', member⟩ logged
          rcases List.mem_cons.mp member with same | before
          · cases same
            rw [own]
            exact (revoked (verdict.symm.trans logged)).later _
          · exact (seen other ⟨row', w', before⟩ logged).later _
        exact ⟨after, after, fun verdict => (revoked verdict).later _⟩
  | _ => exact Along.always (fun _ => trivial) (fun _ _ => trivial) fun _ _ _ => trivial

theorem revoked_seen {c : ServiceState} (reachable : (service platform).Reachable w c)
    {context : RequestContext} {input : SecurityScanInput}
    (called : c.shared.calls[i]? = some (.scan context input)) {t' : Tx} {w' : World}
    (committed : .commit i t' w' ∈ c.shared.history) {entry : ScanLog}
    (written : .insertScanLog entry ∈ t'.writes) (verdict : entry.verdict = .revoked) :
    SeenRevoked i entry.ticketId (c.shared.own i) := by
  have tracked : (service platform).Tracked seenStory .any c :=
    System.reachable_tracked reachable tells_seen
  have own : .commit i t' w' ∈ c.shared.own i := (Shared.mem_own _ _).mpr ⟨committed, rfl, rfl⟩
  have seen : LogsSeen i (c.shared.own i) := tracked.kept i _ called (List.ne_nil_of_mem own)
  exact seen entry (committed_logged reachable committed written) verdict

end Revoked

section Steps

theorem replay_concat (logs : List ScanLog) (log : ScanLog) :
    replay (logs ++ [log]) = (replay logs).after log := by
  simp [replay, List.foldl_append]

structure Trail (calls : List Call) (t : Uuid) (g : Global) : Prop where
  determined : Determined (life g.world.store t)
  outside : ∀ row, g.world.ticket t = some row → row.revoked = true → row.currentState = .outside
  -- What the call at work has read still holds.
  fresh : ∀ i, (auditors calls g).head? = some i → ¬Committed g i → ∀ client ticket row,
    Read g i client t ticket → g.world.ticket t = some row → row.status = ticket.status

variable {row : Ticket} {logs : List ScanLog} {facts facts' : List AnalyticsOutbox}

theorem Determined.told (determined : Determined (life g.world.store t))
    (present : g.world.ticket t = some row) : replay (life g.world.store t).logs = row.status :=
  determined row present

theorem Determined.same (determined : Determined ⟨some row, logs, facts⟩) {row' : Ticket}
    (status : row'.status = row.status) : Determined ⟨some row', logs, facts'⟩ := by
  rintro _ ⟨⟩
  rw [status]
  exact determined row rfl

theorem Determined.logged (determined : Determined ⟨some row, logs, facts⟩) {row' : Ticket}
    {log : ScanLog} (status : row'.status = row.status.after log) :
    Determined ⟨some row', logs ++ [log], facts'⟩ := by
  rintro _ ⟨⟩
  rw [status, replay_concat, determined row rfl]

theorem accompanied_same {l l' : Life} (same : ∀ a ∈ l.row, ∀ b ∈ l'.row, b.status = a.status) :
    Accompanied l l' :=
  fun a before b after differs => absurd (same a before b after) differs

theorem accompanied_logged {row' : Ticket} {log : ScanLog} {added : List AnalyticsOutbox}
    (fact : AnalyticsOutbox) (status : row'.status = row.status.after log)
    (marked : added.filter (fun fact => marks fact.topic) = [fact])
    (topic : log.mark = some fact.topic) :
    Accompanied ⟨some row, logs, facts⟩ ⟨some row', logs ++ [log], facts ++ added⟩ := by
  rintro _ ⟨⟩ _ ⟨⟩ -
  refine ⟨log, fact, rfl, status, ?_, topic⟩
  simp [Life.marks, List.filter_append, marked]

open ScanService TicketWriteService VerifyService in
theorem Turn.accompanied {before after : Life} (turn : Turn platform g t i before after)
    (quiet : after.logs = before.logs → ∀ a ∈ before.row, ∀ b ∈ after.row, a.alike b) :
    Accompanied before after := by
  have marked (state : PresenceState) : marks (presenceTopic state) = true := by
    cases state <;> rfl
  cases turn with
  | created => exact accompanied_same (by simp)
  | deleted => exact accompanied_same (by simp)
  | bound input ticket row siblings now updatedAt logs facts =>
    refine accompanied_same ?_
    rintro _ ⟨⟩ _ ⟨⟩
    rfl
  | unbound input ticket row siblings unboundAt logs facts =>
    refine accompanied_same ?_
    rintro _ ⟨⟩ _ ⟨⟩
    rfl
  | reset actorId ticket row updatedAt createdAt logs facts =>
    refine accompanied_same ?_
    rintro _ ⟨⟩ _ ⟨⟩
    rfl
  | rejected context input result row createdAt fact logs facts =>
    refine accompanied_same ?_
    rintro _ ⟨⟩ _ ⟨⟩
    rfl
  | autoRevoked row now updatedAt logs facts =>
    exact accompanied_same fun a here b there => (quiet rfl a here b there).1
  | revoked context reason actorId ticket row now updatedAt createdAt fact logs facts called read
      granted valid enqueued =>
    refine accompanied_logged fact rfl ?_ ?_
    · simp [enqueued.topic, marks]
    · simp [ScanLog.mark, staffLogRow, enqueued.topic]
  | presence context state actorId ticket row checkedInAt updatedAt createdAt fact logs facts called
      override enqueued =>
    refine accompanied_logged fact rfl ?_ ?_
    · simp [enqueued.topic, marked]
    · simp [ScanLog.mark, staffLogRow, enqueued.topic]
  | accepted context input payload ticket row checkedInAt updatedAt returnedAt createdAt scanned
      presence logs facts called same accepted granted scanned_row presence_row =>
    refine accompanied_logged presence rfl ?_ ?_
    · have other : marks .ticketScanSucceeded = false := rfl
      simp [scanned_row.topic, presence_row.topic, marked, other]
    · simp [ScanLog.mark, scanLogRow, TicketService.accepted, presence_row.topic]

theorem Read.own {client : Client} {id : Uuid} {ticket : Ticket} (read : Read g i client id ticket) :
    Read g i client ticket.id ticket := by
  obtain ⟨w, member, found⟩ := read
  obtain rfl : ticket.id = id := Table.key_of_get? found
  exact ⟨w, member, found⟩

theorem valid_of_read {ticket : Ticket} (status : row.status = ticket.status)
    (valid : ticket.revoked = false) : row.revoked = false :=
  (congrArg Status.revoked status).trans valid

open ScanService TicketWriteService VerifyService in
theorem Turn.determined {before after : Life} (turn : Turn platform g t i before after)
    (quiet : after.logs = before.logs → ∀ a ∈ before.row, ∀ b ∈ after.row, a.alike b)
    (absent : before.row = none → before.logs = [])
    (fresh : ∀ call, g.calls[i]? = some call → call.audited → ∀ client ticket row,
      Read g i client t ticket → before.row = some row → row.status = ticket.status)
    (seen : ∀ context input log, g.calls[i]? = some (.scan context input) → log.ticketId = t →
      log.verdict = .revoked → after.logs = before.logs ++ [log] →
        ∃ ticket, Read g i .tx t ticket ∧ ticket.revoked = true)
    (determined : Determined before)
    (outside : ∀ row ∈ before.row, row.revoked = true → row.currentState = .outside) :
    Determined after ∧ ∀ row ∈ after.row, row.revoked = true → row.currentState = .outside := by
  cases turn with
  | created context data createdAt fact logs facts =>
    obtain rfl : logs = [] := absent rfl
    constructor
    · rintro _ ⟨⟩
      rfl
    · rintro _ ⟨⟩ ⟨⟩
  | deleted =>
    constructor
    · rintro _ ⟨⟩
    · rintro _ ⟨⟩
  | bound input ticket row siblings now updatedAt logs facts =>
    refine ⟨determined.same rfl, ?_⟩
    rintro _ ⟨⟩
    exact outside row rfl
  | unbound input ticket row siblings unboundAt logs facts =>
    refine ⟨determined.same rfl, ?_⟩
    rintro _ ⟨⟩
    exact outside row rfl
  | revoked context reason actorId ticket row now updatedAt createdAt fact logs facts =>
    refine ⟨determined.logged rfl, ?_⟩
    rintro _ ⟨⟩ _
    rfl
  | presence context state actorId ticket row checkedInAt updatedAt createdAt fact logs facts called
      override =>
    refine ⟨determined.logged rfl, ?_⟩
    rintro _ ⟨⟩ revoked
    have valid := valid_of_read (fresh _ called rfl _ _ row override.read rfl) override.valid
    exact absurd (valid.symm.trans revoked) Bool.false_ne_true
  | reset actorId ticket row updatedAt createdAt logs facts =>
    refine ⟨determined.logged rfl, ?_⟩
    rintro _ ⟨⟩
    exact outside row rfl
  | accepted context input payload ticket row checkedInAt updatedAt returnedAt createdAt scanned
      presence logs facts called same accepted =>
    refine ⟨determined.logged rfl, ?_⟩
    rintro _ ⟨⟩ revoked
    subst same
    have read : Read g i .tx ticket.id ticket := accepted.admitted.read.own
    have valid := valid_of_read (fresh _ called rfl _ _ row read rfl) accepted.admitted.valid
    exact absurd (valid.symm.trans revoked) Bool.false_ne_true
  | rejected context input result row createdAt fact logs facts called same refused =>
    refine ⟨determined.logged ?_, outside⟩
    unfold Status.after
    split
    next accepted => exact absurd accepted refused
    next revoked =>
      obtain ⟨ticket, read, gone⟩ := seen _ _ _ called same.symm revoked rfl
      have status := fresh _ called rfl _ _ row read rfl
      have valid : row.revoked = true := (congrArg Status.revoked status).trans gone
      simp [Ticket.status, valid, outside row rfl valid]
    next => rfl
  | autoRevoked row now updatedAt logs facts =>
    have status := (quiet rfl row rfl _ rfl).1
    refine ⟨determined.same status, ?_⟩
    rintro _ ⟨⟩ _
    rfl

theorem auditors_record {e : Event statements World Tx} (recorded : g'.history = e :: g.history) :
    auditors calls g' =
      if audits calls e.thread then e.thread :: auditors calls g else auditors calls g := by
  simp [auditors, recorded, List.filter_cons]

theorem mem_auditors {client : Client} {ticket : Ticket} (read : Read g i client t ticket)
    (audited : audits calls i) : i ∈ auditors calls g := by
  obtain ⟨w, member, -⟩ := read
  exact List.mem_filter.mpr ⟨List.mem_map.mpr ⟨_, member, rfl⟩, audited⟩

theorem head_of_turn {e : Event statements World Tx} (recorded : g'.history = e :: g.history)
    (serial : oneAtATime (auditors calls g')) (audited : audits calls e.thread)
    (before : e.thread ∈ auditors calls g) : (auditors calls g).head? = some e.thread := by
  rw [auditors_record recorded, if_pos audited] at serial
  simp only [oneAtATime, Bool.and_eq_true, decide_eq_true_eq] at serial
  exact serial.1 before

theorem serial_earlier {e : Event statements World Tx} (recorded : g'.history = e :: g.history)
    (serial : oneAtATime (auditors calls g')) : oneAtATime (auditors calls g) := by
  rw [auditors_record recorded] at serial
  split at serial
  · exact (Bool.and_eq_true_iff.mp serial).2
  · exact serial

theorem Trail.keep (trail : Trail calls t g)
    (recorded : g'.history = g.history ∨ ∃ e, g'.history = e :: g.history ∧ e.world = g.world)
    (serial : oneAtATime (auditors calls g'))
    (still : ∀ row', g'.world.ticket t = some row' →
      ∃ row, g.world.ticket t = some row ∧ row'.status = row.status) :
    ∀ i, (auditors calls g').head? = some i → ¬Committed g' i → ∀ client ticket row,
      Read g' i client t ticket → g'.world.ticket t = some row → row.status = ticket.status := by
  intro i head uncommitted client ticket row' read present'
  obtain ⟨row, present, status⟩ := still row' present'
  rw [status]
  rcases recorded with same | ⟨e, recorded, world⟩
  · have before : Read g i client t ticket := by
      simpa only [Read, Seen, same] using read
    refine trail.fresh i ?_ ?_ client ticket row before present
    · simpa only [auditors, same] using head
    · simpa only [Committed, same] using uncommitted
  · have earlier : ¬Committed g i := by
      rintro ⟨tx, w, member⟩
      exact uncommitted ⟨tx, w, recorded ▸ List.mem_cons_of_mem e member⟩
    rcases read.earlier recorded with before | ⟨w, new, found⟩
    · by_cases audited : audits calls e.thread
      · rw [auditors_record recorded, if_pos audited] at head
        obtain rfl : e.thread = i := Option.some.inj head
        exact trail.fresh _ (head_of_turn recorded serial audited (mem_auditors before audited)) earlier
          client ticket row before present
      · rw [auditors_record recorded, if_neg audited] at head
        exact trail.fresh i head earlier client ticket row before present
    · rw [new] at world
      obtain rfl : w = g.world := world
      have same : some row = some ticket := present.symm.trans found
      rw [Option.some.inj same]

theorem Turn.unaudited {before after : Life} (turn : Turn platform g t i before after)
    (quiet : after.logs = before.logs → ∀ a ∈ before.row, ∀ b ∈ after.row, a.alike b)
    (other : ∀ call, g.calls[i]? = some call → call.audited = false) :
    ∀ row' ∈ after.row, ∃ row ∈ before.row, row'.status = row.status := by
  cases turn with
  | created _ _ _ _ _ _ _ called => cases other _ called
  | bound _ _ _ _ _ _ _ _ _ activation => cases other _ activation.called
  | unbound _ _ _ _ _ _ _ _ activation => cases other _ activation.called
  | deleted =>
    rintro _ ⟨⟩
  | revoked _ _ _ _ _ _ _ _ _ _ _ called => cases other _ called
  | presence _ _ _ _ _ _ _ _ _ _ _ called => cases other _ called
  | reset _ _ _ _ _ _ _ called => cases other _ called
  | accepted _ _ _ _ _ _ _ _ _ _ _ _ _ called => cases other _ called
  | rejected _ _ _ _ _ _ _ _ called => cases other _ called
  | autoRevoked row now updatedAt =>
    rintro _ ⟨⟩
    exact ⟨row, rfl, (quiet rfl row rfl _ rfl).1⟩

theorem NoSilentRevocation.met (unsilenced : NoSilentRevocation g') {e : Event statements World Tx}
    (recorded : g'.history = e :: g.history) {after : Life} (revokes : AutoRevokes g i t e after)
    {row : Ticket} (present : g.world.ticket t = some row) : row.revoked = true := by
  have spared := unsilenced e (recorded ▸ List.mem_cons_self)
  obtain ⟨now, result, -, -, rfl, -⟩ := revokes
  simpa [silences, present] using spared

theorem revoked_log_read {b c : ServiceState} {start : World} {tx : Tx}
    (after : (service platform).Reachable start c)
    (committed : c.shared = b.shared.commit (engine platform) i tx)
    {context : RequestContext} {input : SecurityScanInput} {log : ScanLog}
    (called : c.shared.calls[i]? = some (.scan context input)) (own : log.ticketId = t)
    (verdict : log.verdict = .revoked)
    (added : (life c.shared.world.store t).logs = (life b.shared.world.store t).logs ++ [log]) :
    ∃ ticket, Read b.shared i .tx t ticket ∧ ticket.revoked = true := by
  have recorded : c.shared.history = .commit i tx b.shared.world :: b.shared.history := by
    rw [committed]
    rfl
  have written : .insertScanLog log ∈ tx.writes := by
    refine log_written (t := t) (s := b.shared.world.store) ?_
    rw [committed] at added
    exact added
  obtain ⟨ticket, w, member, found, revoked⟩ := revoked_seen after called
    (recorded ▸ List.mem_cons_self) written verdict
  rw [own] at member found
  have there := ((Shared.mem_own _ _).mp member).1
  rw [recorded] at there
  exact ⟨ticket, ⟨w, (List.mem_cons.mp there).resolve_left (by simp), found⟩, revoked⟩

theorem trail_step {b c : ServiceState} {actor : Option Nat} {start : World}
    (pristine : Pristine start) (before : (service platform).Reachable start b)
    (after : (service platform).Reachable start c) (change : Change platform actor b.shared c.shared)
    (within : ∀ (j : Nat) (call : Call), c.shared.calls[j]? = some call → calls[j]? = some call)
    (serial : oneAtATime (auditors calls c.shared)) (unsilenced : NoSilentRevocation c.shared)
    (trail : Trail calls t b.shared) : Trail calls t c.shared := by
  have known {j : Nat} {call : Call} (called : b.shared.calls[j]? = some call) :
      calls[j]? = some call := within j call (change.extends.calls j call called)
  cases change.advance t with
  | still same =>
    have row : c.shared.world.ticket t = b.shared.world.ticket t := congrArg Life.row same
    refine ⟨same ▸ trail.determined, row ▸ trail.outside, ?_⟩
    refine trail.keep change.history_cases serial fun row' present => ?_
    exact ⟨row', row ▸ present, rfl⟩
  | turned i tx committed commits first turn quiet =>
    have recorded : c.shared.history = .commit i tx b.shared.world :: b.shared.history := by
      rw [committed]
      rfl
    have fresh (call : Call) (called : b.shared.calls[i]? = some call) (audited : call.audited)
        (client : Client) (ticket row : Ticket) (read : Read b.shared i client t ticket)
        (present : b.shared.world.ticket t = some row) : row.status = ticket.status := by
      have own : audits calls i := by simp [audits, known called, audited]
      have head := head_of_turn recorded serial own (mem_auditors read own)
      exact trail.fresh i head first client ticket row read present
    obtain ⟨determined, outside⟩ := turn.determined quiet
      ((reachable_tallied pristine before).accounted t).absent fresh
      (fun context input log called own verdict added => revoked_log_read after committed
        (change.extends.calls i _ called) own verdict added) trail.determined trail.outside
    refine ⟨determined, outside, ?_⟩
    by_cases audited : audits calls i
    · intro j head uncommitted
      have own : audits calls
          (.commit i tx b.shared.world : Event statements World Tx).thread := audited
      rw [auditors_record recorded, if_pos own] at head
      obtain rfl : i = j := Option.some.inj head
      exact absurd ⟨tx, _, recorded ▸ List.mem_cons_self⟩ uncommitted
    · refine trail.keep change.history_cases serial fun row' present => ?_
      refine turn.unaudited quiet (fun call called => ?_) row' present
      simpa [audits, known called] using audited
  | revoked i e recorded revokes =>
    obtain ⟨now, result, row, updatedAt, -, present, written⟩ := id revokes
    have revoked := unsilenced.met recorded revokes present
    have gone : row.status = ⟨.outside, true⟩ := by
      simp [Ticket.status, revoked, trail.outside row present revoked]
    have later (row' : Ticket) (there : (life c.shared.world.store t).row = some row') :
        row'.status = row.status := by
      rw [written] at there
      cases there
      exact gone.symm
    refine ⟨?_, ?_, ?_⟩
    · intro row' there
      rw [later row' there, written]
      exact trail.determined row present
    · intro row' there revoked'
      exact congrArg Status.currentState ((later row' there).trans gone)
    · refine trail.keep change.history_cases serial fun row' there => ?_
      exact ⟨row, present, later row' there⟩

theorem reachable_trail {c : ServiceState} {start : World} (pristine : Pristine start)
    (reachable : (service platform).Reachable start c)
    (within : ∀ (j : Nat) (call : Call), c.shared.calls[j]? = some call → calls[j]? = some call)
    (serial : oneAtATime (auditors calls c.shared)) (unsilenced : NoSilentRevocation c.shared) :
    Trail calls t c.shared := by
  refine reachable_induction pristine reachable (fun g =>
    (∀ (j : Nat) (call : Call), g.calls[j]? = some call → calls[j]? = some call) →
      oneAtATime (auditors calls g) → NoSilentRevocation g → Trail calls t g) ?_ ?_ within serial
      unsilenced
  · intro _ _ _
    have absent : (life ((service platform).initial start).shared.world.store t).row = none := by
      simp [System.initial, life, Store.ticket, Table.get?, pristine.tickets]
    refine ⟨?_, ?_, ?_⟩
    · intro row present
      rw [absent] at present
      cases present
    · intro row present
      cases absent.symm.trans present
    · intro i head
      cases head
  · intro actor b c' before after change ih within serial unsilenced
    have earlier : oneAtATime (auditors calls b.shared) := by
      rcases change.history_cases with same | ⟨e, recorded, -⟩
      · simpa only [auditors, same] using serial
      · exact serial_earlier recorded serial
    have trail := ih (fun j call called => within j call (change.extends.calls j call called)) earlier
      fun e member => unsilenced e (change.history e member)
    exact trail_step pristine before after change within serial unsilenced trail

end Steps

theorem oneAtATime_suffix {rest all : List Nat} (suffix : rest <:+ all) (serial : oneAtATime all) :
    oneAtATime rest := by
  obtain ⟨first, rfl⟩ := suffix
  induction first with
  | nil => exact serial
  | cons i first ih => exact ih (Bool.and_eq_true_iff.mp serial).2

section Runs

variable {start : World} {b c : ServiceState}

theorem trail_before (pristine : Pristine start) (before : (service platform).Reachable start b)
    (runs : (service platform).Runs b c) (serial : OneAfterAnother c.shared)
    (unsilenced : NoSilentRevocation c.shared) : Trail c.shared.calls t b.shared := by
  have moved := runs_extends pristine before runs
  refine reachable_trail pristine before moved.calls ?_ fun e member =>
    unsilenced e (moved.history e member)
  exact oneAtATime_suffix (((System.runs_history runs).map _).filter _) serial

theorem steps_accompanied (pristine : Pristine start) (before : (service platform).Reachable start b)
    {b' : ServiceState} (step : (service platform).Steps b b') (runs : (service platform).Runs b' c)
    (serial : OneAfterAnother c.shared) (unsilenced : NoSilentRevocation c.shared) (t : Uuid) :
    Accompanied (life b.shared.world.store t) (life b'.shared.world.store t) := by
  have trail : Trail c.shared.calls t b.shared :=
    trail_before pristine before (.head step runs) serial unsilenced
  have unsilenced' : NoSilentRevocation b'.shared := fun e member =>
    unsilenced e (System.runs_history runs |>.subset member)
  obtain ⟨act, stepped⟩ := step
  rcases ((reachable_sound pristine before).step (service_keeps platform) stepped).2 with
    same | ⟨actor, change⟩
  · rw [same]
    exact accompanied_same fun a here b there => by rw [Option.some.inj (here.symm.trans there)]
  · cases change.advance t with
    | still same =>
      rw [same]
      exact accompanied_same fun a here b there => by rw [Option.some.inj (here.symm.trans there)]
    | turned i tx committed _ _ turn quiet => exact turn.accompanied quiet
    | revoked i e recorded revokes =>
      obtain ⟨now, result, row, updatedAt, -, present, written⟩ := id revokes
      have revoked := unsilenced'.met recorded revokes present
      refine accompanied_same fun a here b there => ?_
      rw [written] at there
      cases there
      cases present.symm.trans here
      simp [Ticket.status, Ticket.updated, ShareGuardService.autoRevoked, revoked,
        trail.outside row present revoked]

theorem NoSilentRevocation.step {actor : Option Nat} (change : Change platform actor g g')
    (before : ∀ t, Determined (life g.world.store t)) (after : ∀ t, Determined (life g'.world.store t))
    (unsilenced : NoSilentRevocation g) : NoSilentRevocation g' := by
  cases change with
  | invoke call => exact unsilenced
  | environ action => exact unsilenced
  | commit i tx commits first => exact List.forall_mem_cons.mpr ⟨rfl, unsilenced⟩
  | rollback i => exact List.forall_mem_cons.mpr ⟨rfl, unsilenced⟩
  | stmt i stmt result w tx tx' executed issued =>
    refine List.forall_mem_cons.mpr ⟨?_, unsilenced⟩
    cases stmt with
    | ticketUpdate client id data =>
      cases client with
      | tx => rfl
      | prisma =>
        obtain ⟨guard, now, -, rfl⟩ := issued
        obtain ⟨row, found, stored⟩ := Option.bind_eq_some_iff.mp executed
        cases stored
        by_contra silent
        have valid : row.revoked = false := by
          have present : g.world.ticket id = some row := found
          simpa [silences, present] using silent
        have written := life_apply (.putTicket id (ShareGuardService.autoRevoked now
          row.toTicketState) g.world.clock) g.world.store id
        rw [life_of_ticket found] at written
        simp only [Life.write, if_true, Option.map_some] at written
        have told := before id row found
        have told' : Determined ⟨some _, (life g.world.store id).logs, (life g.world.store id).facts⟩ :=
          written ▸ after id
        have same : (row.updated (fun _ => ShareGuardService.autoRevoked now row.toTicketState)
            g.world.clock).status = row.status := (told' _ rfl).symm.trans told
        have revoked : true = row.revoked := congrArg Status.revoked same
        cases revoked.trans valid
    | _ => rfl

/-- While the audited calls run one after another, every change is logged and the logs determine
the tickets if and only if the share guard revokes no valid ticket. -/
theorem audit_trail_iff (pristine : Pristine start) (reachable : (service platform).Reachable start c)
    (serial : OneAfterAnother c.shared) :
    Audited platform start c ↔ NoSilentRevocation c.shared := by
  constructor
  · intro audited
    refine reachable_along pristine reachable (fun g => ∀ t, Determined (life g.world.store t))
      NoSilentRevocation audited.determined ?_ ?_
    · intro e member
      cases member
    · intro actor b c _ _ change before after unsilenced
      exact unsilenced.step change before after
  · intro unsilenced
    constructor
    · intro b b' before step runs t
      exact steps_accompanied pristine before step runs serial unsilenced t
    · intro b before runs t
      have trail : Trail c.shared.calls t b.shared := trail_before pristine before runs serial unsilenced
      exact trail.determined

end Runs

section Samples

open Sample

-- The tenth of these scans has the ticket revoked.
def tenForgedScans : List ServiceAct :=
  prepared ++ (List.range 10).flatMap forgedScan

def tells (t : Uuid) (status : Status) (g : Global) : Bool :=
  (g.world.ticket t).any (·.status = status)

theorem revocation_untold : ¬∀ (start : World) (c : ServiceState), Pristine start →
    (service deployment).Reachable start c → OneAfterAnother c.shared → Audited deployment start c := by
  intro claim
  have outcome : OneAfterAnother (run tenForgedScans).shared ∧
      tells ticket ⟨.outside, true⟩ (run tenForgedScans).shared ∧
      replay (life (run tenForgedScans).shared.world.store ticket).logs = ⟨.outside, false⟩ := by
    decide +kernel
  obtain ⟨serial, revoked, untold⟩ := outcome
  have audited := claim World.empty (run tenForgedScans) pristine_empty (reachable_run _) serial
  obtain ⟨row, present, status⟩ := (Option.any_eq_true _ _).mp revoked
  have told := (audited.determined _ (reachable_run _) .refl ticket).told present
  rw [untold, of_decide_eq_true status] at told
  cases told

def recordedDay : List ServiceAct :=
  prepared ++ call 4 (.scan context entry) 30 ++
    call 5 (.updatePresence context ticket .outside staff) 12 ++
    call 6 (.revoke context ticket none staff) 14 ++ call 7 (.scan context entry) 12

theorem audit_trail_recorded : Audited deployment World.empty (run recordedDay) := by
  have serial : OneAfterAnother (run recordedDay).shared := by decide +kernel
  have unsilenced : NoSilentRevocation (run recordedDay).shared := by decide +kernel
  exact (audit_trail_iff pristine_empty (reachable_run recordedDay) serial).mpr unsilenced

end Samples

end TicketService
