import TicketService.Properties.Reads
import TicketService.Refinement.Exits

set_option autoImplicit false

namespace TicketService

open Interleaving Relational ShareGuardService TicketEventRoleResolver TokenService VerifyService

variable {platform : Platform} {α β : Type} {tx tx' : Option Tx} {w w' : World}

/-- `verifyToken` writes nothing: the ticket is revoked or has no key, or the token, the device and
the nonce are right and the direction or the end of the event stops the scan. -/
def Inert (w : World) (input : SecurityScanInput) (payload : QrPayload) (ticket : Ticket) : Prop :=
  ticket.revoked = true ∨ truthy ticket.devicePublicKey = none ∨
    (∃ publicKey, truthy ticket.devicePublicKey = some publicKey ∧
      ⟨publicKey, signedMessage input.token input.deviceId, input.signature⟩ ∈ w.signatures) ∧
    ticket.deviceId = some input.deviceId ∧ ticket.lastNonce.any (payload.dn ≤ ·) = false ∧
    some payload.dn = ticket.nextNonce ∧
    (ticket.currentState = intendedState input.direction ∨
      input.direction = .entry ∧ ∃ endsAt, (w.settings ticket.eventId).bind (·.endsAt) = some endsAt ∧
        endsAt < unblockedAt w ticket.id)

theorem valid_of_active {w : World} {input : SecurityScanInput} {payload : QrPayload} {ticket : Ticket}
    (active : ¬Inert w input payload ticket) : ticket.revoked = false := by
  by_contra revoked
  exact active (.inl (by simpa using revoked))

def SparesRefused (platform : Platform) (w : World) (input : SecurityScanInput) : Prop :=
  (input.token = "" ∨ input.signature = "" ∨ input.deviceId = "") ∨
    ∀ payload ticket, w.verified input.token = some payload → w.ticket payload.tid = some ticket →
      .scanTickets ∈ permissionsOf platform w input.actorId ticket.eventId ∨
        Inert w input payload ticket

section Structure

open Prog

def KeepsProjections (stmt : Stmt) : Prop :=
  match stmt with
  | .ticketUpdate .prisma _ _ => True
  | .shareGuardUpsert _ => True
  | .shareGuardUpdate .. => True
  | .rawSetIfAbsent .. => True
  | stmt => KeepsStore stmt

def World.projections (w : World) :=
  (w.store.eventAccess, w.store.eventRoles)

theorem permissionsOf_congr (same : w'.projections = w.projections) (userId eventId : Uuid) :
    permissionsOf platform w' userId eventId = permissionsOf platform w userId eventId := by
  obtain ⟨access, roles⟩ := Prod.ext_iff.mp same
  simp only [World.projections] at access roles
  simp [permissionsOf, World.access, World.role, access, roles]

theorem exec_keepsProjections {stmt : Stmt} {result : stmt.Res} (keeps : KeepsProjections stmt)
    (executed : exec platform stmt w tx = some (result, w', tx')) :
    w'.projections = w.projections := by
  cases exec_effect executed with
  | ticketUpdate id data row found =>
    have there : w.store.tickets.get? id = some row := found
    simp [World.projections, Store.putTicket, there]
  | accessUpsert row data rows => cases keeps
  | accessDeleteMany ids rows => cases keeps
  | roleUpsert row rows => cases keeps
  | roleDeleteMany filter rows => cases keeps
  | _ => rfl

theorem keepsProjections_of_store (stmt : Stmt) (keeps : KeepsStore stmt) :
    KeepsProjections stmt := by
  cases stmt with
  | ticketUpdate client id data => cases client <;> first | exact keeps | trivial
  | _ => first | exact keeps | trivial

theorem Quiet.projections {p : Program α} (quiet : Quiet p) : p.Leaves KeepsProjections :=
  quiet.mono keepsProjections_of_store

structure Verifies (ticket : Ticket) (p : Program VerifyResult) : Prop where
  projections : p.Leaves KeepsProjections
  undenied : NeverDenies p
  event : p.Returns fun result => result.ticket.eventId = ticket.eventId

variable {ticket : Ticket} {payload : QrPayload}

theorem Verifies.bind {p : Program α} {next : α → Program VerifyResult}
    (leaves : p.Leaves KeepsProjections) (undenied : NeverDenies p)
    (rest : ∀ value, Verifies ticket (next value)) : Verifies ticket (p.bind next) where
  projections := leaves.bind fun value => (rest value).projections
  undenied := undenied.bind fun value => (rest value).undenied
  event := Returns.bind fun value => (rest value).event

theorem Verifies.issue {stmt : Stmt} {next : stmt.Res → Program VerifyResult}
    (keeps : KeepsProjections stmt) (rest : ∀ value, Verifies ticket (next value)) :
    Verifies ticket ((issue stmt).bind next) :=
  .bind (Leaves.perform keeps) (neverDenies_issue stmt) rest

theorem Verifies.done {result : VerifyResult} (event : result.ticket.eventId = ticket.eventId) :
    Verifies ticket (.done result) :=
  ⟨trivial, trivial, event⟩

theorem verifies_rejectRisk {risk : RiskInput} {verdict : ScanVerdict} {message : String} :
    Verifies ticket (rejectRisk ticket payload risk verdict message) := by
  refine .bind ?_ neverDenies_applyDecision fun _ => .done rfl
  refine Leaves.bind (Leaves.perform rfl) fun _ => Leaves.bind (Leaves.perform trivial) fun _ => ?_
  dsimp only
  split
  · exact Leaves.bind (Leaves.perform trivial) fun _ => trivial
  · split <;> exact Leaves.bind (Leaves.perform trivial) fun _ => trivial

theorem neverDenies_checkedInAt {state : PresenceState} :
    NeverDenies (checkedInAt ticket state) := by
  cases state with
  | inside => exact Avoids.bind (neverDenies_issue _) fun _ => trivial
  | outside => trivial

theorem verifies_rotateNonce {state : PresenceState} :
    Verifies ticket (rotateNonce ticket payload state) := by
  refine .bind quiet_checkedInAt.projections neverDenies_checkedInAt fun checkedInAt => ?_
  refine .issue rfl fun count => ?_
  split
  · exact .done rfl
  · exact .issue rfl fun _ => .done rfl

theorem verifies_acquireReplayKey {state : PresenceState} :
    Verifies ticket (acquireReplayKey ticket payload state) := by
  refine .issue trivial fun acquired => ?_
  split
  · refine .bind ?_ neverDenies_resetShareGuard fun _ => verifies_rotateNonce
    refine Leaves.bind (Leaves.perform rfl) fun guard => ?_
    cases guard with
    | none => trivial
    | some guard => exact Leaves.bind (Leaves.perform trivial) fun _ => trivial
  · exact verifies_rejectRisk

theorem neverDenies_eventEnded {direction : GateDirection} :
    NeverDenies (eventEnded ticket direction) := by
  cases direction with
  | exit => trivial
  | entry =>
    refine Avoids.bind (neverDenies_issue _) fun settings => ?_
    split
    · trivial
    · exact Avoids.bind (neverDenies_issue _) fun _ => trivial

theorem verifies_applyDirectionPolicy {direction : GateDirection} :
    Verifies ticket (applyDirectionPolicy ticket payload direction) := by
  unfold applyDirectionPolicy
  dsimp only
  split
  · exact .done rfl
  · refine .bind quiet_eventEnded.projections neverDenies_eventEnded fun ended => ?_
    split
    · exact .done rfl
    · exact verifies_acquireReplayKey

theorem verifies_checkNonce {direction : GateDirection} :
    Verifies ticket (checkNonce ticket payload direction) := by
  unfold checkNonce
  split
  · exact verifies_rejectRisk
  · split
    · exact verifies_rejectRisk
    · exact verifies_applyDirectionPolicy

theorem verifies_checkDevice {tokenStr signature deviceId : String} {direction : GateDirection} :
    Verifies ticket (checkDevice ticket payload tokenStr signature deviceId direction) := by
  unfold checkDevice
  split
  · exact .done rfl
  · refine .issue rfl fun genuine => ?_
    split
    · exact verifies_rejectRisk
    · split
      · exact verifies_rejectRisk
      · exact verifies_checkNonce

theorem neverDenies_isBlocked {ticketId : Uuid} : NeverDenies (isBlocked ticketId) := by
  refine Avoids.bind (neverDenies_issue _) fun guard => ?_
  split
  · trivial
  · exact Avoids.bind (neverDenies_issue _) fun _ => trivial

theorem verifies_verifyTicket {input : SecurityScanInput} :
    Verifies ticket (verifyTicket ticket payload input) := by
  unfold verifyTicket
  split
  · exact .done rfl
  · refine .bind quiet_isBlocked.projections neverDenies_isBlocked fun blocked => ?_
    split
    · exact .done rfl
    · exact verifies_checkDevice

theorem verifyTicket_permissions {input : SecurityScanInput} {result : VerifyResult} {w₁ : World}
    (first : Ticked w w₁)
    (run : Executes platform (verifyTicket ticket payload input) tx w₁ (.ok result) tx' w')
    (userId : Uuid) : permissionsOf platform w' userId result.ticket.eventId =
      permissionsOf platform w userId ticket.eventId := by
  have kept : w'.projections = w₁.projections :=
    Alone.leaves (fun _ _ _ _ _ _ keeps executed => exec_keepsProjections keeps executed)
      (fun action w ticks => by simp [World.projections, engine, ticks_store action w ticks])
      run verifies_verifyTicket.projections
  have before : w'.projections = w.projections := by
    rw [kept, World.projections, first.store]
    rfl
  rw [run.returns verifies_verifyTicket.event result rfl, permissionsOf_congr before]

theorem neverDenies_verifyToken {input : SecurityScanInput} :
    NeverDenies (verifyToken input.token input.signature input.deviceId input.direction) := by
  refine Avoids.bind (Avoids.bind (neverDenies_issue _) fun payload => ?_) fun payload => ?_
  · split
    · trivial
    · simp [Avoids, Denied, Exn.accessDenied]
  · refine Avoids.bind (neverDenies_issue _) fun ticket => ?_
    cases ticket with
    | none => simp [Avoids, Denied, Exn.accessDenied]
    | some ticket => exact verifies_verifyTicket.undenied

end Structure

section Runs

variable {input : SecurityScanInput} {payload : QrPayload} {ticket : Ticket}
  {result : VerifyResult} {t : Tx}

theorem eventEnded_returns {direction : GateDirection} {ended : Bool}
    (run : Executes platform (eventEnded ticket direction) tx w (.ok ended) tx' w') :
    tx' = tx ∧ (direction = .entry → ∀ endsAt,
      (w.settings ticket.eventId).bind (·.endsAt) = some endsAt → endsAt < w.clock →
        ended = true) := by
  cases direction with
  | exit =>
    obtain ⟨-, rfl, -⟩ := done_returns run
    exact ⟨rfl, by simp⟩
  | entry =>
    obtain ⟨w₁, w₂, first, then₂, run⟩ := issue_returns (fun _ => rfl) run
    have same : w₁.settings ticket.eventId = w.settings ticket.eventId := by
      simp [World.settings, first.store]
    split at run
    next none_ =>
      obtain ⟨-, rfl, -⟩ := done_returns run
      refine ⟨rfl, fun _ endsAt ends => ?_⟩
      rw [← same, none_] at ends
      cases ends
    next endsAt some_ =>
      obtain ⟨w₃, w₄, then₃, -, run⟩ := issue_returns (fun _ => rfl) run
      obtain ⟨rfl, rfl, -⟩ := done_returns run
      refine ⟨rfl, fun _ endsAt' ends past => ?_⟩
      rw [← same, some_] at ends
      cases ends
      have later := (first.trans (then₂.trans then₃)).clock
      exact decide_eq_true (Nat.lt_of_lt_of_le past later)

theorem verifyTicket_inert (inert : Inert w input payload ticket) {w₁ : World}
    (ticked : Ticked w w₁)
    (run : Executes platform (verifyTicket ticket payload input) (some t) w₁ (.ok result) tx' w') :
    w'.store = w₁.store := by
  unfold verifyTicket at run
  split at run
  · exact (done_returns run).2.2.store
  next valid =>
    rcases run.bind_cases with ⟨_, ended, -⟩ | ⟨blocked, tx₂, w₂, block, run⟩
    · cases ended
    rw [← quiet_isBlocked.store block]
    split at run
    · exact (done_returns run).2.2.store
    next unblocked =>
      obtain rfl : blocked = false := by simpa using unblocked
      obtain ⟨rfl, then₂, unblocked⟩ := isBlocked_returns block
      have before := ticked.trans then₂
      have opened : unblockedAt w ticket.id ≤ w₂.clock := by
        have later := ticked.clock
        simp only [unblockedAt, ticked.guard] at unblocked ⊢
        have passed := Nat.max_le.mp unblocked
        exact Nat.max_le.mpr ⟨Nat.le_trans later passed.1, passed.2⟩
      unfold checkDevice at run
      split at run
      · exact (done_returns run).2.2.store
      next publicKey key =>
        rcases inert with revoked | keyless | ⟨⟨publicKey', key', signed⟩, device, recent, nonce, stops⟩
        · exact absurd revoked valid
        · rw [key] at keyless
          cases keyless
        · cases key.symm.trans key'
          obtain ⟨w₃, w₄, then₃, then₄, run⟩ := issue_returns (fun _ => rfl) run
          have genuine : ⟨publicKey, signedMessage input.token input.deviceId, input.signature⟩ ∈
              w₃.signatures := by
            rw [(before.trans then₃).signatures]
            exact signed
          simp only [genuine, decide_true, not_true_eq_false, if_false, device, ne_eq,
            checkNonce, recent, Bool.false_eq_true, nonce] at run
          rw [← (then₃.trans then₄).store]
          unfold applyDirectionPolicy at run
          dsimp only at run
          split at run
          · exact (done_returns run).2.2.store
          next other =>
            obtain ⟨entry, endsAt, ends, past⟩ := stops.resolve_left other
            rcases run.bind_cases with ⟨_, ended, -⟩ | ⟨ended, tx₅, w₅, event, run⟩
            · cases ended
            have same : w₄.settings ticket.eventId = w.settings ticket.eventId := by
              simp [World.settings, (before.trans (then₃.trans then₄)).store]
            have later := (then₃.trans then₄).clock
            have passed := (eventEnded_returns event).2 entry endsAt (same ▸ ends)
              (Nat.lt_of_lt_of_le past (Nat.le_trans opened later))
            rw [if_pos passed] at run
            rw [(done_returns run).2.2.store, quiet_eventEnded.store event]

variable {number : Nat} {context : RequestContext} {error : Exn}

theorem neverDenies_recordScan {uuid : Nat → Uuid} :
    NeverDenies (ScanService.recordScan platform uuid context input result) := by
  refine Prog.Avoids.bind (neverDenies_issue _) fun _ =>
    Prog.Avoids.bind neverDenies_enqueue fun _ => ?_
  split
  · exact Prog.Avoids.bind neverDenies_enqueue fun _ => trivial
  · trivial

theorem refused_scan (run : Executes platform (program platform number (.scan context input)) none w
      (.error error) tx' w') (denied : Denied error) :
    ¬(input.token = "" ∨ input.signature = "" ∨ input.deviceId = "") ∧
      ∃ w₁ result tx₁ w₂, Ticked w w₁ ∧
        Executes platform (verifyToken input.token input.signature input.deviceId input.direction)
          (some ⟨[]⟩) w₁ (.ok result) tx₁ w₂ ∧
        .scanTickets ∉ permissionsOf platform w₂ input.actorId result.ticket.eventId ∧
        w'.store = w₂.store := by
  have stopped {γ : Type} {p : Program γ} {t : Option Tx} {w₁ : World}
      (run : Executes platform p t w₁ (.error error) tx' w') (never : NeverDenies p) : False :=
    run.avoids never error rfl denied
  have run := Alone.bind_first run denied fun _ => trivial
  unfold TicketMutationResolver.scanToken at run
  split at run
  · exact (stopped run (by simp [Prog.Avoids, Denied, Exn.accessDenied])).elim
  next wellFormed =>
    refine ⟨wellFormed, ?_⟩
    have published (payload : ScanPayloadDTO) : NeverDenies (if payload.verdict = .ok then do
        ScanService.publishMilestone platform (ScanService.scannedMilestone input payload) context
          input.actorId
        .done payload else .done payload) := by
      split
      · exact Prog.Avoids.bind (fun _ => trivial) fun _ => trivial
      · trivial
    have committed (payload : ScanPayloadDTO) (success : Bool) : NeverDenies
        (if success then .done payload else .throw .statementFailed : Program ScanPayloadDTO) := by
      cases success with
      | true => trivial
      | false => exact statementFailed_undenied
    have run := Alone.bind_first run denied published
    obtain ⟨w₁, first, run⟩ := run.start_cases
    have run := Alone.bind_first run denied committed
    rcases run.bind_cases with ⟨_, ended, run⟩ | ⟨result, tx₁, w₂, verify, run⟩
    · cases ended
      exact (stopped run neverDenies_verifyToken).elim
    refine ⟨w₁, result, tx₁, w₂, .of_later first, verify, ?_, ?_⟩
    · rcases run.bind_cases with ⟨_, ended, run⟩ | ⟨permissions, tx₃, w₃, permitted, run⟩
      · cases ended
        have quiet : NeverDenies
            (getPermissionsForUser platform input.actorId result.ticket.eventId) := by
          refine Prog.Avoids.bind (neverDenies_issue _) fun access => ?_
          cases access with
          | some access => trivial
          | none =>
            exact Prog.Avoids.bind (Prog.Avoids.bind (neverDenies_issue _) fun _ => trivial)
              fun _ => trivial
        exact (stopped run quiet).elim
      · rw [← getPermissionsForUser_returns permitted]
        intro scanner
        rw [if_pos scanner] at run
        exact stopped run neverDenies_recordScan
    · refine Quiet.store (Prog.Leaves.bind quiet_getPermissionsForUser fun permissions => ?_) run
      split
      · exact quiet_recordScan
      · trivial

theorem SparesRefused.unchanged (spares : SparesRefused platform w input)
    (run : Executes platform (program platform number (.scan context input)) none w
      (.error error) tx' w') (denied : Denied error) : w'.store = w.store := by
  obtain ⟨wellFormed, w₁, result, tx₁, w₂, first, verify, refused, same⟩ := refused_scan run denied
  obtain ⟨payload, ticket, w₃, verified, found, then₃, run⟩ := verifyToken_returns verify rfl
  rw [first.ticket] at found
  rcases spares.resolve_left wellFormed payload ticket (first.verified verified) found with
    permitted | inert
  · rw [verifyTicket_permissions (first.trans then₃) run] at refused
    exact absurd permitted refused
  · rw [same, verifyTicket_inert inert (first.trans then₃) run, (first.trans then₃).store]

end Runs

section Writes

variable {input : SecurityScanInput} {payload : QrPayload} {ticket : Ticket} {ticketId : Uuid}

theorem executes_shareGuardUpdate (platform : Platform) {guard : ShareGuard}
    (data : ShareGuard → ShareGuard) (present : w.guard ticketId = some guard)
    (counts : (data guard).failCount = guard.failCount + 1) :
    ∃ w₁, Executes platform ((issue (.shareGuardUpdate ticketId data)).bind fun _ => .done ())
        (some ⟨[]⟩) w (.ok ()) (some ⟨[]⟩) w₁ ∧
      (w₁.guard ticketId).map (·.failCount) = some (guard.failCount + 1) := by
  have executed : exec platform (.shareGuardUpdate ticketId data) w (some ⟨[]⟩) = some
      (guard.updated data,
        { w with store :=
            { w.store with shareGuards := w.store.shareGuards.put (guard.updated data) } },
        some ⟨[]⟩) := by
    simp only [exec, present, Option.bind_some, stores]
    rfl
  refine ⟨_, .bind (executes_issue executed) (.done _ _ _), ?_⟩
  have found : w.store.shareGuards.get? ticketId = some guard := present
  have key : guard.ticketId = ticketId := Table.key_of_get? found
  simp [World.guard, Table.get?_put, ShareGuard.updated, key, found, counts]

theorem executes_applyDecision {row : Ticket} (present : w.ticket ticketId = some row)
    (valid : row.revoked = false) (result : RiskResult) :
    ∃ w₁, Executes platform (applyDecision ticketId result) (some ⟨[]⟩) w (.ok ()) (some ⟨[]⟩) w₁ ∧
      w₁.store ≠ w.store := by
  obtain ⟨guard, w₁, upserted, tickets, there, origin⟩ :=
    exec_shareGuardUpsert platform (some ⟨[]⟩) (Option.isSome_iff_exists.mpr ⟨row, present⟩)
  have counted {w₂ : World}
      (counts : (w₂.guard ticketId).map (·.failCount) = some (guard.failCount + 1)) :
      w₂.store ≠ w.store := by
    intro same
    have unchanged : w₂.guard ticketId = w.guard ticketId := by simp [World.guard, same]
    rw [unchanged] at counts
    rcases origin with found | absent
    · simp [found] at counts
    · simp [absent] at counts
  have now : Executes platform (issue .now) (some ⟨[]⟩) w (.ok w.clock) (some ⟨[]⟩) w :=
    executes_issue rfl
  by_cases revokes : result.shouldRevoke ∨ guard.failCount + 1 ≥ revokeThreshold
  · have found : w₁.ticket ticketId = some row := by
      simp only [World.ticket, tickets]
      exact present
    let w₂ : World :=
      { w₁ with
        store := w₁.store.putTicket ticketId (autoRevoked w.clock row.toTicketState) w₁.clock }
    have executed : exec platform (.ticketUpdate .prisma ticketId (autoRevoked w.clock)) w₁
        (some ⟨[]⟩) = some (row.updated (autoRevoked w.clock) w₁.clock, w₂, some ⟨[]⟩) := by
      simp only [exec, found, Option.bind_some, stores, w₂]
      rfl
    refine ⟨w₂, .bind now (.bind (executes_issue upserted) ?_), ?_⟩
    · dsimp only
      rw [if_pos revokes]
      exact .bind (executes_issue executed) (.done _ _ _)
    · intro same
      have there' : w₁.store.ticket ticketId = some row := found
      have before : w.store.ticket ticketId = some row := present
      have written : w₂.store.ticket ticketId =
          some (row.updated (autoRevoked w.clock) w₁.clock) := by
        simp [w₂, there', Ticket.updated]
      rw [same, before] at written
      have revoked : row.revoked = true := by
        rw [Option.some.inj written]
        rfl
      rw [valid] at revoked
      cases revoked
  · by_cases blocks : result.shouldBlock ∨ guard.failCount + 1 ≥ baseThreshold
    · obtain ⟨w₂, run, counts⟩ := executes_shareGuardUpdate platform
        (blocked w.clock (guard.failCount + 1) result.reason) there rfl
      refine ⟨w₂, .bind now (.bind (executes_issue upserted) ?_), counted counts⟩
      dsimp only
      rw [if_neg revokes, if_pos blocks]
      exact run
    · obtain ⟨w₂, run, counts⟩ := executes_shareGuardUpdate platform
        (failed w.clock (guard.failCount + 1) result.reason) there rfl
      refine ⟨w₂, .bind now (.bind (executes_issue upserted) ?_), counted counts⟩
      dsimp only
      rw [if_neg revokes, if_neg blocks]
      exact run

-- An execution of the program may return so.
def May (platform : Platform) (p : Program VerifyResult) (w : World)
    (post : VerifyResult → Option Tx → World → Prop) : Prop :=
  ∃ result tx₁ w₁, Executes platform p (some ⟨[]⟩) w (.ok result) tx₁ w₁ ∧ post result tx₁ w₁

theorem May.after {α : Type} {p : Program α} {f : α → Program VerifyResult} {value : α}
    {post : VerifyResult → Option Tx → World → Prop}
    (first : Executes platform p (some ⟨[]⟩) w (.ok value) (some ⟨[]⟩) w)
    (rest : May platform (f value) w post) : May platform (p.bind f) w post := by
  obtain ⟨result, tx₁, w₁, run, holds⟩ := rest
  exact ⟨result, tx₁, w₁, .bind first run, holds⟩

def Touches (platform : Platform) (p : Program VerifyResult) (w : World) : Prop :=
  ∃ result tx₁ w₁, Executes platform p (some ⟨[]⟩) w (.ok result) tx₁ w₁ ∧ w₁.store ≠ w.store

theorem touches_rejectRisk (payload : QrPayload) {row : Ticket}
    (present : w.ticket ticket.id = some row) (valid : row.revoked = false) (risk : RiskInput)
    (verdict : ScanVerdict) (message : String) :
    Touches platform (rejectRisk ticket payload risk verdict message) w := by
  obtain ⟨w₁, run, changed⟩ := executes_applyDecision present valid (calculateRisk risk)
  exact ⟨_, _, w₁, .bind run (.done _ _ _), changed⟩

theorem touches_acquireReplayKey (payload : QrPayload) {row : Ticket}
    (present : w.ticket ticket.id = some row)
    (valid : row.revoked = false) (state : PresenceState) :
    Touches platform (acquireReplayKey ticket payload state) w := by
  cases live : w.replayKeyLive ticket.id payload.dn with
  | true =>
    have refused : Executes platform (issue (.rawSetIfAbsent ticket.id payload.dn 120)) (some ⟨[]⟩) w
        (.ok false) (some ⟨[]⟩) w := executes_issue (by
      simp only [exec, live, if_true, reads])
    exact May.after refused (touches_rejectRisk payload present valid _ _ _)
  | false =>
    let key : ReplayKey :=
      { ticketId := ticket.id, nonce := payload.dn, expiresAt := w.clock + 120 * 1000 }
    let w₁ : World :=
      { w with store := { w.store with replayKeys := w.store.replayKeys.upsert key } }
    have acquired : Executes platform (issue (.rawSetIfAbsent ticket.id payload.dn 120))
        (some ⟨[]⟩) w (.ok true) (some ⟨[]⟩) w₁ := executes_issue (by
      simp only [exec, live, Bool.false_eq_true, if_false, stores]
      rfl)
    obtain ⟨_, shareGuards, reset⟩ := executes_resetShareGuard platform ticket.id w₁
    let w₂ : World := { w₁ with store.shareGuards := shareGuards }
    obtain ⟨result, tx₃, rotated⟩ := executes_rotateNonce platform ticket payload state w₂
    refine ⟨result, tx₃, w₂, .bind acquired (.bind reset rotated), fun unchanged => ?_⟩
    have kept : w.store.replayKeys = w.store.replayKeys.upsert key := calc
      w.store.replayKeys = w₂.store.replayKeys := by rw [unchanged]
      _ = w.store.replayKeys.upsert key := rfl
    have there : w.store.replayKeys.get? (ticket.id, payload.dn) = some key := by
      rw [kept, Table.get?_upsert]
      simp [key]
    simp [World.replayKeyLive, there, key] at live

section Active

variable {post : VerifyResult → Option Tx → World → Prop}

theorem may_applyDirectionPolicy {direction : GateDirection}
    (outside : ticket.currentState ≠ intendedState direction)
    (runs : direction = .exit ∨ ∀ endsAt,
      (w.settings ticket.eventId).bind (·.endsAt) = some endsAt → w.clock ≤ endsAt)
    (acquires : May platform (acquireReplayKey ticket payload (intendedState direction)) w post) :
    May platform (applyDirectionPolicy ticket payload direction) w post := by
  unfold applyDirectionPolicy
  dsimp only
  rw [if_neg outside]
  exact .after (executes_eventEnded runs) acquires

variable (risks : ∀ {risk verdict message}, Risky risk verdict message →
  May platform (rejectRisk ticket payload risk verdict message) w post)

include risks

theorem may_checkNonce {direction : GateDirection}
    (accepted : ticket.lastNonce.any (payload.dn ≤ ·) = false → some payload.dn = ticket.nextNonce →
      May platform (applyDirectionPolicy ticket payload direction) w post) :
    May platform (checkNonce ticket payload direction) w post := by
  unfold checkNonce
  split
  · exact risks .replay
  next recent =>
    split
    · exact risks .nonce
    next nonce => exact accepted (Bool.eq_false_iff.mpr recent) (Decidable.not_not.mp nonce)

theorem may_checkDevice {publicKey : String}
    (keyed : truthy ticket.devicePublicKey = some publicKey)
    (accepted : ⟨publicKey, signedMessage input.token input.deviceId, input.signature⟩ ∈ w.signatures →
      ticket.deviceId = some input.deviceId →
        May platform (checkNonce ticket payload input.direction) w post) :
    May platform (checkDevice ticket payload input.token input.signature input.deviceId
      input.direction) w post := by
  let signature : DeviceSignature :=
    ⟨publicKey, signedMessage input.token input.deviceId, input.signature⟩
  have verify : Executes platform (issue (.verifySignature (signedMessage input.token
      input.deviceId) input.signature publicKey)) (some ⟨[]⟩) w
      (.ok (decide (signature ∈ w.signatures))) (some ⟨[]⟩) w := executes_issue rfl
  unfold checkDevice
  rw [keyed]
  refine .after verify ?_
  split
  · exact risks .signature
  next genuine =>
    have signed : signature ∈ w.signatures := by simpa using genuine
    split
    · exact risks .device
    next device => exact accepted signed (Decidable.not_not.mp device)

end Active

theorem may_verifyTicket {post : VerifyResult → Option Tx → World → Prop}
    (active : ¬Inert w input payload ticket)
    (risks : ∀ {risk verdict message}, Risky risk verdict message →
      May platform (rejectRisk ticket payload risk verdict message)
        { w with clock := unblockedAt w ticket.id } post)
    (acquires : Checked w input payload ticket →
      May platform (acquireReplayKey ticket payload (intendedState input.direction))
        { w with clock := unblockedAt w ticket.id } post) :
    May platform (verifyTicket ticket payload input) w post := by
  have valid := valid_of_active active
  cases keyed : truthy ticket.devicePublicKey with
  | none => exact absurd (.inr (.inl keyed)) active
  | some publicKey =>
    let w₁ : World := { w with clock := unblockedAt w ticket.id }
    have device : May platform (checkDevice ticket payload input.token input.signature input.deviceId
        input.direction) w₁ post := by
      refine may_checkDevice risks keyed fun signed device => ?_
      refine may_checkNonce risks fun recent nonce => ?_
      have stops : ¬(ticket.currentState = intendedState input.direction ∨
          input.direction = .entry ∧ ∃ endsAt,
            (w.settings ticket.eventId).bind (·.endsAt) = some endsAt ∧
              endsAt < unblockedAt w ticket.id) := fun stops =>
        active (.inr (.inr ⟨⟨publicKey, keyed, signed⟩, device, recent, nonce, stops⟩))
      rw [not_or] at stops
      have runs : input.direction = .exit ∨ ∀ endsAt,
          (w₁.settings ticket.eventId).bind (·.endsAt) = some endsAt → w₁.clock ≤ endsAt := by
        cases direction : input.direction with
        | exit => exact .inl rfl
        | entry =>
          right
          intro endsAt ends
          by_contra past
          exact stops.2 ⟨direction, endsAt, ends, Nat.not_le.mp past⟩
      exact may_applyDirectionPolicy stops.1 runs
        (acquires ⟨valid, ⟨publicKey, keyed, signed⟩, device, recent, nonce⟩)
    obtain ⟨result, tx₁, w₂, run, holds⟩ := device
    refine ⟨result, tx₁, w₂, ?_, holds⟩
    unfold verifyTicket
    rw [if_neg (by simp [valid])]
    exact .bind executes_isBlocked run

theorem touches_verifyTicket (present : w.ticket ticket.id = some ticket)
    (active : ¬Inert w input payload ticket) :
    Touches platform (verifyTicket ticket payload input) w := by
  have valid := valid_of_active active
  let w₁ : World := { w with clock := unblockedAt w ticket.id }
  have present₁ : w₁.ticket ticket.id = some ticket := present
  exact may_verifyTicket active (fun _ => touches_rejectRisk payload present₁ valid _ _ _)
    fun _ => touches_acquireReplayKey payload present₁ valid _

theorem executes_refused (platform : Platform) (number : Nat) (context : RequestContext)
    (wellFormed : ¬(input.token = "" ∨ input.signature = "" ∨ input.deviceId = ""))
    (verified : w.verified input.token = some payload)
    (found : w.ticket payload.tid = some ticket)
    (refused : .scanTickets ∉ permissionsOf platform w input.actorId ticket.eventId)
    (active : ¬Inert w input payload ticket) :
    ∃ error w', Executes platform (program platform number (.scan context input)) none w
      (.error error) none w' ∧ Denied error ∧ w'.store ≠ w.store := by
  have key : ticket.id = payload.tid := Table.key_of_get? found
  obtain ⟨result, tx₁, w₁, run, changed⟩ := touches_verifyTicket (key ▸ found) active
  have event : result.ticket.eventId = ticket.eventId :=
    run.returns verifies_verifyTicket.event result rfl
  have permissions : Executes platform
      (getPermissionsForUser platform input.actorId result.ticket.eventId) tx₁ w₁
      (.ok (permissionsOf platform w₁ input.actorId result.ticket.eventId)) tx₁ w₁ :=
    executes_getPermissionsForUser input.actorId result.ticket.eventId tx₁
  rw [verifyTicket_permissions (.refl w) run, event] at permissions
  let error : Exn := .eventAccessDenied ticket.eventId input.actorId "event-permission-mismatch"
    (permissionsOf platform w input.actorId ticket.eventId) [.scanTickets]
  have body : Executes platform (ScanService.scanTransaction platform (Uuid.mk number) context input)
      (some ⟨[]⟩) w (.error error) none w₁ := by
    refine .bind (executes_verifyToken verified found run) ?_
    rw [event]
    refine .bind permissions ?_
    rw [if_neg refused]
    exact .throw error tx₁ w₁
  refine ⟨error, w₁, .bind_error ?_, rfl, changed⟩
  unfold TicketMutationResolver.scanToken
  rw [if_neg wellFormed]
  exact .bind_error (.start (.bind_error body))

end Writes

/-- The call changes nothing when it refuses its caller, however long it takes and whichever of
its statements fail. -/
def RefusedUnchanged (platform : Platform) (number : Nat) (call : Call) (w : World) : Prop :=
  ∀ error tx' w', Executes platform (program platform number call) none w (.error error) tx' w' →
    error.accessDenied = true → w'.store = w.store

def Spares (platform : Platform) (w : World) : Call → Prop
  | .scan _ input => SparesRefused platform w input
  | _ => True

/-- A call changes nothing when it refuses its caller, unless it is an active scan. -/
theorem refused_unchanged_iff (platform : Platform) (number : Nat) (call : Call) (w : World) :
    RefusedUnchanged platform number call w ↔ Spares platform w call := by
  cases scans : call.scans with
  | false =>
    have spares : Spares platform w call := by cases call <;> trivial
    refine ⟨fun _ => spares, fun _ error tx' w' run denied => ?_⟩
    exact Alone.checksFirst (fun _ _ _ _ _ _ keeps executed => exec_keepsStore keeps executed)
      ticks_store run (checksFirst_program scans) error rfl denied
  | true =>
    cases call with
    | scan context input =>
      constructor
      · intro unchanged
        by_contra touches
        simp only [Spares, SparesRefused, not_or, not_forall] at touches
        obtain ⟨wellFormed, payload, ticket, verified, found, refused, active⟩ := touches
        obtain ⟨error, w', run, denied, changed⟩ := executes_refused platform number context
          (by simpa using wellFormed) verified found refused active
        exact changed (unchanged error none w' run denied)
      · intro spares error tx' w' run denied
        exact spares.unchanged run denied
    | _ => cases scans

section Outsider

open Sample

def outsider : Uuid := id 9

theorem outsider_changes_store : ¬∀ (platform : Platform) (number : Nat) (call : Call) (w : World),
    RefusedUnchanged platform number call w := by
  intro claim
  let w := (run prepared).shared.world
  let input := { entry with actorId := outsider }
  have facts : (w.verified input.token).any (fun payload => (w.ticket payload.tid).any fun ticket =>
      !ticket.revoked && (truthy ticket.devicePublicKey).isSome &&
        ticket.currentState = .outside && (w.settings ticket.eventId).isNone &&
          decide (.scanTickets ∉ permissionsOf deployment w outsider ticket.eventId)) := by
    decide +kernel
  obtain ⟨payload, verified, facts⟩ := (Option.any_eq_true _ _).mp facts
  obtain ⟨ticket, found, facts⟩ := (Option.any_eq_true _ _).mp facts
  simp only [Bool.and_eq_true, Bool.not_eq_true', decide_eq_true_eq, Option.isNone_iff_eq_none]
    at facts
  obtain ⟨⟨⟨⟨valid, keyed⟩, outside⟩, settings⟩, refused⟩ := facts
  have active : ¬Inert w input payload ticket := by
    rintro (revoked | keyless | ⟨-, -, -, -, inside | ⟨-, endsAt, ends, -⟩⟩)
    · simp [valid] at revoked
    · simp [keyless] at keyed
    · simp [outside, input, entry, intendedState] at inside
    · simp [settings] at ends
  obtain ⟨error, w', run, denied, changed⟩ := executes_refused deployment 4 context
    (by decide : ¬(input.token = "" ∨ input.signature = "" ∨ input.deviceId = "")) verified found
    refused active
  exact changed (claim deployment 4 (.scan context input) w error none w' run denied)

end Outsider

end TicketService
