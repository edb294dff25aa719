import TicketService.Refinement.Exits

set_option autoImplicit false

namespace TicketService

open Interleaving Relational ScanService ShareGuardService TicketEventRoleResolver TokenService
open VerifyService

variable {platform : Platform} {w w' : World} {input : SecurityScanInput} {payload : QrPayload}
  {ticket : Ticket} {context : RequestContext}

def Running (w : World) (eventId : Uuid) (direction : GateDirection) (until_ : Time) : Prop :=
  direction = .entry → ∀ endsAt, (w.settings eventId).bind (·.endsAt) = some endsAt → until_ ≤ endsAt

structure Entitled (platform : Platform) (context : RequestContext) (input : SecurityScanInput)
    (w : World) (ticket : Ticket) : Prop where
  scanner : .scanTickets ∈ permissionsOf platform w input.actorId ticket.eventId
  tenant : (AnalyticsOutboxService.tenant platform context).isSome
  scanned : ∀ occurredAt,
    platform.acceptsFact (AnalyticsOutboxService.payload (scanFact ticket .ok input) occurredAt)
  present : ∀ occurredAt, platform.acceptsFact (AnalyticsOutboxService.payload
    (presenceFact ticket.id ticket (intendedState input.direction)) occurredAt)

theorem executes_enqueue {t : Tx} {id : Uuid} {topic : FactTopic} {fact : FactInput}
    (tenant : (AnalyticsOutboxService.tenant platform context).isSome)
    (accepts : ∀ occurredAt, platform.acceptsFact (AnalyticsOutboxService.payload fact occurredAt))
    (w : World) : ∃ t', Executes platform
      (AnalyticsOutboxService.enqueue platform context id topic fact) (some t) w (.ok ()) (some t') w := by
  obtain ⟨tenantId, valid⟩ := Option.isSome_iff_exists.mp tenant
  unfold AnalyticsOutboxService.enqueue
  rw [valid]
  let row := AnalyticsOutboxService.row context tenantId id topic
    (AnalyticsOutboxService.payload fact w.clock) w.clock
  refine ⟨⟨t.writes ++ [.insertOutbox row]⟩, .bind (.perform (free_plain rfl w _) rfl) ?_⟩
  rw [if_pos (accepts w.clock)]
  exact .bind (.perform (free_plain rfl w _) rfl) (.done _ _ _)

theorem exec_scanLogCreate (platform : Platform) {id : Uuid} {result : VerifyResult} {t : Tx}
    (present : ((w.view (some t)).ticket result.ticket.id).isSome) :
    exec platform (.scanLogCreate (scanLogRow id result input)) w (some t) =
      some (scanLogRow id result input w.clock, w,
        some ⟨t.writes ++ [.insertScanLog (scanLogRow id result input w.clock)]⟩) := by
  have there : ((w.view (some t)).ticket (scanLogRow id result input w.clock).ticketId).isSome = true :=
    present
  simp only [exec] at there ⊢
  rw [if_pos there]
  rfl

theorem executes_recordScan {uuid : Nat → Uuid} {result : VerifyResult} {t : Tx}
    (accepted : result.verdict = .ok) (present : ((w.view (some t)).ticket result.ticket.id).isSome)
    (tenant : (AnalyticsOutboxService.tenant platform context).isSome)
    (scanned : ∀ occurredAt, platform.acceptsFact
      (AnalyticsOutboxService.payload (scanFact result.ticket result.verdict input) occurredAt))
    (entered : ∀ occurredAt, platform.acceptsFact (AnalyticsOutboxService.payload
      (presenceFact result.ticket.id result.ticket result.ticket.currentState) occurredAt)) :
    ∃ reply t', Executes platform (recordScan platform uuid context input result) (some t) w (.ok reply)
      (some t') w ∧ reply.verdict = .ok ∧ reply.ticket.id = result.ticket.id := by
  let log := scanLogRow (uuid 0) result input w.clock
  obtain ⟨t₁, first⟩ := @executes_enqueue platform context ⟨t.writes ++ [.insertScanLog log]⟩ (uuid 1)
    (scanTopic result.verdict) _ tenant scanned w
  obtain ⟨t₂, second⟩ := @executes_enqueue platform context t₁ (uuid 2)
    (presenceTopic result.ticket.currentState) _ tenant entered w
  refine ⟨⟨result.ticket, log, result.verdict, result.message⟩, t₂, ?_, accepted, rfl⟩
  refine .bind (.perform (free_plain rfl w _) (exec_scanLogCreate platform present)) (.bind first ?_)
  rw [if_pos accepted]
  exact .bind second (.done _ _ _)

theorem replayKeyLive_later (ticked : Ticked w w') {ticketId : Uuid} {nonce : Nat}
    (free : w.replayKeyLive ticketId nonce = false) : w'.replayKeyLive ticketId nonce = false := by
  have later := ticked.clock
  simp only [World.replayKeyLive, ticked.store] at free ⊢
  cases key : w.store.replayKeys.get? (ticketId, nonce) with
  | none => rfl
  | some key =>
    simp only [key, Option.any_some, decide_eq_false_iff_not] at free ⊢
    exact fun live => free (Nat.lt_of_le_of_lt later live)

theorem accepted_of_exits {result : VerifyResult} {t : Tx}
    (exits : Exits platform input payload ticket w result t w') (checked : Checked w input payload ticket)
    (elsewhere : ticket.currentState ≠ intendedState input.direction)
    (running : Running w ticket.eventId input.direction w'.clock)
    (unblocked : unblockedAt w ticket.id ≤ w.clock)
    (free : w.replayKeyLive ticket.id payload.dn = false) :
    ∃ checkedInAt rotatedAt updatedAt, result = accepted input payload ticket checkedInAt updatedAt ∧
      t = ⟨[.putTicket ticket.id
        (acceptedState payload (intendedState input.direction) checkedInAt ticket.toTicketState)
        rotatedAt]⟩ := by
  cases exits with
  | revoked _ revoked =>
    rw [checked.valid] at revoked
    cases revoked
  | blocked blockedUntil _ _ until_ early =>
    simp only [unblockedAt, until_, Option.getD_some] at unblocked
    exact absurd early (Nat.not_lt.mpr (Nat.max_le.mp unblocked).2)
  | keyless _ _ _ keyless => exact absurd keyless checked.keyed
  | directed _ _ _ here => exact absurd here elsewhere
  | ended endsAt _ _ _ _ entry ends late => exact absurd late (Nat.not_lt.mpr (running entry endsAt ends))
  | struck _ _ _ _ _ _ cause =>
    obtain ⟨w₂, later, live⟩ := cause checked
    rw [replayKeyLive_later later free] at live
    cases live
  | accepted checkedInAt rotatedAt updatedAt => exact ⟨checkedInAt, rotatedAt, updatedAt, rfl, rfl⟩

section Verified

variable (elsewhere : ticket.currentState ≠ intendedState input.direction)
  (running : Running w ticket.eventId input.direction w.clock)
  (unblocked : unblockedAt w ticket.id ≤ w.clock)
  (free : w.replayKeyLive ticket.id payload.dn = false)

include elsewhere running free

theorem executes_applyDirectionPolicy : ∃ result tx shareGuards,
    Executes platform (applyDirectionPolicy ticket payload input.direction) (some ⟨[]⟩) w (.ok result) tx
      { w with
        store.replayKeys := w.store.replayKeys.upsert ⟨ticket.id, payload.dn, w.clock + 120 * 1000⟩
        store.shareGuards := shareGuards } := by
  let w₁ : World :=
    { w with store.replayKeys :=
      w.store.replayKeys.upsert ⟨ticket.id, payload.dn, w.clock + 120 * 1000⟩ }
  have runs : input.direction = .exit ∨ ∀ endsAt,
      (w.settings ticket.eventId).bind (·.endsAt) = some endsAt → w.clock ≤ endsAt := by
    cases direction : input.direction with
    | exit => exact .inl rfl
    | entry => exact .inr (running direction)
  have acquired : Executes platform (issue (.rawSetIfAbsent ticket.id payload.dn 120)) (some ⟨[]⟩) w
      (.ok true) (some ⟨[]⟩) w₁ := executes_issue (by
    simp only [exec, free, Bool.false_eq_true, if_false, stores]
    rfl)
  obtain ⟨_, shareGuards, reset⟩ := executes_resetShareGuard platform ticket.id w₁
  obtain ⟨result, tx, rotated⟩ := executes_rotateNonce platform ticket payload
    (intendedState input.direction) { w₁ with store.shareGuards := shareGuards }
  refine ⟨result, tx, shareGuards, ?_⟩
  unfold applyDirectionPolicy
  dsimp only
  rw [if_neg elsewhere]
  exact .bind (executes_eventEnded runs) (.bind acquired (.bind reset rotated))

include unblocked

theorem executes_verifyTicket (checked : Checked w input payload ticket) : ∃ result tx shareGuards,
    Executes platform (verifyTicket ticket payload input) (some ⟨[]⟩) w (.ok result) tx
      { w with
        store.replayKeys := w.store.replayKeys.upsert ⟨ticket.id, payload.dn, w.clock + 120 * 1000⟩
        store.shareGuards := shareGuards } := by
  obtain ⟨publicKey, key, signed⟩ := checked.signed
  obtain ⟨result, tx, shareGuards, policy⟩ :=
    @executes_applyDirectionPolicy platform w input payload ticket elsewhere running free
  have clock : unblockedAt w ticket.id = w.clock :=
    Nat.le_antisymm unblocked (Nat.le_max_left _ _)
  have blocked : Executes platform (isBlocked ticket.id) (some ⟨[]⟩) w (.ok false) (some ⟨[]⟩) w := by
    have begun := @executes_isBlocked platform w ticket.id
    rw [clock] at begun
    exact begun
  have genuine : Executes platform
      (issue (.verifySignature (signedMessage input.token input.deviceId) input.signature publicKey))
      (some ⟨[]⟩) w (.ok true) (some ⟨[]⟩) w := executes_issue (by simp [exec, reads, signed])
  refine ⟨result, tx, shareGuards, ?_⟩
  unfold verifyTicket
  rw [if_neg (by simp [checked.valid])]
  refine .bind blocked ?_
  unfold checkDevice
  rw [if_neg (by simp), key]
  refine .bind genuine ?_
  rw [if_neg (by simp), if_neg (not_not.mpr checked.device)]
  unfold checkNonce
  rw [if_neg (by simp [checked.fresh]), if_neg (not_not.mpr checked.expected)]
  exact policy

theorem executes_scan {number : Nat}
    (formed : ¬(input.token = "" ∨ input.signature = "" ∨ input.deviceId = ""))
    (verified : w.verified input.token = some payload) (found : w.ticket payload.tid = some ticket)
    (checked : Checked w input payload ticket) (entitled : Entitled platform context input w ticket) :
    ∃ reply w', Executes platform (program platform number (.scan context input)) none w
      (.ok (.scan reply)) none w' ∧ reply.verdict = .ok ∧ reply.ticket.id = ticket.id ∧
        w'.clock = w.clock := by
  have key : ticket.id = payload.tid := Table.key_of_get? found
  have present : w.ticket ticket.id = some ticket := key ▸ found
  obtain ⟨result, tx, shareGuards, verifies⟩ :=
    @executes_verifyTicket platform w input payload ticket elsewhere running unblocked free checked
  let w₁ : World :=
    { w with
      store.replayKeys := w.store.replayKeys.upsert ⟨ticket.id, payload.dn, w.clock + 120 * 1000⟩
      store.shareGuards := shareGuards }
  obtain ⟨t, rfl, exits⟩ := verifyTicket_exits present verifies
  obtain ⟨checkedInAt, rotatedAt, updatedAt, rfl, rfl⟩ := accepted_of_exits exits checked elsewhere running unblocked free
  let result := accepted input payload ticket checkedInAt updatedAt
  let t : Tx := ⟨[.putTicket ticket.id
    (acceptedState payload (intendedState input.direction) checkedInAt ticket.toTicketState) rotatedAt]⟩
  have there : ((w₁.view (some t)).ticket result.ticket.id).isSome := by
    have stands : w₁.store.ticket ticket.id = some ticket := present
    have viewed := Store.ticket_putTicket w₁.store ticket.id ticket.id
      (acceptedState payload (intendedState input.direction) checkedInAt ticket.toTicketState) rotatedAt
    rw [if_pos rfl, stands] at viewed
    exact Option.isSome_iff_exists.mpr ⟨_, viewed⟩
  obtain ⟨reply, t', records, ok, own⟩ := @executes_recordScan platform w₁ input context
    (Uuid.mk number) result t rfl there entitled.tenant entitled.scanned entitled.present
  have body : Executes platform (scanTransaction platform (Uuid.mk number) context input) (some ⟨[]⟩)
      w (.ok reply) (some t') w₁ := by
    refine .bind (executes_verifyToken verified found verifies)
      (.bind (executes_getPermissionsForUser input.actorId ticket.eventId (some t)) ?_)
    have scanner : .scanTickets ∈ permissionsOf platform w₁ input.actorId ticket.eventId := entitled.scanner
    rw [if_pos scanner]
    exact records
  let w₃ : World := { w₁ with store := t'.apply w₁.store }
  let milestone := scannedMilestone input reply
  let w₄ : World := { w₃ with sent := w₃.sent ++
    [.milestoneRecorded milestone (messageMeta platform context (some input.actorId))] }
  have publishes : Executes platform (publishMilestone platform milestone context input.actorId) none w₃
      (.ok ()) none w₄ := .call (free_plain rfl w₃ none) rfl (.done _ _ _)
  refine ⟨reply, w₄, ?_, ok, own, rfl⟩
  refine .bind ?_ (.done _ _ _)
  unfold TicketMutationResolver.scanToken
  rw [if_neg formed]
  refine .bind (.start (.bind body (.commit (.done _ _ _)))) ?_
  rw [if_pos ok]
  exact .bind publishes (.done _ _ _)

end Verified

end TicketService
