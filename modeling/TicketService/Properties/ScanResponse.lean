import TicketService.Properties.Escalation
import TicketService.Properties.RefusedScan
import TicketService.Refinement.Accepts

set_option autoImplicit false

namespace TicketService

open Interleaving Relational ScanService ShareGuardService TicketEventRoleResolver TokenService
open VerifyService

variable {platform : Platform} {w w' : World} {input : SecurityScanInput} {payload : QrPayload}
  {ticket : Ticket} {context : RequestContext} {number : Nat}

def Shows (ticket row : Ticket) : Prop :=
  { ticket with updatedAt := row.updatedAt } = row

def ShowsStored (platform : Platform) (number : Nat) (context : RequestContext)
    (input : SecurityScanInput) (w : World) : Prop :=
  ∀ reply tx' w', Executes platform (program platform number (.scan context input)) none w
    (.ok (.scan reply)) tx' w' → ∃ row, w'.ticket reply.ticket.id = some row ∧ Shows reply.ticket row

structure Answerable (platform : Platform) (context : RequestContext) (input : SecurityScanInput)
    (w : World) (payload : QrPayload) (ticket : Ticket) : Prop where
  formed : ¬(input.token = "" ∨ input.signature = "" ∨ input.deviceId = "")
  tenant : (AnalyticsOutboxService.tenant platform context).isSome
  verified : w.verified input.token = some payload
  found : w.ticket payload.tid = some ticket
  scanner : .scanTickets ∈ permissionsOf platform w input.actorId ticket.eventId

/-- The next failure is one too many for the guard, and the scan raises one: the signature, the device
or the nonce is wrong, or the replay key is taken once the ticket is not blocked. -/
structure Overdrawn (w : World) (input : SecurityScanInput) (payload : QrPayload) (ticket : Ticket) :
    Prop where
  counted : revokeThreshold ≤ w.failures ticket.id + 1
  active : ¬Inert w input payload ticket
  replayed : Checked w input payload ticket →
    World.replayKeyLive { w with clock := unblockedAt w ticket.id } ticket.id payload.dn = true

def AcceptsScans (platform : Platform) : Prop :=
  ∀ ticket verdict input occurredAt,
    platform.acceptsFact (AnalyticsOutboxService.payload (scanFact ticket verdict input) occurredAt)

section Shown

variable {result : VerifyResult} {t : Tx} {tx tx' : Option Tx} {reply : ScanPayloadDTO} {row : Ticket}

theorem Exits.refused (exits : Exits platform input payload ticket w result t w')
    (refused : result.verdict ≠ .ok) : result.ticket = ticket ∧ t = ⟨[]⟩ ∧
      (Ticked w w' ∨ ReplayedIfChecked w input payload ticket) := by
  cases exits with
  | revoked ticked => exact ⟨rfl, rfl, .inl ticked⟩
  | blocked _ ticked => exact ⟨rfl, rfl, .inl ticked⟩
  | keyless ticked => exact ⟨rfl, rfl, .inl ticked⟩
  | directed ticked => exact ⟨rfl, rfl, .inl ticked⟩
  | ended _ ticked => exact ⟨rfl, rfl, .inl ticked⟩
  | struck _ _ _ _ _ _ cause => exact ⟨rfl, rfl, .inr cause⟩
  | accepted => exact absurd rfl refused

theorem verifyTicket_unblocked (present : w.ticket ticket.id = some ticket) {w₁ : World}
    (ticked : Ticked w w₁)
    (run : Executes platform (verifyTicket ticket payload input) (some ⟨[]⟩) w₁ (.ok result) tx' w') :
    Ticked w₁ w' ∨ ∃ t, Exits platform input payload ticket
      { w with clock := unblockedAt w ticket.id } result t w' := by
  unfold verifyTicket at run
  split at run
  next => exact .inl (done_returns run).2.2
  next valid =>
    have valid : ticket.revoked = false := Bool.eq_false_iff.mpr valid
    obtain ⟨blocked, tx₂, w₂, block, rest⟩ := bind_returns run
    obtain ⟨rfl, then₂, outcome⟩ := isBlocked_cases block
    rcases outcome with ⟨rfl, unblocked⟩ | ⟨rfl, -⟩
    · right
      have opened := ticked.unblockedAt_le unblocked
      let w₀ : World := { w with clock := unblockedAt w ticket.id }
      have later : Ticked w₀ w₂ := by
        obtain ⟨ms, same⟩ := ticked.trans then₂
        refine ⟨w₂.clock - w₀.clock, ?_⟩
        have clock : w₀.clock + (w₂.clock - w₀.clock) = w₂.clock := Nat.add_sub_of_le opened
        rw [clock, same]
      have opened₀ : unblockedAt w₀ ticket.id ≤ w₂.clock := by
        refine Nat.le_trans (Nat.le_of_eq ?_) opened
        exact Nat.max_eq_left (Nat.le_max_right _ _)
      have present₀ : w₀.ticket ticket.id = some ticket := present
      obtain ⟨t, -, exits⟩ := checkDevice_exits present₀ valid later opened₀ rest
      exact ⟨t, exits⟩
    · exact .inl (then₂.trans (done_returns rest).2.2)

theorem overdrawn_of_revoked (present : w.ticket ticket.id = some ticket) {w₁ : World}
    (ticked : Ticked w w₁)
    (run : Executes platform (verifyTicket ticket payload input) (some ⟨[]⟩) w₁ (.ok result) tx' w')
    (refused : result.verdict ≠ .ok) (counted : revokeThreshold ≤ w.failures ticket.id + 1)
    (changed : w'.ticket ticket.id ≠ some ticket) : Overdrawn w input payload ticket where
  counted := counted
  active inert := by
    have kept := verifyTicket_inert inert ticked run
    refine changed ?_
    unfold World.ticket at present ⊢
    rw [kept, ticked.store]
    exact present
  replayed checked := by
    have still (quiet : Ticked w w') : False := changed ((quiet.ticket ticket.id).trans present)
    rcases verifyTicket_unblocked present ticked run with quiet | ⟨t, exits⟩
    · exact (still (ticked.trans quiet)).elim
    · obtain ⟨-, -, quiet | cause⟩ := exits.refused refused
      · obtain ⟨ms, rfl⟩ := quiet
        exact absurd present changed
      · obtain ⟨w₂, later, live⟩ :=
          cause ⟨checked.valid, checked.signed, checked.device, checked.fresh, checked.expected⟩
        by_contra free
        rw [replayKeyLive_later later (Bool.eq_false_iff.mpr free)] at live
        cases live

theorem shows_refl (row : Ticket) : Shows row row := rfl

theorem not_shows_revoked {row' : Ticket} (valid : row.revoked = false) (revoked : row'.revoked = true) :
    ¬Shows row row' := by
  intro shows
  have same := congrArg (fun t : Ticket => t.revoked) shows
  dsimp only at same
  rw [valid, revoked] at same
  cases same

theorem scan_shows_accepted
    (run : Executes platform (program platform number (.scan context input)) none w (.ok (.scan reply)) tx
      w') (present : w.ticket reply.ticket.id = some row) (ok : reply.verdict = .ok) :
    ∃ row', w'.ticket reply.ticket.id = some row' ∧ Shows reply.ticket row' := by
  obtain ⟨payload, at_, rotatedAt, updatedAt, -, -, -, -, same, stored⟩ := scan_accepted run present ok
  refine ⟨_, stored, ?_⟩
  rw [same]
  rfl

theorem shows_of_spared
    (spared : ∀ payload ticket, Answerable platform context input w payload ticket →
      ¬Overdrawn w input payload ticket) : ShowsStored platform number context input w := by
  intro reply tx' w' run
  obtain ⟨formed, tenant, payload, ticket, w₁, result, t, w₂, createdAt, facts, messages, verified, found,
    first, verify, scanner, answer, -, -, -, last⟩ := scan_verifies run
  cases answer
  have key : ticket.id = payload.tid := Table.key_of_get? found
  have present : w.ticket ticket.id = some ticket := key ▸ found
  obtain ⟨t', same, exits⟩ := verifyTicket_exits (first.ticket ticket.id ▸ present) verify
  cases same
  have there : w.ticket result.ticket.id = some ticket := exits.ticket_id ▸ present
  by_cases ok : result.verdict = .ok
  · exact scan_shows_accepted run there ok
  have unchanged : ∀ row, w'.ticket result.ticket.id = some row → row = ticket →
      ∃ row', w'.ticket result.ticket.id = some row' ∧ Shows result.ticket row' := by
    rintro row stored rfl
    exact ⟨row, stored, (exits.refused ok).1 ▸ shows_refl row⟩
  rw [exits.ticket_id] at unchanged ⊢
  cases scan_refusal run there ok with
  | turned _ stored => exact unchanged ticket stored rfl
  | struck risk now _ valid _ _ struck =>
    cases struck with
    | counted guard _ stored => exact unchanged ticket stored rfl
    | revoked updatedAt counted stored =>
      have answerable : Answerable platform context input w payload ticket := by
        refine ⟨formed, tenant, verified, found, ?_⟩
        rw [verifyTicket_permissions first verify] at scanner
        exact scanner
      refine absurd (overdrawn_of_revoked present first verify ok counted fun kept => ?_)
        (spared payload ticket answerable)
      have tickets := last.store
      rw [recorded_eq, (exits.refused ok).2.1] at tickets
      have same : w'.ticket ticket.id = w₂.ticket ticket.id := by
        unfold World.ticket
        rw [tickets]
        rfl
      rw [same, kept] at stored
      have revoked : ticket.revoked = true := congrArg (fun t : Ticket => t.revoked) (Option.some.inj stored)
      rw [valid] at revoked
      cases revoked

end Shown

section Possible

variable {row : Ticket}

def Revoked (ticket : Ticket) (result : VerifyResult) (tx : Option Tx) (w : World) : Prop :=
  result.verdict ≠ .ok ∧ result.ticket = ticket ∧ tx = some ⟨[]⟩ ∧
    ∃ row, w.ticket ticket.id = some row ∧ row.revoked = true

theorem may_revoke_rejectRisk {risk : RiskInput} {verdict : ScanVerdict} {message : String}
    (risky : Risky risk verdict message) (present : w.ticket ticket.id = some ticket)
    (valid : ticket.revoked = false) (counted : revokeThreshold ≤ w.failures ticket.id + 1) :
    May platform (rejectRisk ticket payload risk verdict message) w (Revoked ticket) := by
  obtain ⟨w₁, decides, -⟩ := @executes_applyDecision platform w ticket.id ticket present valid
    (calculateRisk risk)
  obtain ⟨-, now, writtenAt, -, -, decided⟩ := applyDecision_returns decides
  refine ⟨_, _, w₁, .bind decides (.done _ _ _), ?_, rfl, rfl, ?_⟩
  · cases risky <;> nofun
  · cases struck_decided risky present now writtenAt with
    | counted _ few => exact absurd counted (Nat.not_le.mpr few)
    | revoked updatedAt _ stored => exact ⟨_, (decided.ticket ticket.id).trans stored, rfl⟩

theorem may_revoke_verifyTicket (present : w.ticket ticket.id = some ticket)
    (overdrawn : Overdrawn w input payload ticket) :
    May platform (verifyTicket ticket payload input) w (Revoked ticket) := by
  have valid := valid_of_active overdrawn.active
  let w₁ : World := { w with clock := unblockedAt w ticket.id }
  have present₁ : w₁.ticket ticket.id = some ticket := present
  have counted₁ : revokeThreshold ≤ w₁.failures ticket.id + 1 := overdrawn.counted
  refine may_verifyTicket overdrawn.active
    (fun risky => may_revoke_rejectRisk risky present₁ valid counted₁) fun checked => ?_
  have live := overdrawn.replayed checked
  have refused : Executes platform (issue (.rawSetIfAbsent ticket.id payload.dn 120)) (some ⟨[]⟩) w₁
      (.ok false) (some ⟨[]⟩) w₁ := executes_issue (by
    simp only [exec, w₁, live, if_true, reads])
  exact .after refused (may_revoke_rejectRisk .replay present₁ valid counted₁)

theorem executes_recordScan_refused {uuid : Nat → Uuid} {result : VerifyResult} {t : Tx}
    (accepts : AcceptsScans platform) (refused : result.verdict ≠ .ok)
    (present : ((w.view (some t)).ticket result.ticket.id).isSome)
    (tenant : (AnalyticsOutboxService.tenant platform context).isSome) :
    ∃ t', Executes platform (recordScan platform uuid context input result) (some t) w
      (.ok ⟨result.ticket, scanLogRow (uuid 0) result input w.clock, result.verdict, result.message⟩)
      (some t') w := by
  obtain ⟨t', enqueues⟩ := @executes_enqueue platform context
    ⟨t.writes ++ [.insertScanLog (scanLogRow (uuid 0) result input w.clock)]⟩ (uuid 1)
    (scanTopic result.verdict) _ tenant (accepts result.ticket result.verdict input) w
  refine ⟨t', .bind (.perform (free_plain rfl w _) (exec_scanLogCreate platform present)) (.bind enqueues ?_)⟩
  rw [if_neg refused]
  exact .done _ _ _

theorem executes_overdrawn (accepts : AcceptsScans platform)
    (answerable : Answerable platform context input w payload ticket)
    (overdrawn : Overdrawn w input payload ticket) :
    ∃ reply w', Executes platform (program platform number (.scan context input)) none w
      (.ok (.scan reply)) none w' ∧ ∀ row, w'.ticket reply.ticket.id = some row → ¬Shows reply.ticket row := by
  have key : ticket.id = payload.tid := Table.key_of_get? answerable.found
  have present : w.ticket ticket.id = some ticket := key ▸ answerable.found
  obtain ⟨result, tx, w₁, verifies, refused, own, rfl, row, stored, revoked⟩ :=
    @may_revoke_verifyTicket platform w input payload ticket present overdrawn
  have scanner : .scanTickets ∈ permissionsOf platform w₁ input.actorId result.ticket.eventId := by
    rw [verifyTicket_permissions (.refl w) verifies]
    exact answerable.scanner
  have there : ((w₁.view (some ⟨[]⟩)).ticket result.ticket.id).isSome := by
    rw [own]
    exact Option.isSome_iff_exists.mpr ⟨row, stored⟩
  obtain ⟨t', records⟩ := @executes_recordScan_refused platform w₁ input context (Uuid.mk number) result
    ⟨[]⟩ accepts refused there answerable.tenant
  obtain ⟨-, createdAt, facts, -, -, written, -⟩ := recordScan_returns records
  let reply : ScanPayloadDTO :=
    ⟨result.ticket, scanLogRow (Uuid.mk number 0) result input w₁.clock, result.verdict, result.message⟩
  have body : Executes platform (scanTransaction platform (Uuid.mk number) context input) (some ⟨[]⟩)
      w (.ok reply) (some t') w₁ := by
    refine .bind (executes_verifyToken answerable.verified answerable.found verifies)
      (.bind (executes_getPermissionsForUser input.actorId result.ticket.eventId (some ⟨[]⟩)) ?_)
    rw [if_pos scanner]
    exact records
  let w₂ : World := { w₁ with store := t'.apply w₁.store }
  refine ⟨reply, w₂, .bind ?_ (.done _ _ _), ?_⟩
  · unfold TicketMutationResolver.scanToken
    rw [if_neg answerable.formed]
    refine .bind (.start (.bind body (.commit (.done _ _ _)))) ?_
    rw [if_neg refused]
    exact .done _ _ _
  · have tickets : (t'.apply w₁.store).tickets = w₁.store.tickets := by
      have recorded := recorded_eq w₁ ⟨[]⟩ (scanLogRow (Uuid.mk number 0) result input createdAt) facts []
      rw [Option.some.inj written]
      exact congrArg (fun v : World => v.store.tickets) recorded
    have last : w₂.ticket ticket.id = w₁.ticket ticket.id :=
      congrArg (fun rows : Table Ticket Uuid Ticket.id => rows.get? ticket.id) tickets
    intro row' stored'
    rw [show reply.ticket.id = ticket.id from congrArg Ticket.id own, last, stored] at stored'
    cases stored'
    rw [show reply.ticket = ticket from own]
    exact not_shows_revoked (valid_of_active overdrawn.active) revoked

end Possible

/-- A scan that returns shows the stored ticket if and only if it raises no risk that is one too many
for the share guard. -/
theorem scan_shows_stored_iff (accepts : AcceptsScans platform) (number : Nat) (context : RequestContext)
    (input : SecurityScanInput) (w : World) :
    ShowsStored platform number context input w ↔
      ∀ payload ticket, Answerable platform context input w payload ticket →
        ¬Overdrawn w input payload ticket := by
  refine ⟨fun shows payload ticket answerable overdrawn => ?_, shows_of_spared⟩
  obtain ⟨reply, w', run, stale⟩ := @executes_overdrawn platform w input payload ticket context number
    accepts answerable overdrawn
  obtain ⟨row, stored, shown⟩ := shows reply none w' run
  exact stale row stored shown

section Samples

open Sample

theorem deployment_acceptsScans : AcceptsScans deployment :=
  fun _ _ _ _ => rfl

theorem scan_shows_stored_entry :
    ShowsStored deployment 4 Sample.context entry (run prepared).shared.world := by
  refine (scan_shows_stored_iff deployment_acceptsScans 4 Sample.context entry _).mpr ?_
  intro payload t _ overdrawn
  have unguarded : (run prepared).shared.world.store.shareGuards.rows = [] := by decide +kernel
  have none_ : (run prepared).shared.world.failures t.id = 0 := by
    simp [World.failures, World.guard, Table.get?, unguarded]
  have counted := overdrawn.counted
  rw [none_] at counted
  exact absurd counted (by decide)

-- Nine scans with a forged signature have been refused, and a new token is there.
def nineForgedScans : List ServiceAct :=
  prepared ++ (List.range 9).flatMap forgedScan ++ call 22 (.generateToken Sample.ticket guest) 5

def tenthForgedScan : SecurityScanInput :=
  { entry with token := compactJwe 10, signature := "forged" }

theorem revoked_ticket_shown_valid : ¬∀ (platform : Platform) (number : Nat) (context : RequestContext)
    (input : SecurityScanInput) (w : World), ShowsStored platform number context input w := by
  intro claim
  let w := (run nineForgedScans).shared.world
  have facts : (w.verified tenthForgedScan.token).any fun payload => (w.ticket payload.tid).any fun row =>
      w.failures row.id = 9 ∧ row.revoked = false ∧ truthy row.devicePublicKey ≠ none ∧
        (∀ signed ∈ w.signatures, signed.signature ≠ tenthForgedScan.signature) ∧
        .scanTickets ∈ permissionsOf deployment w staff row.eventId := by
    decide +kernel
  obtain ⟨payload, verified, facts⟩ := (Option.any_eq_true _ _).mp facts
  obtain ⟨row, found, facts⟩ := (Option.any_eq_true _ _).mp facts
  obtain ⟨counted, valid, keyed, unsigned, scanner⟩ := of_decide_eq_true facts
  have answerable : Answerable deployment Sample.context tenthForgedScan w payload row :=
    ⟨by decide, by decide, verified, found, scanner⟩
  have overdrawn : Overdrawn w tenthForgedScan payload row := by
    refine ⟨by rw [counted]; exact Nat.le_refl _, ?_, fun checked => ?_⟩
    · rintro (revoked | keyless | ⟨⟨publicKey, -, signed⟩, -⟩)
      · rw [valid] at revoked
        cases revoked
      · exact keyed keyless
      · exact unsigned _ signed rfl
    · obtain ⟨publicKey, -, signed⟩ := checked.signed
      exact (unsigned _ signed rfl).elim
  obtain ⟨reply, w', ran, stale⟩ := @executes_overdrawn deployment w tenthForgedScan payload row Sample.context 23
    deployment_acceptsScans answerable overdrawn
  obtain ⟨stored, there, shown⟩ := claim deployment 23 Sample.context tenthForgedScan w reply none w' ran
  exact stale stored there shown

end Samples

end TicketService
