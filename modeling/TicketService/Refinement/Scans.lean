import TicketService.Refinement.Rules

set_option autoImplicit false

namespace TicketService

open Interleaving Relational

variable {platform : Platform} {i : Nat} {tx : Option Tx} {g : Global} {α : Type}

namespace TokenService

theorem safe_verify {Q : QrPayload → Option Tx → Global → Prop} {token : String}
    (post : ∀ later payload, Moves i tx g later →
      Seen later i (.tokenVerify token) (some payload) (fun w => w.verified token = some payload) →
        Q payload tx later) :
    Safe platform i Q (verify token) tx g := by
  refine Safe.bind (Safe.query (fun w => rfl) (fun _ => trivial)
    fun g' later before _ after seen => ?_)
  cases found : g'.world.verified token with
  | none => exact Safe.throw _
  | some payload =>
    rw [found] at seen
    refine Safe.done fun last moved => post last payload ((before.trans after).trans moved) ?_
    exact moved.toExtends.seen (seen.imp fun w same => same ▸ found)

end TokenService

namespace ShareGuardService

theorem safe_isBlocked {Q : Bool → Option Tx → Global → Prop} {ticketId : Uuid}
    (post : ∀ later blocked, Moves i tx g later →
      (blocked = false → Unblocked later i ticketId) → Q blocked tx later) :
    Safe platform i Q (isBlocked ticketId) tx g := by
  refine Safe.bind (Safe.query (fun w => rfl) (fun _ => trivial)
    fun g₁ g₂ before _ after seen => ?_)
  have guard := seen.imp fun w (same : w = g₁.world) => same ▸ (rfl : w.guard ticketId = _)
  cases until_ : (g₁.world.guard ticketId).bind (·.blockedUntil) with
  | none =>
    refine Safe.done fun last moved => post last false ((before.trans after).trans moved) fun _ => ?_
    exact ⟨_, moved.toExtends.seen (seen.imp fun w same => same ▸ rfl), by simp [until_]⟩
  | some blockedUntil =>
    refine Safe.bind (Safe.query (fun w => rfl) (fun _ => trivial)
      fun g₃ g₄ during _ onward read => ?_)
    refine Safe.done fun last moved => post last _
      ((before.trans after).trans ((during.trans onward).trans moved)) fun passed => ?_
    refine ⟨_, ((during.trans onward).trans moved).toExtends.seen
      (seen.imp fun w same => same ▸ rfl), fun time held => ?_⟩
    rw [until_] at held
    cases held
    exact ⟨_, moved.toExtends.seen (read.imp fun w same => same ▸ rfl), by simpa using passed⟩

theorem safe_resetShareGuard {Q : Option ShareGuard → Option Tx → Global → Prop} {ticketId : Uuid}
    (unlocked : ∀ t ∈ tx, t.locks = [])
    (post : ∀ later guard, Moves i tx g later → Q guard tx later) :
    Safe platform i Q (resetShareGuard ticketId) tx g := by
  refine Safe.bind (Safe.query (fun w => rfl) (fun _ => trivial)
    fun g₁ g₂ before _ after seen => ?_)
  cases g₁.world.guard ticketId with
  | none => exact Safe.done fun last moved => post last none ((before.trans after).trans moved)
  | some guard =>
    refine Safe.bind (Safe.store unlocked ?_ (fun _ _ => .inl rfl)
      fun g₃ result w g₄ during _ _ onward _ => ?_)
    · intro w result w' tx' executed
      obtain ⟨row, -, same⟩ := Option.bind_eq_some_iff.mp executed
      cases same
      rfl
    · exact Safe.done fun last moved =>
        post last _ ((before.trans after).trans ((during.trans onward).trans moved))

theorem safe_applyDecision {Q : Unit → Option Tx → Global → Prop} {ticketId : Uuid}
    {result : RiskResult} (unlocked : ∀ t ∈ tx, t.locks = [])
    (post : ∀ later, Moves i tx g later → Q () tx later) :
    Safe platform i Q (applyDecision ticketId result) tx g := by
  have updates (data : ShareGuard → ShareGuard) (w : World) (row : ShareGuard) (w' : World)
      (tx' : Option Tx)
      (executed : exec platform (.shareGuardUpdate ticketId data) w tx = some (row, w', tx')) :
      tx' = tx := by
    obtain ⟨_, -, same⟩ := Option.bind_eq_some_iff.mp executed
    cases same
    rfl
  refine Safe.bind (Safe.query (fun w => rfl) (fun _ => trivial) fun g₁ g₂ before _ after _ => ?_)
  refine Safe.bind (Safe.store unlocked ?_ (fun _ _ => trivial)
    fun g₃ guard w g₄ during _ _ onward seen => ?_)
  · intro w row w' tx' executed
    simp only [exec] at executed
    split at executed
    · cases executed
      rfl
    · split at executed <;> cases executed
      rfl
  have moved : Moves i tx g g₄ := (before.trans after).trans (during.trans onward)
  have read (last : Global) (later : Moves i tx g₄ last) :=
    later.toExtends.seen (seen.imp fun _ _ => trivial)
  dsimp only
  split
  · refine Safe.bind (Safe.store unlocked ?_ ?_ fun g₅ row w g₆ then_ _ _ rest _ => ?_)
    · intro w row w' tx' executed
      obtain ⟨_, -, same⟩ := Option.bind_eq_some_iff.mp executed
      cases same
      rfl
    · exact fun g₅ later => ⟨guard, _, read g₅ later, rfl⟩
    · exact Safe.done fun last later => post last (moved.trans ((then_.trans rest).trans later))
  next kept =>
    have few : guard.failCount + 1 < revokeThreshold := by
      rw [not_or] at kept
      omega
    split
    · refine Safe.bind (Safe.store unlocked (updates _) ?_ fun g₅ row w g₆ then_ _ _ rest _ => ?_)
      · exact fun g₅ later => .inr ⟨guard, _, _, read g₅ later, few, .inr rfl⟩
      · exact Safe.done fun last later => post last (moved.trans ((then_.trans rest).trans later))
    · refine Safe.bind (Safe.store unlocked (updates _) ?_ fun g₅ row w g₆ then_ _ _ rest _ => ?_)
      · exact fun g₅ later => .inr ⟨guard, _, _, read g₅ later, few, .inl rfl⟩
      · exact Safe.done fun last later => post last (moved.trans ((then_.trans rest).trans later))

end ShareGuardService

namespace TicketEventRoleResolver

theorem safe_getRoleForUser {Q : Option EventRoleType → Option Tx → Global → Prop}
    {userId eventId : Uuid}
    (post : ∀ later row, Moves i tx g later →
      Seen later i (.roleFindUnique eventId userId) row (fun w => w.role eventId userId = row) →
        Q (row.map (·.role)) tx later) :
    Safe platform i Q (getRoleForUser userId eventId) tx g := by
  refine Safe.bind (Safe.query (fun w => rfl) (fun _ => trivial)
    fun g' later before _ after seen => ?_)
  refine Safe.done fun last moved => post last _ ((before.trans after).trans moved) ?_
  exact moved.toExtends.seen (seen.imp fun w same => same ▸ rfl)

theorem safe_getPermissionsForUser {Q : List EventPermissionKey → Option Tx → Global → Prop}
    {userId eventId : Uuid}
    (post : ∀ later permissions, Moves i tx g later →
      (∀ permission ∈ permissions, Granted platform later i permission eventId userId) →
        Q permissions tx later) :
    Safe platform i Q (getPermissionsForUser platform userId eventId) tx g := by
  refine Safe.bind (Safe.query (fun w => rfl) (fun _ => trivial)
    fun g' later before _ after seen => ?_)
  have read := seen.imp (R := fun w => w.access eventId userId = g'.world.access eventId userId)
    fun w same => same ▸ rfl
  cases found : g'.world.access eventId userId with
  | some access =>
    rw [found] at read
    refine Safe.done fun last moved => post last _ ((before.trans after).trans moved) ?_
    exact fun permission member => .inl ⟨access, moved.toExtends.seen read, member⟩
  | none =>
    rw [found] at read
    refine Safe.bind (safe_getRoleForUser fun last row moved role => ?_)
    refine Safe.done fun final rest => post final _
      ((before.trans after).trans (moved.trans rest)) fun permission member => ?_
    exact .inr ⟨row, (moved.trans rest).toExtends.seen read, rest.toExtends.seen role, member⟩

end TicketEventRoleResolver

namespace AnalyticsOutboxService

theorem safe_enqueue {Q : Unit → Option Tx → Global → Prop} {context : RequestContext} {id : Uuid}
    {topic : FactTopic} {fact : FactInput} {t : Tx}
    (post : ∀ later row, Moves i (some t) g later →
      Enqueued platform context id topic fact row →
        Q () (some ⟨t.writes ++ [.insertOutbox row]⟩) later) :
    Safe platform i Q (enqueue platform context id topic fact) (some t) g := by
  unfold enqueue
  cases known : tenant platform context with
  | none => exact Safe.throw _
  | some tenantId =>
    refine Safe.bind (Safe.query (fun w => rfl) (fun _ => trivial)
      fun g₁ g₂ before _ after _ => ?_)
    split
    · unfold discard
      refine Safe.bind (Safe.write (P := fun w _ added => added = [.insertOutbox (row context tenantId id
        topic (payload fact g₁.world.clock) w.clock)]) ?_ (fun _ => trivial)
        fun g₃ _ added g₄ during same onward _ => ?_)
      · intro w result w' tx' executed
        cases executed
        exact ⟨rfl, _, rfl, rfl⟩
      · subst same
        refine Safe.done fun g₅ rest => post g₅ _ ((before.trans after).trans (during.trans ?_))
          ⟨_, _, _, known, rfl⟩
        exact (onward.trans rest).weaken fun l member => Tx.locks_append member
    · exact Safe.throw _

end AnalyticsOutboxService

/-- A scan that has read its ticket and not committed. -/
structure Scanning (g : Global) (i : Nat) (context : RequestContext) (input : SecurityScanInput)
    (payload : QrPayload) (ticket : Ticket) : Prop where
  called : g.calls[i]? = some (.scan context input)
  uncommitted : ¬Committed g i
  read : Read g i .tx payload.tid ticket

theorem Scanning.moves {g' : Global} (moved : Moves i tx g g') {context : RequestContext}
    {input : SecurityScanInput} {payload : QrPayload} {ticket : Ticket}
    (scanning : Scanning g i context input payload ticket) :
    Scanning g' i context input payload ticket where
  called := moved.calls i _ scanning.called
  uncommitted := moved.uncommitted scanning.uncommitted
  read := moved.toExtends.seen scanning.read

/-- What `verifyToken` leaves behind: a rejection writes nothing, an acceptance has updated the
ticket and holds its row lock. -/
inductive Verified (g : Global) (i : Nat) (context : RequestContext) (input : SecurityScanInput) :
    VerifyResult → Option Tx → Prop where
  | rejected (result : VerifyResult) :
      result.verdict ≠ .ok → Scanning g i context input result.payload result.ticket →
        Verified g i context input result (some ⟨[]⟩)
  | accepted (payload : QrPayload) (ticket row : Ticket) (checkedInAt : Option Time)
      (updatedAt returnedAt : Time) :
      Scanning g i context input payload ticket →
      Accepted g i input payload ticket row checkedInAt → g.world.ticket ticket.id = some row →
        Verified g i context input (accepted input payload ticket checkedInAt returnedAt)
          (some ⟨[.putTicket ticket.id (VerifyService.acceptedState payload
            (intendedState input.direction) checkedInAt row.toTicketState) updatedAt]⟩)

theorem Read.extends {g' : Global} (moved : Extends g g') {client : Client} {id : Uuid}
    {row : Ticket} (read : Read g i client id row) : Read g' i client id row :=
  moved.seen read

theorem Granted.extends {g' : Global} (moved : Extends g g') {permission : EventPermissionKey}
    {eventId actorId : Uuid} (granted : Granted platform g i permission eventId actorId) :
    Granted platform g' i permission eventId actorId := by
  rcases granted with ⟨access, read, member⟩ | ⟨role, absent, read, member⟩
  · exact .inl ⟨access, moved.seen read, member⟩
  · exact .inr ⟨role, moved.seen absent, moved.seen read, member⟩

theorem Unblocked.extends {g' : Global} (moved : Extends g g') {ticketId : Uuid}
    (unblocked : Unblocked g i ticketId) : Unblocked g' i ticketId := by
  obtain ⟨guard, read, passed⟩ := unblocked
  refine ⟨guard, moved.seen read, fun blockedUntil held => ?_⟩
  obtain ⟨now, seen, ended⟩ := passed blockedUntil held
  exact ⟨now, moved.seen seen, ended⟩

theorem Admitted.extends {g' : Global} (moved : Extends g g') {input : SecurityScanInput}
    {payload : QrPayload} {ticket : Ticket} (admitted : Admitted g i input payload ticket) :
    Admitted g' i input payload ticket where
  token := moved.seen admitted.token
  read := admitted.read.extends moved
  valid := admitted.valid
  unblocked := admitted.unblocked.extends moved
  signed := by
    obtain ⟨publicKey, bound, signed⟩ := admitted.signed
    exact ⟨publicKey, bound, moved.seen signed⟩
  device := admitted.device
  recent := admitted.recent
  nonce := admitted.nonce
  outside := admitted.outside

theorem Accepted.extends {g' : Global} (moved : Extends g g') {input : SecurityScanInput}
    {payload : QrPayload} {ticket row : Ticket} {checkedInAt : Option Time}
    (accepted : Accepted g i input payload ticket row checkedInAt) :
    Accepted g' i input payload ticket row checkedInAt where
  admitted := accepted.admitted.extends moved
  checkedIn := accepted.checkedIn
  updated := by
    obtain ⟨count, seen⟩ := accepted.updated
    exact ⟨count, moved.seen seen⟩
  nonce := accepted.nonce

theorem Verified.moves {g' : Global} {context : RequestContext} {input : SecurityScanInput}
    {result : VerifyResult} (verified : Verified g i context input result tx)
    (moved : Moves i tx g g') : Verified g' i context input result tx := by
  cases verified with
  | rejected result refused scanning => exact .rejected result refused (scanning.moves moved)
  | accepted payload ticket row checkedInAt updatedAt returnedAt scanning accepted current =>
    have held := (moved.guarded _ rfl).row ticket.id (by simp [Tx.locks, Write.locks])
    exact .accepted payload ticket row checkedInAt updatedAt returnedAt (scanning.moves moved)
      (accepted.extends moved.toExtends) (held.trans current)

namespace VerifyService

open ShareGuardService TokenService

variable {context : RequestContext} {input : SecurityScanInput} {ticket : Ticket}
  {payload : QrPayload}

abbrev Post (i : Nat) (context : RequestContext) (input : SecurityScanInput)
    (result : VerifyResult) (tx : Option Tx) (g : Global) : Prop :=
  Verified g i context input result tx

theorem unlocked_empty : ∀ t ∈ some (Tx.mk []), t.locks = [] := by
  rintro _ ⟨⟩
  rfl

theorem safe_rejected {result : VerifyResult} (refused : result.verdict ≠ .ok)
    (scanning : Scanning g i context input result.payload result.ticket) :
    Safe platform i (Post i context input) (.done result) (some ⟨[]⟩) g :=
  Safe.done fun _ moved => .rejected result refused (scanning.moves moved)

theorem safe_rejectRisk {risk : RiskInput} {verdict : ScanVerdict} {message : String}
    (refused : verdict ≠ .ok) (scanning : Scanning g i context input payload ticket) :
    Safe platform i (Post i context input) (rejectRisk ticket payload risk verdict message)
      (some ⟨[]⟩) g :=
  Safe.bind (safe_applyDecision unlocked_empty fun _ moved =>
    safe_rejected refused (scanning.moves moved))

theorem safe_checkedInAt {Q : Option Time → Option Tx → Global → Prop} {state : PresenceState}
    (post : ∀ later value, Moves i tx g later → CheckedIn ticket state value → Q value tx later) :
    Safe platform i Q (checkedInAt ticket state) tx g := by
  cases state with
  | inside =>
    refine Safe.bind (Safe.query (fun w => rfl) (fun _ => trivial)
      fun g₁ g₂ before _ after _ => ?_)
    exact Safe.done fun last moved => post last _ ((before.trans after).trans moved) rfl
  | outside => exact Safe.done fun last moved => post last _ moved rfl

theorem matching_nonceFilter (w : World) :
    w.matching (nonceFilter ticket payload) =
      ((w.ticket ticket.id).filter fun row => row.nextNonce = some payload.dn).toList := by
  have filtered := @Table.filter_key _ _ _ _ w.store.tickets ticket.id
    fun row => decide (row.nextNonce = some payload.dn)
  simp only [decide_eq_true_eq] at filtered
  exact filtered

theorem safe_rotateNonce (scanning : Scanning g i context input payload ticket)
    (admitted : Admitted g i input payload ticket) :
    Safe platform i (Post i context input)
      (rotateNonce ticket payload (intendedState input.direction)) (some ⟨[]⟩) g := by
  refine Safe.bind (safe_checkedInAt fun g₁ checkedInAt moved checkedIn => ?_)
  refine Safe.bind (Safe.write (P := fun w count added =>
    (w.matching (nonceFilter ticket payload)).length = count ∧
      ((w.matching (nonceFilter ticket payload)).map fun row => .putTicket row.id
        (acceptedState payload (intendedState input.direction) checkedInAt row.toTicketState)
          w.clock) = added) ?_ (fun _ => trivial) fun g₂ count added g₃ before updated after seen => ?_)
  · intro w result w' tx' executed
    cases executed
    exact ⟨rfl, _, ⟨rfl, rfl⟩, rfl⟩
  have whole : Moves i (some ⟨[]⟩) g g₃ := moved.trans (before.trans
    (after.weaken fun l member => Tx.locks_append member))
  have scanning₃ := scanning.moves whole
  have admitted₃ := admitted.extends whole.toExtends
  obtain ⟨rfl, rfl⟩ := updated
  rw [matching_nonceFilter] at seen after ⊢
  cases found : (g₂.world.ticket ticket.id).filter fun row => row.nextNonce = some payload.dn with
  | none =>
    simp only [Option.toList_none, List.length_nil, if_pos, List.map_nil, List.append_nil]
    exact safe_rejected (by simp) scanning₃
  | some row =>
    obtain ⟨present, nonce⟩ := Option.filter_eq_some_iff.mp found
    have key : row.id = ticket.id := Table.key_of_get? present
    simp only [found, Option.toList_some, List.length_singleton, List.map_singleton,
      List.nil_append, key] at seen after ⊢
    have held := (after.guarded _ rfl).row ticket.id (by simp [Tx.locks, Write.locks])
    have accepted : Accepted g₃ i input payload ticket row checkedInAt :=
      ⟨admitted₃, checkedIn, ⟨_, seen.imp fun w same => same ▸ present⟩, by simpa using nonce⟩
    refine Safe.bind (Safe.query (fun w => rfl) (fun _ => trivial)
      fun g₄ g₅ during _ onward _ => ?_)
    refine Safe.done fun last rest => ?_
    exact Verified.moves (.accepted payload ticket row checkedInAt g₂.world.clock g₄.world.clock
      scanning₃ accepted (held.trans present)) ((during.trans onward).trans rest)

theorem safe_acquireReplayKey (scanning : Scanning g i context input payload ticket)
    (admitted : Admitted g i input payload ticket) :
    Safe platform i (Post i context input)
      (acquireReplayKey ticket payload (intendedState input.direction)) (some ⟨[]⟩) g := by
  refine Safe.bind (Safe.store unlocked_empty ?_ (fun _ _ => trivial)
    fun g₁ acquired w g₂ before _ _ after _ => ?_)
  · intro w acquired w' tx' executed
    simp only [exec] at executed
    split at executed <;> cases executed <;> rfl
  have moved := before.trans after
  split
  · refine Safe.bind (safe_resetShareGuard unlocked_empty fun g₃ _ onward => ?_)
    have whole := moved.trans onward
    exact safe_rotateNonce (scanning.moves whole) (admitted.extends whole.toExtends)
  · exact safe_rejectRisk (by simp) (scanning.moves moved)

theorem safe_eventEnded {Q : Bool → Option Tx → Global → Prop} {direction : GateDirection}
    (post : ∀ later ended, Moves i tx g later → Q ended tx later) :
    Safe platform i Q (eventEnded ticket direction) tx g := by
  cases direction with
  | exit => exact Safe.done fun last moved => post last _ moved
  | entry =>
    refine Safe.bind (Safe.query (fun w => rfl) (fun _ => trivial)
      fun g₁ g₂ before _ after _ => ?_)
    cases (g₁.world.settings ticket.eventId).bind (·.endsAt) with
    | none => exact Safe.done fun last moved => post last _ ((before.trans after).trans moved)
    | some endsAt =>
      refine Safe.bind (Safe.query (fun w => rfl) (fun _ => trivial)
        fun g₃ g₄ during _ onward _ => ?_)
      exact Safe.done fun last moved =>
        post last _ ((before.trans after).trans ((during.trans onward).trans moved))

theorem safe_applyDirectionPolicy (scanning : Scanning g i context input payload ticket)
    (admits : ticket.currentState ≠ intendedState input.direction →
      Admitted g i input payload ticket) :
    Safe platform i (Post i context input) (applyDirectionPolicy ticket payload input.direction)
      (some ⟨[]⟩) g := by
  unfold applyDirectionPolicy
  dsimp only
  split
  · refine safe_rejected ?_ scanning
    cases input.direction <;> simp [directionVerdict, intendedState]
  next outside =>
    refine Safe.bind (safe_eventEnded fun later ended moved => ?_)
    split
    · exact safe_rejected (by simp) (scanning.moves moved)
    · exact safe_acquireReplayKey (scanning.moves moved)
        ((admits outside).extends moved.toExtends)

theorem safe_checkNonce (scanning : Scanning g i context input payload ticket)
    (admits : ticket.lastNonce.any (payload.dn ≤ ·) = false →
      ticket.nextNonce = some payload.dn → ticket.currentState ≠ intendedState input.direction →
        Admitted g i input payload ticket) :
    Safe platform i (Post i context input) (checkNonce ticket payload input.direction)
      (some ⟨[]⟩) g := by
  unfold checkNonce
  split
  · exact safe_rejectRisk (by simp) scanning
  next recent =>
    split
    · exact safe_rejectRisk (by simp) scanning
    next expected =>
      exact safe_applyDirectionPolicy scanning
        (admits (by simpa using recent) (not_not.mp expected).symm)

theorem safe_checkDevice (scanning : Scanning g i context input payload ticket)
    (token : Seen g i (.tokenVerify input.token) (some payload)
      fun w => w.verified input.token = some payload)
    (valid : ticket.revoked = false) (unblocked : Unblocked g i ticket.id) :
    Safe platform i (Post i context input)
      (checkDevice ticket payload input.token input.signature input.deviceId input.direction)
      (some ⟨[]⟩) g := by
  unfold checkDevice
  cases bound : truthy ticket.devicePublicKey with
  | none => exact safe_rejected (by simp) scanning
  | some publicKey =>
    refine Safe.bind (Safe.query (fun w => rfl) (fun _ => trivial)
      fun g₁ g₂ before _ after seen => ?_)
    have moved := before.trans after
    have scanning₂ := scanning.moves moved
    split
    · exact safe_rejectRisk (by simp) scanning₂
    next genuine =>
      have signed : (⟨publicKey, signedMessage input.token input.deviceId, input.signature⟩ :
          DeviceSignature) ∈ g₁.world.signatures := by
        simpa using genuine
      rw [decide_eq_true signed] at seen
      split
      · exact safe_rejectRisk (by simp) scanning₂
      next same =>
        exact safe_checkNonce scanning₂ fun recent nonce outside =>
          { token := moved.toExtends.seen token
            read := scanning₂.read
            valid
            unblocked := unblocked.extends moved.toExtends
            signed := ⟨publicKey, bound, seen.imp fun w same => same ▸ signed⟩
            device := not_not.mp same
            recent
            nonce
            outside }

theorem safe_verifyToken (uncommitted : ¬Committed g i)
    (called : g.calls[i]? = some (.scan context input)) :
    Safe platform i (Post i context input)
      (verifyToken input.token input.signature input.deviceId input.direction)
      (some ⟨[]⟩) g := by
  refine Safe.bind (safe_verify fun g₁ payload first token => ?_)
  refine Safe.bind (Safe.query (fun w => rfl) (fun _ => trivial)
    fun g₂ g₃ before _ after seen => ?_)
  have moved := before.trans after
  have whole := first.trans moved
  cases found : (g₂.world.clientView .tx (some ⟨[]⟩)).ticket payload.tid with
  | none => exact Safe.throw _
  | some ticket =>
    rw [found] at seen
    have scanning : Scanning g₃ i context input payload ticket :=
      { called := whole.calls i _ called
        uncommitted := whole.uncommitted uncommitted
        read := seen.imp fun w same => same ▸ found }
    simp only
    split
    · exact safe_rejected (by simp) scanning
    next valid =>
      refine Safe.bind (safe_isBlocked fun g₄ blocked onward passed => ?_)
      have scanning₄ := scanning.moves onward
      split
      · exact safe_rejected (by simp) scanning₄
      next free =>
        exact safe_checkDevice scanning₄ ((moved.trans onward).toExtends.seen token)
          (by simpa using valid) (passed (by simpa using free))

end VerifyService

namespace ScanService

open AnalyticsOutboxService TicketEventRoleResolver VerifyService

variable {context : RequestContext} {input : SecurityScanInput}

theorem safe_publishMilestone {payload : EventMilestoneRecordedDTO} {actorId : Uuid}
    {Q : Unit → Option Tx → Global → Prop} (post : ∀ later, Extends g later → Q () none later) :
    Safe platform i Q (publishMilestone platform payload context actorId) none g := by
  intro g' rely rooted
  refine ⟨fun result w tx' executed => ?_, ?_⟩
  · cases executed
    have change : Change platform (some i) g' (g'.record i
        (.send (.milestoneRecorded payload (messageMeta platform context (some actorId)))) () _) :=
      .stmt i _ _ _ none none rfl trivial
    refine ⟨change, ?_⟩
    exact fun last after => post last
      ((Moves.of_rely rely).toExtends.trans (change.extends.trans (Moves.of_rely after).toExtends))
  · exact fun last after => post last
      ((Moves.of_rely rely).toExtends.trans (Moves.of_rely after).toExtends)

theorem safe_scanLogCreate {Q : ScanLog → Option Tx → Global → Prop} {row : Time → ScanLog} {t : Tx}
    (post : ∀ g' later, Moves i (some t) g g' →
      ((g'.world.view (some t)).ticket (row g'.world.clock).ticketId).isSome →
      Moves i (some ⟨t.writes ++ [.insertScanLog (row g'.world.clock)]⟩) g' later →
        Q (row g'.world.clock) (some ⟨t.writes ++ [.insertScanLog (row g'.world.clock)]⟩) later) :
    Safe platform i Q (issue (.scanLogCreate row)) (some t) g := by
  refine Safe.write (P := fun w result added =>
    ((w.view (some t)).ticket (row w.clock).ticketId).isSome ∧ row w.clock = result ∧
      [.insertScanLog (row w.clock)] = added) ?_ (fun _ => trivial) ?_
  · intro w result w' tx' executed
    simp only [exec] at executed
    split at executed
    next present =>
      cases executed
      exact ⟨rfl, _, ⟨present, rfl, rfl⟩, rfl⟩
    next => cases executed
  · rintro g' _ _ later before ⟨present, rfl, rfl⟩ after _
    exact post g' later before present after

theorem safe_recordScan {result : VerifyResult}
    (verified : Verified g i context input result tx)
    (granted : Granted platform g i .scanTickets result.ticket.eventId input.actorId) :
    Safe platform i (fun _ tx g' => Ready platform i tx g')
      (recordScan platform (Uuid.mk i) context input result) tx g := by
  cases verified with
  | rejected result refused scanning =>
    refine Safe.bind (safe_scanLogCreate fun g₁ g₂ before present after => ?_)
    refine Safe.bind (safe_enqueue fun g₃ fact moved fact_row => ?_)
    rw [if_neg refused]
    refine Safe.done fun g₄ rest => ⟨_, rfl, ?_, fun later last => ?_⟩
    · exact rest.uncommitted
        (moved.uncommitted (after.uncommitted (before.uncommitted scanning.uncommitted)))
    · have onward := (rest.trans last).weaken fun l member => Tx.locks_append member
      have all := after.trans (moved.trans onward)
      have extended := before.toExtends.trans all.toExtends
      have held := (all.guarded _ rfl).present result.ticket.id
        (by simp [Tx.locks, Write.locks, scanLogRow]) present
      have topic : scanTopic result.verdict = .ticketScanRejected := if_neg refused
      exact .rejected context input result g₁.world.clock fact
        (extended.calls i _ scanning.called) refused (scanning.read.extends extended)
        (granted.extends extended) held (topic ▸ fact_row)
  | accepted payload ticket row checkedInAt updatedAt returnedAt scanning accepted current =>
    refine Safe.bind (safe_scanLogCreate fun g₁ g₂ before present after => ?_)
    refine Safe.bind (safe_enqueue fun g₃ scanned moved scanned_row => ?_)
    simp only [TicketService.accepted, if_pos]
    refine Safe.bind (safe_enqueue fun g₄ presence moved' presence_row => ?_)
    refine Safe.done fun g₅ rest => ⟨_, rfl, ?_, fun later last => ?_⟩
    · exact rest.uncommitted (moved'.uncommitted
        (moved.uncommitted (after.uncommitted (before.uncommitted scanning.uncommitted))))
    · have ending := (rest.trans last).weaken fun l member => Tx.locks_append member
      have onward := (moved'.trans ending).weaken fun l member => Tx.locks_append member
      have written := (after.trans (moved.trans onward)).weaken fun l member =>
        Tx.locks_append member
      have all := before.trans written
      have held := (all.guarded _ rfl).row ticket.id (by simp [Tx.locks, Write.locks])
      exact .accepted context input payload ticket row checkedInAt updatedAt returnedAt
        g₁.world.clock scanned presence (all.calls i _ scanning.called)
        (accepted.extends all.toExtends) (granted.extends all.toExtends) (held.trans current)
        scanned_row presence_row

theorem safe_scanTransaction (uncommitted : ¬Committed g i)
    (called : g.calls[i]? = some (.scan context input)) :
    Safe platform i (fun _ tx g' => Ready platform i tx g')
      (scanTransaction platform (Uuid.mk i) context input) (some ⟨[]⟩) g := by
  refine Safe.bind ((safe_verifyToken uncommitted called).mono fun result tx g₁ verified => ?_)
  refine Safe.bind (safe_getPermissionsForUser fun g₂ permissions moved granted => ?_)
  split
  next allowed => exact safe_recordScan (verified.moves moved) (granted _ allowed)
  next => exact Safe.throw _

theorem safe_scan (uncommitted : ¬Committed g i)
    (called : g.calls[i]? = some (.scan context input)) :
    Safe platform i (fun _ _ _ => True) (scan platform (Uuid.mk i) context input) none g := by
  refine Safe.bind (Safe.transaction (fun g₁ moved =>
    safe_scanTransaction (moved.uncommitted uncommitted) (moved.calls i _ called)) ?_)
  intro result later _
  split
  · exact Safe.bind (safe_publishMilestone fun _ _ => Safe.done fun _ _ => trivial)
  · exact Safe.done fun _ _ => trivial

end ScanService

end TicketService
