import TicketService.Refinement.Alone
import TicketService.Refinement.Scans

set_option autoImplicit false

namespace TicketService

open Interleaving Relational ShareGuardService TicketEventRoleResolver TokenService VerifyService

variable {platform : Platform} {α β : Type} {tx tx' : Option Tx} {w w' : World}
  {input : SecurityScanInput} {payload : QrPayload} {ticket : Ticket} {result : VerifyResult}

structure Checked (w : World) (input : SecurityScanInput) (payload : QrPayload) (ticket : Ticket) :
    Prop where
  valid : ticket.revoked = false
  signed : ∃ publicKey, truthy ticket.devicePublicKey = some publicKey ∧
    ⟨publicKey, signedMessage input.token input.deviceId, input.signature⟩ ∈ w.signatures
  device : ticket.deviceId = some input.deviceId
  fresh : ticket.lastNonce.any (payload.dn ≤ ·) = false
  expected : some payload.dn = ticket.nextNonce

inductive Risky : RiskInput → ScanVerdict → String → Prop where
  | signature : Risky { invalidSignature := true } .deviceMismatch "Signature Changed"
  | device : Risky { deviceMismatch := true } .deviceMismatch "Device Id Changed"
  | replay : Risky { replay := true } .replay (scanMessages .replay)
  | nonce : Risky { invalidNonce := true } .invalidNonce (scanMessages .invalidNonce)

-- The guards after `resetShareGuard`.
def World.guardsCleared (w : World) (ticketId : Uuid) : Table ShareGuard Uuid ShareGuard.ticketId :=
  match w.guard ticketId with
  | none => w.store.shareGuards
  | some guard => w.store.shareGuards.put (guard.updated cleared)

def World.acquired (w : World) (ticketId : Uuid) (nonce : Nat) : World :=
  { w with
    store.replayKeys := w.store.replayKeys.upsert ⟨ticketId, nonce, w.clock + 120 * 1000⟩
    store.shareGuards := w.guardsCleared ticketId }

def World.decided (w : World) (ticketId : Uuid) (result : RiskResult) (now writtenAt : Time) : Store :=
  let guard := (w.guard ticketId).getD (.created ticketId)
  let failCount := guard.failCount + 1
  let shareGuards := w.store.shareGuards.insert (.created ticketId)
  if result.shouldRevoke ∨ failCount ≥ revokeThreshold then
    match w.ticket ticketId with
    | some row =>
      { w.store with shareGuards }.putTicket ticketId (autoRevoked now row.toTicketState) writtenAt
    | none => { w.store with shareGuards }
  else if result.shouldBlock ∨ failCount ≥ baseThreshold then
    { w.store with
      shareGuards := shareGuards.put (guard.updated (blocked now failCount result.reason)) }
  else
    { w.store with
      shareGuards := shareGuards.put (guard.updated (failed now failCount result.reason)) }

-- `new Date()` on entry, between the two times; else the value that the scan read.
def CheckedInBetween (ticket : Ticket) (state : PresenceState) (checkedInAt : Option Time)
    (begun ended : Time) : Prop :=
  match state with
  | .inside => ∃ now, checkedInAt = some now ∧ begun ≤ now ∧ now ≤ ended
  | .outside => checkedInAt = ticket.checkedInAt

def ReplayedIfChecked (w : World) (input : SecurityScanInput) (payload : QrPayload) (ticket : Ticket) :
    Prop :=
  Checked w input payload ticket →
    ∃ w₁, Ticked w w₁ ∧ w₁.replayKeyLive ticket.id payload.dn = true

/-- How `verifyToken` ends once it has read the ticket in the world `w`. -/
inductive Exits (platform : Platform) (input : SecurityScanInput) (payload : QrPayload) (ticket : Ticket)
    (w : World) : VerifyResult → Tx → World → Prop where
  | revoked {w' : World} : Ticked w w' → ticket.revoked = true →
    Exits platform input payload ticket w
      ⟨ticket, payload, .revoked, ticket.revokedReason.getD (scanMessages .revoked)⟩ ⟨[]⟩ w'
  | blocked {w' : World} (blockedUntil : Time) : Ticked w w' → ticket.revoked = false →
    (w.guard ticket.id).bind (·.blockedUntil) = some blockedUntil → w.clock < blockedUntil →
    Exits platform input payload ticket w ⟨ticket, payload, .blocked, scanMessages .blocked⟩ ⟨[]⟩ w'
  | keyless {w' : World} : Ticked w w' → ticket.revoked = false → unblockedAt w ticket.id ≤ w'.clock →
    truthy ticket.devicePublicKey = none →
    Exits platform input payload ticket w ⟨ticket, payload, .deviceMismatch, "No Public Key"⟩ ⟨[]⟩ w'
  | directed {w' : World} : Ticked w w' → unblockedAt w ticket.id ≤ w'.clock →
    Checked w input payload ticket → ticket.currentState = intendedState input.direction →
    Exits platform input payload ticket w
      ⟨ticket, payload, directionVerdict (intendedState input.direction),
        scanMessages (directionVerdict (intendedState input.direction))⟩ ⟨[]⟩ w'
  | ended {w' : World} (endsAt : Time) : Ticked w w' → unblockedAt w ticket.id ≤ w'.clock →
    Checked w input payload ticket → ticket.currentState ≠ intendedState input.direction →
    input.direction = .entry → (w.settings ticket.eventId).bind (·.endsAt) = some endsAt →
    endsAt < w'.clock →
    Exits platform input payload ticket w ⟨ticket, payload, .expiredEvent, scanMessages .expiredEvent⟩
      ⟨[]⟩ w'
  -- The failure is counted.
  | struck {w' : World} (risk : RiskInput) (verdict : ScanVerdict) (message : String)
    (now writtenAt : Time) :
    Risky risk verdict message → ReplayedIfChecked w input payload ticket → ticket.revoked = false →
    truthy ticket.devicePublicKey ≠ none →
    unblockedAt w ticket.id ≤ now → now ≤ w'.clock →
    Ticked { w with store := w.decided ticket.id (calculateRisk risk) now writtenAt } w' →
    Exits platform input payload ticket w ⟨ticket, payload, verdict, message⟩ ⟨[]⟩ w'
  | accepted {w₁ w' : World} (checkedInAt : Option Time) (rotatedAt updatedAt : Time) :
    Ticked w w₁ → unblockedAt w ticket.id ≤ w₁.clock → Checked w input payload ticket →
    ticket.currentState ≠ intendedState input.direction →
    w₁.replayKeyLive ticket.id payload.dn = false → Ticked (w₁.acquired ticket.id payload.dn) w' →
    CheckedInBetween ticket (intendedState input.direction) checkedInAt w.clock w'.clock →
    Exits platform input payload ticket w (accepted input payload ticket checkedInAt updatedAt)
      ⟨[.putTicket ticket.id
        (acceptedState payload (intendedState input.direction) checkedInAt ticket.toTicketState)
        rotatedAt]⟩ w'

section Ticks

theorem Ticked.settings (ticked : Ticked w w') (eventId : Uuid) :
    w'.settings eventId = w.settings eventId := by
  simp [World.settings, ticked.store]

theorem Ticked.unblockedAt (ticked : Ticked w w') (id : Uuid) :
    unblockedAt w' id = max w'.clock (((w.guard id).bind (·.blockedUntil)).getD 0) := by
  simp [TicketService.unblockedAt, ticked.guard]

theorem Ticked.unblockedAt_le (ticked : Ticked w w') {id : Uuid} {at_ : Time}
    (unblocked : TicketService.unblockedAt w' id ≤ at_) : TicketService.unblockedAt w id ≤ at_ := by
  rw [ticked.unblockedAt] at unblocked
  have passed := Nat.max_le.mp unblocked
  exact Nat.max_le.mpr ⟨Nat.le_trans ticked.clock passed.1, passed.2⟩

theorem Ticked.checked (ticked : Ticked w w') (checked : Checked w' input payload ticket) :
    Checked w input payload ticket where
  valid := checked.valid
  signed := ticked.signatures ▸ checked.signed
  device := checked.device
  fresh := checked.fresh
  expected := checked.expected

theorem Ticked.with_store (ticked : Ticked w w') (s : Store) :
    Ticked { w with store := s } { w' with store := s } := by
  obtain ⟨ms, rfl⟩ := ticked
  exact ⟨ms, rfl⟩

end Ticks

section Parts

theorem Ticked.decided (ticked : Ticked w w') (id : Uuid) (risk : RiskResult) (now writtenAt : Time) :
    w'.decided id risk now writtenAt = w.decided id risk now writtenAt := by
  simp only [World.decided, ticked.guard, ticked.ticket, ticked.store]

theorem isBlocked_cases {ticketId : Uuid} {blocked : Bool}
    (run : Executes platform (isBlocked ticketId) tx w (.ok blocked) tx' w') :
    tx' = tx ∧ Ticked w w' ∧ (blocked = false ∧ unblockedAt w ticketId ≤ w'.clock ∨
      blocked = true ∧ ∃ blockedUntil, (w.guard ticketId).bind (·.blockedUntil) = some blockedUntil ∧
        w.clock < blockedUntil) := by
  cases blocked with
  | false =>
    obtain ⟨same, ticked, unblocked⟩ := isBlocked_returns run
    exact ⟨same, ticked, .inl ⟨rfl, unblocked⟩⟩
  | true =>
    obtain ⟨w₁, w₂, first, then₂, run⟩ := issue_returns (fun _ => rfl) run
    split at run
    next free =>
      obtain ⟨ended, -⟩ := done_returns run
      cases ended
    next blockedUntil until_ =>
      obtain ⟨w₃, w₄, then₃, then₄, run⟩ := issue_returns (fun _ => rfl) run
      obtain ⟨closed, rfl, then₅⟩ := done_returns run
      have before := first.trans (then₂.trans then₃)
      rw [first.guard] at until_
      have early : w₃.clock < blockedUntil := of_decide_eq_true closed.symm
      exact ⟨rfl, before.trans (then₄.trans then₅),
        .inr ⟨rfl, blockedUntil, until_, Nat.lt_of_le_of_lt before.clock early⟩⟩

theorem eventEnded_cases {direction : GateDirection} {ended : Bool}
    (run : Executes platform (eventEnded ticket direction) tx w (.ok ended) tx' w') :
    tx' = tx ∧ Ticked w w' ∧ (ended = true → direction = .entry ∧ ∃ endsAt,
      (w.settings ticket.eventId).bind (·.endsAt) = some endsAt ∧ endsAt < w'.clock) := by
  cases direction with
  | exit =>
    obtain ⟨rfl, rfl, ticked⟩ := done_returns run
    exact ⟨rfl, ticked, nofun⟩
  | entry =>
    obtain ⟨w₁, w₂, first, then₂, run⟩ := issue_returns (fun _ => rfl) run
    split at run
    next free =>
      obtain ⟨rfl, rfl, ticked⟩ := done_returns run
      exact ⟨rfl, first.trans (then₂.trans ticked), nofun⟩
    next endsAt ends =>
      obtain ⟨w₃, w₄, then₃, then₄, run⟩ := issue_returns (fun _ => rfl) run
      obtain ⟨rfl, rfl, then₅⟩ := done_returns run
      rw [first.settings] at ends
      refine ⟨rfl, first.trans (then₂.trans (then₃.trans (then₄.trans then₅))), fun over_ => ?_⟩
      have past : endsAt < w₃.clock := of_decide_eq_true over_
      exact ⟨rfl, endsAt, ends, Nat.lt_of_lt_of_le past (then₄.trans then₅).clock⟩

theorem resetShareGuard_returns {ticketId : Uuid} {updated : Option ShareGuard}
    (run : Executes platform (resetShareGuard ticketId) tx w (.ok updated) tx' w') :
    tx' = tx ∧ Ticked { w with store.shareGuards := w.guardsCleared ticketId } w' := by
  obtain ⟨w₁, w₂, first, then₂, run⟩ := issue_returns (fun _ => rfl) run
  split at run
  next absent =>
    obtain ⟨-, rfl, then₃⟩ := done_returns run
    rw [first.guard] at absent
    refine ⟨rfl, ?_⟩
    simp only [World.guardsCleared, absent]
    exact first.trans (then₂.trans then₃)
  next guard found =>
    obtain ⟨_, tx₁, w₃, w₄, w₅, then₃, executed, then₅, run⟩ := stmt_returns run
    obtain ⟨-, rfl, last⟩ := done_returns run
    have before := first.trans (then₂.trans then₃)
    rw [first.guard, ← before.guard] at found
    simp only [exec, found, Option.bind_some, stores] at executed
    cases executed
    refine ⟨rfl, ?_⟩
    rw [before.guard] at found
    simp only [World.guardsCleared, found]
    obtain ⟨ms, rfl⟩ := before
    exact Ticked.trans ⟨ms, rfl⟩ (then₅.trans last)

theorem checkedInAt_returns {state : PresenceState} {at_ : Option Time}
    (run : Executes platform (checkedInAt ticket state) tx w (.ok at_) tx' w') :
    tx' = tx ∧ Ticked w w' ∧ CheckedInBetween ticket state at_ w.clock w'.clock := by
  cases state with
  | outside =>
    obtain ⟨rfl, rfl, ticked⟩ := done_returns run
    exact ⟨rfl, ticked, rfl⟩
  | inside =>
    obtain ⟨w₂, w₃, first, then₃, run⟩ := issue_returns (fun _ => rfl) run
    obtain ⟨rfl, rfl, last⟩ := done_returns run
    exact ⟨rfl, first.trans (then₃.trans last), w₂.clock, rfl, first.clock, (then₃.trans last).clock⟩

theorem CheckedInBetween.wider {state : PresenceState} {at_ : Option Time} {begun ended begun' ended' : Time}
    (checked : CheckedInBetween ticket state at_ begun ended) (earlier : begun' ≤ begun)
    (later : ended ≤ ended') : CheckedInBetween ticket state at_ begun' ended' := by
  cases state with
  | outside => exact checked
  | inside =>
    obtain ⟨now, same, after, before⟩ := checked
    exact ⟨now, same, Nat.le_trans earlier after, Nat.le_trans before later⟩

theorem rotateNonce_returns (present : w.ticket ticket.id = some ticket)
    (expected : some payload.dn = ticket.nextNonce)
    (run : Executes platform (rotateNonce ticket payload (intendedState input.direction)) (some ⟨[]⟩) w
      (.ok result) tx' w') :
    ∃ at_ rotatedAt updatedAt, Ticked w w' ∧
      CheckedInBetween ticket (intendedState input.direction) at_ w.clock w'.clock ∧
      result = accepted input payload ticket at_ updatedAt ∧
      tx' = some ⟨[.putTicket ticket.id
        (acceptedState payload (intendedState input.direction) at_ ticket.toTicketState) rotatedAt]⟩ := by
  obtain ⟨at_, tx₁, w₁, checked, run⟩ := bind_returns run
  obtain ⟨rfl, ticked, checked⟩ := checkedInAt_returns checked
  obtain ⟨count, tx₂, w₂, w₃, w₄, before, executed, after, run⟩ := stmt_returns run
  have there : w₂.ticket ticket.id = some ticket := (ticked.trans before).ticket ticket.id ▸ present
  have only : w₂.matching (nonceFilter ticket payload) = [ticket] := by
    rw [matching_nonceFilter, there]
    simp [← expected]
  have executed : writes (w₂.matching (nonceFilter ticket payload)).length
      ((w₂.matching (nonceFilter ticket payload)).map fun row => .putTicket row.id
        (acceptedState payload (intendedState input.direction) at_ row.toTicketState) w₂.clock) w₂
        (some ⟨[]⟩) = some (count, w₃, tx₂) := executed
  rw [only] at executed
  cases executed
  obtain ⟨w₅, w₆, then₅, then₆, run⟩ := issue_returns (fun _ => rfl) run
  obtain ⟨rfl, rfl, last⟩ := done_returns run
  have rest := before.trans (after.trans (then₅.trans (then₆.trans last)))
  exact ⟨at_, w₂.clock, w₅.clock, ticked.trans rest, checked.wider (Nat.le_refl _) rest.clock, rfl, rfl⟩

theorem Ticked.of_store (ticked : Ticked w w') {w'' : World} {s : Store}
    (later : Ticked { w' with store := s } w'') : Ticked { w with store := s } w'' :=
  (ticked.with_store s).trans later

theorem shareGuardUpsert_cases {ticketId : Uuid} {guard : ShareGuard}
    (executed : exec platform (.shareGuardUpsert ticketId) w tx = some (guard, w', tx')) :
    guard = (w.guard ticketId).getD (.created ticketId) ∧ tx' = tx ∧
      w' = { w with store.shareGuards := w.store.shareGuards.insert (.created ticketId) } := by
  cases found : w.guard ticketId with
  | some row =>
    simp only [exec, found, reads] at executed
    have taken : w.store.shareGuards.get? (ShareGuard.created ticketId).ticketId = some row := found
    cases executed
    exact ⟨rfl, rfl, by rw [Table.insert_taken taken]⟩
  | none =>
    simp only [exec, found] at executed
    split at executed
    · cases executed
      exact ⟨rfl, rfl, rfl⟩
    · cases executed

theorem guard_inserted {ticketId : Uuid}
    (ticked : Ticked { w with store.shareGuards := w.store.shareGuards.insert (.created ticketId) } w') :
    w'.guard ticketId = some ((w.guard ticketId).getD (.created ticketId)) := by
  rw [ticked.guard]
  cases found : w.guard ticketId with
  | some guard =>
    have there : w.store.shareGuards.get? ticketId = some guard := found
    simp [World.guard, Table.get?_insert, there, ShareGuard.created]
  | none =>
    have absent : w.store.shareGuards.get? ticketId = none := found
    simp [World.guard, Table.get?_insert, absent, ShareGuard.created]

theorem applyDecision_returns {ticketId : Uuid} {risk : RiskResult}
    (run : Executes platform (applyDecision ticketId risk) tx w (.ok ()) tx' w') :
    tx' = tx ∧ ∃ now writtenAt, w.clock ≤ now ∧ now ≤ w'.clock ∧
      Ticked { w with store := w.decided ticketId risk now writtenAt } w' := by
  obtain ⟨w₁, w₂, first, then₂, run⟩ := issue_returns (fun _ => rfl) run
  obtain ⟨guard, tx₁, w₃, w₄, w₅, then₃, upserted, then₅, tail⟩ := stmt_returns run
  obtain ⟨rfl, rfl, rfl⟩ := shareGuardUpsert_cases upserted
  have before := first.trans (then₂.trans then₃)
  have guards := before.guard ticketId
  have inserted :
      Ticked { w with store.shareGuards := w.store.shareGuards.insert (.created ticketId) } w₅ := by
    rw [← before.store]
    exact before.of_store then₅
  have begun := first.clock
  have later : w₁.clock ≤ w₅.clock := Nat.le_trans (then₂.trans then₃).clock then₅.clock
  -- Each branch ends with one statement that stores a row.
  have ended {stmt : Stmt} (run : Executes platform ((issue stmt).bind fun _ => .done ()) tx₁ w₅ (.ok ()) tx' w')
      (stored : ∀ v value v' tx₂, Ticked w₅ v → exec platform stmt v tx₁ = some (value, v', tx₂) →
        tx₂ = tx₁ ∧ v' = { v with store := w.decided ticketId risk w₁.clock v.clock }) :
      tx' = tx₁ ∧ ∃ now writtenAt, w.clock ≤ now ∧ now ≤ w'.clock ∧
        Ticked { w with store := w.decided ticketId risk now writtenAt } w' := by
    obtain ⟨value, tx₂, v, v', v'', then₆, executed, then₇, done⟩ := stmt_returns run
    obtain ⟨rfl, rfl⟩ := stored v value v' tx₂ then₆ executed
    obtain ⟨-, rfl, last⟩ := done_returns done
    have rest := then₇.trans last
    have passed : w₁.clock ≤ w'.clock := Nat.le_trans later (Nat.le_trans then₆.clock rest.clock)
    refine ⟨rfl, w₁.clock, v.clock, begun, passed, ?_⟩
    exact (inserted.trans then₆).of_store rest
  dsimp only at tail
  split at tail
  next revokes =>
    refine ended tail fun v value v' tx₂ ticked executed => ?_
    have whole := inserted.trans ticked
    have there : v.ticket ticketId = w.ticket ticketId := whole.ticket ticketId
    simp only [exec, there] at executed
    obtain ⟨row, found, executed⟩ := Option.bind_eq_some_iff.mp executed
    cases executed
    refine ⟨rfl, ?_⟩
    rw [guards] at revokes
    simp only [World.decided, if_pos revokes, found, whole.store]
  next counts =>
    rw [guards] at counts
    split at tail
    next blocks =>
      rw [guards] at blocks
      refine ended tail fun v value v' tx₂ ticked executed => ?_
      have there := guard_inserted (inserted.trans ticked)
      simp only [exec, there, Option.bind_some, stores] at executed
      cases executed
      refine ⟨rfl, ?_⟩
      simp only [World.decided, if_neg counts, if_pos blocks, (inserted.trans ticked).store, guards]
    next fails =>
      rw [guards] at fails
      refine ended tail fun v value v' tx₂ ticked executed => ?_
      have there := guard_inserted (inserted.trans ticked)
      simp only [exec, there, Option.bind_some, stores] at executed
      cases executed
      refine ⟨rfl, ?_⟩
      simp only [World.decided, if_neg counts, if_neg fails, (inserted.trans ticked).store, guards]

end Parts

section Whole

variable (present : w.ticket ticket.id = some ticket)

theorem rejectRisk_exits {risk : RiskInput} {verdict : ScanVerdict} {message : String}
    (risky : Risky risk verdict message) (cause : ReplayedIfChecked w input payload ticket)
    (valid : ticket.revoked = false) (keyed : truthy ticket.devicePublicKey ≠ none)
    {w₁ : World} (ticked : Ticked w w₁) (unblocked : unblockedAt w ticket.id ≤ w₁.clock)
    (run : Executes platform (rejectRisk ticket payload risk verdict message) (some ⟨[]⟩) w₁
      (.ok result) tx' w') :
    ∃ t, tx' = some t ∧ Exits platform input payload ticket w result t w' := by
  obtain ⟨⟨⟩, tx₁, w₂, decision, done⟩ := bind_returns run
  obtain ⟨rfl, now, writtenAt, begun, ended, decided⟩ := applyDecision_returns decision
  obtain ⟨rfl, rfl, last⟩ := done_returns done
  have stored := (ticked.of_store decided).trans last
  rw [ticked.decided] at stored
  exact ⟨_, rfl, .struck risk verdict message now writtenAt risky cause valid keyed
    (Nat.le_trans unblocked begun) (Nat.le_trans ended last.clock) stored⟩

theorem Checked.keyed (checked : Checked w input payload ticket) :
    truthy ticket.devicePublicKey ≠ none := by
  obtain ⟨publicKey, key, -⟩ := checked.signed
  simp [key]

include present

theorem acquireReplayKey_exits (checked : Checked w input payload ticket) {w₁ : World}
    (ticked : Ticked w w₁) (unblocked : unblockedAt w ticket.id ≤ w₁.clock)
    (other : ticket.currentState ≠ intendedState input.direction)
    (run : Executes platform (acquireReplayKey ticket payload (intendedState input.direction))
      (some ⟨[]⟩) w₁ (.ok result) tx' w') :
    ∃ t, tx' = some t ∧ Exits platform input payload ticket w result t w' := by
  obtain ⟨acquired, tx₁, w₂, w₃, w₄, then₂, executed, then₄, rest⟩ := stmt_returns run
  have before := ticked.trans then₂
  have opened := Nat.le_trans unblocked then₂.clock
  simp only [exec] at executed
  split at executed
  next live =>
    cases executed
    exact rejectRisk_exits .replay (fun _ => ⟨w₂, before, live⟩) checked.valid checked.keyed (before.trans then₄)
      (Nat.le_trans opened then₄.clock) rest
  next expired =>
    cases executed
    obtain ⟨reset, tx₂, w₅, cleared, rotate⟩ := bind_returns rest
    obtain ⟨rfl, then₅⟩ := resetShareGuard_returns cleared
    have acquired : Ticked (w₂.acquired ticket.id payload.dn) w₅ := by
      have guards : w₄.guardsCleared ticket.id = w₂.guardsCleared ticket.id := by
        simp only [World.guardsCleared, World.guard, then₄.store]
      have whole := then₄.of_store then₅
      rw [guards, then₄.store] at whole
      exact whole
    have there : w₅.ticket ticket.id = some ticket := by
      rw [acquired.ticket]
      exact before.ticket ticket.id ▸ present
    obtain ⟨at_, rotatedAt, updatedAt, last, checkedIn, rfl, rfl⟩ :=
      rotateNonce_returns there checked.expected rotate
    have begun : w.clock ≤ w₅.clock := Nat.le_trans before.clock acquired.clock
    exact ⟨_, rfl, .accepted at_ rotatedAt updatedAt before opened checked other (by simpa using expired)
      (acquired.trans last) (checkedIn.wider begun (Nat.le_refl _))⟩

theorem applyDirectionPolicy_exits (checked : Checked w input payload ticket) {w₁ : World}
    (ticked : Ticked w w₁) (unblocked : unblockedAt w ticket.id ≤ w₁.clock)
    (run : Executes platform (applyDirectionPolicy ticket payload input.direction) (some ⟨[]⟩) w₁
      (.ok result) tx' w') :
    ∃ t, tx' = some t ∧ Exits platform input payload ticket w result t w' := by
  unfold applyDirectionPolicy at run
  dsimp only at run
  split at run
  next here =>
    obtain ⟨rfl, rfl, last⟩ := done_returns run
    exact ⟨_, rfl, .directed (ticked.trans last) (Nat.le_trans unblocked last.clock) checked here⟩
  next other =>
    obtain ⟨ended, tx₁, w₂, event, rest⟩ := bind_returns run
    obtain ⟨rfl, then₂, read⟩ := eventEnded_cases event
    have before := ticked.trans then₂
    have opened := Nat.le_trans unblocked then₂.clock
    split at rest
    next past =>
      obtain ⟨entry, endsAt, ends, late⟩ := read past
      obtain ⟨rfl, rfl, last⟩ := done_returns rest
      rw [ticked.settings] at ends
      exact ⟨_, rfl, .ended endsAt (before.trans last) (Nat.le_trans opened last.clock) checked other
        entry ends (Nat.lt_of_lt_of_le late last.clock)⟩
    next => exact acquireReplayKey_exits present checked before opened other rest

theorem checkNonce_exits (valid : ticket.revoked = false)
    (signed : ∃ publicKey, truthy ticket.devicePublicKey = some publicKey ∧
      ⟨publicKey, signedMessage input.token input.deviceId, input.signature⟩ ∈ w.signatures)
    (device : ticket.deviceId = some input.deviceId) {w₁ : World} (ticked : Ticked w w₁)
    (unblocked : unblockedAt w ticket.id ≤ w₁.clock)
    (run : Executes platform (checkNonce ticket payload input.direction) (some ⟨[]⟩) w₁ (.ok result)
      tx' w') :
    ∃ t, tx' = some t ∧ Exits platform input payload ticket w result t w' := by
  have keyed : truthy ticket.devicePublicKey ≠ none := by
    obtain ⟨publicKey, key, -⟩ := signed
    simp [key]
  unfold checkNonce at run
  split at run
  next used =>
    have cause : ReplayedIfChecked w input payload ticket := fun checked => by
      rw [checked.fresh] at used
      cases used
    exact rejectRisk_exits .replay cause valid keyed ticked unblocked run
  next fresh =>
    split at run
    next unexpected =>
      exact rejectRisk_exits .nonce (fun checked => absurd checked.expected unexpected) valid keyed ticked
        unblocked run
    next expected =>
      exact applyDirectionPolicy_exits present ⟨valid, signed, device, Bool.eq_false_iff.mpr fresh,
        Decidable.not_not.mp expected⟩ ticked unblocked run

theorem checkDevice_exits (valid : ticket.revoked = false) {w₁ : World} (ticked : Ticked w w₁)
    (unblocked : unblockedAt w ticket.id ≤ w₁.clock)
    (run : Executes platform (checkDevice ticket payload input.token input.signature input.deviceId
      input.direction) (some ⟨[]⟩) w₁ (.ok result) tx' w') :
    ∃ t, tx' = some t ∧ Exits platform input payload ticket w result t w' := by
  unfold checkDevice at run
  split at run
  next keyless =>
    obtain ⟨rfl, rfl, last⟩ := done_returns run
    exact ⟨_, rfl, .keyless (ticked.trans last) valid (Nat.le_trans unblocked last.clock) keyless⟩
  next publicKey key =>
    have keyed : truthy ticket.devicePublicKey ≠ none := by simp [key]
    obtain ⟨w₂, w₃, then₂, then₃, rest⟩ := issue_returns (fun _ => rfl) run
    have before := ticked.trans (then₂.trans then₃)
    have opened := Nat.le_trans unblocked (then₂.trans then₃).clock
    split at rest
    next forged =>
      have cause : ReplayedIfChecked w input payload ticket := fun checked => by
        obtain ⟨publicKey', key', signed⟩ := checked.signed
        cases key.symm.trans key'
        rw [← (ticked.trans then₂).signatures] at signed
        exact absurd (decide_eq_true signed) forged
      exact rejectRisk_exits .signature cause valid keyed before opened rest
    next genuine =>
      have signed : ⟨publicKey, signedMessage input.token input.deviceId, input.signature⟩ ∈
          w.signatures := by
        rw [← (ticked.trans then₂).signatures]
        simpa using genuine
      split at rest
      next other =>
        exact rejectRisk_exits .device (fun checked => absurd checked.device other) valid keyed before
          opened rest
      next device =>
        exact checkNonce_exits present valid ⟨publicKey, key, signed⟩ (Decidable.not_not.mp device) before
          opened rest

/-- The exits are all the ways in which `verifyToken` returns when it runs alone. -/
theorem verifyTicket_exits
    (run : Executes platform (verifyTicket ticket payload input) (some ⟨[]⟩) w (.ok result) tx' w') :
    ∃ t, tx' = some t ∧ Exits platform input payload ticket w result t w' := by
  unfold verifyTicket at run
  split at run
  next revoked =>
    obtain ⟨rfl, rfl, ticked⟩ := done_returns run
    exact ⟨_, rfl, .revoked ticked revoked⟩
  next valid =>
    have valid : ticket.revoked = false := Bool.eq_false_iff.mpr valid
    obtain ⟨blocked, tx₁, w₁, block, rest⟩ := bind_returns run
    obtain ⟨rfl, ticked, outcome⟩ := isBlocked_cases block
    rcases outcome with ⟨rfl, unblocked⟩ | ⟨rfl, blockedUntil, until_, early⟩
    · exact checkDevice_exits present valid ticked unblocked rest
    · obtain ⟨rfl, rfl, last⟩ := done_returns rest
      exact ⟨_, rfl, .blocked blockedUntil (ticked.trans last) valid until_ early⟩

end Whole

section Records

open AnalyticsOutboxService ScanService

variable {context : RequestContext} {t : Tx}

theorem enqueue_returns {id : Uuid} {topic : FactTopic} {fact : FactInput}
    (run : Executes platform (enqueue platform context id topic fact) (some t) w (.ok ()) tx' w') :
    Ticked w w' ∧ ∃ row, Enqueued platform context id topic fact row ∧
      tx' = some ⟨t.writes ++ [.insertOutbox row]⟩ := by
  unfold enqueue at run
  split at run
  next => exact (throw_returns run).elim
  next tenantId there =>
    obtain ⟨w₁, w₂, first, then₂, rest⟩ := issue_returns (fun _ => rfl) run
    split at rest
    next =>
      obtain ⟨⟨⟩, tx₁, w₃, w₄, w₅, then₃, executed, then₅, done⟩ := stmt_returns rest
      cases executed
      obtain ⟨-, rfl, last⟩ := done_returns done
      exact ⟨first.trans (then₂.trans (then₃.trans (then₅.trans last))), _,
        ⟨tenantId, _, _, there, rfl⟩, rfl⟩
    next => exact (throw_returns rest).elim

theorem getPermissionsForUser_cases {userId eventId : Uuid} {permissions : List EventPermissionKey}
    (run : Executes platform (getPermissionsForUser platform userId eventId) tx w (.ok permissions)
      tx' w') :
    tx' = tx ∧ Ticked w w' ∧ permissions = permissionsOf platform w userId eventId := by
  have answer := getPermissionsForUser_returns run
  obtain ⟨w₁, w₂, first, then₂, run⟩ := issue_returns (fun _ => rfl) run
  split at run
  next =>
    obtain ⟨-, rfl, last⟩ := done_returns run
    exact ⟨rfl, first.trans (then₂.trans last), answer⟩
  next =>
    obtain ⟨role, tx₁, w₃, read, done⟩ := bind_returns run
    obtain ⟨w₄, w₅, then₄, then₅, read⟩ := issue_returns (fun _ => rfl) read
    obtain ⟨-, rfl, last⟩ := done_returns read
    obtain ⟨-, rfl, last'⟩ := done_returns done
    exact ⟨rfl, first.trans (then₂.trans (then₄.trans (then₅.trans (last.trans last')))), answer⟩

theorem executes_getPermissionsForUser (userId eventId : Uuid) (tx : Option Tx) :
    Executes platform (getPermissionsForUser platform userId eventId) tx w
      (.ok (permissionsOf platform w userId eventId)) tx w := by
  have granted : Answers platform (getPermissionsForUser platform userId eventId) w
      (.ok (permissionsOf platform w userId eventId)) := answers_getPermissionsForUser userId eventId
  obtain ⟨tx', run⟩ := granted.may w tx rfl
  obtain ⟨rfl, -, -⟩ := getPermissionsForUser_cases run
  exact run

theorem recordScan_returns {uuid : Nat → Uuid} {reply : ScanPayloadDTO}
    (run : Executes platform (recordScan platform uuid context input result) (some t) w (.ok reply) tx'
      w') :
    Ticked w w' ∧ ∃ createdAt, ∃ facts : List AnalyticsOutbox, w.clock ≤ createdAt ∧ createdAt ≤ w'.clock ∧
      tx' = some ⟨t.writes ++ .insertScanLog (scanLogRow (uuid 0) result input createdAt) ::
        facts.map .insertOutbox⟩ ∧
      reply = ⟨result.ticket, scanLogRow (uuid 0) result input createdAt, result.verdict, result.message⟩ := by
  obtain ⟨log, tx₁, w₁, w₂, w₃, first, executed, then₃, rest⟩ := stmt_returns run
  simp only [exec] at executed
  split at executed
  next =>
    cases executed
    obtain ⟨⟨⟩, tx₂, w₄, enqueued, rest⟩ := bind_returns rest
    obtain ⟨then₄, fact, -, rfl⟩ := enqueue_returns enqueued
    have before := first.trans (then₃.trans then₄)
    split at rest
    next =>
      obtain ⟨⟨⟩, tx₃, w₅, enqueued, done⟩ := bind_returns rest
      obtain ⟨then₅, fact', -, rfl⟩ := enqueue_returns enqueued
      obtain ⟨rfl, rfl, last⟩ := done_returns done
      refine ⟨before.trans (then₅.trans last), w₁.clock, [fact, fact'], first.clock,
        (then₃.trans (then₄.trans (then₅.trans last))).clock, ?_, rfl⟩
      simp
    next =>
      obtain ⟨rfl, rfl, last⟩ := done_returns rest
      refine ⟨before.trans last, w₁.clock, [fact], first.clock, (then₃.trans (then₄.trans last)).clock,
        ?_, rfl⟩
      simp
  next => cases executed

theorem publishMilestone_returns {milestone : EventMilestoneRecordedDTO} {actorId : Uuid}
    (run : Executes platform (publishMilestone platform milestone context actorId) tx w (.ok ()) tx' w') :
    tx' = tx ∧ ∃ messages, Ticked { w with sent := w.sent ++ messages } w' := by
  obtain ⟨w₁, first, failed | ⟨⟨⟩, w₂, tx₂, executed, done⟩⟩ := run.call_cases
  · obtain ⟨-, rfl, last⟩ := done_returns failed
    refine ⟨rfl, [], ?_⟩
    rw [List.append_nil]
    exact (Ticked.of_later first).trans last
  · have executed : exec platform (.send _) w₁ tx = some ((), w₂, tx₂) := executed
    cases executed
    obtain ⟨-, rfl, last⟩ := done_returns done
    obtain ⟨ms, rfl⟩ := Ticked.of_later first
    exact ⟨rfl, _, Ticked.trans ⟨ms, rfl⟩ last⟩

def World.recorded (w : World) (t : Tx) (log : ScanLog) (facts : List AnalyticsOutbox)
    (messages : List Message) : World :=
  { w with
    store := (Tx.mk (t.writes ++ .insertScanLog log :: facts.map .insertOutbox)).apply w.store
    sent := w.sent ++ messages }

theorem apply_facts (facts : List AnalyticsOutbox) (s : Store) :
    (Tx.mk (facts.map .insertOutbox)).apply s =
      { s with analyticsOutbox := s.analyticsOutbox ++ facts } := by
  induction facts generalizing s with
  | nil => simp [Tx.apply]
  | cons fact facts ih =>
    have rest := ih (Write.apply (.insertOutbox fact) s)
    simp only [Tx.apply, List.map_cons, List.foldl_cons] at rest ⊢
    rw [rest]
    simp [Write.apply]

theorem recorded_eq (w : World) (t : Tx) (log : ScanLog) (facts : List AnalyticsOutbox)
    (messages : List Message) : w.recorded t log facts messages =
      { w with
        store := { t.apply w.store with
          scanLogs := (t.apply w.store).scanLogs ++ [log]
          analyticsOutbox := (t.apply w.store).analyticsOutbox ++ facts }
        sent := w.sent ++ messages } := by
  have written := apply_facts facts (Write.apply (.insertScanLog log) (t.apply w.store))
  have whole : (Tx.mk (t.writes ++ .insertScanLog log :: facts.map .insertOutbox)).apply w.store =
      (Tx.mk (facts.map .insertOutbox)).apply (Write.apply (.insertScanLog log) (t.apply w.store)) := by
    simp only [Tx.apply, List.foldl_append, List.foldl_cons]
  simp only [World.recorded, whole, written]
  rfl

theorem recordScan_tenant {uuid : Nat → Uuid} {reply : ScanPayloadDTO}
    (run : Executes platform (recordScan platform uuid context input result) (some t) w (.ok reply) tx'
      w') : (tenant platform context).isSome := by
  obtain ⟨log, tx₁, w₁, w₂, w₃, -, executed, -, rest⟩ := stmt_returns run
  simp only [exec] at executed
  split at executed
  next =>
    cases executed
    obtain ⟨⟨⟩, tx₂, w₄, enqueued, -⟩ := bind_returns rest
    obtain ⟨-, fact, ⟨tenantId, -, -, there, -⟩, -⟩ := enqueue_returns enqueued
    exact Option.isSome_iff_exists.mpr ⟨tenantId, there⟩
  next => cases executed

theorem scan_verifies {number : Nat} {reply : Reply}
    (run : Executes platform (program platform number (.scan context input)) none w (.ok reply) tx' w') :
    ¬(input.token = "" ∨ input.signature = "" ∨ input.deviceId = "") ∧ (tenant platform context).isSome ∧
      ∃ payload ticket w₁ result t w₂ createdAt facts messages,
        w.verified input.token = some payload ∧ w.ticket payload.tid = some ticket ∧ Ticked w w₁ ∧
        Executes platform (verifyTicket ticket payload input) (some ⟨[]⟩) w₁ (.ok result) (some t) w₂ ∧
        .scanTickets ∈ permissionsOf platform w₂ input.actorId result.ticket.eventId ∧
        reply = .scan ⟨result.ticket, scanLogRow ⟨number, 0⟩ result input createdAt, result.verdict,
          result.message⟩ ∧
        w₂.clock ≤ createdAt ∧ createdAt ≤ w'.clock ∧ (result.verdict ≠ .ok → messages = []) ∧
        Ticked (w₂.recorded t (scanLogRow ⟨number, 0⟩ result input createdAt) facts messages) w' := by
  obtain ⟨response, tx₁, w₁, run, done⟩ := bind_returns run
  obtain ⟨rfl, rfl, last⟩ := done_returns done
  unfold TicketMutationResolver.scanToken at run
  split at run
  · exact (throw_returns run).elim
  next formed =>
  obtain ⟨response', tx₂, w₂, committed, publish⟩ := bind_returns run
  obtain ⟨rfl, t, w₃, w₄, w₅, first, body, then₅, after⟩ := transaction_returns committed
  obtain ⟨result, tx₆, w₆, verify, body⟩ := bind_returns body
  obtain ⟨payload, ticket, w₇, verified, found, then₇, verify⟩ := verifyToken_returns verify rfl
  have key : ticket.id = payload.tid := Table.key_of_get? found
  rw [first.ticket] at found
  have there : w₇.ticket ticket.id = some ticket := by
    rw [(first.trans then₇).ticket, key]
    exact found
  obtain ⟨t', rfl, -⟩ := verifyTicket_exits there verify
  obtain ⟨permissions, tx₈, w₈, permitted, body⟩ := bind_returns body
  obtain ⟨rfl, then₈, rfl⟩ := getPermissionsForUser_cases permitted
  split at body
  next scanner =>
    have tenanted := recordScan_tenant body
    obtain ⟨then₉, createdAt, facts, begun, ended, written, rfl⟩ := recordScan_returns body
    cases written
    have stored : Ticked { w₆ with store := (Tx.mk (t'.writes ++ .insertScanLog
        (scanLogRow ⟨number, 0⟩ result input createdAt) :: facts.map .insertOutbox)).apply w₆.store }
        w₂ := by
      have ticked := then₈.trans (then₉.trans then₅)
      rw [ticked.store] at after
      exact ticked.of_store after
    have created : createdAt ≤ w₂.clock := Nat.le_trans ended (Nat.le_trans then₅.clock after.clock)
    have sent (messages : List Message) {w₉ : World}
        (published : Ticked { w₂ with sent := w₂.sent ++ messages } w₉) :
        Ticked (w₆.recorded t' (scanLogRow ⟨number, 0⟩ result input createdAt) facts messages) w₉ := by
      obtain ⟨ms, rfl⟩ := stored
      exact Ticked.trans ⟨ms, rfl⟩ published
    refine ⟨formed, tenanted, payload, ticket, w₇, result, t', w₆, createdAt, facts, ?_⟩
    split at publish
    next accepted =>
      obtain ⟨⟨⟩, tx₉, w₉, published, done⟩ := bind_returns publish
      obtain ⟨rfl, messages, then₁₀⟩ := publishMilestone_returns published
      obtain ⟨rfl, -, then₁₁⟩ := done_returns done
      exact ⟨messages, first.verified verified, found, first.trans then₇, verify, scanner, rfl,
        Nat.le_trans then₈.clock begun, Nat.le_trans created (then₁₀.trans (then₁₁.trans last)).clock,
        fun refused => absurd accepted refused, sent messages (then₁₀.trans (then₁₁.trans last))⟩
    next =>
      obtain ⟨rfl, -, then₁₀⟩ := done_returns publish
      refine ⟨[], first.verified verified, found, first.trans then₇, verify, scanner, rfl,
        Nat.le_trans then₈.clock begun, Nat.le_trans created (then₁₀.trans last).clock, fun _ => rfl, ?_⟩
      refine sent [] ?_
      rw [List.append_nil]
      exact then₁₀.trans last
  next => exact (throw_returns body).elim

theorem scan_returns {number : Nat} {reply : Reply}
    (run : Executes platform (program platform number (.scan context input)) none w (.ok reply) tx' w') :
    ∃ payload ticket w₁ result t w₂ createdAt facts messages,
      w.verified input.token = some payload ∧ w.ticket payload.tid = some ticket ∧ Ticked w w₁ ∧
      Exits platform input payload ticket w₁ result t w₂ ∧
      .scanTickets ∈ permissionsOf platform w₂ input.actorId result.ticket.eventId ∧
      reply = .scan ⟨result.ticket, scanLogRow ⟨number, 0⟩ result input createdAt, result.verdict,
        result.message⟩ ∧
      w₂.clock ≤ createdAt ∧ createdAt ≤ w'.clock ∧ (result.verdict ≠ .ok → messages = []) ∧
      Ticked (w₂.recorded t (scanLogRow ⟨number, 0⟩ result input createdAt) facts messages) w' := by
  obtain ⟨-, -, payload, ticket, w₁, result, t, w₂, createdAt, facts, messages, verified, found, first,
    verify, rest⟩ := scan_verifies run
  have key : ticket.id = payload.tid := Table.key_of_get? found
  have there : w₁.ticket ticket.id = some ticket := by
    rw [first.ticket, key]
    exact found
  obtain ⟨t', same, exits⟩ := verifyTicket_exits there verify
  cases same
  exact ⟨payload, ticket, w₁, result, t, w₂, createdAt, facts, messages, verified, found, first, exits,
    rest⟩

theorem Exits.ticket_id (exits : Exits platform input payload ticket w result t w') :
    result.ticket.id = ticket.id := by
  cases exits <;> rfl

theorem scan_row {number : Nat} {reply : ScanPayloadDTO} {row : Ticket}
    (run : Executes platform (program platform number (.scan context input)) none w (.ok (.scan reply))
      tx' w') (present : w.ticket reply.ticket.id = some row) :
    ∃ payload w₁ result t w₂, Ticked w w₁ ∧ Exits platform input payload row w₁ result t w₂ ∧
      reply.ticket = result.ticket ∧ reply.verdict = result.verdict ∧ reply.message = result.message ∧
      w₂.clock ≤ w'.clock ∧ w'.store.tickets = (t.apply w₂.store).tickets ∧
      w'.store.shareGuards = (t.apply w₂.store).shareGuards := by
  obtain ⟨payload, ticket, w₁, result, t, w₂, createdAt, facts, messages, -, found, first, exits, -, answer,
    begun, ended, -, last⟩ := scan_returns run
  cases answer
  have key : ticket.id = payload.tid := Table.key_of_get? found
  rw [exits.ticket_id, key, found] at present
  cases present
  have stored := last.store
  rw [recorded_eq] at stored
  refine ⟨payload, w₁, result, t, w₂, first, exits, rfl, rfl, rfl, Nat.le_trans begun ended, ?_, ?_⟩
  · rw [stored]
  · rw [stored]

theorem scan_accepted {number : Nat} {reply : ScanPayloadDTO} {row : Ticket}
    (run : Executes platform (program platform number (.scan context input)) none w (.ok (.scan reply))
      tx' w') (present : w.ticket reply.ticket.id = some row) (ok : reply.verdict = .ok) :
    ∃ payload at_ rotatedAt updatedAt, w.verified input.token = some payload ∧
      Checked w input payload row ∧ row.currentState ≠ intendedState input.direction ∧
      CheckedInBetween row (intendedState input.direction) at_ w.clock w'.clock ∧
      reply.ticket = (accepted input payload row at_ updatedAt).ticket ∧
      w'.ticket reply.ticket.id =
        some (row.updated (acceptedState payload (intendedState input.direction) at_) rotatedAt) := by
  obtain ⟨payload, ticket, w₁, result, t, w₂, createdAt, facts, messages, verified, found, first, exits, -,
    answer, begun, ended, -, last⟩ := scan_returns run
  cases answer
  have key : ticket.id = payload.tid := Table.key_of_get? found
  rw [exits.ticket_id, key, found] at present
  cases present
  cases exits with
  | accepted at_ rotatedAt updatedAt ticked _ checked elsewhere _ acquired between =>
    refine ⟨payload, at_, rotatedAt, updatedAt, verified, first.checked checked, elsewhere,
      between.wider first.clock (Nat.le_trans begun ended), rfl, ?_⟩
    have there : w₂.store.ticket row.id = some row := by
      have kept : _ = w.ticket row.id := (first.trans ticked).ticket row.id
      rw [acquired.store]
      rw [key] at kept ⊢
      exact kept.trans found
    have written := Store.ticket_putTicket w₂.store row.id row.id
      (acceptedState payload (intendedState input.direction) at_ row.toTicketState) rotatedAt
    rw [if_pos rfl, there] at written
    have stored := last.store
    rw [recorded_eq] at stored
    unfold World.ticket
    rw [stored]
    exact written
  | directed =>
    generalize intendedState input.direction = state at ok
    cases state <;> cases ok
  | struck _ _ _ _ _ risky => cases risky <;> cases ok
  | _ => cases ok

end Records

end TicketService
