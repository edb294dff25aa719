import TicketService.Refinement.Exits
import TicketService.Refinement.Statements

set_option autoImplicit false

namespace TicketService

open Interleaving Relational ShareGuardService VerifyService

variable {platform : Platform} {w w' : World} {id : Uuid}

def raised (verdict : ScanVerdict) (message : String) : Option RiskInput :=
  match verdict with
  | .deviceMismatch =>
    if message = "Signature Changed" then some { invalidSignature := true }
    else if message = "Device Id Changed" then some { deviceMismatch := true }
    else none
  | .replay => if message = scanMessages .replay then some { replay := true } else none
  | .invalidNonce => some { invalidNonce := true }
  | _ => none

section Raised

def Stmt.decides : Stmt → Bool
  | .shareGuardUpsert _ => true
  | _ => false

abbrev Owns (p : Program VerifyResult) : Prop :=
  p.Marks Stmt.decides (fun asked result => asked = (raised result.verdict result.message).isSome) false

variable {ticket : Ticket} {payload : QrPayload} {direction : GateDirection}

theorem owns_issue {α : Type} {p : Program α} {f : α → Program VerifyResult}
    (issues : p.Issues fun stmt : Stmt => stmt.decides = false) (rest : ∀ value, Owns (f value)) :
    Owns (p.bind f) :=
  .bind (issues.marks rest)

theorem marks_applyDecision {ticketId : Uuid} {result : RiskResult} :
    (applyDecision ticketId result).Marks Stmt.decides (fun asked _ => asked = true) false := by
  have settles {stmt : Stmt} {rest : stmt.Res → Program Unit} (ends : ∀ value, rest value = .done ()) :
      ((issue stmt).bind rest).Marks Stmt.decides (fun asked _ => asked = true) true := by
    refine .bind fun value => ?_
    cases value with
    | none => trivial
    | some value =>
      simp only [ends]
      rfl
  refine .bind fun now => ?_
  cases now with
  | none => trivial
  | some now =>
    refine .bind fun guard => ?_
    cases guard with
    | none => trivial
    | some guard =>
      change (ite _ _ _ : Program Unit).Marks Stmt.decides _ true
      split
      · exact settles fun _ => rfl
      · split
        · exact settles fun _ => rfl
        · exact settles fun _ => rfl

theorem owns_rejectRisk {risk : RiskInput} {verdict : ScanVerdict} {message : String}
    (risky : Risky risk verdict message) : Owns (rejectRisk ticket payload risk verdict message) := by
  have told : (raised verdict message).isSome = true := by cases risky <;> rfl
  refine .bind ?_
  simp only [Prog.Marks, told]
  exact marks_applyDecision

abbrev Undecided {α : Type} (p : Program α) : Prop :=
  p.Issues fun stmt : Stmt => stmt.decides = false

theorem undecided_issue {stmt : Stmt} (other : stmt.decides = false) : Undecided (issue stmt) :=
  .perform other

theorem owns_rotateNonce {state : PresenceState} : Owns (rotateNonce ticket payload state) := by
  have checked : Undecided (checkedInAt ticket state) := by
    cases state with
    | inside => exact (undecided_issue rfl).bind fun _ => trivial
    | outside => trivial
  refine owns_issue checked fun at_ => owns_issue (undecided_issue rfl) fun count => ?_
  split
  · rfl
  · exact owns_issue (undecided_issue rfl) fun updatedAt => rfl

theorem owns_acquireReplayKey {state : PresenceState} : Owns (acquireReplayKey ticket payload state) := by
  have reset : Undecided (resetShareGuard ticket.id) := by
    refine (undecided_issue rfl).bind fun guard => ?_
    cases guard with
    | none => trivial
    | some guard => exact (undecided_issue rfl).bind fun _ => trivial
  refine owns_issue (undecided_issue rfl) fun acquired => ?_
  split
  · exact owns_issue reset fun _ => owns_rotateNonce
  · exact owns_rejectRisk .replay

theorem owns_applyDirectionPolicy : Owns (applyDirectionPolicy ticket payload direction) := by
  have event : Undecided (eventEnded ticket direction) := by
    cases direction with
    | exit => trivial
    | entry =>
      refine (undecided_issue rfl).bind fun settings => ?_
      cases Option.bind settings (·.endsAt) with
      | none => trivial
      | some endsAt => exact (undecided_issue rfl).bind fun _ => trivial
  unfold applyDirectionPolicy
  dsimp only
  split
  · cases direction <;> rfl
  · refine owns_issue event fun ended => ?_
    split
    · rfl
    · exact owns_acquireReplayKey

theorem owns_checkDevice {tokenStr signature deviceId : String} :
    Owns (checkDevice ticket payload tokenStr signature deviceId direction) := by
  unfold checkDevice
  split
  · rfl
  · refine owns_issue (.perform rfl) fun genuine => ?_
    split
    · exact owns_rejectRisk .signature
    · split
      · exact owns_rejectRisk .device
      · unfold checkNonce
        split
        · exact owns_rejectRisk .replay
        · split
          · exact owns_rejectRisk .nonce
          · exact owns_applyDirectionPolicy

theorem owns_verifyToken {tokenStr signature deviceId : String} :
    Owns (verifyToken tokenStr signature deviceId direction) := by
  have verified : Undecided (TokenService.verify tokenStr) := by
    refine (undecided_issue rfl).bind fun payload => ?_
    cases payload <;> trivial
  have blocked (ticketId : Uuid) : Undecided (isBlocked ticketId) := by
    refine (undecided_issue rfl).bind fun guard => ?_
    cases Option.bind guard (·.blockedUntil) with
    | none => trivial
    | some blockedUntil => exact (undecided_issue rfl).bind fun _ => trivial
  refine owns_issue verified fun payload => owns_issue (undecided_issue rfl) fun ticket => ?_
  cases ticket with
  | none => trivial
  | some ticket =>
    dsimp only
    split
    · rfl
    · refine owns_issue (blocked ticket.id) fun blocked => ?_
      split
      · rfl
      · exact owns_checkDevice

end Raised

section Step

variable {row : Ticket} {input : SecurityScanInput}

inductive Struck (w : World) (id : Uuid) (row : Ticket) (risk : RiskInput) (now : Time) (w' : World) :
    Prop where
  | counted (guard : ShareGuard) : w.failures id + 1 < 10 → w'.ticket id = some row →
    w'.guard id = some guard → guard.failCount = w.failures id + 1 → guard.lastFailAt = some now →
    guard.blockedUntil = (if 3 ≤ score risk ∨ 3 ≤ w.failures id + 1 then some (now + 5 * 60 * 1000)
      else (w.guard id).bind (·.blockedUntil)) →
    Struck w id row risk now w'
  | revoked (updatedAt : Time) : 10 ≤ w.failures id + 1 →
    w'.ticket id = some (row.updated (autoRevoked now) updatedAt) →
    Struck w id row risk now w'

theorem failures_getD (w : World) (id : Uuid) :
    ((w.guard id).getD (.created id)).failCount = w.failures id := by
  unfold World.failures
  cases w.guard id <;> rfl

theorem blockedUntil_getD (w : World) (id : Uuid) :
    ((w.guard id).getD (.created id)).blockedUntil = (w.guard id).bind (·.blockedUntil) := by
  cases w.guard id <;> rfl

theorem guard_put_inserted (data : ShareGuard → ShareGuard) :
    ((w.store.shareGuards.insert (.created id)).put
      (((w.guard id).getD (.created id)).updated data)).get? id =
        some (((w.guard id).getD (.created id)).updated data) := by
  have inserted : (w.store.shareGuards.insert (.created id)).get? id =
      some ((w.guard id).getD (.created id)) :=
    guard_inserted (.refl { w with store.shareGuards := w.store.shareGuards.insert (.created id) })
  have key : id = (((w.guard id).getD (.created id)).updated data).ticketId :=
    (Table.key_of_get? inserted).symm
  rw [Table.get?_put, if_pos key, inserted]
  rfl

theorem score_bounded {risk : RiskInput} {verdict : ScanVerdict} {message : String}
    (risky : Risky risk verdict message) : score risk < 10 := by
  cases risky <;> decide

theorem struck_decided {risk : RiskInput} {verdict : ScanVerdict} {message : String}
    (risky : Risky risk verdict message) (present : w.ticket id = some row) (now writtenAt : Time) :
    Struck w id row risk now { w with store := w.decided id (calculateRisk risk) now writtenAt } := by
  have bounded := score_bounded risky
  have spared : (calculateRisk risk).shouldRevoke = false := decide_eq_false (Nat.not_le.mpr bounded)
  have count := failures_getD w id
  by_cases last : 10 ≤ w.failures id + 1
  · have revokes : (calculateRisk risk).shouldRevoke = true ∨
        ((w.guard id).getD (.created id)).failCount + 1 ≥ revokeThreshold := .inr (by rw [count]; exact last)
    refine .revoked writtenAt last ?_
    have there : w.store.ticket id = some row := present
    simp only [World.decided, if_pos revokes, present]
    have written := Store.ticket_putTicket { w.store with
      shareGuards := w.store.shareGuards.insert (.created id) } id id (autoRevoked now row.toTicketState)
      writtenAt
    rw [if_pos rfl] at written
    exact written.trans (congrArg (Option.map _) there)
  · have counts : ¬((calculateRisk risk).shouldRevoke = true ∨
        ((w.guard id).getD (.created id)).failCount + 1 ≥ revokeThreshold) := by
      rw [spared, count]
      simpa [revokeThreshold] using last
    by_cases blocks : (calculateRisk risk).shouldBlock = true ∨
        ((w.guard id).getD (.created id)).failCount + 1 ≥ baseThreshold
    · have reaches : 3 ≤ score risk ∨ 3 ≤ w.failures id + 1 := by
        rw [count] at blocks
        simpa [calculateRisk, baseThreshold] using blocks
      refine .counted (((w.guard id).getD (.created id)).updated (blocked now
        (((w.guard id).getD (.created id)).failCount + 1) (calculateRisk risk).reason)) (Nat.not_le.mp last)
        ?_ ?_ ?_ rfl ?_
      · simp only [World.decided, if_neg counts, if_pos blocks]
        exact present
      · simp only [World.decided, if_neg counts, if_pos blocks]
        exact guard_put_inserted _
      · rw [← count]
        rfl
      · rw [if_pos reaches]
        rfl
    · have spares : ¬(3 ≤ score risk ∨ 3 ≤ w.failures id + 1) := by
        rw [count] at blocks
        simpa [calculateRisk, baseThreshold] using blocks
      refine .counted (((w.guard id).getD (.created id)).updated (failed now
        (((w.guard id).getD (.created id)).failCount + 1) (calculateRisk risk).reason)) (Nat.not_le.mp last)
        ?_ ?_ ?_ rfl ?_
      · simp only [World.decided, if_neg counts, if_neg blocks]
        exact present
      · simp only [World.decided, if_neg counts, if_neg blocks]
        exact guard_put_inserted _
      · rw [← count]
        rfl
      · rw [if_neg spares]
        exact blockedUntil_getD w id

inductive Refusal (w : World) (row : Ticket) (reply : ScanPayloadDTO) (w' : World) : Prop where
  | turned : raised reply.verdict reply.message = none → w'.ticket row.id = some row →
    w'.guard row.id = w.guard row.id → Refusal w row reply w'
  | struck (risk : RiskInput) (now : Time) : raised reply.verdict reply.message = some risk →
    row.revoked = false → unblockedAt w row.id ≤ now → now ≤ w'.clock →
    Struck w row.id row risk now w' → Refusal w row reply w'

variable {number : Nat} {context : RequestContext} {reply : ScanPayloadDTO} {tx : Option Tx}

theorem Struck.of_store {risk : RiskInput} {now : Time} {v v' : World}
    (struck : Struck w id row risk now v) (tickets : v'.ticket id = v.ticket id)
    (guards : v'.guard id = v.guard id) : Struck w id row risk now v' := by
  cases struck with
  | counted guard few same found count failed until_ =>
    exact .counted guard few (tickets.trans same) (guards.trans found) count failed until_
  | revoked updatedAt many revoked => exact .revoked updatedAt many (tickets.trans revoked)

theorem scan_refusal
    (run : Executes platform (program platform number (.scan context input)) none w (.ok (.scan reply)) tx
      w') (present : w.ticket reply.ticket.id = some row) (refused : reply.verdict ≠ .ok) :
    Refusal w row reply w' := by
  obtain ⟨payload, w₁, result, t, w₂, first, exits, same, verdict, message, ended, tickets, guards⟩ :=
    scan_row run present
  have own : row.id = reply.ticket.id := Table.key_of_get? present
  rw [← own] at present
  rw [verdict] at refused
  -- The exits that leave the store alone.
  have turned (ticked : Ticked w₁ w₂) (empty : t = ⟨[]⟩)
      (quiet : raised result.verdict result.message = none) : Refusal w row reply w' := by
    subst empty
    have kept := (first.trans ticked).store
    refine .turned (by rw [verdict, message, quiet]) ?_ ?_
    · unfold World.ticket at present ⊢
      rw [tickets]
      simp only [Tx.apply, List.foldl_nil, kept]
      exact present
    · unfold World.guard
      rw [guards]
      simp only [Tx.apply, List.foldl_nil, kept]
  cases exits with
  | revoked ticked => exact turned ticked rfl rfl
  | blocked _ ticked => exact turned ticked rfl rfl
  | keyless ticked => exact turned ticked rfl rfl
  | directed ticked =>
    exact turned ticked rfl (by cases input.direction <;> rfl)
  | ended _ ticked => exact turned ticked rfl rfl
  | struck risk verdict' message' now writtenAt risky cause valid keyed unblocked before decided =>
    have told : raised verdict' message' = some risk := by cases risky <;> rfl
    have struck := struck_decided risky present now writtenAt
    refine .struck risk now (by rw [verdict, message, ← told]) valid (first.unblockedAt_le unblocked)
      (Nat.le_trans before ended) (struck.of_store ?_ ?_)
    · unfold World.ticket
      rw [tickets]
      simp only [Tx.apply, List.foldl_nil, decided.store, first.decided]
    · unfold World.guard
      rw [guards]
      simp only [Tx.apply, List.foldl_nil, decided.store, first.decided]
  | accepted => exact absurd rfl refused

theorem scan_of_revoked
    (run : Executes platform (program platform number (.scan context input)) none w (.ok (.scan reply)) tx
      w') (present : w.ticket reply.ticket.id = some row) (revoked : row.revoked = true) :
    reply.verdict = .revoked := by
  obtain ⟨payload, w₁, result, t, w₂, first, exits, same, verdict, -⟩ := scan_row run present
  rw [verdict]
  have valid (valid : row.revoked = false) : result.verdict = .revoked := by
    rw [revoked] at valid
    cases valid
  cases exits with
  | revoked => rfl
  | blocked _ _ spared => exact valid spared
  | keyless _ spared => exact valid spared
  | directed _ _ checked => exact valid checked.valid
  | ended _ _ _ checked => exact valid checked.valid
  | struck _ _ _ _ _ _ _ spared => exact valid spared
  | accepted _ _ _ _ _ checked => exact valid checked.valid

theorem scan_before {blockedUntil : Time}
    (run : Executes platform (program platform number (.scan context input)) none w (.ok (.scan reply)) tx
      w') (present : w.ticket reply.ticket.id = some row) (valid : row.revoked = false)
    (until_ : (w.guard row.id).bind (·.blockedUntil) = some blockedUntil) (early : w'.clock < blockedUntil) :
    reply.verdict = .blocked := by
  obtain ⟨payload, w₁, result, t, w₂, first, exits, same, verdict, -, ended, -⟩ := scan_row run present
  rw [verdict]
  have late {now : Time} (unblocked : unblockedAt w₁ row.id ≤ now) (before : now ≤ w'.clock) :
      result.verdict = .blocked := by
    have passed := (Nat.max_le.mp (first.unblockedAt_le unblocked)).2
    rw [until_] at passed
    exact absurd early (Nat.not_lt.mpr (Nat.le_trans passed before))
  cases exits with
  | revoked _ revoked =>
    rw [valid] at revoked
    cases revoked
  | blocked => rfl
  | keyless _ _ unblocked => exact late unblocked ended
  | directed _ unblocked => exact late unblocked ended
  | ended _ _ unblocked => exact late unblocked ended
  | struck _ _ _ _ _ _ _ _ _ unblocked before => exact late unblocked (Nat.le_trans before ended)
  | accepted _ _ _ _ unblocked _ _ _ acquired =>
    have before : _ ≤ w₂.clock := acquired.clock
    exact late unblocked (Nat.le_trans before ended)

end Step

section Runs

variable {row : Ticket} {input : SecurityScanInput} {number : Nat} {context : RequestContext}
  {reply : ScanPayloadDTO} {tx : Option Tx} {replies : List ScanPayloadDTO}

structure Elsewhere (id : Uuid) (w w' : World) : Prop where
  clock : w.clock ≤ w'.clock
  ticket : w'.ticket id = w.ticket id
  guard : w'.guard id = w.guard id

inductive Refused (platform : Platform) (id : Uuid) (w : World) : List ScanPayloadDTO → World → Prop where
  | none : Refused platform id w [] w
  | elsewhere {replies : List ScanPayloadDTO} {w₁ w₂ : World} :
    Refused platform id w replies w₁ → Elsewhere id w₁ w₂ → Refused platform id w replies w₂
  | scan {replies : List ScanPayloadDTO} {w₁ w₂ : World} {number : Nat} {context : RequestContext}
    {input : SecurityScanInput} {reply : ScanPayloadDTO} {tx : Option Tx} :
    Refused platform id w replies w₁ →
    Executes platform (program platform number (.scan context input)) none w₁ (.ok (.scan reply)) tx w₂ →
    reply.ticket.id = id → reply.verdict ≠ .ok → Refused platform id w (replies ++ [reply]) w₂

-- How often a risk was raised.
def strikes (replies : List ScanPayloadDTO) : Nat :=
  replies.countP fun reply => (raised reply.verdict reply.message).isSome

@[simp] theorem strikes_append (replies more : List ScanPayloadDTO) :
    strikes (replies ++ more) = strikes replies + strikes more := List.countP_append ..

theorem strikes_quiet (quiet : raised reply.verdict reply.message = none) : strikes [reply] = 0 := by
  simp [strikes, quiet]

theorem strikes_raised {risk : RiskInput} (told : raised reply.verdict reply.message = some risk) :
    strikes [reply] = 1 := by
  simp [strikes, told]

structure Level (id : Uuid) (row : Ticket) (k : Nat) (w : World) : Prop where
  within : k ≤ 10
  spared : k < 10 → w.ticket id = some row
  counted : k < 10 → w.failures id = k
  waits : 3 ≤ k → k < 10 → ∃ guard failedAt, w.guard id = some guard ∧
    guard.lastFailAt = some failedAt ∧ guard.blockedUntil = some (failedAt + 5 * 60 * 1000)
  revoked : k = 10 → ∃ row', w.ticket id = some row' ∧ row'.revoked = true ∧ row'.currentState = .outside

theorem Level.same {k : Nat} (level : Level id row k w) (ticket : w'.ticket id = w.ticket id)
    (guard : w'.guard id = w.guard id) : Level id row k w' := by
  obtain ⟨within, spared, counted, waits, revoked⟩ := level
  have failures : w'.failures id = w.failures id := by
    unfold World.failures
    rw [guard]
  rw [← ticket] at spared
  rw [← failures] at counted
  rw [← guard] at waits
  rw [← ticket] at revoked
  exact ⟨within, spared, counted, waits, revoked⟩

theorem Level.struck {k : Nat} (level : Level id row k w) (few : k < 10) {risk : RiskInput} {now : Time}
    (struck : Struck w id row risk now w') : Level id row (k + 1) w' := by
  have count := level.counted few
  cases struck with
  | counted guard less same found failCount failed until_ =>
    rw [count] at less failCount until_
    refine ⟨few, fun _ => same, fun _ => ?_, fun three _ => ?_, fun ten => absurd less (ten ▸ Nat.lt_irrefl _)⟩
    · unfold World.failures
      rw [found]
      exact failCount
    · rw [if_pos (.inr three)] at until_
      exact ⟨guard, now, found, failed, until_⟩
  | revoked updatedAt many revoked =>
    rw [count] at many
    exact ⟨few, fun less => absurd less (Nat.not_lt.mpr many), fun less => absurd less (Nat.not_lt.mpr many),
      fun _ less => absurd less (Nat.not_lt.mpr many), fun _ => ⟨_, revoked, rfl, rfl⟩⟩

theorem Level.scan_cases {k : Nat} (level : Level id row k w)
    (run : Executes platform (program platform number (.scan context input)) none w (.ok (.scan reply)) tx
      w') (own : reply.ticket.id = id) (refused : reply.verdict ≠ .ok) :
    (raised reply.verdict reply.message = none ∧ w'.ticket id = w.ticket id ∧ w'.guard id = w.guard id) ∨
      k < 10 ∧ ∃ risk now, raised reply.verdict reply.message = some risk ∧ unblockedAt w id ≤ now ∧
        now ≤ w'.clock ∧ Struck w id row risk now w' := by
  subst own
  rcases Nat.lt_or_eq_of_le level.within with few | ten
  · have present := level.spared few
    have key : row.id = reply.ticket.id := Table.key_of_get? present
    cases scan_refusal run present refused with
    | turned quiet ticket guard =>
      rw [key] at ticket guard
      exact .inl ⟨quiet, ticket.trans present.symm, guard⟩
    | struck risk now told valid opened before struck =>
      rw [key] at opened struck
      exact .inr ⟨few, risk, now, told, opened, before, struck⟩
  · obtain ⟨row', present, revoked, -⟩ := level.revoked ten
    have key : row'.id = reply.ticket.id := Table.key_of_get? present
    cases scan_refusal run present refused with
    | turned quiet ticket guard =>
      rw [key] at ticket guard
      exact .inl ⟨quiet, ticket.trans present.symm, guard⟩
    | struck risk now told valid =>
      rw [revoked] at valid
      cases valid

theorem Level.scan (level : Level id row (strikes replies) w)
    (run : Executes platform (program platform number (.scan context input)) none w (.ok (.scan reply)) tx
      w') (own : reply.ticket.id = id) (refused : reply.verdict ≠ .ok) :
    Level id row (strikes (replies ++ [reply])) w' := by
  rw [strikes_append]
  rcases level.scan_cases run own refused with ⟨quiet, ticket, guard⟩ |
    ⟨few, risk, now, told, -, -, struck⟩
  · rw [strikes_quiet quiet]
    exact level.same ticket guard
  · rw [strikes_raised told]
    exact level.struck few struck

theorem refused_level (present : w.ticket id = some row) (unguarded : w.guard id = none)
    (refused : Refused platform id w replies w') : Level id row (strikes replies) w' := by
  induction refused with
  | none =>
    refine ⟨by decide, fun _ => present, fun _ => ?_, fun three => absurd three (by decide),
      fun ten => absurd ten (by decide)⟩
    unfold World.failures
    rw [unguarded]
    rfl
  | elsewhere _ elsewhere ih => exact ih.same elsewhere.ticket elsewhere.guard
  | scan _ run own refused ih => exact ih.scan run own refused

structure Paced (id : Uuid) (third : Time) (k : Nat) (w : World) : Prop where
  waited : k < 10 → ∃ guard failedAt, w.guard id = some guard ∧ guard.lastFailAt = some failedAt ∧
    guard.blockedUntil = some (failedAt + 5 * 60 * 1000) ∧ third + (k - 3) * (5 * 60 * 1000) ≤ failedAt
  revoked : k = 10 → ∃ row' revokedAt, w.ticket id = some row' ∧ row'.revokedAt = some revokedAt ∧
    third + 35 * 60 * 1000 ≤ revokedAt

theorem Paced.same {third : Time} {k : Nat} (paced : Paced id third k w)
    (ticket : w'.ticket id = w.ticket id) (guard : w'.guard id = w.guard id) : Paced id third k w' := by
  obtain ⟨waited, revoked⟩ := paced
  rw [← guard] at waited
  rw [← ticket] at revoked
  exact ⟨waited, revoked⟩

theorem pace_next {third failedAt now k period : Nat} (three : 3 ≤ k)
    (waited : third + (k - 3) * period ≤ failedAt) (blocked : failedAt + period ≤ now) :
    third + (k + 1 - 3) * period ≤ now := by
  have more : k + 1 - 3 = (k - 3) + 1 := by omega
  rw [more, Nat.succ_mul]
  omega

theorem Paced.struck {third : Time} {k : Nat} (paced : Paced id third k w) (three : 3 ≤ k) (few : k < 10)
    (count : w.failures id = k) {risk : RiskInput} {now : Time} (opened : unblockedAt w id ≤ now)
    (struck : Struck w id row risk now w') : Paced id third (k + 1) w' := by
  obtain ⟨guard₀, failedAt, found₀, -, block, waited⟩ := paced.waited few
  have passed := (Nat.max_le.mp opened).2
  rw [found₀, Option.bind_some, block, Option.getD_some] at passed
  have later := pace_next three waited passed
  cases struck with
  | counted guard less same found failCount failed until_ =>
    rw [count] at less until_
    rw [if_pos (.inr (Nat.le_succ_of_le three))] at until_
    exact ⟨fun _ => ⟨guard, now, found, failed, until_, later⟩,
      fun ten => absurd less (ten ▸ Nat.lt_irrefl _)⟩
  | revoked updatedAt many revoked =>
    rw [count] at many
    refine ⟨fun less => absurd less (Nat.not_lt.mpr many), fun ten => ⟨_, now, revoked, rfl, ?_⟩⟩
    rw [ten] at later
    exact later

theorem Paced.scan {third : Time} (paced : Paced id third (strikes replies) w)
    (level : Level id row (strikes replies) w) (three : 3 ≤ strikes replies)
    (run : Executes platform (program platform number (.scan context input)) none w (.ok (.scan reply)) tx
      w') (own : reply.ticket.id = id) (refused : reply.verdict ≠ .ok) :
    Paced id third (strikes (replies ++ [reply])) w' := by
  rw [strikes_append]
  rcases level.scan_cases run own refused with ⟨quiet, ticket, guard⟩ |
    ⟨few, risk, now, told, opened, -, struck⟩
  · rw [strikes_quiet quiet]
    exact paced.same ticket guard
  · rw [strikes_raised told]
    exact paced.struck three few (level.counted few) opened struck

theorem refused_paced {third : Time} (level : Level id row (strikes replies) w)
    (paced : Paced id third (strikes replies) w) (three : 3 ≤ strikes replies)
    {rest : List ScanPayloadDTO} (refused : Refused platform id w rest w') :
    Level id row (strikes (replies ++ rest)) w' ∧ Paced id third (strikes (replies ++ rest)) w' := by
  induction refused with
  | none =>
    rw [List.append_nil]
    exact ⟨level, paced⟩
  | elsewhere _ elsewhere ih =>
    exact ⟨ih.1.same elsewhere.ticket elsewhere.guard, ih.2.same elsewhere.ticket elsewhere.guard⟩
  | @scan more _ _ _ _ _ _ _ _ run own refused ih =>
    rw [← List.append_assoc]
    have reached : 3 ≤ strikes (replies ++ more) := by
      rw [strikes_append]
      exact Nat.le_add_right_of_le three
    exact ⟨ih.1.scan run own refused, ih.2.scan ih.1 reached run own refused⟩

end Runs

-- What the guard and the ticket say after a failure at the time `now`, the `k`-th one.
def FailedAt (id : Uuid) (k : Nat) (risk : RiskInput) (now : Time) (w w' : World) : Prop :=
  if k < 10 then
    ∃ guard, w'.guard id = some guard ∧ guard.lastFailAt = some now ∧
      guard.blockedUntil = (if 3 ≤ score risk ∨ 3 ≤ k then some (now + 5 * 60 * 1000)
        else (w.guard id).bind (·.blockedUntil))
  else ∃ row, w'.ticket id = some row ∧ row.revoked = true ∧ row.revokedAt = some now

structure Scheduled (id : Uuid) (k : Nat) (w : World) (reply : ScanPayloadDTO) (w' : World) : Prop where
  blocked : k < 10 → ∀ blockedUntil, (w.guard id).bind (·.blockedUntil) = some blockedUntil →
    w'.clock < blockedUntil → reply.verdict = .blocked
  revoked : k = 10 → reply.verdict = .revoked
  raises : ∀ risk, raised reply.verdict reply.message = some risk →
    k < 10 ∧ ∃ now, w.clock ≤ now ∧ now ≤ w'.clock ∧
      (∀ blockedUntil, (w.guard id).bind (·.blockedUntil) = some blockedUntil → blockedUntil ≤ now) ∧
      FailedAt id (k + 1) risk now w w'
  spares : reply.verdict ≠ .ok → raised reply.verdict reply.message = none →
    w'.guard id = w.guard id ∧ w'.ticket id = w.ticket id

structure Escalates (platform : Platform) (id : Uuid) (row : Ticket) (replies : List ScanPayloadDTO)
    (w : World) : Prop where
  within : strikes replies ≤ 10
  counted : strikes replies < 10 → w.failures id = strikes replies ∧ w.ticket id = some row
  revoked : (∃ row', w.ticket id = some row' ∧ row'.revoked = true) ↔ strikes replies = 10
  outside : strikes replies = 10 → ∃ row', w.ticket id = some row' ∧ row'.currentState = .outside
  next : ∀ number context input reply tx w',
    Executes platform (program platform number (.scan context input)) none w (.ok (.scan reply)) tx w' →
    reply.ticket.id = id → Scheduled id (strikes replies) w reply w'
  -- From the third failure to the tenth.
  pace : strikes replies = 3 → ∃ guard third, w.guard id = some guard ∧ guard.lastFailAt = some third ∧
    ∀ rest w', Refused platform id w rest w' → strikes (replies ++ rest) = 10 →
      ∃ row' tenth, w'.ticket id = some row' ∧ row'.revokedAt = some tenth ∧
        third + 35 * 60 * 1000 ≤ tenth

theorem Level.scheduled {row : Ticket} {k : Nat} (level : Level id row k w) (valid : row.revoked = false)
    {number : Nat} {context : RequestContext} {input : SecurityScanInput} {reply : ScanPayloadDTO}
    {tx : Option Tx}
    (run : Executes platform (program platform number (.scan context input)) none w (.ok (.scan reply)) tx
      w') (own : reply.ticket.id = id) : Scheduled id k w reply w' where
  blocked few blockedUntil until_ early := by
    subst own
    have present := level.spared few
    have key : row.id = reply.ticket.id := Table.key_of_get? present
    exact scan_before run present valid (key ▸ until_) early
  revoked ten := by
    subst own
    obtain ⟨row', present, revoked, -⟩ := level.revoked ten
    exact scan_of_revoked run present revoked
  raises risk told := by
    have refused : reply.verdict ≠ .ok := by
      intro accepted
      rw [accepted] at told
      cases told
    rcases level.scan_cases run own refused with ⟨quiet, -⟩ | ⟨few, risk', now, told', opened, before, struck⟩
    · rw [quiet] at told
      cases told
    · rw [told] at told'
      cases told'
      have passed := Nat.max_le.mp opened
      refine ⟨few, now, passed.1, before, fun blockedUntil until_ => ?_, ?_⟩
      · have over_ := passed.2
        rw [until_] at over_
        exact over_
      · have count := level.counted few
        cases struck with
        | counted guard less same found failCount failed until_ =>
          rw [count] at less until_
          rw [FailedAt, if_pos less]
          exact ⟨guard, found, failed, until_⟩
        | revoked updatedAt many revoked =>
          rw [count] at many
          rw [FailedAt, if_neg (Nat.not_lt.mpr many)]
          exact ⟨_, revoked, rfl, rfl⟩
  spares refused quiet := by
    rcases level.scan_cases run own refused with ⟨-, ticket, guard⟩ | ⟨-, risk, now, told, -⟩
    · exact ⟨guard, ticket⟩
    · rw [quiet] at told
      cases told

/-- Refused scans of a ticket escalate on schedule, by the answers of which `verifyToken` has passed
a risk on to `applyDecision`. -/
theorem refused_scans_escalate {row : Ticket} (present : w.ticket id = some row)
    (valid : row.revoked = false) (unguarded : w.guard id = none) {replies : List ScanPayloadDTO}
    (refused : Refused platform id w replies w') :
    (∀ tokenStr signature deviceId direction, Owns (verifyToken tokenStr signature deviceId direction)) ∧
      Escalates platform id row replies w' := by
  refine ⟨fun _ _ _ _ => owns_verifyToken, ?_⟩
  have level := refused_level present unguarded refused
  refine ⟨level.within, fun few => ⟨level.counted few, level.spared few⟩, ⟨?_, ?_⟩, ?_, ?_, ?_⟩
  · rintro ⟨row', found, revoked⟩
    rcases Nat.lt_or_eq_of_le level.within with few | ten
    · rw [level.spared few] at found
      cases found
      rw [valid] at revoked
      cases revoked
    · exact ten
  · intro ten
    obtain ⟨row', found, revoked, -⟩ := level.revoked ten
    exact ⟨row', found, revoked⟩
  · intro ten
    obtain ⟨row', found, -, outside⟩ := level.revoked ten
    exact ⟨row', found, outside⟩
  · exact fun number context input reply tx w'' run own => level.scheduled valid run own
  · intro three
    have few : strikes replies < 10 := by
      rw [three]
      decide
    obtain ⟨guard, third, found, failed, block⟩ := level.waits (Nat.le_of_eq three.symm) few
    have paced : Paced id third (strikes replies) w' := by
      refine ⟨fun _ => ⟨guard, third, found, failed, block, ?_⟩, fun ten => ?_⟩
      · rw [three]
        exact Nat.le_refl _
      · rw [ten] at few
        exact absurd few (Nat.lt_irrefl _)
    refine ⟨guard, third, found, failed, fun rest w'' more ten => ?_⟩
    exact (refused_paced level paced (Nat.le_of_eq three.symm) more).2.revoked ten

namespace Sample

def forgery : SecurityScanInput :=
  { entry with signature := "forged" }

def forged : Except Exn Reply × Option Tx × World :=
  (engine deployment).perform (program deployment 4 (.scan context forgery)) none
    (run prepared).shared.world

def raisedBy : Except Exn Reply → Option RiskInput
  | .ok (.scan reply) => if reply.ticket.id = ticket then raised reply.verdict reply.message else none
  | _ => none

end Sample

open Sample in
theorem refused_scans_escalate_forged :
    ∃ (row : Ticket) (reply : ScanPayloadDTO) (w' : World), strikes [reply] = 1 ∧
      Escalates deployment ticket row [reply] w' := by
  have ran : Executes deployment (program deployment 4 (.scan context forgery)) none
      (run prepared).shared.world forged.1 forged.2.1 forged.2.2 := by
    unfold forged
    exact Engine.performs (engine deployment) Ticks _ none (run prepared).shared.world
  have answer : raisedBy forged.1 = some { invalidSignature := true } := by decide +kernel
  have unrevoked : ((run prepared).shared.world.ticket ticket).any (fun row => !row.revoked) = true := by
    decide +kernel
  have unguarded : (run prepared).shared.world.guard ticket = none := by decide +kernel
  generalize forged = ended at ran answer
  obtain ⟨out, tx, w'⟩ := ended
  obtain ⟨row, present, spared⟩ := (Option.any_eq_true _ _).mp unrevoked
  have valid : row.revoked = false := by simpa using spared
  unfold raisedBy at answer
  split at answer
  next reply returned =>
    cases returned
    split at answer
    next own =>
      have refused : reply.verdict ≠ .ok := by
        intro accepted
        rw [accepted] at answer
        cases answer
      have escalates := (refused_scans_escalate present valid unguarded (.scan .none ran own refused)).2
      exact ⟨row, reply, w', strikes_raised answer, escalates⟩
    next => cases answer
  next => cases answer

end TicketService
