import TicketService.Interleaving.Sequential
import TicketService.Model.Calls
import TicketService.Refinement.Effects

set_option autoImplicit false

namespace TicketService

open Interleaving Relational ShareGuardService TicketEventRoleResolver TokenService VerifyService

variable {platform : Platform}

def Ticks : EnvAct → Prop
  | .tick _ => True
  | _ => False

abbrev Executes (platform : Platform) {α : Type} (p : Program α) (tx : Option Tx) (w : World)
    (out : Except Exn α) (tx' : Option Tx) (w' : World) : Prop :=
  Alone (engine platform) Ticks p tx w out tx' w'

theorem ticks_store (action : EnvAct) (w : World) (ticks : Ticks action) :
    (action.apply w).store = w.store := by
  cases action with
  | tick => rfl
  | expire => exact ticks.elim
  | sign => exact ticks.elim

def Stmt.keepsStore : Stmt → Bool
  | .ticketUpdate .prisma _ _ => false
  | .shareGuardUpsert _ => false
  | .shareGuardUpdate .. => false
  | .rawSetIfAbsent .. => false
  | .accessUpsert .. => false
  | .roleUpsert _ => false
  | .roleDeleteMany _ => false
  | .settingsUpsert .. => false
  | .settingsDeleteMany _ => false
  | .accessDeleteMany _ => false
  | _ => true

def KeepsStore (stmt : Stmt) : Prop :=
  stmt.keepsStore = true

theorem exec_keepsStore {stmt : Stmt} {w w' : World} {tx tx' : Option Tx} {result : stmt.Res}
    (keeps : KeepsStore stmt) (executed : exec platform stmt w tx = some (result, w', tx')) :
    w'.store = w.store := by
  cases exec_effect executed with
  | reads stmt result => rfl
  | mints payload token => rfl
  | sends message => rfl
  | writes stmt result t added opened locked logged => rfl
  | _ => cases keeps

section Quiet

open Prog AnalyticsOutboxService ScanService

variable {α : Type} {ticket : Ticket}

abbrev Quiet {α : Type} (p : Program α) : Prop :=
  p.Leaves KeepsStore

theorem quiet_issue {stmt : Stmt} (keeps : KeepsStore stmt) : Quiet (issue stmt) :=
  Leaves.perform keeps

theorem quiet_discard {stmt : Stmt} (keeps : KeepsStore stmt) : Quiet (discard stmt) :=
  Leaves.bind (quiet_issue keeps) fun _ => trivial

def Silent (stmt : Stmt) : Prop :=
  KeepsStore stmt ∧ ∀ message, stmt ≠ .send message

theorem silent_issue {stmt : Stmt} (silent : Silent stmt) : (issue stmt).Leaves Silent :=
  Leaves.perform silent

theorem silent_enqueue {context : RequestContext} {id : Uuid} {topic : FactTopic} {fact : FactInput} :
    (enqueue platform context id topic fact).Leaves Silent := by
  unfold enqueue
  split
  · trivial
  · refine Leaves.bind (silent_issue ⟨rfl, nofun⟩) fun _ => ?_
    split
    · exact Leaves.bind (silent_issue ⟨rfl, nofun⟩) fun _ => trivial
    · trivial

theorem silent_getPermissionsForUser {userId eventId : Uuid} :
    (getPermissionsForUser platform userId eventId).Leaves Silent := by
  refine Leaves.bind (silent_issue ⟨rfl, nofun⟩) fun access => ?_
  cases access with
  | some access => trivial
  | none => exact Leaves.bind (Leaves.bind (silent_issue ⟨rfl, nofun⟩) fun _ => trivial) fun _ => trivial

theorem silent_assertManageTicket {eventId actorId : Uuid} :
    (TicketWriteService.assertManageTicket platform eventId actorId).Leaves Silent := by
  refine Leaves.bind silent_getPermissionsForUser fun permissions => ?_
  split <;> trivial

theorem quiet_enqueue {context : RequestContext} {id : Uuid} {topic : FactTopic}
    {fact : FactInput} : Quiet (enqueue platform context id topic fact) :=
  silent_enqueue.mono fun _ silent => silent.1

theorem quiet_getPermissionsForUser {userId eventId : Uuid} :
    Quiet (getPermissionsForUser platform userId eventId) :=
  silent_getPermissionsForUser.mono fun _ silent => silent.1

theorem quiet_checkedInAt {state : PresenceState} : Quiet (checkedInAt ticket state) := by
  cases state with
  | inside => exact Leaves.bind (quiet_issue rfl) fun _ => trivial
  | outside => trivial

theorem quiet_eventEnded {direction : GateDirection} : Quiet (eventEnded ticket direction) := by
  cases direction with
  | exit => trivial
  | entry =>
    refine Leaves.bind (quiet_issue rfl) fun settings => ?_
    split
    · trivial
    · exact Leaves.bind (quiet_issue rfl) fun _ => trivial

theorem quiet_isBlocked {ticketId : Uuid} : Quiet (isBlocked ticketId) := by
  refine Leaves.bind (quiet_issue rfl) fun guard => ?_
  split
  · trivial
  · exact Leaves.bind (quiet_issue rfl) fun _ => trivial

end Quiet

section Answers

variable {α : Type} {w : World}

abbrev Answers (platform : Platform) {α : Type} (p : Program α) (w : World) (out : Except Exn α) :
    Prop :=
  Interleaving.Answers (engine platform) Ticks World.store .statementFailed p w.store out

theorem free_plain {stmt : Stmt} (plain : autocommit stmt = false) (w : World) (tx : Option Tx) :
    (engine platform).Free stmt w tx := by
  intro auto
  have auto' : autocommit stmt = true := auto
  rw [plain] at auto'
  cases auto'

theorem answers_issue {stmt : Stmt} {value : stmt.Res} (plain : autocommit stmt = false)
    (reading : ∀ w' tx, w'.store = w.store → exec platform stmt w' tx = some (value, w', tx)) :
    Answers platform (issue stmt) w (.ok value) :=
  Interleaving.Answers.perform ticks_store (free_plain plain) reading

theorem answers_done (value : α) : Answers platform (.done value) w (.ok value) :=
  Interleaving.Answers.done ticks_store value

theorem answers_throw (error : Exn) :
    Answers platform (.throw error : Program α) w (.error error) :=
  Interleaving.Answers.throw ticks_store error

-- The permissions that `getPermissionsForUser` computes from the projections.
def permissionsOf (platform : Platform) (w : World) (userId eventId : Uuid) :
    List EventPermissionKey :=
  match w.access eventId userId with
  | some access => platform.uniqueEventPermissions access.permissions
  | none => platform.getDefaultPermissionsForEventRole ((w.role eventId userId).map (·.role))

theorem answers_getRoleForUser (userId eventId : Uuid) :
    Answers platform (getRoleForUser userId eventId) w
      (.ok ((w.role eventId userId).map (·.role))) := by
  have read : Answers platform (issue (.roleFindUnique eventId userId)) w
      (.ok (w.role eventId userId)) :=
    answers_issue rfl fun w' tx same => by
      simp only [exec, World.role, ← same]
      rfl
  exact read.bind (answers_done _)

theorem answers_getPermissionsForUser (userId eventId : Uuid) :
    Answers platform (getPermissionsForUser platform userId eventId) w
      (.ok (permissionsOf platform w userId eventId)) := by
  have read : Answers platform (issue (.accessFindUnique eventId userId)) w
      (.ok (w.access eventId userId)) :=
    answers_issue rfl fun w' tx same => by
      simp only [exec, World.access, ← same]
      rfl
  unfold permissionsOf
  cases found : w.access eventId userId with
  | some access =>
    rw [found] at read
    exact read.bind (answers_done _)
  | none =>
    rw [found] at read
    exact read.bind ((answers_getRoleForUser userId eventId).bind (answers_done _))

end Answers

variable {α β : Type} {tx tx' : Option Tx} {w w' : World}

section Ticks

-- Time has passed.
def Ticked (w w' : World) : Prop :=
  ∃ ms, w' = { w with clock := w.clock + ms }

theorem Ticked.refl (w : World) : Ticked w w := ⟨0, rfl⟩

theorem Ticked.trans {w₁ w₂ w₃ : World} (first : Ticked w₁ w₂) (second : Ticked w₂ w₃) :
    Ticked w₁ w₃ := by
  obtain ⟨ms, rfl⟩ := first
  obtain ⟨ms', rfl⟩ := second
  exact ⟨ms + ms', by simp [Nat.add_assoc]⟩

theorem Ticked.of_later (later : Alone.Later (engine platform) Ticks w w') : Ticked w w' := by
  induction later with
  | refl => exact .refl w
  | tail _ last ih =>
    obtain ⟨action, ticks, rfl⟩ := last
    cases action with
    | tick ms => exact ih.trans ⟨ms, rfl⟩
    | expire => exact ticks.elim
    | sign => exact ticks.elim

theorem Ticked.store (ticked : Ticked w w') : w'.store = w.store := by
  obtain ⟨ms, rfl⟩ := ticked
  rfl

theorem Ticked.signatures (ticked : Ticked w w') : w'.signatures = w.signatures := by
  obtain ⟨ms, rfl⟩ := ticked
  rfl

theorem Ticked.clock (ticked : Ticked w w') : w.clock ≤ w'.clock := by
  obtain ⟨ms, rfl⟩ := ticked
  exact Nat.le_add_right _ _

theorem Ticked.ticket (ticked : Ticked w w') (id : Uuid) : w'.ticket id = w.ticket id := by
  simp [World.ticket, ticked.store]

theorem Ticked.guard (ticked : Ticked w w') (id : Uuid) : w'.guard id = w.guard id := by
  simp [World.guard, ticked.store]

theorem Ticked.verified (ticked : Ticked w w') {token : String} {payload : QrPayload}
    (verified : w'.verified token = some payload) : w.verified token = some payload := by
  have later := ticked.clock
  obtain ⟨ms, rfl⟩ := ticked
  obtain ⟨m, found, valid⟩ := Option.bind_eq_some_iff.mp verified
  refine Option.bind_eq_some_iff.mpr ⟨m, found, ?_⟩
  have earlier : w.epoch ≤ World.epoch { w with clock := w.clock + ms } := Nat.div_le_div_right later
  split at valid
  next fresh =>
    have fresh' : w.epoch < m.iat + 60 := by omega
    rw [if_pos fresh']
    exact valid
  next => cases valid

end Ticks

section Cases

variable {stmt : Stmt} {value : World → stmt.Res} {next : stmt.Res → Program β} {result : β}

theorem bind_returns {p : Program α} {f : α → Program β}
    (run : Executes platform (p.bind f) tx w (.ok result) tx' w') :
    ∃ value tx₁ w₁, Executes platform p tx w (.ok value) tx₁ w₁ ∧
      Executes platform (f value) tx₁ w₁ (.ok result) tx' w' := by
  rcases run.bind_cases with ⟨error, ended, -⟩ | both
  · cases ended
  · exact both

theorem stmt_returns (run : Executes platform ((issue stmt).bind next) tx w (.ok result) tx' w') :
    ∃ value tx₁ w₁ w₂ w₃, Ticked w w₁ ∧ exec platform stmt w₁ tx = some (value, w₂, tx₁) ∧
      Ticked w₂ w₃ ∧ Executes platform (next value) tx₁ w₃ (.ok result) tx' w' := by
  obtain ⟨first, tx₁, w₃, run, rest⟩ := bind_returns run
  rcases run.perform_cases with ⟨ended, -⟩ | ⟨first', w₁, w₂, ended, before, executed, after⟩
  · cases ended
  · cases ended
    exact ⟨first, tx₁, w₁, w₂, w₃, .of_later before, executed, .of_later after, rest⟩

theorem issue_returns (reading : ∀ w, exec platform stmt w tx = some (value w, w, tx))
    (run : Executes platform ((issue stmt).bind next) tx w (.ok result) tx' w') :
    ∃ w₁ w₂, Ticked w w₁ ∧ Ticked w₁ w₂ ∧
      Executes platform (next (value w₁)) tx w₂ (.ok result) tx' w' := by
  obtain ⟨first, tx₁, w₁, w₂, w₃, before, executed, after, rest⟩ := stmt_returns run
  rw [reading w₁] at executed
  cases executed
  exact ⟨w₁, w₃, before, after, rest⟩

theorem done_returns {value result : α}
    (run : Executes platform (.done value) tx w (.ok result) tx' w') :
    result = value ∧ tx' = tx ∧ Ticked w w' := by
  obtain ⟨ended, closed, after⟩ := run.done_cases
  cases ended
  exact ⟨rfl, closed, .of_later after⟩

theorem throw_returns {error : Exn} {result : α}
    (run : Executes platform (.throw error) tx w (.ok result) tx' w') : False := by
  obtain ⟨ended, -⟩ := run.throw_cases
  cases ended

theorem transaction_returns {body : Program α} {value : α}
    (run : Executes platform (transaction body) tx w (.ok value) tx' w') :
    tx' = none ∧ ∃ t w₁ w₂ w₃, Ticked w w₁ ∧
      Executes platform body (some ⟨[]⟩) w₁ (.ok value) (some t) w₂ ∧ Ticked w₂ w₃ ∧
      Ticked { w₃ with store := t.apply w₃.store } w' := by
  obtain ⟨w₁, first, run⟩ := run.start_cases
  obtain ⟨value', tx₂, w₂, body, commit⟩ := bind_returns run
  obtain ⟨w₃, later, aborted | ⟨t, rfl, committed⟩⟩ := commit.commit_cases
  · exact (throw_returns aborted).elim
  · obtain ⟨rfl, rfl, last⟩ := done_returns committed
    exact ⟨rfl, t, w₁, w₂, w₃, .of_later first, body, .of_later later, last⟩

end Cases

-- When the ticket is not blocked, at the earliest.
def unblockedAt (w : World) (ticketId : Uuid) : Time :=
  max w.clock (((w.guard ticketId).bind (·.blockedUntil)).getD 0)

-- `verifyToken` once it has read the ticket.
def verifyTicket (ticket : Ticket) (payload : QrPayload) (input : SecurityScanInput) :
    Program VerifyResult :=
  if ticket.revoked then
    .done
      { ticket, payload, verdict := .revoked
        message := ticket.revokedReason.getD (scanMessages .revoked) }
  else (isBlocked ticket.id).bind fun blocked =>
    if blocked then .done { ticket, payload, verdict := .blocked, message := scanMessages .blocked }
    else checkDevice ticket payload input.token input.signature input.deviceId input.direction

section Runs

variable {input : SecurityScanInput} {payload : QrPayload} {ticket : Ticket}
  {result : VerifyResult} {t : Tx} {context : RequestContext}

theorem Quiet.store {p : Program α} {out : Except Exn α} (quiet : Quiet p)
    (run : Executes platform p tx w out tx' w') : w'.store = w.store :=
  Alone.leaves (fun _ _ _ _ _ _ keeps executed => exec_keepsStore keeps executed) ticks_store run
    quiet

theorem quiet_recordScan {uuid : Nat → Uuid} :
    Quiet (ScanService.recordScan platform uuid context input result) := by
  refine Prog.Leaves.bind (quiet_issue rfl) fun _ => Prog.Leaves.bind quiet_enqueue fun _ => ?_
  split
  · exact Prog.Leaves.bind quiet_enqueue fun _ => trivial
  · trivial

theorem verifyToken_returns
    (run : Executes platform (verifyToken input.token input.signature input.deviceId
      input.direction) (some t) w (.ok result) tx' w') (empty : t = ⟨[]⟩) :
    ∃ payload ticket w₁, w.verified input.token = some payload ∧
      w.ticket payload.tid = some ticket ∧ Ticked w w₁ ∧
      Executes platform (verifyTicket ticket payload input) (some t) w₁ (.ok result) tx' w' := by
  subst empty
  rcases run.bind_cases with ⟨_, ended, -⟩ | ⟨payload, tx₁, w₁, run, rest⟩
  · cases ended
  obtain ⟨wv, w₂, first, then₂, run⟩ := issue_returns (fun _ => rfl) run
  split at run
  next payload' verified =>
    obtain ⟨rfl, rfl, then₁⟩ := done_returns run
    obtain ⟨wf, w₃, first', then₃, rest⟩ := issue_returns (fun _ => rfl) rest
    have before : Ticked w wf := first.trans (then₂.trans (then₁.trans first'))
    split at rest
    next => exact (throw_returns rest).elim
    next ticket found =>
      have there : wf.ticket payload.tid = some ticket := found
      rw [before.ticket] at there
      exact ⟨payload, ticket, w₃, first.verified verified, there, before.trans then₃, rest⟩
  next => exact (throw_returns run).elim

theorem isBlocked_returns {ticketId : Uuid}
    (run : Executes platform (isBlocked ticketId) tx w (.ok false) tx' w') :
    tx' = tx ∧ Ticked w w' ∧ unblockedAt w ticketId ≤ w'.clock := by
  obtain ⟨w₁, w₂, first, then₂, run⟩ := issue_returns (fun _ => rfl) run
  split at run
  next free =>
    obtain ⟨-, rfl, then₃⟩ := done_returns run
    have after := first.trans (then₂.trans then₃)
    rw [first.guard] at free
    exact ⟨rfl, after, by simpa [unblockedAt, free] using after.clock⟩
  next blockedUntil until_ =>
    obtain ⟨w₃, w₄, then₃, then₄, run⟩ := issue_returns (fun _ => rfl) run
    obtain ⟨open_, rfl, then₅⟩ := done_returns run
    have before := first.trans (then₂.trans then₃)
    have after := before.trans (then₄.trans then₅)
    have clock : w₃.clock ≤ w'.clock := (then₄.trans then₅).clock
    have passed : blockedUntil ≤ w₃.clock := by simpa using open_
    have begun := before.clock
    rw [first.guard] at until_
    refine ⟨rfl, after, ?_⟩
    simp only [unblockedAt, until_, Option.getD_some]
    exact Nat.max_le.mpr ⟨Nat.le_trans begun clock, Nat.le_trans passed clock⟩

theorem getPermissionsForUser_returns {userId eventId : Uuid} {permissions : List EventPermissionKey}
    (run : Executes platform (getPermissionsForUser platform userId eventId) tx w (.ok permissions)
      tx' w') : permissions = permissionsOf platform w userId eventId := by
  rcases (answers_getPermissionsForUser userId eventId).only w tx _ tx' w' rfl run with
    failed | ⟨returned, -⟩
  · cases failed
  · cases returned
    rfl

end Runs

section Writes

variable {ticket : Ticket} {ticketId : Uuid}

theorem free_unwritten (stmt : Stmt) (w : World) :
    (engine platform).Free stmt w (some ⟨[]⟩) := by
  intro _ l _ l' held
  cases held

theorem executes_issue {stmt : Stmt} {result : stmt.Res}
    (executed : exec platform stmt w (some ⟨[]⟩) = some (result, w', tx')) :
    Executes platform (issue stmt) (some ⟨[]⟩) w (.ok result) tx' w' :=
  .perform (free_unwritten stmt w) executed

theorem exec_shareGuardUpsert (platform : Platform) (tx : Option Tx)
    (present : (w.ticket ticketId).isSome) :
    ∃ (guard : ShareGuard) (w₁ : World),
      exec platform (.shareGuardUpsert ticketId) w tx = some (guard, w₁, tx) ∧
      w₁.store.tickets = w.store.tickets ∧ w₁.guard ticketId = some guard ∧
      (w.guard ticketId = some guard ∨ w.guard ticketId = none) := by
  cases found : w.guard ticketId with
  | some guard =>
    refine ⟨guard, w, ?_, rfl, found, .inl rfl⟩
    simp only [exec, found, reads]
    rfl
  | none =>
    let row := ShareGuard.created ticketId
    refine ⟨row, { w with store := { w.store with shareGuards := w.store.shareGuards.insert row } },
      ?_, rfl, ?_, .inr rfl⟩
    · simp only [exec, found, present, if_true, stores, row]
      rfl
    · have absent : w.store.shareGuards.get? ticketId = none := found
      simp [World.guard, Table.get?_insert, row, ShareGuard.created, absent]

theorem executes_resetShareGuard (platform : Platform) (ticketId : Uuid) (w : World) :
    ∃ result shareGuards, Executes platform (resetShareGuard ticketId) (some ⟨[]⟩) w (.ok result)
      (some ⟨[]⟩) { w with store.shareGuards := shareGuards } := by
  have read : Executes platform (issue (.shareGuardFindUnique ticketId)) (some ⟨[]⟩) w
      (.ok (w.guard ticketId)) (some ⟨[]⟩) w := executes_issue rfl
  cases found : w.guard ticketId with
  | none =>
    rw [found] at read
    exact ⟨none, w.store.shareGuards, .bind read (.done _ _ _)⟩
  | some guard =>
    rw [found] at read
    let shareGuards := w.store.shareGuards.put (guard.updated cleared)
    have executed : exec platform (.shareGuardUpdate ticketId cleared) w (some ⟨[]⟩) =
        some (guard.updated cleared, { w with store.shareGuards := shareGuards }, some ⟨[]⟩) := by
      simp only [exec, found, Option.bind_some, stores, shareGuards]
      rfl
    exact ⟨_, shareGuards, .bind read (.bind (executes_issue executed) (.done _ _ _))⟩

theorem executes_rotateNonce (platform : Platform) (ticket : Ticket) (payload : QrPayload)
    (state : PresenceState) (w : World) :
    ∃ result tx₁, Executes platform (rotateNonce ticket payload state) (some ⟨[]⟩) w
      (.ok result) tx₁ w := by
  have checked : ∃ at_, Executes platform (checkedInAt ticket state) (some ⟨[]⟩) w (.ok at_)
      (some ⟨[]⟩) w := by
    cases state with
    | inside => exact ⟨some w.clock, .bind (executes_issue rfl) (.done _ _ _)⟩
    | outside => exact ⟨ticket.checkedInAt, .done _ _ _⟩
  obtain ⟨at_, checked⟩ := checked
  have rest (count : Nat) (t : Option Tx) : ∃ result, Executes platform
      (if count = 0 then
        .done { ticket, payload, verdict := .replay, message := "Nonce race condition detected" }
      else (issue .now).bind fun (updatedAt : Time) => .done
        { ticket :=
            { ticket with
              toTicketState := acceptedState payload state at_ ticket.toTicketState
              updatedAt := some updatedAt }
          payload, verdict := .ok, message := scanMessages .ok } : Program VerifyResult)
      t w (.ok result) t w := by
    split
    · exact ⟨_, .done _ _ _⟩
    · exact ⟨_, .bind (.perform (free_plain rfl w t) rfl) (.done _ _ _)⟩
  have updated : Executes platform (issue (.ticketUpdateMany
      (fun row => row.id = ticket.id ∧ row.nextNonce = some payload.dn)
      (acceptedState payload state at_))) (some ⟨[]⟩) w _ _ w := executes_issue rfl
  obtain ⟨result, rest⟩ := rest _ _
  exact ⟨result, _, .bind checked (.bind updated rest)⟩

theorem executes_eventEnded {direction : GateDirection}
    (runs : direction = .exit ∨ ∀ endsAt,
      (w.settings ticket.eventId).bind (·.endsAt) = some endsAt → w.clock ≤ endsAt) :
    Executes platform (eventEnded ticket direction) (some ⟨[]⟩) w (.ok false) (some ⟨[]⟩) w := by
  cases direction with
  | exit => exact .done _ _ _
  | entry =>
    have open_ := runs.resolve_left (by simp)
    have read : Executes platform (issue (.settingsFindUnique ticket.eventId)) (some ⟨[]⟩) w
        (.ok (w.settings ticket.eventId)) (some ⟨[]⟩) w := executes_issue rfl
    refine .bind read ?_
    split
    · exact .done _ _ _
    next endsAt found =>
      have running : ¬endsAt < w.clock := Nat.not_lt.mpr (open_ endsAt found)
      have now : Executes platform (issue .now) (some ⟨[]⟩) w (.ok w.clock) (some ⟨[]⟩) w :=
        executes_issue rfl
      have answer : decide (endsAt < w.clock) = false := decide_eq_false running
      refine .bind now ?_
      rw [answer]
      exact .done _ _ _

theorem executes_isBlocked :
    Executes platform (isBlocked ticketId) (some ⟨[]⟩) w (.ok false) (some ⟨[]⟩)
      { w with clock := unblockedAt w ticketId } := by
  have read : Executes platform (issue (.shareGuardFindUnique ticketId)) (some ⟨[]⟩) w
      (.ok (w.guard ticketId)) (some ⟨[]⟩) w := executes_issue rfl
  refine .bind read ?_
  unfold unblockedAt
  split
  next free =>
    have clock : max w.clock 0 = w.clock := Nat.max_zero _
    rw [free, Option.getD_none, clock]
    exact .done _ _ _
  next blockedUntil until_ =>
    -- The scan goes on when the block is over.
    refine .environ (.tick (max w.clock blockedUntil - w.clock)) trivial ?_
    have clock : w.clock + (max w.clock blockedUntil - w.clock) = max w.clock blockedUntil :=
      Nat.add_sub_of_le (Nat.le_max_left _ _)
    have passed : decide (max w.clock blockedUntil < blockedUntil) = false :=
      decide_eq_false (Nat.not_lt.mpr (Nat.le_max_right _ _))
    simp only [engine, EnvAct.apply, clock, until_, Option.getD_some]
    let now_ : Time := max w.clock blockedUntil
    have now : Executes platform (issue .now) (some ⟨[]⟩) { w with clock := now_ } (.ok now_)
        (some ⟨[]⟩) { w with clock := now_ } := executes_issue rfl
    refine .bind now ?_
    rw [passed]
    exact .done _ _ _

theorem executes_verifyToken {input : SecurityScanInput} {payload : QrPayload} {result : VerifyResult}
    (verified : w.verified input.token = some payload) (found : w.ticket payload.tid = some ticket)
    (verifies : Executes platform (verifyTicket ticket payload input) (some ⟨[]⟩) w (.ok result) tx' w') :
    Executes platform (verifyToken input.token input.signature input.deviceId input.direction) (some ⟨[]⟩)
      w (.ok result) tx' w' := by
  have token : Executes platform (verify input.token) (some ⟨[]⟩) w (.ok payload) (some ⟨[]⟩) w := by
    have read : Executes platform (issue (.tokenVerify input.token)) (some ⟨[]⟩) w
        (.ok (w.verified input.token)) (some ⟨[]⟩) w := executes_issue rfl
    rw [verified] at read
    exact .bind read (.done _ _ _)
  have row : Executes platform (issue (.ticketFindUnique .tx payload.tid)) (some ⟨[]⟩) w
      (.ok (w.ticket payload.tid)) (some ⟨[]⟩) w := executes_issue rfl
  rw [found] at row
  exact .bind token (.bind row verifies)

end Writes

end TicketService
