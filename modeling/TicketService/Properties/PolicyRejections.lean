import TicketService.Interleaving.Mirror
import TicketService.Refinement.Accepts
import TicketService.Refinement.Statements

set_option autoImplicit false

namespace TicketService

open Interleaving Relational ScanService TicketEventRoleResolver VerifyService

variable {platform : Platform} {w w' : World} {input : SecurityScanInput}

section Unread

def World.after (v w : World) : World :=
  { v with
    store.scanLogs := w.store.scanLogs ++ v.store.scanLogs
    store.analyticsOutbox := w.store.analyticsOutbox ++ v.store.analyticsOutbox
    sent := w.sent ++ v.sent }

def World.unlogged (w : World) : World :=
  { w with store.scanLogs := [], store.analyticsOutbox := [], sent := [] }

theorem unlogged_after (w : World) : w.unlogged.after w = w := by
  simp [World.unlogged, World.after]

def Stmt.blind : Stmt → Bool
  | .tokenVerify _ => true
  | .ticketFindUnique .tx _ => true
  | stmt => stmt.proceeds

theorem blind_of_proceeds {stmt : Stmt} (proceeds : stmt.proceeds = true) : stmt.blind = true := by
  cases stmt with
  | tokenVerify => rfl
  | ticketFindUnique => cases proceeds
  | _ => exact proceeds

def Write.adds : Write → Bool
  | .putTicket .. => true
  | .insertScanLog _ => true
  | .insertOutbox _ => true
  | _ => false

def Tx.adds (tx : Tx) : Prop :=
  ∀ write ∈ tx.writes, write.adds = true

theorem Write.apply_after {write : Write} (adds : write.adds = true) (v w : World) :
    write.apply (v.after w).store = (World.after { v with store := write.apply v.store } w).store := by
  cases write with
  | putTicket id state updatedAt =>
    simp only [Write.apply, Store.putTicket, World.after]
    split <;> rfl
  | insertScanLog row => simp [Write.apply, World.after]
  | insertOutbox row => simp [Write.apply, World.after]
  | _ => cases adds

theorem Tx.apply_after {tx : Tx} (adds : tx.adds) (v w : World) :
    tx.apply (v.after w).store = (World.after { v with store := tx.apply v.store } w).store := by
  obtain ⟨writes⟩ := tx
  unfold Tx.apply
  induction writes generalizing v with
  | nil => rfl
  | cons write writes ih =>
    simp only [List.foldl_cons]
    rw [Write.apply_after (adds write (List.mem_cons_self ..))]
    exact ih { v with store := write.apply v.store }
      fun other member => adds other (List.mem_cons_of_mem _ member)

theorem view_after {tx : Option Tx} (adds : ∀ t ∈ tx, t.adds) (v w : World) :
    (v.after w).view tx = (v.view tx).after w := by
  cases tx with
  | none => rfl
  | some tx =>
    simp only [World.view, Tx.apply_after (adds tx rfl)]
    rfl

theorem writes_adds {β : Type} {value result : β} {added : List Write} {tx tx' : Option Tx} {v v' : World}
    (suits : ∀ t ∈ tx, t.adds) (adds : ∀ write ∈ added, write.adds = true)
    (executed : writes value added v tx = some (result, v', tx')) : ∀ t ∈ tx', t.adds := by
  obtain ⟨t, there, same⟩ := Option.map_eq_some_iff.mp executed
  cases same
  rintro _ ⟨⟩ write member
  rcases List.mem_append.mp member with before | new
  · exact suits t there write before
  · exact adds write new

section Blind

variable {stmt : Stmt} {v v' w : World} {tx tx' : Option Tx} {result : stmt.Res}

theorem exec_after (blind : stmt.blind = true) (suits : ∀ t ∈ tx, t.adds) :
    exec platform stmt (v.after w) tx =
      (exec platform stmt v tx).map fun (result, v', tx') => (result, v'.after w, tx') := by
  have view := view_after suits v w
  have ticket (id : Uuid) : ((v.after w).view tx).ticket id = (v.view tx).ticket id := by rw [view]; rfl
  cases stmt with
  | ticketFindUnique client id =>
    cases client with
    | tx => simp only [exec, World.clientView, ticket]; rfl
    | prisma => cases blind
  | ticketUpdate client id data =>
    cases client with
    | tx => cases blind
    | prisma =>
      have same : (v.after w).ticket id = v.ticket id := rfl
      simp only [exec, same]
      cases v.ticket id with
      | none => rfl
      | some row =>
        have put := @Write.apply_after (.putTicket id (data row.toTicketState) v.clock) rfl v w
        simp only [Option.bind_some, stores, Option.map_some]
        exact congrArg some (congrArg (Prod.mk _) (congrArg (·, tx)
          (congrArg (fun store => { v.after w with store }) put)))
  | ticketUpdateMany filter data =>
    have matching : ((v.after w).view tx).matching filter = (v.view tx).matching filter := by
      rw [view]; rfl
    simp only [exec, matching, writes]
    cases tx <;> rfl
  | scanLogCreate row =>
    have clock : (v.after w).clock = v.clock := rfl
    simp only [exec, ticket, clock]
    split
    · cases tx <;> rfl
    · rfl
  | shareGuardUpsert ticketId =>
    have same : (v.after w).guard ticketId = v.guard ticketId := rfl
    have there : (v.after w).ticket ticketId = v.ticket ticketId := rfl
    simp only [exec, same, there]
    split
    · rfl
    · split <;> rfl
  | shareGuardUpdate ticketId data =>
    have same : (v.after w).guard ticketId = v.guard ticketId := rfl
    simp only [exec, same]
    cases v.guard ticketId <;> rfl
  | outboxCreate row => cases tx <;> rfl
  | rawSetIfAbsent ticketId nonce seconds =>
    have same : (v.after w).replayKeyLive ticketId nonce = v.replayKeyLive ticketId nonce := rfl
    simp only [exec, same]
    split <;> rfl
  | send message => simp [exec, World.after]
  | _ => first | rfl | cases blind

theorem adds_of_blind (blind : stmt.blind = true) (suits : ∀ t ∈ tx, t.adds)
    (executed : exec platform stmt v tx = some (result, v', tx')) : ∀ t ∈ tx', t.adds := by
  cases stmt with
  | ticketUpdate client id data =>
    cases client with
    | tx => cases blind
    | prisma =>
      obtain ⟨row, -, stored⟩ := Option.bind_eq_some_iff.mp executed
      cases stored
      exact suits
  | ticketFindUnique client id =>
    cases executed
    exact suits
  | ticketUpdateMany filter data => exact writes_adds suits (by simp [Write.adds]) executed
  | scanLogCreate row =>
    simp only [exec] at executed
    split at executed
    · exact writes_adds suits (by simp [Write.adds]) executed
    · cases executed
  | shareGuardUpsert ticketId =>
    simp only [exec] at executed
    split at executed
    · cases executed
      exact suits
    · split at executed
      · cases executed
        exact suits
      · cases executed
  | shareGuardUpdate ticketId data =>
    obtain ⟨row, -, stored⟩ := Option.bind_eq_some_iff.mp executed
    cases stored
    exact suits
  | outboxCreate row => exact writes_adds suits (by simp [Write.adds]) executed
  | rawSetIfAbsent ticketId nonce seconds =>
    simp only [exec] at executed
    split at executed
    · cases executed
      exact suits
    · cases executed
      exact suits
  | _ =>
    cases blind <;>
    · cases executed
      exact suits

end Blind

theorem mirrors_after (platform : Platform) (w : World) :
    (engine platform).Mirrors Ticks (·.after w) (fun stmt : Stmt => stmt.blind = true) Tx.adds where
  fresh := by simp [engine, Tx.adds]
  needs stmt v tx blind suits := by
    cases stmt with
    | ticketUpdate client id data =>
      cases client with
      | tx => cases blind
      | prisma => rfl
    | ticketUpdateMany filter data => simp only [engine, needs, view_after suits]; rfl
    | _ => first | rfl | cases blind
  exec _ _ _ blind suits := exec_after blind suits
  kept _ _ _ _ _ _ blind suits executed := adds_of_blind blind suits executed
  publish t v suits := by
    simp only [engine, Tx.apply_after suits]
    rfl
  environ action v ticks := by
    cases action with
    | tick ms => rfl
    | _ => exact ticks.elim

end Unread

section Turned

-- Policy turns the guest away; a device mismatch counts where no device key is bound.
def ScanPayloadDTO.byPolicy (reply : ScanPayloadDTO) : Bool :=
  match reply.verdict with
  | .revoked => true
  | .blocked => true
  | .alreadyInside => true
  | .notInside => true
  | .expiredEvent => true
  | .deviceMismatch => truthy reply.ticket.devicePublicKey = none
  | _ => false

inductive Turned (platform : Platform) : World → List (SecurityScanInput × ScanPayloadDTO) → World → Prop where
  | none {w w' : World} : Ticked w w' → Turned platform w [] w'
  | scan {w w₁ w' : World} {number : Nat} {context : RequestContext} {input : SecurityScanInput}
    {reply : ScanPayloadDTO} {tx : Option Tx} {rest : List (SecurityScanInput × ScanPayloadDTO)} :
    Executes platform (program platform number (.scan context input)) none w (.ok (.scan reply)) tx w₁ →
    reply.byPolicy = true → Turned platform w₁ rest w' → Turned platform w ((input, reply) :: rest) w'

def Unseen (w w' : World) : Prop :=
  w.clock ≤ w'.clock ∧ ∃ logs facts, w' =
    { w with
      clock := w'.clock
      store.scanLogs := w.store.scanLogs ++ logs
      store.analyticsOutbox := w.store.analyticsOutbox ++ facts }

theorem Unseen.of_ticked (ticked : Ticked w w') : Unseen w w' := by
  refine ⟨ticked.clock, [], [], ?_⟩
  obtain ⟨ms, rfl⟩ := ticked
  simp

theorem Unseen.trans {w₁ w₂ w₃ : World} (first : Unseen w₁ w₂) (second : Unseen w₂ w₃) :
    Unseen w₁ w₃ := by
  obtain ⟨begun, logs, facts, same⟩ := first
  obtain ⟨later, logs', facts', same'⟩ := second
  refine ⟨Nat.le_trans begun later, logs ++ logs', facts ++ facts', ?_⟩
  rw [same', same]
  simp

theorem Unseen.ticket (unseen : Unseen w w') (id : Uuid) : w'.ticket id = w.ticket id := by
  obtain ⟨-, logs, facts, same⟩ := unseen
  rw [same]
  rfl

theorem Unseen.guard (unseen : Unseen w w') (id : Uuid) : w'.guard id = w.guard id := by
  obtain ⟨-, logs, facts, same⟩ := unseen
  rw [same]
  rfl

theorem Unseen.signatures (unseen : Unseen w w') : w'.signatures = w.signatures := by
  obtain ⟨-, logs, facts, same⟩ := unseen
  rw [same]

theorem Unseen.verified (unseen : Unseen w w') {token : String} {payload : QrPayload}
    (verified : w'.verified token = some payload) : w.verified token = some payload := by
  obtain ⟨clock, logs, facts, same⟩ := unseen
  have ticked : Ticked w { w with clock := w'.clock } :=
    ⟨w'.clock - w.clock, by rw [Nat.add_sub_of_le clock]⟩
  rw [same] at verified
  exact ticked.verified verified

theorem Exits.policy {payload : QrPayload} {ticket : Ticket} {result : VerifyResult} {t : Tx}
    (exits : Exits platform input payload ticket w result t w') {log : ScanLog}
    (byPolicy : ScanPayloadDTO.byPolicy ⟨result.ticket, log, result.verdict, result.message⟩ = true) :
    t = ⟨[]⟩ ∧ Ticked w w' := by
  cases exits with
  | revoked ticked => exact ⟨rfl, ticked⟩
  | blocked _ ticked => exact ⟨rfl, ticked⟩
  | keyless ticked => exact ⟨rfl, ticked⟩
  | directed ticked => exact ⟨rfl, ticked⟩
  | ended _ ticked => exact ⟨rfl, ticked⟩
  | struck risk verdict message now writtenAt risky cause valid keyed =>
    cases risky with
    | signature => exact absurd (of_decide_eq_true byPolicy) keyed
    | device => exact absurd (of_decide_eq_true byPolicy) keyed
    | replay => cases byPolicy
    | nonce => cases byPolicy
  | accepted => cases byPolicy

theorem scan_unseen {number : Nat} {context : RequestContext} {reply : ScanPayloadDTO} {tx : Option Tx}
    (run : Executes platform (program platform number (.scan context input)) none w (.ok (.scan reply))
      tx w') (byPolicy : reply.byPolicy = true) : Unseen w w' := by
  obtain ⟨payload, ticket, w₁, result, t, w₂, createdAt, facts, messages, -, -, ticked, exits, -, answer,
    -, -, unsent, last⟩ := scan_returns run
  cases answer
  obtain ⟨rfl, later⟩ := exits.policy byPolicy
  have refused : result.verdict ≠ .ok := by
    intro accepted
    simp [ScanPayloadDTO.byPolicy, accepted] at byPolicy
  cases unsent refused
  have recorded (log : ScanLog) : Unseen w₂ (w₂.recorded ⟨[]⟩ log facts []) := by
    refine ⟨Nat.le_refl _, [log], facts, ?_⟩
    rw [recorded_eq]
    simp [Tx.apply]
  exact (Unseen.of_ticked (ticked.trans later)).trans ((recorded _).trans (.of_ticked last))

theorem Turned.unseen {answers : List (SecurityScanInput × ScanPayloadDTO)}
    (turned : Turned platform w answers w') : Unseen w w' := by
  induction turned with
  | none ticked => exact .of_ticked ticked
  | scan run byPolicy _ ih => exact (scan_unseen run byPolicy).trans ih

end Turned

section Later

variable {number : Nat} {context : RequestContext} {tx : Option Tx} {out : Except Exn Reply} {v v' x : World}

theorem scan_after (w : World)
    (run : Executes platform (program platform number (.scan context input)) none v out tx v') :
    Executes platform (program platform number (.scan context input)) none (v.after w) out tx
      (v'.after w) :=
  run.mirrored (mirrors_after platform w)
    (issues_scan (fun _ => rfl) (fun _ => rfl) (fun _ => blind_of_proceeds) number) (by simp)

theorem scan_after_cases
    (run : Executes platform (program platform number (.scan context input)) none (v.after w) out tx x) :
    ∃ v' : World, x = v'.after w ∧
      Executes platform (program platform number (.scan context input)) none v out tx v' :=
  run.unmirrored (mirrors_after platform w)
    (issues_scan (fun _ => rfl) (fun _ => rfl) (fun _ => blind_of_proceeds) number) (by simp)

theorem scan_moved (same : v.unlogged = w.unlogged)
    (run : Executes platform (program platform number (.scan context input)) none v out tx x) :
    ∃ v' : World, x = v'.after v ∧
      Executes platform (program platform number (.scan context input)) none w out tx (v'.after w) := by
  rw [← unlogged_after v] at run
  obtain ⟨v', rfl, alone⟩ := scan_after_cases run
  refine ⟨v', rfl, ?_⟩
  rw [same] at alone
  have moved := scan_after w alone
  rwa [unlogged_after] at moved

structure Attempt where
  number : Nat
  context : RequestContext
  input : SecurityScanInput
  out : Except Exn Reply

inductive Scanned (platform : Platform) : World → List Attempt → World → Prop where
  | none (w : World) : Scanned platform w [] w
  | scan {w w₁ w' : World} {attempt : Attempt} {tx : Option Tx} {rest : List Attempt} :
    Executes platform (program platform attempt.number (.scan attempt.context attempt.input)) none w
      attempt.out tx w₁ →
    Scanned platform w₁ rest w' → Scanned platform w (attempt :: rest) w'

theorem after_after (u v w : World) : u.after (v.after w) = (u.after v).after w := by
  simp [World.after]

theorem Scanned.moved {attempts : List Attempt} (scanned : Scanned platform v attempts x)
    (same : v.unlogged = w.unlogged) :
    ∃ v' : World, x = v'.after v ∧ Scanned platform w attempts (v'.after w) := by
  induction scanned generalizing w with
  | none v =>
    refine ⟨v.unlogged, (unlogged_after v).symm, ?_⟩
    rw [same, unlogged_after]
    exact .none w
  | scan run _ ih =>
    obtain ⟨v₁, rfl, moved⟩ := scan_moved same run
    obtain ⟨v', rfl, rest⟩ := ih (w := v₁.after w) rfl
    refine ⟨v'.after v₁, after_after v' v₁ _, ?_⟩
    rw [← after_after]
    exact .scan moved rest

theorem Unseen.unlogged (unseen : Unseen w w') :
    w'.unlogged = World.unlogged { w with clock := w'.clock } := by
  obtain ⟨-, logs, facts, same⟩ := unseen
  rw [same]
  rfl

end Later

section Opposite

variable {payload : QrPayload} {ticket : Ticket} {direction : GateDirection} {presented : SecurityScanInput}

def opposite : ScanVerdict → Option GateDirection
  | .alreadyInside => some .exit
  | .notInside => some .entry
  | _ => none

-- The token of the scan, from the same device.
def Again (input presented : SecurityScanInput) : Prop :=
  presented.token = input.token ∧ presented.signature = input.signature ∧
    presented.deviceId = input.deviceId

/-- Everything about the scan is right but its direction. -/
structure Misdirected (w : World) (input : SecurityScanInput) (payload : QrPayload) (ticket : Ticket)
    (direction : GateDirection) : Prop where
  formed : ¬(input.token = "" ∨ input.signature = "" ∨ input.deviceId = "")
  token : ∀ payload', w.verified input.token = some payload' → payload' = payload
  found : w.ticket payload.tid = some ticket
  checked : Checked w input payload ticket
  elsewhere : ticket.currentState ≠ intendedState direction
  unblocked : unblockedAt w ticket.id ≤ w.clock

theorem Misdirected.later (misdirected : Misdirected w input payload ticket direction)
    (unseen : Unseen w w') : Misdirected w' input payload ticket direction := by
  obtain ⟨formed, token, found, ⟨valid, signed, device, fresh, expected⟩, elsewhere, unblocked⟩ := misdirected
  rw [← unseen.signatures] at signed
  refine ⟨formed, fun payload' verified => token payload' (unseen.verified verified),
    (unseen.ticket _).trans found, ⟨valid, signed, device, fresh, expected⟩, elsewhere, ?_⟩
  unfold unblockedAt at unblocked ⊢
  rw [unseen.guard]
  exact Nat.max_le.mpr ⟨Nat.le_refl _, Nat.le_trans (Nat.max_le.mp unblocked).2 unseen.1⟩

theorem scan_misdirected {number : Nat} {context : RequestContext} {reply : ScanPayloadDTO}
    {tx : Option Tx}
    (run : Executes platform (program platform number (.scan context input)) none w (.ok (.scan reply))
      tx w') (turned : opposite reply.verdict = some direction) :
    ∃ payload, Misdirected w' input payload reply.ticket direction := by
  have formed : ¬(input.token = "" ∨ input.signature = "" ∨ input.deviceId = "") := by
    intro empty
    obtain ⟨response, tx₁, w₁, scan, -⟩ := bind_returns run
    unfold TicketMutationResolver.scanToken at scan
    rw [if_pos empty] at scan
    exact throw_returns scan
  have byPolicy : reply.byPolicy = true := by
    revert turned
    cases verdict : reply.verdict <;> simp [opposite, ScanPayloadDTO.byPolicy, verdict]
  have unseen := scan_unseen run byPolicy
  obtain ⟨payload, ticket, w₁, result, t, w₂, createdAt, facts, messages, verified, found, first, exits, -,
    answer, begun, ended, -, -⟩ := scan_returns run
  cases answer
  refine ⟨payload, ?_⟩
  have until_ : w₂.clock ≤ w'.clock := Nat.le_trans begun ended
  have directed : ticket = result.ticket ∧ unblockedAt w₁ ticket.id ≤ w₂.clock ∧
      Checked w₁ input payload ticket ∧ ticket.currentState ≠ intendedState direction := by
    cases exits with
    | directed ticked unblocked checked here =>
      refine ⟨rfl, unblocked, checked, ?_⟩
      rw [here]
      cases intended : input.direction <;>
        · rw [intended] at turned
          cases turned
          simp [intendedState]
    | struck risk verdict message now writtenAt risky => cases risky <;> cases turned
    | _ => cases turned
  obtain ⟨rfl, unblocked, checked, elsewhere⟩ := directed
  have passed := (Nat.max_le.mp (first.unblockedAt_le unblocked)).2
  refine ⟨formed, fun payload' valid => ?_, (unseen.ticket _).trans found, ?_, elsewhere, ?_⟩
  · exact Option.some.inj ((unseen.verified valid).symm.trans verified)
  · refine ⟨checked.valid, ?_, checked.device, checked.fresh, checked.expected⟩
    rw [unseen.signatures, ← first.signatures]
    exact checked.signed
  · unfold unblockedAt
    rw [unseen.guard]
    exact Nat.max_le.mpr ⟨Nat.le_refl _, Nat.le_trans passed until_⟩

theorem Misdirected.checked_again (misdirected : Misdirected w input payload ticket direction)
    (again : Again input presented) : Checked w presented payload ticket := by
  obtain ⟨token, signature, deviceId⟩ := again
  obtain ⟨valid, signed, device, fresh, expected⟩ := misdirected.checked
  rw [← token, ← signature, ← deviceId] at signed
  rw [← deviceId] at device
  exact ⟨valid, signed, device, fresh, expected⟩

variable {number : Nat} {context : RequestContext} {reply : ScanPayloadDTO} {tx : Option Tx} {x : World}

def KeyFree (w : World) (token : String) : Prop :=
  ∀ payload, w.verified token = some payload → w.replayKeyLive payload.tid payload.dn = false

theorem Misdirected.answered (misdirected : Misdirected w input payload ticket direction)
    (again : Again input presented) (turns : presented.direction = direction)
    (free : KeyFree w presented.token)
    (run : Executes platform (program platform number (.scan context presented)) none w
      (.ok (.scan reply)) tx x)
    (running : Running w ticket.eventId direction x.clock) : reply.verdict = .ok := by
  obtain ⟨payload', ticket', w₁, result, t, w₂, createdAt, facts, messages, verified, found, first, exits, -,
    answer, begun, ended, -, -⟩ := scan_returns run
  cases answer
  have open_ := free payload' verified
  obtain rfl := misdirected.token payload' (again.1 ▸ verified)
  rw [misdirected.found] at found
  cases found
  rw [← Table.key_of_get? misdirected.found] at open_
  have checked : Checked w₁ presented payload' ticket := by
    obtain ⟨valid, signed, device, fresh, expected⟩ := misdirected.checked_again again
    rw [← first.signatures] at signed
    exact ⟨valid, signed, device, fresh, expected⟩
  have running₁ : Running w₁ ticket.eventId presented.direction w₂.clock := by
    intro entry endsAt ends
    rw [first.settings] at ends
    exact Nat.le_trans (Nat.le_trans begun ended) (running (turns.symm.trans entry) endsAt ends)
  have unblocked : unblockedAt w₁ ticket.id ≤ w₁.clock := by
    rw [first.unblockedAt]
    have passed := (Nat.max_le.mp misdirected.unblocked).2
    exact Nat.max_le.mpr ⟨Nat.le_refl _, Nat.le_trans passed first.clock⟩
  obtain ⟨_, _, _, accepted, -⟩ := accepted_of_exits exits checked
    (by rw [turns]; exact misdirected.elsewhere) running₁ unblocked (replayKeyLive_later first open_)
  rw [accepted]
  rfl

theorem Misdirected.executes (misdirected : Misdirected w input payload ticket direction)
    (again : Again input presented) (turns : presented.direction = direction)
    (verified : w.verified presented.token = some payload)
    (free : KeyFree w presented.token) (running : Running w ticket.eventId direction w.clock)
    (entitled : Entitled platform context presented w ticket) :
    ∃ reply tx x, Executes platform (program platform number (.scan context presented)) none w
      (.ok (.scan reply)) tx x ∧ reply.verdict = .ok := by
  have key : ticket.id = payload.tid := Table.key_of_get? misdirected.found
  have formed := misdirected.formed
  rw [← again.1, ← again.2.1, ← again.2.2] at formed
  obtain ⟨reply, x, run, ok, -⟩ := executes_scan (by rw [turns]; exact misdirected.elsewhere)
    (by rw [turns]; exact running) misdirected.unblocked (key ▸ free payload verified) formed verified
    misdirected.found (misdirected.checked_again again) entitled
  exact ⟨reply, none, x, run, ok⟩

theorem Turned.misdirected {answers : List (SecurityScanInput × ScanPayloadDTO)}
    (turned : Turned platform w answers w') (member : (input, reply) ∈ answers)
    (rejected : opposite reply.verdict = some direction) :
    ∃ payload, Misdirected w' input payload reply.ticket direction := by
  induction turned with
  | none => cases member
  | scan run _ rest ih =>
    rcases List.mem_cons.mp member with first | later
    · cases first
      obtain ⟨payload, misdirected⟩ := scan_misdirected run rejected
      exact ⟨payload, misdirected.later rest.unseen⟩
    · exact ih later

end Opposite

/-- No scans after `w'` can tell `w'` from `w`. -/
structure Invisible (platform : Platform) (w w' : World) : Prop where
  tickets : w'.store.tickets = w.store.tickets
  shareGuards : w'.store.shareGuards = w.store.shareGuards
  replayKeys : w'.store.replayKeys = w.store.replayKeys
  -- The same scans at the same times from `w` answer the same and leave the same behind, but for
  -- the scan logs, the facts and the messages that were there before.
  without : ∀ attempts x, Scanned platform w' attempts x →
    ∃ v : World, x = v.after w' ∧ Scanned platform { w with clock := w'.clock } attempts (v.after w)
  within : ∀ attempts x, Scanned platform { w with clock := w'.clock } attempts x →
    ∃ v : World, x = v.after w ∧ Scanned platform w' attempts (v.after w')

structure Accepts (platform : Platform) (w : World) (input : SecurityScanInput) (ticket : Ticket) :
    Prop where
  only : ∀ number context reply tx x,
    Executes platform (program platform number (.scan context input)) none w (.ok (.scan reply)) tx x →
    Running w ticket.eventId input.direction x.clock → reply.verdict = .ok
  may : ∀ number context, (w.verified input.token).isSome →
    Running w ticket.eventId input.direction w.clock → Entitled platform context input w ticket →
    ∃ reply tx x, Executes platform (program platform number (.scan context input)) none w
      (.ok (.scan reply)) tx x ∧ reply.verdict = .ok

/-- Scans that policy turns away are invisible to later scans, and a token that is turned away for
its direction is accepted in the other one. -/
theorem policy_rejections_invisible {answers : List (SecurityScanInput × ScanPayloadDTO)}
    (turned : Turned platform w answers w') :
    Invisible platform w w' ∧
      ∀ input reply presented, (input, reply) ∈ answers → Again input presented →
        opposite reply.verdict = some presented.direction → KeyFree w' presented.token →
        Accepts platform w' presented reply.ticket := by
  have unseen := turned.unseen
  have rows : w'.store.tickets = w.store.tickets ∧ w'.store.shareGuards = w.store.shareGuards ∧
      w'.store.replayKeys = w.store.replayKeys := by
    obtain ⟨-, logs, facts, same⟩ := unseen
    rw [same]
    exact ⟨rfl, rfl, rfl⟩
  refine ⟨⟨rows.1, rows.2.1, rows.2.2, ?_, ?_⟩, ?_⟩
  · exact fun attempts x scanned => scanned.moved unseen.unlogged
  · exact fun attempts x scanned => scanned.moved unseen.unlogged.symm
  · intro input reply presented member again rejected free
    obtain ⟨payload, misdirected⟩ := turned.misdirected member rejected
    refine ⟨fun number context reply tx x run running =>
      misdirected.answered again rfl free run running, ?_⟩
    intro number context minted running entitled
    obtain ⟨payload', verified⟩ := Option.isSome_iff_exists.mp minted
    obtain rfl := misdirected.token payload' (again.1 ▸ verified)
    exact misdirected.executes again rfl verified free running entitled

namespace Sample

def leaving : SecurityScanInput :=
  { entry with direction := .exit }

def refused : Except Exn Reply × Option Tx × World :=
  (engine deployment).perform (program deployment 4 (.scan context leaving)) none
    (run prepared).shared.world

def verdict : Except Exn Reply → Option ScanVerdict
  | .ok (.scan reply) => some reply.verdict
  | _ => none

end Sample

open Sample in
theorem policy_rejections_invisible_exit :
    ∃ (reply : ScanPayloadDTO) (w' : World), reply.verdict = .notInside ∧
      Invisible deployment (run prepared).shared.world w' ∧ Accepts deployment w' entry reply.ticket := by
  have ran : Executes deployment (program deployment 4 (.scan context leaving)) none
      (run prepared).shared.world refused.1 refused.2.1 refused.2.2 := by
    unfold refused
    exact Engine.performs (engine deployment) Ticks _ none (run prepared).shared.world
  have answer : verdict refused.1 = some .notInside := by decide +kernel
  have free : ((refused.2.2.verified token).all fun payload =>
      !refused.2.2.replayKeyLive payload.tid payload.dn) = true := by
    decide +kernel
  generalize refused = ended at ran answer free
  obtain ⟨out, tx, w'⟩ := ended
  unfold verdict at answer
  split at answer
  next reply returned =>
    cases returned
    have refused := Option.some.inj answer
    have turned : Turned deployment (run prepared).shared.world [(leaving, reply)] w' :=
      .scan ran (by simp [ScanPayloadDTO.byPolicy, refused]) (.none (.refl _))
    have key : KeyFree w' entry.token := fun payload verified => by
      have verified : w'.verified token = some payload := verified
      rw [verified] at free
      simpa using free
    obtain ⟨invisible, accepts⟩ := policy_rejections_invisible turned
    exact ⟨reply, w', refused, invisible, accepts _ reply entry (List.mem_singleton_self _)
      ⟨rfl, rfl, rfl⟩ (by rw [refused]; rfl) key⟩
  next => cases answer

end TicketService
