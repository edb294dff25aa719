import TicketService.Properties.RefusedScan

set_option autoImplicit false

namespace TicketService

open Interleaving Relational

variable {platform : Platform} {stmt : Stmt} {result : stmt.Res} {w w' : World} {tx tx' : Option Tx}
  {i : Nat} {g g' : Global}

theorem exec_rawSetIfAbsent {ticketId : Uuid} {nonce seconds : Nat} {acquired : Bool}
    (executed : exec platform (.rawSetIfAbsent ticketId nonce seconds) w tx =
      some (acquired, w', tx')) :
    acquired = false ∧ w' = w ∨
      acquired = true ∧ w.replayKeyLive ticketId nonce = false ∧
        w'.store.replayKeys = w.store.replayKeys.upsert
          { ticketId, nonce, expiresAt := w.clock + seconds * 1000 } := by
  simp only [exec] at executed
  split at executed
  next live =>
    cases executed
    exact .inl ⟨rfl, rfl⟩
  next expired =>
    cases executed
    exact .inr ⟨rfl, by simpa using expired, rfl⟩

-- No replay key has gone, and none expires earlier than before.
def KeysKept (s s' : Store) : Prop :=
  ∀ key row, s.replayKeys.get? key = some row →
    ∃ row', s'.replayKeys.get? key = some row' ∧ row.expiresAt ≤ row'.expiresAt

theorem KeysKept.of_same {s s' : Store} (same : s'.replayKeys = s.replayKeys) : KeysKept s s' := by
  intro key row found
  rw [same]
  exact ⟨row, found, Nat.le_refl _⟩

theorem KeysKept.trans {s s' s'' : Store} (first : KeysKept s s') (second : KeysKept s' s'') :
    KeysKept s s'' := by
  intro key row found
  obtain ⟨row', found', later⟩ := first key row found
  obtain ⟨row'', found'', later'⟩ := second key row' found'
  exact ⟨row'', found'', Nat.le_trans later later'⟩

theorem not_live_expired {ticketId : Uuid} {nonce : Nat} {row : ReplayKey}
    (expired : w.replayKeyLive ticketId nonce = false)
    (found : w.store.replayKeys.get? (ticketId, nonce) = some row) : row.expiresAt ≤ w.clock := by
  simpa [World.replayKeyLive, found] using expired

theorem exec_keysKept (executed : exec platform stmt w tx = some (result, w', tx')) :
    KeysKept w.store w'.store := by
  cases acquires : stmt.acquires with
  | false => exact .of_same ((exec_kept executed).1 acquires)
  | true =>
    cases stmt with
    | rawSetIfAbsent ticketId nonce seconds =>
      rcases exec_rawSetIfAbsent executed with ⟨-, same⟩ | ⟨-, expired, upserted⟩
      · exact .of_same (by rw [same])
      · intro key row found
        rw [upserted, Table.get?_upsert]
        by_cases same : key = (ticketId, nonce)
        · subst same
          have old := not_live_expired expired found
          exact ⟨_, if_pos rfl, Nat.le_trans old (Nat.le_add_right _ _)⟩
        · exact ⟨row, by rw [if_neg same, found], Nat.le_refl _⟩
    | _ => cases acquires

def Acquires (g : Global) (i : Nat) (ticketId : Uuid) (nonce : Nat) (w : World) : Prop :=
  Event.stmt i (Stmt.rawSetIfAbsent ticketId nonce 120) true w ∈ g.history

def replayTtlMs : Nat := 120 * 1000

-- The key that a call acquired in the world `w` is there, and no key for the nonce that was there
-- before lived as long.
def Acquired (before after : Store) (key : Uuid × Nat) (w : World) : Prop :=
  ∃ row, after.replayKeys.get? key = some row ∧ w.clock + replayTtlMs ≤ row.expiresAt ∧
    ∀ old, before.replayKeys.get? key = some old → old.expiresAt ≤ w.clock

theorem Acquired.kept {before s s' : Store} {key : Uuid × Nat} (acquired : Acquired before s key w)
    (kept : KeysKept s s') : Acquired before s' key w := by
  obtain ⟨row, found, lives, old⟩ := acquired
  obtain ⟨row', found', later⟩ := kept key row found
  exact ⟨row', found', Nat.le_trans lives later, old⟩

structure Acquisitions (i : Nat) (before : Store) (g : Global) : Prop where
  kept : KeysKept before g.world.store
  acquired : ∀ ticketId nonce w, Acquires g i ticketId nonce w →
    Acquired before g.world.store (ticketId, nonce) w

theorem Acquisitions.keep {before : Store} (held : Acquisitions i before g)
    (kept : KeysKept g.world.store g'.world.store)
    (earlier : ∀ ticketId nonce w, Acquires g' i ticketId nonce w → Acquires g i ticketId nonce w) :
    Acquisitions i before g' where
  kept := held.kept.trans kept
  acquired ticketId nonce w acquires :=
    (held.acquired ticketId nonce w (earlier ticketId nonce w acquires)).kept kept

theorem Acquisitions.step {before : Store} (held : Acquisitions i before g)
    (step : g.StepBy (engine platform) i g') : Acquisitions i before g' := by
  cases step with
  | keep => exact held
  | @record stmt result w tx tx' executed =>
    have kept : KeysKept g.world.store w.store := exec_keysKept executed
    refine ⟨held.kept.trans kept, fun ticketId nonce w₀ member => ?_⟩
    rcases List.mem_cons.mp member with same | earlier
    · cases same
      have executed : exec platform (.rawSetIfAbsent ticketId nonce 120) g.world tx =
          some (true, w, tx') := executed
      rcases exec_rawSetIfAbsent executed with ⟨refused, -⟩ | ⟨-, expired, upserted⟩
      · cases refused
      · refine ⟨⟨ticketId, nonce, g.world.clock + replayTtlMs⟩, ?_, Nat.le_refl _, ?_⟩
        · show w.store.replayKeys.get? (ticketId, nonce) = _
          rw [upserted, Table.get?_upsert, if_pos rfl]
          rfl
        · intro old found
          obtain ⟨row, present, later⟩ := held.kept _ old found
          exact Nat.le_trans later (not_live_expired expired present)
    · exact (held.acquired ticketId nonce w₀ earlier).kept kept
  | commit tx =>
    have kept : KeysKept g.world.store (tx.apply g.world.store) := .of_same (Tx.apply_kept tx _).1
    exact held.keep kept fun _ _ _ member => by
      simpa [Acquires, Shared.commit] using member
  | rollback =>
    exact held.keep (.of_same rfl) fun _ _ _ member => by
      simpa [Acquires, Shared.rollback] using member

def suspicion (guard : ShareGuard) : Nat × Option Time × Option String :=
  (guard.failCount, guard.blockedUntil, guard.reason)

structure LeavesNoTrace (before after : World) : Prop where
  keys : ∀ key ∈ after.store.replayKeys.rows, after.clock < key.expiresAt →
    key ∈ before.store.replayKeys.rows
  guards : ∀ ticketId, (after.guard ticketId).map suspicion = (before.guard ticketId).map suspicion

/-- Call number `i` has ended without an accepted scan after it acquired a replay key, which has
not expired yet. -/
structure FailedScan (i : Nat) (c : ServiceState) : Prop where
  ended : c.threads[i]?.any Thread.ended
  acquired : ∃ ticketId nonce w, Acquires c.shared i ticketId nonce w ∧
    c.shared.world.clock < w.clock + replayTtlMs
  unlogged : ∀ log ∈ c.shared.world.store.scanLogs, log.id.call = i → log.verdict ≠ .ok

/-- A scan that fails after it has acquired the replay key leaves the key behind. -/
theorem failed_scan_leaves_trace {world : World} {c c' : ServiceState}
    (reachable : (service platform).Reachable world c) {context : RequestContext}
    {input : SecurityScanInput}
    (sequential : (service platform).Sequential Ticks c (.scan context input) c')
    (failed : FailedScan c.threads.length c') : ¬LeavesNoTrace c.shared.world c'.shared.world := by
  intro traceless
  obtain ⟨begun, invoked, runs⟩ := sequential
  cases invoked
  have base : Acquisitions c.threads.length c.shared.world.store (c.shared.invoke (.scan context input)) := by
    refine ⟨.of_same rfl, fun ticketId nonce w member => ?_⟩
    have earlier := System.thread_of_history reachable _ member
    exact absurd earlier (Nat.lt_irrefl _)
  have held : Acquisitions c.threads.length c.shared.world.store c'.shared := by
    refine System.SoloRuns.invariant runs _ base (fun g g' held step => held.step step) ?_
    intro g action held ticks
    have same := congrArg Store.replayKeys (ticks_store action g.world ticks)
    exact held.keep (.of_same same) fun _ _ _ => id
  obtain ⟨ticketId, nonce, w, event, early⟩ := failed.acquired
  obtain ⟨row, found, lives, old⟩ := held.acquired ticketId nonce w event
  have live : c'.shared.world.clock < row.expiresAt := Nat.lt_of_lt_of_le early lives
  have member := traceless.keys row (Table.mem_of_get? found) live
  have before : c.shared.world.store.replayKeys.get? (ticketId, nonce) = some row := by
    have present := Table.get?_of_mem member
    rwa [Table.key_of_get? found] at present
  have expired := Nat.le_trans lives (old row before)
  exact absurd expired (Nat.not_le.mpr (Nat.lt_add_of_pos_right (by decide)))

section Tenantless

open Sample

theorem sequential_call (acts : List ServiceAct) (request : Call) (count : Nat) {number : Nat}
    (next : (run acts).threads.length = number) :
    (service deployment).Sequential Ticks (run acts) request
      (run (acts ++ call number request count)) := by
  subst next
  unfold run
  rw [System.run_append]
  refine ⟨_, rfl, System.runsBy_run _ _ _ fun act member => ?_⟩
  rw [List.eq_of_mem_replicate member]
  rfl

-- Staff scan without a verified tenant: the outbox refuses the fact of the scan.
def tenantless : Call := .scan { context with tenantId := none } entry

def failedRun : List ServiceAct := prepared ++ call 4 tenantless 30

theorem tenantless_sequential :
    (service deployment).Sequential Ticks (run prepared) tenantless (run failedRun) :=
  sequential_call prepared tenantless 30 (by decide +kernel)

def acquiresKey : Event statements World Tx → Bool
  | .stmt i (.rawSetIfAbsent _ _ seconds) acquired _ => i = 4 && seconds = 120 && acquired
  | _ => false

theorem acquires_of_key {e : Event statements World Tx} (member : e ∈ g.history)
    (test : acquiresKey e = true) : ∃ ticketId nonce, Acquires g 4 ticketId nonce e.world := by
  cases e with
  | stmt i stmt acquired w =>
    cases stmt with
    | rawSetIfAbsent ticketId nonce seconds =>
      obtain ⟨numbers, rfl⟩ := Bool.and_eq_true_iff.mp test
      obtain ⟨rfl, rfl⟩ : i = 4 ∧ seconds = 120 := by simpa using numbers
      exact ⟨ticketId, nonce, member⟩
    | _ => cases test
  | _ => cases test

theorem tenantless_failed : FailedScan 4 (run failedRun) where
  ended := by decide +kernel
  acquired := by
    have recorded : (run failedRun).shared.history.any fun e =>
        acquiresKey e && decide ((run failedRun).shared.world.clock < e.world.clock + replayTtlMs) := by
      decide +kernel
    obtain ⟨e, member, test⟩ := List.any_eq_true.mp recorded
    obtain ⟨got, early⟩ := Bool.and_eq_true_iff.mp test
    obtain ⟨ticketId, nonce, acquires⟩ := acquires_of_key member got
    exact ⟨ticketId, nonce, e.world, acquires, of_decide_eq_true early⟩
  unlogged := by decide +kernel

theorem tenantless_leaves_trace :
    ¬LeavesNoTrace (run prepared).shared.world (run failedRun).shared.world := by
  have threads : (run prepared).threads.length = 4 := by decide +kernel
  exact failed_scan_leaves_trace (reachable_run prepared) tenantless_sequential
    (threads ▸ tenantless_failed)

def MayScan (platform : Platform) (w : World) (input : SecurityScanInput) : Prop :=
  ∀ payload, w.verified input.token = some payload → ∀ ticket, w.ticket payload.tid = some ticket →
    .scanTickets ∈ permissionsOf platform w input.actorId ticket.eventId

theorem tenantless_scan_leaves_key : ¬∀ (platform : Platform) (c c' : ServiceState)
    (context : RequestContext) (input : SecurityScanInput),
    (service platform).Reachable World.empty c → MayScan platform c.shared.world input →
      (service platform).Sequential Ticks c (.scan context input) c' →
        FailedScan c.threads.length c' → LeavesNoTrace c.shared.world c'.shared.world := by
  intro claim
  have threads : (run prepared).threads.length = 4 := by decide +kernel
  have entitled : MayScan deployment (run prepared).shared.world entry := by
    intro payload verified ticket found
    have all : ((run prepared).shared.world.verified entry.token).all fun payload =>
        ((run prepared).shared.world.ticket payload.tid).all fun ticket =>
          decide (.scanTickets ∈
            permissionsOf deployment (run prepared).shared.world staff ticket.eventId) := by
      decide +kernel
    simp only [verified, found, Option.all_some, decide_eq_true_eq] at all
    exact all
  have traceless := claim deployment _ _ _ _ (reachable_run prepared) entitled tenantless_sequential
    (threads ▸ tenantless_failed)
  have key := traceless.keys
  revert key
  decide +kernel

def secondSignature : DeviceSignature where
  publicKey := "phone-key"
  message := VerifyService.signedMessage (compactJwe 1) "phone"
  signature := "second-signature"

def retried : List ServiceAct :=
  failedRun ++ call 5 (.generateToken ticket guest) 5 ++ [.environ (.sign secondSignature)] ++
    call 6 (.scan context
      { entry with token := compactJwe 1, signature := "second-signature" }) 30

example : (run retried).shared.world.store.scanLogs.map (·.verdict) = [.replay] := by
  decide +kernel

end Tenantless

end TicketService
