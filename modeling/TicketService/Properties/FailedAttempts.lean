import TicketService.Interleaving.Along
import TicketService.Refinement.Service

set_option autoImplicit false

namespace TicketService

open Interleaving Relational ShareGuardService

variable {platform : Platform} {t : Uuid} {first i n m : Nat} {c c' : ServiceState}
  {th th' : Thread statements Tx Exn Reply} {tx : Option Tx}

-- Whether the thread stands between its upsert of the share guard and the write that settles the
-- decision.
def deciding (t : Uuid) (th : Thread statements Tx Exn Reply) : Bool :=
  match th.prog with
  | .call (.shareGuardUpdate id _) _ => id = t
  | .call (.ticketUpdate .prisma id _) _ => id = t
  | _ => false

-- Whether the thread is about to read the share guard.
def reading (t : Uuid) (th : Thread statements Tx Exn Reply) : Bool :=
  match th.prog with
  | .call (.shareGuardUpsert id) _ => id = t
  | _ => false

/-- From call number `first` on there are only `applyDecision` calls for the ticket, with risks
that do not ask for a revocation by themselves, as those of `verifyToken`. -/
def attempts (t : Uuid) (first : Nat) : ServiceAct → Bool
  | .invoke (.applyDecision id result) => id = t && !result.shouldRevoke
  | .invoke _ => false
  | .step i => first ≤ i
  | .fault i => first ≤ i
  | .environ _ => true

/-- No call reads the share guard while another one is deciding. -/
def apart (t : Uuid) (first : Nat) (c : ServiceState) : ServiceAct → Bool
  | .step i => (c.threads[i]?.any (reading t)) → (c.threads.drop first).all (!deciding t ·)
  | _ => true

structure Remembered (t : Uuid) (k : Nat) (w : World) : Prop where
  counted : k < revokeThreshold → w.failures t = k
  spared : k < revokeThreshold → ∃ row, w.ticket t = some row ∧ row.revoked = false
  revoked : revokeThreshold ≤ k → ∃ row, w.ticket t = some row ∧ row.revoked = true

-- How `applyDecision` goes on from the share guard that it has read.
def settle (t : Uuid) (result : RiskResult) (now : Time) (guard : ShareGuard) : Program Unit :=
  if result.shouldRevoke ∨ guard.failCount + 1 ≥ revokeThreshold then
    discard (.ticketUpdate .prisma t (autoRevoked now))
  else if result.shouldBlock ∨ guard.failCount + 1 ≥ baseThreshold then
    discard (.shareGuardUpdate t (blocked now (guard.failCount + 1) result.reason))
  else discard (.shareGuardUpdate t (failed now (guard.failCount + 1) result.reason))

def replied (p : Program Unit) : Program Reply :=
  answer p fun _ => .nothing

theorem applyDecision_eq (result : RiskResult) : applyDecision t result =
    issue .now >>= fun now => issue (.shareGuardUpsert t) >>= settle t result now := rfl

inductive Stage (t : Uuid) (n : Nat) (p : Program Reply) : Prop where
  | begun (result : RiskResult) : result.shouldRevoke = false →
      p = replied (applyDecision t result) → Stage t n p
  | read (result : RiskResult) (now : Time) : result.shouldRevoke = false →
      p = replied (issue (.shareGuardUpsert t) >>= settle t result now) → Stage t n p
  | settling (result : RiskResult) (now : Time) (guard : ShareGuard) :
      result.shouldRevoke = false → guard.failCount = n →
      p = replied (settle t result now guard) → Stage t n p
  | returned (reply : Reply) : p = .done reply → Stage t n p
  | thrown (error : Exn) : p = .throw error → Stage t n p

theorem settle_deciding (result : RiskResult) (now : Time) (guard : ShareGuard) :
    deciding t ⟨replied (settle t result now guard), tx⟩ := by
  unfold settle
  split
  · exact decide_eq_true rfl
  · split <;> exact decide_eq_true rfl

theorem Stage.idle {p : Program Reply} (stage : Stage t n p) (idle : ¬deciding t ⟨p, tx⟩) :
    Stage t m p := by
  cases stage with
  | begun result harmless same => exact .begun result harmless same
  | read result now harmless same => exact .read result now harmless same
  | settling result now guard _ _ same =>
    subst same
    exact absurd (settle_deciding result now guard) idle
  | returned reply same => exact .returned reply same
  | thrown error same => exact .thrown error same

def completed (first : Nat) (c : ServiceState) : Nat :=
  (c.threads.drop first).countP fun th => th.returned.isSome

theorem completed_set (later : first ≤ i) (present : c.threads[i]? = some th)
    (running : th.returned = none) (g : Global) :
    completed first { shared := g, threads := c.threads.set i th' } =
      completed first c + if th'.returned.isSome then 1 else 0 := by
  obtain ⟨within, here⟩ := List.getElem?_eq_some_iff.mp present
  have inside : i - first < (c.threads.drop first).length := by
    rw [List.length_drop]
    omega
  have same : (c.threads.drop first)[i - first] = th := by
    rw [List.getElem_drop, ← here]
    congr 1
    omega
  have counted := List.countP_set (p := fun th => th.returned.isSome) (a := th') inside
  rw [same, running] at counted
  simpa [completed, List.drop_set, Nat.not_lt.mpr later] using counted

structure Counting (t : Uuid) (first : Nat) (c : ServiceState) : Prop where
  stages : ∀ i th, first ≤ i → c.threads[i]? = some th →
    th.tx = none ∧ Stage t (min (completed first c) 9) th.prog
  alone : ∀ i j a b, first ≤ i → first ≤ j → c.threads[i]? = some a → c.threads[j]? = some b →
    deciding t a → deciding t b → i = j
  counted : c.shared.world.failures t = min (completed first c) 9
  ticket : ∃ row, c.shared.world.ticket t = some row ∧
    (row.revoked = true ↔ revokeThreshold ≤ completed first c)

theorem Counting.move (counting : Counting t first c) (later : first ≤ i)
    (present : c.threads[i]? = some th) (running : th.returned = none) {p : Program Reply}
    {g : Global} (unsettled : Thread.returned (⟨p, none⟩ : Thread statements Tx Exn Reply) = none)
    (stage : Stage t (min (completed first c) 9) p)
    (apart : deciding t ⟨p, none⟩ → ∀ j other, first ≤ j → c.threads[j]? = some other →
      ¬deciding t other)
    (failures : g.world.failures t = c.shared.world.failures t)
    (ticket : g.world.ticket t = c.shared.world.ticket t) :
    Counting t first { shared := g, threads := c.threads.set i ⟨p, none⟩ } := by
  have within : i < c.threads.length := (List.getElem?_eq_some_iff.mp present).1
  have same : completed first { shared := g, threads := c.threads.set i ⟨p, none⟩ } =
      completed first c := by
    simp [completed_set later present running, unsettled]
  have self {a : Thread statements Tx Exn Reply} (here : (c.threads.set i ⟨p, none⟩)[i]? = some a) :
      ⟨p, none⟩ = a := by
    simpa [within] using here
  constructor
  · intro j a from_first here
    rw [same]
    by_cases moved : j = i
    · subst moved
      obtain rfl := self here
      exact ⟨rfl, stage⟩
    · rw [List.getElem?_set_ne (Ne.symm moved)] at here
      exact counting.stages j a from_first here
  · intro j k a b from_first from_first' here there decides decides'
    by_cases moved : j = i
    · subst moved
      obtain rfl := self here
      by_cases other : k = j
      · exact other.symm
      · rw [List.getElem?_set_ne (Ne.symm other)] at there
        exact absurd decides' (apart decides k b from_first' there)
    · rw [List.getElem?_set_ne (Ne.symm moved)] at here
      by_cases other : k = i
      · subst other
        obtain rfl := self there
        exact absurd decides (apart decides' j a from_first here)
      · rw [List.getElem?_set_ne (Ne.symm other)] at there
        exact counting.alone j k a b from_first from_first' here there decides decides'
  · rw [same]
    exact failures.trans counting.counted
  · rw [same, ticket]
    exact counting.ticket

theorem Counting.threw (counting : Counting t first c) (later : first ≤ i)
    (present : c.threads[i]? = some th) (running : th.returned = none) :
    Counting t first { c with threads := c.threads.set i ⟨.throw .statementFailed, none⟩ } :=
  counting.move later present running rfl (.thrown _ rfl)
    (fun decides => absurd decides Bool.false_ne_true) rfl rfl

theorem Counting.settled (counting : Counting t first c) (later : first ≤ i)
    (present : c.threads[i]? = some th) (decides : deciding t th) {reply : Reply} {g : Global}
    (failures : g.world.failures t = min (completed first c + 1) 9)
    (ticket : ∃ row, g.world.ticket t = some row ∧
      (row.revoked = true ↔ revokeThreshold ≤ completed first c + 1)) :
    Counting t first { shared := g, threads := c.threads.set i ⟨.done reply, none⟩ } := by
  have within : i < c.threads.length := (List.getElem?_eq_some_iff.mp present).1
  have running : th.returned = none := by
    obtain ⟨prog, tx⟩ := th
    cases prog with
    | done value => exact absurd decides Bool.false_ne_true
    | _ => rfl
  have more : completed first { shared := g, threads := c.threads.set i ⟨.done reply, none⟩ } =
      completed first c + 1 := by
    rw [completed_set later present running]
    rfl
  -- The other calls are not deciding.
  have others (j : Nat) (a : Thread statements Tx Exn Reply) (other : j ≠ i) (from_first : first ≤ j)
      (there : c.threads[j]? = some a) : ¬deciding t a := fun decides' =>
    other (counting.alone j i a th from_first later there present decides' decides)
  have self {a : Thread statements Tx Exn Reply}
      (here : (c.threads.set i ⟨.done reply, none⟩)[i]? = some a) :
      ⟨.done reply, none⟩ = a := by
    simpa [within] using here
  constructor
  · intro j a from_first here
    rw [more]
    by_cases moved : j = i
    · subst moved
      obtain rfl := self here
      exact ⟨rfl, .returned reply rfl⟩
    · rw [List.getElem?_set_ne (Ne.symm moved)] at here
      obtain ⟨closed, stage⟩ := counting.stages j a from_first here
      exact ⟨closed, stage.idle (others j a moved from_first here)⟩
  · intro j k a b from_first from_first' here there decides₁ decides₂
    by_cases moved : j = i
    · subst moved
      obtain rfl := self here
      exact absurd decides₁ Bool.false_ne_true
    · rw [List.getElem?_set_ne (Ne.symm moved)] at here
      exact absurd decides₁ (others j a moved from_first here)
  · rw [more]
    exact failures
  · rw [more]
    exact ticket

theorem step_replied {stmt : Stmt} {f : stmt.Res → Program Unit}
    (stepped : (service platform).stepThread c i ⟨replied (issue stmt >>= f), tx⟩ = some c') :
    (∃ result w tx', exec platform stmt c.shared.world tx = some (result, w, tx') ∧
        c' = { shared := c.shared.record i stmt result w
               threads := c.threads.set i ⟨replied (f result), tx'⟩ }) ∨
      c' = { c with threads := c.threads.set i ⟨.throw .statementFailed, tx⟩ } := by
  let next : Option stmt.Res → Program Reply := fun result =>
    replied ((match result with
      | some value => .done value
      | none => .throw .statementFailed : Program stmt.Res).bind f)
  have step : (service platform).stepThread c i ⟨.call stmt next, tx⟩ = some c' := stepped
  simp only [System.stepThread] at step
  split at step
  · split at step
    next result w tx' executed =>
      cases step
      exact .inl ⟨result, w, tx', executed, rfl⟩
    next =>
      cases step
      exact .inr rfl
  · cases step

theorem fault_replied {stmt : Stmt} {f : stmt.Res → Program Unit}
    (faulted : (service platform).faultThread c i ⟨replied (issue stmt >>= f), tx⟩ = some c') :
    c' = { c with threads := c.threads.set i ⟨.throw .statementFailed, tx⟩ } := by
  have fault : some { c with threads := c.threads.set i ⟨.throw .statementFailed, tx⟩ } =
      some c' := faulted
  exact (Option.some.inj fault).symm

theorem failures_upsert {w w' : World} {guard : ShareGuard} {tx' : Option Tx}
    (executed : exec platform (.shareGuardUpsert t) w tx = some (guard, w', tx')) :
    guard.failCount = w.failures t ∧ w'.failures t = w.failures t ∧ w'.ticket t = w.ticket t ∧
      tx' = tx := by
  simp only [exec] at executed
  cases found : w.guard t with
  | some row =>
    rw [found] at executed
    cases executed
    simp [World.failures, found]
  | none =>
    rw [found] at executed
    simp only at executed
    split at executed
    next =>
      cases executed
      have absent : w.store.shareGuards.get? t = none := found
      simp [World.failures, World.guard, World.ticket, Table.get?_insert, absent,
        ShareGuard.created]
    next => cases executed

theorem failures_update {w w' : World} {data : ShareGuard → ShareGuard} {result : ShareGuard}
    {tx' : Option Tx} (counts : ∀ row, (data row).failCount = n)
    (executed : exec platform (.shareGuardUpdate t data) w tx = some (result, w', tx')) :
    w'.failures t = n ∧ w'.ticket t = w.ticket t ∧ tx' = tx := by
  obtain ⟨row, found, stored⟩ := Option.bind_eq_some_iff.mp executed
  cases stored
  have present : w.store.shareGuards.get? t = some row := found
  have key : row.ticketId = t := Table.key_of_get? present
  simp [World.failures, World.guard, World.ticket, Table.get?_put, ShareGuard.updated, key, present,
    counts]

theorem revokes_update {w w' : World} {now : Time} {result : Ticket} {tx' : Option Tx}
    (executed : exec platform (.ticketUpdate .prisma t (autoRevoked now)) w tx =
      some (result, w', tx')) :
    w'.failures t = w.failures t ∧ (∃ row, w'.ticket t = some row ∧ row.revoked = true) ∧
      tx' = tx := by
  obtain ⟨row, found, stored⟩ := Option.bind_eq_some_iff.mp executed
  cases stored
  have present : w.store.ticket t = some row := found
  have written := Store.ticket_putTicket w.store t t (autoRevoked now row.toTicketState) w.clock
  rw [if_pos rfl, present] at written
  refine ⟨?_, ⟨_, written, rfl⟩, rfl⟩
  simp [World.failures, World.guard, Store.putTicket]
  split <;> rfl

theorem settle_running (result : RiskResult) (now : Time) (guard : ShareGuard) :
    Thread.returned (⟨replied (settle t result now guard), none⟩ :
      Thread statements Tx Exn Reply) = none := by
  unfold settle
  split
  · rfl
  · split <;> rfl

theorem Counting.decide (counting : Counting t first c) (later : first ≤ i) {result : RiskResult}
    {now : Time} {guard : ShareGuard} (harmless : result.shouldRevoke = false)
    (read : guard.failCount = min (completed first c) 9)
    (present : c.threads[i]? = some ⟨replied (settle t result now guard), none⟩)
    (stepped : (service platform).stepThread c i ⟨replied (settle t result now guard), none⟩ =
      some c') : Counting t first c' := by
  have decides : deciding t ⟨replied (settle t result now guard), none⟩ :=
    settle_deciding result now guard
  obtain ⟨row, found, revoked⟩ := counting.ticket
  have thrown := counting.threw later present (settle_running result now guard)
  have counts {data : ShareGuard → ShareGuard} {result : ShareGuard} {w : World}
      {tx' : Option Tx} (few : ¬guard.failCount + 1 ≥ revokeThreshold)
      (data_counts : ∀ row, (data row).failCount = guard.failCount + 1)
      (executed : exec platform (.shareGuardUpdate t data) c.shared.world none =
        some (result, w, tx')) :
      Counting t first
        { shared := c.shared.record i (.shareGuardUpdate t data) result w
          threads := c.threads.set i ⟨.done .nothing, tx'⟩ } := by
    obtain ⟨failures, ticket, rfl⟩ := failures_update data_counts executed
    simp only [revokeThreshold] at few
    have total : w.failures t = min (completed first c + 1) 9 := by omega
    refine counting.settled later present decides total ⟨row, ticket.trans found, ?_⟩
    rw [revoked, revokeThreshold]
    omega
  unfold settle at stepped
  split at stepped
  next many =>
    rcases step_replied stepped with ⟨_, w, tx', executed, rfl⟩ | rfl
    · obtain ⟨failures, after, rfl⟩ := revokes_update executed
      have enough : guard.failCount + 1 ≥ revokeThreshold := by simpa [harmless] using many
      simp only [revokeThreshold] at enough
      have total : w.failures t = min (completed first c + 1) 9 := by
        rw [failures, counting.counted]
        omega
      obtain ⟨row', there, valid⟩ := after
      refine counting.settled later present decides total ⟨row', there, ?_⟩
      rw [valid, revokeThreshold]
      simp only [true_iff]
      omega
    · exact thrown
  next few =>
    have few : ¬guard.failCount + 1 ≥ revokeThreshold := by simpa [harmless] using few
    split at stepped
    · rcases step_replied stepped with ⟨_, w, tx', executed, rfl⟩ | rfl
      · exact counts few (fun _ => rfl) executed
      · exact thrown
    · rcases step_replied stepped with ⟨_, w, tx', executed, rfl⟩ | rfl
      · exact counts few (fun _ => rfl) executed
      · exact thrown

theorem Counting.stepThread (counting : Counting t first c) (later : first ≤ i)
    (present : c.threads[i]? = some th) (alone : apart t first c (.step i))
    (stepped : (service platform).stepThread c i th = some c') : Counting t first c' := by
  obtain ⟨closed, stage⟩ := counting.stages i th later present
  obtain ⟨prog, tx⟩ := th
  obtain rfl : tx = none := closed
  cases stage with
  | begun result harmless same =>
    subst same
    rw [applyDecision_eq] at stepped
    rcases step_replied stepped with ⟨now, w, tx', executed, rfl⟩ | rfl
    · cases executed
      exact counting.move later present rfl rfl (.read result _ harmless rfl)
        (fun decides => absurd decides Bool.false_ne_true) rfl rfl
    · exact counting.threw later present rfl
  | read result now harmless same =>
    subst same
    rcases step_replied stepped with ⟨guard, w, tx', executed, rfl⟩ | rfl
    · obtain ⟨read, failures, ticket, rfl⟩ := failures_upsert executed
      have reads : c.threads[i]?.any (reading t) = true := by
        rw [present]
        exact decide_eq_true rfl
      have free (j : Nat) (other : Thread statements Tx Exn Reply) (later' : first ≤ j)
          (there : c.threads[j]? = some other) : ¬deciding t other := by
        simp only [apart, reads, true_imp_iff, decide_eq_true_eq, List.all_eq_true,
          Bool.not_eq_true'] at alone
        rw [alone other (List.mem_iff_getElem?.mpr ⟨j - first, by
          rw [List.getElem?_drop, Nat.add_sub_cancel' later']
          exact there⟩)]
        exact Bool.false_ne_true
      exact counting.move later present rfl (settle_running result now guard)
        (.settling result now guard harmless (read.trans counting.counted) rfl)
        (fun _ => free) failures ticket
    · exact counting.threw later present rfl
  | settling result now guard harmless read same =>
    subst same
    exact counting.decide later harmless read present stepped
  | returned reply same =>
    subst same
    cases stepped
  | thrown error same =>
    subst same
    cases stepped

theorem Counting.faultThread (counting : Counting t first c) (later : first ≤ i)
    (present : c.threads[i]? = some th)
    (faulted : (service platform).faultThread c i th = some c') : Counting t first c' := by
  obtain ⟨closed, stage⟩ := counting.stages i th later present
  obtain ⟨prog, tx⟩ := th
  obtain rfl : tx = none := closed
  cases stage with
  | begun result harmless same =>
    subst same
    rw [applyDecision_eq] at faulted
    obtain rfl := fault_replied faulted
    exact counting.threw later present rfl
  | read result now harmless same =>
    subst same
    obtain rfl := fault_replied faulted
    exact counting.threw later present rfl
  | settling result now guard harmless read same =>
    subst same
    have thrown := counting.threw later present (settle_running result now guard)
    unfold settle at faulted
    split at faulted
    · obtain rfl := fault_replied faulted
      exact thrown
    · split at faulted <;> obtain rfl := fault_replied faulted <;> exact thrown
  | returned reply same =>
    subst same
    cases faulted
  | thrown error same =>
    subst same
    cases faulted

theorem Counting.invoke (counting : Counting t first c) (numbered : first ≤ c.threads.length)
    {result : RiskResult} (harmless : result.shouldRevoke = false) {g : Global}
    (world : g.world = c.shared.world) :
    Counting t first
      { shared := g, threads := c.threads ++ [⟨replied (applyDecision t result), none⟩] } := by
  have same : completed first { shared := g
                                threads := c.threads ++ [⟨replied (applyDecision t result), none⟩] } =
      completed first c := by
    have begun : Thread.returned (⟨replied (applyDecision t result), none⟩ :
        Thread statements Tx Exn Reply) = none := rfl
    simp [completed, List.drop_append_of_le_length numbered, begun]
  have old_or_new {j : Nat} {a : Thread statements Tx Exn Reply}
      (here : (c.threads ++ [⟨replied (applyDecision t result), none⟩])[j]? = some a) :
      c.threads[j]? = some a ∨ a = ⟨replied (applyDecision t result), none⟩ := by
    simp only [List.getElem?_append, List.getElem?_singleton] at here
    split at here
    · exact .inl here
    · split at here
      · cases here
        exact .inr rfl
      · cases here
  constructor
  · intro j a from_first here
    rw [same]
    rcases old_or_new here with old | rfl
    · exact counting.stages j a from_first old
    · exact ⟨rfl, .begun result harmless rfl⟩
  · intro j k a b from_first from_first' here there decides decides'
    rcases old_or_new here with old | rfl
    · rcases old_or_new there with old' | rfl
      · exact counting.alone j k a b from_first from_first' old old' decides decides'
      · exact absurd decides' Bool.false_ne_true
    · exact absurd decides Bool.false_ne_true
  · rw [same, world]
    exact counting.counted
  · rw [same, world]
    exact counting.ticket

theorem Counting.step (counting : Counting t first c) {act : ServiceAct}
    (numbered : first ≤ c.threads.length)
    (allowed : attempts t first act) (alone : apart t first c act)
    (stepped : (service platform).step c act = some c') : Counting t first c' := by
  cases act with
  | invoke call =>
    cases call with
    | applyDecision id result =>
      simp only [attempts, Bool.and_eq_true, decide_eq_true_eq, Bool.not_eq_true'] at allowed
      obtain ⟨rfl, harmless⟩ := allowed
      cases stepped
      exact counting.invoke numbered harmless rfl
    | _ => exact absurd allowed Bool.false_ne_true
  | step i =>
    obtain ⟨th, present, moved⟩ := Option.bind_eq_some_iff.mp stepped
    exact counting.stepThread (of_decide_eq_true allowed) present alone moved
  | fault i =>
    obtain ⟨th, present, moved⟩ := Option.bind_eq_some_iff.mp stepped
    exact counting.faultThread (of_decide_eq_true allowed) present moved
  | environ action =>
    cases stepped
    have same : (action.apply c.shared.world).failures t = c.shared.world.failures t ∧
        (action.apply c.shared.world).ticket t = c.shared.world.ticket t := by
      cases action <;> exact ⟨rfl, rfl⟩
    exact ⟨counting.stages, counting.alone, same.1.trans counting.counted, same.2 ▸ counting.ticket⟩

theorem Counting.runs (runs : (service platform).RunsUnder
      (fun c act => attempts t first act ∧ apart t first c act) c c')
    (counting : Counting t first c) (numbered : first ≤ c.threads.length) : Counting t first c' := by
  induction runs using Relation.ReflTransGen.head_induction_on with
  | refl => exact counting
  | @head c₁ c₂ step _ ih =>
    obtain ⟨act, ⟨allowed, alone⟩, stepped⟩ := step
    refine ih (counting.step numbered allowed alone stepped) (Nat.le_trans numbered ?_)
    cases act with
    | invoke call =>
      cases stepped
      simp
    | step i =>
      obtain ⟨th, -, moved⟩ := Option.bind_eq_some_iff.mp stepped
      exact Nat.le_of_eq (System.stepThread_shared moved).2.symm
    | fault i =>
      obtain ⟨th, -, moved⟩ := Option.bind_eq_some_iff.mp stepped
      exact Nat.le_of_eq (System.faultThread_shared moved).2.symm
    | environ action =>
      cases stepped
      exact Nat.le_refl _

/-- As long as no call reads the share guard while another one decides, no failed attempt is
forgotten: `k` completed calls count `k` failures, and ten of them revoke the ticket. -/
theorem attempts_remembered {row : Ticket} (present : c.shared.world.ticket t = some row)
    (valid : row.revoked = false) (clean : c.shared.world.failures t = 0)
    (runs : (service platform).RunsUnder
      (fun c' act => attempts t c.threads.length act ∧ apart t c.threads.length c' act) c c')
    (returned : ∀ i th, c.threads.length ≤ i → c'.threads[i]? = some th → th.returned.isSome) :
    Remembered t (c'.threads.length - c.threads.length) c'.shared.world := by
  have none_yet : completed c.threads.length c = 0 := by simp [completed]
  have outside {i : Nat} {th : Thread statements Tx Exn Reply} (later : c.threads.length ≤ i)
      (here : c.threads[i]? = some th) : False := by
    have within : i < c.threads.length := (List.getElem?_eq_some_iff.mp here).1
    omega
  have begun : Counting t c.threads.length c := by
    refine ⟨fun i th later here => (outside later here).elim,
      fun i j a b later _ here => (outside later here).elim, ?_, row, present, ?_⟩
    · rw [none_yet]
      exact clean
    · simp [none_yet, valid, revokeThreshold]
  obtain ⟨-, -, counted, row', there, revoked⟩ := begun.runs runs (Nat.le_refl _)
  have all : completed c.threads.length c' = c'.threads.length - c.threads.length := by
    rw [← List.length_drop]
    refine List.countP_eq_length.mpr fun th member => ?_
    obtain ⟨j, here⟩ := List.mem_iff_getElem?.mp member
    rw [List.getElem?_drop] at here
    exact returned _ th (Nat.le_add_right _ j) here
  rw [all] at counted revoked
  simp only [revokeThreshold] at revoked
  constructor
  · intro few
    simp only [revokeThreshold] at few
    omega
  · intro few
    refine ⟨row', there, ?_⟩
    rw [← Bool.not_eq_true, revoked]
    simp only [revokeThreshold] at few
    omega
  · intro many
    exact ⟨row', there, revoked.mpr many⟩

section Samples

open Sample

def suspicious : RiskResult := calculateRisk { invalidNonce := true }

def untried : ServiceState := run (call 0 (.createTicket context ticketInput) 8)

-- Both calls read before either of them writes.
def overlapping : List ServiceAct :=
  [.invoke (.applyDecision ticket suspicious), .invoke (.applyDecision ticket suspicious),
    .step 1, .step 1, .step 2, .step 2, .step 1, .step 2]

def consecutive : List ServiceAct :=
  [.invoke (.applyDecision ticket suspicious), .invoke (.applyDecision ticket suspicious),
    .step 1, .step 1, .step 1, .step 2, .step 2, .step 2]

theorem untried_ticket : ∃ row, untried.shared.world.ticket ticket = some row ∧ row.revoked = false := by
  have found : (untried.shared.world.ticket ticket).isSome := by decide +kernel
  obtain ⟨row, present⟩ := Option.isSome_iff_exists.mp found
  have valid : (untried.shared.world.ticket ticket).all fun row => !row.revoked := by decide +kernel
  rw [present] at valid
  exact ⟨row, present, by simpa using valid⟩

theorem both_returned {c : ServiceState} (all : (c.threads.drop 1).all fun th => th.returned.isSome)
    (i : Nat) (th : Thread statements Tx Exn Reply) (later : untried.threads.length ≤ i)
    (here : c.threads[i]? = some th) : th.returned.isSome := by
  have one : untried.threads.length = 1 := by decide +kernel
  rw [one] at later
  refine List.all_eq_true.mp all th (List.mem_iff_getElem?.mpr ⟨i - 1, ?_⟩)
  rw [List.getElem?_drop, Nat.add_sub_cancel' later]
  exact here

theorem attempt_forgotten : ¬∀ (c c' : ServiceState) (t : Uuid) (row : Ticket),
    (service deployment).Reachable World.empty c → c.shared.world.ticket t = some row →
    row.revoked = false → c.shared.world.failures t = 0 →
    (service deployment).RunsBy (attempts t c.threads.length ·) c c' →
    (∀ i th, c.threads.length ≤ i → c'.threads[i]? = some th → th.returned.isSome) →
    Remembered t (c'.threads.length - c.threads.length) c'.shared.world := by
  intro remembered
  obtain ⟨row, present, valid⟩ := untried_ticket
  have all := remembered untried ((service deployment).run untried overlapping) ticket row
    (reachable_run _) present valid (by decide +kernel)
    (System.runsBy_run _ _ _ (by decide +kernel)) (both_returned (by decide +kernel))
  have counted := all.counted (by decide +kernel)
  revert counted
  decide +kernel

theorem attempts_remembered_two :
    Remembered ticket 2 ((service deployment).run untried consecutive).shared.world := by
  obtain ⟨row, present, valid⟩ := untried_ticket
  have clean : untried.shared.world.failures ticket = 0 := by decide +kernel
  have allows : (service deployment).Allows (fun c act => attempts ticket untried.threads.length act ∧
      apart ticket untried.threads.length c act) untried consecutive := by decide +kernel
  have two : ((service deployment).run untried consecutive).threads.length -
      untried.threads.length = 2 := by decide +kernel
  rw [← two]
  exact attempts_remembered present valid clean (System.runsUnder_run _ _ _ allows)
    (both_returned (by decide +kernel))

end Samples

end TicketService
