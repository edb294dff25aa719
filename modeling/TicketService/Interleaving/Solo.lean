import TicketService.Interleaving.Sequential

set_option autoImplicit false

namespace Interleaving

variable {S : Signature} {World Tx Lock Env Call ε α : Type}

def Event.isRollback : Event S World Tx → Bool
  | .rollback .. => true
  | _ => false

abbrev Log (S : Signature) (World Tx : Type) : Type := List (Event S World Tx)

def Engine.logged (E : Engine S World Tx Lock Env) (i : Nat) :
    Engine S (World × Log S World Tx) Tx Lock Env where
  conflict := E.conflict
  fresh := E.fresh
  held := E.held
  needs stmt w tx := E.needs stmt w.1 tx
  autocommit := E.autocommit
  exec stmt w tx := (E.exec stmt w.1 tx).map fun (result, world, tx') =>
    (result, (world, .stmt i stmt result w.1 :: w.2), tx')
  publish t w := (E.publish t w.1, .commit i t w.1 :: w.2)
  environ action w := (E.environ action w.1, w.2)

def Shared.logged (g : Shared S World Tx Call) : World × Log S World Tx :=
  (g.world, g.history.filter fun e => !e.isRollback)

@[simp] theorem Shared.logged_record (g : Shared S World Tx Call) (i : Nat) (stmt : S.Stmt)
    (result : S.Res stmt) (w : World) :
    (g.record i stmt result w).logged = (w, .stmt i stmt result g.world :: g.logged.2) := by
  simp [logged, record, Event.isRollback]

@[simp] theorem Shared.logged_commit (E : Engine S World Tx Lock Env)
    (g : Shared S World Tx Call) (i : Nat) (t : Tx) :
    (g.commit E i t).logged = (E.logged i).publish t g.logged := by
  simp [logged, commit, Event.isRollback, Engine.logged]

@[simp] theorem Shared.logged_rollback (g : Shared S World Tx Call) (i : Nat) :
    (g.rollback i).logged = g.logged := by
  simp [logged, rollback, Event.isRollback]

theorem Engine.logged_exec {E : Engine S World Tx Lock Env} {i : Nat} {stmt : S.Stmt}
    {w w' : World × Log S World Tx} {tx tx' : Option Tx} {result : S.Res stmt} :
    (E.logged i).exec stmt w tx = some (result, w', tx') ↔
      E.exec stmt w.1 tx = some (result, w'.1, tx') ∧ w'.2 = .stmt i stmt result w.1 :: w.2 := by
  obtain ⟨world', log'⟩ := w'
  simp only [logged, Option.map_eq_some_iff, Prod.mk.injEq, Prod.exists]
  constructor
  · rintro ⟨_, world, tx'', executed, rfl, ⟨rfl, rfl⟩, rfl⟩
    exact ⟨executed, rfl⟩
  · rintro ⟨executed, rfl⟩
    exact ⟨result, world', tx', executed, rfl, ⟨rfl, rfl⟩, rfl⟩

namespace Alone

variable {E : Engine S World Tx Lock Env} {passes : Env → Prop} {i : Nat} {p : Prog S ε α}
  {tx tx' : Option Tx} {out : Except ε α}

theorem thrown {error : ε} {t : Tx} {w w' : World}
    (run : Alone E passes (.throw error : Prog S ε α) none w out tx' w') :
    Alone E passes (.throw error) (some t) w out tx' w' := by
  obtain ⟨rfl, rfl, after⟩ := run.throw_cases
  exact .later after (.throw error (some t) w')

end Alone

namespace System

variable {sys : System S World Tx Lock Env Call ε α} {passes : Env → Prop} {i : Nat}

def Stopped (th : Thread S Tx ε α) (out : Except ε α) : Prop :=
  th.prog = Prog.ended out ∧ ∀ error, out = .error error → th.tx = none

private theorem alone_step {c c₁ : sys.State} {th : Thread S Tx ε α} {out : Except ε α}
    {tx' : Option Tx} {w' : World × Log S World Tx} (present : c.threads[i]? = some th)
    (stepped : sys.stepThread c i th = some c₁)
    (rest : ∀ th₁, c₁.threads[i]? = some th₁ →
      Alone (sys.engine.logged i) passes th₁.prog th₁.tx c₁.shared.logged out tx' w') :
    Alone (sys.engine.logged i) passes th.prog th.tx c.shared.logged out tx' w' := by
  have within : i < c.threads.length := (List.getElem?_eq_some_iff.mp present).1
  obtain ⟨prog, tx⟩ := th
  cases prog with
  | done value => cases stepped
  | throw error =>
    cases tx with
    | none => cases stepped
    | some t =>
      cases stepped
      have after := rest ⟨.throw error, none⟩ (by simp [within])
      rw [Shared.logged_rollback] at after
      exact after.thrown
  | call stmt next =>
    simp only [System.stepThread] at stepped
    split at stepped
    next unblocked =>
      split at stepped
      next result world tx₁ executed =>
        cases stepped
        have after := rest ⟨next (some result), tx₁⟩ (by simp [within])
        rw [Shared.logged_record] at after
        have free : (sys.engine.logged i).Free stmt c.shared.logged tx := by
          intro auto
          exact unblocked i (List.mem_range.mpr within) (.inr auto) _ (by rw [present]; rfl)
        have logged : (sys.engine.logged i).exec stmt c.shared.logged tx =
            some (result, (world, .stmt i stmt result c.shared.world :: c.shared.logged.2), tx₁) :=
          Engine.logged_exec.mpr ⟨executed, rfl⟩
        exact .call free logged after
      next =>
        cases stepped
        exact .fails (rest ⟨next none, tx⟩ (by simp [within]))
    next => cases stepped
  | start next =>
    cases stepped
    exact .start (rest ⟨next, some sys.engine.fresh⟩ (by simp [within]))
  | commit next =>
    cases tx with
    | none => cases stepped
    | some t =>
      cases stepped
      have after := rest ⟨next true, none⟩ (by simp [within])
      rw [Shared.logged_commit] at after
      exact .commit after

private theorem alone_fault {c c₁ : sys.State} {th : Thread S Tx ε α} {out : Except ε α}
    {tx' : Option Tx} {w' : World × Log S World Tx} (present : c.threads[i]? = some th)
    (faulted : sys.faultThread c i th = some c₁)
    (rest : ∀ th₁, c₁.threads[i]? = some th₁ →
      Alone (sys.engine.logged i) passes th₁.prog th₁.tx c₁.shared.logged out tx' w') :
    Alone (sys.engine.logged i) passes th.prog th.tx c.shared.logged out tx' w' := by
  have within : i < c.threads.length := (List.getElem?_eq_some_iff.mp present).1
  obtain ⟨prog, tx⟩ := th
  cases prog with
  | call stmt next =>
    cases faulted
    exact .fails (rest ⟨next none, tx⟩ (by simp [within]))
  | commit next =>
    cases faulted
    have after := rest ⟨next false, none⟩ (by simp [within])
    rw [Shared.logged_rollback] at after
    exact .aborts after
  | _ => cases faulted

/-- A run in which only thread `i` takes steps, until it has stopped, is an execution of its
program alone. -/
theorem SoloRuns.alone {c c' : sys.State} (runs : sys.SoloRuns passes i c c')
    {th th' : Thread S Tx ε α} {out : Except ε α} (present : c.threads[i]? = some th)
    (last : c'.threads[i]? = some th') (stopped : Stopped th' out) :
    Alone (sys.engine.logged i) passes th.prog th.tx c.shared.logged out th'.tx
      c'.shared.logged := by
  induction runs using Relation.ReflTransGen.head_induction_on generalizing th with
  | refl =>
    obtain rfl : th = th' := Option.some.inj (present.symm.trans last)
    obtain ⟨ended, closed⟩ := stopped
    cases out with
    | ok value =>
      rw [ended]
      exact .done value th.tx _
    | error error =>
      rw [ended, closed error rfl]
      exact .throw error none _
  | head first _ ih =>
    obtain ⟨act, solo, stepped⟩ := first
    cases act with
    | invoke call => exact solo.elim
    | step j =>
      obtain rfl : j = i := solo
      obtain ⟨th₀, there, moved⟩ := Option.bind_eq_some_iff.mp stepped
      obtain rfl : th₀ = th := Option.some.inj (there.symm.trans present)
      exact alone_step present moved fun th₁ => ih
    | fault j =>
      obtain rfl : j = i := solo
      obtain ⟨th₀, there, moved⟩ := Option.bind_eq_some_iff.mp stepped
      obtain rfl : th₀ = th := Option.some.inj (there.symm.trans present)
      exact alone_fault present moved fun th₁ => ih
    | environ action =>
      cases stepped
      exact .environ action solo (ih present)

theorem stepThread_set {c c' : sys.State} {th : Thread S Tx ε α} (stepped : sys.stepThread c i th = some c') :
    ∃ th', c'.threads = c.threads.set i th' := by
  obtain ⟨prog, tx⟩ := th
  cases prog with
  | done value => cases stepped
  | throw error =>
    cases tx with
    | none => cases stepped
    | some t =>
      cases stepped
      exact ⟨_, rfl⟩
  | call stmt next =>
    simp only [System.stepThread] at stepped
    split at stepped
    · split at stepped <;> cases stepped <;> exact ⟨_, rfl⟩
    · cases stepped
  | start next =>
    cases stepped
    exact ⟨_, rfl⟩
  | commit next =>
    cases tx with
    | none => cases stepped
    | some t =>
      cases stepped
      exact ⟨_, rfl⟩

theorem faultThread_set {c c' : sys.State} {th : Thread S Tx ε α} (faulted : sys.faultThread c i th = some c') :
    ∃ th', c'.threads = c.threads.set i th' := by
  obtain ⟨prog, tx⟩ := th
  cases prog with
  | call stmt next =>
    cases faulted
    exact ⟨_, rfl⟩
  | commit next =>
    cases faulted
    exact ⟨_, rfl⟩
  | _ => cases faulted

theorem SoloRuns.frame {c c' : sys.State} (runs : sys.SoloRuns passes i c c') :
    (∀ j, j ≠ i → c'.threads[j]? = c.threads[j]?) ∧ c'.shared.calls = c.shared.calls := by
  induction runs with
  | refl => exact ⟨fun _ _ => rfl, rfl⟩
  | @tail c₁ c' _ last ih =>
    have moved {th' : Thread S Tx ε α} (threads : c'.threads = c₁.threads.set i th')
        (calls : c'.shared.calls = c₁.shared.calls) :
        (∀ j, j ≠ i → c'.threads[j]? = c.threads[j]?) ∧ c'.shared.calls = c.shared.calls := by
      refine ⟨fun j other => ?_, calls.trans ih.2⟩
      rw [threads, List.getElem?_set_ne (Ne.symm other)]
      exact ih.1 j other
    have kept {g g' : Shared S World Tx Call} (step : g.StepBy sys.engine i g') : g'.calls = g.calls := by
      cases step <;> rfl
    obtain ⟨act, solo, stepped⟩ := last
    cases act with
    | invoke call => exact solo.elim
    | step j =>
      obtain rfl : j = i := solo
      obtain ⟨th, -, moves⟩ := Option.bind_eq_some_iff.mp stepped
      obtain ⟨th', threads⟩ := stepThread_set moves
      exact moved threads (kept (System.stepThread_shared moves).1)
    | fault j =>
      obtain rfl : j = i := solo
      obtain ⟨th, -, moves⟩ := Option.bind_eq_some_iff.mp stepped
      obtain ⟨th', threads⟩ := faultThread_set moves
      exact moved threads (kept (System.faultThread_shared moves).1)
    | environ action =>
      cases stepped
      exact ih

theorem step_recorded {c c' : sys.State} {act : Act Call Env} (stepped : sys.step c act = some c') :
    c'.shared.history = c.shared.history ∨
      ∃ e, c'.shared.history = e :: c.shared.history ∧ e.world = c.shared.world := by
  have recorded {i : Nat} {g g' : Shared S World Tx Call} (step : g.StepBy sys.engine i g') :
      g'.history = g.history ∨ ∃ e, g'.history = e :: g.history ∧ e.world = g.world := by
    cases step with
    | keep => exact .inl rfl
    | record => exact .inr ⟨_, rfl, rfl⟩
    | commit => exact .inr ⟨_, rfl, rfl⟩
    | rollback => exact .inr ⟨_, rfl, rfl⟩
  cases act with
  | invoke call =>
    cases stepped
    exact .inl rfl
  | step i =>
    obtain ⟨th, -, moved⟩ := Option.bind_eq_some_iff.mp stepped
    exact recorded (System.stepThread_shared moved).1
  | fault i =>
    obtain ⟨th, -, moved⟩ := Option.bind_eq_some_iff.mp stepped
    exact recorded (System.faultThread_shared moved).1
  | environ action =>
    cases stepped
    exact .inl rfl

theorem step_history {c c' : sys.State} {act : Act Call Env} (stepped : sys.step c act = some c') :
    c.shared.history <:+ c'.shared.history := by
  rcases step_recorded stepped with same | ⟨e, added, -⟩
  · exact same ▸ List.suffix_refl _
  · exact added ▸ List.suffix_cons ..

theorem runs_history {c c' : sys.State} (runs : sys.Runs c c') :
    c.shared.history <:+ c'.shared.history := by
  induction runs with
  | refl => exact List.suffix_refl _
  | tail _ last ih =>
    obtain ⟨act, stepped⟩ := last
    exact ih.trans (step_history stepped)

theorem run_history (c : sys.State) (acts : List (Act Call Env)) :
    c.shared.history <:+ (sys.run c acts).shared.history := by
  induction acts generalizing c with
  | nil => exact List.suffix_refl _
  | cons act rest ih =>
    have first : c.shared.history <:+ ((sys.step c act).getD c).shared.history := by
      cases stepped : sys.step c act with
      | none => exact List.suffix_refl _
      | some c' => exact step_history stepped
    exact first.trans (ih _)

section Past

variable {world : World} {c : sys.State}

/-- A recorded step was taken in a state of the run. -/
theorem state_of_history (reachable : sys.Reachable world c) :
    ∀ e ∈ c.shared.history,
      ∃ before, sys.Reachable world before ∧ sys.Runs before c ∧ before.shared.world = e.world := by
  induction reachable with
  | refl =>
    intro e member
    cases member
  | @tail c c' here last ih =>
    intro e member
    have earlier (old : e ∈ c.shared.history) : ∃ before, sys.Reachable world before ∧
        sys.Runs before c' ∧ before.shared.world = e.world := by
      obtain ⟨before, reached, runs, same⟩ := ih e old
      exact ⟨before, reached, runs.tail last, same⟩
    obtain ⟨act, stepped⟩ := last
    rcases step_recorded stepped with same | ⟨new, added, found⟩
    · rw [same] at member
      exact earlier member
    · rw [added] at member
      rcases List.mem_cons.mp member with rfl | old
      · exact ⟨c, here, .single ⟨act, stepped⟩, found.symm⟩
      · exact earlier old

theorem pairwise_of_history {R : World → World → Prop} (reachable : sys.Reachable world c)
    (related : ∀ c c', sys.Reachable world c → sys.Runs c c' → R c.shared.world c'.shared.world) :
    c.shared.history.Pairwise fun later earlier => R earlier.world later.world := by
  induction reachable with
  | refl => exact .nil
  | @tail c c' here last ih =>
    obtain ⟨act, stepped⟩ := last
    rcases step_recorded stepped with same | ⟨new, added, found⟩
    · rw [same]
      exact ih
    · rw [added]
      refine .cons (fun e member => ?_) ih
      obtain ⟨before, reached, runs, same⟩ := state_of_history here e member
      rw [found, ← same]
      exact related before c reached runs

end Past

end System

end Interleaving
