import TicketService.Interleaving.Solo

set_option autoImplicit false

namespace Interleaving

variable {S : Signature} {World Tx Lock Env Call ε α β : Type}

structure Mishaps (S : Signature) (World Tx : Type) where
  fails : S.Stmt → World → Option Tx → Prop
  aborts : Prop

def Mishaps.any : Mishaps S World Tx := ⟨fun _ _ _ => True, True⟩

def Shared.own (g : Shared S World Tx Call) (i : Nat) : Log S World Tx :=
  g.logged.2.filter fun e => e.thread = i

section Own

variable (g : Shared S World Tx Call) (i j : Nat)

@[simp] theorem Shared.own_record (stmt : S.Stmt) (result : S.Res stmt) (w : World) :
    (g.record j stmt result w).own i =
      if j = i then .stmt j stmt result g.world :: g.own i else g.own i := by
  have thread : (Event.stmt j stmt result g.world : Event S World Tx).thread = j := rfl
  simp [own, List.filter_cons, thread]

@[simp] theorem Shared.own_commit (E : Engine S World Tx Lock Env) (t : Tx) :
    (g.commit E j t).own i = if j = i then .commit j t g.world :: g.own i else g.own i := by
  have thread : (Event.commit j t g.world : Event S World Tx).thread = j := rfl
  have recorded : ((E.logged j).publish t g.logged).2 = .commit j t g.world :: g.logged.2 := rfl
  simp [own, recorded, List.filter_cons, thread]

@[simp] theorem Shared.own_rollback : (g.rollback j).own i = g.own i := by
  simp [own]

theorem Shared.mem_own {e : Event S World Tx} :
    e ∈ g.own i ↔ e ∈ g.history ∧ e.thread = i ∧ e.isRollback = false := by
  simp only [own, logged, List.mem_filter, decide_eq_true_eq, Bool.not_eq_eq_eq_not, Bool.not_true]
  constructor
  · rintro ⟨⟨member, kind⟩, thread⟩
    exact ⟨member, thread, kind⟩
  · rintro ⟨member, thread, kind⟩
    exact ⟨⟨member, kind⟩, thread⟩

theorem Shared.own_sublist : (g.own i).Sublist g.history :=
  List.filter_sublist.trans List.filter_sublist

variable {f : Event S World Tx → Option α} (thread : α → Nat) {g}

theorem Shared.count_filterMap_le [DecidableEq α] {a : α}
    (own : ∀ e ∈ g.history, f e = some a → e.thread = thread a ∧ e.isRollback = false) :
    (g.history.filterMap f).count a ≤ ((g.own (thread a)).filterMap f).length := by
  have same : g.own (thread a) = g.history.filter fun e => e.thread = thread a ∧ e.isRollback = false := by
    simp [Shared.own, Shared.logged, List.filter_filter]
  rw [List.count_filterMap, List.length_filterMap_eq_countP, same, List.countP_filter]
  refine List.countP_mono_left fun e member given => ?_
  have found : f e = some a := beq_iff_eq.mp given
  simp [found, own e member found]

theorem Shared.nodup_filterMap [DecidableEq α]
    (own : ∀ e ∈ g.history, ∀ a, f e = some a → e.thread = thread a ∧ e.isRollback = false)
    (once : ∀ a ∈ g.history.filterMap f, ((g.own (thread a)).filterMap f).length ≤ 1) :
    (g.history.filterMap f).Nodup := by
  refine List.nodup_iff_count.mpr fun a => ?_
  by_cases member : a ∈ g.history.filterMap f
  · exact Nat.le_trans (count_filterMap_le thread fun e recorded => own e recorded a) (once a member)
  · rw [List.count_eq_zero_of_not_mem member]
    exact Nat.zero_le 1

end Own

/-- `Q` holds when the program has returned and `throws` when it has thrown; `keeps` holds after
each of its statements and commits. -/
def Along (E : Engine S World Tx Lock Env) (m : Mishaps S World Tx) (i : Nat)
    (keeps : Log S World Tx → Prop) (throws : ε → Log S World Tx → Prop)
    (Q : α → Option Tx → Log S World Tx → Prop) :
    Prog S ε α → Option Tx → Log S World Tx → Prop
  | .done value, tx, log => Q value tx log
  | .throw error, _, log => throws error log
  | .call stmt next, tx, log =>
    (∀ result w w' tx', E.exec stmt w tx = some (result, w', tx') →
      keeps (.stmt i stmt result w :: log) ∧
        Along E m i keeps throws Q (next (some result)) tx' (.stmt i stmt result w :: log)) ∧
    ∀ w, m.fails stmt w tx → Along E m i keeps throws Q (next none) tx log
  | .start next, _, log => Along E m i keeps throws Q next (some E.fresh) log
  | .commit next, tx, log =>
    (∀ t w, tx = some t → keeps (.commit i t w :: log) ∧
      Along E m i keeps throws Q (next true) none (.commit i t w :: log)) ∧
    (m.aborts → Along E m i keeps throws Q (next false) none log)

namespace Along

variable {E : Engine S World Tx Lock Env} {m : Mishaps S World Tx} {i : Nat}
  {keeps : Log S World Tx → Prop} {throws : ε → Log S World Tx → Prop}
  {Q R : α → Option Tx → Log S World Tx → Prop} {p : Prog S ε α} {tx : Option Tx}
  {log : Log S World Tx}

theorem mono (along : Along E m i keeps throws Q p tx log)
    (weaker : ∀ value tx log, Q value tx log → R value tx log) :
    Along E m i keeps throws R p tx log := by
  induction p generalizing tx log with
  | done value => exact weaker _ _ _ along
  | throw error => exact along
  | call stmt next ih =>
    refine ⟨fun result w w' tx' executed => ?_, fun w failed => ih _ (along.2 w failed)⟩
    obtain ⟨kept, rest⟩ := along.1 result w w' tx' executed
    exact ⟨kept, ih _ rest⟩
  | start next ih => exact ih along
  | commit next ih =>
    refine ⟨fun t w opened => ?_, fun aborted => ih _ (along.2 aborted)⟩
    obtain ⟨kept, rest⟩ := along.1 t w opened
    exact ⟨kept, ih _ rest⟩

theorem bind {f : α → Prog S ε β} {Q : β → Option Tx → Log S World Tx → Prop}
    (along : Along E m i keeps throws
      (fun value tx log => Along E m i keeps throws Q (f value) tx log) p tx log) :
    Along E m i keeps throws Q (p.bind f) tx log := by
  induction p generalizing tx log with
  | done value => exact along
  | throw error => exact along
  | call stmt next ih =>
    refine ⟨fun result w w' tx' executed => ?_, fun w failed => ih _ (along.2 w failed)⟩
    obtain ⟨kept, rest⟩ := along.1 result w w' tx' executed
    exact ⟨kept, ih _ rest⟩
  | start next ih => exact ih along
  | commit next ih =>
    refine ⟨fun t w opened => ?_, fun aborted => ih _ (along.2 aborted)⟩
    obtain ⟨kept, rest⟩ := along.1 t w opened
    exact ⟨kept, ih _ rest⟩

theorem andThen {f : α → Prog S ε β} {Q : β → Option Tx → Log S World Tx → Prop}
    (along : Along E m i keeps throws R p tx log)
    (rest : ∀ value tx log, R value tx log → Along E m i keeps throws Q (f value) tx log) :
    Along E m i keeps throws Q (p.bind f) tx log :=
  (along.mono rest).bind

theorem perform {failure : ε} {stmt : S.Stmt} {Q : S.Res stmt → Option Tx → Log S World Tx → Prop}
    (step : ∀ result w w' tx', E.exec stmt w tx = some (result, w', tx') →
      keeps (.stmt i stmt result w :: log) ∧ Q result tx' (.stmt i stmt result w :: log))
    (fails : ∀ w, m.fails stmt w tx → throws failure log) :
    Along E m i keeps throws Q (Prog.perform failure stmt) tx log :=
  ⟨step, fails⟩

theorem transaction {failure : ε} {body : Prog S ε α}
    (along : Along E m i keeps throws (fun value tx log =>
      (∀ t w, tx = some t → keeps (.commit i t w :: log) ∧ Q value none (.commit i t w :: log)) ∧
        (m.aborts → throws failure log)) body (some E.fresh) log) :
    Along E m i keeps throws Q (Prog.transaction failure body) tx log :=
  bind (p := body) along

theorem invariant {I : Option Tx → Log S World Tx → Prop}
    (steps : ∀ stmt w tx result w' tx' log, I tx log → E.exec stmt w tx = some (result, w', tx') →
      I tx' (.stmt i stmt result w :: log) ∧ keeps (.stmt i stmt result w :: log))
    (opens : ∀ tx log, I tx log → I (some E.fresh) log)
    (commits : ∀ t w log, I (some t) log →
      I none (.commit i t w :: log) ∧ keeps (.commit i t w :: log))
    (aborts : ∀ tx log, I tx log → I none log) (fails : ∀ error tx log, I tx log → throws error log)
    (returns : ∀ value tx log, I tx log → Q value tx log) (holds : I tx log) :
    Along E m i keeps throws Q p tx log := by
  induction p generalizing tx log with
  | done value => exact returns value tx log holds
  | throw error => exact fails error tx log holds
  | call stmt next ih =>
    refine ⟨fun result w w' tx' executed => ?_, fun w _ => ih _ holds⟩
    obtain ⟨after, kept⟩ := steps stmt w tx result w' tx' log holds executed
    exact ⟨kept, ih _ after⟩
  | start next ih => exact ih (opens tx log holds)
  | commit next ih =>
    refine ⟨?_, fun _ => ih _ (aborts tx log holds)⟩
    rintro t w rfl
    obtain ⟨after, kept⟩ := commits t w log holds
    exact ⟨kept, ih _ after⟩

theorem always (keeps_all : ∀ later, keeps (later ++ log))
    (fails : ∀ error later, throws error (later ++ log))
    (returns : ∀ value tx later, Q value tx (later ++ log)) :
    Along E m i keeps throws Q p tx log := by
  have longer (e : Event S World Tx) {log' : Log S World Tx}
      (longer : ∃ later, log' = later ++ log) : ∃ later, e :: log' = later ++ log := by
    obtain ⟨later, rfl⟩ := longer
    exact ⟨e :: later, rfl⟩
  refine invariant (I := fun _ log' => ∃ later, log' = later ++ log) ?_ ?_ ?_ ?_ ?_ ?_ ⟨[], rfl⟩
  · intro stmt w tx result w' tx' log' before _
    have after := longer (.stmt i stmt result w) before
    obtain ⟨later, extended⟩ := after
    exact ⟨⟨later, extended⟩, extended ▸ keeps_all later⟩
  · exact fun _ _ same => same
  · intro t w log' before
    obtain ⟨later, extended⟩ := longer (.commit i t w) before
    exact ⟨⟨later, extended⟩, extended ▸ keeps_all later⟩
  · exact fun _ _ same => same
  · rintro error tx _ ⟨later, rfl⟩
    exact fails error later
  · rintro value tx _ ⟨later, rfl⟩
    exact returns value tx later

end Along

namespace Prog

def Issues (kind : S.Stmt → Prop) : Prog S ε α → Prop
  | .done _ => True
  | .throw _ => True
  | .call stmt next => kind stmt ∧ ∀ result, (next result).Issues kind
  | .start next => next.Issues kind
  | .commit next => ∀ committed, (next committed).Issues kind

namespace Issues

variable {kind : S.Stmt → Prop} {p : Prog S ε α}

theorem perform {failure : ε} {stmt : S.Stmt} (allowed : kind stmt) :
    (Prog.perform failure stmt).Issues kind := by
  refine ⟨allowed, fun result => ?_⟩
  cases result <;> trivial

theorem bind {f : α → Prog S ε β} (first : p.Issues kind) (rest : ∀ value, (f value).Issues kind) :
    (p.bind f).Issues kind := by
  induction p with
  | done value => exact rest value
  | throw error => trivial
  | call stmt next ih => exact ⟨first.1, fun result => ih result (first.2 result)⟩
  | start next ih => exact ih first
  | commit next ih => exact fun committed => ih committed (first committed)

theorem mono {kind' : S.Stmt → Prop} (issues : p.Issues kind)
    (weaker : ∀ stmt, kind stmt → kind' stmt) : p.Issues kind' := by
  induction p with
  | done value => trivial
  | throw error => trivial
  | call stmt next ih => exact ⟨weaker stmt issues.1, fun result => ih result (issues.2 result)⟩
  | start next ih => exact ih issues
  | commit next ih => exact fun committed => ih committed (issues committed)

theorem marks {asks : S.Stmt → Bool} {P : Bool → α → Prop} {asked : Bool}
    (issues : p.Issues fun stmt => asks stmt = false) (returns : ∀ value, P asked value) :
    p.Marks asks P asked := by
  induction p with
  | done value => exact returns value
  | throw => trivial
  | call stmt next ih =>
    intro result
    rw [issues.1, Bool.or_false]
    exact ih result (issues.2 result)
  | start next ih => exact ih issues
  | commit next ih => exact fun committed => ih committed (issues committed)

theorem transaction {failure : ε} (body : p.Issues kind) :
    (Prog.transaction failure p).Issues kind := by
  refine bind body fun value committed => ?_
  cases committed <;> trivial

end Issues

end Prog

theorem Along.of_issues {E : Engine S World Tx Lock Env} {m : Mishaps S World Tx} {i : Nat}
    {keeps : Log S World Tx → Prop} {throws : ε → Log S World Tx → Prop} {kind : S.Stmt → Prop}
    {I : Log S World Tx → Prop} {p : Prog S ε α} {tx : Option Tx} {log : Log S World Tx}
    (issues : p.Issues kind)
    (steps : ∀ stmt result w log, kind stmt → I log → I (.stmt i stmt result w :: log))
    (commits : ∀ t w log, I log → I (.commit i t w :: log)) (kept : ∀ log, I log → keeps log)
    (fails : ∀ error log, I log → throws error log) (holds : I log) :
    Along E m i keeps throws (fun _ _ log => I log) p tx log := by
  induction p generalizing tx log with
  | done value => exact holds
  | throw error => exact fails error log holds
  | call stmt next ih =>
    refine ⟨fun result w w' tx' _ => ?_, fun _ _ => ih _ (issues.2 none) holds⟩
    have after := steps stmt result w log issues.1 holds
    exact ⟨kept _ after, ih _ (issues.2 _) after⟩
  | start next ih => exact ih issues holds
  | commit next ih =>
    refine ⟨fun t w _ => ?_, fun _ => ih _ (issues false) holds⟩
    have after := commits t w log holds
    exact ⟨kept _ after, ih _ (issues true) after⟩

/-- What the record of each call says while the call goes on and when it has ended. -/
structure Story (S : Signature) (World Tx Call ε α : Type) where
  keeps : Nat → Call → Log S World Tx → Prop
  returns : Nat → Call → α → Log S World Tx → Prop
  throws : Nat → Call → ε → Log S World Tx → Prop

namespace System

variable (sys : System S World Tx Lock Env Call ε α)

-- The runs whose acts are all allowed in the state in which they are taken.
abbrev RunsUnder (allowed : sys.State → Act Call Env → Prop) : sys.State → sys.State → Prop :=
  Relation.ReflTransGen fun c c' => ∃ act, allowed c act ∧ sys.step c act = some c'

def Allows (allowed : sys.State → Act Call Env → Prop) (c : sys.State) :
    List (Act Call Env) → Prop
  | [] => True
  | act :: rest => allowed c act ∧ Allows allowed ((sys.step c act).getD c) rest

instance decidableAllows (allowed : sys.State → Act Call Env → Prop)
    [∀ c act, Decidable (allowed c act)] (c : sys.State) (acts : List (Act Call Env)) :
    Decidable (sys.Allows allowed c acts) :=
  match acts with
  | [] => inferInstanceAs (Decidable True)
  | act :: rest =>
    have := decidableAllows allowed ((sys.step c act).getD c) rest
    inferInstanceAs (Decidable (_ ∧ _))

theorem allows_and {each : Act Call Env → Prop} {allowed : sys.State → Act Call Env → Prop}
    {c : sys.State} {acts : List (Act Call Env)} (all : ∀ act ∈ acts, each act)
    (allows : sys.Allows allowed c acts) : sys.Allows (fun c act => each act ∧ allowed c act) c acts := by
  induction acts generalizing c with
  | nil => trivial
  | cons act rest ih =>
    rw [List.forall_mem_cons] at all
    exact ⟨⟨all.1, allows.1⟩, ih all.2 allows.2⟩

theorem runsUnder_run {allowed : sys.State → Act Call Env → Prop} (c : sys.State)
    (acts : List (Act Call Env)) (allows : sys.Allows allowed c acts) :
    sys.RunsUnder allowed c (sys.run c acts) := by
  induction acts generalizing c with
  | nil => exact .refl
  | cons act rest ih =>
    have later := ih _ allows.2
    cases stepped : sys.step c act with
    | none =>
      have skipped : sys.run c (act :: rest) = sys.run c rest := by simp [run, stepped]
      rw [skipped]
      simpa [stepped] using later
    | some c' =>
      have taken : sys.run c (act :: rest) = sys.run c' rest := by simp [run, stepped]
      rw [taken]
      rw [stepped] at later
      exact .head ⟨act, allows.1, stepped⟩ later

def Spared (m : Mishaps S World Tx) (c : sys.State) : Act Call Env → Prop
  | .step i => ∀ th stmt next, c.threads[i]? = some th → th.prog = .call stmt next →
      sys.engine.exec stmt c.shared.world th.tx = none → m.fails stmt c.shared.world th.tx
  | .fault i => ∀ th, c.threads[i]? = some th →
      (∀ stmt next, th.prog = .call stmt next → m.fails stmt c.shared.world th.tx) ∧
        ∀ next, th.prog = .commit next → m.aborts
  | _ => True

def Tells (story : Story S World Tx Call ε α) (m : Mishaps S World Tx) (i : Nat) (call : Call)
    (th : Thread S Tx ε α) (log : Log S World Tx) : Prop :=
  Along sys.engine m i (story.keeps i call) (story.throws i call)
    (fun value _ log => story.returns i call value log) th.prog th.tx log

structure Tracked (story : Story S World Tx Call ε α) (m : Mishaps S World Tx)
    (c : sys.State) : Prop where
  numbered : c.threads.length = c.shared.calls.length
  kept : ∀ i call, c.shared.calls[i]? = some call → c.shared.own i ≠ [] →
    story.keeps i call (c.shared.own i)
  along : ∀ i th call, c.threads[i]? = some th → c.shared.calls[i]? = some call →
    sys.Tells story m i call th (c.shared.own i)

variable {sys} {story : Story S World Tx Call ε α} {m : Mishaps S World Tx} {c c' : sys.State}
  {i : Nat}

theorem runs_of_runsUnder {allowed : sys.State → Act Call Env → Prop}
    (runs : sys.RunsUnder allowed c c') : sys.Runs c c' :=
  Relation.ReflTransGen.mono (fun _ _ ⟨act, _, stepped⟩ => ⟨act, stepped⟩) _ _ runs

theorem step_calls {act : Act Call Env} (stepped : sys.step c act = some c') :
    c'.shared.calls = c.shared.calls ∨
      ∃ call, act = .invoke call ∧ c'.shared.calls = c.shared.calls ++ [call] := by
  have same {i : Nat} {g g' : Shared S World Tx Call} (step : g.StepBy sys.engine i g') :
      g'.calls = g.calls := by
    cases step <;> rfl
  cases act with
  | invoke call =>
    cases stepped
    exact .inr ⟨call, rfl, rfl⟩
  | step i =>
    obtain ⟨th, -, moved⟩ := Option.bind_eq_some_iff.mp stepped
    exact .inl (same (System.stepThread_shared moved).1)
  | fault i =>
    obtain ⟨th, -, moved⟩ := Option.bind_eq_some_iff.mp stepped
    exact .inl (same (System.faultThread_shared moved).1)
  | environ action =>
    cases stepped
    exact .inl rfl

theorem Tracked.update (tracked : sys.Tracked story m c) {th th' : Thread S Tx ε α}
    (present : c.threads[i]? = some th) {g : Shared S World Tx Call}
    (calls : g.calls = c.shared.calls) (others : ∀ j, j ≠ i → g.own j = c.shared.own j)
    (kept : ∀ call, c.shared.calls[i]? = some call →
      g.own i = c.shared.own i ∨ story.keeps i call (g.own i))
    (along : ∀ call, c.shared.calls[i]? = some call → sys.Tells story m i call th' (g.own i)) :
    sys.Tracked story m { shared := g, threads := c.threads.set i th' } where
  numbered := by simp [calls, tracked.numbered]
  kept j call called recorded := by
    have called' : c.shared.calls[j]? = some call := calls ▸ called
    by_cases self : j = i
    · subst self
      rcases kept call called' with same | keeps
      · rw [same]
        refine tracked.kept j call called' fun empty => recorded ?_
        exact same.trans empty
      · exact keeps
    · have same := others j self
      refine same ▸ tracked.kept j call called' fun empty => recorded ?_
      exact same.trans empty
  along j a call here called := by
    have called' : c.shared.calls[j]? = some call := calls ▸ called
    have within : i < c.threads.length := (List.getElem?_eq_some_iff.mp present).1
    by_cases self : j = i
    · subst self
      obtain rfl : th' = a := by simpa [within] using here
      exact along call called'
    · rw [List.getElem?_set_ne (Ne.symm self)] at here
      exact others j self ▸ tracked.along j a call here called'

theorem Tracked.stepThread (tracked : sys.Tracked story m c) {th : Thread S Tx ε α}
    (present : c.threads[i]? = some th) (spared : sys.Spared m c (.step i))
    (stepped : sys.stepThread c i th = some c') : sys.Tracked story m c' := by
  have along := fun call => tracked.along i th call present
  obtain ⟨prog, tx⟩ := th
  cases prog with
  | done value => cases stepped
  | throw error =>
    cases tx with
    | none => cases stepped
    | some t =>
      cases stepped
      refine tracked.update present rfl (fun j _ => by simp) (fun call _ => .inl (by simp)) ?_
      intro call called
      rw [Shared.own_rollback]
      exact along call called
  | call stmt next =>
    simp only [System.stepThread] at stepped
    split at stepped
    next unblocked =>
      split at stepped
      next result w tx' executed =>
        cases stepped
        have recorded : (c.shared.record i stmt result w).own i =
            .stmt i stmt result c.shared.world :: c.shared.own i := by simp
        refine tracked.update present rfl (fun j other => by simp [Ne.symm other]) ?_ ?_
        · intro call called
          rw [recorded]
          exact .inr ((along call called).1 _ _ _ _ executed).1
        · intro call called
          rw [recorded]
          exact ((along call called).1 _ _ _ _ executed).2
      next failed =>
        cases stepped
        refine tracked.update present rfl (fun _ _ => rfl) (fun _ _ => .inl rfl) ?_
        intro call called
        exact (along call called).2 _ (spared _ stmt next present rfl failed)
    next => cases stepped
  | start next =>
    cases stepped
    exact tracked.update present rfl (fun _ _ => rfl) (fun _ _ => .inl rfl) along
  | commit next =>
    cases tx with
    | none => cases stepped
    | some t =>
      cases stepped
      have recorded : (c.shared.commit sys.engine i t).own i =
          .commit i t c.shared.world :: c.shared.own i := by simp
      refine tracked.update present rfl (fun j other => by simp [Ne.symm other]) ?_ ?_
      · intro call called
        rw [recorded]
        exact .inr ((along call called).1 t _ rfl).1
      · intro call called
        rw [recorded]
        exact ((along call called).1 t _ rfl).2

theorem Tracked.faultThread (tracked : sys.Tracked story m c) {th : Thread S Tx ε α}
    (present : c.threads[i]? = some th) (spared : sys.Spared m c (.fault i))
    (faulted : sys.faultThread c i th = some c') : sys.Tracked story m c' := by
  have along := fun call => tracked.along i th call present
  have allowed := spared th present
  obtain ⟨prog, tx⟩ := th
  cases prog with
  | call stmt next =>
    cases faulted
    refine tracked.update present rfl (fun _ _ => rfl) (fun _ _ => .inl rfl) ?_
    intro call called
    exact (along call called).2 _ (allowed.1 stmt next rfl)
  | commit next =>
    cases faulted
    refine tracked.update present rfl (fun j _ => by simp) (fun call _ => .inl (by simp)) ?_
    intro call called
    rw [Shared.own_rollback]
    exact (along call called).2 (allowed.2 next rfl)
  | _ => cases faulted

theorem Tracked.step (tracked : sys.Tracked story m c) {act : Act Call Env}
    (bounded : ∀ e ∈ c.shared.history, e.thread < c.threads.length) (spared : sys.Spared m c act)
    (tells : ∀ call, act = .invoke call → ∀ i, sys.Tells story m i call ⟨sys.program i call, none⟩ [])
    (stepped : sys.step c act = some c') : sys.Tracked story m c' := by
  cases act with
  | invoke call =>
    cases stepped
    refine ⟨by simp [Shared.invoke, tracked.numbered], ?_, ?_⟩
    · intro i call' called recorded
      simp only [Shared.invoke, List.getElem?_append, List.getElem?_singleton] at called
      split at called
      · exact tracked.kept i call' called recorded
      next outside =>
        refine absurd (List.filter_eq_nil_iff.mpr fun e member => ?_) recorded
        have within := bounded e ((List.mem_filter.mp member).1)
        have numbered := tracked.numbered
        rw [decide_eq_true_eq]
        omega
    · intro i a call' here called
      simp only [Shared.invoke, List.getElem?_append, List.getElem?_singleton] at here called
      rw [← tracked.numbered] at called
      split at here
      next inside =>
        rw [if_pos inside] at called
        exact tracked.along i a call' here (by simpa using called)
      next outside =>
        rw [if_neg outside] at called
        split at here
        next first =>
          rw [if_pos first] at called
          cases here
          cases called
          have number : i = c.shared.calls.length := by
            have numbered := tracked.numbered
            omega
          have empty : (c.shared.invoke call).own i = [] := by
            refine List.filter_eq_nil_iff.mpr fun e member => ?_
            have within := bounded e ((List.mem_filter.mp member).1)
            rw [decide_eq_true_eq]
            omega
          rw [empty, ← number]
          exact tells call rfl i
        next => cases here
  | step i =>
    obtain ⟨th, present, moved⟩ := Option.bind_eq_some_iff.mp stepped
    exact tracked.stepThread present spared moved
  | fault i =>
    obtain ⟨th, present, moved⟩ := Option.bind_eq_some_iff.mp stepped
    exact tracked.faultThread present spared moved
  | environ action =>
    cases stepped
    exact ⟨tracked.numbered, tracked.kept, tracked.along⟩

/-- In a run that is spared other mishaps, what has been proved along the programs holds of the
records of all threads. -/
theorem RunsUnder.tracked {allowed : sys.State → Act Call Env → Prop} {world : World}
    (runs : sys.RunsUnder allowed (sys.initial world) c)
    (spares : ∀ c act, allowed c act → sys.Spared m c act)
    (tells : ∀ c call, allowed c (.invoke call) → ∀ i,
      sys.Tells story m i call ⟨sys.program i call, none⟩ []) : sys.Tracked story m c := by
  induction runs with
  | refl =>
    refine ⟨rfl, fun i call called => ?_, fun i th call present => ?_⟩
    · simp [System.initial] at called
    · simp [System.initial] at present
  | tail before last ih =>
    obtain ⟨act, allows, stepped⟩ := last
    refine ih.step (System.thread_of_history (runs_of_runsUnder before)) (spares _ _ allows) ?_ stepped
    rintro call rfl
    exact tells _ call allows

theorem reachable_tracked {world : World} (reachable : sys.Reachable world c)
    (tells : ∀ call i, sys.Tells story .any i call ⟨sys.program i call, none⟩ []) :
    sys.Tracked story .any c := by
  have runs : sys.RunsUnder (fun _ _ => True) (sys.initial world) c :=
    Relation.ReflTransGen.mono (fun _ _ ⟨act, stepped⟩ => ⟨act, trivial, stepped⟩) _ _ reachable
  refine runs.tracked (fun c act _ => ?_) fun _ call _ => tells call
  cases act with
  | fault i => exact fun th present => ⟨fun _ _ _ => trivial, fun _ _ => trivial⟩
  | step i => exact fun _ _ _ _ _ _ => trivial
  | _ => trivial

end System

end Interleaving
