import Mathlib.Logic.Relation
import TicketService.Interleaving.System

set_option autoImplicit false

namespace Interleaving

open Relation

structure Contract (S : Signature) (World Tx Call ε α : Type) where
  -- What the locks of a transaction protect from the steps of other threads.
  frame : Tx → World → World → Prop
  -- What a step of a thread, or of none, may do to the shared state.
  guar : Option Nat → Shared S World Tx Call → Shared S World Tx Call → Prop
  inv : Shared S World Tx Call → Prop
  returns : Nat → α → Shared S World Tx Call → Prop
  throws : Nat → ε → Shared S World Tx Call → Prop

variable {S : Signature} {World Tx Lock Env Call ε α β γ : Type}

namespace Contract

variable (K : Contract S World Tx Call ε γ) (E : Engine S World Tx Lock Env)

def Framed (tx : Option Tx) (w w' : World) : Prop :=
  ∀ t ∈ tx, K.frame t w w'

def Others (i : Nat) (tx : Option Tx) (g g' : Shared S World Tx Call) : Prop :=
  ∃ actor, actor ≠ some i ∧ K.guar actor g g' ∧ K.Framed tx g.world g'.world

def Rely (i : Nat) (tx : Option Tx) : Shared S World Tx Call → Shared S World Tx Call → Prop :=
  ReflTransGen (K.Others i tx)

def Safe (i : Nat) (Q : α → Option Tx → Shared S World Tx Call → Prop) :
    Prog S ε α → Option Tx → Shared S World Tx Call → Prop
  | .done value, tx, g => ∀ g', K.Rely i tx g g' → Q value tx g'
  | .throw error, none, g => ∀ g', K.Rely i none g g' → K.throws i error g'
  | .throw error, some tx, g => ∀ g', K.Rely i (some tx) g g' → K.inv g' →
      K.guar (some i) g' (g'.rollback i) ∧
        ∀ later, K.Rely i none (g'.rollback i) later → K.throws i error later
  | .call stmt next, tx, g => ∀ g', K.Rely i tx g g' → K.inv g' →
      (∀ result world tx', E.exec stmt g'.world tx = some (result, world, tx') →
        K.guar (some i) g' (g'.record i stmt result world) ∧
          Safe i Q (next (some result)) tx' (g'.record i stmt result world)) ∧
      Safe i Q (next none) tx g'
  | .start next, tx, g => ∀ g', K.Rely i tx g g' → Safe i Q next (some E.fresh) g'
  | .commit next, tx, g => ∀ g', K.Rely i tx g g' → K.inv g' →
      (∀ t, tx = some t → K.guar (some i) g' (g'.commit E i t) ∧
        Safe i Q (next true) none (g'.commit E i t)) ∧
      K.guar (some i) g' (g'.rollback i) ∧ Safe i Q (next false) none (g'.rollback i)

variable {K E} {i : Nat} {Q R : α → Option Tx → Shared S World Tx Call → Prop}
  {p : Prog S ε α} {tx : Option Tx} {g g' : Shared S World Tx Call}

theorem Safe.rely (safe : K.Safe E i Q p tx g) (rely : K.Rely i tx g g') :
    K.Safe E i Q p tx g' := by
  cases p with
  | done value => exact fun later moved => safe later (rely.trans moved)
  | throw error => cases tx <;> exact fun later moved => safe later (rely.trans moved)
  | call stmt next => exact fun later moved => safe later (rely.trans moved)
  | start next => exact fun later moved => safe later (rely.trans moved)
  | commit next => exact fun later moved => safe later (rely.trans moved)

theorem Safe.mono (safe : K.Safe E i Q p tx g) (weaker : ∀ value tx g, Q value tx g → R value tx g) :
    K.Safe E i R p tx g := by
  induction p generalizing tx g with
  | done value => exact fun g' rely => weaker _ _ _ (safe g' rely)
  | throw error => cases tx <;> exact safe
  | call stmt next ih =>
    intro g' rely inv
    obtain ⟨succeeds, fails⟩ := safe g' rely inv
    refine ⟨fun result world tx' executed => ?_, ih _ fails⟩
    obtain ⟨kept, rest⟩ := succeeds result world tx' executed
    exact ⟨kept, ih _ rest⟩
  | start next ih => exact fun g' rely => ih (safe g' rely)
  | commit next ih =>
    intro g' rely inv
    obtain ⟨succeeds, fails⟩ := safe g' rely inv
    refine ⟨fun t opened => ?_, fails.1, ih _ fails.2⟩
    obtain ⟨kept, rest⟩ := succeeds t opened
    exact ⟨kept, ih _ rest⟩

theorem Safe.bind {f : α → Prog S ε β} {Q : β → Option Tx → Shared S World Tx Call → Prop}
    (safe : K.Safe E i (fun value tx g => K.Safe E i Q (f value) tx g) p tx g) :
    K.Safe E i Q (p.bind f) tx g := by
  induction p generalizing tx g with
  | done value => exact safe g .refl
  | throw error => cases tx <;> exact safe
  | call stmt next ih =>
    intro g' rely inv
    obtain ⟨succeeds, fails⟩ := safe g' rely inv
    refine ⟨fun result world tx' executed => ?_, ih _ fails⟩
    obtain ⟨kept, rest⟩ := succeeds result world tx' executed
    exact ⟨kept, ih _ rest⟩
  | start next ih => exact fun g' rely => ih (safe g' rely)
  | commit next ih =>
    intro g' rely inv
    obtain ⟨succeeds, fails⟩ := safe g' rely inv
    refine ⟨fun t opened => ?_, fails.1, ih _ fails.2⟩
    obtain ⟨kept, rest⟩ := succeeds t opened
    exact ⟨kept, ih _ rest⟩

theorem Rely.invariant {P : Shared S World Tx Call → Prop}
    (kept : ∀ actor g g', K.guar actor g g' → P g → P g') (rely : K.Rely i tx g g')
    (holds : P g) : P g' := by
  induction rely with
  | refl => exact holds
  | tail _ last ih =>
    obtain ⟨actor, -, guar, -⟩ := last
    exact kept actor _ _ guar ih

theorem Safe.invariant {P : Shared S World Tx Call → Prop}
    (kept : ∀ actor g g', K.guar actor g g' → P g → P g') (safe : K.Safe E i Q p tx g)
    (holds : P g) : K.Safe E i (fun value tx g => Q value tx g ∧ P g) p tx g := by
  induction p generalizing tx g with
  | done value => exact fun g' rely => ⟨safe g' rely, rely.invariant kept holds⟩
  | throw error => cases tx <;> exact safe
  | call stmt next ih =>
    intro g' rely inv
    have before := rely.invariant kept holds
    obtain ⟨succeeds, fails⟩ := safe g' rely inv
    refine ⟨fun result world tx' executed => ?_, ih _ fails before⟩
    obtain ⟨guar, rest⟩ := succeeds result world tx' executed
    exact ⟨guar, ih _ rest (kept _ _ _ guar before)⟩
  | start next ih => exact fun g' rely => ih (safe g' rely) (rely.invariant kept holds)
  | commit next ih =>
    intro g' rely inv
    have before := rely.invariant kept holds
    obtain ⟨succeeds, aborts, fails⟩ := safe g' rely inv
    refine ⟨fun t opened => ?_, aborts, ih _ fails (kept _ _ _ aborts before)⟩
    obtain ⟨guar, rest⟩ := succeeds t opened
    exact ⟨guar, ih _ rest (kept _ _ _ guar before)⟩

theorem Safe.perform {failure : ε} {stmt : S.Stmt}
    {Q : S.Res stmt → Option Tx → Shared S World Tx Call → Prop}
    (step : ∀ g', K.Rely i tx g g' → K.inv g' → ∀ result world tx',
      E.exec stmt g'.world tx = some (result, world, tx') →
        K.guar (some i) g' (g'.record i stmt result world) ∧
          ∀ later, K.Rely i tx' (g'.record i stmt result world) later → Q result tx' later)
    (fails : ∀ g', K.Rely i tx g g' → K.Safe E i Q (.throw failure) tx g') :
    K.Safe E i Q (Prog.perform failure stmt) tx g :=
  fun g' rely inv => ⟨step g' rely inv, fails g' rely⟩

theorem Safe.transaction {failure : ε} {body : Prog S ε α}
    (safe : ∀ g', K.Rely i tx g g' → K.Safe E i (fun value tx g =>
      ∀ g', K.Rely i tx g g' → K.inv g' →
        (∀ t, tx = some t → K.guar (some i) g' (g'.commit E i t) ∧
          ∀ later, K.Rely i none (g'.commit E i t) later → Q value none later) ∧
        K.guar (some i) g' (g'.rollback i))
      body (some E.fresh) g')
    (fails : ∀ g', K.Safe E i Q (.throw failure) none g') :
    K.Safe E i Q (Prog.transaction failure body) tx g := by
  intro g' rely
  refine Safe.bind ((safe g' rely).mono fun _ _ _ post later moved inv => ?_)
  obtain ⟨commits, aborts⟩ := post later moved inv
  exact ⟨commits, aborts, fails _⟩

end Contract

/-- The laws of an engine and its programs under which runs stay within the contract. -/
structure System.Keeps (sys : System S World Tx Lock Env Call ε α)
    (K : Contract S World Tx Call ε α) : Prop where
  conflict_comm : ∀ l l', sys.engine.conflict l l' = sys.engine.conflict l' l
  fresh_held : sys.engine.held sys.engine.fresh = []
  exec_held : ∀ stmt w tx result w' tx', sys.engine.exec stmt w tx = some (result, w', tx') →
    ∀ l ∈ sys.engine.heldBy tx', l ∈ sys.engine.heldBy tx ∨ l ∈ sys.engine.needs stmt w tx
  exec_frame : ∀ stmt w tx result w' tx' t, sys.engine.exec stmt w tx = some (result, w', tx') →
    sys.engine.Compatible (sys.engine.needs stmt w tx) (sys.engine.held t) → K.frame t w w'
  publish_frame : ∀ t' w t, sys.engine.Compatible (sys.engine.held t') (sys.engine.held t) →
    K.frame t w (sys.engine.publish t' w)
  environ_frame : ∀ action w t, K.frame t w (sys.engine.environ action w)
  frame_refl : ∀ t w, K.frame t w w
  invoke : ∀ g call, K.inv g → K.guar none g (g.invoke call)
  environ : ∀ g action, K.inv g → K.guar none g (g.environ sys.engine action)
  inv_guar : ∀ actor g g', K.inv g → K.guar actor g g' → K.inv g'
  safe : ∀ g call, K.inv g →
    K.Safe sys.engine g.calls.length (fun value _ => K.returns g.calls.length value)
      (sys.program g.calls.length call) none (g.invoke call)

namespace System

variable {sys : System S World Tx Lock Env Call ε α} {K : Contract S World Tx Call ε α}

structure Sound (sys : System S World Tx Lock Env Call ε α)
    (K : Contract S World Tx Call ε α) (c : sys.State) : Prop where
  numbered : c.threads.length = c.shared.calls.length
  inv : K.inv c.shared
  compatible : ∀ (i j : Nat) (a b : Thread S Tx ε α), i ≠ j → c.threads[i]? = some a →
    c.threads[j]? = some b →
      sys.engine.Compatible (sys.engine.heldBy a.tx) (sys.engine.heldBy b.tx)
  safe : ∀ (i : Nat) (a : Thread S Tx ε α), c.threads[i]? = some a →
    K.Safe sys.engine i (fun value _ => K.returns i value) a.prog a.tx c.shared

theorem compatible_comm (keeps : sys.Keeps K) {held held' : List Lock}
    (compatible : sys.engine.Compatible held held') : sys.engine.Compatible held' held := by
  intro l member l' member'
  rw [keeps.conflict_comm]
  exact compatible l' member' l member

theorem Sound.update {c : sys.State} (sound : sys.Sound K c) (keeps : sys.Keeps K) {i : Nat}
    {th th' : Thread S Tx ε α} (present : c.threads[i]? = some th) {g : Shared S World Tx Call}
    (moved : g = c.shared ∨ K.guar (some i) c.shared g) (calls : g.calls = c.shared.calls)
    (framed : ∀ j (b : Thread S Tx ε α), j ≠ i → c.threads[j]? = some b →
      K.Framed b.tx c.shared.world g.world)
    (compatible : ∀ j (b : Thread S Tx ε α), j ≠ i → c.threads[j]? = some b →
      sys.engine.Compatible (sys.engine.heldBy th'.tx) (sys.engine.heldBy b.tx))
    (safe : K.Safe sys.engine i (fun value _ => K.returns i value) th'.prog th'.tx g) :
    sys.Sound K { shared := g, threads := c.threads.set i th' } := by
  have within : i < c.threads.length := (List.getElem?_eq_some_iff.mp present).1
  have at_self : (c.threads.set i th')[i]? = some th' := by
    simp [within]
  have at_other (j : Nat) (other : j ≠ i) : (c.threads.set i th')[j]? = c.threads[j]? := by
    simp [Ne.symm other]
  constructor
  · simp [calls, sound.numbered]
  · rcases moved with rfl | kept
    · exact sound.inv
    · exact keeps.inv_guar _ _ _ sound.inv kept
  · intro j k a b different here there
    by_cases first : j = i
    · subst first
      rw [at_self] at here
      cases here
      rw [at_other k (Ne.symm different)] at there
      exact compatible k b (Ne.symm different) there
    · rw [at_other j first] at here
      by_cases second : k = i
      · subst second
        rw [at_self] at there
        cases there
        exact compatible_comm keeps (compatible j a first here)
      · rw [at_other k second] at there
        exact sound.compatible j k a b different here there
  · intro j a here
    by_cases self : j = i
    · subst self
      rw [at_self] at here
      cases here
      exact safe
    · rw [at_other j self] at here
      have before := sound.safe j a here
      rcases moved with rfl | kept
      · exact before
      · have other : (some i : Option Nat) ≠ some j := fun same => self (Option.some.inj same).symm
        exact before.rely (.single ⟨some i, other, kept, framed j a self here⟩)

theorem framed_refl (keeps : sys.Keeps K) (tx : Option Tx) (w : World) : K.Framed tx w w :=
  fun t _ => keeps.frame_refl t w

theorem Sound.stepThread {c c' : sys.State} (sound : sys.Sound K c) (keeps : sys.Keeps K)
    {i : Nat} {th : Thread S Tx ε α} (present : c.threads[i]? = some th)
    (stepped : sys.stepThread c i th = some c') :
    sys.Sound K c' ∧ (c'.shared = c.shared ∨ K.guar (some i) c.shared c'.shared) := by
  have safe := sound.safe i th present
  have compatible (j : Nat) (b : Thread S Tx ε α) (other : j ≠ i)
      (there : c.threads[j]? = some b) := sound.compatible i j th b (Ne.symm other) present there
  have unlocked (j : Nat) (b : Thread S Tx ε α) (_ : j ≠ i) (_ : c.threads[j]? = some b) :
      sys.engine.Compatible [] (sys.engine.heldBy b.tx) := by simp [Engine.Compatible]
  obtain ⟨prog, tx⟩ := th
  cases prog with
  | done value => simp [System.stepThread] at stepped
  | throw error =>
    cases tx with
    | none => simp [System.stepThread] at stepped
    | some t =>
      simp only [System.stepThread, Option.some.injEq] at stepped
      subst stepped
      obtain ⟨kept, rest⟩ := safe c.shared .refl sound.inv
      exact ⟨sound.update keeps present (.inr kept) rfl (fun _ _ _ _ => framed_refl keeps _ _)
        unlocked rest, .inr kept⟩
  | call stmt next =>
    simp only [System.stepThread] at stepped
    obtain ⟨succeeds, fails⟩ := safe c.shared .refl sound.inv
    split at stepped
    next unblocked =>
      have free (j : Nat) (b : Thread S Tx ε α) (other : j ≠ i) (there : c.threads[j]? = some b) :
          sys.engine.Compatible (sys.engine.needs stmt c.shared.world tx)
            (sys.engine.heldBy b.tx) := by
        have within : j < c.threads.length := (List.getElem?_eq_some_iff.mp there).1
        exact unblocked j (List.mem_range.mpr within) (.inl other) b (by rw [there]; rfl)
      split at stepped
      next result world tx' executed =>
        cases stepped
        obtain ⟨kept, rest⟩ := succeeds result world tx' executed
        refine ⟨sound.update keeps present (.inr kept) rfl ?_ ?_ rest, .inr kept⟩
        · intro j b other there t opened
          have held := free j b other there
          rw [Option.mem_def.mp opened] at held
          exact keeps.exec_frame _ _ _ _ _ _ t executed held
        · intro j b other there l member
          rcases keeps.exec_held _ _ _ _ _ _ executed l member with old | new
          · exact compatible j b other there l old
          · exact free j b other there l new
      next =>
        cases stepped
        exact ⟨sound.update keeps present (.inl rfl) rfl (fun _ _ _ _ => framed_refl keeps _ _)
          compatible fails, .inl rfl⟩
    next => cases stepped
  | start next =>
    simp only [System.stepThread, Option.some.injEq] at stepped
    subst stepped
    refine ⟨sound.update keeps present (.inl rfl) rfl (fun _ _ _ _ => framed_refl keeps _ _) ?_
      (safe c.shared .refl), .inl rfl⟩
    intro j b other there
    simpa [Engine.heldBy, keeps.fresh_held] using unlocked j b other there
  | commit next =>
    cases tx with
    | none => simp [System.stepThread] at stepped
    | some t =>
      simp only [System.stepThread, Option.some.injEq] at stepped
      subst stepped
      obtain ⟨kept, rest⟩ := (safe c.shared .refl sound.inv).1 t rfl
      refine ⟨sound.update keeps present (.inr kept) rfl ?_ unlocked rest, .inr kept⟩
      intro j b other there t' opened
      have held := compatible j b other there
      rw [Option.mem_def.mp opened] at held
      exact keeps.publish_frame t c.shared.world t' held

theorem Sound.faultThread {c c' : sys.State} (sound : sys.Sound K c) (keeps : sys.Keeps K)
    {i : Nat} {th : Thread S Tx ε α} (present : c.threads[i]? = some th)
    (faulted : sys.faultThread c i th = some c') :
    sys.Sound K c' ∧ (c'.shared = c.shared ∨ K.guar (some i) c.shared c'.shared) := by
  have safe := sound.safe i th present
  have compatible (j : Nat) (b : Thread S Tx ε α) (other : j ≠ i)
      (there : c.threads[j]? = some b) := sound.compatible i j th b (Ne.symm other) present there
  obtain ⟨prog, tx⟩ := th
  cases prog with
  | done value => simp [System.faultThread] at faulted
  | throw error => simp [System.faultThread] at faulted
  | start next => simp [System.faultThread] at faulted
  | call stmt next =>
    simp only [System.faultThread, Option.some.injEq] at faulted
    subst faulted
    exact ⟨sound.update keeps present (.inl rfl) rfl (fun _ _ _ _ => framed_refl keeps _ _)
      compatible (safe c.shared .refl sound.inv).2, .inl rfl⟩
  | commit next =>
    simp only [System.faultThread, Option.some.injEq] at faulted
    subst faulted
    obtain ⟨kept, rest⟩ := (safe c.shared .refl sound.inv).2
    refine ⟨sound.update keeps present (.inr kept) rfl (fun _ _ _ _ => framed_refl keeps _ _) ?_
      rest, .inr kept⟩
    intro j b _ _
    simp [Engine.Compatible, Engine.heldBy]

theorem Sound.step {c c' : sys.State} (sound : sys.Sound K c) (keeps : sys.Keeps K)
    {act : Act Call Env} (stepped : sys.step c act = some c') :
    sys.Sound K c' ∧ (c'.shared = c.shared ∨ ∃ actor, K.guar actor c.shared c'.shared) := by
  cases act with
  | invoke call =>
    simp only [System.step, Option.some.injEq] at stepped
    subst stepped
    have kept := keeps.invoke c.shared call sound.inv
    refine ⟨⟨by simp [Shared.invoke, sound.numbered], keeps.inv_guar _ _ _ sound.inv kept, ?_, ?_⟩,
      .inr ⟨none, kept⟩⟩
    · intro i j a b different here there
      simp only [List.getElem?_append, List.getElem?_singleton] at here there
      split at here
      · split at there
        · exact sound.compatible i j a b different here there
        · split at there
          · cases there
            simp [Engine.Compatible, Engine.heldBy]
          · cases there
      · split at here
        · cases here
          simp [Engine.Compatible, Engine.heldBy]
        · cases here
    · intro i a here
      simp only [List.getElem?_append, List.getElem?_singleton] at here
      split at here
      · exact (sound.safe i a here).rely
          (.single ⟨none, by simp, kept, fun t _ => keeps.frame_refl t _⟩)
      next outside =>
        split at here
        next first =>
          cases here
          have number : i = c.shared.calls.length := by
            have := sound.numbered
            omega
          subst number
          exact keeps.safe c.shared call sound.inv
        next => cases here
  | step i =>
    obtain ⟨th, present, moved⟩ := Option.bind_eq_some_iff.mp stepped
    obtain ⟨after, kept⟩ := sound.stepThread keeps present moved
    exact ⟨after, kept.imp id fun guar => ⟨some i, guar⟩⟩
  | fault i =>
    obtain ⟨th, present, moved⟩ := Option.bind_eq_some_iff.mp stepped
    obtain ⟨after, kept⟩ := sound.faultThread keeps present moved
    exact ⟨after, kept.imp id fun guar => ⟨some i, guar⟩⟩
  | environ action =>
    simp only [System.step, Option.some.injEq] at stepped
    subst stepped
    have kept := keeps.environ c.shared action sound.inv
    refine ⟨⟨sound.numbered, keeps.inv_guar _ _ _ sound.inv kept, sound.compatible, ?_⟩,
      .inr ⟨none, kept⟩⟩
    intro i a here
    exact (sound.safe i a here).rely
      (.single ⟨none, by simp, kept, fun t _ => keeps.environ_frame action _ t⟩)

variable {world : World} {c c' : sys.State}

theorem Sound.runs (keeps : sys.Keeps K) (sound : sys.Sound K c) (runs : sys.Runs c c') :
    sys.Sound K c' := by
  induction runs with
  | refl => exact sound
  | tail _ last ih =>
    obtain ⟨act, stepped⟩ := last
    exact (ih.step keeps stepped).1

/-- A property of the shared state that the contract preserves holds as long as a run goes on. -/
theorem Sound.invariant (keeps : sys.Keeps K) (sound : sys.Sound K c) (runs : sys.Runs c c')
    (P : Shared S World Tx Call → Prop) (base : P c.shared)
    (preserved : ∀ actor g g', K.inv g → P g → K.guar actor g g' → P g') : P c'.shared := by
  induction runs with
  | refl => exact base
  | tail before last ih =>
    obtain ⟨act, stepped⟩ := last
    have here := sound.runs keeps before
    rcases (here.step keeps stepped).2 with same | ⟨actor, kept⟩
    · rw [same]
      exact ih
    · exact preserved actor _ _ here.inv ih kept

theorem initial_sound (initial : K.inv (sys.initial world).shared) :
    sys.Sound K (sys.initial world) := by
  refine ⟨rfl, initial, ?_, ?_⟩
  · intro i j a b _ here
    simp [System.initial] at here
  · intro i a here
    simp [System.initial] at here

end System

end Interleaving
