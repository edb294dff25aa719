import Mathlib.Algebra.BigOperators.Group.Finset.Basic
import Mathlib.Algebra.Order.BigOperators.Group.Finset
import Mathlib.Data.Set.Finite.Lattice
import TicketService.Interleaving.Waiting

set_option autoImplicit false

namespace Interleaving

open Relation

variable {S : Signature} {World Tx Lock Env Call ε α : Type}

theorem exists_cycle {ι : Type} [Finite ι] [Nonempty ι] {r : ι → ι → Prop}
    (onward : ∀ a, ∃ b, r a b) : ∃ a, TransGen r a a := by
  by_contra none
  have irreflexive : Std.Irrefl (Function.swap (TransGen r)) :=
    ⟨fun a cycle => none ⟨a, cycle⟩⟩
  have transitive : IsTrans ι (Function.swap (TransGen r)) := ⟨fun _ _ _ ab bc => bc.trans ab⟩
  have founded := Finite.wellFounded_of_trans_of_irrefl (Function.swap (TransGen r))
  obtain ⟨a, -, least⟩ := founded.has_min Set.univ Set.univ_nonempty
  obtain ⟨b, after⟩ := onward a
  exact least b trivial (.single after)

namespace System

variable (sys : System S World Tx Lock Env Call ε α)

structure Locking where
  config : sys.State
  -- What the statement at which the thread stands has taken.
  taken : Nat → List Lock

namespace Locking

variable {sys} (O : LockOrder sys.engine) (r : sys.Locking)

def Has (i : Nat) (l : Lock) : Prop :=
  l ∈ r.taken i ∨ ∃ th, r.config.threads[i]? = some th ∧ l ∈ sys.engine.heldBy th.tx

-- A lock that the statement takes next: locks of lower rank come first.
structure Wants (i : Nat) (stmt : S.Stmt) (tx : Option Tx) (l : Lock) : Prop where
  needed : l ∈ sys.engine.needs stmt r.config.shared.world tx
  fresh : l ∉ r.taken i
  first : ∀ l' ∈ sys.engine.needs stmt r.config.shared.world tx, O.rank l' < O.rank l → l' ∈ r.taken i

-- Thread `j` has a lock that keeps the statement of thread `i` from taking `l`.
def Obstructs (i : Nat) (stmt : S.Stmt) (tx : Option Tx) (l : Lock) (j : Nat) (l' : Lock) : Prop :=
  sys.engine.conflict l l' = true ∧
    (j ≠ i ∧ r.Has j l' ∨ j = i ∧ sys.engine.autocommit stmt = true ∧ l' ∈ sys.engine.heldBy tx)

-- No other statement has taken a lock that conflicts with those that the statement needs.
def Clear (i : Nat) : Prop :=
  ∀ th stmt next, r.config.threads[i]? = some th → th.prog = .call stmt next →
    ∀ l ∈ sys.engine.needs stmt r.config.shared.world th.tx, ∀ j ≠ i, ∀ l' ∈ r.taken j,
      sys.engine.conflict l l' = false

-- Thread `i` takes a lock or a step.
inductive Advances (i : Nat) : sys.Locking → sys.Locking → Prop where
  | takes (r : sys.Locking) (th : Thread S Tx ε α) (stmt : S.Stmt)
      (next : Option (S.Res stmt) → Prog S ε α) (l : Lock) :
    r.config.threads[i]? = some th → th.prog = .call stmt next → r.Wants O i stmt th.tx l →
      (∀ j l', ¬r.Obstructs i stmt th.tx l j l') →
      Advances i r { r with taken := Function.update r.taken i (l :: r.taken i) }
  | steps (r : sys.Locking) (c' : sys.State) :
    sys.step r.config (.step i) = some c' → r.Clear i →
      Advances i r { config := c', taken := Function.update r.taken i [] }

inductive Moves : sys.Locking → sys.Locking → Prop where
  | advances (i : Nat) (r r' : sys.Locking) : Advances O i r r' → Moves r r'
  | fault (i : Nat) (r : sys.Locking) (c' : sys.State) : sys.step r.config (.fault i) = some c' →
    Moves r { config := c', taken := Function.update r.taken i [] }
  | invoke (call : Call) (r : sys.Locking) (c' : sys.State) :
    sys.step r.config (.invoke call) = some c' → Moves r { r with config := c' }
  | environ (action : Env) (r : sys.Locking) (c' : sys.State) :
    sys.step r.config (.environ action) = some c' → Moves r { r with config := c' }

def Reachable (w : World) (r : sys.Locking) : Prop :=
  ReflTransGen (Moves O) { config := sys.initial w, taken := fun _ => [] } r

def WaitsFor (i j : Nat) : Prop :=
  ∃ th stmt next l l', r.config.threads[i]? = some th ∧ th.prog = .call stmt next ∧
    r.Wants O i stmt th.tx l ∧ r.Obstructs i stmt th.tx l j l'

def Runnable (i : Nat) : Prop :=
  ∃ r', Advances O i r r'

-- The threads that are of the level kind and wait for each other.
def LevelWaits (level : Call → Prop) (i j : Nat) : Prop :=
  r.WaitsFor O i j ∧ (∃ call, r.config.shared.calls[i]? = some call ∧ level call) ∧
    ∃ call, r.config.shared.calls[j]? = some call ∧ level call

end Locking

variable {sys} {O : LockOrder sys.engine} {level : Call → Prop} {c c' : sys.State} {i j k m n : Nat}
  {r r' : sys.Locking}

namespace Locking

theorem Reachable.config {w : World} (reachable : Reachable O w r) : sys.Reachable w r.config := by
  induction reachable with
  | refl => exact .refl
  | tail _ last ih =>
    cases last with
    | advances i _ _ advances =>
      cases advances with
      | takes => exact ih
      | steps c' stepped => exact ih.tail ⟨_, stepped⟩
    | fault i _ c' stepped => exact ih.tail ⟨_, stepped⟩
    | invoke call _ c' stepped => exact ih.tail ⟨_, stepped⟩
    | environ action _ c' stepped => exact ih.tail ⟨_, stepped⟩

theorem reachable_of_config (O : LockOrder sys.engine) {w : World} (reachable : sys.Reachable w c) :
    Reachable O w { config := c, taken := fun _ => [] } := by
  induction reachable with
  | refl => exact .refl
  | @tail c c' _ last ih =>
    obtain ⟨act, stepped⟩ := last
    let r : sys.Locking := { config := c, taken := fun _ => [] }
    have untaken (i : Nat) : Function.update r.taken i [] = r.taken := Function.update_eq_self i r.taken
    cases act with
    | invoke call => exact ih.tail (.invoke call r c' stepped)
    | environ action => exact ih.tail (.environ action r c' stepped)
    | step i =>
      have moves := Moves.advances i _ _ (Advances.steps (O := O) r c' stepped
        fun _ _ _ _ _ _ _ _ _ _ taken => absurd taken List.not_mem_nil)
      rw [untaken] at moves
      exact ih.tail moves
    | fault i =>
      have moves := Moves.fault (O := O) i r c' stepped
      rw [untaken] at moves
      exact ih.tail moves

/-- What has been taken does not conflict, and was taken in order. -/
structure Granted (O : LockOrder sys.engine) (r : sys.Locking) : Prop where
  apart : ∀ i j l l', i ≠ j → r.Has i l → r.Has j l' → sys.engine.conflict l l' = false
  taken : ∀ i, ∀ l ∈ r.taken i, ∃ th stmt next w, r.config.threads[i]? = some th ∧
    th.prog = .call stmt next ∧ l ∈ sys.engine.needs stmt w th.tx ∧
    (∀ l' ∈ sys.engine.needs stmt w th.tx, O.rank l' < O.rank l → l' ∈ r.taken i) ∧
    (sys.engine.autocommit stmt = true → ∀ l' ∈ sys.engine.heldBy th.tx, sys.engine.conflict l l' = false)

theorem Granted.ended {th th' : Thread S Tx ε α} (granted : Granted O r)
    (present : r.config.threads[i]? = some th) (threads : c'.threads = r.config.threads.set i th')
    (holds : ∀ l ∈ sys.engine.heldBy th'.tx, l ∈ sys.engine.heldBy th.tx ∨
      ∀ j ≠ i, ∀ l', r.Has j l' → sys.engine.conflict l l' = false) :
    Granted O { config := c', taken := Function.update r.taken i [] } := by
  let r' : sys.Locking := { config := c', taken := Function.update r.taken i [] }
  have within := (List.getElem?_eq_some_iff.mp present).1
  have other {j : Nat} (different : j ≠ i) :
      r'.taken j = r.taken j ∧ c'.threads[j]? = r.config.threads[j]? :=
    ⟨Function.update_of_ne different _ _, by rw [threads, List.getElem?_set_ne (Ne.symm different)]⟩
  have before {j : Nat} {l : Lock} (different : j ≠ i) (has : r'.Has j l) : r.Has j l := by
    obtain ⟨taken, there⟩ := other different
    unfold Has at has ⊢
    rwa [taken, show r'.config.threads[j]? = r.config.threads[j]? from there] at has
  have own {l : Lock} (has : r'.Has i l) : l ∈ sys.engine.heldBy th'.tx := by
    rcases has with taken | ⟨a, here, held⟩
    · rw [show r'.taken i = [] from Function.update_self ..] at taken
      cases taken
    · have same : some th' = some a := by
        rw [← here]
        exact ((congrArg (·[i]?) threads).trans (List.getElem?_set_self within)).symm
      exact Option.some.inj same ▸ held
  have first {j : Nat} {l l' : Lock} (different : j ≠ i) (mine : r'.Has i l) (has : r'.Has j l') :
      sys.engine.conflict l l' = false := by
    rcases holds l (own mine) with old | new
    · exact granted.apart i j l l' (Ne.symm different) (.inr ⟨th, present, old⟩) (before different has)
    · exact new j different l' (before different has)
  constructor
  · intro a b l l' different hasA hasB
    by_cases self : a = i
    · subst self
      exact first (Ne.symm different) hasA hasB
    · by_cases self' : b = i
      · subst self'
        rw [O.conflict_comm]
        exact first different hasB hasA
      · exact granted.apart a b l l' different (before self hasA) (before self' hasB)
  · intro j l taken
    by_cases self : j = i
    · subst self
      have none : r'.taken j = [] := Function.update_self ..
      rw [show l ∈ r'.taken j ↔ l ∈ [] by rw [none]] at taken
      cases taken
    · obtain ⟨same, there⟩ := other self
      have kept (l : Lock) : l ∈ r'.taken j ↔ l ∈ r.taken j := by rw [same]
      obtain ⟨a, stmt, next, w, here, calls, needed, lower, alone⟩ := granted.taken j l ((kept l).mp taken)
      exact ⟨a, stmt, next, w, there.trans here, calls, needed,
        fun l' needed' less => (kept l').mpr (lower l' needed' less), alone⟩

theorem Granted.took {th : Thread S Tx ε α} {stmt : S.Stmt} {next : Option (S.Res stmt) → Prog S ε α}
    {l : Lock} (granted : Granted O r) (present : r.config.threads[i]? = some th)
    (calls : th.prog = .call stmt next) (wants : r.Wants O i stmt th.tx l)
    (free : ∀ j l', ¬r.Obstructs i stmt th.tx l j l') :
    Granted O { r with taken := Function.update r.taken i (l :: r.taken i) } := by
  let r' : sys.Locking := { r with taken := Function.update r.taken i (l :: r.taken i) }
  have other {j : Nat} (different : j ≠ i) : r'.taken j = r.taken j :=
    Function.update_of_ne different _ _
  have own : r'.taken i = l :: r.taken i := Function.update_self ..
  have before {j : Nat} {l' : Lock} (has : r'.Has j l') : r.Has j l' ∨ j = i ∧ l' = l := by
    rcases has with taken | held
    · by_cases self : j = i
      · subst self
        rw [own] at taken
        rcases List.mem_cons.mp taken with same | old
        · exact .inr ⟨rfl, same⟩
        · exact .inl (.inl old)
      · exact .inl (.inl (other self ▸ taken))
    · exact .inl (.inr held)
  have new {j : Nat} {l' : Lock} (different : j ≠ i) (has : r.Has j l') :
      sys.engine.conflict l l' = false := by
    by_contra conflict
    exact free j l' ⟨by simpa using conflict, .inl ⟨different, has⟩⟩
  constructor
  · intro a b m m' different hasA hasB
    rcases before hasA with oldA | ⟨rfl, rfl⟩
    · rcases before hasB with oldB | ⟨rfl, rfl⟩
      · exact granted.apart a b m m' different oldA oldB
      · rw [O.conflict_comm]
        exact new different oldA
    · rcases before hasB with oldB | ⟨rfl, rfl⟩
      · exact new (Ne.symm different) oldB
      · exact absurd rfl different
  · intro j m taken
    by_cases self : j = i
    · subst self
      have kept (m : Lock) : m ∈ r'.taken j ↔ m ∈ l :: r.taken j := by rw [own]
      rcases List.mem_cons.mp ((kept m).mp taken) with rfl | old
      · refine ⟨th, stmt, next, _, present, calls, wants.needed,
          fun l' needed lower => (kept l').mpr (List.mem_cons_of_mem _ (wants.first l' needed lower)), ?_⟩
        intro alone l' held
        by_contra conflict
        exact free j l' ⟨by simpa using conflict, .inr ⟨rfl, alone, held⟩⟩
      · obtain ⟨a, stmt', next', w, there, calls', needed, lower, alone⟩ := granted.taken j m old
        exact ⟨a, stmt', next', w, there, calls', needed,
          fun l' needed' less => (kept l').mpr (List.mem_cons_of_mem _ (lower l' needed' less)), alone⟩
    · have kept (m : Lock) : m ∈ r'.taken j ↔ m ∈ r.taken j := by rw [other self]
      obtain ⟨a, stmt', next', w, there, calls', needed, lower, alone⟩ :=
        granted.taken j m ((kept m).mp taken)
      exact ⟨a, stmt', next', w, there, calls', needed,
        fun l' needed' less => (kept l').mpr (lower l' needed' less), alone⟩

theorem Granted.steps (granted : Granted O r) (stepped : sys.step r.config (.step i) = some c')
    (clear : r.Clear i) : Granted O { config := c', taken := Function.update r.taken i [] } := by
  obtain ⟨⟨prog, tx⟩, present, moved⟩ := Option.bind_eq_some_iff.mp stepped
  cases prog with
  | done value => cases moved
  | throw error =>
    cases tx with
    | none => cases moved
    | some t =>
      cases moved
      exact granted.ended present rfl fun l held => absurd held List.not_mem_nil
  | call stmt next =>
    simp only [System.stepThread] at moved
    split at moved
    next unblocked =>
      split at moved
      next result w tx' executed =>
        cases moved
        refine granted.ended present rfl fun l held => ?_
        refine (O.held_exec _ _ _ _ _ _ executed l held).imp_right fun needed j different l' has => ?_
        rcases has with taken | ⟨other, there, held'⟩
        · exact clear _ stmt next present rfl l needed j different l' taken
        · have within := (List.getElem?_eq_some_iff.mp there).1
          exact unblocked j (List.mem_range.mpr within) (.inl different) other there l needed l' held'
      next =>
        cases moved
        exact granted.ended present rfl fun l held => .inl held
    next => cases moved
  | start next =>
    cases moved
    refine granted.ended present rfl fun l held => ?_
    have none : l ∈ sys.engine.held sys.engine.fresh := held
    rw [O.held_fresh] at none
    cases none
  | commit next =>
    cases tx with
    | none => cases moved
    | some t =>
      cases moved
      exact granted.ended present rfl fun l held => absurd held List.not_mem_nil

theorem Granted.faults (granted : Granted O r) (faulted : sys.step r.config (.fault i) = some c') :
    Granted O { config := c', taken := Function.update r.taken i [] } := by
  obtain ⟨⟨prog, tx⟩, present, moved⟩ := Option.bind_eq_some_iff.mp faulted
  cases prog with
  | call stmt next =>
    cases moved
    exact granted.ended present rfl fun l held => .inl held
  | commit next =>
    cases moved
    exact granted.ended present rfl fun l held => absurd held List.not_mem_nil
  | _ => cases moved

theorem Granted.invoked {call : Call} (granted : Granted O r)
    (invoked : sys.step r.config (.invoke call) = some c') : Granted O { r with config := c' } := by
  cases invoked
  have before {j : Nat} {th : Thread S Tx ε α} {l : Lock} (held : l ∈ sys.engine.heldBy th.tx)
      (there : (r.config.threads ++ [⟨sys.program r.config.shared.calls.length call, none⟩])[j]? = some th) :
      r.config.threads[j]? = some th := by
    rw [List.getElem?_append] at there
    split at there
    · exact there
    · obtain rfl := List.mem_singleton.mp (List.mem_of_getElem? there)
      cases held
  constructor
  · intro a b l l' different hasA hasB
    refine granted.apart a b l l' different (hasA.imp_right ?_) (hasB.imp_right ?_)
    · exact fun ⟨th, there, held⟩ => ⟨th, before held there, held⟩
    · exact fun ⟨th, there, held⟩ => ⟨th, before held there, held⟩
  · intro j l taken
    obtain ⟨th, stmt, next, w, there, rest⟩ := granted.taken j l taken
    have within := (List.getElem?_eq_some_iff.mp there).1
    exact ⟨th, stmt, next, w, (List.getElem?_append_left within).trans there, rest⟩

theorem reachable_granted {w : World} (reachable : Reachable O w r) : Granted O r := by
  induction reachable with
  | refl =>
    constructor
    · rintro a b l l' - (taken | ⟨th, there, -⟩) -
      · cases taken
      · cases there
    · intro j l taken
      cases taken
  | tail _ last ih =>
    cases last with
    | advances i _ _ advances =>
      cases advances with
      | takes th stmt next l present calls wants free => exact ih.took present calls wants free
      | steps c' stepped clear => exact ih.steps stepped clear
    | fault i _ c' faulted => exact ih.faults faulted
    | invoke call _ c' invoked => exact ih.invoked invoked
    | environ action _ c' stepped =>
      cases stepped
      exact ⟨ih.apart, ih.taken⟩

/-- Each thread keeps to the order of the locks from where it stands. -/
structure Ordered (O : LockOrder sys.engine) (level : Call → Prop) (r : sys.Locking) : Prop
    extends Granted O r where
  numbered : r.config.threads.length = r.config.shared.calls.length
  orderly : ∀ (i : Nat) (th : Thread S Tx ε α) call, r.config.threads[i]? = some th →
    r.config.shared.calls[i]? = some call →
      Orderly O (level call) (fun _ tx => tx = none) th.prog th.tx

def WaitsAt (O : LockOrder sys.engine) (r : sys.Locking) (i j m : Nat) : Prop :=
  ∃ th stmt next l l', r.config.threads[i]? = some th ∧ th.prog = .call stmt next ∧
    r.Wants O i stmt th.tx l ∧ r.Obstructs i stmt th.tx l j l' ∧ O.rank l = m

theorem WaitsAt.waitsFor (waits : r.WaitsAt O i j m) : r.WaitsFor O i j := by
  obtain ⟨th, stmt, next, l, l', present, calls, wants, obstructs, -⟩ := waits
  exact ⟨th, stmt, next, l, l', present, calls, wants, obstructs⟩

theorem WaitsFor.waitsAt (waits : r.WaitsFor O i j) : ∃ m, r.WaitsAt O i j m := by
  obtain ⟨th, stmt, next, l, l', present, calls, wants, obstructs⟩ := waits
  exact ⟨_, th, stmt, next, l, l', present, calls, wants, obstructs, rfl⟩

theorem WaitsAt.le (waits : r.WaitsAt O i j m) : m ≤ O.top := by
  obtain ⟨th, stmt, next, l, l', -, -, -, -, rfl⟩ := waits
  exact O.rank_le l

theorem WaitsFor.waiting (waits : r.WaitsFor O i j) : sys.Unfinished r.config i := by
  obtain ⟨th, stmt, next, l, l', present, calls, -⟩ := waits
  exact ⟨th, present, by simp [Thread.ended, calls]⟩

-- Whoever has a lock has not ended.
theorem WaitsFor.unfinished (granted : Granted O r) (waits : r.WaitsFor O i j) :
    sys.Unfinished r.config j := by
  have holder {th : Thread S Tx ε α} {l : Lock} (present : r.config.threads[j]? = some th)
      (held : l ∈ sys.engine.heldBy th.tx) : sys.Unfinished r.config j := by
    refine ⟨th, present, ?_⟩
    obtain ⟨prog, tx⟩ := th
    cases tx with
    | none => cases held
    | some t => cases prog <;> rfl
  obtain ⟨th, stmt, next, l, l', present, -, -, -, ⟨-, taken | ⟨a, there, held⟩⟩ | ⟨rfl, -, held⟩⟩ := waits
  · obtain ⟨a, stmt', next', w, there, calls, -⟩ := granted.taken j l' taken
    exact ⟨a, there, by simp [Thread.ended, calls]⟩
  · exact holder there held
  · exact holder present held

namespace Ordered

variable (ordered : r.Ordered O level)
include ordered

theorem called (present : i < r.config.threads.length) :
    ∃ call, r.config.shared.calls[i]? = some call := by
  rw [ordered.numbered] at present
  exact ⟨_, List.getElem?_eq_getElem present⟩

theorem asks {th : Thread S Tx ε α} {stmt : S.Stmt} {next : Option (S.Res stmt) → Prog S ε α}
    (present : r.config.threads[i]? = some th) (calls : th.prog = .call stmt next) :
    ∃ call, r.config.shared.calls[i]? = some call ∧ O.Asks (level call) stmt th.tx := by
  obtain ⟨call, called⟩ := ordered.called (List.getElem?_eq_some_iff.mp present).1
  have orderly := ordered.orderly i th call present called
  rw [calls] at orderly
  exact ⟨call, called, orderly.1⟩

theorem call_advances {th : Thread S Tx ε α} {stmt : S.Stmt}
    {next : Option (S.Res stmt) → Prog S ε α} (present : r.config.threads[i]? = some th)
    (calls : th.prog = .call stmt next) : r.Runnable O i ∨ ∃ j, r.WaitsFor O i j := by
  by_cases all : ∀ l ∈ sys.engine.needs stmt r.config.shared.world th.tx, l ∈ r.taken i
  · left
    have unblocked : sys.engine.Unblocked r.config.threads r.config.shared.world i th stmt := by
      intro j _ apart other there l needed l' held
      by_cases self : j = i
      · subst self
        obtain rfl : th = other := Option.some.inj (present.symm.trans there)
        obtain ⟨a, stmt', next', w, here, calls', -, -, alone⟩ := ordered.taken j l (all l needed)
        obtain rfl : th = a := Option.some.inj (present.symm.trans here)
        rw [calls] at calls'
        cases calls'
        exact alone (apart.resolve_left fun different => different rfl) l' held
      · exact ordered.apart i j l l' (Ne.symm self) (.inl (all l needed)) (.inr ⟨other, there, held⟩)
    have clear : r.Clear i := by
      intro a stmt' next' here calls' l needed j different l' taken
      obtain rfl : th = a := Option.some.inj (present.symm.trans here)
      rw [calls] at calls'
      cases calls'
      exact ordered.apart i j l l' (Ne.symm different) (.inl (all l needed)) (.inl taken)
    have stepped : (sys.step r.config (.step i)).isSome = true := by
      obtain ⟨prog, tx⟩ := th
      cases calls
      simp only [System.step, present, Option.bind_some, System.stepThread, if_pos unblocked]
      cases sys.engine.exec stmt r.config.shared.world tx <;> rfl
    obtain ⟨c', stepped⟩ := Option.isSome_iff_exists.mp stepped
    exact ⟨_, .steps r c' stepped clear⟩
  · push Not at all
    obtain ⟨l₀, needed₀, fresh₀⟩ := all
    -- Of the locks that are missing, one of the lowest rank comes next.
    classical
    let missing (l : Lock) : Prop :=
      l ∈ sys.engine.needs stmt r.config.shared.world th.tx ∧ l ∉ r.taken i
    have some_missing : ∃ m, ∃ l, missing l ∧ O.rank l = m := ⟨_, l₀, ⟨needed₀, fresh₀⟩, rfl⟩
    obtain ⟨l, ⟨needed, fresh⟩, lowest⟩ := Nat.find_spec some_missing
    have wants : r.Wants O i stmt th.tx l := by
      refine ⟨needed, fresh, fun l' needed' lower => ?_⟩
      by_contra fresh'
      exact Nat.find_min some_missing (lowest ▸ lower) ⟨l', ⟨needed', fresh'⟩, rfl⟩
    by_cases free : ∀ j l', ¬r.Obstructs i stmt th.tx l j l'
    · exact .inl ⟨_, .takes r th stmt next l present calls wants free⟩
    · push Not at free
      obtain ⟨j, l', obstructs⟩ := free
      exact .inr ⟨j, th, stmt, next, l, l', present, calls, wants, obstructs⟩

theorem runnable_or_waits (unfinished : sys.Unfinished r.config i) :
    r.Runnable O i ∨ ∃ j, r.WaitsFor O i j := by
  obtain ⟨th, present, going⟩ := unfinished
  by_cases calling : ∃ stmt next, th.prog = .call stmt next
  · obtain ⟨stmt, next, calls⟩ := calling
    exact ordered.call_advances present calls
  left
  have clear : r.Clear i := by
    intro a stmt next here calls
    obtain rfl : th = a := Option.some.inj (present.symm.trans here)
    exact absurd ⟨stmt, next, calls⟩ calling
  have stepped : (sys.step r.config (.step i)).isSome = true := by
    obtain ⟨call, called⟩ := ordered.called (List.getElem?_eq_some_iff.mp present).1
    have orderly := ordered.orderly i th call present called
    obtain ⟨prog, tx⟩ := th
    cases prog with
    | done value =>
      obtain rfl : tx = none := orderly
      cases going
    | throw error =>
      cases tx with
      | none => cases going
      | some t => simp [System.step, present, System.stepThread]
    | call stmt next => exact absurd ⟨stmt, next, rfl⟩ calling
    | start next => simp [System.step, present, System.stepThread]
    | commit next =>
      cases tx with
      | none => cases orderly.1
      | some t => simp [System.step, present, System.stepThread]
  obtain ⟨c', stepped⟩ := Option.isSome_iff_exists.mp stepped
  exact ⟨_, .steps r c' stepped clear⟩

theorem ne_of_waits (waits : r.WaitsAt O i j m) : j ≠ i := by
  rintro rfl
  obtain ⟨th, stmt, next, l, l', present, calls, wants, ⟨conflict, ⟨different, -⟩ | ⟨-, alone, held⟩⟩, -⟩ :=
    waits
  · exact different rfl
  · obtain ⟨call, -, asks⟩ := ordered.asks present calls
    have same := O.rank_eq l l' conflict
    rcases asks.after _ l wants.needed with ⟨inside, -⟩ | after
    · rw [alone] at inside
      cases inside
    · rcases after l' held with above | ⟨-, inside, -⟩
      · omega
      · rw [alone] at inside
        cases inside

theorem ascends (first : r.WaitsAt O i j m) (second : r.WaitsAt O j k n) :
    m < n ∨ m ≤ n ∧ ∃ call, r.config.shared.calls[j]? = some call ∧ level call := by
  have apart := ordered.ne_of_waits first
  have apart' := ordered.ne_of_waits second
  obtain ⟨th₀, stmt₀, -, l, l', -, -, -, ⟨conflict, has⟩, rank⟩ := first
  obtain ⟨th, stmt, next, a, a', present, calls, wants, ⟨conflict', has'⟩, rank'⟩ := second
  have has := (has.resolve_right fun self => apart self.1).2
  have has' := (has'.resolve_right fun self => apart' self.1).2
  obtain ⟨call, called, asks⟩ := ordered.asks present calls
  have same := O.rank_eq l l' conflict
  rcases has with taken | ⟨other, there, held⟩
  · obtain ⟨b, stmt', next', w, here, calls', needed, lower, -⟩ := ordered.taken j l' taken
    obtain rfl : th = b := Option.some.inj (present.symm.trans here)
    rw [calls] at calls'
    cases calls'
    obtain ⟨below, level⟩ := asks.among _ w a wants.needed l' needed
    by_cases less : O.rank a < O.rank l'
    · exact absurd (lower a (below less) less) wants.fresh
    · by_cases equal : O.rank a = O.rank l'
      · rcases level equal with rfl | is_level
        · exact absurd taken wants.fresh
        · exact .inr ⟨by omega, call, called, is_level⟩
      · exact .inl (by omega)
  · obtain rfl : th = other := Option.some.inj (present.symm.trans there)
    rcases asks.after _ a wants.needed with ⟨-, own, mine, covers⟩ | after
    · have free := ordered.apart j k own a' apart'.symm (.inr ⟨th, present, mine⟩) has'
      rw [covers a' conflict'] at free
      cases free
    · rcases after l' held with above | ⟨is_level, -, above⟩
      · exact .inl (by omega)
      · exact .inr ⟨by omega, call, called, is_level⟩

/-- A thread that has not ended waits at last for one that goes on, or for level threads that wait
for each other. -/
theorem progress (unfinished : sys.Unfinished r.config i) :
    ∃ j, ReflTransGen (r.WaitsFor O) i j ∧
      (r.Runnable O j ∨ TransGen (r.LevelWaits O level) j j) := by
  by_contra stuck
  push Not at stuck
  have going {j : Nat} (reached : ReflTransGen (r.WaitsFor O) i j) : sys.Unfinished r.config j := by
    cases reached with
    | refl => exact unfinished
    | tail _ last => exact last.unfinished ordered.toGranted
  have waits {j : Nat} (reached : ReflTransGen (r.WaitsFor O) i j) :
      ∃ k m, r.WaitsAt O j k m := by
    rcases ordered.runnable_or_waits (going reached) with runnable | ⟨k, blocked⟩
    · exact absurd runnable (stuck j reached).1
    · obtain ⟨m, there⟩ := blocked.waitsAt
      exact ⟨k, m, there⟩
  -- The threads that are waited for at the highest rank are all of the level kind.
  classical
  let Waited (m : Nat) : Prop := ∃ j k, ReflTransGen (r.WaitsFor O) i j ∧ r.WaitsAt O j k m
  obtain ⟨k, m₀, first⟩ := waits .refl
  let m := Nat.findGreatest Waited O.top
  have some_waits : Waited m := Nat.findGreatest_spec first.le ⟨i, k, .refl, first⟩
  have most {j k n : Nat} (reached : ReflTransGen (r.WaitsFor O) i j)
      (waits : r.WaitsAt O j k n) : n ≤ m :=
    Nat.le_findGreatest waits.le ⟨j, k, reached, waits⟩
  let Held := { k // ∃ j, ReflTransGen (r.WaitsFor O) i j ∧ r.WaitsAt O j k m }
  have reached (k : Held) : ReflTransGen (r.WaitsFor O) i k := by
    obtain ⟨k, j, reached, waits⟩ := k
    exact reached.tail waits.waitsFor
  have onward (k : Held) : ∃ k' : Held, r.LevelWaits O level k k' := by
    obtain ⟨l, n, second⟩ := waits (reached k)
    obtain ⟨l', n', third⟩ := waits ((reached k).tail second.waitsFor)
    obtain ⟨k, j, before, waits⟩ := k
    have below := most (before.tail waits.waitsFor) second
    have below' := most ((before.tail waits.waitsFor).tail second.waitsFor) third
    rcases ordered.ascends waits second with above | ⟨above, call, called, is_level⟩
    · omega
    · obtain rfl : n = m := by omega
      rcases ordered.ascends second third with above' | ⟨-, there⟩
      · omega
      · exact ⟨⟨l, k, before.tail waits.waitsFor, second⟩, second.waitsFor, ⟨call, called, is_level⟩,
          there⟩
  have : Finite Held := by
    refine Set.Finite.subset (Set.finite_lt_nat r.config.threads.length) ?_
    rintro k ⟨j, -, waits⟩
    obtain ⟨other, there, -⟩ := waits.waitsFor.unfinished ordered.toGranted
    exact (List.getElem?_eq_some_iff.mp there).1
  have : Nonempty Held := by
    obtain ⟨j, k, before, waits⟩ := some_waits
    exact ⟨k, j, before, waits⟩
  obtain ⟨k, cycle⟩ := exists_cycle onward
  have cycle' : TransGen (r.LevelWaits O level) k k := cycle.lift Subtype.val fun _ _ next => next
  exact (stuck k (reached k)).2 cycle'

theorem runnable (unfinished : sys.Unfinished r.config i)
    (alone : ∀ j k call call', sys.Unfinished r.config j → sys.Unfinished r.config k →
      r.config.shared.calls[j]? = some call → r.config.shared.calls[k]? = some call' → level call →
        level call' → j = k) : ∃ j, r.Runnable O j := by
  obtain ⟨j, -, runnable | cycle⟩ := ordered.progress unfinished
  · exact ⟨j, runnable⟩
  · obtain ⟨k, ⟨waits, ⟨call, called, first⟩, call', called', second⟩, -⟩ :=
      TransGen.head'_iff.mp cycle
    have going := waits.unfinished ordered.toGranted
    obtain rfl := alone j k call call' waits.waiting going called called' first second
    obtain ⟨m, self⟩ := waits.waitsAt
    exact absurd rfl (ordered.ne_of_waits self)

end Ordered

section Ends

open Classical in
noncomputable def missingAt (c : sys.State) (i : Nat) (taken : List Lock) : Nat :=
  match c.threads[i]? with
  | some { prog := .call stmt _, tx } =>
    ((sys.engine.needs stmt c.shared.world tx).filter fun l => l ∉ taken).length
  | _ => 0

noncomputable def missing (r : sys.Locking) : Nat :=
  ∑ i ∈ Finset.range r.config.threads.length, missingAt r.config i (r.taken i)

theorem missing_took {th : Thread S Tx ε α} {stmt : S.Stmt} {next : Option (S.Res stmt) → Prog S ε α}
    {l : Lock} (present : r.config.threads[i]? = some th) (calls : th.prog = .call stmt next)
    (wants : r.Wants O i stmt th.tx l) :
    missing { r with taken := Function.update r.taken i (l :: r.taken i) } < r.missing := by
  classical
  have own : missingAt r.config i (l :: r.taken i) < missingAt r.config i (r.taken i) := by
    obtain ⟨prog, tx⟩ := th
    cases calls
    simp only [missingAt, present]
    have fewer (needs : List Lock) : (needs.filter fun l' => decide (l' ∉ l :: r.taken i)) =
        (needs.filter fun l' => decide (l' ∉ r.taken i)).filter fun l' => decide (l' ≠ l) := by
      rw [List.filter_filter]
      refine List.filter_congr fun l' _ => ?_
      simp
    rw [fewer, List.length_filter_lt_length_iff_exists]
    exact ⟨l, List.mem_filter.mpr ⟨wants.needed, by simpa using wants.fresh⟩, by simp⟩
  have less : missingAt r.config i (Function.update r.taken i (l :: r.taken i) i) <
      missingAt r.config i (r.taken i) := by
    rw [Function.update_self]
    exact own
  refine Finset.sum_lt_sum (fun j _ => ?_) ⟨i, ?_, ?_⟩
  · by_cases self : j = i
    · subst self
      exact Nat.le_of_lt less
    · exact Nat.le_of_eq (congrArg (missingAt r.config j) (Function.update_of_ne self _ _))
  · exact Finset.mem_range.mpr (List.getElem?_eq_some_iff.mp present).1
  · exact less

/-- When some thread can go on in every state that is met before all have ended, the threads can be
run until all have ended. -/
theorem runs_to_end (O : LockOrder sys.engine) (met : sys.Locking → Prop)
    (kept : ∀ i r r', met r → Advances O i r r' → met r')
    (goes : ∀ r i, met r → sys.Unfinished r.config i → ∃ j, r.Runnable O j) (here : met r) :
    ∃ r', ReflTransGen (fun r r' => ∃ i, Advances O i r r') r r' ∧ met r' ∧
      ∀ th ∈ r'.config.threads, th.ended = true := by
  have founded : WellFounded (Prod.Lex (Relation.CutExpand (@Thread.Next S Tx ε α)) (· < ·)) :=
    Thread.next_wellFounded.cutExpand.prod_lex Nat.lt_wfRel.wf
  generalize left : ((r.config.threads : Multiset (Thread S Tx ε α)), r.missing) = measure
  induction measure using founded.induction generalizing r with
  | h measure ih =>
    subst left
    by_cases all : ∀ th ∈ r.config.threads, th.ended = true
    · exact ⟨r, .refl, here, all⟩
    push Not at all
    obtain ⟨th, member, going⟩ := all
    obtain ⟨i, present⟩ := List.getElem?_of_mem member
    obtain ⟨j, r', advances⟩ := goes r i here ⟨th, present, by simpa using going⟩
    have less : Prod.Lex (Relation.CutExpand (@Thread.Next S Tx ε α)) (· < ·)
        ((r'.config.threads : Multiset (Thread S Tx ε α)), r'.missing)
        ((r.config.threads : Multiset (Thread S Tx ε α)), r.missing) := by
      cases advances with
      | takes th stmt next l present calls wants free =>
        exact .right _ (missing_took present calls wants)
      | steps c' stepped clear =>
        obtain ⟨a, there, moved⟩ := Option.bind_eq_some_iff.mp stepped
        obtain ⟨a', less, threads, -⟩ := stepThread_next moved
        refine .left _ _ ⟨{a'}, a, fun b member => ?_, ?_⟩
        · rw [Multiset.mem_singleton.mp member]
          exact less
        · rw [threads]
          exact set_add_singleton r.config.threads j a' there
    obtain ⟨last, runs, met, ended⟩ := ih _ less (kept j r r' here advances) rfl
    exact ⟨last, .head ⟨j, advances⟩ runs, met, ended⟩

end Ends

end Locking

end System

end Interleaving
