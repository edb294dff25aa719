import Mathlib.Logic.Hydra
import Mathlib.Order.WellFounded
import TicketService.Interleaving.Guarantee

set_option autoImplicit false

namespace Interleaving

open Relation

variable {S : Signature} {World Tx Lock Env Call ε α β : Type}

-- Ranks for the locks of an engine; only locks of one rank conflict.
structure LockOrder (E : Engine S World Tx Lock Env) where
  rank : Lock → Nat
  top : Nat
  rank_le : ∀ l, rank l ≤ top
  rank_eq : ∀ l l', E.conflict l l' = true → rank l = rank l'
  conflict_comm : ∀ l l', E.conflict l l' = E.conflict l' l
  held_fresh : E.held E.fresh = []
  held_exec : ∀ stmt w tx result w' tx', E.exec stmt w tx = some (result, w', tx') →
    ∀ l ∈ E.heldBy tx', l ∈ E.heldBy tx ∨ l ∈ E.needs stmt w tx

-- Whoever conflicts with `l` conflicts with `own`.
def Engine.Covers (E : Engine S World Tx Lock Env) (own l : Lock) : Prop :=
  ∀ l', E.conflict l l' = true → E.conflict own l' = true

variable {E : Engine S World Tx Lock Env}

/-- The locks that the statement needs are covered by locks of the transaction or come after all of
them. A level program may also ask for locks of the same rank, and its statements for several of them. -/
structure LockOrder.Asks (O : LockOrder E) (level : Prop) (stmt : S.Stmt) (tx : Option Tx) : Prop where
  after : ∀ w, ∀ l ∈ E.needs stmt w tx,
    (E.autocommit stmt = false ∧ ∃ own ∈ E.heldBy tx, E.Covers own l) ∨
      ∀ own ∈ E.heldBy tx, O.rank own < O.rank l ∨
        level ∧ E.autocommit stmt = false ∧ O.rank own ≤ O.rank l
  -- `own` may have been taken at a time at which the statement needed other locks.
  among : ∀ w w', ∀ l ∈ E.needs stmt w tx, ∀ own ∈ E.needs stmt w' tx,
    (O.rank l < O.rank own → l ∈ E.needs stmt w' tx) ∧ (O.rank l = O.rank own → l = own ∨ level)

/-- Whatever its statements return, the program asks for its locks in order and commits an open
transaction. `Q` holds when it has returned. -/
def Orderly (O : LockOrder E) (level : Prop) (Q : α → Option Tx → Prop) :
    Prog S ε α → Option Tx → Prop
  | .done value, tx => Q value tx
  | .throw _, _ => True
  | .call stmt next, tx =>
    O.Asks level stmt tx ∧
      (∀ result w w' tx', E.exec stmt w tx = some (result, w', tx') →
        Orderly O level Q (next (some result)) tx') ∧
      Orderly O level Q (next none) tx
  | .start next, _ => Orderly O level Q next (some E.fresh)
  | .commit next, tx =>
    tx.isSome ∧ Orderly O level Q (next true) none ∧ Orderly O level Q (next false) none

namespace Orderly

variable {O : LockOrder E} {level : Prop} {Q R : α → Option Tx → Prop} {p : Prog S ε α}
  {tx : Option Tx}

theorem mono (orderly : Orderly O level Q p tx) (weaker : ∀ value tx, Q value tx → R value tx) :
    Orderly O level R p tx := by
  induction p generalizing tx with
  | done value => exact weaker value tx orderly
  | throw error => trivial
  | call stmt next ih =>
    obtain ⟨asks, succeeds, fails⟩ := orderly
    refine ⟨asks, fun result w w' tx' executed => ?_, ih _ fails⟩
    exact ih _ (succeeds result w w' tx' executed)
  | start next ih => exact ih orderly
  | commit next ih => exact ⟨orderly.1, ih _ orderly.2.1, ih _ orderly.2.2⟩

theorem bind {f : α → Prog S ε β} {Q : β → Option Tx → Prop}
    (orderly : Orderly O level (fun value tx => Orderly O level Q (f value) tx) p tx) :
    Orderly O level Q (p.bind f) tx := by
  induction p generalizing tx with
  | done value => exact orderly
  | throw error => trivial
  | call stmt next ih =>
    obtain ⟨asks, succeeds, fails⟩ := orderly
    refine ⟨asks, fun result w w' tx' executed => ?_, ih _ fails⟩
    exact ih _ (succeeds result w w' tx' executed)
  | start next ih => exact ih orderly
  | commit next ih => exact ⟨orderly.1, ih _ orderly.2.1, ih _ orderly.2.2⟩

theorem andThen {f : α → Prog S ε β} {Q : β → Option Tx → Prop} (orderly : Orderly O level R p tx)
    (rest : ∀ value tx, R value tx → Orderly O level Q (f value) tx) :
    Orderly O level Q (p.bind f) tx :=
  (orderly.mono rest).bind

theorem perform {failure : ε} {stmt : S.Stmt} {Q : S.Res stmt → Option Tx → Prop}
    (asks : O.Asks level stmt tx)
    (post : ∀ result w w' tx', E.exec stmt w tx = some (result, w', tx') → Q result tx') :
    Orderly O level Q (Prog.perform failure stmt) tx :=
  ⟨asks, post, trivial⟩

theorem transaction {failure : ε} {body : Prog S ε α}
    (orderly : Orderly O level (fun value tx => tx.isSome ∧ Q value none) body (some E.fresh)) :
    Orderly O level Q (Prog.transaction failure body) tx := by
  have committed : Orderly O level (fun value tx => Orderly O level Q (.commit fun committed =>
      if committed then .done value else .throw failure) tx) body (some E.fresh) :=
    orderly.mono fun value tx post => ⟨post.1, post.2, trivial⟩
  exact committed.bind

end Orderly

namespace Prog

def Only (kind : S.Stmt → Prop) : Prog S ε α → Prop
  | .done _ => True
  | .throw _ => True
  | .call stmt next => kind stmt ∧ ∀ result, (next result).Only kind
  | .start _ => False
  | .commit _ => False

namespace Only

variable {kind : S.Stmt → Prop} {p : Prog S ε α}

theorem perform {failure : ε} {stmt : S.Stmt} (allowed : kind stmt) :
    (Prog.perform failure stmt).Only kind := by
  refine ⟨allowed, fun result => ?_⟩
  cases result <;> trivial

theorem bind {f : α → Prog S ε β} (first : p.Only kind) (rest : ∀ value, (f value).Only kind) :
    (p.bind f).Only kind := by
  induction p with
  | done value => exact rest value
  | throw error => trivial
  | call stmt next ih => exact ⟨first.1, fun result => ih result (first.2 result)⟩
  | start next => exact first.elim
  | commit next => exact first.elim

theorem mono {kind' : S.Stmt → Prop} (issues : p.Only kind)
    (weaker : ∀ stmt, kind stmt → kind' stmt) : p.Only kind' := by
  induction p with
  | done value => trivial
  | throw error => trivial
  | call stmt next ih => exact ⟨weaker stmt issues.1, fun result => ih result (issues.2 result)⟩
  | start next => exact issues.elim
  | commit next => exact issues.elim

end Only

end Prog

theorem Orderly.issues {O : LockOrder E} {level : Prop} {kind : S.Stmt → Prop}
    {I : Option Tx → Prop} {p : Prog S ε α} {tx : Option Tx} (issues : p.Only kind)
    (asks : ∀ stmt tx, kind stmt → I tx → O.Asks level stmt tx)
    (steps : ∀ stmt w tx result w' tx', kind stmt → I tx →
      E.exec stmt w tx = some (result, w', tx') → I tx') (holds : I tx) :
    Orderly O level (fun _ tx => I tx) p tx := by
  induction p generalizing tx with
  | done value => exact holds
  | throw error => trivial
  | call stmt next ih =>
    obtain ⟨allowed, rest⟩ := issues
    refine ⟨asks stmt tx allowed holds, fun result w w' tx' executed => ?_, ih _ (rest none) holds⟩
    exact ih _ (rest _) (steps stmt w tx result w' tx' allowed holds executed)
  | start next => exact issues.elim
  | commit next => exact issues.elim

namespace System

variable (sys : System S World Tx Lock Env Call ε α)

def Unfinished (c : sys.State) (i : Nat) : Prop :=
  ∃ th, c.threads[i]? = some th ∧ th.ended = false

variable {sys} {O : LockOrder sys.engine} {level : Call → Prop} {c : sys.State} {i : Nat}

structure EachThread (sys : System S World Tx Lock Env Call ε α)
    (P : Call → Thread S Tx ε α → Prop) (c : sys.State) : Prop where
  numbered : c.threads.length = c.shared.calls.length
  holds : ∀ (i : Nat) (th : Thread S Tx ε α) call, c.threads[i]? = some th →
    c.shared.calls[i]? = some call → P call th

namespace EachThread

variable {P : Call → Thread S Tx ε α → Prop} (each : sys.EachThread P c)
include each

theorem update {th' : Thread S Tx ε α} {g : Shared S World Tx Call}
    (calls : g.calls = c.shared.calls)
    (holds : ∀ call, c.shared.calls[i]? = some call → P call th') :
    sys.EachThread P { shared := g, threads := c.threads.set i th' } where
  numbered := by simp [calls, each.numbered]
  holds j a call here called := by
    have called' : c.shared.calls[j]? = some call := calls ▸ called
    by_cases self : i = j
    · subst self
      obtain ⟨within, same⟩ := List.getElem?_eq_some_iff.mp here
      rw [List.getElem_set_self] at same
      exact same ▸ holds call called'
    · rw [List.getElem?_set_ne self] at here
      exact each.holds j a call here called'

theorem invoke {call : Call} {th : Thread S Tx ε α} (holds : P call th) :
    sys.EachThread P { shared := c.shared.invoke call, threads := c.threads ++ [th] } where
  numbered := by simp [Shared.invoke, each.numbered]
  holds j a call' here called := by
    have numbered := each.numbered
    by_cases old : j < c.threads.length
    · rw [List.getElem?_append_left old] at here
      have called' : c.shared.calls[j]? = some call' := by
        simpa [Shared.invoke, List.getElem?_append_left (numbered ▸ old)] using called
      exact each.holds j a call' here called'
    · have within := (List.getElem?_eq_some_iff.mp here).1
      simp only [List.length_append, List.length_singleton] at within
      obtain rfl : j = c.threads.length := by omega
      obtain rfl : th = a := by simpa using here
      obtain rfl : call = call' := by simpa [Shared.invoke, numbered] using called
      exact holds

end EachThread

/-- Every thread of a run keeps to the order of the locks when the programs of all calls do. -/
theorem reachable_orderly {w : World}
    (disciplined : ∀ i call, Orderly O (level call) (fun _ tx => tx = none) (sys.program i call) none)
    (reachable : sys.Reachable w c) :
    sys.EachThread (fun call th => Orderly O (level call) (fun _ tx => tx = none) th.prog th.tx) c := by
  induction reachable with
  | refl => exact ⟨rfl, fun i th call here => by simp [System.initial] at here⟩
  | tail _ last ih =>
    obtain ⟨act, stepped⟩ := last
    cases act with
    | invoke call =>
      cases stepped
      exact ih.invoke (disciplined _ call)
    | step i =>
      obtain ⟨⟨prog, tx⟩, present, moved⟩ := Option.bind_eq_some_iff.mp stepped
      have orderly := fun call => ih.holds i ⟨prog, tx⟩ call present
      cases prog with
      | done value => cases moved
      | throw error =>
        cases tx with
        | none => cases moved
        | some t =>
          cases moved
          exact ih.update rfl fun _ _ => trivial
      | call stmt next =>
        simp only [System.stepThread] at moved
        split at moved
        · split at moved
          next result w tx' executed =>
            cases moved
            exact ih.update rfl fun call called => (orderly call called).2.1 _ _ _ _ executed
          next =>
            cases moved
            exact ih.update rfl fun call called => (orderly call called).2.2
        · cases moved
      | start next =>
        cases moved
        exact ih.update rfl orderly
      | commit next =>
        cases tx with
        | none => cases moved
        | some t =>
          cases moved
          exact ih.update rfl fun call called => (orderly call called).2.1
    | fault i =>
      obtain ⟨⟨prog, tx⟩, present, faulted⟩ := Option.bind_eq_some_iff.mp stepped
      have orderly := fun call => ih.holds i ⟨prog, tx⟩ call present
      cases prog with
      | call stmt next =>
        cases faulted
        exact ih.update rfl fun call called => (orderly call called).2.2
      | commit next =>
        cases faulted
        exact ih.update rfl fun call called => (orderly call called).2.2
      | _ => cases faulted
    | environ action =>
      cases stepped
      exact ⟨ih.numbered, ih.holds⟩

end System

inductive Prog.Next : Prog S ε α → Prog S ε α → Prop where
  | call (stmt : S.Stmt) (next : Option (S.Res stmt) → Prog S ε α) (result : Option (S.Res stmt)) :
      Next (next result) (.call stmt next)
  | start (next : Prog S ε α) : Next next (.start next)
  | commit (next : Bool → Prog S ε α) (committed : Bool) : Next (next committed) (.commit next)

theorem Prog.next_wellFounded : WellFounded (@Prog.Next S ε α) := by
  constructor
  intro p
  induction p with
  | done value => exact ⟨_, fun _ rest => by cases rest⟩
  | throw error => exact ⟨_, fun _ rest => by cases rest⟩
  | call stmt next ih =>
    refine ⟨_, fun _ rest => ?_⟩
    cases rest
    exact ih _
  | start next ih =>
    refine ⟨_, fun _ rest => ?_⟩
    cases rest
    exact ih
  | commit next ih =>
    refine ⟨_, fun _ rest => ?_⟩
    cases rest
    exact ih _

-- A step of a thread: its program goes on, or the transaction that an exception leaves is undone.
def Thread.Next (th' th : Thread S Tx ε α) : Prop :=
  Prod.Lex Prog.Next (· < ·) (th'.prog, th'.tx.isSome.toNat) (th.prog, th.tx.isSome.toNat)

theorem Thread.next_wellFounded : WellFounded (@Thread.Next S Tx ε α) :=
  InvImage.wf (fun th : Thread S Tx ε α => (th.prog, th.tx.isSome.toNat))
    (Prog.next_wellFounded.prod_lex Nat.lt_wfRel.wf)

theorem set_add_singleton {ι : Type} (rows : List ι) (i : Nat) {row : ι} (new : ι)
    (present : rows[i]? = some row) :
    ((rows.set i new : List ι) : Multiset ι) + {row} = (rows : Multiset ι) + {new} := by
  induction rows generalizing i with
  | nil => cases present
  | cons first rest ih =>
    cases i with
    | zero =>
      obtain rfl : first = row := by simpa using present
      simp only [List.set_cons_zero, ← Multiset.cons_coe, ← Multiset.singleton_add]
      rw [add_right_comm, add_comm ({new} : Multiset ι), add_right_comm]
    | succ i =>
      have there : rest[i]? = some row := by simpa using present
      simp only [List.set_cons_succ, ← Multiset.cons_coe, Multiset.cons_add, ih i there]

namespace System

variable {sys : System S World Tx Lock Env Call ε α} {c c' : sys.State} {i : Nat}

theorem stepThread_next {th : Thread S Tx ε α} (stepped : sys.stepThread c i th = some c') :
    ∃ th', th'.Next th ∧ c'.threads = c.threads.set i th' ∧ c'.shared.calls = c.shared.calls := by
  obtain ⟨prog, tx⟩ := th
  cases prog with
  | done value => cases stepped
  | throw error =>
    cases tx with
    | none => cases stepped
    | some t =>
      cases stepped
      exact ⟨⟨.throw error, none⟩, .right _ Nat.zero_lt_one, rfl, rfl⟩
  | call stmt next =>
    simp only [System.stepThread] at stepped
    split at stepped
    · split at stepped
      · cases stepped
        exact ⟨_, .left _ _ (.call stmt next _), rfl, rfl⟩
      · cases stepped
        exact ⟨_, .left _ _ (.call stmt next _), rfl, rfl⟩
    · cases stepped
  | start next =>
    cases stepped
    exact ⟨_, .left _ _ (.start next), rfl, rfl⟩
  | commit next =>
    cases tx with
    | none => cases stepped
    | some t =>
      cases stepped
      exact ⟨_, .left _ _ (.commit next _), rfl, rfl⟩

theorem unfinished_before {j : Nat} (stepped : sys.step c (.step i) = some c')
    (unfinished : sys.Unfinished c' j) : sys.Unfinished c j := by
  obtain ⟨⟨prog, tx⟩, present, moved⟩ := Option.bind_eq_some_iff.mp stepped
  by_cases self : j = i
  · subst self
    refine ⟨_, present, ?_⟩
    cases prog with
    | done value => cases moved
    | throw error =>
      cases tx with
      | none => cases moved
      | some t => rfl
    | _ => rfl
  · obtain ⟨th', -, threads, -⟩ := stepThread_next moved
    obtain ⟨a, here, going⟩ := unfinished
    rw [threads, List.getElem?_set_ne (Ne.symm self)] at here
    exact ⟨a, here, going⟩

end System

end Interleaving
