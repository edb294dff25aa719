import Mathlib.Logic.Relation
import TicketService.Interleaving.Program

set_option autoImplicit false

namespace Interleaving

structure Engine (S : Signature) (World Tx Lock Env : Type) where
  conflict : Lock → Lock → Bool
  fresh : Tx
  held : Tx → List Lock
  -- The locks a statement must acquire to execute.
  needs : S.Stmt → World → Option Tx → List Lock
  -- Whether a statement runs on a connection of its own, beside the thread's transaction.
  autocommit : S.Stmt → Bool
  -- `none` when the statement throws.
  exec : (stmt : S.Stmt) → World → Option Tx → Option (S.Res stmt × World × Option Tx)
  publish : Tx → World → World
  environ : Env → World → World

-- What happened, with the world before it.
inductive Event (S : Signature) (World Tx : Type) where
  | stmt (thread : Nat) (stmt : S.Stmt) (result : S.Res stmt) (world : World)
  | commit (thread : Nat) (tx : Tx) (world : World)
  | rollback (thread : Nat) (world : World)

def Event.world {S : Signature} {World Tx : Type} : Event S World Tx → World
  | .stmt _ _ _ world => world
  | .commit _ _ world => world
  | .rollback _ world => world

def Event.thread {S : Signature} {World Tx : Type} : Event S World Tx → Nat
  | .stmt thread _ _ _ => thread
  | .commit thread _ _ => thread
  | .rollback thread _ => thread

structure Shared (S : Signature) (World Tx Call : Type) where
  world : World
  calls : List Call
  -- Newest first.
  history : List (Event S World Tx)

structure Thread (S : Signature) (Tx ε α : Type) where
  prog : Prog S ε α
  tx : Option Tx

-- What the program of the thread has returned.
def Thread.returned {S : Signature} {Tx ε α : Type} (th : Thread S Tx ε α) : Option α :=
  match th.prog with
  | .done value => some value
  | _ => none

def Thread.ended {S : Signature} {Tx ε α : Type} (th : Thread S Tx ε α) : Bool :=
  match th.prog with
  | .done _ => th.tx.isNone
  | .throw _ => th.tx.isNone
  | _ => false

structure Config (S : Signature) (World Tx Call ε α : Type) where
  shared : Shared S World Tx Call
  threads : List (Thread S Tx ε α)

inductive Act (Call Env : Type) where
  | invoke (call : Call)
  | step (thread : Nat)
  -- The pending statement or commit of the thread throws.
  | fault (thread : Nat)
  | environ (action : Env)

def Act.Solo {Call Env : Type} (passes : Env → Prop) (i : Nat) : Act Call Env → Prop
  | .invoke _ => False
  | .step j => j = i
  | .fault j => j = i
  | .environ action => passes action

variable {S : Signature} {World Tx Lock Env Call ε α : Type}

namespace Shared

def invoke (g : Shared S World Tx Call) (call : Call) : Shared S World Tx Call :=
  { g with calls := g.calls ++ [call] }

def environ (E : Engine S World Tx Lock Env) (g : Shared S World Tx Call) (action : Env) :
    Shared S World Tx Call :=
  { g with world := E.environ action g.world }

def record (g : Shared S World Tx Call) (thread : Nat) (stmt : S.Stmt) (result : S.Res stmt)
    (world : World) : Shared S World Tx Call :=
  { g with world, history := .stmt thread stmt result g.world :: g.history }

def commit (E : Engine S World Tx Lock Env) (g : Shared S World Tx Call) (thread : Nat)
    (tx : Tx) : Shared S World Tx Call :=
  { g with
    world := E.publish tx g.world
    history := .commit thread tx g.world :: g.history }

def rollback (g : Shared S World Tx Call) (thread : Nat) : Shared S World Tx Call :=
  { g with history := .rollback thread g.world :: g.history }

@[simp] theorem invoke_world (g : Shared S World Tx Call) (call : Call) :
    (g.invoke call).world = g.world := rfl

@[simp] theorem invoke_history (g : Shared S World Tx Call) (call : Call) :
    (g.invoke call).history = g.history := rfl

@[simp] theorem environ_calls (E : Engine S World Tx Lock Env) (g : Shared S World Tx Call)
    (action : Env) : (g.environ E action).calls = g.calls := rfl

@[simp] theorem environ_history (E : Engine S World Tx Lock Env) (g : Shared S World Tx Call)
    (action : Env) : (g.environ E action).history = g.history := rfl

@[simp] theorem record_world (g : Shared S World Tx Call) (thread : Nat) (stmt : S.Stmt)
    (result : S.Res stmt) (world : World) :
    (g.record thread stmt result world).world = world := rfl

@[simp] theorem record_calls (g : Shared S World Tx Call) (thread : Nat) (stmt : S.Stmt)
    (result : S.Res stmt) (world : World) :
    (g.record thread stmt result world).calls = g.calls := rfl

@[simp] theorem commit_world (E : Engine S World Tx Lock Env) (g : Shared S World Tx Call)
    (thread : Nat) (tx : Tx) : (g.commit E thread tx).world = E.publish tx g.world := rfl

@[simp] theorem commit_calls (E : Engine S World Tx Lock Env) (g : Shared S World Tx Call)
    (thread : Nat) (tx : Tx) : (g.commit E thread tx).calls = g.calls := rfl

@[simp] theorem rollback_world (g : Shared S World Tx Call) (thread : Nat) :
    (g.rollback thread).world = g.world := rfl

@[simp] theorem rollback_calls (g : Shared S World Tx Call) (thread : Nat) :
    (g.rollback thread).calls = g.calls := rfl

end Shared

-- The number of a call is the number of its thread.
structure System (S : Signature) (World Tx Lock Env Call ε α : Type) where
  engine : Engine S World Tx Lock Env
  program : Nat → Call → Prog S ε α

namespace Engine

variable (E : Engine S World Tx Lock Env)

def Compatible (needed held : List Lock) : Prop :=
  ∀ l ∈ needed, ∀ l' ∈ held, E.conflict l l' = false

instance (needed held : List Lock) : Decidable (E.Compatible needed held) :=
  inferInstanceAs (Decidable (∀ l ∈ needed, ∀ l' ∈ held, E.conflict l l' = false))

def heldBy (tx : Option Tx) : List Lock :=
  match tx with
  | some tx => E.held tx
  | none => []

-- Whether the locks that other connections hold let the thread execute the statement.
def Unblocked (threads : List (Thread S Tx ε α)) (world : World) (i : Nat) (th : Thread S Tx ε α)
    (stmt : S.Stmt) : Prop :=
  ∀ j ∈ List.range threads.length, (j ≠ i ∨ E.autocommit stmt = true) →
    ∀ other ∈ threads[j]?, E.Compatible (E.needs stmt world th.tx) (E.heldBy other.tx)

instance (threads : List (Thread S Tx ε α)) (world : World) (i : Nat) (th : Thread S Tx ε α)
    (stmt : S.Stmt) : Decidable (E.Unblocked threads world i th stmt) :=
  inferInstanceAs (Decidable (∀ j ∈ List.range threads.length, (j ≠ i ∨ E.autocommit stmt = true) →
    ∀ other ∈ threads[j]?, E.Compatible (E.needs stmt world th.tx) (E.heldBy other.tx)))

end Engine

namespace System

variable (sys : System S World Tx Lock Env Call ε α)

abbrev State (_ : System S World Tx Lock Env Call ε α) : Type := Config S World Tx Call ε α

def stepThread (c : sys.State) (i : Nat) (th : Thread S Tx ε α) : Option sys.State :=
  match th.prog with
  | .done _ => none
  | .throw _ =>
    -- The transaction that the exception leaves is rolled back.
    match th.tx with
    | some _ =>
      some { shared := c.shared.rollback i
             threads := c.threads.set i { th with tx := none } }
    | none => none
  | .call stmt next =>
    if sys.engine.Unblocked c.threads c.shared.world i th stmt then
      match sys.engine.exec stmt c.shared.world th.tx with
      | some (result, world, tx) =>
        some { shared := c.shared.record i stmt result world
               threads := c.threads.set i { prog := next (some result), tx } }
      | none => some { c with threads := c.threads.set i { th with prog := next none } }
    else none
  | .start next =>
    some { c with threads := c.threads.set i { prog := next, tx := some sys.engine.fresh } }
  | .commit next =>
    match th.tx with
    | some tx =>
      some { shared := c.shared.commit sys.engine i tx
             threads := c.threads.set i { prog := next true, tx := none } }
    | none => none

def faultThread (c : sys.State) (i : Nat) (th : Thread S Tx ε α) : Option sys.State :=
  match th.prog with
  | .call _ next => some { c with threads := c.threads.set i { th with prog := next none } }
  | .commit next =>
    some { shared := c.shared.rollback i
           threads := c.threads.set i { prog := next false, tx := none } }
  | _ => none

def step (c : sys.State) : Act Call Env → Option sys.State
  | .invoke call =>
    some { shared := c.shared.invoke call
           threads := c.threads ++ [{ prog := sys.program c.shared.calls.length call, tx := none }] }
  | .step i => c.threads[i]?.bind (sys.stepThread c i)
  | .fault i => c.threads[i]?.bind (sys.faultThread c i)
  | .environ action => some { c with shared := c.shared.environ sys.engine action }

def initial (world : World) : sys.State :=
  { shared := { world, calls := [], history := [] }, threads := [] }

def Steps (c c' : sys.State) : Prop :=
  ∃ act, sys.step c act = some c'

abbrev Runs : sys.State → sys.State → Prop :=
  Relation.ReflTransGen sys.Steps

abbrev RunsBy (allowed : Act Call Env → Prop) : sys.State → sys.State → Prop :=
  Relation.ReflTransGen fun c c' => ∃ act, allowed act ∧ sys.step c act = some c'

abbrev SoloRuns (passes : Env → Prop) (i : Nat) : sys.State → sys.State → Prop :=
  sys.RunsBy (Act.Solo passes i)

def Reachable (world : World) (c : sys.State) : Prop :=
  sys.Runs (sys.initial world) c

-- Acts that are not enabled are passed over.
def run (c : sys.State) : List (Act Call Env) → sys.State
  | [] => c
  | act :: rest => run ((sys.step c act).getD c) rest

theorem run_append (c : sys.State) (acts more : List (Act Call Env)) :
    sys.run c (acts ++ more) = sys.run (sys.run c acts) more := by
  induction acts generalizing c with
  | nil => rfl
  | cons act rest ih => exact ih _

theorem runsBy_run {allowed : Act Call Env → Prop} (c : sys.State) (acts : List (Act Call Env))
    (all : ∀ act ∈ acts, allowed act) : sys.RunsBy allowed c (sys.run c acts) := by
  induction acts generalizing c with
  | nil => exact .refl
  | cons act rest ih =>
    have others : ∀ other ∈ rest, allowed other := fun other member =>
      all other (List.mem_cons_of_mem act member)
    cases stepped : sys.step c act with
    | none =>
      have skipped : sys.run c (act :: rest) = sys.run c rest := by simp [run, stepped]
      rw [skipped]
      exact ih c others
    | some c' =>
      have taken : sys.run c (act :: rest) = sys.run c' rest := by simp [run, stepped]
      rw [taken]
      exact .head ⟨act, all act List.mem_cons_self, stepped⟩ (ih c' others)

variable {sys}

theorem runs_of_runsBy {allowed : Act Call Env → Prop} {c c' : sys.State}
    (runs : sys.RunsBy allowed c c') : sys.Runs c c' :=
  Relation.ReflTransGen.mono (fun _ _ ⟨act, _, stepped⟩ => ⟨act, stepped⟩) _ _ runs

variable (sys)

theorem runs_run (c : sys.State) (acts : List (Act Call Env)) : sys.Runs c (sys.run c acts) := by
  have runs : sys.RunsBy (fun _ => True) c (sys.run c acts) :=
    sys.runsBy_run c acts fun _ _ => trivial
  exact runs_of_runsBy runs

end System

end Interleaving
