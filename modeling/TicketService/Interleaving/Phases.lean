import Mathlib.Logic.Function.Basic
import TicketService.Interleaving.Along
import TicketService.Interleaving.Autocommit

set_option autoImplicit false

namespace Interleaving

variable {S : Signature} {World Tx Lock Env Call ε α β Φ : Type}

abbrev Phases (S : Signature) (Φ : Type) : Type :=
  Φ → (stmt : S.Stmt) → Option (S.Res stmt) → Φ → Prop

/-- The program keeps to the phases from the given one on: `Q` holds when it has returned and `T`
when it has thrown. It opens no transaction. -/
def Follows (C : Phases S Φ) (Q : α → Φ → Prop) (T : ε → Φ → Prop) : Prog S ε α → Φ → Prop
  | .done value, φ => Q value φ
  | .throw error, φ => T error φ
  | .call stmt next, φ => ∀ result, ∃ φ', C φ stmt result φ' ∧ Follows C Q T (next result) φ'
  | .start _, _ => False
  | .commit _, _ => False

namespace Follows

variable {C : Phases S Φ} {Q R : α → Φ → Prop} {T : ε → Φ → Prop} {p : Prog S ε α} {φ : Φ}

theorem weaken {T' : ε → Φ → Prop} (follows : Follows C Q T p φ)
    (returns : ∀ value φ, Q value φ → R value φ) (throws : ∀ error φ, T error φ → T' error φ) :
    Follows C R T' p φ := by
  induction p generalizing φ with
  | done value => exact returns value φ follows
  | throw error => exact throws error φ follows
  | call stmt next ih =>
    intro result
    obtain ⟨φ', moves, rest⟩ := follows result
    exact ⟨φ', moves, ih result rest⟩
  | start next => exact follows.elim
  | commit next => exact follows.elim

theorem mono (follows : Follows C Q T p φ) (weaker : ∀ value φ, Q value φ → R value φ) :
    Follows C R T p φ :=
  follows.weaken weaker fun _ _ thrown => thrown

theorem mono_throws {T' : ε → Φ → Prop} (follows : Follows C Q T p φ)
    (weaker : ∀ error φ, T error φ → T' error φ) : Follows C Q T' p φ :=
  follows.weaken (fun _ _ returned => returned) weaker

theorem perform {failure : ε} {stmt : S.Stmt} {Q : S.Res stmt → Φ → Prop}
    (returns : ∀ result, ∃ φ', C φ stmt (some result) φ' ∧ Q result φ')
    (throws : ∃ φ', C φ stmt none φ' ∧ T failure φ') :
    Follows C Q T (Prog.perform failure stmt) φ := by
  intro result
  cases result with
  | some result => exact returns result
  | none => exact throws

theorem bind {f : α → Prog S ε β} {Q : β → Φ → Prop}
    (follows : Follows C (fun value φ => Follows C Q T (f value) φ) T p φ) :
    Follows C Q T (p.bind f) φ := by
  induction p generalizing φ with
  | done value => exact follows
  | throw error => exact follows
  | call stmt next ih =>
    intro result
    obtain ⟨φ', moves, rest⟩ := follows result
    exact ⟨φ', moves, ih result rest⟩
  | start next => exact follows.elim
  | commit next => exact follows.elim

theorem handle {f : ε → Prog S ε α}
    (follows : Follows C Q (fun error φ => Follows C Q T (f error) φ) p φ) :
    Follows C Q T (p.handle f) φ := by
  induction p generalizing φ with
  | done value => exact follows
  | throw error => exact follows
  | call stmt next ih =>
    intro result
    obtain ⟨φ', moves, rest⟩ := follows result
    exact ⟨φ', moves, ih result rest⟩
  | start next => exact follows.elim
  | commit next => exact follows.elim

theorem ensure {cleanup : Prog S ε Unit}
    (follows : Follows C (fun value φ => Follows C (fun _ φ => Q value φ) T cleanup φ)
      (fun error φ => Follows C (fun _ φ => T error φ) T cleanup φ) p φ) :
    Follows C Q T (p.ensure cleanup) φ := by
  have returned : Follows C (fun value φ => Follows C Q T (cleanup.bind fun _ => .done value) φ)
      (fun error φ => Follows C (fun _ φ => T error φ) T cleanup φ) p φ :=
    follows.mono fun value φ last => bind last
  refine bind (handle ?_)
  clear follows
  induction p generalizing φ with
  | done value => exact returned
  | throw error => exact bind returned
  | call stmt next ih =>
    intro result
    obtain ⟨φ', moves, rest⟩ := returned result
    exact ⟨φ', moves, ih result rest⟩
  | start next => exact returned.elim
  | commit next => exact returned.elim

end Follows

/-- The phases of the calls of a system: where a call begins, what it does and where it may end. -/
structure Route (S : Signature) (Call Φ : Type) where
  first : Call → Φ
  moves : Call → Phases S Φ
  last : Φ → Prop

abbrev Route.Guides (R : Route S Call Φ) (call : Call) (p : Prog S ε α) (φ : Φ) : Prop :=
  Follows (R.moves call) (fun _ => R.last) (fun _ => R.last) p φ

namespace System

variable (sys : System S World Tx Lock Env Call ε α) (R : Route S Call Φ)

/-- Each thread is in a phase, and its program keeps to the phases from there on. -/
structure Guided (c : sys.State) (φ : Nat → Φ) : Prop where
  numbered : c.threads.length = c.shared.calls.length
  closed : ∀ th ∈ c.threads, th.tx = none
  follows : ∀ (i : Nat) (th : Thread S Tx ε α) call, c.threads[i]? = some th →
    c.shared.calls[i]? = some call → R.Guides call th.prog (φ i)

structure Preserves (allowed : sys.State → Act Call Env → Prop)
    (J : Shared S World Tx Call → (Nat → Φ) → Prop) : Prop where
  invoke : ∀ c φ call, sys.Guided R c φ → J c.shared φ → allowed c (.invoke call) →
    J (c.shared.invoke call) (Function.update φ c.threads.length (R.first call))
  call : ∀ c φ i call stmt next result w φ', sys.Guided R c φ → J c.shared φ → allowed c (.step i) →
    c.threads[i]? = some ⟨.call stmt next, none⟩ → c.shared.calls[i]? = some call →
    R.moves call (φ i) stmt (some result) φ' →
    sys.engine.exec stmt c.shared.world none = some (result, w, none) →
    J (c.shared.record i stmt result w) (Function.update φ i φ')
  throws : ∀ c φ i call act stmt next φ', sys.Guided R c φ → J c.shared φ → allowed c act →
    (act = .fault i ∨ act = .step i ∧ sys.engine.exec stmt c.shared.world none = none) →
    c.threads[i]? = some ⟨.call stmt next, none⟩ → c.shared.calls[i]? = some call →
    R.moves call (φ i) stmt none φ' → J c.shared (Function.update φ i φ')
  environ : ∀ c φ action, sys.Guided R c φ → J c.shared φ → allowed c (.environ action) →
    J (c.shared.environ sys.engine action) φ

variable {sys R} {c c' : sys.State} {φ : Nat → Φ}

theorem Guided.update (guided : sys.Guided R c φ) {i : Nat} {th th' : Thread S Tx ε α}
    (present : c.threads[i]? = some th) {g : Shared S World Tx Call} (calls : g.calls = c.shared.calls)
    (closed : th'.tx = none) {φ' : Φ}
    (follows : ∀ call, c.shared.calls[i]? = some call →
      R.Guides call th'.prog φ') :
    sys.Guided R { shared := g, threads := c.threads.set i th' } (Function.update φ i φ') where
  numbered := by simp [calls, guided.numbered]
  closed th member := by
    rcases List.mem_or_eq_of_mem_set member with before | rfl
    · exact guided.closed th before
    · exact closed
  follows j a call here called := by
    have called' : c.shared.calls[j]? = some call := calls ▸ called
    have within : i < c.threads.length := (List.getElem?_eq_some_iff.mp present).1
    by_cases self : j = i
    · subst self
      obtain rfl : th' = a := by simpa [within] using here
      rw [Function.update_self]
      exact follows call called'
    · rw [List.getElem?_set_ne (Ne.symm self)] at here
      rw [Function.update_of_ne self]
      exact guided.follows j a call here called'

theorem Guided.invoke (guided : sys.Guided R c φ) {call : Call}
    (starts : R.Guides call (sys.program c.shared.calls.length call) (R.first call)) :
    sys.Guided R { shared := c.shared.invoke call
                   threads := c.threads ++
                     [{ prog := sys.program c.shared.calls.length call, tx := none }] }
      (Function.update φ c.threads.length (R.first call)) where
  numbered := by simp [Shared.invoke, guided.numbered]
  closed th member := by
    rcases List.mem_append.mp member with before | last
    · exact guided.closed th before
    · rw [List.mem_singleton.mp last]
  follows j a call' here called := by
    have numbered := guided.numbered
    by_cases old : j < c.threads.length
    · rw [List.getElem?_append_left old] at here
      have called' : c.shared.calls[j]? = some call' := by
        simpa [Shared.invoke, List.getElem?_append_left (numbered ▸ old)] using called
      rw [Function.update_of_ne (Nat.ne_of_lt old)]
      exact guided.follows j a call' here called'
    · have within := (List.getElem?_eq_some_iff.mp here).1
      simp only [List.length_append, List.length_singleton] at within
      obtain rfl : j = c.threads.length := by omega
      have called' : call = call' := by simpa [Shared.invoke, numbered] using called
      subst called'
      obtain rfl : ⟨sys.program c.shared.calls.length call, none⟩ = a := by simpa using here
      rw [Function.update_self]
      exact starts

section Runs

variable {allowed : sys.State → Act Call Env → Prop}
  {J : Shared S World Tx Call → (Nat → Φ) → Prop}
  (autocommits : sys.engine.Autocommits)
  (starts : ∀ i call, R.Guides call (sys.program i call) (R.first call))
  (preserves : sys.Preserves R allowed J)

include autocommits preserves in
theorem Guided.stepThread (guided : sys.Guided R c φ) (holds : J c.shared φ) {i : Nat}
    {th : Thread S Tx ε α} (present : c.threads[i]? = some th) (allows : allowed c (.step i))
    (stepped : sys.stepThread c i th = some c') :
    ∃ φ', sys.Guided R c' φ' ∧ J c'.shared φ' := by
  have within : i < c.shared.calls.length := by
    rw [← guided.numbered]
    exact (List.getElem?_eq_some_iff.mp present).1
  have called := List.getElem?_eq_getElem within
  have follows := guided.follows i th _ present called
  have closed := guided.closed th (List.mem_of_getElem? present)
  have same (call : Call) (there : c.shared.calls[i]? = some call) : c.shared.calls[i] = call :=
    Option.some.inj (called.symm.trans there)
  obtain ⟨prog, tx⟩ := th
  obtain rfl : tx = none := closed
  cases prog with
  | done value => cases stepped
  | throw error => cases stepped
  | call stmt next =>
    simp only [System.stepThread] at stepped
    split at stepped
    next unblocked =>
      split at stepped
      next result w tx' executed =>
        cases stepped
        obtain rfl : tx' = none := autocommits _ _ _ _ _ executed
        obtain ⟨φ', moves, rest⟩ := follows (some result)
        refine ⟨Function.update φ i φ', guided.update present (by rfl) (by rfl) fun call there => ?_,
          preserves.call c φ i _ stmt next result w φ' guided holds allows present called moves executed⟩
        exact same call there ▸ rest
      next failed =>
        cases stepped
        obtain ⟨φ', moves, rest⟩ := follows none
        refine ⟨Function.update φ i φ', guided.update present (by rfl) (by rfl) fun call there => ?_,
          preserves.throws c φ i _ _ stmt next φ' guided holds allows (.inr ⟨rfl, failed⟩) present
            called moves⟩
        exact same call there ▸ rest
    next => cases stepped
  | start next => exact follows.elim
  | commit next => exact follows.elim

include preserves in
theorem Guided.faultThread (guided : sys.Guided R c φ) (holds : J c.shared φ) {i : Nat}
    {th : Thread S Tx ε α} (present : c.threads[i]? = some th) (allows : allowed c (.fault i))
    (faulted : sys.faultThread c i th = some c') :
    ∃ φ', sys.Guided R c' φ' ∧ J c'.shared φ' := by
  have within : i < c.shared.calls.length := by
    rw [← guided.numbered]
    exact (List.getElem?_eq_some_iff.mp present).1
  have called := List.getElem?_eq_getElem within
  have follows := guided.follows i th _ present called
  have closed := guided.closed th (List.mem_of_getElem? present)
  obtain ⟨prog, tx⟩ := th
  obtain rfl : tx = none := closed
  cases prog with
  | call stmt next =>
    cases faulted
    obtain ⟨φ', moves, rest⟩ := follows none
    refine ⟨Function.update φ i φ', guided.update present (by rfl) (by rfl) fun call there => ?_,
      preserves.throws c φ i _ _ stmt next φ' guided holds allows (.inl rfl) present called moves⟩
    exact Option.some.inj (called.symm.trans there) ▸ rest
  | commit next => exact follows.elim
  | _ => cases faulted

include autocommits starts preserves in
/-- What the steps of the phases preserve holds as long as a run goes on. -/
theorem Guided.runs (guided : sys.Guided R c φ) (holds : J c.shared φ)
    (runs : sys.RunsUnder allowed c c') : ∃ φ', sys.Guided R c' φ' ∧ J c'.shared φ' := by
  induction runs with
  | refl => exact ⟨φ, guided, holds⟩
  | tail _ last ih =>
    obtain ⟨φ', guided', holds'⟩ := ih
    obtain ⟨act, allows, stepped⟩ := last
    cases act with
    | invoke call =>
      cases stepped
      exact ⟨_, guided'.invoke (starts _ call), preserves.invoke _ _ call guided' holds' allows⟩
    | step i =>
      obtain ⟨th, present, moved⟩ := Option.bind_eq_some_iff.mp stepped
      exact guided'.stepThread autocommits preserves holds' present allows moved
    | fault i =>
      obtain ⟨th, present, moved⟩ := Option.bind_eq_some_iff.mp stepped
      exact guided'.faultThread preserves holds' present allows moved
    | environ action =>
      cases stepped
      exact ⟨φ', ⟨guided'.numbered, guided'.closed, guided'.follows⟩,
        preserves.environ _ _ action guided' holds' allows⟩

theorem initial_guided (w : World) (φ : Nat → Φ) : sys.Guided R (sys.initial w) φ where
  numbered := rfl
  closed th member := by cases member
  follows i th call present := by simp [System.initial] at present

end Runs

end System

end Interleaving
