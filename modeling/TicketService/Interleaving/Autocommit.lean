import TicketService.Interleaving.Guarantee

set_option autoImplicit false

namespace Interleaving

variable {S : Signature} {World Tx Lock Env Call ε α β γ : Type}

namespace Prog

def handle : Prog S ε α → (ε → Prog S ε α) → Prog S ε α
  | .done value, _ => .done value
  | .throw error, f => f error
  | .call stmt next, f => .call stmt fun result => (next result).handle f
  | .start next, f => .start (next.handle f)
  | .commit next, f => .commit fun committed => (next committed).handle f

def ensure (p : Prog S ε α) (cleanup : Prog S ε Unit) : Prog S ε α :=
  (p.handle fun error => cleanup.bind fun _ => .throw error).bind fun value =>
    cleanup.bind fun _ => .done value

def Plain : Prog S ε α → Prop
  | .done _ => True
  | .throw _ => True
  | .call _ next => ∀ result, (next result).Plain
  | .start _ => False
  | .commit _ => False

theorem Plain.perform (failure : ε) (stmt : S.Stmt) : (perform failure stmt).Plain := by
  intro result
  cases result <;> trivial

theorem Plain.bind {p : Prog S ε α} {f : α → Prog S ε β} (plain : p.Plain)
    (rest : ∀ value, (f value).Plain) : (p.bind f).Plain := by
  induction p with
  | done value => exact rest value
  | throw error => trivial
  | call stmt next ih => exact fun result => ih result (plain result)
  | start next => exact plain.elim
  | commit next => exact plain.elim

theorem Plain.handle {p : Prog S ε α} {f : ε → Prog S ε α} (plain : p.Plain)
    (rest : ∀ error, (f error).Plain) : (p.handle f).Plain := by
  induction p with
  | done value => trivial
  | throw error => exact rest error
  | call stmt next ih => exact fun result => ih result (plain result)
  | start next => exact plain.elim
  | commit next => exact plain.elim

end Prog

def Engine.Autocommits (E : Engine S World Tx Lock Env) : Prop :=
  ∀ stmt w result w' tx', E.exec stmt w none = some (result, w', tx') → tx' = none

namespace Contract

variable {K : Contract S World Tx Call ε γ} {E : Engine S World Tx Lock Env} {i : Nat}
  {Q : α → Option Tx → Shared S World Tx Call → Prop} {p : Prog S ε α}
  {g : Shared S World Tx Call}

def catching (K : Contract S World Tx Call ε γ) (caught : ε → Shared S World Tx Call → Prop) :
    Contract S World Tx Call ε γ :=
  { K with throws := fun _ => caught }

theorem Safe.catching_mono {P P' : ε → Shared S World Tx Call → Prop} {tx : Option Tx}
    (safe : (K.catching P).Safe E i Q p tx g) (weaker : ∀ error g, P error g → P' error g) :
    (K.catching P').Safe E i Q p tx g := by
  induction p generalizing tx g with
  | done value => exact safe
  | throw error =>
    cases tx with
    | none => exact fun g' rely => weaker error g' (safe g' rely)
    | some t =>
      intro g' rely inv
      obtain ⟨kept, thrown⟩ := safe g' rely inv
      exact ⟨kept, fun later moved => weaker error later (thrown later moved)⟩
  | call stmt next ih =>
    intro g' rely inv
    obtain ⟨succeeds, fails⟩ := safe g' rely inv
    refine ⟨fun result world tx' executed => ?_, ih _ fails⟩
    obtain ⟨kept, rest⟩ := succeeds result world tx' executed
    exact ⟨kept, ih _ rest⟩
  | start next ih => exact fun g' rely => ih (safe g' rely)
  | commit next ih =>
    intro g' rely inv
    obtain ⟨succeeds, aborts, fails⟩ := safe g' rely inv
    refine ⟨fun t opened => ?_, aborts, ih _ fails⟩
    obtain ⟨kept, rest⟩ := succeeds t opened
    exact ⟨kept, ih _ rest⟩

theorem Safe.handle {f : ε → Prog S ε α} (autocommits : E.Autocommits) (plain : p.Plain)
    (safe : (K.catching fun error g => K.Safe E i Q (f error) none g).Safe E i Q p none g) :
    K.Safe E i Q (p.handle f) none g := by
  induction p generalizing g with
  | done value => exact safe
  | throw error => exact safe g .refl
  | call stmt next ih =>
    intro g' rely inv
    obtain ⟨succeeds, fails⟩ := safe g' rely inv
    refine ⟨fun result world tx' executed => ?_, ih none (plain none) fails⟩
    obtain rfl : tx' = none := autocommits _ _ _ _ _ executed
    obtain ⟨kept, rest⟩ := succeeds result world none executed
    exact ⟨kept, ih (some result) (plain (some result)) rest⟩
  | start next => exact plain.elim
  | commit next => exact plain.elim

variable (K E i)

def Stable (P : Shared S World Tx Call → Prop) : Prop :=
  ∀ actor g g', K.guar actor g g' → P g → P g'

def Triple (P : Shared S World Tx Call → Prop) (p : Prog S ε α)
    (Q : α → Shared S World Tx Call → Prop) (T : ε → Shared S World Tx Call → Prop) : Prop :=
  ∀ g, P g → (K.catching T).Safe E i (fun value tx g => tx = none ∧ Q value g) p none g

variable {K E i}

theorem Stable.always : K.Stable fun _ => True := fun _ _ _ _ _ => trivial

theorem Stable.and {P R : Shared S World Tx Call → Prop} (stable : K.Stable P)
    (stable' : K.Stable R) : K.Stable fun g => P g ∧ R g :=
  fun actor g g' guar both => ⟨stable actor g g' guar both.1, stable' actor g g' guar both.2⟩

namespace Triple

variable {P P' : Shared S World Tx Call → Prop} {Q Q' : α → Shared S World Tx Call → Prop}
  {R : β → Shared S World Tx Call → Prop} {T T' : ε → Shared S World Tx Call → Prop}

theorem weaken (triple : K.Triple E i P p Q T) (pre : ∀ g, P' g → P g)
    (post : ∀ value g, Q value g → Q' value g) (thrown : ∀ error g, T error g → T' error g) :
    K.Triple E i P' p Q' T' := by
  intro g holds
  have safe := (triple g (pre g holds)).catching_mono thrown
  exact safe.mono fun value tx g returned => ⟨returned.1, post value g returned.2⟩

theorem done {value : α} (stable : K.Stable (Q value)) :
    K.Triple E i (Q value) (.done value) Q T :=
  fun _ holds _ rely => ⟨rfl, rely.invariant stable holds⟩

theorem throw {error : ε} (stable : K.Stable (T error)) :
    K.Triple E i (T error) (.throw error) Q T :=
  fun _ holds _ rely => rely.invariant stable holds

theorem bind {f : α → Prog S ε β} (triple : K.Triple E i P p Q T)
    (rest : ∀ value, K.Triple E i (Q value) (f value) R T) : K.Triple E i P (p.bind f) R T := by
  intro g holds
  refine Safe.bind ((triple g holds).mono fun value tx g returned => ?_)
  obtain ⟨rfl, after⟩ := returned
  exact rest value g after

theorem perform {failure : ε} {stmt : S.Stmt} {Q : S.Res stmt → Shared S World Tx Call → Prop}
    (autocommits : E.Autocommits) (stable : K.Stable P) (after : ∀ result, K.Stable (Q result))
    (step : ∀ g result world, P g → K.inv g → E.exec stmt g.world none = some (result, world, none) →
      K.guar (some i) g (g.record i stmt result world) ∧ Q result (g.record i stmt result world))
    (fails : ∀ g, P g → T failure g) : K.Triple E i P (Prog.perform failure stmt) Q T := by
  intro g holds g' rely inv
  have before := rely.invariant stable holds
  refine ⟨fun result world tx' executed => ?_, fun later moved => ?_⟩
  · obtain rfl : tx' = none := autocommits _ _ _ _ _ executed
    obtain ⟨kept, reached⟩ := step g' result world before inv executed
    exact ⟨kept, fun later moved => ⟨rfl, moved.invariant (after result) reached⟩⟩
  · exact fails later (moved.invariant stable before)

theorem handle {f : ε → Prog S ε α} (autocommits : E.Autocommits) (plain : p.Plain)
    (triple : K.Triple E i P p Q T') (rest : ∀ error, K.Triple E i (T' error) (f error) Q T) :
    K.Triple E i P (p.handle f) Q T := by
  intro g holds
  exact Safe.handle autocommits plain ((triple g holds).catching_mono rest)

theorem ensure {cleanup : Prog S ε Unit} (autocommits : E.Autocommits) (plain : p.Plain)
    (stable : ∀ value, K.Stable (Q value)) (failed : ∀ error, K.Stable (T error))
    (triple : K.Triple E i P p Q' T')
    (returned : ∀ value, K.Triple E i (Q' value) cleanup (fun _ => Q value) T)
    (thrown : ∀ error, K.Triple E i (T' error) cleanup (fun _ => T error) T) :
    K.Triple E i P (p.ensure cleanup) Q T := by
  have caught : K.Triple E i P (p.handle fun error => cleanup.bind fun _ => .throw error) Q' T :=
    handle autocommits plain triple fun error => bind (thrown error) fun _ => throw (failed error)
  exact bind caught fun value => bind (returned value) fun _ => done (stable value)

end Triple

end Contract

end Interleaving
