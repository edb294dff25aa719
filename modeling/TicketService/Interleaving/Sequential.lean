import TicketService.Interleaving.System

set_option autoImplicit false

namespace Interleaving

variable {S : Signature} {World Tx Lock Env Call ε α β σ : Type}

-- A statement on a connection of its own does not wait for a lock of its own transaction.
def Engine.Free (E : Engine S World Tx Lock Env) (stmt : S.Stmt) (w : World) (tx : Option Tx) :
    Prop :=
  E.autocommit stmt = true → E.Compatible (E.needs stmt w tx) (E.heldBy tx)

inductive Alone (E : Engine S World Tx Lock Env) (passes : Env → Prop) :
    Prog S ε α → Option Tx → World → Except ε α → Option Tx → World → Prop where
  | done (value : α) (tx : Option Tx) (w : World) :
      Alone E passes (.done value) tx w (.ok value) tx w
  | throw (error : ε) (tx : Option Tx) (w : World) :
      Alone E passes (.throw error) tx w (.error error) none w
  | environ {p : Prog S ε α} {tx tx' : Option Tx} {w w' : World} {out : Except ε α} (action : Env) :
      passes action → Alone E passes p tx (E.environ action w) out tx' w' →
      Alone E passes p tx w out tx' w'
  | call {stmt : S.Stmt} {next : Option (S.Res stmt) → Prog S ε α} {tx tx₁ tx' : Option Tx}
      {w w₁ w' : World} {out : Except ε α} {result : S.Res stmt} :
      E.Free stmt w tx → E.exec stmt w tx = some (result, w₁, tx₁) →
      Alone E passes (next (some result)) tx₁ w₁ out tx' w' →
      Alone E passes (.call stmt next) tx w out tx' w'
  | fails {stmt : S.Stmt} {next : Option (S.Res stmt) → Prog S ε α} {tx tx' : Option Tx}
      {w w' : World} {out : Except ε α} :
      Alone E passes (next none) tx w out tx' w' → Alone E passes (.call stmt next) tx w out tx' w'
  | start {next : Prog S ε α} {tx tx' : Option Tx} {w w' : World} {out : Except ε α} :
      Alone E passes next (some E.fresh) w out tx' w' →
      Alone E passes (.start next) tx w out tx' w'
  | commit {next : Bool → Prog S ε α} {t : Tx} {tx' : Option Tx} {w w' : World}
      {out : Except ε α} :
      Alone E passes (next true) none (E.publish t w) out tx' w' →
      Alone E passes (.commit next) (some t) w out tx' w'
  | aborts {next : Bool → Prog S ε α} {tx tx' : Option Tx} {w w' : World} {out : Except ε α} :
      Alone E passes (next false) none w out tx' w' →
      Alone E passes (.commit next) tx w out tx' w'

namespace Alone

variable {E : Engine S World Tx Lock Env} {passes : Env → Prop} {tx tx₁ tx' : Option Tx}
  {w w₁ w' : World}

theorem bind {p : Prog S ε α} {f : α → Prog S ε β} {value : α} {out : Except ε β}
    (first : Alone E passes p tx w (.ok value) tx₁ w₁)
    (second : Alone E passes (f value) tx₁ w₁ out tx' w') :
    Alone E passes (p.bind f) tx w out tx' w' := by
  generalize ended : Except.ok value = result at first
  induction first with
  | done value tx w =>
    cases ended
    exact second
  | throw => cases ended
  | environ action allowed _ ih => exact .environ action allowed (ih second ended)
  | call free executed _ ih => exact .call free executed (ih second ended)
  | fails _ ih => exact .fails (ih second ended)
  | start _ ih => exact .start (ih second ended)
  | commit _ ih => exact .commit (ih second ended)
  | aborts _ ih => exact .aborts (ih second ended)

theorem bind_error {p : Prog S ε α} {f : α → Prog S ε β} {error : ε}
    (first : Alone E passes p tx w (.error error) tx' w') :
    Alone E passes (p.bind f) tx w (.error error) tx' w' := by
  generalize ended : Except.error error = result at first
  induction first with
  | done => cases ended
  | throw error' tx w =>
    cases ended
    exact .throw error tx w
  | environ action allowed _ ih => exact .environ action allowed (ih ended)
  | call free executed _ ih => exact .call free executed (ih ended)
  | fails _ ih => exact .fails (ih ended)
  | start _ ih => exact .start (ih ended)
  | commit _ ih => exact .commit (ih ended)
  | aborts _ ih => exact .aborts (ih ended)

private theorem continued {first : α} {f : α → Prog S ε β} {q : Prog S ε β} {out : Except ε β}
    (whole : (Prog.done first).bind f = q) (run : Alone E passes q tx w out tx' w') :
    Alone E passes (f first) tx w out tx' w' := by
  subst whole
  exact run

theorem bind_cases {p : Prog S ε α} {f : α → Prog S ε β} {out : Except ε β}
    (run : Alone E passes (p.bind f) tx w out tx' w') :
    (∃ error, out = .error error ∧ Alone E passes p tx w (.error error) tx' w') ∨
      ∃ value tx₁ w₁, Alone E passes p tx w (.ok value) tx₁ w₁ ∧
        Alone E passes (f value) tx₁ w₁ out tx' w' := by
  generalize whole : p.bind f = q at run
  induction run generalizing p with
  | done value tx w =>
    cases p with
    | done first => exact .inr ⟨first, tx, w, .done first tx w, continued whole (.done value tx w)⟩
    | _ => cases whole
  | throw error tx w =>
    cases p with
    | done first => exact .inr ⟨first, tx, w, .done first tx w, continued whole (.throw error tx w)⟩
    | throw error' =>
      cases whole
      exact .inl ⟨error, rfl, .throw error tx w⟩
    | _ => cases whole
  | environ action allowed _ ih =>
    rcases ih whole with ⟨error, ended, run⟩ | ⟨value, tx₁, w₁, run, rest⟩
    · exact .inl ⟨error, ended, .environ action allowed run⟩
    · exact .inr ⟨value, tx₁, w₁, .environ action allowed run, rest⟩
  | call free executed run ih =>
    cases p with
    | done first => exact .inr ⟨first, _, _, .done first _ _, continued whole (.call free executed run)⟩
    | call stmt next =>
      cases whole
      rcases ih rfl with ⟨error, ended, run⟩ | ⟨value, tx₁, w₁, run, rest⟩
      · exact .inl ⟨error, ended, .call free executed run⟩
      · exact .inr ⟨value, tx₁, w₁, .call free executed run, rest⟩
    | _ => cases whole
  | fails run ih =>
    cases p with
    | done first => exact .inr ⟨first, _, _, .done first _ _, continued whole (.fails run)⟩
    | call stmt next =>
      cases whole
      rcases ih rfl with ⟨error, ended, run⟩ | ⟨value, tx₁, w₁, run, rest⟩
      · exact .inl ⟨error, ended, .fails run⟩
      · exact .inr ⟨value, tx₁, w₁, .fails run, rest⟩
    | _ => cases whole
  | start run ih =>
    cases p with
    | done first => exact .inr ⟨first, _, _, .done first _ _, continued whole (.start run)⟩
    | start next =>
      cases whole
      rcases ih rfl with ⟨error, ended, run⟩ | ⟨value, tx₁, w₁, run, rest⟩
      · exact .inl ⟨error, ended, .start run⟩
      · exact .inr ⟨value, tx₁, w₁, .start run, rest⟩
    | _ => cases whole
  | commit run ih =>
    cases p with
    | done first => exact .inr ⟨first, _, _, .done first _ _, continued whole (.commit run)⟩
    | commit next =>
      cases whole
      rcases ih rfl with ⟨error, ended, run⟩ | ⟨value, tx₁, w₁, run, rest⟩
      · exact .inl ⟨error, ended, .commit run⟩
      · exact .inr ⟨value, tx₁, w₁, .commit run, rest⟩
    | _ => cases whole
  | aborts run ih =>
    cases p with
    | done first => exact .inr ⟨first, _, _, .done first _ _, continued whole (.aborts run)⟩
    | commit next =>
      cases whole
      rcases ih rfl with ⟨error, ended, run⟩ | ⟨value, tx₁, w₁, run, rest⟩
      · exact .inl ⟨error, ended, .aborts run⟩
      · exact .inr ⟨value, tx₁, w₁, .aborts run, rest⟩
    | _ => cases whole

-- What the surroundings may do to the world.
abbrev Later (E : Engine S World Tx Lock Env) (passes : Env → Prop) : World → World → Prop :=
  Relation.ReflTransGen fun w w' => ∃ action, passes action ∧ w' = E.environ action w

theorem later {p : Prog S ε α} {out : Except ε α} (before : Later E passes w w₁)
    (run : Alone E passes p tx w₁ out tx' w') : Alone E passes p tx w out tx' w' := by
  induction before using Relation.ReflTransGen.head_induction_on with
  | refl => exact run
  | head first _ ih =>
    obtain ⟨action, allowed, rfl⟩ := first
    exact .environ action allowed ih

theorem done_cases {value : α} {out : Except ε α}
    (run : Alone E passes (.done value) tx w out tx' w') :
    out = .ok value ∧ tx' = tx ∧ Later E passes w w' := by
  generalize ended : Prog.done value = p at run
  induction run with
  | done =>
    cases ended
    exact ⟨rfl, rfl, .refl⟩
  | environ action allowed _ ih =>
    obtain ⟨same, same', after⟩ := ih ended
    exact ⟨same, same', .head ⟨action, allowed, rfl⟩ after⟩
  | _ => cases ended

theorem throw_cases {error : ε} {out : Except ε α}
    (run : Alone E passes (.throw error) tx w out tx' w') :
    out = .error error ∧ tx' = none ∧ Later E passes w w' := by
  generalize ended : Prog.throw error = p at run
  induction run with
  | throw =>
    cases ended
    exact ⟨rfl, rfl, .refl⟩
  | environ action allowed _ ih =>
    obtain ⟨same, same', after⟩ := ih ended
    exact ⟨same, same', .head ⟨action, allowed, rfl⟩ after⟩
  | _ => cases ended

theorem call_cases {stmt : S.Stmt} {next : Option (S.Res stmt) → Prog S ε α} {out : Except ε α}
    (run : Alone E passes (.call stmt next) tx w out tx' w') :
    ∃ w₁, Later E passes w w₁ ∧ (Alone E passes (next none) tx w₁ out tx' w' ∨
      ∃ result w₂ tx₂, E.exec stmt w₁ tx = some (result, w₂, tx₂) ∧
        Alone E passes (next (some result)) tx₂ w₂ out tx' w') := by
  generalize whole : Prog.call stmt next = p at run
  induction run with
  | call free executed run =>
    cases whole
    exact ⟨_, .refl, .inr ⟨_, _, _, executed, run⟩⟩
  | fails run =>
    cases whole
    exact ⟨_, .refl, .inl run⟩
  | environ action allowed _ ih =>
    obtain ⟨w₁, after, rest⟩ := ih whole
    exact ⟨w₁, .head ⟨action, allowed, rfl⟩ after, rest⟩
  | _ => cases whole

theorem start_cases {next : Prog S ε α} {out : Except ε α}
    (run : Alone E passes (.start next) tx w out tx' w') :
    ∃ w₁, Later E passes w w₁ ∧ Alone E passes next (some E.fresh) w₁ out tx' w' := by
  generalize whole : Prog.start next = p at run
  induction run with
  | start run =>
    cases whole
    exact ⟨_, .refl, run⟩
  | environ action allowed _ ih =>
    obtain ⟨w₁, after, rest⟩ := ih whole
    exact ⟨w₁, .head ⟨action, allowed, rfl⟩ after, rest⟩
  | _ => cases whole

theorem commit_cases {next : Bool → Prog S ε α} {out : Except ε α}
    (run : Alone E passes (.commit next) tx w out tx' w') :
    ∃ w₁, Later E passes w w₁ ∧ (Alone E passes (next false) none w₁ out tx' w' ∨
      ∃ t, tx = some t ∧ Alone E passes (next true) none (E.publish t w₁) out tx' w') := by
  generalize whole : Prog.commit next = p at run
  induction run with
  | commit run =>
    cases whole
    exact ⟨_, .refl, .inr ⟨_, rfl, run⟩⟩
  | aborts run =>
    cases whole
    exact ⟨_, .refl, .inl run⟩
  | environ action allowed _ ih =>
    obtain ⟨w₁, after, rest⟩ := ih whole
    exact ⟨w₁, .head ⟨action, allowed, rfl⟩ after, rest⟩
  | _ => cases whole

theorem perform_cases {failure : ε} {stmt : S.Stmt} {out : Except ε (S.Res stmt)}
    (run : Alone E passes (Prog.perform failure stmt) tx w out tx' w') :
    (out = .error failure ∧ tx' = none ∧ Later E passes w w') ∨
      ∃ result w₁ w₂, out = .ok result ∧ Later E passes w w₁ ∧
        E.exec stmt w₁ tx = some (result, w₂, tx') ∧ Later E passes w₂ w' := by
  obtain ⟨w₁, before, failed | ⟨result, w₂, tx₂, executed, run⟩⟩ := run.call_cases
  · obtain ⟨ended, closed, after⟩ := failed.throw_cases
    exact .inl ⟨ended, closed, before.trans after⟩
  · obtain ⟨ended, rfl, after⟩ := run.done_cases
    exact .inr ⟨result, w₁, w₂, ended, before, executed, after⟩

theorem perform {failure : ε} {stmt : S.Stmt} {result : S.Res stmt} (free : E.Free stmt w tx)
    (executed : E.exec stmt w tx = some (result, w', tx')) :
    Alone E passes (Prog.perform failure stmt) tx w (.ok result) tx' w' :=
  .call free executed (.done result tx' w')

end Alone

namespace Prog

def Avoids (bad : ε → Prop) : Prog S ε α → Prop
  | .done _ => True
  | .throw error => ¬bad error
  | .call _ next => ∀ result, (next result).Avoids bad
  | .start next => next.Avoids bad
  | .commit next => ∀ committed, (next committed).Avoids bad

def Leaves (keeps : S.Stmt → Prop) : Prog S ε α → Prop
  | .done _ => True
  | .throw _ => True
  | .call stmt next => keeps stmt ∧ ∀ result, (next result).Leaves keeps
  | .start next => next.Leaves keeps
  | .commit _ => False

/-- The program throws no exception of a kind once it has done more than `Leaves` allows. -/
def ChecksFirst (keeps : S.Stmt → Prop) (bad : ε → Prop) : Prog S ε α → Prop
  | .done _ => True
  | .throw _ => True
  | .call stmt next =>
    (keeps stmt ∧ ∀ result, (next result).ChecksFirst keeps bad) ∨
      ∀ result, (next result).Avoids bad
  | .start next => next.ChecksFirst keeps bad
  | .commit next => ∀ committed, (next committed).Avoids bad

def Returns (P : α → Prop) : Prog S ε α → Prop
  | .done value => P value
  | .throw _ => True
  | .call _ next => ∀ result, (next result).Returns P
  | .start next => next.Returns P
  | .commit next => ∀ committed, (next committed).Returns P

variable {bad : ε → Prop} {keeps : S.Stmt → Prop}

-- Every value that the program can return satisfies `P`, told whether a statement of the kind was
-- issued on the way.
def Marks (kind : S.Stmt → Bool) (P : Bool → α → Prop) (asked : Bool) : Prog S ε α → Prop
  | .done value => P asked value
  | .throw _ => True
  | .call stmt next => ∀ result, (next result).Marks kind P (asked || kind stmt)
  | .start next => next.Marks kind P asked
  | .commit next => ∀ committed, (next committed).Marks kind P asked

theorem Marks.bind {kind : S.Stmt → Bool} {P : Bool → β → Prop} {asked : Bool} {p : Prog S ε α}
    {f : α → Prog S ε β} (first : p.Marks kind (fun asked value => (f value).Marks kind P asked) asked) :
    (p.bind f).Marks kind P asked := by
  induction p generalizing asked with
  | done value => exact first
  | throw => trivial
  | call stmt next ih => exact fun result => ih result (first result)
  | start next ih => exact ih first
  | commit next ih => exact fun committed => ih committed (first committed)

theorem Returns.bind {P : β → Prop} {p : Prog S ε α} {f : α → Prog S ε β}
    (returns : ∀ value, (f value).Returns P) : (p.bind f).Returns P := by
  induction p with
  | done value => exact returns value
  | throw error => trivial
  | call stmt next ih => exact ih
  | start next ih => exact ih
  | commit next ih => exact ih

theorem Avoids.bind {p : Prog S ε α} {f : α → Prog S ε β} (first : p.Avoids bad)
    (second : ∀ value, (f value).Avoids bad) : (p.bind f).Avoids bad := by
  induction p with
  | done value => exact second value
  | throw error => exact first
  | call stmt next ih => exact fun result => ih result (first result)
  | start next ih => exact ih first
  | commit next ih => exact fun committed => ih committed (first committed)

theorem Avoids.perform {failure : ε} {stmt : S.Stmt} (harmless : ¬bad failure) :
    (Prog.perform failure stmt).Avoids bad := by
  intro result
  cases result with
  | none => exact harmless
  | some result => trivial

theorem Avoids.transaction {failure : ε} {body : Prog S ε α} (harmless : ¬bad failure)
    (avoids : body.Avoids bad) : (Prog.transaction failure body).Avoids bad := by
  refine Avoids.bind avoids fun value committed => ?_
  cases committed with
  | true => trivial
  | false => exact harmless

theorem Leaves.bind {p : Prog S ε α} {f : α → Prog S ε β} (first : p.Leaves keeps)
    (second : ∀ value, (f value).Leaves keeps) : (p.bind f).Leaves keeps := by
  induction p with
  | done value => exact second value
  | throw error => trivial
  | call stmt next ih => exact ⟨first.1, fun result => ih result (first.2 result)⟩
  | start next ih => exact ih first
  | commit next => exact first.elim

theorem Leaves.mono {keeps' : S.Stmt → Prop} {p : Prog S ε α} (leaves : p.Leaves keeps)
    (more : ∀ stmt, keeps stmt → keeps' stmt) : p.Leaves keeps' := by
  induction p with
  | done value => trivial
  | throw error => trivial
  | call stmt next ih => exact ⟨more stmt leaves.1, fun result => ih result (leaves.2 result)⟩
  | start next ih => exact ih leaves
  | commit next => exact leaves.elim

theorem Leaves.perform {failure : ε} {stmt : S.Stmt} (kept : keeps stmt) :
    (Prog.perform failure stmt).Leaves keeps := by
  refine ⟨kept, fun result => ?_⟩
  cases result <;> trivial

theorem Avoids.checksFirst {p : Prog S ε α} (avoids : p.Avoids bad) :
    p.ChecksFirst keeps bad := by
  induction p with
  | done value => trivial
  | throw error => trivial
  | call stmt next ih => exact .inr avoids
  | start next ih => exact ih avoids
  | commit next ih => exact avoids

theorem Leaves.checksFirst {p : Prog S ε α} (leaves : p.Leaves keeps) :
    p.ChecksFirst keeps bad := by
  induction p with
  | done value => trivial
  | throw error => trivial
  | call stmt next ih => exact .inl ⟨leaves.1, fun result => ih result (leaves.2 result)⟩
  | start next ih => exact ih leaves
  | commit next ih => exact leaves.elim

theorem ChecksFirst.bind_leaves {p : Prog S ε α} {f : α → Prog S ε β} (first : p.Leaves keeps)
    (second : ∀ value, (f value).ChecksFirst keeps bad) : (p.bind f).ChecksFirst keeps bad := by
  induction p with
  | done value => exact second value
  | throw error => trivial
  | call stmt next ih => exact .inl ⟨first.1, fun result => ih result (first.2 result)⟩
  | start next ih => exact ih first
  | commit next => exact first.elim

theorem ChecksFirst.bind {p : Prog S ε α} {f : α → Prog S ε β} (first : p.ChecksFirst keeps bad)
    (second : ∀ value, (f value).Avoids bad) : (p.bind f).ChecksFirst keeps bad := by
  induction p with
  | done value => exact (second value).checksFirst
  | throw error => trivial
  | call stmt next ih =>
    rcases first with ⟨kept, checks⟩ | avoids
    · exact .inl ⟨kept, fun result => ih result (checks result)⟩
    · exact .inr fun result => (avoids result).bind second
  | start next ih => exact ih first
  | commit next ih => exact fun committed => (first committed).bind second

theorem ChecksFirst.transaction {failure : ε} {body : Prog S ε α} (harmless : ¬bad failure)
    (leaves : body.Leaves keeps) : (Prog.transaction failure body).ChecksFirst keeps bad := by
  refine ChecksFirst.bind_leaves leaves fun value committed => ?_
  cases committed with
  | true => trivial
  | false => exact harmless

end Prog

namespace Alone

variable {E : Engine S World Tx Lock Env} {passes : Env → Prop} {tx tx' : Option Tx}
  {w w' : World} {p : Prog S ε α} {out : Except ε α} {bad : ε → Prop} {keeps : S.Stmt → Prop}
  {view : World → σ}

theorem avoids (run : Alone E passes p tx w out tx' w') (avoids : p.Avoids bad) (error : ε)
    (thrown : out = .error error) : ¬bad error := by
  induction run with
  | done => cases thrown
  | throw error' =>
    cases thrown
    exact avoids
  | environ _ _ _ ih => exact ih avoids thrown
  | call _ _ _ ih => exact ih (avoids _) thrown
  | fails _ ih => exact ih (avoids none) thrown
  | start _ ih => exact ih avoids thrown
  | commit _ ih => exact ih (avoids true) thrown
  | aborts _ ih => exact ih (avoids false) thrown

theorem bind_first {p : Prog S ε α} {f : α → Prog S ε β} {error : ε}
    (run : Alone E passes (p.bind f) tx w (.error error) tx' w') (failed : bad error)
    (avoids : ∀ value, (f value).Avoids bad) : Alone E passes p tx w (.error error) tx' w' := by
  rcases run.bind_cases with ⟨_, ended, first⟩ | ⟨value, _, _, -, rest⟩
  · cases ended
    exact first
  · exact absurd failed (rest.avoids (avoids value) error rfl)

theorem returns {P : α → Prop} (run : Alone E passes p tx w out tx' w') (returns : p.Returns P)
    (value : α) (returned : out = .ok value) : P value := by
  induction run with
  | done =>
    cases returned
    exact returns
  | throw => cases returned
  | environ _ _ _ ih => exact ih returns returned
  | call _ _ _ ih => exact ih (returns _) returned
  | fails _ ih => exact ih (returns none) returned
  | start _ ih => exact ih returns returned
  | commit _ ih => exact ih (returns true) returned
  | aborts _ ih => exact ih (returns false) returned

section View

variable (kept : ∀ stmt w tx result w₁ tx₁, keeps stmt →
    E.exec stmt w tx = some (result, w₁, tx₁) → view w₁ = view w)
  (stable : ∀ action w, passes action → view (E.environ action w) = view w)

include kept stable

theorem leaves (run : Alone E passes p tx w out tx' w') (leaves : p.Leaves keeps) :
    view w' = view w := by
  induction run with
  | done => rfl
  | throw => rfl
  | environ action allowed _ ih => rw [ih leaves, stable action _ allowed]
  | call _ executed _ ih => rw [ih (leaves.2 _), kept _ _ _ _ _ _ leaves.1 executed]
  | fails _ ih => exact ih (leaves.2 none)
  | start _ ih => exact ih leaves
  | commit => exact leaves.elim
  | aborts => exact leaves.elim

theorem checksFirst (run : Alone E passes p tx w out tx' w') (checks : p.ChecksFirst keeps bad)
    (error : ε) (thrown : out = .error error) (failed : bad error) : view w' = view w := by
  induction run with
  | done => rfl
  | throw => rfl
  | environ action allowed _ ih => rw [ih checks thrown, stable action _ allowed]
  | call free executed run ih =>
    rcases checks with ⟨keeps, checks⟩ | never
    · rw [ih (checks _) thrown, kept _ _ _ _ _ _ keeps executed]
    · exact absurd failed (run.avoids (never _) error thrown)
  | fails run ih =>
    rcases checks with ⟨keeps, checks⟩ | never
    · exact ih (checks none) thrown
    · exact absurd failed (run.avoids (never none) error thrown)
  | start _ ih => exact ih checks thrown
  | commit run => exact absurd failed (run.avoids (checks true) error thrown)
  | aborts run => exact absurd failed (run.avoids (checks false) error thrown)

end View

end Alone

section Answers

variable {E : Engine S World Tx Lock Env} {passes : Env → Prop} {view : World → σ} {failure : ε}
  {s : σ} {p : Prog S ε α} {f : α → Prog S ε β} {out : Except ε β}

/-- The program only reads, and its answer depends on what it sees: where the view is `s` it ends
with `out`, unless a statement fails. -/
structure Answers (E : Engine S World Tx Lock Env) (passes : Env → Prop) (view : World → σ)
    (failure : ε) (p : Prog S ε α) (s : σ) (out : Except ε α) : Prop where
  may : ∀ w tx, view w = s → ∃ tx', Alone E passes p tx w out tx' w
  only : ∀ w tx result tx' w', view w = s → Alone E passes p tx w result tx' w' →
    result = .error failure ∨ result = out ∧ view w' = s

namespace Answers

theorem bind {value : α} (first : Answers E passes view failure p s (.ok value))
    (second : Answers E passes view failure (f value) s out) :
    Answers E passes view failure (p.bind f) s out where
  may w tx same := by
    obtain ⟨tx₁, run⟩ := first.may w tx same
    obtain ⟨tx₂, rest⟩ := second.may w tx₁ same
    exact ⟨tx₂, run.bind rest⟩
  only w tx result tx' w' same run := by
    rcases run.bind_cases with ⟨error, rfl, stopped⟩ | ⟨value', tx₁, w₁, returns, rest⟩
    · rcases first.only w tx _ tx' w' same stopped with failed | ⟨other, -⟩
      · exact .inl (by cases failed; rfl)
      · cases other
    · rcases first.only w tx _ tx₁ w₁ same returns with failed | ⟨returned, kept⟩
      · cases failed
      · cases returned
        exact second.only w₁ tx₁ result tx' w' kept rest

theorem bind_error {error : ε} (first : Answers E passes view failure p s (.error error)) :
    Answers E passes view failure (p.bind f) s (.error error) where
  may w tx same := by
    obtain ⟨tx₁, run⟩ := first.may w tx same
    exact ⟨tx₁, run.bind_error⟩
  only w tx result tx' w' same run := by
    rcases run.bind_cases with ⟨error', rfl, stopped⟩ | ⟨value, tx₁, w₁, returns, -⟩
    · rcases first.only w tx _ tx' w' same stopped with failed | ⟨thrown, kept⟩
      · exact .inl (by cases failed; rfl)
      · exact .inr ⟨by cases thrown; rfl, kept⟩
    · rcases first.only w tx _ tx₁ w₁ same returns with failed | ⟨other, -⟩
      · cases failed
      · cases other

section Stable

variable (stable : ∀ action w, passes action → view (E.environ action w) = view w)

include stable

theorem view_of_later {w w' : World} (later : Alone.Later E passes w w') : view w' = view w := by
  induction later with
  | refl => rfl
  | tail _ last ih =>
    obtain ⟨action, allowed, rfl⟩ := last
    rw [stable action _ allowed, ih]

theorem done (value : α) : Answers E passes view failure (.done value) s (.ok value) where
  may w tx _ := ⟨tx, .done value tx w⟩
  only w tx result tx' w' same run := by
    obtain ⟨returned, -, later⟩ := run.done_cases
    exact .inr ⟨returned, (view_of_later stable later).trans same⟩

theorem throw (error : ε) :
    Answers E passes view failure (.throw error : Prog S ε α) s (.error error) where
  may w tx _ := ⟨none, .throw error tx w⟩
  only w tx result tx' w' same run := by
    obtain ⟨thrown, -, later⟩ := run.throw_cases
    exact .inr ⟨thrown, (view_of_later stable later).trans same⟩

theorem perform {stmt : S.Stmt} {value : S.Res stmt} (free : ∀ w tx, E.Free stmt w tx)
    (reading : ∀ w tx, view w = s → E.exec stmt w tx = some (value, w, tx)) :
    Answers E passes view failure (Prog.perform failure stmt) s (.ok value) where
  may w tx same := ⟨tx, .perform (free w tx) (reading w tx same)⟩
  only w tx result tx' w' same run := by
    rcases run.perform_cases with ⟨failed, -⟩ | ⟨value', w₁, w₂, rfl, before, executed, after⟩
    · exact .inl failed
    · have seen : view w₁ = s := (view_of_later stable before).trans same
      rw [reading w₁ tx seen] at executed
      cases executed
      exact .inr ⟨rfl, (view_of_later stable after).trans seen⟩

end Stable

end Answers

end Answers

section Evaluation

instance (E : Engine S World Tx Lock Env) (stmt : S.Stmt) (w : World) (tx : Option Tx) :
    Decidable (E.Free stmt w tx) :=
  inferInstanceAs (Decidable (E.autocommit stmt = true → E.Compatible (E.needs stmt w tx) (E.heldBy tx)))

-- Executes what can be executed while the surroundings do nothing.
def Engine.perform (E : Engine S World Tx Lock Env) :
    Prog S ε α → Option Tx → World → Except ε α × Option Tx × World
  | .done value, tx, w => (.ok value, tx, w)
  | .throw error, _, w => (.error error, none, w)
  | .call stmt next, tx, w =>
    if E.Free stmt w tx then
      match E.exec stmt w tx with
      | some (result, w', tx') => E.perform (next (some result)) tx' w'
      | none => E.perform (next none) tx w
    else E.perform (next none) tx w
  | .start next, _, w => E.perform next (some E.fresh) w
  | .commit next, some t, w => E.perform (next true) none (E.publish t w)
  | .commit next, none, w => E.perform (next false) none w

theorem Engine.performs (E : Engine S World Tx Lock Env) (passes : Env → Prop) (p : Prog S ε α)
    (tx : Option Tx) (w : World) :
    Alone E passes p tx w (E.perform p tx w).1 (E.perform p tx w).2.1 (E.perform p tx w).2.2 := by
  induction p generalizing tx w with
  | done value => exact .done value tx w
  | throw error => exact .throw error tx w
  | call stmt next ih =>
    unfold Engine.perform
    split
    next free =>
      split
      next result w' tx' executed => exact .call free executed (ih _ tx' w')
      next => exact .fails (ih none tx w)
    next => exact .fails (ih none tx w)
  | start next ih => exact .start (ih (some E.fresh) w)
  | commit next ih =>
    cases tx with
    | some t => exact .commit (ih true none (E.publish t w))
    | none => exact .aborts (ih false none w)

end Evaluation

section Runs

variable {Call : Type} {sys : System S World Tx Lock Env Call ε α}

def Prog.ended : Except ε α → Prog S ε α
  | .ok value => .done value
  | .error error => .throw error

def System.Sequential (sys : System S World Tx Lock Env Call ε α) (passes : Env → Prop)
    (c : sys.State) (call : Call) (c' : sys.State) : Prop :=
  ∃ begun, sys.step c (.invoke call) = some begun ∧ sys.SoloRuns passes c.threads.length begun c'

def System.Idle (sys : System S World Tx Lock Env Call ε α) (c : sys.State) (i : Nat) : Prop :=
  ∀ j th, j ≠ i → c.threads[j]? = some th → sys.engine.heldBy th.tx = []

theorem System.Idle.set {c : sys.State} {i : Nat} (idle : sys.Idle c i)
    (g : Shared S World Tx Call) (th : Thread S Tx ε α) :
    sys.Idle { shared := g, threads := c.threads.set i th } i := by
  intro j other different present
  rw [List.getElem?_set_ne (Ne.symm different)] at present
  exact idle j other different present

theorem System.Idle.unblocked {c : sys.State} {i : Nat} (idle : sys.Idle c i) {stmt : S.Stmt}
    {p : Prog S ε α} {tx : Option Tx} (present : c.threads[i]? = some ⟨p, tx⟩)
    (free : sys.engine.Free stmt c.shared.world tx) :
    sys.engine.Unblocked c.threads c.shared.world i ⟨p, tx⟩ stmt := by
  intro j _ waits other there
  by_cases same : j = i
  · subst same
    obtain rfl : other = ⟨p, tx⟩ := Option.some.inj (there.symm.trans present)
    exact free (waits.resolve_left fun different => different rfl)
  · rw [idle j other same there]
    intro l _ l' held
    cases held

theorem solo_of_thread {passes : Env → Prop} {c c' : sys.State} {i : Nat} {th : Thread S Tx ε α}
    (present : c.threads[i]? = some th) (step : sys.stepThread c i th = some c') :
    ∃ act, act.Solo passes i ∧ sys.step c act = some c' :=
  ⟨.step i, rfl, by simp [System.step, present, step]⟩

/-- What a program does alone is a run of the system in which only its thread takes steps. -/
theorem Alone.runs {passes : Env → Prop} {p : Prog S ε α} {tx tx' : Option Tx} {w w' : World}
    {out : Except ε α} (run : Alone sys.engine passes p tx w out tx' w') {c : sys.State} {i : Nat}
    (present : c.threads[i]? = some ⟨p, tx⟩) (world : c.shared.world = w) (idle : sys.Idle c i) :
    ∃ c', sys.SoloRuns passes i c c' ∧ c'.shared.world = w' ∧ c'.threads[i]? = some ⟨Prog.ended out, tx'⟩ := by
  induction run generalizing c with
  | done value tx w => exact ⟨c, .refl, world, present⟩
  | throw error tx w =>
    have within : i < c.threads.length := (List.getElem?_eq_some_iff.mp present).1
    cases tx with
    | none => exact ⟨c, .refl, world, present⟩
    | some t =>
      refine ⟨_, .single (solo_of_thread present rfl), world, ?_⟩
      simp [within, Prog.ended]
  | environ action allowed _ ih =>
    subst world
    obtain ⟨c', runs, rest⟩ := ih (c := { c with shared := c.shared.environ sys.engine action })
      present rfl idle
    exact ⟨c', .head ⟨.environ action, allowed, rfl⟩ runs, rest⟩
  | @call stmt next tx tx₁ tx' w w₁ w' out result free executed _ ih =>
    subst world
    have within : i < c.threads.length := (List.getElem?_eq_some_iff.mp present).1
    have step : sys.stepThread c i ⟨.call stmt next, tx⟩ =
        some { shared := c.shared.record i stmt result w₁
               threads := c.threads.set i ⟨next (some result), tx₁⟩ } := by
      simp [System.stepThread, idle.unblocked present free, executed]
    obtain ⟨c', runs, rest⟩ := ih (c := { shared := c.shared.record i stmt result w₁
                                          threads := c.threads.set i ⟨next (some result), tx₁⟩ })
      (by simp [within]) rfl (idle.set _ _)
    exact ⟨c', .head (solo_of_thread present step) runs, rest⟩
  | @fails stmt next tx tx' w w' out _ ih =>
    have within : i < c.threads.length := (List.getElem?_eq_some_iff.mp present).1
    obtain ⟨c', runs, rest⟩ := ih (c := { c with threads := c.threads.set i ⟨next none, tx⟩ })
      (by simp [within]) world (idle.set _ _)
    have step : sys.step c (.fault i) =
        some { c with threads := c.threads.set i ⟨next none, tx⟩ } := by
      simp [System.step, present, System.faultThread]
    exact ⟨c', .head ⟨.fault i, rfl, step⟩ runs, rest⟩
  | @start next tx tx' w w' out _ ih =>
    have within : i < c.threads.length := (List.getElem?_eq_some_iff.mp present).1
    obtain ⟨c', runs, rest⟩ := ih
      (c := { c with threads := c.threads.set i ⟨next, some sys.engine.fresh⟩ })
      (by simp [within]) world (idle.set _ _)
    exact ⟨c', .head (solo_of_thread present rfl) runs, rest⟩
  | @commit next t tx' w w' out _ ih =>
    subst world
    have within : i < c.threads.length := (List.getElem?_eq_some_iff.mp present).1
    obtain ⟨c', runs, rest⟩ := ih (c := { shared := c.shared.commit sys.engine i t
                                          threads := c.threads.set i ⟨next true, none⟩ })
      (by simp [within]) rfl (idle.set _ _)
    exact ⟨c', .head (solo_of_thread present rfl) runs, rest⟩
  | @aborts next tx tx' w w' out _ ih =>
    have within : i < c.threads.length := (List.getElem?_eq_some_iff.mp present).1
    obtain ⟨c', runs, rest⟩ := ih (c := { shared := c.shared.rollback i
                                          threads := c.threads.set i ⟨next false, none⟩ })
      (by simp [within]) world (idle.set _ _)
    have step : sys.step c (.fault i) =
        some { shared := c.shared.rollback i
               threads := c.threads.set i ⟨next false, none⟩ } := by
      simp [System.step, present, System.faultThread]
    exact ⟨c', .head ⟨.fault i, rfl, step⟩ runs, rest⟩

inductive Shared.StepBy (E : Engine S World Tx Lock Env) (i : Nat) :
    Shared S World Tx Call → Shared S World Tx Call → Prop where
  | keep (g : Shared S World Tx Call) : StepBy E i g g
  | record {g : Shared S World Tx Call} {stmt : S.Stmt} {result : S.Res stmt} {w : World}
      {tx tx' : Option Tx} :
      E.exec stmt g.world tx = some (result, w, tx') → StepBy E i g (g.record i stmt result w)
  | commit (g : Shared S World Tx Call) (tx : Tx) : StepBy E i g (g.commit E i tx)
  | rollback (g : Shared S World Tx Call) : StepBy E i g (g.rollback i)

theorem System.stepThread_shared {c c' : sys.State} {i : Nat} {th : Thread S Tx ε α}
    (stepped : sys.stepThread c i th = some c') :
    c.shared.StepBy sys.engine i c'.shared ∧ c'.threads.length = c.threads.length := by
  obtain ⟨prog, tx⟩ := th
  cases prog with
  | done value => cases stepped
  | throw error =>
    cases tx with
    | none => cases stepped
    | some t =>
      cases stepped
      exact ⟨.rollback _, by simp⟩
  | call stmt next =>
    simp only [System.stepThread] at stepped
    split at stepped
    next =>
      split at stepped
      next executed =>
        cases stepped
        exact ⟨.record executed, by simp⟩
      next =>
        cases stepped
        exact ⟨.keep _, by simp⟩
    next => cases stepped
  | start next =>
    cases stepped
    exact ⟨.keep _, by simp⟩
  | commit next =>
    cases tx with
    | none => cases stepped
    | some t =>
      cases stepped
      exact ⟨.commit _ t, by simp⟩

theorem System.faultThread_shared {c c' : sys.State} {i : Nat} {th : Thread S Tx ε α}
    (stepped : sys.faultThread c i th = some c') :
    c.shared.StepBy sys.engine i c'.shared ∧ c'.threads.length = c.threads.length := by
  obtain ⟨prog, tx⟩ := th
  cases prog with
  | call stmt next =>
    cases stepped
    exact ⟨.keep _, by simp⟩
  | commit next =>
    cases stepped
    exact ⟨.rollback _, by simp⟩
  | _ => cases stepped

theorem Shared.StepBy.history {E : Engine S World Tx Lock Env} {i : Nat}
    {g g' : Shared S World Tx Call} (step : g.StepBy E i g') :
    ∀ e ∈ g'.history, e ∈ g.history ∨ e.thread = i := by
  intro e member
  cases step with
  | keep => exact .inl member
  | record executed =>
    rcases List.mem_cons.mp member with rfl | before
    · exact .inr rfl
    · exact .inl before
  | commit tx =>
    rcases List.mem_cons.mp member with rfl | before
    · exact .inr rfl
    · exact .inl before
  | rollback =>
    rcases List.mem_cons.mp member with rfl | before
    · exact .inr rfl
    · exact .inl before

theorem System.thread_of_history {world : World} {c : sys.State} (reachable : sys.Reachable world c) :
    ∀ e ∈ c.shared.history, e.thread < c.threads.length := by
  induction reachable with
  | refl =>
    intro e member
    cases member
  | @tail c c' _ last ih =>
    intro e member
    have moved {i : Nat} {th : Thread S Tx ε α} (present : c.threads[i]? = some th)
        (step : c.shared.StepBy sys.engine i c'.shared)
        (same : c'.threads.length = c.threads.length) : e.thread < c'.threads.length := by
      rw [same]
      rcases step.history e member with before | new
      · exact ih e before
      · rw [new]
        exact (List.getElem?_eq_some_iff.mp present).1
    obtain ⟨act, stepped⟩ := last
    cases act with
    | invoke call =>
      cases stepped
      have before := ih e member
      simp only [List.length_append, List.length_singleton]
      omega
    | step i =>
      obtain ⟨th, present, step⟩ := Option.bind_eq_some_iff.mp stepped
      have shared := System.stepThread_shared step
      exact moved present shared.1 shared.2
    | fault i =>
      obtain ⟨th, present, step⟩ := Option.bind_eq_some_iff.mp stepped
      have shared := System.faultThread_shared step
      exact moved present shared.1 shared.2
    | environ action =>
      cases stepped
      exact ih e member

/-- What holds of the shared state when a thread begins to run alone, and is kept by its steps and
by what the surroundings do meanwhile, holds as long as it runs alone. -/
theorem System.SoloRuns.invariant {passes : Env → Prop} {i : Nat} {c c' : sys.State}
    (runs : sys.SoloRuns passes i c c') (P : Shared S World Tx Call → Prop) (base : P c.shared)
    (steps : ∀ g g', P g → g.StepBy sys.engine i g' → P g')
    (passing : ∀ g action, P g → passes action → P (g.environ sys.engine action)) :
    P c'.shared := by
  induction runs with
  | refl => exact base
  | tail _ last ih =>
    obtain ⟨act, solo, stepped⟩ := last
    cases act with
    | invoke call => exact solo.elim
    | step j =>
      obtain ⟨th, -, moved⟩ := Option.bind_eq_some_iff.mp stepped
      exact steps _ _ ih (solo ▸ (System.stepThread_shared moved).1)
    | fault j =>
      obtain ⟨th, -, moved⟩ := Option.bind_eq_some_iff.mp stepped
      exact steps _ _ ih (solo ▸ (System.faultThread_shared moved).1)
    | environ action =>
      cases stepped
      exact passing _ action ih solo

end Runs

end Interleaving
