import TicketService.Interleaving.System

set_option autoImplicit false

namespace Interleaving

variable {S : Signature} {World Tx Lock Env Call ε α β γ : Type}

inductive Beside (sys : System S World Tx Lock Env Call ε γ) :
    Prog S ε α → sys.State → Except ε α → sys.State → Prop where
  | done (value : α) (c : sys.State) : Beside sys (.done value) c (.ok value) c
  | throw (error : ε) (c : sys.State) : Beside sys (.throw error) c (.error error) c
  | later {p : Prog S ε α} {c c₁ c' : sys.State} {out : Except ε α} :
      sys.Runs c c₁ → Beside sys p c₁ out c' → Beside sys p c out c'
  | reads {stmt : S.Stmt} {next : Option (S.Res stmt) → Prog S ε α} {c c' : sys.State}
      {out : Except ε α} {result : S.Res stmt} :
      sys.engine.exec stmt c.shared.world none = some (result, c.shared.world, none) →
      Beside sys (next (some result)) c out c' → Beside sys (.call stmt next) c out c'
  | fails {stmt : S.Stmt} {next : Option (S.Res stmt) → Prog S ε α} {c c' : sys.State}
      {out : Except ε α} :
      Beside sys (next none) c out c' → Beside sys (.call stmt next) c out c'

namespace Beside

variable {sys : System S World Tx Lock Env Call ε γ} {c c' : sys.State}

theorem runs {p : Prog S ε α} {out : Except ε α} (beside : Beside sys p c out c') : sys.Runs c c' := by
  induction beside with
  | done => exact .refl
  | throw => exact .refl
  | later before _ ih => exact before.trans ih
  | reads _ _ ih => exact ih
  | fails _ ih => exact ih

private theorem proceeds {first : α} {f : α → Prog S ε β} {q : Prog S ε β} {out : Except ε β}
    (whole : (Prog.done first).bind f = q) (beside : Beside sys q c out c') :
    Beside sys (f first) c out c' := by
  subst whole
  exact beside

theorem bind_returns {p : Prog S ε α} {f : α → Prog S ε β} {result : β}
    (beside : Beside sys (p.bind f) c (.ok result) c') :
    ∃ value c₁, Beside sys p c (.ok value) c₁ ∧ Beside sys (f value) c₁ (.ok result) c' := by
  generalize whole : p.bind f = q at beside
  generalize ended : Except.ok result = out at beside
  induction beside generalizing p with
  | done value c =>
    cases p with
    | done first => exact ⟨first, c, .done first c, proceeds whole (ended ▸ .done value c)⟩
    | _ => cases whole
  | throw => cases ended
  | later before _ ih =>
    obtain ⟨value, c₁, first, rest⟩ := ih whole ended
    exact ⟨value, c₁, .later before first, rest⟩
  | reads executed rest ih =>
    cases p with
    | done first =>
      subst ended
      exact ⟨first, _, .done first _, proceeds whole (.reads executed rest)⟩
    | call stmt next =>
      cases whole
      obtain ⟨value, c₁, first, rest⟩ := ih rfl ended
      exact ⟨value, c₁, .reads executed first, rest⟩
    | _ => cases whole
  | fails rest ih =>
    cases p with
    | done first =>
      subst ended
      exact ⟨first, _, .done first _, proceeds whole (.fails rest)⟩
    | call stmt next =>
      cases whole
      obtain ⟨value, c₁, first, rest⟩ := ih rfl ended
      exact ⟨value, c₁, .fails first, rest⟩
    | _ => cases whole

theorem done_returns {value result : α} (beside : Beside sys (.done value) c (.ok result) c') :
    result = value := by
  generalize whole : Prog.done value = p at beside
  generalize ended : Except.ok result = out at beside
  induction beside with
  | done value' c =>
    cases whole
    cases ended
    rfl
  | throw => cases ended
  | later _ _ ih => exact ih whole ended
  | _ => cases whole

theorem throw_returns {error : ε} {result : α} (beside : Beside sys (.throw error) c (.ok result) c') :
    False := by
  generalize whole : (Prog.throw error : Prog S ε α) = p at beside
  generalize ended : Except.ok result = out at beside
  induction beside with
  | throw => cases ended
  | later _ _ ih => exact ih whole ended
  | _ => cases whole

theorem perform_returns {failure : ε} {stmt : S.Stmt} {result : S.Res stmt}
    (beside : Beside sys (Prog.perform failure stmt) c (.ok result) c') :
    ∃ c₁, sys.Runs c c₁ ∧ sys.Runs c₁ c' ∧
      sys.engine.exec stmt c₁.shared.world none = some (result, c₁.shared.world, none) := by
  generalize whole : (Prog.perform failure stmt : Prog S ε (S.Res stmt)) = p at beside
  generalize ended : Except.ok result = out at beside
  induction beside with
  | done => cases whole
  | throw => cases ended
  | later before _ ih =>
    obtain ⟨c₁, first, last, executed⟩ := ih whole ended
    exact ⟨c₁, before.trans first, last, executed⟩
  | reads executed rest _ =>
    cases whole
    cases ended
    obtain rfl := rest.done_returns
    exact ⟨_, .refl, rest.runs, executed⟩
  | fails rest _ =>
    cases whole
    cases ended
    exact rest.throw_returns.elim

end Beside

end Interleaving
