import TicketService.Interleaving.Along

set_option autoImplicit false

namespace Interleaving

variable {S : Signature} {World Tx Lock Env ε α β : Type}

inductive Reaches (E : Engine S World Tx Lock Env) (passes : Env → Prop) (stmt : S.Stmt) :
    Prog S ε α → Option Tx → World → Option Tx → World → Prop where
  | here (next : Option (S.Res stmt) → Prog S ε α) (tx : Option Tx) (w : World) :
      Reaches E passes stmt (.call stmt next) tx w tx w
  | environ {p : Prog S ε α} {tx tx' : Option Tx} {w w' : World} (action : Env) :
      passes action → Reaches E passes stmt p tx (E.environ action w) tx' w' →
      Reaches E passes stmt p tx w tx' w'
  | call {other : S.Stmt} {next : Option (S.Res other) → Prog S ε α} {tx tx₁ tx' : Option Tx}
      {w w₁ w' : World} {result : S.Res other} :
      E.Free other w tx → E.exec other w tx = some (result, w₁, tx₁) →
      Reaches E passes stmt (next (some result)) tx₁ w₁ tx' w' →
      Reaches E passes stmt (.call other next) tx w tx' w'
  | fails {other : S.Stmt} {next : Option (S.Res other) → Prog S ε α} {tx tx' : Option Tx}
      {w w' : World} :
      Reaches E passes stmt (next none) tx w tx' w' → Reaches E passes stmt (.call other next) tx w tx' w'
  | start {next : Prog S ε α} {tx tx' : Option Tx} {w w' : World} :
      Reaches E passes stmt next (some E.fresh) w tx' w' → Reaches E passes stmt (.start next) tx w tx' w'
  | commit {next : Bool → Prog S ε α} {t : Tx} {tx' : Option Tx} {w w' : World} :
      Reaches E passes stmt (next true) none (E.publish t w) tx' w' →
      Reaches E passes stmt (.commit next) (some t) w tx' w'
  | aborts {next : Bool → Prog S ε α} {tx tx' : Option Tx} {w w' : World} :
      Reaches E passes stmt (next false) none w tx' w' → Reaches E passes stmt (.commit next) tx w tx' w'

namespace Reaches

variable {E : Engine S World Tx Lock Env} {passes : Env → Prop} {stmt : S.Stmt} {tx tx' : Option Tx}
  {w w' : World}

private theorem returned {first : α} {f : α → Prog S ε β} {q : Prog S ε β}
    (whole : (Prog.done first).bind f = q) (reaches : Reaches E passes stmt q tx w tx' w') :
    Reaches E passes stmt (f first) tx w tx' w' := by
  subst whole
  exact reaches

theorem bind_cases {p : Prog S ε α} {f : α → Prog S ε β}
    (reaches : Reaches E passes stmt (p.bind f) tx w tx' w') :
    Reaches E passes stmt p tx w tx' w' ∨
      ∃ value tx₁ w₁, Alone E passes p tx w (.ok value) tx₁ w₁ ∧
        Reaches E passes stmt (f value) tx₁ w₁ tx' w' := by
  generalize whole : p.bind f = q at reaches
  induction reaches generalizing p with
  | here next tx w =>
    cases p with
    | done first => exact .inr ⟨first, tx, w, .done first tx w, returned whole (.here next tx w)⟩
    | call =>
      cases whole
      exact .inl (.here _ tx w)
    | _ => cases whole
  | environ action allowed _ ih =>
    rcases ih whole with first | ⟨value, tx₁, w₁, run, rest⟩
    · exact .inl (.environ action allowed first)
    · exact .inr ⟨value, tx₁, w₁, .environ action allowed run, rest⟩
  | call free executed reaches ih =>
    cases p with
    | done first => exact .inr ⟨first, _, _, .done first _ _, returned whole (.call free executed reaches)⟩
    | call other next =>
      cases whole
      rcases ih rfl with first | ⟨value, tx₁, w₁, run, rest⟩
      · exact .inl (.call free executed first)
      · exact .inr ⟨value, tx₁, w₁, .call free executed run, rest⟩
    | _ => cases whole
  | fails reaches ih =>
    cases p with
    | done first => exact .inr ⟨first, _, _, .done first _ _, returned whole (.fails reaches)⟩
    | call other next =>
      cases whole
      rcases ih rfl with first | ⟨value, tx₁, w₁, run, rest⟩
      · exact .inl (.fails first)
      · exact .inr ⟨value, tx₁, w₁, .fails run, rest⟩
    | _ => cases whole
  | start reaches ih =>
    cases p with
    | done first => exact .inr ⟨first, _, _, .done first _ _, returned whole (.start reaches)⟩
    | start next =>
      cases whole
      rcases ih rfl with first | ⟨value, tx₁, w₁, run, rest⟩
      · exact .inl (.start first)
      · exact .inr ⟨value, tx₁, w₁, .start run, rest⟩
    | _ => cases whole
  | commit reaches ih =>
    cases p with
    | done first => exact .inr ⟨first, _, _, .done first _ _, returned whole (.commit reaches)⟩
    | commit next =>
      cases whole
      rcases ih rfl with first | ⟨value, tx₁, w₁, run, rest⟩
      · exact .inl (.commit first)
      · exact .inr ⟨value, tx₁, w₁, .commit run, rest⟩
    | _ => cases whole
  | aborts reaches ih =>
    cases p with
    | done first => exact .inr ⟨first, _, _, .done first _ _, returned whole (.aborts reaches)⟩
    | commit next =>
      cases whole
      rcases ih rfl with first | ⟨value, tx₁, w₁, run, rest⟩
      · exact .inl (.aborts first)
      · exact .inr ⟨value, tx₁, w₁, .aborts run, rest⟩
    | _ => cases whole

theorem kind_of_issues {kind : S.Stmt → Prop} {p : Prog S ε α}
    (reaches : Reaches E passes stmt p tx w tx' w') (issues : p.Issues kind) : kind stmt := by
  induction reaches with
  | here next tx w => exact issues.1
  | environ _ _ _ ih => exact ih issues
  | call _ _ _ ih => exact ih (issues.2 _)
  | fails _ ih => exact ih (issues.2 none)
  | start _ ih => exact ih issues
  | commit _ ih => exact ih (issues true)
  | aborts _ ih => exact ih (issues false)

theorem throw_false {error : ε} (reaches : Reaches E passes stmt (.throw error : Prog S ε α) tx w tx' w') :
    False := by
  generalize thrown : Prog.throw error = p at reaches
  induction reaches with
  | environ _ _ _ ih => exact ih thrown
  | _ => cases thrown

theorem done_false {value : α} (reaches : Reaches E passes stmt (.done value : Prog S ε α) tx w tx' w') :
    False := by
  generalize done : Prog.done value = p at reaches
  induction reaches with
  | environ _ _ _ ih => exact ih done
  | _ => cases done

theorem perform_cases {failure : ε} {other : S.Stmt}
    (reaches : Reaches E passes stmt (Prog.perform failure other) tx w tx' w') :
    stmt = other ∧ tx' = tx ∧ Alone.Later E passes w w' := by
  generalize whole : Prog.perform failure other = p at reaches
  induction reaches with
  | here next tx w =>
    cases whole
    exact ⟨rfl, rfl, .refl⟩
  | environ action allowed _ ih =>
    obtain ⟨same, kept, after⟩ := ih whole
    exact ⟨same, kept, .head ⟨action, allowed, rfl⟩ after⟩
  | call _ _ reaches =>
    cases whole
    exact (done_false reaches).elim
  | fails reaches =>
    cases whole
    exact (throw_false reaches).elim
  | _ => cases whole

end Reaches

end Interleaving
