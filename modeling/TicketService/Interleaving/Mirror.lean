import TicketService.Interleaving.Along
import TicketService.Interleaving.Sequential

set_option autoImplicit false

namespace Interleaving

variable {S : Signature} {World Tx Lock Env ε α : Type}

/-- The image of a world under `f` cannot be told from the world by statements of a kind that are
issued in a transaction that fits. -/
structure Engine.Mirrors (E : Engine S World Tx Lock Env) (passes : Env → Prop) (f : World → World)
    (kind : S.Stmt → Prop) (fits : Tx → Prop) : Prop where
  fresh : fits E.fresh
  needs : ∀ stmt w tx, kind stmt → (∀ t ∈ tx, fits t) → E.needs stmt (f w) tx = E.needs stmt w tx
  exec : ∀ stmt w tx, kind stmt → (∀ t ∈ tx, fits t) →
    E.exec stmt (f w) tx = (E.exec stmt w tx).map fun (result, w', tx') => (result, f w', tx')
  kept : ∀ stmt w tx result w' tx', kind stmt → (∀ t ∈ tx, fits t) →
    E.exec stmt w tx = some (result, w', tx') → ∀ t ∈ tx', fits t
  publish : ∀ t w, fits t → E.publish t (f w) = f (E.publish t w)
  environ : ∀ action w, passes action → E.environ action (f w) = f (E.environ action w)

namespace Alone

variable {E : Engine S World Tx Lock Env} {passes : Env → Prop} {f : World → World}
  {kind : S.Stmt → Prop} {fits : Tx → Prop} {p : Prog S ε α} {tx tx' : Option Tx} {w w' : World}
  {out : Except ε α}

theorem mirrored (mirrors : E.Mirrors passes f kind fits) (run : Alone E passes p tx w out tx' w')
    (issues : p.Issues kind) (suits : ∀ t ∈ tx, fits t) : Alone E passes p tx (f w) out tx' (f w') := by
  induction run with
  | done value tx w => exact .done value tx (f w)
  | throw error tx w => exact .throw error tx (f w)
  | @environ p tx tx' w w' out action allowed _ ih =>
    refine .environ action allowed ?_
    rw [mirrors.environ action w allowed]
    exact ih issues suits
  | @call stmt next tx tx₁ tx' w w₁ w' out result free executed _ ih =>
    have free' : E.Free stmt (f w) tx := by
      intro auto
      rw [mirrors.needs stmt w tx issues.1 suits]
      exact free auto
    have executed' : E.exec stmt (f w) tx = some (result, f w₁, tx₁) := by
      rw [mirrors.exec stmt w tx issues.1 suits, executed]
      rfl
    exact .call free' executed' (ih (issues.2 _) (mirrors.kept _ _ _ _ _ _ issues.1 suits executed))
  | fails _ ih => exact .fails (ih (issues.2 none) suits)
  | start _ ih => exact .start (ih issues (by simpa using mirrors.fresh))
  | @commit next t tx' w w' out _ ih =>
    refine .commit ?_
    rw [mirrors.publish t w (suits t rfl)]
    exact ih (issues true) (by simp)
  | aborts _ ih => exact .aborts (ih (issues false) (by simp))

/-- Every run in the image of a world is the image of a run. -/
theorem unmirrored (mirrors : E.Mirrors passes f kind fits) {v : World}
    (run : Alone E passes p tx (f w) out tx' v) (issues : p.Issues kind) (suits : ∀ t ∈ tx, fits t) :
    ∃ w', v = f w' ∧ Alone E passes p tx w out tx' w' := by
  generalize image : f w = u at run
  induction run generalizing w with
  | done value tx u =>
    subst image
    exact ⟨w, rfl, .done value tx w⟩
  | throw error tx u =>
    subst image
    exact ⟨w, rfl, .throw error tx w⟩
  | environ action allowed _ ih =>
    subst image
    obtain ⟨w', rfl, run⟩ := ih issues suits (mirrors.environ action w allowed).symm
    exact ⟨w', rfl, .environ action allowed run⟩
  | @call stmt next tx tx₁ tx' u u₁ v out result free executed _ ih =>
    subst image
    rw [mirrors.exec stmt w tx issues.1 suits] at executed
    obtain ⟨⟨result', w₁, tx₂⟩, executed', same⟩ := Option.map_eq_some_iff.mp executed
    cases same
    have free' : E.Free stmt w tx := by
      intro auto
      rw [← mirrors.needs stmt w tx issues.1 suits]
      exact free auto
    obtain ⟨w', rfl, run⟩ :=
      ih (issues.2 _) (mirrors.kept _ _ _ _ _ _ issues.1 suits executed') rfl
    exact ⟨w', rfl, .call free' executed' run⟩
  | fails _ ih =>
    obtain ⟨w', rfl, run⟩ := ih (issues.2 none) suits image
    exact ⟨w', rfl, .fails run⟩
  | start _ ih =>
    obtain ⟨w', rfl, run⟩ := ih issues (by simpa using mirrors.fresh) image
    exact ⟨w', rfl, .start run⟩
  | @commit next t tx' u v out _ ih =>
    subst image
    obtain ⟨w', rfl, run⟩ := ih (issues true) (by simp) (mirrors.publish t w (suits t rfl)).symm
    exact ⟨w', rfl, .commit run⟩
  | aborts _ ih =>
    obtain ⟨w', rfl, run⟩ := ih (issues false) (by simp) image
    exact ⟨w', rfl, .aborts run⟩

end Alone

end Interleaving
