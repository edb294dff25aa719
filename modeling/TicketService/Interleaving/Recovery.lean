import TicketService.Interleaving.Autocommit
import TicketService.Interleaving.Sequential

set_option autoImplicit false

namespace Interleaving

variable {S : Signature} {World Tx Lock Env ε α : Type}

namespace Alone

variable {E : Engine S World Tx Lock Env} {passes : Env → Prop} {tx tx' : Option Tx} {w w' : World}
  {out : Except ε α}

private theorem recovered {error : ε} {f : ε → Prog S ε α} {q : Prog S ε α}
    (whole : (Prog.throw error).handle f = q) (run : Alone E passes q tx w out tx' w') :
    Alone E passes (f error) tx w out tx' w' := by
  subst whole
  exact run

theorem handle_cases {p : Prog S ε α} {f : ε → Prog S ε α}
    (run : Alone E passes (p.handle f) tx w out tx' w') :
    (∃ value, out = .ok value ∧ Alone E passes p tx w (.ok value) tx' w') ∨
      ∃ error tx₁ w₁, Alone E passes p tx w (.error error) none w₁ ∧
        Alone E passes (f error) tx₁ w₁ out tx' w' := by
  generalize whole : p.handle f = q at run
  induction run generalizing p with
  | done value tx w =>
    cases p with
    | done value' =>
      cases whole
      exact .inl ⟨value, rfl, .done value tx w⟩
    | throw error =>
      exact .inr ⟨error, tx, w, .throw error tx w, recovered whole (.done value tx w)⟩
    | _ => cases whole
  | throw error tx w =>
    cases p with
    | throw error' =>
      exact .inr ⟨error', tx, w, .throw error' tx w, recovered whole (.throw error tx w)⟩
    | _ => cases whole
  | environ action allowed _ ih =>
    rcases ih whole with ⟨value, ended, run⟩ | ⟨error, tx₁, w₁, run, rest⟩
    · exact .inl ⟨value, ended, .environ action allowed run⟩
    · exact .inr ⟨error, tx₁, w₁, .environ action allowed run, rest⟩
  | call free executed run ih =>
    cases p with
    | throw error =>
      exact .inr ⟨error, _, _, .throw error _ _, recovered whole (.call free executed run)⟩
    | call stmt next =>
      cases whole
      rcases ih rfl with ⟨value, ended, run⟩ | ⟨error, tx₁, w₁, run, rest⟩
      · exact .inl ⟨value, ended, .call free executed run⟩
      · exact .inr ⟨error, tx₁, w₁, .call free executed run, rest⟩
    | _ => cases whole
  | fails run ih =>
    cases p with
    | throw error => exact .inr ⟨error, _, _, .throw error _ _, recovered whole (.fails run)⟩
    | call stmt next =>
      cases whole
      rcases ih rfl with ⟨value, ended, run⟩ | ⟨error, tx₁, w₁, run, rest⟩
      · exact .inl ⟨value, ended, .fails run⟩
      · exact .inr ⟨error, tx₁, w₁, .fails run, rest⟩
    | _ => cases whole
  | start run ih =>
    cases p with
    | throw error => exact .inr ⟨error, none, _, .throw error _ _, recovered whole (.start run)⟩
    | start next =>
      cases whole
      rcases ih rfl with ⟨value, ended, run⟩ | ⟨error, tx₁, w₁, run, rest⟩
      · exact .inl ⟨value, ended, .start run⟩
      · exact .inr ⟨error, tx₁, w₁, .start run, rest⟩
    | _ => cases whole
  | commit run ih =>
    cases p with
    | throw error => exact .inr ⟨error, _, _, .throw error _ _, recovered whole (.commit run)⟩
    | commit next =>
      cases whole
      rcases ih rfl with ⟨value, ended, run⟩ | ⟨error, tx₁, w₁, run, rest⟩
      · exact .inl ⟨value, ended, .commit run⟩
      · exact .inr ⟨error, tx₁, w₁, .commit run, rest⟩
    | _ => cases whole
  | aborts run ih =>
    cases p with
    | throw error => exact .inr ⟨error, none, _, .throw error _ _, recovered whole (.aborts run)⟩
    | commit next =>
      cases whole
      rcases ih rfl with ⟨value, ended, run⟩ | ⟨error, tx₁, w₁, run, rest⟩
      · exact .inl ⟨value, ended, .aborts run⟩
      · exact .inr ⟨error, tx₁, w₁, .aborts run, rest⟩
    | _ => cases whole

theorem handle {p : Prog S ε α} {f : ε → Prog S ε α} {value : α}
    (run : Alone E passes p tx w (.ok value) tx' w') : Alone E passes (p.handle f) tx w (.ok value) tx' w' := by
  generalize ended : Except.ok value = out at run
  induction run with
  | done value' tx w =>
    cases ended
    exact .done value tx w
  | throw => cases ended
  | environ action allowed _ ih => exact .environ action allowed (ih ended)
  | call free executed _ ih => exact .call free executed (ih ended)
  | fails _ ih => exact .fails (ih ended)
  | start _ ih => exact .start (ih ended)
  | commit _ ih => exact .commit (ih ended)
  | aborts _ ih => exact .aborts (ih ended)

theorem ensure {p : Prog S ε α} {cleanup : Prog S ε Unit} {value : α} {tx₁ : Option Tx} {w₁ : World}
    (run : Alone E passes p tx w (.ok value) tx₁ w₁)
    (cleaned : Alone E passes cleanup tx₁ w₁ (.ok ()) tx' w') :
    Alone E passes (p.ensure cleanup) tx w (.ok value) tx' w' :=
  run.handle.bind (cleaned.bind (.done value tx' w'))

theorem ensure_cases {p : Prog S ε α} {cleanup : Prog S ε Unit} {value : α}
    (run : Alone E passes (p.ensure cleanup) tx w (.ok value) tx' w') :
    ∃ tx₁ w₁ w₂, Alone E passes p tx w (.ok value) tx₁ w₁ ∧
      Alone E passes cleanup tx₁ w₁ (.ok ()) tx' w₂ ∧ Later E passes w₂ w' := by
  rcases run.bind_cases with ⟨error, impossible, -⟩ | ⟨value', tx₁, w₁, first, last⟩
  · cases impossible
  rcases first.handle_cases with ⟨value'', same, returned⟩ | ⟨error, tx₂, w₂, -, handled⟩
  · cases same
    rcases last.bind_cases with ⟨error, impossible, -⟩ | ⟨_, tx₂, w₂, cleaned, ended⟩
    · cases impossible
    obtain ⟨same, rfl, later⟩ := ended.done_cases
    cases same
    exact ⟨tx₁, w₁, w₂, returned, cleaned, later⟩
  · rcases handled.bind_cases with ⟨error', impossible, -⟩ | ⟨_, _, _, -, thrown⟩
    · cases impossible
    · cases thrown.throw_cases.1

end Alone

end Interleaving
