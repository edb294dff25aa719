import Mathlib.Logic.Basic

set_option autoImplicit false

namespace Interleaving

structure Signature where
  Stmt : Type
  Res : Stmt → Type

inductive Prog (S : Signature) (ε α : Type) where
  | done (value : α)
  | throw (error : ε)
  | call (stmt : S.Stmt) (next : Option (S.Res stmt) → Prog S ε α)
  | start (next : Prog S ε α)
  | commit (next : Bool → Prog S ε α)

namespace Prog

variable {S : Signature} {ε α β γ : Type}

def bind : Prog S ε α → (α → Prog S ε β) → Prog S ε β
  | .done value, f => f value
  | .throw error, _ => .throw error
  | .call stmt next, f => .call stmt fun result => (next result).bind f
  | .start next, f => .start (next.bind f)
  | .commit next, f => .commit fun committed => (next committed).bind f

instance : Monad (Prog S ε) where
  pure := .done
  bind := bind

@[simp] theorem pure_eq (value : α) : (pure value : Prog S ε α) = .done value := rfl

@[simp] theorem bind_eq (p : Prog S ε α) (f : α → Prog S ε β) : (p >>= f) = p.bind f := rfl

theorem bind_assoc (p : Prog S ε α) (f : α → Prog S ε β) (g : β → Prog S ε γ) :
    (p.bind f).bind g = p.bind fun value => (f value).bind g := by
  induction p with
  | done value => rfl
  | throw error => rfl
  | call stmt next ih => exact congrArg (Prog.call stmt) (funext ih)
  | start next ih => exact congrArg Prog.start ih
  | commit next ih => exact congrArg Prog.commit (funext ih)

def perform (failure : ε) (stmt : S.Stmt) : Prog S ε (S.Res stmt) :=
  .call stmt fun
    | some result => .done result
    | none => .throw failure

def transaction (failure : ε) (body : Prog S ε α) : Prog S ε α :=
  .start (body.bind fun value => .commit fun committed =>
    if committed then .done value else .throw failure)

end Prog

end Interleaving
