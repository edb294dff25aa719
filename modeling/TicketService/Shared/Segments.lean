import Mathlib.Data.List.Basic

set_option autoImplicit false

namespace Segments

variable {α : Type} [DecidableEq α] {separator : α} {first first' rest rest' : List α}

theorem length_splitOn (separator : α) (items : List α) :
    (items.splitOn separator).length = items.count separator + 1 := by
  rw [List.splitOn_eq_splitOnP]
  induction items with
  | nil => rfl
  | cons item items ih =>
    rw [List.splitOnP_cons_eq_if_modifyHead, List.count_cons]
    split
    next same => simp [ih]
    next other => simp [ih]

theorem between_eq_nil {between : List α} (counts : (first ++ between).count separator = first.count separator)
    (ends : separator :: rest = between ++ separator :: rest') : between = [] := by
  cases between with
  | nil => rfl
  | cons item between =>
    obtain ⟨rfl, -⟩ := List.cons_eq_cons.mp ends
    rw [List.count_append, List.count_cons_self] at counts
    omega

theorem append_cons_inj (counts : first.count separator = first'.count separator)
    (same : first ++ separator :: rest = first' ++ separator :: rest') : first = first' ∧ rest = rest' := by
  rcases List.append_eq_append_iff.mp same with ⟨between, rfl, ends⟩ | ⟨between, rfl, ends⟩
  · obtain rfl := between_eq_nil counts.symm ends
    exact ⟨(List.append_nil _).symm, List.tail_eq_of_cons_eq ends⟩
  · obtain rfl := between_eq_nil counts ends
    exact ⟨List.append_nil _, (List.tail_eq_of_cons_eq ends).symm⟩

theorem join_inj (segments : (first.splitOn separator).length = (first'.splitOn separator).length)
    (same : first ++ separator :: rest = first' ++ separator :: rest') : first = first' ∧ rest = rest' := by
  rw [length_splitOn, length_splitOn] at segments
  exact append_cons_inj (Nat.succ.inj segments) same

end Segments
