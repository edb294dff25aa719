import Mathlib.Logic.Function.Basic

set_option autoImplicit false

namespace Projecting

variable {κ ν : Type}

abbrev Rows (κ ν : Type) : Type := κ → Option (ν × Option Nat)

abbrev Values (κ ν : Type) : Type := κ → Option ν

abbrev Stamps (κ : Type) : Type := κ → Option Nat

def Rows.values (rows : Rows κ ν) : Values κ ν := fun key => (rows key).map (·.1)

def Rows.stamps (rows : Rows κ ν) : Stamps κ := fun key => (rows key).bind (·.2)

structure Edit (κ ν : Type) where
  key : κ
  -- Whether the message is compared with the stamp of the row.
  checked : Bool
  occurredAt : Nat
  -- When the message is handled.
  time : Nat
  removes : Bool
  value : Option ν → ν

namespace Edit

def outcome (e : Edit κ ν) (old : Option ν) : Option ν :=
  if e.removes then none else some (e.value old)

def skipped (e : Edit κ ν) (rows : Rows κ ν) : Bool :=
  e.checked && (rows.stamps e.key).any (e.occurredAt < ·)

theorem skipped_eq_false {e : Edit κ ν} {rows : Rows κ ν} : e.skipped rows = false ↔
    (e.checked = true → ∀ time ∈ rows.stamps e.key, time ≤ e.occurredAt) := by
  unfold skipped
  cases rows.stamps e.key <;> simp

variable [DecidableEq κ]

def fold (values : Values κ ν) (e : Edit κ ν) : Values κ ν :=
  Function.update values e.key (e.outcome (values e.key))

def stamp (stamps : Stamps κ) (e : Edit κ ν) : Stamps κ :=
  Function.update stamps e.key (if e.removes then none else some e.time)

def write (rows : Rows κ ν) (e : Edit κ ν) : Rows κ ν :=
  Function.update rows e.key ((e.outcome (rows.values e.key)).map fun value => (value, some e.time))

def apply (rows : Rows κ ν) (e : Edit κ ν) : Rows κ ν :=
  if e.skipped rows then rows else e.write rows

theorem values_write (rows : Rows κ ν) (e : Edit κ ν) :
    (e.write rows).values = e.fold rows.values := by
  funext key
  by_cases same : key = e.key
  · subst same
    simp only [write, fold, Function.update_self]
    change Option.map (·.1) (Function.update rows e.key _ e.key) = _
    rw [Function.update_self]
    cases e.outcome (rows.values e.key) <;> rfl
  · simp [write, fold, Rows.values, same]

theorem stamps_write (rows : Rows κ ν) (e : Edit κ ν) :
    (e.write rows).stamps = e.stamp rows.stamps := by
  funext key
  by_cases same : key = e.key
  · subst same
    by_cases removes : e.removes <;> simp [write, stamp, Rows.stamps, outcome, removes]
  · simp [write, stamp, Rows.stamps, same]

end Edit

section Sequences

variable [DecidableEq κ]

def written (rows : Rows κ ν) : List (Edit κ ν) → Nat
  | [] => 0
  | e :: rest => (if e.skipped rows then 0 else 1) + written (e.apply rows) rest

def Applied (rows : Rows κ ν) : List (Edit κ ν) → Prop
  | [] => True
  | e :: rest => e.skipped rows = false ∧ Applied (e.apply rows) rest

/-- No checked message is older than the handling of the message that wrote the row it concerns;
`stamps` says when the rows were written. -/
def Spaced (stamps : Stamps κ) : List (Edit κ ν) → Prop
  | [] => True
  | e :: rest =>
    (e.checked = true → ∀ time ∈ stamps e.key, time ≤ e.occurredAt) ∧ Spaced (e.stamp stamps) rest

instance decidableSpaced (stamps : Stamps κ) (edits : List (Edit κ ν)) :
    Decidable (Spaced stamps edits) :=
  match edits with
  | [] => isTrue trivial
  | e :: rest =>
    have := decidableSpaced (e.stamp stamps) rest
    inferInstanceAs (Decidable (_ ∧ _))

variable (rows : Rows κ ν) (edits more : List (Edit κ ν))

theorem written_le : written rows edits ≤ edits.length := by
  induction edits generalizing rows with
  | nil => exact Nat.le_refl 0
  | cons e rest ih =>
    have later := ih (e.apply rows)
    simp only [written, List.length_cons]
    split <;> omega

theorem written_append :
    written rows (edits ++ more) = written rows edits + written (edits.foldl Edit.apply rows) more := by
  induction edits generalizing rows with
  | nil => simp [written]
  | cons e rest ih => simp [written, ih, Nat.add_assoc]

theorem applied_iff_written : Applied rows edits ↔ written rows edits = edits.length := by
  induction edits generalizing rows with
  | nil => simp [Applied, written]
  | cons e rest ih =>
    have bound := written_le (e.apply rows) rest
    simp only [Applied, written, List.length_cons, ih]
    cases e.skipped rows <;> simp <;> omega

theorem applied_append :
    Applied rows (edits ++ more) ↔ Applied rows edits ∧ Applied (edits.foldl Edit.apply rows) more := by
  induction edits generalizing rows with
  | nil => simp [Applied]
  | cons e rest ih => simp [Applied, ih, and_assoc]

/-- Nothing is skipped if and only if the messages are spaced. -/
theorem applied_iff_spaced : Applied rows edits ↔ Spaced rows.stamps edits := by
  induction edits generalizing rows with
  | nil => simp [Applied, Spaced]
  | cons e rest ih =>
    simp only [Applied, Spaced]
    rw [Edit.skipped_eq_false]
    refine and_congr_right fun kept => ?_
    have applied : e.apply rows = e.write rows := by
      simp [Edit.apply, Edit.skipped_eq_false.mpr kept]
    rw [ih, applied, Edit.stamps_write]

/-- Where nothing is skipped, the values are what the messages ask for, one after another. -/
theorem values_of_applied (applied : Applied rows edits) :
    (edits.foldl Edit.apply rows).values = edits.foldl Edit.fold rows.values := by
  induction edits generalizing rows with
  | nil => rfl
  | cons e rest ih =>
    obtain ⟨kept, later⟩ := applied
    have written : e.apply rows = e.write rows := by simp [Edit.apply, kept]
    rw [List.foldl_cons, List.foldl_cons, ih _ later, written, Edit.values_write]

end Sequences

end Projecting
