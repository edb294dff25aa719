import Mathlib.Data.List.Basic
import Mathlib.Data.List.Nodup

set_option autoImplicit false

namespace Relational

structure Table (ρ κ : Type) (key : ρ → κ) where
  rows : List ρ
  nodup : (rows.map key).Nodup

namespace Table

variable {ρ κ : Type} {key : ρ → κ}

@[ext] theorem ext {s t : Table ρ κ key} (same : s.rows = t.rows) : s = t := by
  cases s
  cases t
  cases same
  rfl

def empty : Table ρ κ key := ⟨[], by simp⟩

variable [DecidableEq κ]

def get? (t : Table ρ κ key) (k : κ) : Option ρ :=
  t.rows.find? fun row => key row = k

def insert (t : Table ρ κ key) (row : ρ) : Table ρ κ key :=
  if taken : key row ∈ t.rows.map key then t
  else ⟨t.rows ++ [row], by
    rw [List.map_append, List.map_singleton]
    exact t.nodup.append (List.nodup_singleton _) (by simpa using taken)⟩

def put (t : Table ρ κ key) (row : ρ) : Table ρ κ key :=
  ⟨t.rows.map fun old => if key old = key row then row else old, by
    have keys : (t.rows.map fun old => if key old = key row then row else old).map key =
        t.rows.map key := by
      rw [List.map_map]
      apply List.map_congr_left
      intro old _
      by_cases same : key old = key row <;> simp [same]
    rw [keys]
    exact t.nodup⟩

def update (t : Table ρ κ key) (f : ρ → ρ) (keyed : ∀ row, key (f row) = key row) : Table ρ κ key :=
  ⟨t.rows.map f, by
    rw [List.map_map, show key ∘ f = key from funext keyed]
    exact t.nodup⟩

def upsert (t : Table ρ κ key) (row : ρ) : Table ρ κ key :=
  (t.put row).insert row

def erase (t : Table ρ κ key) (drop : κ → Bool) : Table ρ κ key :=
  ⟨t.rows.filter fun row => !drop (key row), t.nodup.sublist (List.filter_sublist.map key)⟩

@[simp] theorem get?_empty (k : κ) : (empty : Table ρ κ key).get? k = none := rfl

theorem key_of_get? {t : Table ρ κ key} {k : κ} {row : ρ} (found : t.get? k = some row) :
    key row = k := by
  simpa using List.find?_some found

theorem mem_of_get? {t : Table ρ κ key} {k : κ} {row : ρ} (found : t.get? k = some row) :
    row ∈ t.rows :=
  List.mem_of_find?_eq_some found

theorem get?_of_mem {t : Table ρ κ key} {row : ρ} (member : row ∈ t.rows) :
    t.get? (key row) = some row := by
  cases found : t.get? (key row) with
  | none =>
    have := List.find?_eq_none.mp found row member
    simp at this
  | some other =>
    have same := List.inj_on_of_nodup_map t.nodup (mem_of_get? found) member (key_of_get? found)
    rw [same]

theorem mem_iff {t : Table ρ κ key} {row : ρ} : row ∈ t.rows ↔ t.get? (key row) = some row :=
  ⟨get?_of_mem, mem_of_get?⟩

theorem get?_eq_none {t : Table ρ κ key} {k : κ} : t.get? k = none ↔ k ∉ t.rows.map key := by
  simp [get?, List.find?_eq_none]

theorem get?_insert {t : Table ρ κ key} {row : ρ} (k : κ) :
    (t.insert row).get? k =
      if k = key row ∧ t.get? k = none then some row else t.get? k := by
  unfold insert
  split
  next taken =>
    have present : ¬(k = key row ∧ t.get? k = none) := by
      rintro ⟨rfl, missing⟩
      exact get?_eq_none.mp missing taken
    rw [if_neg present]
  next free =>
    simp only [get?, List.find?_append, List.find?_singleton]
    by_cases same : key row = k
    · subst same
      have missing : t.rows.find? (fun other => key other = key row) = none :=
        get?_eq_none.mpr free
      simp [missing]
    · simp [same, Ne.symm same]

theorem rows_insert {t : Table ρ κ key} {row : ρ} (free : t.get? (key row) = none) :
    (t.insert row).rows = t.rows ++ [row] := by
  unfold insert
  rw [dif_neg (get?_eq_none.mp free)]

theorem insert_taken {t : Table ρ κ key} {row other : ρ} (taken : t.get? (key row) = some other) :
    t.insert row = t := by
  have present : key row ∈ t.rows.map key := by
    by_contra absent
    rw [get?_eq_none.mpr absent] at taken
    cases taken
  simp [insert, present]

theorem rows_insert_cases (t : Table ρ κ key) (row : ρ) :
    (t.insert row).rows = t.rows ∨ (t.insert row).rows = t.rows ++ [row] := by
  unfold insert
  split
  next => exact .inl rfl
  next => exact .inr rfl

theorem get?_put {t : Table ρ κ key} {row : ρ} (k : κ) :
    (t.put row).get? k =
      if k = key row then (t.get? k).map (fun _ => row) else t.get? k := by
  simp only [get?, put, List.find?_map]
  by_cases same : k = key row
  · subst same
    have test : ((fun other => decide (key other = key row)) ∘
        fun old => if key old = key row then row else old) =
        fun old => decide (key old = key row) := by
      funext old
      by_cases equal : key old = key row <;> simp [equal]
    rw [test]
    cases found : t.rows.find? (fun old => decide (key old = key row)) with
    | none => simp
    | some old =>
      have equal : key old = key row := by simpa using List.find?_some found
      simp [equal]
  · have test : ((fun other => decide (key other = k)) ∘
        fun old => if key old = key row then row else old) =
        fun old => decide (key old = k) := by
      funext old
      by_cases equal : key old = key row
      · simp [equal]
      · simp [equal]
    rw [test, if_neg same]
    cases found : t.rows.find? (fun old => decide (key old = k)) with
    | none => simp
    | some old =>
      have equal : key old = k := by simpa using List.find?_some found
      have other : key old ≠ key row := by rw [equal]; exact same
      simp [other]

theorem get?_upsert {t : Table ρ κ key} {row : ρ} (k : κ) :
    (t.upsert row).get? k = if k = key row then some row else t.get? k := by
  rw [upsert, get?_insert, get?_put]
  by_cases same : k = key row
  · cases found : t.get? k <;> simp [same]
  · simp [same]

theorem get?_erase {t : Table ρ κ key} {drop : κ → Bool} (k : κ) :
    (t.erase drop).get? k = if drop k then none else t.get? k := by
  simp only [get?, erase, List.find?_filter]
  by_cases gone : drop k = true
  · rw [if_pos gone]
    apply List.find?_eq_none.mpr
    intro row _
    by_cases same : key row = k <;> simp [same, gone]
  · rw [if_neg gone]
    congr 1
    funext row
    by_cases same : key row = k <;> simp [same, gone]

theorem get?_update {t : Table ρ κ key} {f : ρ → ρ} {keyed : ∀ row, key (f row) = key row} (k : κ) :
    (t.update f keyed).get? k = (t.get? k).map f := by
  have same : (fun row => decide (key row = k)) ∘ f = fun row => decide (key row = k) := by
    funext row
    simp [keyed]
  simp only [get?, update, List.find?_map, same]

theorem filter_key {t : Table ρ κ key} {k : κ} {P : ρ → Bool} :
    t.rows.filter (fun row => key row = k ∧ P row) = ((t.get? k).filter P).toList := by
  obtain ⟨rows, nodup⟩ := t
  simp only [get?]
  induction rows with
  | nil => simp
  | cons row rest ih =>
    rw [List.map_cons, List.nodup_cons] at nodup
    by_cases same : key row = k
    · have absent : ∀ other ∈ rest, key other = k → P other = false := by
        rintro other member rfl
        exact absurd (same ▸ List.mem_map_of_mem member) nodup.1
      by_cases holds : P row <;> simpa [same, holds, Option.filter] using absent
    · simpa [same] using ih nodup.2

end Table

end Relational
