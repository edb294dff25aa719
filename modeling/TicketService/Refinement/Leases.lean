import TicketService.Refinement.Polling

set_option autoImplicit false

namespace TicketService

namespace AnalyticsOutboxPublisher

open Interleaving Relational

abbrev recorded (g : PublisherShared) (i : Nat) (stmt : Stmt) (result : stmt.Res) (w : World) :
    PublisherShared :=
  @Shared.record statements World Unit Call g i stmt result w

section Rows

variable {w w' : World} {id : Uuid} {new row : AnalyticsOutbox}

structure Same (w w' : World) : Prop where
  rows : w'.outbox = w.outbox
  clock : w'.clock = w.clock

structure Puts (id : Uuid) (new : AnalyticsOutbox) (w w' : World) : Prop where
  here : w'.row id = some new
  others : ∀ other, other ≠ id → w'.row other = w.row other
  clock : w'.clock = w.clock

theorem Same.row_eq (same : Same w w') (id : Uuid) : w'.row id = w.row id :=
  congrArg (fun outbox => Table.get? outbox id) same.rows

theorem puts_put (found : w.row id = some row) (key : new.id = id) : Puts id new w (w.put new) where
  here := by
    have present : w.outbox.get? id = some row := found
    simp [World.row, World.put, Table.get?_put, key, present]
  others other different := by
    simp [World.row, World.put, Table.get?_put, key, different]
  clock := rfl

theorem Completion.apply_id (data : Completion) (row : AnalyticsOutbox) : (data.apply row).id = row.id := by
  cases data <;> rfl

inductive Effect : (stmt : Stmt) → stmt.Res → World → World → Prop where
  | keeps {stmt : Stmt} {result : stmt.Res} {w w' : World} :
    (∀ id staleBefore lockedAt lockedBy, stmt ≠ .claim id staleBefore lockedAt lockedBy) →
    (∀ id data, stmt ≠ .update id data) → Same w w' → Effect stmt result w w'
  | takes {id : Uuid} {staleBefore lockedAt : Time} {lockedBy : String} {w w' : World}
      (row : AnalyticsOutbox) :
    w.row id = some row → claimable staleBefore row = true →
    Puts id { row with lockedAt := some lockedAt, lockedBy := some lockedBy } w w' →
    Effect (.claim id staleBefore lockedAt lockedBy) (w.answer (1 : Nat)) w w'
  | passes {id : Uuid} {staleBefore lockedAt : Time} {lockedBy : String} {w : World} :
    (w.row id).any (claimable staleBefore) = false →
    Effect (.claim id staleBefore lockedAt lockedBy) (w.answer (0 : Nat)) w w
  | completes {id : Uuid} {data : Completion} {w w' : World} (row : AnalyticsOutbox) :
    w.row id = some row → Puts id (data.apply row) w w' →
    Effect (.update id data) (w.answer (data.apply row)) w w'

theorem exec_effect {stmt : Stmt} {result : stmt.Res} (executed : exec stmt w = some (result, w')) :
    Effect stmt result w w' := by
  cases stmt with
  | claim id staleBefore lockedAt lockedBy =>
    simp only [exec] at executed
    split at executed
    next row found =>
      obtain ⟨present, free⟩ := Option.filter_eq_some_iff.mp found
      have key : row.id = id := Table.key_of_get? present
      cases executed
      exact .takes row present free (puts_put present key)
    next held =>
      cases executed
      refine .passes ?_
      rw [← Option.not_isSome_iff_eq_none, Option.isSome_filter] at held
      simpa using held
  | update id data =>
    obtain ⟨row, found, same⟩ := Option.map_eq_some_iff.mp executed
    cases same
    exact .completes row found
      (puts_put found ((Completion.apply_id data row).trans (Table.key_of_get? found)))
  | findUniqueOrThrow id =>
    obtain ⟨row, found, same⟩ := Option.map_eq_some_iff.mp executed
    cases same
    exact .keeps (by simp) (by simp) ⟨rfl, rfl⟩
  | _ =>
    cases executed
    exact .keeps (by simp) (by simp) ⟨rfl, rfl⟩

theorem clock_of_exec {stmt : Stmt} {result : stmt.Res} (executed : exec stmt w = some (result, w')) :
    w'.clock = w.clock := by
  have effect := exec_effect executed
  cases effect with
  | keeps _ _ same => exact same.clock
  | takes _ _ _ puts => exact puts.clock
  | passes => rfl
  | completes _ _ puts => exact puts.clock

theorem engine_exec {stmt : Stmt} {result : stmt.Res} :
    engine.exec stmt w none = some (result, w', none) ↔ exec stmt w = some (result, w') := by
  simp [engine]

theorem environ_row (action : EnvAct) (found : w.row id = some row) :
    (action.apply w).row id = some row := by
  cases action with
  | enqueue context tenantId other topic payload createdAt =>
    have present : w.outbox.get? id = some row := found
    simp [EnvAct.apply, World.row, Table.get?_insert, present]
  | _ => exact found

theorem environ_clock (action : EnvAct) (w : World) (instanceId : String) :
    w.clock instanceId ≤ (action.apply w).clock instanceId := by
  cases action with
  | tick elapsed => exact Nat.le_add_right _ _
  | _ => exact Nat.le_refl _

theorem environ_new (action : EnvAct) (found : (action.apply w).row id = some row) :
    w.row id = some row ∨ row.publishedAt = none ∧ row.deadLetteredAt = none := by
  cases action with
  | enqueue context tenantId other topic payload createdAt =>
    simp only [EnvAct.apply, World.row, Table.get?_insert] at found
    split at found
    · cases found
      exact .inr ⟨rfl, rfl⟩
    · exact .inl found
  | _ => exact .inl found

end Rows

section Keyed

variable {instanceId : String} {φ φ' : Phase} {stmt : Stmt} {w w' : World}

theorem keyed_of_moves {result : stmt.Res} (moves : Moves instanceId φ stmt (some result) φ')
    (executed : exec stmt w = some (result, w')) : φ'.Keyed := by
  cases moves with
  | read id rest record =>
    obtain ⟨row, found, same⟩ := Option.map_eq_some_iff.mp executed
    cases same
    rintro id' rest' record' ⟨⟩
    exact Table.key_of_get? found
  | _ => exact fun _ _ _ same => by cases same

theorem keyed_of_throws (moves : Moves instanceId φ stmt none φ') : φ'.Keyed := by
  cases moves <;> exact fun _ _ _ same => by cases same

end Keyed

section History

def takes (id : Uuid) : Event statements World Unit → Bool
  | .stmt _ (.claim other staleBefore _ _) _ w => other = id ∧ (w.row id).any (claimable staleBefore)
  | _ => false

def takenBy (i : Nat) (id : Uuid) (e : Event statements World Unit) : Bool :=
  e.thread = i && takes id e

def completes (id : Uuid) : Event statements World Unit → Bool
  | .stmt _ (.update other _) _ _ => other = id
  | _ => false

def holder (id : Uuid) : Record → Option Nat
  | [] => none
  | e :: earlier =>
    if takes id e then some e.thread else if completes id e then none else holder id earlier

def claimedAt : Event statements World Unit → Option Time
  | .stmt _ (.claim _ _ lockedAt _) _ _ => some lockedAt
  | _ => none

-- The `lockedAt` of the thread's last claim of the row.
def lease (i : Nat) (id : Uuid) (history : Record) : Option Time :=
  (history.find? (takenBy i id)).bind claimedAt

section Holder

variable {id : Uuid} {e : Event statements World Unit} {history : Record} {i : Nat} {stmt : Stmt}
  {result : stmt.Res} {w : World}

theorem holder_same (untaken : takes id e = false) (open_ : completes id e = false) :
    holder id (e :: history) = holder id history := by
  simp [holder, untaken, open_]

theorem holder_takes (taken : takes id e = true) : holder id (e :: history) = some e.thread := by
  simp [holder, taken]

theorem lease_same (untaken : takes id e = false) : lease i id (e :: history) = lease i id history := by
  have other : ¬takenBy i id e = true := by simp [takenBy, untaken]
  exact congrArg (Option.bind · claimedAt) (List.find?_cons_of_neg other)

theorem lease_takes {target : Uuid} {staleBefore lockedAt : Time} {lockedBy : String} {answer : Option Nat}
    (taken : takes id (.stmt i (.claim target staleBefore lockedAt lockedBy) answer w) = true) :
    lease i id (.stmt i (.claim target staleBefore lockedAt lockedBy) answer w :: history) =
      some lockedAt := by
  have mine : takenBy i id (.stmt i (.claim target staleBefore lockedAt lockedBy) answer w) = true := by
    simp [takenBy, Event.thread, taken]
  exact congrArg (Option.bind · claimedAt) (List.find?_cons_of_pos mine)

theorem takes_other (other : ∀ id staleBefore lockedAt lockedBy,
    stmt ≠ .claim id staleBefore lockedAt lockedBy) : takes id (.stmt i stmt result w) = false := by
  cases stmt with
  | claim id staleBefore lockedAt lockedBy => exact absurd rfl (other id staleBefore lockedAt lockedBy)
  | _ => rfl

theorem completes_other (other : ∀ id data, stmt ≠ .update id data) :
    completes id (.stmt i stmt result w) = false := by
  cases stmt with
  | update id data => exact absurd rfl (other id data)
  | _ => rfl

end Holder

end History

end AnalyticsOutboxPublisher

end TicketService
