import TicketService.Interleaving.Solo
import TicketService.Properties.Refusal
import TicketService.Shared.Projection

set_option autoImplicit false

namespace TicketService

open EventRoleHandler EventSettingsHandler Interleaving Projecting Relational

variable {platform : Platform}

def World.roleRows (w : World) : Rows (Uuid × Uuid) EventRoleType := fun key =>
  (w.role key.1 key.2).map fun row => (row.role, row.updatedAt)

def EventSettingsProjection.unstamped (row : EventSettingsProjection) : EventSettingsProjection :=
  { row with updatedAt := none }

def World.settingsRows (w : World) : Rows Uuid EventSettingsProjection := fun eventId =>
  (w.settings eventId).map fun row => (row.unstamped, row.updatedAt)

structure Delivery where
  message : Call
  -- When it is handled: the clock when the handler stores a row, if it does.
  time : Time
  -- How many statements of the handler write to the projections.
  writes : Nat

namespace Delivery

def assign (key : Uuid × Uuid) (role : EventRoleType) (occurredAt time : Time) :
    Edit (Uuid × Uuid) EventRoleType :=
  { key, checked := true, occurredAt, time, removes := false, value := fun _ => role }

def remove (key : Uuid × Uuid) (occurredAt time : Time) : Edit (Uuid × Uuid) EventRoleType :=
  { key, checked := true, occurredAt, time, removes := true, value := fun old => old.getD .guest }

def roleEdits (d : Delivery) : List (Edit (Uuid × Uuid) EventRoleType) :=
  match d.message with
  | .roleAssigned payload =>
    [assign (payload.eventId, payload.userId) payload.role payload.occurredAt d.time]
  | .roleRemoved payload => [remove (payload.eventId, payload.userId) payload.occurredAt d.time]
  | .ownerChanged payload =>
    (payload.oldOwnerId.toList.map fun oldOwnerId =>
      remove (payload.eventId, oldOwnerId) payload.occurredAt d.time) ++
      [assign (payload.eventId, payload.newOwnerId) .admin payload.occurredAt d.time]
  | _ => []

-- `event.created` replaces the row unchecked; `event.updated` changes the fields it carries.
def settingsEdits (d : Delivery) : List (Edit Uuid EventSettingsProjection) :=
  match d.message with
  | .eventCreated payload =>
    [{ key := payload.eventId, checked := false, occurredAt := 0, time := d.time, removes := false
       value := fun _ => createdRow payload }]
  | .eventUpdated payload =>
    [{ key := payload.eventId, checked := true, occurredAt := payload.occurredAt, time := d.time
       removes := false
       value := fun old => (old.map (updatedData payload)).getD (updatedRow payload) }]
  | _ => []

end Delivery

def Call.projected : Call → Bool
  | .roleAssigned _ => true
  | .roleRemoved _ => true
  | .ownerChanged _ => true
  | .eventCreated _ => true
  | .eventUpdated _ => true
  | _ => false

def Stmt.stamps : Stmt → Bool
  | .roleUpsert _ => true
  | .settingsUpsert .. => true
  | _ => false

def Stmt.projects : Stmt → Bool
  | .roleUpsert _ => true
  | .roleDeleteMany _ => true
  | .settingsUpsert .. => true
  | _ => false

def stmtSatisfies (test : Stmt → Bool) : Event statements World Tx → Bool
  | .stmt _ stmt _ _ => test stmt
  | _ => false

structure Delivered (platform : Platform) (c : ServiceState) (d : Delivery) (c' : ServiceState) :
    Prop where
  projected : d.message.projected = true
  alone : (service platform).Sequential (fun _ => True) c d.message c'
  returned : c'.threads[c.threads.length]?.bind Thread.returned = some .nothing
  within : c.shared.world.clock ≤ d.time ∧ d.time ≤ c'.shared.world.clock
  recorded : ∃ steps, c'.shared.history = steps ++ c.shared.history ∧
    (∀ e ∈ steps, stmtSatisfies Stmt.stamps e = true → e.world.clock = d.time) ∧
    (steps.filter (stmtSatisfies Stmt.projects)).length = d.writes

inductive Deliveries (platform : Platform) : ServiceState → List Delivery → ServiceState → Prop where
  | nil (c : ServiceState) : Deliveries platform c [] c
  | cons {c c₁ c' : ServiceState} {d : Delivery} {rest : List Delivery} :
      Delivered platform c d c₁ → Deliveries platform c₁ rest c' →
      Deliveries platform c (d :: rest) c'

section Handlers

def SameProjections (w w' : World) : Prop :=
  w'.store.eventRoles = w.store.eventRoles ∧ w'.store.eventSettings = w.store.eventSettings

theorem SameProjections.roleRows {w w' : World} (same : SameProjections w w') :
    w'.roleRows = w.roleRows := by
  funext key
  simp only [World.roleRows, World.role, same.1]

theorem SameProjections.settingsRows {w w' : World} (same : SameProjections w w') :
    w'.settingsRows = w.settingsRows := by
  funext eventId
  simp only [World.settingsRows, World.settings, same.2]

theorem SameProjections.trans {w₁ w₂ w₃ : World} (first : SameProjections w₁ w₂)
    (second : SameProjections w₂ w₃) : SameProjections w₁ w₃ :=
  ⟨second.1.trans first.1, second.2.trans first.2⟩

variable {i : Nat}

abbrev LoggedLater (platform : Platform) (i : Nat) :
    World × Log statements World Tx → World × Log statements World Tx → Prop :=
  Alone.Later ((engine platform).logged i) fun _ => True

theorem sameProjections_of_later {w w' : World × Log statements World Tx}
    (later : LoggedLater platform i w w') : SameProjections w.1 w'.1 ∧ w'.2 = w.2 := by
  induction later with
  | refl => exact ⟨⟨rfl, rfl⟩, rfl⟩
  | tail _ last ih =>
    obtain ⟨action, -, rfl⟩ := last
    refine ⟨ih.1.trans ?_, ih.2⟩
    cases action <;> exact ⟨rfl, rfl⟩

theorem handler_alone {find write : Stmt} {stale : find.Res → Bool} {value : World → find.Res}
    (reading : ∀ w, exec platform find w none = some (value w, w, none))
    (same : ∀ w w', SameProjections w w' → value w' = value w)
    {w w' : World × Log statements World Tx} {tx' : Option Tx}
    (run : Alone ((engine platform).logged i) (fun _ => True)
      (issue find >>= fun row => if stale row then .done () else discard write) none w (.ok ())
      tx' w') :
    tx' = none ∧ ∃ found, SameProjections w.1 found ∧
      ((stale (value w.1) = true ∧ SameProjections w.1 w'.1 ∧
          w'.2 = .stmt i find (value w.1) found :: w.2) ∨
        stale (value w.1) = false ∧ ∃ result w₂ w₃, SameProjections w.1 w₂ ∧
          exec platform write w₂ none = some (result, w₃, none) ∧ SameProjections w₃ w'.1 ∧
          w'.2 = .stmt i write result w₂ :: .stmt i find (value w.1) found :: w.2) := by
  rcases run.bind_cases with ⟨error, impossible, -⟩ | ⟨row, tx₁, w₁, finds, rest⟩
  · cases impossible
  rcases finds.perform_cases with ⟨impossible, -⟩ | ⟨_, v₁, v₂, returned, before, executed, after⟩
  · cases impossible
  cases returned
  obtain ⟨executed, log⟩ := Engine.logged_exec.mp executed
  have read : exec platform find v₁.1 none = some (row, v₂.1, tx₁) := executed
  rw [reading] at read
  simp only [Option.some.injEq, Prod.mk.injEq] at read
  obtain ⟨rfl, kept, rfl⟩ := read
  have first := sameProjections_of_later before
  have second := sameProjections_of_later after
  rw [← kept] at second
  have found : value v₁.1 = value w.1 := same _ _ first.1
  rw [found] at rest log
  have start : SameProjections w.1 w₁.1 := first.1.trans second.1
  have startLog : w₁.2 = .stmt i find (value w.1) v₁.1 :: w.2 := by
    rw [second.2, log, first.2]
  cases newer : stale (value w.1) with
  | true =>
    simp only [newer, if_true] at rest
    obtain ⟨-, closed, last⟩ := rest.done_cases
    have third := sameProjections_of_later last
    refine ⟨closed, v₁.1, first.1, .inl ⟨rfl, start.trans third.1, ?_⟩⟩
    rw [third.2, startLog]
  | false =>
    simp only [newer, Bool.false_eq_true, if_false] at rest
    rcases rest.bind_cases with ⟨error, impossible, -⟩ | ⟨result, tx₂, w₄, writes, done⟩
    · cases impossible
    rcases writes.perform_cases with ⟨impossible, -⟩ | ⟨_, v₃, v₄, returned, before', executed, after'⟩
    · cases impossible
    cases returned
    obtain ⟨executed, log'⟩ := Engine.logged_exec.mp executed
    have stored : exec platform write v₃.1 none = some (result, v₄.1, tx₂) := executed
    obtain rfl : tx₂ = none := exec_alone stored
    obtain ⟨-, closed, last⟩ := done.done_cases
    have third := sameProjections_of_later before'
    have fourth := sameProjections_of_later after'
    have fifth := sameProjections_of_later last
    refine ⟨closed, v₁.1, first.1, .inr ⟨rfl, result, v₃.1, v₄.1, start.trans third.1, stored,
      fourth.1.trans fifth.1, ?_⟩⟩
    rw [fifth.2, fourth.2, log', third.2, startLog]

structure Projected (steps : List (Event statements World Tx)) (before after : World)
    (roles : List (Edit (Uuid × Uuid) EventRoleType))
    (settings : List (Edit Uuid EventSettingsProjection)) : Prop where
  roleRows : after.roleRows = roles.foldl Edit.apply before.roleRows
  settingsRows : after.settingsRows = settings.foldl Edit.apply before.settingsRows
  writes : (steps.filter (stmtSatisfies Stmt.projects)).length =
    written before.roleRows roles + written before.settingsRows settings

namespace Projected

variable {steps more : List (Event statements World Tx)} {w w₁ w₂ w' : World}
  {roles roles' : List (Edit (Uuid × Uuid) EventRoleType)}
  {settings settings' : List (Edit Uuid EventSettingsProjection)}

theorem trans (first : Projected steps w w₁ roles settings)
    (second : Projected more w₁ w' roles' settings') :
    Projected (more ++ steps) w w' (roles ++ roles') (settings ++ settings') where
  roleRows := by rw [List.foldl_append, ← first.roleRows, second.roleRows]
  settingsRows := by rw [List.foldl_append, ← first.settingsRows, second.settingsRows]
  writes := by
    have before := first.writes
    have after := second.writes
    rw [List.filter_append, List.length_append, written_append, written_append, ← first.roleRows,
      ← first.settingsRows]
    omega

theorem keep (same : SameProjections w w')
    (reads : steps.filter (stmtSatisfies Stmt.projects) = []) : Projected steps w w' [] [] where
  roleRows := same.roleRows
  settingsRows := same.settingsRows
  writes := by simp [reads, written]

theorem skipRole {e : Edit (Uuid × Uuid) EventRoleType} (skipped : e.skipped w.roleRows = true) :
    Projected [] w w [e] [] where
  roleRows := by simp [Edit.apply, skipped]
  settingsRows := rfl
  writes := by simp [written, skipped]

theorem skipSettings {e : Edit Uuid EventSettingsProjection}
    (skipped : e.skipped w.settingsRows = true) : Projected [] w w [] [e] where
  roleRows := rfl
  settingsRows := by simp [Edit.apply, skipped]
  writes := by simp [written, skipped]

variable {i : Nat} {write : Stmt} {result : write.Res}

theorem editRole {e : Edit (Uuid × Uuid) EventRoleType} (projects : write.projects = true)
    (kept : e.skipped w.roleRows = false) (written : w'.roleRows = e.write w.roleRows)
    (settings : w'.settingsRows = w.settingsRows) :
    Projected [.stmt i write result w₁] w w' [e] [] where
  roleRows := by simp [Edit.apply, kept, written]
  settingsRows := settings
  writes := by simp [Projecting.written, kept, stmtSatisfies, projects]

theorem editSettings {e : Edit Uuid EventSettingsProjection} (projects : write.projects = true)
    (kept : e.skipped w.settingsRows = false) (written : w'.settingsRows = e.write w.settingsRows)
    (roles : w'.roleRows = w.roleRows) :
    Projected [.stmt i write result w₁] w w' [] [e] where
  roleRows := roles
  settingsRows := by simp [Edit.apply, kept, written]
  writes := by simp [Projecting.written, kept, stmtSatisfies, projects]

end Projected

def Projects (w w' : World × Log statements World Tx)
    (roles : Time → List (Edit (Uuid × Uuid) EventRoleType))
    (settings : Time → List (Edit Uuid EventSettingsProjection)) : Prop :=
  ∃ steps, w'.2 = steps ++ w.2 ∧ ∀ time,
    (∀ e ∈ steps, stmtSatisfies Stmt.stamps e = true → e.world.clock = time) →
      Projected steps w.1 w'.1 (roles time) (settings time)

theorem Projects.trans {w w₁ w' : World × Log statements World Tx}
    {roles roles' : Time → List (Edit (Uuid × Uuid) EventRoleType)}
    {settings settings' : Time → List (Edit Uuid EventSettingsProjection)}
    (first : Projects w w₁ roles settings) (second : Projects w₁ w' roles' settings') :
    Projects w w' (fun time => roles time ++ roles' time)
      (fun time => settings time ++ settings' time) := by
  obtain ⟨steps, log, projected⟩ := first
  obtain ⟨more, log', projected'⟩ := second
  refine ⟨more ++ steps, by rw [log', log, List.append_assoc], fun time clock => ?_⟩
  rw [List.forall_mem_append] at clock
  exact (projected time clock.2).trans (projected' time clock.1)

theorem handler_projects (find write : Stmt) (value : World → find.Res) {stale : find.Res → Bool}
    {roles : Time → List (Edit (Uuid × Uuid) EventRoleType)}
    {settings : Time → List (Edit Uuid EventSettingsProjection)}
    {w w' : World × Log statements World Tx} {tx' : Option Tx}
    (reading : ∀ w, exec platform find w none = some (value w, w, none))
    (same : ∀ w w', SameProjections w w' → value w' = value w)
    (reads : find.projects = false)
    (skips : ∀ v, stale (value v) = true → ∀ time, Projected [] v v (roles time) (settings time))
    (edits : ∀ v result w₃, stale (value v) = false →
      exec platform write v none = some (result, w₃, none) → ∀ time,
        (write.stamps = true → v.clock = time) →
          Projected [.stmt i write result v] v w₃ (roles time) (settings time))
    (run : Alone ((engine platform).logged i) (fun _ => True)
      (issue find >>= fun row => if stale row then .done () else discard write) none w (.ok ())
      tx' w') :
    tx' = none ∧ Projects w w' roles settings := by
  obtain ⟨closed, found, first, ⟨newer, after, log⟩ |
    ⟨fresh, result, w₂, w₃, before, executed, after, log⟩⟩ := handler_alone reading same run
  · refine ⟨closed, [.stmt i find (value w.1) found], log, fun time _ => ?_⟩
    have unread : [Event.stmt i find (value w.1) found].filter (stmtSatisfies Stmt.projects) = [] := by
      simp [stmtSatisfies, reads]
    simpa using (skips w.1 newer time).trans (.keep after unread)
  · refine ⟨closed, [.stmt i write result w₂, .stmt i find (value w.1) found], log,
      fun time clock => ?_⟩
    have unread : [Event.stmt i find (value w.1) found].filter (stmtSatisfies Stmt.projects) = [] := by
      simp [stmtSatisfies, reads]
    have fresh : stale (value w₂) = false := by rw [same _ _ before, fresh]
    have stamped : write.stamps = true → w₂.clock = time := fun stamps =>
      clock (.stmt i write result w₂) List.mem_cons_self stamps
    have edited := edits w₂ result w₃ fresh executed time stamped
    have read : Projected [Event.stmt i find (value w.1) found] w.1 w₂ [] [] := .keep before unread
    have last : Projected [] w₃ w'.1 [] [] := .keep after rfl
    simpa using (read.trans edited).trans last

end Handlers

section Messages

variable {i : Nat} {w w' : World × Log statements World Tx} {tx' : Option Tx}

theorem roleStamp (w : World) (key : Uuid × Uuid) :
    w.roleRows.stamps key = (w.role key.1 key.2).bind (·.updatedAt) := by
  cases found : w.role key.1 key.2 <;> simp [World.roleRows, Rows.stamps, found]

theorem settingsStamp (w : World) (eventId : Uuid) :
    w.settingsRows.stamps eventId = (w.settings eventId).bind (·.updatedAt) := by
  cases found : w.settings eventId <;> simp [World.settingsRows, Rows.stamps, found]

theorem same_role {w w' : World} (same : SameProjections w w') (eventId userId : Uuid) :
    w'.role eventId userId = w.role eventId userId := by
  simp only [World.role, same.1]

theorem same_settings {w w' : World} (same : SameProjections w w') (eventId : Uuid) :
    w'.settings eventId = w.settings eventId := by
  simp only [World.settings, same.2]

theorem roleRows_upsert {w w₃ : World} {row : EventRoleProjection} {result : Unit} {tx : Option Tx}
    (executed : exec platform (.roleUpsert row) w none = some (result, w₃, tx)) :
    w₃.roleRows = Function.update w.roleRows (row.eventId, row.userId)
      (some (row.role, some w.clock)) ∧ w₃.settingsRows = w.settingsRows := by
  cases executed
  refine ⟨?_, rfl⟩
  funext key
  simp only [World.roleRows, World.role, Table.get?_upsert, Function.update_apply]
  split <;> rfl

theorem roleRows_delete {w w₃ : World} {key : Uuid × Uuid} {result : Unit} {tx : Option Tx}
    (executed : exec platform (.roleDeleteMany fun other => other = key) w none =
      some (result, w₃, tx)) :
    w₃.roleRows = Function.update w.roleRows key none ∧ w₃.settingsRows = w.settingsRows := by
  cases executed
  refine ⟨?_, rfl⟩
  funext other
  simp only [World.roleRows, World.role, Table.get?_erase, Function.update_apply,
    decide_eq_true_eq]
  split <;> rfl

theorem skipped_roleEdit {e : Edit (Uuid × Uuid) EventRoleType} (checked : e.checked = true) (w : World) :
    e.skipped w.roleRows = stale ((w.role e.key.1 e.key.2).bind (·.updatedAt)) e.occurredAt := by
  rw [Edit.skipped, checked, roleStamp, Bool.true_and]
  rfl

theorem skipped_settingsEdit {e : Edit Uuid EventSettingsProjection} (checked : e.checked = true)
    (w : World) :
    e.skipped w.settingsRows = stale ((w.settings e.key).bind (·.updatedAt)) e.occurredAt := by
  rw [Edit.skipped, checked, settingsStamp, Bool.true_and]
  rfl

theorem assign_projects {eventId userId : Uuid} {role : EventRoleType} {occurredAt : Time}
    (run : Alone ((engine platform).logged i) (fun _ => True)
      (issue (.roleFindUnique eventId userId) >>= fun existing : Option EventRoleProjection =>
        if stale (existing.bind (·.updatedAt)) occurredAt then .done ()
        else discard (.roleUpsert (roleRow eventId userId role))) none w (.ok ()) tx' w') :
    tx' = none ∧ Projects w w'
      (fun time => [Delivery.assign (eventId, userId) role occurredAt time]) fun _ => [] := by
  refine handler_projects (.roleFindUnique eventId userId)
    (.roleUpsert (roleRow eventId userId role)) (fun w => w.role eventId userId) (fun _ => rfl)
    (fun w w' same => same_role same eventId userId) rfl ?_ ?_ run
  · intro v newer time
    exact .skipRole ((skipped_roleEdit rfl v).trans newer)
  · intro v result w₃ fresh executed time stamped
    obtain ⟨rows, settings⟩ := roleRows_upsert executed
    refine .editRole rfl ((skipped_roleEdit rfl v).trans fresh) (rows.trans ?_) settings
    rw [stamped rfl]
    rfl

theorem remove_projects {eventId userId : Uuid} {occurredAt : Time}
    (run : Alone ((engine platform).logged i) (fun _ => True)
      (issue (.roleFindUnique eventId userId) >>= fun existing : Option EventRoleProjection =>
        if stale (existing.bind (·.updatedAt)) occurredAt then .done ()
        else discard (.roleDeleteMany fun key => key = (eventId, userId))) none w (.ok ()) tx' w') :
    tx' = none ∧ Projects w w'
      (fun time => [Delivery.remove (eventId, userId) occurredAt time]) fun _ => [] := by
  refine handler_projects (.roleFindUnique eventId userId)
    (.roleDeleteMany fun key => key = (eventId, userId)) (fun w => w.role eventId userId)
    (fun _ => rfl) (fun w w' same => same_role same eventId userId) rfl ?_ ?_ run
  · intro v newer time
    exact .skipRole ((skipped_roleEdit rfl v).trans newer)
  · intro v result w₃ fresh executed time _
    obtain ⟨rows, settings⟩ := roleRows_delete executed
    exact .editRole rfl ((skipped_roleEdit rfl v).trans fresh) rows settings

theorem ownerChanged_projects {payload : EventOwnerChangedDTO}
    (run : Alone ((engine platform).logged i) (fun _ => True) (handleOwnerChanged payload) none w
      (.ok ()) tx' w') :
    tx' = none ∧ Projects w w'
      (fun time => Delivery.roleEdits ⟨.ownerChanged payload, time, 0⟩) fun _ => [] := by
  unfold handleOwnerChanged at run
  cases old : payload.oldOwnerId with
  | none =>
    rw [old] at run
    have promoted := assign_projects run
    simpa [Delivery.roleEdits, old] using promoted
  | some oldOwnerId =>
    rw [old] at run
    rcases run.bind_cases with ⟨error, impossible, -⟩ | ⟨_, tx₁, w₁, removal, promotion⟩
    · cases impossible
    obtain ⟨rfl, removed⟩ := remove_projects removal
    obtain ⟨rfl, promoted⟩ := assign_projects promotion
    have both := removed.trans promoted
    exact ⟨rfl, by simpa [Delivery.roleEdits, old] using both⟩

theorem settingsRows_upsert {w w₃ : World} {row : EventSettingsProjection}
    {data : EventSettingsProjection → EventSettingsProjection} {result : Unit} {tx : Option Tx}
    (executed : exec platform (.settingsUpsert row data) w none = some (result, w₃, tx)) :
    w₃.settingsRows = Function.update w.settingsRows row.eventId
      (some ((((w.settings row.eventId).map fun existing =>
          { data existing with eventId := row.eventId }).getD row).unstamped, some w.clock)) ∧
      w₃.roleRows = w.roleRows := by
  cases executed
  refine ⟨?_, rfl⟩
  funext eventId
  simp only [World.settingsRows, World.settings, Table.get?_upsert, Function.update_apply]
  cases w.store.eventSettings.get? row.eventId <;> by_cases same : eventId = row.eventId <;>
    simp [same, EventSettingsProjection.unstamped]

theorem created_projects {payload : EventCreatedDTO}
    (run : Alone ((engine platform).logged i) (fun _ => True) (handleEventCreated payload) none w
      (.ok ()) tx' w') :
    Projects w w' (fun _ => [])
      (fun time => Delivery.settingsEdits ⟨.eventCreated payload, time, 0⟩) := by
  rcases run.bind_cases with ⟨error, impossible, -⟩ | ⟨result, tx₁, w₁, writes, done⟩
  · cases impossible
  rcases writes.perform_cases with ⟨impossible, -⟩ | ⟨stored, v, v₁, -, before, executed, after⟩
  · cases impossible
  obtain ⟨executed, log⟩ := Engine.logged_exec.mp executed
  obtain ⟨-, -, last⟩ := done.done_cases
  have first := sameProjections_of_later before
  have second := sameProjections_of_later after
  have third := sameProjections_of_later last
  have upserted : exec platform (.settingsUpsert (createdRow payload) fun _ => createdRow payload)
      v.1 none = some (stored, v₁.1, tx₁) := executed
  obtain ⟨settings, roles⟩ := settingsRows_upsert upserted
  refine ⟨[.stmt i (.settingsUpsert (createdRow payload) fun _ => createdRow payload) stored v.1],
    by rw [third.2, second.2, log, first.2, List.singleton_append], fun time clock => ?_⟩
  have stamped : v.1.clock = time := clock _ List.mem_cons_self rfl
  have edited : Projected [.stmt i (.settingsUpsert (createdRow payload) fun _ =>
      createdRow payload) stored v.1] v.1 v₁.1 []
      (Delivery.settingsEdits ⟨.eventCreated payload, time, 0⟩) := by
    refine .editSettings rfl (by simp [Edit.skipped]) (settings.trans ?_) roles
    rw [stamped]
    cases v.1.settings (createdRow payload).eventId <;> rfl
  have read : Projected [] w.1 v.1 [] [] := .keep first.1 rfl
  have rest : Projected [] v₁.1 w'.1 [] [] := .keep (second.1.trans third.1) rfl
  simpa using (read.trans edited).trans rest

theorem updated_projects {payload : EventUpdatedDTO}
    (run : Alone ((engine platform).logged i) (fun _ => True) (handleEventUpdated payload) none w
      (.ok ()) tx' w') :
    Projects w w' (fun _ => [])
      (fun time => Delivery.settingsEdits ⟨.eventUpdated payload, time, 0⟩) := by
  refine (handler_projects (.settingsFindUnique payload.eventId)
    (.settingsUpsert (updatedRow payload) (updatedData payload))
    (fun w => w.settings payload.eventId) (fun _ => rfl)
    (fun w w' same => same_settings same payload.eventId) rfl ?_ ?_ run).2
  · intro v newer time
    exact .skipSettings ((skipped_settingsEdit rfl v).trans newer)
  · intro v result w₃ fresh executed time stamped
    obtain ⟨settings, roles⟩ := settingsRows_upsert executed
    refine .editSettings rfl ((skipped_settingsEdit rfl v).trans fresh) (settings.trans ?_) roles
    rw [stamped rfl]
    cases found : v.settings payload.eventId with
    | none =>
      simp [Edit.write, Edit.outcome, Rows.values, World.settingsRows, updatedRow, found,
        EventSettingsProjection.unstamped]
    | some row =>
      have key : row.eventId = payload.eventId := Table.key_of_get? found
      simp [Edit.write, Edit.outcome, Rows.values, World.settingsRows, updatedRow, found,
        EventSettingsProjection.unstamped, updatedData, key]

theorem message_projects {d : Delivery} (projected : d.message.projected = true) {reply : Reply}
    {number : Nat} (run : Alone ((engine platform).logged i) (fun _ => True) (program platform number d.message) none w
      (.ok reply) tx' w') :
    Projects w w' (fun time => Delivery.roleEdits { d with time })
      fun time => Delivery.settingsEdits { d with time } := by
  have answered {p : Program Unit} {roles : Time → List (Edit (Uuid × Uuid) EventRoleType)}
      {settings : Time → List (Edit Uuid EventSettingsProjection)}
      (projects : ∀ tx₁ w₁, Alone ((engine platform).logged i) (fun _ => True) p none w (.ok ()) tx₁
        w₁ → Projects w w₁ roles settings)
      (run : Alone ((engine platform).logged i) (fun _ => True) (answer p fun _ => .nothing) none w
        (.ok reply) tx' w') : Projects w w' roles settings := by
    rcases run.bind_cases with ⟨error, impossible, -⟩ | ⟨_, tx₁, w₁, handled, done⟩
    · cases impossible
    obtain ⟨-, -, last⟩ := done.done_cases
    obtain ⟨same, log⟩ := sameProjections_of_later last
    obtain ⟨steps, recorded, edits⟩ := projects tx₁ w₁ handled
    refine ⟨steps, log.trans recorded, fun time clock => ?_⟩
    have rest : Projected [] w₁.1 w'.1 [] [] := .keep same rfl
    simpa using (edits time clock).trans rest
  obtain ⟨message, time, writes⟩ := d
  cases message with
  | roleAssigned payload => exact answered (fun _ _ handled => (assign_projects handled).2) run
  | roleRemoved payload => exact answered (fun _ _ handled => (remove_projects handled).2) run
  | ownerChanged payload => exact answered (fun _ _ handled => (ownerChanged_projects handled).2) run
  | eventCreated payload => exact answered (fun _ _ handled => created_projects handled) run
  | eventUpdated payload => exact answered (fun _ _ handled => updated_projects handled) run
  | _ => cases projected

variable {c c' : ServiceState} {d : Delivery}

theorem Delivered.edits (delivered : Delivered platform c d c') :
    c'.shared.world.roleRows = d.roleEdits.foldl Edit.apply c.shared.world.roleRows ∧
      c'.shared.world.settingsRows =
        d.settingsEdits.foldl Edit.apply c.shared.world.settingsRows ∧
      d.writes = written c.shared.world.roleRows d.roleEdits +
        written c.shared.world.settingsRows d.settingsEdits := by
  obtain ⟨projected, ⟨begun, invoked, runs⟩, returned, -, steps, recorded, clock, count⟩ := delivered
  obtain ⟨⟨prog, tx⟩, last, ended⟩ := Option.bind_eq_some_iff.mp returned
  cases invoked
  have stopped : System.Stopped ⟨prog, tx⟩ (.ok Reply.nothing) := by
    refine ⟨?_, by simp⟩
    cases prog with
    | done value =>
      cases ended
      rfl
    | _ => cases ended
  have first : (c.threads ++ [Thread.mk (program platform c.shared.calls.length d.message)
      (none : Option Tx)])[c.threads.length]? = some ⟨program platform c.shared.calls.length
        d.message, none⟩ := by simp
  have run : Alone ((engine platform).logged c.threads.length) (fun _ => True)
      (program platform c.shared.calls.length d.message) none c.shared.logged (.ok .nothing) tx
      c'.shared.logged := runs.alone first last stopped
  obtain ⟨made, log, edits⟩ := message_projects projected run
  -- What the handler has recorded is `steps` without rollbacks.
  have same : made = steps.filter fun e => !e.isRollback := by
    have whole : c'.shared.logged.2 = steps.filter (fun e => !e.isRollback) ++ c.shared.logged.2 := by
      simp [Shared.logged, recorded]
    exact List.append_cancel_right (log.symm.trans whole)
  have counted : (made.filter (stmtSatisfies Stmt.projects)).length = d.writes := by
    rw [← count, same, List.filter_filter]
    congr 2
    funext e
    cases e <;> simp [stmtSatisfies, Event.isRollback]
  have result := edits d.time fun e member stamps =>
    clock e (List.mem_filter.mp (same ▸ member)).1 stamps
  exact ⟨result.roleRows, result.settingsRows, counted.symm.trans result.writes⟩

end Messages

end TicketService
