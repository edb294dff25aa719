import TicketService.Properties.Reads

set_option autoImplicit false

namespace TicketService

open Interleaving Relational EventRoleHandler

variable {platform : Platform} {calls : List Call} {eventId userId : Uuid} {g g' : Global}

def oneAtATime : List Nat → Bool
  | [] => true
  | i :: rest => decide (i ∈ rest → rest.head? = some i) && oneAtATime rest

def EventAccessDTO.concerns (payload : EventAccessDTO) (eventId userId : Uuid) : Bool :=
  payload.eventId = eventId ∧ payload.userId = userId

def handles (calls : List Call) (eventId userId : Uuid) (i : Nat) : Bool :=
  match calls[i]? with
  | some (.userAccessChanged payload) => payload.concerns eventId userId
  | _ => false

def handlers (calls : List Call) (eventId userId : Uuid) (g : Global) : List Nat :=
  (g.history.map Event.thread).filter (handles calls eventId userId)

theorem handlers_record {e : Event statements World Tx} (recorded : g'.history = e :: g.history) :
    handlers calls eventId userId g' =
      if handles calls eventId userId e.thread then e.thread :: handlers calls eventId userId g
      else handlers calls eventId userId g := by
  simp [handlers, recorded, List.filter_cons]

theorem handles_of_called {i : Nat} {payload : EventAccessDTO}
    (called : calls[i]? = some (.userAccessChanged payload))
    (concerns : payload.concerns eventId userId) : handles calls eventId userId i := by
  simp [handles, called, concerns]

theorem mem_handlers {i : Nat} {stmt : Stmt} {result : stmt.Res} {P : World → Prop}
    (seen : Seen g i stmt result P) (handles : handles calls eventId userId i) :
    i ∈ handlers calls eventId userId g := by
  obtain ⟨w, member, -⟩ := seen
  exact List.mem_filter.mpr ⟨List.mem_map.mpr ⟨_, member, rfl⟩, handles⟩

theorem head_of_serial {i : Nat} (serial : oneAtATime (handlers calls eventId userId g'))
    {e : Event statements World Tx} (recorded : g'.history = e :: g.history) (own : e.thread = i)
    (handled : handles calls eventId userId i) (before : i ∈ handlers calls eventId userId g) :
    (handlers calls eventId userId g).head? = some i := by
  subst own
  rw [handlers_record recorded, if_pos handled] at serial
  simp only [oneAtATime, Bool.and_eq_true, decide_eq_true_eq] at serial
  exact serial.1 before

theorem accessRow_injective {payload payload' : EventAccessDTO}
    (same : accessRow payload = accessRow payload') : payload = payload' := by
  simp only [accessRow, EventAccessProjection.mk.injEq, Option.some.injEq] at same
  obtain ⟨event, user, permissions, roles, occurredAt, -⟩ := same
  cases payload
  cases payload'
  simp_all

theorem accessUpserted_columns (w : World) (payload : EventAccessDTO) :
    (w.accessUpserted (accessRow payload) (accessData payload)).eventId = payload.eventId ∧
      (w.accessUpserted (accessRow payload) (accessData payload)).userId = payload.userId ∧
      (w.accessUpserted (accessRow payload) (accessData payload)).permissions = payload.permissions ∧
      (w.accessUpserted (accessRow payload) (accessData payload)).occurredAt = some payload.occurredAt := by
  unfold World.accessUpserted
  split <;> exact ⟨rfl, rfl, rfl, rfl⟩

def Stored (g : Global) (i : Nat) (payload : EventAccessDTO) : Prop :=
  ∃ result, Seen g i (.accessUpsert (accessRow payload) (accessData payload)) result fun _ => True

def Found (eventId userId : Uuid) (g : Global) (i : Nat)
    (existing : Option EventAccessProjection) : Prop :=
  Seen g i (.accessFindUnique eventId userId) existing fun w => w.access eventId userId = existing

def Origin (eventId userId : Uuid) (g : Global) (row : Option EventAccessProjection) : Prop :=
  ∀ found, row = some found → ∃ i payload, payload.concerns eventId userId ∧ Stored g i payload ∧
    found.permissions = payload.permissions ∧ found.occurredAt = some payload.occurredAt

-- The message is not newer than the row.
def Covers (row : Option EventAccessProjection) (payload : EventAccessDTO) : Prop :=
  ∃ time, row.bind (·.occurredAt) = some time ∧ payload.occurredAt ≤ time

structure Converging (calls : List Call) (eventId userId : Uuid) (g : Global) : Prop where
  called : ∀ i payload, Stored g i payload → calls[i]? = some (.userAccessChanged payload)
  origin : Origin eventId userId g (g.world.access eventId userId)
  newest : ∀ i payload, payload.concerns eventId userId → Stored g i payload →
    Covers (g.world.access eventId userId) payload
  found : ∀ i existing, Found eventId userId g i existing → Origin eventId userId g existing
  -- What the handler at work has found is still the newest, but for what it has stored itself.
  active : ∀ i existing, (handlers calls eventId userId g).head? = some i →
    Found eventId userId g i existing → ∀ j payload, payload.concerns eventId userId →
      Stored g j payload → Covers existing payload ∨ calls[i]? = some (.userAccessChanged payload)

theorem Seen.mono {i : Nat} {stmt : Stmt} {result : stmt.Res} {P : World → Prop}
    (seen : Seen g i stmt result P) (kept : ∀ e ∈ g.history, e ∈ g'.history) :
    Seen g' i stmt result P := by
  obtain ⟨w, member, holds⟩ := seen
  exact ⟨w, kept _ member, holds⟩

theorem Seen.earlier {i : Nat} {stmt : Stmt} {result : stmt.Res} {P : World → Prop}
    (seen : Seen g' i stmt result P) {e : Event statements World Tx}
    (recorded : g'.history = e :: g.history) :
    Seen g i stmt result P ∨ ∃ w, e = .stmt i stmt result w ∧ P w := by
  obtain ⟨w, member, holds⟩ := seen
  rw [recorded] at member
  rcases List.mem_cons.mp member with rfl | before
  · exact .inr ⟨w, rfl, holds⟩
  · exact .inl ⟨w, before, holds⟩

theorem history_kept {e : Event statements World Tx} (recorded : g'.history = e :: g.history) :
    ∀ e ∈ g.history, e ∈ g'.history := by
  intro e member
  rw [recorded]
  exact List.mem_cons_of_mem _ member

theorem Stored.cases {i j : Nat} {payload other : EventAccessDTO} {w : World}
    {e : Event statements World Tx} (stored : Stored g' j other)
    (recorded : g'.history = e :: g.history)
    (upsert : e = .stmt i (.accessUpsert (accessRow payload) (accessData payload)) () w) :
    Stored g j other ∨ j = i ∧ other = payload := by
  obtain ⟨result, seen⟩ := stored
  rcases seen.earlier recorded with before | ⟨w', same, -⟩
  · exact .inl ⟨result, before⟩
  · rw [upsert] at same
    injection same with number stmt
    exact .inr ⟨number.symm, accessRow_injective (Stmt.accessUpsert.inj stmt).1.symm⟩

theorem Stored.mono {i : Nat} {payload : EventAccessDTO} (stored : Stored g i payload)
    (kept : ∀ e ∈ g.history, e ∈ g'.history) : Stored g' i payload := by
  obtain ⟨result, seen⟩ := stored
  exact ⟨result, seen.mono kept⟩

theorem Origin.mono {row : Option EventAccessProjection} (origin : Origin eventId userId g row)
    (kept : ∀ e ∈ g.history, e ∈ g'.history) : Origin eventId userId g' row := by
  intro found present
  obtain ⟨i, payload, concerns, stored, columns⟩ := origin found present
  exact ⟨i, payload, concerns, stored.mono kept, columns⟩

section Steps

variable {e : Event statements World Tx} (recorded : g'.history = e :: g.history)
  (serial : oneAtATime (handlers calls eventId userId g'))

include recorded serial

theorem Converging.keep (converging : Converging calls eventId userId g) (world : e.world = g.world)
    (same : g'.world.access eventId userId = g.world.access eventId userId)
    (elsewhere : ∀ i payload result w,
      e = .stmt i (Stmt.accessUpsert (accessRow payload) (accessData payload)) result w →
        calls[i]? = some (.userAccessChanged payload) ∧ payload.concerns eventId userId = false) :
    Converging calls eventId userId g' := by
  have kept := history_kept recorded
  have unstored (i : Nat) (payload : EventAccessDTO) (concerns : payload.concerns eventId userId)
      (stored : Stored g' i payload) : Stored g i payload := by
    obtain ⟨result, seen⟩ := stored
    rcases seen.earlier recorded with before | ⟨w, same, -⟩
    · exact ⟨result, before⟩
    · rw [(elsewhere i payload result w same).2] at concerns
      cases concerns
  constructor
  case called =>
    intro i payload stored
    obtain ⟨result, seen⟩ := stored
    rcases seen.earlier recorded with before | ⟨w, same, -⟩
    · exact converging.called i payload ⟨result, before⟩
    · exact (elsewhere i payload result w same).1
  case origin =>
    rw [same]
    exact converging.origin.mono kept
  case newest =>
    intro i payload concerns stored
    rw [same]
    exact converging.newest i payload concerns (unstored i payload concerns stored)
  case found =>
    intro i existing found
    rcases found.earlier recorded with before | ⟨w, rfl, read⟩
    · exact (converging.found i existing before).mono kept
    · rw [← read, show w = g.world from world]
      exact converging.origin.mono kept
  case active =>
    intro i existing last found j payload concerns stored
    have stored := unstored j payload concerns stored
    rcases found.earlier recorded with before | ⟨w, rfl, read⟩
    · by_cases handled : handles calls eventId userId e.thread
      · rw [handlers_record recorded, if_pos handled] at last
        have own : e.thread = i := Option.some.inj last
        rw [own] at handled
        have head := head_of_serial serial recorded own handled (mem_handlers before handled)
        exact converging.active i existing head before j payload concerns stored
      · rw [handlers_record recorded, if_neg handled] at last
        exact converging.active i existing last before j payload concerns stored
    · left
      rw [← read, show w = g.world from world]
      exact converging.newest j payload concerns stored

theorem Converging.store (converging : Converging calls eventId userId g) {i : Nat}
    {payload : EventAccessDTO} {existing : Option EventAccessProjection} {w : World}
    (upsert : e = .stmt i (.accessUpsert (accessRow payload) (accessData payload)) () w)
    (concerns : payload.concerns eventId userId)
    (called : calls[i]? = some (.userAccessChanged payload))
    (found : Found eventId userId g i existing)
    (fresh : stale (existing.bind (·.occurredAt)) payload.occurredAt = false)
    (written : ∃ row, g'.world.access eventId userId = some row ∧
      row.permissions = payload.permissions ∧ row.occurredAt = some payload.occurredAt) :
    Converging calls eventId userId g' := by
  have kept := history_kept recorded
  obtain ⟨row, written, permissions, occurredAt⟩ := written
  have own : e.thread = i := by rw [upsert]; rfl
  have handled : handles calls eventId userId i := handles_of_called called concerns
  have head := head_of_serial serial recorded own handled (mem_handlers found handled)
  have here : Stored g' i payload := by
    refine ⟨(), w, ?_, trivial⟩
    rw [recorded, upsert]
    exact List.mem_cons_self
  constructor
  case called =>
    intro j other stored
    rcases stored.cases recorded upsert with before | ⟨rfl, rfl⟩
    · exact converging.called j other before
    · exact called
  case origin =>
    intro found present
    rw [written] at present
    cases present
    exact ⟨i, payload, concerns, here, permissions, occurredAt⟩
  case newest =>
    intro j other concerns' stored
    refine ⟨payload.occurredAt, by rw [written]; exact occurredAt, ?_⟩
    rcases stored.cases recorded upsert with before | ⟨-, rfl⟩
    · rcases converging.active i existing head found j other concerns' before with
        ⟨time, newest, older⟩ | same
      · simp only [stale, newest, Option.any_some, decide_eq_false_iff_not] at fresh
        exact Nat.le_trans older (Nat.not_lt.mp fresh)
      · rw [called] at same
        cases same
        exact Nat.le_refl _
    · exact Nat.le_refl _
  case found =>
    intro j row read
    rcases read.earlier recorded with before | ⟨w', same, -⟩
    · exact (converging.found j row before).mono kept
    · rw [upsert] at same
      cases same
  case active =>
    intro j row last read k other concerns' stored
    rw [handlers_record recorded, own, if_pos handled] at last
    cases last
    rcases stored.cases recorded upsert with before | ⟨-, rfl⟩
    · rcases read.earlier recorded with read | ⟨w', same, -⟩
      · exact converging.active i row head read k other concerns' before
      · rw [upsert] at same
        cases same
    · exact .inr called

end Steps

theorem Converging.still (converging : Converging calls eventId userId g)
    (history : g'.history = g.history)
    (same : g'.world.access eventId userId = g.world.access eventId userId) :
    Converging calls eventId userId g' := by
  obtain ⟨called, origin, newest, found, active⟩ := converging
  constructor
  case called => simpa only [Stored, Seen, history] using called
  case origin => simpa only [Origin, Stored, Seen, history, same] using origin
  case newest => simpa only [Stored, Seen, history, same] using newest
  case found => simpa only [Found, Origin, Stored, Seen, history] using found
  case active => simpa only [handlers, Found, Stored, Seen, history] using active

theorem serial_before {e : Event statements World Tx} (recorded : g'.history = e :: g.history)
    (serial : oneAtATime (handlers calls eventId userId g')) :
    oneAtATime (handlers calls eventId userId g) := by
  rw [handlers_record recorded] at serial
  split at serial
  · exact (Bool.and_eq_true_iff.mp serial).2
  · exact serial

def Converges (calls : List Call) (eventId userId : Uuid) (g : Global) : Prop :=
  (∀ (j : Nat) (call : Call), g.calls[j]? = some call → calls[j]? = some call) →
    oneAtATime (handlers calls eventId userId g) → Converging calls eventId userId g

theorem Change.converges {actor : Option Nat} (change : Change platform actor g g')
    (undeleted : ∀ eventIds, .eventDeleted eventIds ∈ calls → eventId ∉ eventIds)
    (before : Converges calls eventId userId g) : Converges calls eventId userId g' := by
  intro within serial
  have known (j : Nat) (call : Call) (called : g.calls[j]? = some call) : calls[j]? = some call :=
    within j call (change.extends.calls j call called)
  cases change with
  | invoke call => exact (before known serial).still rfl rfl
  | environ action => exact (before known serial).still rfl (by cases action <;> rfl)
  | commit i tx commits first =>
    have access : (tx.apply g.world.store).eventAccess = g.world.store.eventAccess :=
      (Tx.apply_kept tx _).2
    refine (before known (serial_before rfl serial)).keep rfl serial rfl ?_ nofun
    exact congrArg (fun rows => rows.get? (eventId, userId)) access
  | rollback i => exact (before known (serial_before rfl serial)).keep rfl serial rfl rfl nofun
  | stmt i stmt result w tx tx' executed issued =>
    have converging := before known (serial_before rfl serial)
    cases writes : stmt.writesAccess with
    | false =>
      refine converging.keep rfl serial rfl ?_ ?_
      · exact congrArg (fun rows => rows.get? (eventId, userId)) ((exec_kept executed).2 writes)
      · intro j payload result' w' same
        cases same
        have writes : true = false := writes
        cases writes
    | true =>
      cases stmt with
      | accessUpsert row data =>
        obtain ⟨payload, existing, called, read, fresh, rfl, rfl⟩ := issued
        cases executed
        obtain ⟨event, user, permissions, occurredAt⟩ := accessUpserted_columns g.world payload
        by_cases concerns : payload.concerns eventId userId
        · obtain ⟨rfl, rfl⟩ : payload.eventId = eventId ∧ payload.userId = userId := by
            simpa [EventAccessDTO.concerns] using concerns
          refine converging.store rfl serial rfl concerns (known i _ called) read fresh ?_
          refine ⟨_, (Table.get?_upsert _).trans (if_pos ?_), permissions, occurredAt⟩
          rw [event, user]
        · refine converging.keep rfl serial rfl ?_ ?_
          · refine (Table.get?_upsert _).trans (if_neg fun same => concerns ?_)
            rw [event, user] at same
            obtain ⟨rfl, rfl⟩ := Prod.mk.inj same
            simp [EventAccessDTO.concerns]
          · intro j other result' w' same
            injection same with number stmt
            obtain rfl := number
            obtain rfl := accessRow_injective (Stmt.accessUpsert.inj stmt).1
            exact ⟨known i _ called, by simpa using concerns⟩
      | accessDeleteMany eventIds =>
        have kept := undeleted eventIds (List.mem_of_getElem? (known i _ issued))
        cases executed
        refine converging.keep rfl serial rfl ?_ ?_
        · exact (Table.get?_erase _).trans (if_neg (by simpa using kept))
        · intro j payload result' w' same
          cases same
      | _ => cases writes

theorem reachable_converging {w : World} (pristine : Pristine w)
    (absent : w.access eventId userId = none) {c : ServiceState}
    (reachable : (service platform).Reachable w c)
    (undeleted : ∀ eventIds, .eventDeleted eventIds ∈ c.shared.calls → eventId ∉ eventIds)
    (serial : oneAtATime (handlers c.shared.calls eventId userId c.shared)) :
    Converging c.shared.calls eventId userId c.shared := by
  have begun : Converges c.shared.calls eventId userId ((service platform).initial w).shared := by
    intro _ _
    have unstored (i : Nat) (payload : EventAccessDTO) :
        ¬Stored ((service platform).initial w).shared i payload := by
      rintro ⟨result, w', member, -⟩
      cases member
    refine ⟨fun i payload stored => absurd stored (unstored i payload), ?_,
      fun i payload _ stored => absurd stored (unstored i payload), ?_, ?_⟩
    · intro found present
      rw [show ((service platform).initial w).shared.world = w from rfl, absent] at present
      cases present
    · rintro i existing ⟨w', member, -⟩
      cases member
    · intro i existing last
      cases last
  exact reachable_invariant pristine reachable (Converges c.shared.calls eventId userId) begun
    (fun _ _ _ _ before change => change.converges undeleted before) (fun _ _ called => called) serial

-- Every other access message for the user and the event is older.
def Newest (calls : List Call) (message : EventAccessDTO) : Prop :=
  ∀ other, .userAccessChanged other ∈ calls → other.concerns message.eventId message.userId →
    other ≠ message → other.occurredAt < message.occurredAt

theorem Converging.access {message : EventAccessDTO} {i : Nat}
    (converging : Converging calls message.eventId message.userId g)
    (newest : Newest calls message) (handled : Handled g i message) :
    ∃ row, g.world.access message.eventId message.userId = some row ∧
      row.permissions = message.permissions := by
  have concerns : message.concerns message.eventId message.userId := by
    simp [EventAccessDTO.concerns]
  -- A message that is at least as new has been stored.
  have stored : ∃ j other, other.concerns message.eventId message.userId ∧ Stored g j other ∧
      message.occurredAt ≤ other.occurredAt := by
    rcases handled with ⟨result, seen⟩ | ⟨existing, found, newer⟩
    · exact ⟨i, message, concerns, ⟨result, seen⟩, Nat.le_refl _⟩
    · obtain ⟨time, present, later⟩ := (Option.any_eq_true _ _).mp newer
      obtain ⟨row, rfl, occurredAt⟩ := Option.bind_eq_some_iff.mp present
      obtain ⟨j, other, concerned, seen, -, same⟩ := converging.found i _ found row rfl
      rw [occurredAt] at same
      cases same
      exact ⟨j, other, concerned, seen, Nat.le_of_lt (of_decide_eq_true later)⟩
  obtain ⟨j, other, concerned, seen, atLeast⟩ := stored
  obtain ⟨time, covers, older⟩ := converging.newest j other concerned seen
  obtain ⟨row, present, occurredAt⟩ := Option.bind_eq_some_iff.mp covers
  obtain ⟨k, last, concerned', seen', permissions, same⟩ := converging.origin row present
  rw [occurredAt] at same
  cases same
  have sent : .userAccessChanged last ∈ calls := List.mem_of_getElem? (converging.called k last seen')
  by_cases equal : last = message
  · exact ⟨row, present, by rw [permissions, equal]⟩
  · have earlier := newest last sent concerned' equal
    exact absurd (Nat.le_trans atLeast older) (Nat.not_le.mpr earlier)

open TicketEventRoleResolver in
/-- Once the newest access message for a user and an event has been handled, the permissions are
those of this message, whatever other messages have been and are being delivered. -/
theorem permissions_converge {w : World} (pristine : Pristine w) {c : ServiceState}
    (reachable : (service platform).Reachable w c) {message : EventAccessDTO}
    (absent : w.access message.eventId message.userId = none)
    (undeleted : ∀ eventIds, .eventDeleted eventIds ∈ c.shared.calls → message.eventId ∉ eventIds)
    (serial : oneAtATime (handlers c.shared.calls message.eventId message.userId c.shared))
    (newest : Newest c.shared.calls message) {i : Nat} {reply : Reply}
    (called : c.shared.calls[i]? = some (.userAccessChanged message))
    (returned : c.threads[i]?.bind Thread.returned = some reply) :
    Answers platform (getPermissionsForUser platform message.userId message.eventId) c.shared.world
      (.ok (platform.uniqueEventPermissions message.permissions)) := by
  have converging := reachable_converging pristine absent reachable undeleted serial
  have handled : Handled c.shared i message :=
    reachable_returned pristine reachable returned _ called
  obtain ⟨row, present, permissions⟩ := converging.access newest handled
  have same : permissionsOf platform c.shared.world message.userId message.eventId =
      platform.uniqueEventPermissions message.permissions := by
    simp [permissionsOf, present, permissions]
  rw [← same]
  exact answers_getPermissionsForUser message.userId message.eventId

section Removal

open Sample

def granting : EventAccessDTO := { access ["ScanTickets"] with occurredAt := 5 }

def removing : EventAccessDTO := { access [] with occurredAt := 9 }

def promotion : EventRoleAssignedDTO where
  eventId := event
  userId := staff
  role := .admin
  occurredAt := 12

def deliveries : List ServiceAct :=
  call 0 (.userAccessChanged removing) 2 ++
    [.invoke (.userAccessChanged granting), .step 1, .invoke (.roleAssigned promotion), .step 2,
      .step 2, .step 1] ++
    call 3 (.userAccessChanged removing) 2

theorem deliveries_calls : (run deliveries).shared.calls =
    [.userAccessChanged removing, .userAccessChanged granting, .roleAssigned promotion,
      .userAccessChanged removing] := by
  decide +kernel

open TicketEventRoleResolver in
theorem permissions_converge_removed :
    Answers deployment (getPermissionsForUser deployment staff event) (run deliveries).shared.world
      (.ok []) := by
  have called : (run deliveries).shared.calls[0]? = some (.userAccessChanged removing) := by
    rw [deliveries_calls]
    rfl
  have returned : (run deliveries).threads[0]?.bind Thread.returned = some .nothing := by
    decide +kernel
  refine permissions_converge pristine_empty (reachable_run deliveries) rfl ?_ ?_ ?_ called returned
  · intro eventIds member
    simp [deliveries_calls] at member
  · decide +kernel
  · intro other member _ different
    have sent : other = removing ∨ other = granting ∨ other = removing := by
      simpa [deliveries_calls] using member
    rcases sent with rfl | rfl | rfl
    · exact absurd rfl different
    · decide
    · exact absurd rfl different

end Removal

end TicketService
