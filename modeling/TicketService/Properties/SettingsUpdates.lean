import TicketService.Properties.RoleRemoval

set_option autoImplicit false

namespace TicketService

open EventRoleHandler EventSettingsHandler Interleaving Projecting Relational VerifyService

variable {platform : Platform} {c c₁ c₂ s s' : ServiceState} {d update : Delivery}
  {ds : List Delivery} {eventId : Uuid}

inductive SettingsField where
  | name
  | endsAt
  | startsAt
  | ticketReleaseAt
deriving DecidableEq, Repr

namespace SettingsField

def read : SettingsField → EventSettingsProjection → Option String ⊕ Option Time
  | .name, row => .inl row.name
  | .endsAt, row => .inr row.endsAt
  | .startsAt, row => .inr row.startsAt
  | .ticketReleaseAt, row => .inr row.ticketReleaseAt

def carried : SettingsField → EventUpdatedDTO → Bool
  | .name, payload => payload.name.isSome
  | .endsAt, payload => payload.endsAt.isSome
  | .startsAt, payload => payload.startsAt.isSome
  | .ticketReleaseAt, payload => payload.ticketReleaseAt.isSome

def stored (field : SettingsField) (w : World) (eventId : Uuid) :
    Option (Option String ⊕ Option Time) :=
  (w.settings eventId).map field.read

theorem stored_rows (field : SettingsField) (w : World) (eventId : Uuid) :
    field.stored w eventId = (w.settingsRows.values eventId).map field.read := by
  cases found : w.settings eventId with
  | none => simp [stored, World.settingsRows, Rows.values, found]
  | some row => cases field <;> simp [stored, World.settingsRows, Rows.values, found,
      EventSettingsProjection.unstamped, read]

theorem read_updatedData (field : SettingsField) (payload : EventUpdatedDTO)
    (row : EventSettingsProjection) : field.read (updatedData payload row) =
      if field.carried payload then field.read (updatedRow payload) else field.read row := by
  cases field with
  | name => cases h : payload.name <;> simp [read, carried, updatedData, updatedRow, h]
  | endsAt => cases h : payload.endsAt <;> simp [read, carried, updatedData, updatedRow, h]
  | startsAt => cases h : payload.startsAt <;> simp [read, carried, updatedData, updatedRow, h]
  | ticketReleaseAt =>
    cases h : payload.ticketReleaseAt <;> simp [read, carried, updatedData, updatedRow, h]

end SettingsField

theorem settings_kept {edits : List (Edit Uuid EventSettingsProjection)}
    {rows : Rows Uuid EventSettingsProjection} (keeps : ∀ e ∈ edits, e.removes = false)
    (present : (rows.values eventId).isSome) :
    ((edits.foldl Edit.apply rows).values eventId).isSome := by
  induction edits generalizing rows with
  | nil => exact present
  | cons e rest ih =>
    rw [List.forall_mem_cons] at keeps
    refine ih keeps.2 ?_
    unfold Edit.apply
    split
    · exact present
    · rw [Edit.values_write]
      by_cases same : eventId = e.key
      · subst same
        simp [Edit.fold, Edit.outcome, keeps.1]
      · simpa [Edit.fold, same] using present

theorem settingsEdits_keep (d : Delivery) : ∀ e ∈ d.settingsEdits, e.removes = false := by
  obtain ⟨message, time, writes⟩ := d
  intro e member
  cases message with
  | eventCreated payload =>
    obtain rfl := List.mem_singleton.mp member
    rfl
  | eventUpdated payload =>
    obtain rfl := List.mem_singleton.mp member
    rfl
  | _ => cases member

theorem Delivered.keepsSettings (delivered : Delivered platform c d c₁)
    (present : (c.shared.world.settings eventId).isSome) :
    (c₁.shared.world.settings eventId).isSome := by
  have same (w : World) : (w.settingsRows.values eventId).isSome = (w.settings eventId).isSome := by
    simp [World.settingsRows, Rows.values]
  rw [← same] at present ⊢
  rw [delivered.edits.2.1]
  exact settings_kept (settingsEdits_keep d) present

theorem Deliveries.keepsSettings (deliveries : Deliveries platform c ds c₁)
    (present : (c.shared.world.settings eventId).isSome) :
    (c₁.shared.world.settings eventId).isSome := by
  induction deliveries with
  | nil => exact present
  | cons delivered _ ih => exact ih (delivered.keepsSettings present)

theorem Delivered.created {payload : EventCreatedDTO} (field : SettingsField)
    (delivered : Delivered platform s d s') (message : d.message = .eventCreated payload) :
    field.stored s'.shared.world payload.eventId = some (field.read (createdRow payload)) := by
  obtain ⟨_, time, writes⟩ := d
  cases message
  rw [field.stored_rows, delivered.edits.2.1]
  simp [Delivery.settingsEdits, Edit.apply, Edit.skipped, Edit.values_write, Edit.fold, Edit.outcome]

theorem Delivered.settingsRows_updated {payload : EventUpdatedDTO}
    (delivered : Delivered platform s d s') (message : d.message = .eventUpdated payload)
    (fresh : stale ((s.shared.world.settings payload.eventId).bind (·.updatedAt))
      payload.occurredAt = false) :
    s'.shared.world.settingsRows.values payload.eventId =
      some (((s.shared.world.settingsRows.values payload.eventId).map (updatedData payload)).getD
        (updatedRow payload)) := by
  obtain ⟨_, time, writes⟩ := d
  cases message
  rw [delivered.edits.2.1]
  simp only [Delivery.settingsEdits, List.foldl_cons, List.foldl_nil, Edit.apply]
  rw [skipped_settingsEdit rfl, fresh]
  simp [Edit.values_write, Edit.fold, Edit.outcome]

theorem Delivered.updates {payload : EventUpdatedDTO} {field : SettingsField}
    (delivered : Delivered platform s d s') (message : d.message = .eventUpdated payload)
    (fresh : stale ((s.shared.world.settings payload.eventId).bind (·.updatedAt))
      payload.occurredAt = false) (carried : field.carried payload = true) :
    field.stored s'.shared.world payload.eventId = some (field.read (updatedRow payload)) := by
  rw [field.stored_rows, delivered.settingsRows_updated message fresh]
  cases s.shared.world.settingsRows.values payload.eventId with
  | none => rfl
  | some row => simp [field.read_updatedData, carried]

theorem Delivered.keepsField {payload : EventUpdatedDTO} {field : SettingsField}
    (delivered : Delivered platform s d s') (message : d.message = .eventUpdated payload)
    (present : (s.shared.world.settings payload.eventId).isSome)
    (kept : stale ((s.shared.world.settings payload.eventId).bind (·.updatedAt))
      payload.occurredAt = true ∨ field.carried payload = false) :
    field.stored s'.shared.world payload.eventId = field.stored s.shared.world payload.eventId := by
  cases newer : stale ((s.shared.world.settings payload.eventId).bind (·.updatedAt))
      payload.occurredAt with
  | true =>
    obtain ⟨_, time, writes⟩ := d
    cases message
    rw [field.stored_rows, field.stored_rows, delivered.edits.2.1]
    simp only [Delivery.settingsEdits, List.foldl_cons, List.foldl_nil, Edit.apply]
    rw [skipped_settingsEdit rfl, newer, if_pos rfl]
  | false =>
    have absent : field.carried payload = false := kept.resolve_left (by simp [newer])
    obtain ⟨row, found⟩ := Option.isSome_iff_exists.mp present
    have value : s.shared.world.settingsRows.values payload.eventId = some row.unstamped := by
      simp [Rows.values, World.settingsRows, found]
    rw [field.stored_rows, field.stored_rows, delivered.settingsRows_updated message newer, value]
    simp [field.read_updatedData, absent]

def World.endedAt (w : World) (eventId : Uuid) (now : Time) : Bool :=
  ((w.settings eventId).bind (·.endsAt)).any (· < now)

theorem eventEnded_decides {ticket : Ticket} {w w' : World} {tx tx' : Option Tx} {ended : Bool}
    (run : Executes platform (eventEnded ticket .entry) tx w (.ok ended) tx' w') :
    ∃ now, w.clock ≤ now ∧ now ≤ w'.clock ∧ ended = w.endedAt ticket.eventId now := by
  have later {v v' : World} (passed : Alone.Later (engine platform) Ticks v v') :
      v'.store = v.store ∧ v.clock ≤ v'.clock := by
    induction passed with
    | refl => exact ⟨rfl, Nat.le_refl _⟩
    | tail _ last ih =>
      obtain ⟨action, allowed, rfl⟩ := last
      cases action with
      | tick ms => exact ⟨ih.1, Nat.le_trans ih.2 (Nat.le_add_right _ _)⟩
      | _ => exact allowed.elim
  rcases run.bind_cases with ⟨error, impossible, -⟩ | ⟨settings, tx₁, w₁, read, rest⟩
  · cases impossible
  rcases read.perform_cases with ⟨impossible, -⟩ | ⟨found, v, v', returned, before, executed, after⟩
  · cases impossible
  cases executed
  obtain rfl : settings = v.settings ticket.eventId := Except.ok.inj returned
  obtain ⟨sameBefore, clockBefore⟩ := later before
  obtain ⟨sameAfter, clockAfter⟩ := later after
  have same : v.settings ticket.eventId = w.settings ticket.eventId := by
    simp only [World.settings, sameBefore]
  rw [same] at rest
  unfold World.endedAt
  cases endsAt : (w.settings ticket.eventId).bind (·.endsAt) with
  | none =>
    simp only [endsAt] at rest
    obtain ⟨returned, -, last⟩ := rest.done_cases
    refine ⟨w'.clock, ?_, Nat.le_refl _, Except.ok.inj returned⟩
    exact Nat.le_trans clockBefore (Nat.le_trans clockAfter (later last).2)
  | some time =>
    simp only [endsAt] at rest
    rcases rest.bind_cases with ⟨error, impossible, -⟩ | ⟨now, tx₂, w₂, read, done⟩
    · cases impossible
    rcases read.perform_cases with ⟨impossible, -⟩ | ⟨found, u, u', returned, before, executed, after⟩
    · cases impossible
    cases executed
    obtain rfl : now = u.clock := Except.ok.inj returned
    obtain ⟨returned, -, last⟩ := done.done_cases
    refine ⟨u.clock, ?_, ?_, Except.ok.inj returned⟩
    · exact Nat.le_trans clockBefore (Nat.le_trans clockAfter (later before).2)
    · exact Nat.le_trans (later after).2 (later last).2

-- A message that some update at `T` supersedes; `event.created` is the oldest of its event.
def Delivery.superseded (d : Delivery) (eventId : Uuid) (T : Time) : Prop :=
  (∃ payload, d.message = .eventCreated payload ∧ payload.eventId = eventId) ∨
    ∃ payload, d.message = .eventUpdated payload ∧ payload.eventId = eventId ∧ payload.occurredAt < T

structure SettingsLast (platform : Platform) (field : SettingsField) (eventId : Uuid) (T : Time)
    (c₁ : ServiceState) (ds : List Delivery) (c₂ : ServiceState) : Prop where
  kept : ∀ s d s', Handling platform c₁ ds c₂ s d s' → d.superseded eventId T →
    field.stored s'.shared.world eventId = field.stored s.shared.world eventId
  decided : field = .endsAt → ∀ s d s', Handling platform c₁ ds c₂ s d s' →
    d.superseded eventId T → ∀ now,
      s'.shared.world.endedAt eventId now = s.shared.world.endedAt eventId now

/-- Every `event.created` carries the value that it finds, and every older `event.updated` that
carries the field is stale or carries the value that it finds. -/
def NoFallback (platform : Platform) (field : SettingsField) (eventId : Uuid) (T : Time)
    (c₁ : ServiceState) (ds : List Delivery) (c₂ : ServiceState) : Prop :=
  ∀ s d s', Handling platform c₁ ds c₂ s d s' →
    (∀ payload, d.message = .eventCreated payload → payload.eventId = eventId →
      field.stored s.shared.world eventId = some (field.read (createdRow payload))) ∧
    ∀ payload, d.message = .eventUpdated payload → payload.eventId = eventId →
      payload.occurredAt < T → field.carried payload = true →
        stale ((s.shared.world.settings eventId).bind (·.updatedAt)) payload.occurredAt = true ∨
          field.stored s.shared.world eventId = some (field.read (updatedRow payload))

theorem World.endedAt_congr {w w' : World}
    (same : SettingsField.endsAt.stored w' eventId = SettingsField.endsAt.stored w eventId)
    (now : Time) : w'.endedAt eventId now = w.endedAt eventId now := by
  unfold World.endedAt
  revert same
  simp only [SettingsField.stored]
  cases w'.settings eventId <;> cases w.settings eventId <;> simp [SettingsField.read]
  intro same
  rw [same]

theorem SettingsLast.noFallback {field : SettingsField} {T : Time}
    (last : SettingsLast platform field eventId T c₁ ds c₂) :
    NoFallback platform field eventId T c₁ ds c₂ := by
  intro s d s' handling
  constructor
  · intro created message same
    have after := handling.handled.created field message
    rw [same, last.kept s d s' handling (.inl ⟨created, message, same⟩)] at after
    exact after
  · intro older message same before carries
    by_cases newer : stale ((s.shared.world.settings eventId).bind (·.updatedAt))
        older.occurredAt = true
    · exact .inl newer
    · right
      rw [← same] at newer
      have after := handling.handled.updates message (by simpa using newer) carries
      rw [same, last.kept s d s' handling (.inr ⟨older, message, same, before⟩)] at after
      exact after

theorem NoFallback.kept {field : SettingsField} {T : Time}
    (fallback : NoFallback platform field eventId T c₁ ds c₂)
    (first : (c₁.shared.world.settings eventId).isSome) {s s' : ServiceState} {d : Delivery}
    (handling : Handling platform c₁ ds c₂ s d s') (superseded : d.superseded eventId T) :
    field.stored s'.shared.world eventId = field.stored s.shared.world eventId := by
  obtain ⟨carriesCreated, carriesUpdated⟩ := fallback s d s' handling
  rcases superseded with ⟨created, message, same⟩ | ⟨older, message, same, before⟩
  · rw [carriesCreated created message same, ← same]
    exact handling.handled.created field message
  · have found : (s.shared.world.settings eventId).isSome := by
      obtain ⟨-, earlier, later, -, before, -⟩ := handling
      exact before.keepsSettings first
    have stays (unwritten : stale ((s.shared.world.settings eventId).bind (·.updatedAt))
          older.occurredAt = true ∨ field.carried older = false) :
        field.stored s'.shared.world eventId = field.stored s.shared.world eventId := by
      rw [← same] at found unwritten ⊢
      exact handling.handled.keepsField message found unwritten
    cases carries : field.carried older with
    | false => exact stays (.inr carries)
    | true =>
      by_cases newer : stale ((s.shared.world.settings eventId).bind (·.updatedAt))
          older.occurredAt = true
      · exact stays (.inl newer)
      · have equal := (carriesUpdated older message same before carries).resolve_left newer
        rw [equal, ← same]
        rw [← same] at newer
        exact handling.handled.updates message (by simpa using newer) carries

/-- Once an update has been applied, superseded messages leave its field as it is if and only if
none of them carries another value and is not found stale. -/
theorem settings_last_iff {field : SettingsField} {payload : EventUpdatedDTO}
    (updated : Delivered platform c update c₁) (message : update.message = .eventUpdated payload)
    (carried : field.carried payload = true)
    (applied : stale ((c.shared.world.settings payload.eventId).bind (·.updatedAt))
      payload.occurredAt = false) :
    field.stored c₁.shared.world payload.eventId = some (field.read (updatedRow payload)) ∧
      (SettingsLast platform field payload.eventId payload.occurredAt c₁ ds c₂ ↔
        NoFallback platform field payload.eventId payload.occurredAt c₁ ds c₂) := by
  have stored := updated.updates message applied carried
  have first : (c₁.shared.world.settings payload.eventId).isSome := by
    obtain ⟨row, found, -⟩ := Option.map_eq_some_iff.mp stored
    rw [found]
    rfl
  refine ⟨stored, fun last => last.noFallback, fun fallback => ?_⟩
  constructor
  · exact fun s d s' handling superseded => fallback.kept first handling superseded
  · rintro rfl s d s' handling superseded now
    exact World.endedAt_congr (fallback.kept first handling superseded) now

section Samples

open Sample

def postponement : EventUpdatedDTO where
  eventId := event
  name := none
  endsAt := some (some 12000)
  startsAt := none
  ticketReleaseAt := none
  occurredAt := 6500

theorem postponed_delivered :
    Delivered deployment (run afterAnnounced) postponed (run afterPostponed) :=
  delivered_run afterAnnounced _ postponed (by decide) (by decide +kernel) (by decide +kernel)
    (by decide +kernel) (by decide +kernel) (by decide +kernel)

def announcedAgain : Delivery := { announced with time := 7000 }

def afterAgain : List ServiceAct :=
  afterPostponed ++ .invoke announcedAgain.message :: [.step 5]

theorem announced_again :
    Delivered deployment (run afterPostponed) announcedAgain (run afterAgain) :=
  delivered_run afterPostponed _ announcedAgain (by decide) (by decide +kernel) (by decide +kernel)
    (by decide +kernel) (by decide +kernel) (by decide +kernel)

theorem created_wins_late : ¬∀ c update c₁ ds c₂ (field : SettingsField) (payload : EventUpdatedDTO),
    (service deployment).Reachable World.empty c → Delivered deployment c update c₁ →
    update.message = .eventUpdated payload → field.carried payload = true →
    stale ((c.shared.world.settings payload.eventId).bind (·.updatedAt)) payload.occurredAt = false →
    Deliveries deployment c₁ ds c₂ →
    SettingsLast deployment field payload.eventId payload.occurredAt c₁ ds c₂ := by
  intro last
  have all := last _ _ _ _ _ .endsAt postponement (reachable_run afterAnnounced) postponed_delivered
    rfl rfl (by decide +kernel) (.cons announced_again (.nil _))
  have handling : Handling deployment (run afterPostponed) [announcedAgain] (run afterAgain)
      (run afterPostponed) announcedAgain (run afterAgain) :=
    ⟨announced_again, [], [], rfl, .nil _, .nil _⟩
  have expired := all.decided rfl _ _ _ handling (.inl ⟨_, rfl, rfl⟩) 10000
  revert expired
  decide +kernel

def advanced : Delivery where
  message := .eventUpdated { postponement with endsAt := some (some 8000), occurredAt := 6200 }
  time := 7000
  writes := 0

def afterAdvanced : List ServiceAct :=
  afterPostponed ++ .invoke advanced.message :: [.step 5]

theorem settings_last_postponed :
    SettingsLast deployment .endsAt event 6500 (run afterPostponed) [advanced]
      (run afterAdvanced) := by
  have carried : SettingsField.endsAt.carried postponement = true := rfl
  have applied : stale (((run afterAnnounced).shared.world.settings postponement.eventId).bind
      (·.updatedAt)) postponement.occurredAt = false := by decide +kernel
  refine (settings_last_iff postponed_delivered rfl carried applied).2.mpr ?_
  rintro s d s' ⟨-, earlier, later, split, before, -⟩
  have only : earlier = [] ∧ d = advanced := by
    cases earlier with
    | nil => exact ⟨rfl, (List.cons.inj split).1.symm⟩
    | cons first rest =>
      have lengths := congrArg List.length split
      simp at lengths
  obtain ⟨rfl, rfl⟩ := only
  cases before
  constructor
  · intro payload message
    cases message
  · intro payload message same older carries
    have sent : Call.eventUpdated { postponement with
        endsAt := some (some 8000), occurredAt := 6200 } = .eventUpdated payload := message
    obtain rfl := Call.eventUpdated.inj sent
    left
    decide +kernel

end Samples

end TicketService
