import TicketService.Properties.Nonces

set_option autoImplicit false

namespace TicketService

open Interleaving Relational

variable {platform : Platform} {g g' : Global} {i : Nat} {t : Uuid} {w : World}

structure Ticket.WellFormed (row : Ticket) : Prop where
  inside : row.currentState = .inside → row.checkedInAt ≠ none
  device : row.deviceId.isSome = row.devicePublicKey.isSome ∧
    row.deviceId.isSome = row.deviceActivationAt.isSome
  revoked : row.revoked = true → row.revokedAt ≠ none ∧ row.revokedBy ≠ none

structure Ticket.Ages (old row : Ticket) : Prop where
  nonces : old.usedNonces ≤ row.usedNonces
  checkedIn : old.checkedInAt ≠ none → row.checkedInAt ≠ none

namespace Ticket.Ages

variable {old row : Ticket}

theorem refl (row : Ticket) : row.Ages row := ⟨Nat.le_refl _, fun kept => kept⟩

theorem trans {a b c : Ticket} (first : a.Ages b) (second : b.Ages c) : a.Ages c :=
  ⟨Nat.le_trans first.nonces second.nonces, fun checkedIn => second.checkedIn (first.checkedIn checkedIn)⟩

theorem updated {data : TicketState → TicketState} (now : Time)
    (last : (data row.toTicketState).lastNonce = row.lastNonce)
    (checkedIn : (data row.toTicketState).checkedInAt = row.checkedInAt) :
    row.Ages (row.updated data now) where
  nonces := by simp [usedNonces, Ticket.updated, last]
  checkedIn := by simp [Ticket.updated, checkedIn]

end Ticket.Ages

structure Shaped (g : Global) : Prop where
  rows : ∀ t row, g.world.ticket t = some row → row.WellFormed
  committed : ∀ e ∈ g.history, ∀ t old, e.world.ticket t = some old → Committed g t.call
  past : ∀ e ∈ g.history, ∀ t old, e.world.ticket t = some old →
    old.WellFormed ∧ ∀ row, g.world.ticket t = some row → old.Ages row

theorem Shaped.read (shaped : Shaped g) {client : Client} {old : Ticket}
    (read : Read g i client t old) :
    old.WellFormed ∧ ∀ row, g.world.ticket t = some row → old.Ages row := by
  obtain ⟨w, member, found⟩ := read
  exact shaped.past _ member t old found

section Turns

open TicketWriteService

variable {before after : Life} {row : Ticket}

theorem Turn.wellFormed (turn : Turn platform g t i before after)
    (shaped : ∀ row ∈ before.row, row.WellFormed)
    (reads : ∀ client old, Read g i client t old →
      old.WellFormed ∧ ∀ row ∈ before.row, old.Ages row) :
    ∀ row ∈ after.row, row.WellFormed := by
  cases turn with
  | created context data createdAt fact logs facts =>
    rintro _ ⟨⟩
    exact ⟨by simp [newTicket], by simp [newTicket], by simp [newTicket]⟩
  | bound input ticket row siblings now updatedAt logs facts =>
    rintro _ ⟨⟩
    have held := shaped row rfl
    exact ⟨held.inside, by simp [Ticket.updated, bindDevice], held.revoked⟩
  | unbound input ticket row siblings unboundAt logs facts =>
    rintro _ ⟨⟩
    have held := shaped row rfl
    exact ⟨held.inside, by simp [Ticket.updated, unbindDevice], held.revoked⟩
  | deleted call row logs facts =>
    rintro _ ⟨⟩
  | revoked context reason actorId ticket row now updatedAt createdAt fact logs facts =>
    rintro _ ⟨⟩
    have held := shaped row rfl
    exact ⟨by simp [Ticket.updated, revokedState], held.device,
      by simp [Ticket.updated, revokedState]⟩
  | presence context state actorId ticket row checkedInAt updatedAt createdAt fact logs facts called
      override =>
    rintro _ ⟨⟩
    have held := shaped row rfl
    refine ⟨fun inside => ?_, held.device, held.revoked⟩
    have towards : state = .inside := inside
    simp only [Ticket.updated, presenceState]
    -- The override leaves the check-in time out when it has read one.
    by_cases first : ticket.checkedInAt = none
    · have set := override.checkedIn.mpr ⟨towards, first⟩
      obtain ⟨now, rfl⟩ := Option.isSome_iff_exists.mp set
      simp
    · have kept := ((reads _ _ override.read).2 row rfl).checkedIn first
      cases checkedInAt <;> simp [kept]
  | reset actorId ticket row updatedAt createdAt logs facts =>
    rintro _ ⟨⟩
    have held := shaped row rfl
    exact ⟨held.inside, by simp [Ticket.updated, unbindDevice], held.revoked⟩
  | accepted context input payload ticket row checkedInAt updatedAt returnedAt createdAt scanned
      presence logs facts called same accepted =>
    rintro _ ⟨⟩
    have held := shaped row rfl
    refine ⟨fun inside => ?_, held.device, held.revoked⟩
    have towards : intendedState input.direction = .inside := inside
    have checkedIn := accepted.checkedIn
    rw [towards] at checkedIn
    exact Option.isSome_iff_ne_none.mp checkedIn
  | rejected context input result row => exact shaped
  | autoRevoked row now updatedAt logs facts =>
    rintro _ ⟨⟩
    have held := shaped row rfl
    exact ⟨by simp [Ticket.updated, ShareGuardService.autoRevoked], held.device,
      by simp [Ticket.updated, ShareGuardService.autoRevoked]⟩

theorem Turn.ages (turn : Turn platform g t i before after) (accounted : Accounted before)
    (reads : ∀ client old, Read g i client t old →
      old.WellFormed ∧ ∀ row ∈ before.row, old.Ages row) :
    ∀ row ∈ before.row, ∀ row' ∈ after.row, row.Ages row' := by
  cases turn with
  | created context data createdAt fact logs facts => rintro _ ⟨⟩
  | bound input ticket row siblings now updatedAt logs facts =>
    rintro _ ⟨⟩ _ ⟨⟩
    exact .updated _ rfl rfl
  | unbound input ticket row siblings unboundAt logs facts =>
    rintro _ ⟨⟩ _ ⟨⟩
    exact .updated _ rfl rfl
  | deleted call row logs facts => rintro _ _ _ ⟨⟩
  | revoked context reason actorId ticket row now updatedAt createdAt fact logs facts =>
    rintro _ ⟨⟩ _ ⟨⟩
    exact .updated _ rfl rfl
  | presence context state actorId ticket row checkedInAt updatedAt createdAt fact logs facts =>
    rintro _ ⟨⟩ _ ⟨⟩
    refine ⟨Nat.le_refl _, fun kept => ?_⟩
    cases checkedInAt <;> simp [Ticket.updated, presenceState, kept]
  | reset actorId ticket row updatedAt createdAt logs facts =>
    rintro _ ⟨⟩ _ ⟨⟩
    exact .updated _ rfl rfl
  | accepted context input payload ticket row checkedInAt updatedAt returnedAt createdAt scanned
      presence logs facts called same accepted =>
    rintro _ ⟨⟩ _ ⟨⟩
    constructor
    · have next := accounted.next row rfl
      rw [accepted.nonce] at next
      simp only [Ticket.usedNonces, Ticket.updated, VerifyService.acceptedState, Option.getD_some]
      rw [Option.some.inj next]
      exact Nat.le_succ _
    · intro _
      have checkedIn := accepted.checkedIn
      have outside := accepted.admitted.outside
      -- On exit the scan writes back what it has read, of a guest who was inside.
      cases towards : intendedState input.direction with
      | inside =>
        rw [towards] at checkedIn
        exact Option.isSome_iff_ne_none.mp checkedIn
      | outside =>
        rw [towards] at checkedIn outside
        have read := accepted.admitted.read
        obtain ⟨w, -, found⟩ := read
        have own : ticket.id = payload.tid := Table.key_of_get? found
        have held := (reads .tx ticket (by rw [same, own]; exact accepted.admitted.read)).1
        have inside : ticket.currentState = .inside := by
          cases state : ticket.currentState with
          | inside => rfl
          | outside => exact absurd state outside
        have known : checkedInAt = ticket.checkedInAt := checkedIn
        rw [known]
        exact held.inside inside
  | rejected context input result row =>
    rintro _ ⟨⟩ _ ⟨⟩
    exact .refl _
  | autoRevoked row now updatedAt logs facts =>
    rintro _ ⟨⟩ _ ⟨⟩
    exact .updated _ rfl rfl

end Turns

theorem Change.row_after {actor : Option Nat} (change : Change platform actor g g')
    (tallied : Tallied g) (shaped : Shaped g) {row' : Ticket}
    (present : g'.world.ticket t = some row') :
    row'.WellFormed ∧ ∀ row, g.world.ticket t = some row → row.Ages row' := by
  rcases change.turn t with same | ⟨i, -, turn⟩
  · have kept : g'.world.ticket t = g.world.ticket t := congrArg Life.row same
    rw [kept] at present
    refine ⟨shaped.rows t row' present, fun row found => ?_⟩
    rw [found] at present
    cases present
    exact .refl _
  · have reads (client : Client) (old : Ticket) (read : Read g i client t old) :
        old.WellFormed ∧ ∀ row ∈ (life g.world.store t).row, old.Ages row :=
      shaped.read read
    exact ⟨turn.wellFormed (shaped.rows t) reads row' present, fun row found =>
      turn.ages (tallied.accounted t) reads row found row' present⟩

theorem Change.ages {actor : Option Nat} (change : Change platform actor g g')
    (tallied : Tallied g) (shaped : Shaped g) (committed : Committed g t.call) {old : Ticket}
    (ages : ∀ row, g.world.ticket t = some row → old.Ages row) :
    ∀ row, g'.world.ticket t = some row → old.Ages row := by
  intro row' present
  cases before : g.world.ticket t with
  | none =>
    rw [change.extends.gone t committed before] at present
    cases present
  | some row => exact (ages row before).trans ((change.row_after tallied shaped present).2 row before)

theorem Rooted.committed (rooted : Rooted g) {row : Ticket} (present : g.world.ticket t = some row) :
    Committed g t.call := by
  have key : row.id = t := Table.key_of_get? present
  exact key ▸ rooted.tickets row (Table.mem_of_get? present)

theorem Change.shaped {actor : Option Nat} (change : Change platform actor g g') (rooted : Rooted g)
    (tallied : Tallied g) (shaped : Shaped g) : Shaped g' := by
  have known (e : Event statements World Tx) (member : e ∈ g'.history) (t : Uuid) (old : Ticket)
      (found : e.world.ticket t = some old) : Committed g t.call ∧ old.WellFormed ∧
        ∀ row, g.world.ticket t = some row → old.Ages row := by
    rcases change.recorded e member with before | here
    · exact ⟨shaped.committed e before t old found, shaped.past e before t old found⟩
    · rw [here] at found
      refine ⟨rooted.committed found, shaped.rows t old found, fun row present => ?_⟩
      rw [found] at present
      cases present
      exact .refl _
  refine ⟨fun t row present => (change.row_after tallied shaped present).1, ?_, ?_⟩
  · intro e member t old found
    exact change.extends.committed (known e member t old found).1
  · intro e member t old found
    obtain ⟨committed, held, ages⟩ := known e member t old found
    exact ⟨held, change.ages tallied shaped committed ages⟩

theorem Pristine.shaped (pristine : Pristine w) (platform : Platform) :
    Shaped ((service platform).initial w).shared where
  rows t row present := by
    have absent : ((service platform).initial w).shared.world.ticket t = none := by
      simp [System.initial, World.ticket, Table.get?, pristine.tickets]
    rw [absent] at present
    cases present
  committed e member := by cases member
  past e member := by cases member

theorem reachable_shaped (pristine : Pristine w) {c : ServiceState}
    (reachable : (service platform).Reachable w c) : Shaped c.shared := by
  have both : Tallied c.shared ∧ Shaped c.shared := by
    refine reachable_invariant pristine reachable (fun g => Tallied g ∧ Shaped g)
      ⟨pristine.tallied platform, pristine.shaped platform⟩ ?_
    rintro actor g g' rooted ⟨tallied, shaped⟩ change
    exact ⟨change.tallied rooted tallied, change.shaped rooted tallied shaped⟩
  exact both.2

theorem runs_ages (pristine : Pristine w) {c c' : ServiceState}
    (reachable : (service platform).Reachable w c) (runs : (service platform).Runs c c')
    {old row : Ticket} (before : c.shared.world.ticket t = some old)
    (after : c'.shared.world.ticket t = some row) : old.Ages row := by
  have kept : (Tallied c'.shared ∧ Shaped c'.shared) ∧ Committed c'.shared t.call ∧
      ∀ row, c'.shared.world.ticket t = some row → old.Ages row := by
    refine runs_invariant pristine reachable runs (fun g => (Tallied g ∧ Shaped g) ∧
      Committed g t.call ∧ ∀ row, g.world.ticket t = some row → old.Ages row) ?_ ?_
    · refine ⟨⟨reachable_tallied pristine reachable, reachable_shaped pristine reachable⟩,
        (reachable_rooted pristine reachable).committed before, fun row present => ?_⟩
      rw [before] at present
      cases present
      exact .refl _
    · rintro actor g g' rooted ⟨⟨tallied, shaped⟩, committed, ages⟩ change
      exact ⟨⟨change.tallied rooted tallied, change.shaped rooted tallied shaped⟩,
        change.extends.committed committed, change.ages tallied shaped committed ages⟩
  exact kept.2.2 row after

/-- In every state of every run the rows are well-formed, and as the run goes on no ticket that is
still there loses its check-in time. -/
theorem rows_well_formed (pristine : Pristine w) {c : ServiceState}
    (reachable : (service platform).Reachable w c) :
    (∀ row ∈ c.shared.world.store.tickets.rows, row.WellFormed) ∧
      ∀ c', (service platform).Runs c c' → ∀ row ∈ c.shared.world.store.tickets.rows,
        ∀ row' ∈ c'.shared.world.store.tickets.rows, row'.id = row.id →
          row.checkedInAt ≠ none → row'.checkedInAt ≠ none := by
  constructor
  · intro row member
    exact (reachable_shaped pristine reachable).rows row.id row (Table.get?_of_mem member)
  · intro c' runs row before row' after same checkedIn
    have present : c'.shared.world.ticket row.id = some row' := same ▸ Table.get?_of_mem after
    exact (runs_ages pristine reachable runs (Table.get?_of_mem before) present).checkedIn checkedIn

section Samples

open Sample

def visited : List ServiceAct :=
  prepared ++ call 4 (.scan context entry) 30

def departed : List ServiceAct :=
  call 5 (.updatePresence context ticket .outside staff) 20 ++
    call 6 (.revoke context ticket none staff) 20

theorem rows_well_formed_departed :
    (run visited).shared.world.store.tickets.rows.map (·.checkedInAt) = [some 0] ∧
      (∃ row ∈ (run (visited ++ departed)).shared.world.store.tickets.rows, row.revoked = true) ∧
      (∀ row ∈ (run (visited ++ departed)).shared.world.store.tickets.rows, row.WellFormed) ∧
      ∀ row ∈ (run visited).shared.world.store.tickets.rows,
        ∀ row' ∈ (run (visited ++ departed)).shared.world.store.tickets.rows, row'.id = row.id →
          row.checkedInAt ≠ none → row'.checkedInAt ≠ none :=
  ⟨by decide +kernel, by decide +kernel, (rows_well_formed pristine_empty (reachable_run _)).1,
    (rows_well_formed pristine_empty (reachable_run _)).2 _ (runs_append visited departed)⟩

end Samples

end TicketService
