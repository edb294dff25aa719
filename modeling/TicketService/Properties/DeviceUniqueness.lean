import TicketService.Properties.DeviceBinding

set_option autoImplicit false

namespace TicketService

open Interleaving Relational TicketWriteService

def OneTicketPerDevice (s : Store) : Prop :=
  ∀ row ∈ s.tickets.rows, ∀ other ∈ s.tickets.rows, row.eventId = other.eventId →
    ∀ deviceId, row.deviceId = some deviceId → other.deviceId = some deviceId → row = other

-- Whether call number `j` is an activation of another ticket of the event, which is bound in `w`
-- to the device that call number `i` activates.
def rivals (calls : List Call) (w : World) (i j : Nat) : Bool :=
  match calls[i]?, calls[j]? with
  | some (.activateDevice input _), some (.activateDevice input' _) =>
    input'.ticketId ≠ input.ticketId && input'.deviceId = input.deviceId &&
      (w.ticket input.ticketId).any fun row => (w.ticket input'.ticketId).any fun other =>
        other.eventId = row.eventId ∧ other.deviceId = some input.deviceId
  | _, _ => false

def cleansUp (i : Nat) : Event statements World Tx → Bool
  | .stmt k (.ticketUpdateMany ..) _ _ => k = i
  | _ => false

def overtaken (calls : List Call) (w : World) (i : Nat) : Events → Bool
  | [] => false
  | e :: older =>
    (match e with
      | .commit j _ _ => rivals calls w i j && older.any (cleansUp i)
      | _ => false) || overtaken calls w i older

def neverOvertaken (calls : List Call) : Events → Bool
  | [] => true
  | e :: older =>
    (match e with
      | .commit i _ w => !overtaken calls w i older
      | _ => true) && neverOvertaken calls older

/-- No activation has been committed for another ticket of the event and the same device between
the clean-up and the commit of an activation. -/
def Serialized (g : Global) : Prop :=
  neverOvertaken g.calls g.history = true

instance (g : Global) : Decidable (Serialized g) :=
  inferInstanceAs (Decidable (neverOvertaken g.calls g.history = true))

variable {platform : Platform} {g g' : Global} {i : Nat} {t : Uuid}

theorem overtaken_of_split {calls : List Call} {w : World} {j : Nat}
    {e : Event statements World Tx} {older : Events} (rival : rivals calls w i j = true)
    (cleans : cleansUp i e = true) (member : e ∈ older) (newer : Events) (tx : Tx) (w' : World) :
    overtaken calls w i (newer ++ .commit j tx w' :: older) = true := by
  induction newer with
  | nil =>
    have cleaned : older.any (cleansUp i) = true := List.any_eq_true.mpr ⟨e, member, cleans⟩
    simp [overtaken, rival, cleaned]
  | cons last rest ih => simp [overtaken, ih]

section Calls

variable {calls calls' : List Call}
  (more : ∀ (j : Nat) (call : Call), calls[j]? = some call → calls'[j]? = some call)

include more

theorem rivals_mono {w : World} {j : Nat} (rival : rivals calls w i j = true) :
    rivals calls' w i j = true := by
  unfold rivals at rival ⊢
  split at rival
  next called called' =>
    rw [more _ _ called, more _ _ called']
    exact rival
  next => cases rival

theorem overtaken_mono {w : World} {events : Events}
    (before : overtaken calls w i events = true) : overtaken calls' w i events = true := by
  induction events with
  | nil => cases before
  | cons e older ih =>
    simp only [overtaken, Bool.or_eq_true] at before ⊢
    rcases before with here | later
    · left
      cases e with
      | commit j tx w' =>
        simp only [Bool.and_eq_true] at here ⊢
        exact ⟨rivals_mono more here.1, here.2⟩
      | stmt => cases here
      | rollback => cases here
    · exact .inr (ih later)

theorem neverOvertaken_mono {events : Events} (never : neverOvertaken calls' events = true) :
    neverOvertaken calls events = true := by
  induction events with
  | nil => rfl
  | cons e older ih =>
    simp only [neverOvertaken, Bool.and_eq_true] at never ⊢
    refine ⟨?_, ih never.2⟩
    cases e with
    | commit j tx w =>
      by_contra overtakes
      simp only [Bool.not_eq_true', Bool.not_eq_false] at overtakes never
      simp [overtaken_mono more overtakes] at never
    | stmt => rfl
    | rollback => rfl

end Calls

theorem Serialized.newest {tx : Tx} (serialized : Serialized (g.commit (engine platform) i tx)) :
    overtaken g.calls g.world i g.history = false := by
  simp only [Serialized, Shared.commit, neverOvertaken, Bool.and_eq_true,
    Bool.not_eq_true'] at serialized
  exact serialized.1

theorem Serialized.before {actor : Option Nat} (serialized : Serialized g')
    (change : Change platform actor g g') : Serialized g := by
  refine neverOvertaken_mono change.extends.calls ?_
  unfold Serialized at serialized
  rcases change.history_cases with same | ⟨e, added, -⟩
  · rw [← same]
    exact serialized
  · rw [added] at serialized
    simp only [neverOvertaken, Bool.and_eq_true] at serialized
    exact serialized.2

def BoundIn (g : Global) (events : Events) (t : Uuid) (deviceId : String) : Prop :=
  ∃ j tx w input owner, .commit j tx w ∈ events ∧
    g.calls[j]? = some (.activateDevice input owner) ∧ input.ticketId = t ∧
    input.deviceId = deviceId

theorem BoundIn.extends {events later : Events} {deviceId : String}
    (bound : BoundIn g events t deviceId) (moved : Extends g g') (more : events ⊆ later) :
    BoundIn g' later t deviceId := by
  obtain ⟨j, tx, w, input, owner, member, called, rest⟩ := bound
  exact ⟨j, tx, w, input, owner, more member, moved.calls j _ called, rest⟩

def Explained (g : Global) : Prop :=
  ∀ newer e older, g.history = newer ++ e :: older → ∀ t row deviceId,
    g.world.ticket t = some row → row.deviceId = some deviceId →
      (∃ before, e.world.ticket t = some before ∧ before.deviceId = some deviceId) ∨
        BoundIn g (newer ++ [e]) t deviceId

theorem Change.explained {actor : Option Nat} (change : Change platform actor g g')
    (explained : Explained g) : Explained g' := by
  intro newer e older history t row' deviceId present device
  rcases change.rebinding present with ⟨row, found, same⟩ | ⟨-, created⟩ |
    ⟨j, tx, row, rfl, -, -, found, rebinding⟩
  · have device' : row.deviceId = some deviceId := same.1.symm.trans device
    have earlier (old : Events) (split : g.history = old ++ e :: older) (more : old ⊆ newer) :
        (∃ before, e.world.ticket t = some before ∧ before.deviceId = some deviceId) ∨
          BoundIn g' (newer ++ [e]) t deviceId := by
      refine (explained old e older split t row deviceId found device').imp_right fun bound => ?_
      have wider : old ++ [e] ⊆ newer ++ [e] :=
        List.append_subset.mpr ⟨List.subset_append_of_subset_left _ more, List.subset_append_right _ _⟩
      exact bound.extends change.extends wider
    rcases change.history_cases with same | ⟨last, added, world⟩
    · exact earlier newer (same ▸ history) (List.Subset.refl _)
    · rw [added] at history
      cases newer with
      | nil =>
        obtain ⟨rfl, -⟩ := List.cons.inj history
        exact .inl ⟨row, world ▸ found, device'⟩
      | cons first rest =>
        obtain ⟨-, split⟩ := List.cons.inj history
        exact earlier rest split (List.subset_cons_self _ _)
  · rw [created] at device
    cases device
  · right
    -- The commit is the newest event.
    have newest : .commit j tx g.world ∈ newer ++ [e] := by
      cases newer with
      | nil =>
        obtain ⟨rfl, -⟩ := List.cons.inj history
        exact List.mem_singleton_self _
      | cons first rest =>
        obtain ⟨rfl, -⟩ := List.cons.inj history
        exact List.mem_cons_self
    have key : row.id = t := Table.key_of_get? found
    obtain ⟨input, ticket, target, activation, same⟩ := rebinding.activates device
    exact ⟨j, tx, g.world, input, _, newest, activation.called, target.symm.trans key, same⟩

theorem Commits.unbinds {tx : Tx} (commits : Commits platform g i tx) (past : Past g)
    (explained : Explained g) {input : ActivateDeviceDTO} {owner : Uuid}
    (called : g.calls[i]? = some (.activateDevice input owner))
    (never : overtaken g.calls g.world i g.history = false) {row other other' : Ticket}
    (present : g.world.ticket input.ticketId = some row)
    (there : g.world.ticket other.id = some other) (different : other.id ≠ input.ticketId)
    (event : other.eventId = row.eventId) (device : other.deviceId = some input.deviceId)
    (after : (g.commit (engine platform) i tx).world.ticket other.id = some other') :
    other'.deviceId = none := by
  obtain ⟨read, _, siblings, now, updatedAt, unboundAt, activation, -, -, cleaned, locked, rfl⟩ :=
    commits.activation called
  obtain ⟨count, w, statement, listed⟩ := cleaned
  obtain ⟨newer, older, history⟩ := List.append_of_mem statement
  rcases explained newer _ older history other.id other input.deviceId there device with
    ⟨before, found, bound⟩ | ⟨j, tx, w', input', owner', member, called', target, device'⟩
  · -- The clean-up has matched the ticket.
    have key : before.id = other.id := Table.key_of_get? found
    have before_known := past _ statement before (Table.mem_of_get? found)
    obtain ⟨-, before_event, -⟩ := Ticket.identity_iff.mp (before_known.2 other (key ▸ there))
    obtain ⟨-, read_event, -⟩ := Ticket.identity_iff.mp
      ((past.read activation.read).2 row (activation.ticket_id ▸ present))
    have matched : before ∈ siblings := by
      rw [listed]
      refine List.mem_filter.mpr ⟨Table.mem_of_get? found, ?_⟩
      simp only [sibling, decide_eq_true_eq]
      refine ⟨?_, bound, ?_⟩
      · rw [← before_event, event, read_event]
      · rw [key, activation.ticket_id]
        exact different
    obtain rfl : before = other := by
      have locked_row := locked before matched
      rw [key, there] at locked_row
      exact (Option.some.inj locked_row).symm
    have written : (life (Tx.apply ⟨_⟩ g.world.store) before.id).row = some other' := after
    rw [life_activated_sibling different matched locked] at written
    cases written
    rfl
  · -- A rival has bound the ticket after the clean-up.
    have later : .commit j tx w' ∈ newer := by
      rcases List.mem_append.mp member with later | same
      · exact later
      · cases List.mem_singleton.mp same
    obtain ⟨newest, between, split⟩ := List.append_of_mem later
    have rival : rivals g.calls g.world i j = true := by
      simp [rivals, called, called', target, device', present, there, different, event, device]
    have overtakes : overtaken g.calls g.world i g.history = true := by
      rw [history, split, List.append_assoc, List.cons_append]
      refine overtaken_of_split rival ?_ (List.mem_append_right between List.mem_cons_self) newest tx w'
      simp [cleansUp]
    rw [overtakes] at never
    cases never

theorem Change.same_event {actor : Option Nat} (change : Change platform actor g g')
    (rooted : Rooted g) {row row' : Ticket} (before : g.world.ticket t = some row)
    (after : g'.world.ticket t = some row') : row'.eventId = row.eventId := by
  have key : row.id = t := Table.key_of_get? before
  have known := change.extends.known row (rooted.known before)
  exact (Ticket.identity_iff.mp (known.2 row' (key ▸ after))).2.1

theorem Commits.alone {tx : Tx} (commits : Commits platform g i tx) (first : ¬Committed g i)
    (rooted : Rooted g) (past : Past g) (explained : Explained g)
    (never : overtaken g.calls g.world i g.history = false) {row row' other other' : Ticket}
    {deviceId : String} (rebinding : Rebinding platform g i row row')
    (before : g.world.ticket row'.id = some row) (before' : g.world.ticket other'.id = some other)
    (after : (g.commit (engine platform) i tx).world.ticket row'.id = some row')
    (after' : (g.commit (engine platform) i tx).world.ticket other'.id = some other')
    (kept : SameDevice other other') (event : row'.eventId = other'.eventId)
    (device : row'.deviceId = some deviceId) (device' : other'.deviceId = some deviceId) :
    row'.id = other'.id := by
  have change : Change platform (some i) g (g.commit (engine platform) i tx) :=
    .commit i tx commits first
  have key : row.id = row'.id := Table.key_of_get? before
  have key' : other.id = other'.id := Table.key_of_get? before'
  obtain ⟨input, ticket, target, activation, rfl⟩ := rebinding.activates device
  by_contra different
  have target' : row'.id = input.ticketId := key.symm.trans target
  have other_event : other.eventId = row.eventId := by
    rw [← change.same_event rooted before' after', ← event, change.same_event rooted before after]
  have unbound := commits.unbinds past explained activation.called never (target' ▸ before)
    (key' ▸ before') (fun same => different (target'.trans (same.symm.trans key'))) other_event
    (kept.1.symm.trans device') (key' ▸ after')
  rw [device'] at unbound
  cases unbound

theorem Change.one_ticket {actor : Option Nat} (change : Change platform actor g g')
    (rooted : Rooted g) (past : Past g) (explained : Explained g) (serialized : Serialized g')
    (one : OneTicketPerDevice g.world.store) : OneTicketPerDevice g'.world.store := by
  intro row' member other' member' event deviceId device device'
  have present : g'.world.ticket row'.id = some row' := Store.ticket_mem.mp member
  have present' : g'.world.ticket other'.id = some other' := Store.ticket_mem.mp member'
  suffices ids : row'.id = other'.id by
    rw [ids] at present
    exact Option.some.inj (present.symm.trans present')
  rcases change.rebinding present with ⟨row, found, kept⟩ | ⟨-, created⟩ |
    ⟨j, tx, row, rfl, commits, first, found, rebinding⟩
  · have key : row.id = row'.id := Table.key_of_get? found
    rcases change.rebinding present' with ⟨other, found', kept'⟩ | ⟨-, created⟩ |
      ⟨j, tx, other, rfl, commits, first, found', rebinding⟩
    · have key' : other.id = other'.id := Table.key_of_get? found'
      have same_event : row.eventId = other.eventId := by
        rw [← change.same_event rooted found present, event,
          change.same_event rooted found' present']
      have same := one row (Table.mem_of_get? found) other (Table.mem_of_get? found') same_event
        deviceId (kept.1.symm.trans device) (kept'.1.symm.trans device')
      rw [← key, ← key', same]
    · rw [created] at device'
      cases device'
    · exact (commits.alone first rooted past explained serialized.newest rebinding found' found
        present' present kept event.symm device' device).symm
  · rw [created] at device
    cases device
  · rcases change.rebinding present' with ⟨other, found', kept'⟩ | ⟨-, created⟩ |
      ⟨k, tx', other, here', commits', first', found', rebinding'⟩
    · exact commits.alone first rooted past explained serialized.newest rebinding found found'
        present present' kept' event device device'
    · rw [created] at device'
      cases device'
    · -- One commit binds one ticket.
      have newest : Event.commit j tx g.world :: g.history = .commit k tx' g.world :: g.history :=
        congrArg Shared.history here'
      cases newest
      have key : row.id = row'.id := Table.key_of_get? found
      have key' : other.id = other'.id := Table.key_of_get? found'
      obtain ⟨input, ticket, target, activation, -⟩ := rebinding.activates device
      obtain ⟨input', ticket', target', activation', -⟩ := rebinding'.activates device'
      have same := Option.some.inj (activation.called.symm.trans activation'.called)
      simp only [Call.activateDevice.injEq] at same
      rw [← key, ← key', target, target', same.1]

/-- In a run in which no rival overtakes an activation, no two tickets of an event have the same
device. -/
theorem device_serves_one_ticket {w : World} (pristine : Pristine w) {c : ServiceState}
    (reachable : (service platform).Reachable w c) (serialized : Serialized c.shared) :
    OneTicketPerDevice c.shared.world.store := by
  refine (reachable_invariant pristine reachable (fun g => Past g ∧ Explained g ∧
    (Serialized g → OneTicketPerDevice g.world.store)) ?_ ?_).2.2 serialized
  · refine ⟨initial_past, ?_, ?_⟩
    · intro newer e older history
      simp [System.initial] at history
    · intro _ row member
      have present : row ∈ w.store.tickets.rows := member
      simp [pristine.tickets] at present
  · rintro actor g g' rooted ⟨past, explained, one⟩ change
    exact ⟨change.past rooted past, change.explained explained, fun serialized =>
      change.one_ticket rooted past explained serialized (one (serialized.before change))⟩

section Skew

open Sample

theorem device_serves_one_ticket_moved :
    OneTicketPerDevice (run activatedByFriend).shared.world.store := by
  have serialized : Serialized (run activatedByFriend).shared := by decide +kernel
  exact device_serves_one_ticket pristine_empty (reachable_run _) serialized

-- The second activation runs between the clean-up and the commit of the first.
def activatedTogether : List ServiceAct :=
  call 0 (.createTicket context ticketInput) 8 ++ call 1 (.createTicket context friendTicket) 8 ++
    call 2 (.activateDevice phone guest) 5 ++
    call 3 (.activateDevice { friendPhone with ticketId := ⟨1, 0⟩ } friend) 7 ++
    List.replicate 2 (.step 2)

theorem device_serves_two_tickets : ¬∀ (platform : Platform) (w : World) (c : ServiceState),
    Pristine w → (service platform).Reachable w c → OneTicketPerDevice c.shared.world.store := by
  intro claim
  have one := claim deployment World.empty (run activatedTogether) pristine_empty (reachable_run _)
  have two : ∃ row ∈ (run activatedTogether).shared.world.store.tickets.rows,
      ∃ other ∈ (run activatedTogether).shared.world.store.tickets.rows,
        row.eventId = other.eventId ∧ row.deviceId = some "phone" ∧
          other.deviceId = some "phone" ∧ row ≠ other := by decide +kernel
  obtain ⟨row, member, other, member', event, device, device', different⟩ := two
  exact different (one row member other member' event "phone" device device')

end Skew

end TicketService
