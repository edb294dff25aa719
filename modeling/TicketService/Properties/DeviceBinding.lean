import TicketService.Refinement.Life

set_option autoImplicit false

namespace TicketService

open Interleaving Relational TicketWriteService

variable {platform : Platform} {g g' : Global} {i : Nat} {t : Uuid}

inductive Rebinding (platform : Platform) (g : Global) (j : Nat) (row row' : Ticket) : Prop where
  | bound (input : ActivateDeviceDTO) (ticket : Ticket) :
      row.id = input.ticketId → Activation platform g j input ticket →
      row'.deviceId = some input.deviceId → row'.devicePublicKey = some input.publicKey →
      Rebinding platform g j row row'
  | unbound (input : ActivateDeviceDTO) (ticket : Ticket) :
      row.id ≠ ticket.id → Activation platform g j input ticket →
      row.eventId = ticket.eventId → row.deviceId = some input.deviceId → row'.deviceId = none →
      Rebinding platform g j row row'
  | reset (actorId : Uuid) (ticket : Ticket) :
      g.calls[j]? = some (.resetDeviceBinding row.id actorId) →
      Read g j .prisma row.id ticket → Granted platform g j .manageTickets ticket.eventId actorId →
      row'.deviceId = none → Rebinding platform g j row row'

theorem Rebinding.activates {j : Nat} {row row' : Ticket} {deviceId : String}
    (rebinding : Rebinding platform g j row row') (device : row'.deviceId = some deviceId) :
    ∃ input ticket, row.id = input.ticketId ∧ Activation platform g j input ticket ∧
      input.deviceId = deviceId := by
  cases rebinding with
  | bound input ticket target activation bound =>
    exact ⟨input, ticket, target, activation, Option.some.inj (bound.symm.trans device)⟩
  | unbound _ _ _ _ _ _ unbound =>
    rw [unbound] at device
    cases device
  | reset _ _ _ _ _ unbound =>
    rw [unbound] at device
    cases device

def SameDevice (row row' : Ticket) : Prop :=
  row'.deviceId = row.deviceId ∧ row'.devicePublicKey = row.devicePublicKey

theorem Turn.rebinding {before after : Life} (turn : Turn platform g t i before after)
    (key : ∀ row ∈ before.row, row.id = t) {row' : Ticket} (present : after.row = some row') :
    (∃ row, before.row = some row ∧ SameDevice row row') ∨
      (¬Committed g t.call ∧ row'.deviceId = none) ∨
      ∃ row, before.row = some row ∧ Rebinding platform g i row row' := by
  cases turn with
  | created context data createdAt fact logs facts same called first =>
    cases present
    rw [same]
    exact .inr (.inl ⟨first, rfl⟩)
  | bound input ticket row siblings now updatedAt logs facts same activation =>
    cases present
    exact .inr (.inr ⟨row, rfl, .bound input ticket ((key row rfl).trans same) activation rfl rfl⟩)
  | unbound input ticket row siblings unboundAt logs facts different activation cleaned member
      matched =>
    cases present
    have apart := sibling_id matched
    simp only [sibling, decide_eq_true_eq] at matched
    exact .inr (.inr
      ⟨row, rfl, .unbound input ticket apart activation matched.1 matched.2.1 rfl⟩)
  | deleted => cases present
  | revoked context reason actorId ticket row =>
    cases present
    exact .inl ⟨row, rfl, rfl, rfl⟩
  | presence context state actorId ticket row =>
    cases present
    exact .inl ⟨row, rfl, rfl, rfl⟩
  | reset actorId ticket row updatedAt createdAt logs facts called read granted =>
    cases present
    obtain rfl := key row rfl
    exact .inr (.inr ⟨row, rfl, .reset actorId ticket called read granted rfl⟩)
  | accepted context input payload ticket row =>
    cases present
    exact .inl ⟨row, rfl, rfl, rfl⟩
  | rejected context input result row =>
    cases present
    exact .inl ⟨_, rfl, rfl, rfl⟩
  | autoRevoked row =>
    cases present
    exact .inl ⟨row, rfl, rfl, rfl⟩

theorem Change.rebinding {actor : Option Nat} (change : Change platform actor g g') {row' : Ticket}
    (present : g'.world.ticket t = some row') :
    (∃ row, g.world.ticket t = some row ∧ SameDevice row row') ∨
      (¬Committed g t.call ∧ row'.deviceId = none) ∨
      ∃ j tx row, g' = g.commit (engine platform) j tx ∧ Commits platform g j tx ∧
        ¬Committed g j ∧ g.world.ticket t = some row ∧ Rebinding platform g j row row' := by
  have key : ∀ row ∈ (life g.world.store t).row, row.id = t := fun row found =>
    Table.key_of_get? found
  cases change with
  | invoke call => exact .inl ⟨row', present, rfl, rfl⟩
  | environ action => exact .inl ⟨row', by cases action <;> exact present, rfl, rfl⟩
  | stmt j stmt result w tx tx' executed issued =>
    left
    rcases stmt_turn executed issued t with same | ⟨row, now, updatedAt, logs, facts, before, after⟩
    · have kept : w.store.ticket t = g.world.store.ticket t := congrArg Life.row same
      exact ⟨row', kept.symm.trans present, rfl, rfl⟩
    · have found : g.world.ticket t = some row := congrArg Life.row before
      have written : w.store.ticket t = _ := congrArg Life.row after
      obtain rfl := Option.some.inj (written.symm.trans present)
      exact ⟨row, found, rfl, rfl⟩
  | commit j tx commits first =>
    have found : (life (tx.apply g.world.store) t).row = some row' := present
    rcases commits.turn (t := t) first with same | turn
    · rw [same] at found
      exact .inl ⟨row', found, rfl, rfl⟩
    · rcases turn.rebinding key found with kept | created | ⟨row, there, rebinding⟩
      · exact .inl kept
      · exact .inr (.inl created)
      · exact .inr (.inr ⟨j, tx, row, rfl, commits, first, there, rebinding⟩)
  | rollback j => exact .inl ⟨row', present, rfl, rfl⟩

theorem Commits.activation {tx : Tx} (commits : Commits platform g i tx) {input : ActivateDeviceDTO}
    {owner : Uuid} (called : g.calls[i]? = some (.activateDevice input owner)) :
    ∃ ticket row siblings now updatedAt unboundAt, Activation platform g i input ticket ∧
      ticket.guestProfileId = owner ∧ g.world.ticket input.ticketId = some row ∧
      Cleaned g i input ticket siblings ∧
      (∀ other ∈ siblings, g.world.ticket other.id = some other) ∧
      tx = ⟨.putTicket input.ticketId (bindDevice input now row.toTicketState) updatedAt ::
        siblings.map fun other =>
          .putTicket other.id (unbindDevice other.toTicketState) unboundAt⟩ := by
  cases commits with
  | activated input' ticket row siblings now updatedAt unboundAt activation present cleaned locked =>
    have same := called.symm.trans activation.called
    cases same
    exact ⟨ticket, row, siblings, now, updatedAt, unboundAt, activation, rfl, present, cleaned,
      locked, rfl⟩
  | deleted call ids gone called' deletes =>
    cases called.symm.trans called'
    cases deletes
  | empty call called' deletes =>
    cases called.symm.trans called'
    cases deletes
  | created _ _ _ _ called' => cases called.symm.trans called'
  | revoked _ _ _ _ _ _ _ _ _ _ called' => cases called.symm.trans called'
  | presence _ _ _ _ _ _ _ _ _ _ called' => cases called.symm.trans called'
  | reset _ _ _ _ _ _ called' => cases called.symm.trans called'
  | accepted _ _ _ _ _ _ _ _ _ _ _ called' => cases called.symm.trans called'
  | rejected _ _ _ _ _ called' => cases called.symm.trans called'

abbrev Events := List (Event statements World Tx)

structure BoundTo (g : Global) (i : Nat) (after : Events) (deviceId : String) (row : Ticket) :
    Prop where
  device : row.deviceId = some deviceId
  key : ∃ j input, (j = i ∨ ∃ tx w, .commit j tx w ∈ after) ∧
    g.calls[j]? = some (.activateDevice input row.guestProfileId) ∧ input.ticketId = row.id ∧
    input.publicKey ≠ "" ∧ row.devicePublicKey = some input.publicKey

def Resets (platform : Platform) (g : Global) (ticket : Ticket) (e : Event statements World Tx) :
    Prop :=
  ∃ j tx w actorId, e = .commit j tx w ∧
    g.calls[j]? = some (.resetDeviceBinding ticket.id actorId) ∧
    Granted platform g j .manageTickets ticket.eventId actorId

/-- The commits that can end the binding of `ticket` to `deviceId`, when `before` had happened at
its activation. -/
inductive Ends (platform : Platform) (g : Global) (ticket : Ticket) (deviceId : String)
    (before : Events) (e : Event statements World Tx) : Prop where
  | reset : Resets platform g ticket e → Ends platform g ticket deviceId before e
  -- The owner of another ticket of the event has the same device.
  | moved (j : Nat) (tx : Tx) (w : World) (input : ActivateDeviceDTO) (other : Ticket) :
      e = .commit j tx w → g.calls[j]? = some (.activateDevice input other.guestProfileId) →
      Read g j .tx input.ticketId other → other.id ≠ ticket.id → other.eventId = ticket.eventId →
      input.deviceId = deviceId → Ends platform g ticket deviceId before e
  -- The owner activates another device in a call that had read the ticket before it was bound.
  | overlapped (j : Nat) (tx : Tx) (w w' : World) (input : ActivateDeviceDTO) (read : Ticket) :
      e = .commit j tx w → g.calls[j]? = some (.activateDevice input ticket.guestProfileId) →
      input.ticketId = ticket.id → input.deviceId ≠ deviceId →
      .stmt j (.ticketFindUnique .tx input.ticketId) (some read) w' ∈ before →
      boundElsewhere read input.deviceId = false →
      Ends platform g ticket deviceId before e

theorem BoundTo.extends {after later : Events} {deviceId : String} {row : Ticket}
    (bound : BoundTo g i after deviceId row) (moved : Extends g g') (more : after ⊆ later) :
    BoundTo g' i later deviceId row where
  device := bound.device
  key := by
    obtain ⟨j, input, source, called, rest⟩ := bound.key
    refine ⟨j, input, source.imp_right ?_, moved.calls j _ called, rest⟩
    rintro ⟨tx, w, member⟩
    exact ⟨tx, w, more member⟩

-- A row with the same owner and the same device columns.
theorem BoundTo.same {after : Events} {deviceId : String} {row row' : Ticket}
    (bound : BoundTo g i after deviceId row) (same : SameDevice row row')
    (alike : row.identity = row'.identity) : BoundTo g i after deviceId row' where
  device := same.1.trans bound.device
  key := by
    obtain ⟨id, -, -, -, owner, -⟩ := Ticket.identity_iff.mp alike
    obtain ⟨j, input, source, called, ticket, nonempty, key⟩ := bound.key
    exact ⟨j, input, source, owner ▸ called, ticket.trans id, nonempty, same.2.trans key⟩

theorem Resets.extends {ticket : Ticket} {e : Event statements World Tx}
    (resets : Resets platform g ticket e) (moved : Extends g g') :
    Resets platform g' ticket e := by
  obtain ⟨j, tx, w, actorId, commits, called, granted⟩ := resets
  exact ⟨j, tx, w, actorId, commits, moved.calls j _ called, granted.extends moved⟩

theorem Ends.extends {ticket : Ticket} {deviceId : String} {before : Events}
    {e : Event statements World Tx} (ends : Ends platform g ticket deviceId before e)
    (moved : Extends g g') : Ends platform g' ticket deviceId before e := by
  cases ends with
  | reset resets => exact .reset (resets.extends moved)
  | moved j tx w input other commits called read different event device =>
    exact .moved j tx w input other commits (moved.calls j _ called) (moved.seen read) different
      event device
  | overlapped j tx w w' input read commits called ticket other member free =>
    exact .overlapped j tx w w' input read commits (moved.calls j _ called) ticket other member free

def Since (g : Global) (after : Events) (t : Uuid) (row : Ticket) : Prop :=
  g.world.ticket t = some row ∨ ∃ e ∈ after, e.world.ticket t = some row

def Stays (platform : Platform) (g : Global) (i : Nat) (ticket : Ticket) (deviceId : String)
    (after before : Events) : Prop :=
  (∃ e ∈ after, Ends platform g ticket deviceId before e) ∨
    ∀ row, Since g after ticket.id row → BoundTo g i after deviceId row

theorem boundElsewhere_of_bound {row : Ticket} {deviceId other key : String}
    (device : row.deviceId = some deviceId) (public_key : row.devicePublicKey = some key)
    (nonempty : deviceId ≠ "") (nonempty' : key ≠ "") (different : other ≠ deviceId) :
    boundElsewhere row other = true := by
  simp [boundElsewhere, truthy, device, public_key, nonempty, nonempty', Ne.symm different]

section Step

variable {ticket : Ticket} {deviceId : String} {after before : Events} {tx : Tx} {w : World}

theorem Rebinding.ends_or_renews {j : Nat} {row row' : Ticket}
    (rebinding : Rebinding platform g j row row') (alike : row.identity = row'.identity)
    (past : Past g) (known : Known g ticket) (nonempty : deviceId ≠ "")
    (present : g.world.ticket ticket.id = some row)
    (history : g.history = after ++ .commit i tx w :: before)
    (since : ∀ row, Since g after ticket.id row → BoundTo g i after deviceId row) (tx' : Tx) :
    Ends platform g ticket deviceId before (.commit j tx' g.world) ∨
      BoundTo g i (.commit j tx' g.world :: after) deviceId row' := by
  have same : row.identity = ticket.identity := known.2 row present
  obtain ⟨same_id, same_event, -, -, same_owner, -⟩ := Ticket.identity_iff.mp same
  obtain ⟨same_id', -, -, -, same_owner', -⟩ := Ticket.identity_iff.mp alike
  have device := (since row (.inl present)).device
  cases rebinding with
  | bound input read target activation bound key =>
    have read_known := past.read activation.read
    have read_same : row.identity = read.identity := by
      refine read_known.2 row ?_
      rw [activation.ticket_id, ← target, same_id]
      exact present
    obtain ⟨-, -, -, -, read_owner, -⟩ := Ticket.identity_iff.mp read_same
    by_cases renewed : input.deviceId = deviceId
    · right
      refine ⟨bound.trans (congrArg some renewed), j, input, .inr ⟨tx', g.world, by simp⟩, ?_,
        target.symm.trans same_id', activation.key, key⟩
      rw [← same_owner', read_owner]
      exact activation.called
    · -- The activation read the ticket before it was bound, or else it would have thrown.
      left
      obtain ⟨w', event, found⟩ := activation.read
      have target' : input.ticketId = ticket.id := target.symm.trans same_id
      rw [history] at event
      rcases List.mem_append.mp event with later | earlier
      · have read_bound := since read (.inr ⟨_, later, target' ▸ found⟩)
        obtain ⟨_, _, -, -, -, nonempty', key'⟩ := read_bound.key
        have elsewhere := boundElsewhere_of_bound read_bound.device key' nonempty nonempty' renewed
        rw [activation.free] at elsewhere
        cases elsewhere
      · rcases List.mem_cons.mp earlier with commit | earlier
        · cases commit
        · refine .overlapped j tx' g.world w' input read rfl ?_ target' renewed earlier activation.free
          rw [← same_owner, read_owner]
          exact activation.called
  | unbound input other different activation event matched unbound =>
    left
    refine .moved j tx' g.world input other rfl activation.called ?_ ?_ ?_ ?_
    · exact activation.read
    · rw [← same_id]
      exact Ne.symm different
    · rw [← event, same_event]
    · exact Option.some.inj (matched.symm.trans device)
  | reset actorId read called read_event granted unbound =>
    left
    have read_same : row.identity = read.identity := by
      have key : read.id = row.id := by
        obtain ⟨w', -, found⟩ := read_event
        exact Table.key_of_get? found
      refine (past.read read_event).2 row ?_
      rw [key, same_id]
      exact present
    obtain ⟨-, read_event', -⟩ := Ticket.identity_iff.mp read_same
    refine .reset ⟨j, tx', g.world, actorId, rfl, same_id ▸ called, ?_⟩
    rw [← same_event, read_event']
    exact granted

theorem Change.stays {actor : Option Nat} (change : Change platform actor g g') (rooted : Rooted g)
    (past : Past g) (known : Known g ticket) (nonempty : deviceId ≠ "")
    (history : g.history = after ++ .commit i tx w :: before)
    (stays : Stays platform g i ticket deviceId after before) :
    ∃ new, g'.history = new ++ g.history ∧
      Stays platform g' i ticket deviceId (new ++ after) before := by
  have moved := change.extends
  obtain ⟨new, added, worlds⟩ : ∃ new, g'.history = new ++ g.history ∧
      ∀ e ∈ new, e.world = g.world := by
    rcases change.history_cases with same | ⟨e, added, world⟩
    · exact ⟨[], same, by simp⟩
    · exact ⟨[e], added, by simpa using world⟩
  refine ⟨new, added, ?_⟩
  rcases stays with ⟨e, member, ends⟩ | since
  · exact .inl ⟨e, List.mem_append_right _ member, ends.extends moved⟩
  · have more : after ⊆ new ++ after := List.subset_append_right _ _
    have old : ∀ row, Since g after ticket.id row → BoundTo g' i (new ++ after) deviceId row :=
      fun row there => (since row there).extends moved more
    have recent : ∀ row, Since g' (new ++ after) ticket.id row →
        g'.world.ticket ticket.id = some row ∨ Since g after ticket.id row := by
      rintro row (current | ⟨e, member, found⟩)
      · exact .inl current
      · rcases List.mem_append.mp member with fresh | earlier
        · rw [worlds e fresh] at found
          exact .inr (.inl found)
        · exact .inr (.inr ⟨e, earlier, found⟩)
    cases present : g'.world.ticket ticket.id with
    | none =>
      right
      intro row there
      rcases recent row there with current | earlier
      · rw [present] at current
        cases current
      · exact old row earlier
    | some row' =>
      suffices step : (∃ e ∈ new, Ends platform g ticket deviceId before e) ∨
          BoundTo g' i (new ++ after) deviceId row' by
        refine step.imp ?_ fun bound row there => ?_
        · rintro ⟨e, member, ends⟩
          exact ⟨e, List.mem_append_left _ member, ends.extends moved⟩
        · rcases recent row there with current | earlier
          · cases present.symm.trans current
            exact bound
          · exact old row earlier
      have alike {row : Ticket} (found : g.world.ticket ticket.id = some row) :
          row.identity = row'.identity := by
        have known_row := moved.known row (rooted.known found)
        have key : row.id = ticket.id := Table.key_of_get? found
        exact (known_row.2 row' (key ▸ present)).symm
      rcases change.rebinding present with ⟨row, found, same⟩ | ⟨uncommitted, -⟩ |
        ⟨j, tx', row, rfl, -, -, found, rebinding⟩
      · exact .inr ((old row (.inl found)).same same (alike found))
      · exact absurd known.1 uncommitted
      · have recorded : [.commit j tx' g.world] ++ g.history = new ++ g.history := added
        obtain rfl := List.append_cancel_right recorded
        rcases rebinding.ends_or_renews (alike found) past known nonempty found history since tx' with
          ends | renews
        · exact .inl ⟨_, List.mem_singleton_self _, ends⟩
        · exact .inr (renews.extends moved (List.Subset.refl _))

end Step

theorem Commits.binds {tx : Tx} (commits : Commits platform g i tx) {input : ActivateDeviceDTO}
    {owner : Uuid} (called : g.calls[i]? = some (.activateDevice input owner)) (past : Past g)
    (first : ¬Committed g i) (before : Events) :
    ∃ ticket, g.world.ticket input.ticketId = some ticket ∧ ticket.guestProfileId = owner ∧
      input.deviceId ≠ "" ∧
      Stays platform (g.commit (engine platform) i tx) i ticket input.deviceId [] before := by
  have moved := Change.extends (.commit i tx commits first)
  obtain ⟨read, row, siblings, now, updatedAt, unboundAt, activation, owned, present, cleaned,
    locked, rfl⟩ := commits.activation called
  have key : row.id = input.ticketId := Table.key_of_get? present
  have same : row.identity = read.identity :=
    (past.read activation.read).2 row (activation.ticket_id ▸ present)
  have owner_row : row.guestProfileId = owner := by
    rw [(Ticket.identity_iff.mp same).2.2.2.2.1, owned]
  refine ⟨row, present, owner_row, activation.device, .inr ?_⟩
  rintro row' (current | ⟨e, member, -⟩)
  · have others : ∀ other ∈ siblings, other.id ≠ input.ticketId := fun other member =>
      activation.ticket_id ▸ sibling_id (cleaned.others member)
    rw [key] at current
    have written : (life (Tx.apply ⟨_⟩ g.world.store) input.ticketId).row = some row' := current
    rw [life_activated present others] at written
    cases written
    refine ⟨rfl, i, input, .inl rfl, ?_, key.symm, activation.key, rfl⟩
    exact moved.calls i _ (owner_row ▸ called)
  · cases member

def Stable (platform : Platform) (g : Global) : Prop :=
  ∀ i input owner after before tx w, g.calls[i]? = some (.activateDevice input owner) →
    g.history = after ++ .commit i tx w :: before →
      ∃ ticket, w.ticket input.ticketId = some ticket ∧ ticket.guestProfileId = owner ∧
        input.deviceId ≠ "" ∧ Stays platform g i ticket input.deviceId after before

theorem Change.stable {actor : Option Nat} (change : Change platform actor g g') (rooted : Rooted g)
    (past : Past g) (stable : Stable platform g) : Stable platform g' := by
  intro i input owner after before tx w called history
  -- A binding from before the step.
  have carried (old : Events) (split : g.history = old ++ .commit i tx w :: before) :
      ∃ ticket, w.ticket input.ticketId = some ticket ∧ ticket.guestProfileId = owner ∧
        input.deviceId ≠ "" ∧ Stays platform g' i ticket input.deviceId after before := by
    have event : .commit i tx w ∈ g.history := by simp [split]
    have within : i < g.calls.length := rooted.numbered i ⟨tx, w, event⟩
    have called' : g.calls[i]? = some (.activateDevice input owner) := by
      obtain ⟨call, present⟩ : ∃ call, g.calls[i]? = some call := ⟨_, List.getElem?_eq_getElem within⟩
      rw [present, ← called]
      exact (change.extends.calls i call present).symm
    obtain ⟨ticket, found, owned, nonempty, stays⟩ := stable i input owner old before tx w called' split
    have key : ticket.id = input.ticketId := Table.key_of_get? found
    have known : Known g ticket := past _ event ticket (Table.mem_of_get? found)
    obtain ⟨new, added, stays'⟩ := change.stays rooted past known nonempty split stays
    have same : after = new ++ old := by
      rw [history, split, ← List.append_assoc] at added
      exact List.append_cancel_right added
    exact ⟨ticket, found, owned, nonempty, same ▸ stays'⟩
  rcases change.history_cases with same | ⟨e, added, world⟩
  · exact carried after (same ▸ history)
  · rw [added] at history
    cases after with
    | cons last older =>
      rw [List.cons_append, List.cons.injEq] at history
      exact carried older history.2
    | nil =>
      rw [List.nil_append, List.cons.injEq] at history
      obtain ⟨rfl, rfl⟩ := history
      cases change with
      | invoke call => simp at added
      | environ action => simp at added
      | stmt => cases added
      | rollback => cases added
      | commit j tx' commits first =>
        cases added
        exact commits.binds called past first g.history

theorem reachable_stable {w : World} (pristine : Pristine w) {c : ServiceState}
    (reachable : (service platform).Reachable w c) : Stable platform c.shared := by
  refine (reachable_invariant pristine reachable (fun g => Past g ∧ Stable platform g) ?_ ?_).2
  · refine ⟨initial_past, ?_⟩
    intro i input owner after before tx w' called
    simp [System.initial] at called
  · rintro actor g g' rooted ⟨past, stable⟩ change
    exact ⟨change.past rooted past, change.stable rooted past stable⟩

def Lasts (g : Global) (i : Nat) (input : ActivateDeviceDTO) (owner : Uuid)
    (ends : Ticket → Events → Event statements World Tx → Prop) : Prop :=
  ∃ after before tx w ticket, g.history = after ++ .commit i tx w :: before ∧
    w.ticket input.ticketId = some ticket ∧ ticket.guestProfileId = owner ∧
    ∀ row, g.world.ticket input.ticketId = some row →
      BoundTo g i after input.deviceId row ∨ ∃ e ∈ after, ends ticket before e

/-- Once an activation has returned, its binding lasts until the staff resets it, another ticket of
the event is activated with the same device, or an activation by the owner that was already under
way commits. -/
theorem binding_lasts {w : World} (pristine : Pristine w) {c : ServiceState}
    (reachable : (service platform).Reachable w c) {i : Nat} {input : ActivateDeviceDTO}
    {owner : Uuid} {reply : Reply}
    (called : c.shared.calls[i]? = some (.activateDevice input owner))
    (returned : c.threads[i]?.bind Thread.returned = some reply) :
    Lasts c.shared i input owner fun ticket before =>
      Ends platform c.shared ticket input.deviceId before := by
  obtain ⟨tx, w', event⟩ := reachable_returned pristine reachable returned _ called
  obtain ⟨after, before, history⟩ := List.append_of_mem event
  obtain ⟨ticket, found, owned, -, stays⟩ :=
    reachable_stable pristine reachable i input owner after before tx w' called history
  have key : ticket.id = input.ticketId := Table.key_of_get? found
  refine ⟨after, before, tx, w', ticket, history, found, owned, fun row present => ?_⟩
  rcases stays with ended | since
  · exact .inr ended
  · exact .inl (since row (.inl (key ▸ present)))

section Sharing

open Sample

theorem binding_lasts_prepared :
    Lasts (run prepared).shared 2 phone guest fun ticket before =>
      Ends deployment (run prepared).shared ticket "phone" before := by
  have ended : ((run prepared).threads[2]?.bind Thread.returned).isSome := by decide +kernel
  obtain ⟨reply, returned⟩ := Option.isSome_iff_exists.mp ended
  exact binding_lasts pristine_empty (reachable_run _) rfl returned

def friend : Uuid := id 3

def friendTicket : CreateTicketInput where
  eventId := event
  invitationId := id 11
  userId := friend
  seatId := id 21
  actorId := staff

def friendPhone : ActivateDeviceDTO where
  ticketId := ⟨4, 0⟩
  publicKey := "friend-key"
  deviceId := "phone"
  ip := none

def activatedByFriend : List ServiceAct :=
  prepared ++ call 4 (.createTicket context friendTicket) 8 ++
    call 5 (.activateDevice friendPhone friend) 7

theorem friend_ends_binding : ¬∀ (platform : Platform) (w : World) (c : ServiceState) (i : Nat)
    (input : ActivateDeviceDTO) (owner : Uuid) (reply : Reply), Pristine w →
      (service platform).Reachable w c →
      c.shared.calls[i]? = some (.activateDevice input owner) →
      c.threads[i]?.bind Thread.returned = some reply →
        Lasts c.shared i input owner fun ticket _ => Resets platform c.shared ticket := by
  intro claim
  have ended : ((run activatedByFriend).threads[2]?.bind Thread.returned).isSome := by
    decide +kernel
  obtain ⟨reply, returned⟩ := Option.isSome_iff_exists.mp ended
  obtain ⟨after, before, tx, w, bound, history, -, -, lasts⟩ :=
    claim deployment World.empty (run activatedByFriend) 2 phone guest reply pristine_empty
      (reachable_run _) (by decide +kernel) returned
  have unbound : ((run activatedByFriend).shared.world.ticket ticket).any
      fun row => row.deviceId = none := by decide +kernel
  obtain ⟨row, present, gone⟩ := (Option.any_eq_true _ _).mp unbound
  simp only [decide_eq_true_eq] at gone
  rcases lasts row present with bound | ⟨e, -, j, tx, w, actorId, -, called, -⟩
  · have device := bound.device
    rw [gone] at device
    cases device
  · have calls : (run activatedByFriend).shared.calls =
        [.createTicket context ticketInput,
          .userAccessChanged (access ["ScanTickets", "ManageTickets"]), .activateDevice phone guest,
          .generateToken ticket guest, .createTicket context friendTicket,
          .activateDevice friendPhone friend] := by decide +kernel
    rw [calls] at called
    simpa using List.mem_of_getElem? called

end Sharing

end TicketService
