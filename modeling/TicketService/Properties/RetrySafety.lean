import TicketService.Properties.Provisioning

set_option autoImplicit false

namespace TicketService

open Interleaving Relational Retrying SeatHandler TicketWriteService

variable {platform : Platform}

section Revoke

structure Revoking extends Span where
  number : Nat
  context : RequestContext
  reason : Option String
  actorId : Uuid
  out : Except Exn Ticket

variable {id : Uuid} {row : Ticket} {r : Revoking} {w w' : World}

def Revoking.Runs (platform : Platform) (id : Uuid) (r : Revoking) : Prop :=
  ∃ tx, Executes platform (revoke platform (Uuid.mk r.number) r.context id r.reason r.actorId) none r.before
    r.out tx r.after

def Ticket.standing (row : Ticket) : (Uuid × Uuid × Uuid × Uuid × Uuid × Time) × Bool × Option Time :=
  (row.identity, row.revoked, row.revokedAt)

/-- Calls of `revoke` for a ticket that is not revoked, one after another. Whatever happens in between
neither deletes nor revokes the ticket. -/
structure RevokedAgain (platform : Platform) (id : Uuid) (calls : List Revoking) : Prop where
  runs : ∀ r ∈ calls, r.Runs platform id
  unrevoked : ∀ r ∈ calls.head?, ∃ row, r.before.ticket id = some row ∧ row.revoked = false
  meanwhile : calls.IsChain fun r later =>
    (later.before.ticket id).map Ticket.standing = (r.after.ticket id).map Ticket.standing

def Revoking.revokes (id : Uuid) (r : Revoking) : Bool :=
  (r.before.ticket id).any (!·.revoked) && (r.after.ticket id).any (·.revoked)

structure RevokesOnce (id : Uuid) (calls : List Revoking) : Prop where
  commits : calls.countP (Revoking.revokes id) ≤ 1
  revoked : ∀ r ∈ calls, (r.after.ticket id).any (·.revoked) = true → calls.countP (Revoking.revokes id) = 1
  returned : ∀ r ∈ calls, r.out.toBool = true → calls.countP (Revoking.revokes id) = 1
  logs : (calls.flatMap fun r => r.logs .revoked).map (·.ticketId) =
    List.replicate (calls.countP (Revoking.revokes id)) id
  facts : (calls.flatMap fun r => r.facts .ticketRevoked).map (·.payload.aggregateId) =
    List.replicate (calls.countP (Revoking.revokes id)) id
  milestones : ∀ milestone ∈ calls.flatMap fun r => r.milestones .ticketRevoked,
    ∀ other ∈ calls.flatMap fun r => r.milestones .ticketRevoked, milestone = other
  -- A milestone is published when the revocation is committed.
  announced : calls.flatMap (fun r => r.milestones .ticketRevoked) ≠ [] →
    calls.countP (Revoking.revokes id) = 1
  told : ∀ r ∈ calls, r.out.toBool = true → r.milestones .ticketRevoked ≠ []

section Outcomes

def Dated (id : Uuid) (w : World) : Prop :=
  ∃ row, w.ticket id = some row ∧ (row.revoked = true → row.revokedAt ≠ none)

def Ticket.announced (row : Ticket) : Option EventMilestoneRecordedDTO :=
  if row.revoked then row.revokedAt.map (revokedMilestone row) else none

theorem Ticket.isSome_announced (timed : row.revoked = true → row.revokedAt ≠ none) :
    row.announced.isSome = row.revoked := by
  unfold Ticket.announced
  cases revoked : row.revoked with
  | false => rfl
  | true => simpa [Option.isSome_iff_ne_none] using timed revoked

def World.announced (w : World) (id : Uuid) : Option EventMilestoneRecordedDTO :=
  (w.ticket id).bind Ticket.announced

inductive Revoking.Ends (id : Uuid) (row : Ticket) (r : Revoking) : Prop where
  | stopped {error : Exn} : r.out = .error error → Still r.before r.after → Ends id row r
  | again {revokedAt : Time} :
      row.revoked = true → row.revokedAt = some revokedAt → r.after.store = r.before.store →
      r.milestones .ticketRevoked = [revokedMilestone row revokedAt] → Ends id row r
  | revoked {now updatedAt : Time} {log : ScanLog} {fact : AnalyticsOutbox} :
      row.revoked = false →
      r.after.ticket id = some (row.updated (revokedState now r.actorId r.reason) updatedAt) →
      r.after.store.scanLogs = r.before.store.scanLogs ++ [log] → log.verdict = .revoked → log.ticketId = id →
      r.after.store.analyticsOutbox = r.before.store.analyticsOutbox ++ [fact] →
      fact.topic = .ticketRevoked → fact.payload.aggregateId = id →
      (r.milestones .ticketRevoked = [] ∧ r.out.toBool = false ∨
        r.milestones .ticketRevoked = [revokedMilestone row now]) → Ends id row r

theorem milestones_of_revoked {context : RequestContext} {milestone : EventMilestoneRecordedDTO}
    {span : Span} (kind : milestone.type = .ticketRevoked)
    (sent : span.after.sent = span.before.sent ++ [recordedMessage platform context milestone]) :
    span.milestones .ticketRevoked = [milestone] := by
  rw [Span.milestones, Span.messages_of_sent sent]
  simp [recordedMessage, Message.milestone, kind]

theorem revoking_ends (present : r.before.ticket id = some row)
    (dated : row.revoked = true → row.revokedAt ≠ none) (runs : r.Runs platform id) : r.Ends id row := by
  obtain rfl : row.id = id := Table.key_of_get? present
  obtain ⟨tx, run⟩ := runs
  rcases revoke_cases present run with
    ⟨error, out, still⟩ | ⟨revoked, out, store, occurredAt, known, sent⟩ |
    ⟨valid, now, updatedAt, createdAt, fact, enqueued, store, publishes⟩
  · exact .stopped out still
  · obtain ⟨revokedAt, recorded⟩ := Option.ne_none_iff_exists'.mp (dated revoked)
    obtain rfl : occurredAt = revokedAt := known revokedAt recorded
    exact .again revoked recorded store (milestones_of_revoked rfl sent)
  · have there : r.after.ticket row.id =
        some (row.updated (revokedState now r.actorId r.reason) updatedAt) := by
      have written := Store.ticket_putTicket r.before.store row.id row.id
        (revokedState now r.actorId r.reason row.toTicketState) updatedAt
      rw [if_pos rfl, show r.before.store.ticket row.id = some row from present] at written
      unfold World.ticket
      rw [store]
      exact written
    have scanLogs : r.after.store.scanLogs = r.before.store.scanLogs ++ [staffLogRow (Uuid.mk r.number 0)
        row.id row r.actorId .outside .revoked none none createdAt] := by
      rw [store]
      exact congrArg (· ++ _) (Store.scanLogs_putTicket ..)
    have outbox : r.after.store.analyticsOutbox = r.before.store.analyticsOutbox ++ [fact] := by
      rw [store]
      exact congrArg (· ++ _) (Store.analyticsOutbox_putTicket ..)
    refine .revoked valid there scanLogs rfl rfl outbox enqueued.topic enqueued.aggregate ?_
    rcases publishes with ⟨error, out, sent⟩ | ⟨-, sent⟩
    · refine .inl ⟨?_, by rw [out]; rfl⟩
      rw [Span.milestones, Span.messages_of_sent (sent.trans (List.append_nil _).symm)]
      rfl
    · exact .inr (milestones_of_revoked rfl sent)

def Revoking.attempt (id : Uuid) (r : Revoking) :
    Round EventMilestoneRecordedDTO EventMilestoneRecordedDTO where
  before := r.before.announced id
  after := r.after.announced id
  published := r.milestones .ticketRevoked
  succeeded := r.out.toBool

variable (present : r.before.ticket id = some row) (ends : r.Ends id row)

include present ends

theorem Revoking.Ends.dated (timed : row.revoked = true → row.revokedAt ≠ none) : Dated id r.after := by
  cases ends with
  | stopped _ still => exact ⟨row, by rw [World.ticket, still.store]; exact present, timed⟩
  | again _ _ store => exact ⟨row, by rw [World.ticket, store]; exact present, timed⟩
  | revoked _ there => exact ⟨_, there, fun _ => Option.some_ne_none _⟩

theorem Revoking.Ends.does : (r.attempt id).Does fun milestone => milestone := by
  have before : (r.attempt id).before = row.announced := by
    rw [attempt, World.announced, present, Option.bind_some]
  cases ends with
  | stopped out still =>
    refine .of_stopped ?_ ?_ ?_
    · simp [attempt, World.announced, World.ticket, still.store]
    · rw [attempt, Span.milestones, Span.messages_of_sent (still.sent.trans (List.append_nil _).symm)]
      rfl
    · rw [attempt, out]
      rfl
  | @again revokedAt revoked recorded store published =>
    have stands : row.announced = some (revokedMilestone row revokedAt) := by
      rw [Ticket.announced, if_pos revoked, recorded, Option.map_some]
    refine .of_committed ?_ (.inl (before.trans stands)) (.inr published)
    have after : (r.attempt id).after = r.before.announced id := by
      simp only [attempt, World.announced, World.ticket, store]
    exact after.trans (before.trans stands)
  | revoked valid there _ _ _ _ _ _ published =>
    refine .of_committed ?_ (.inr ?_) published
    · have after : (r.attempt id).after = (r.after.ticket id).bind Ticket.announced := rfl
      rw [after, there]
      rfl
    · rw [before, Ticket.announced, valid]
      rfl

theorem Revoking.Ends.revokes_eq (timed : row.revoked = true → row.revokedAt ≠ none) :
    r.revokes id = (r.attempt id).commits := by
  obtain ⟨row', there, timed'⟩ := ends.dated present timed
  simp only [revokes, Round.commits, attempt, World.announced, present, there, Option.bind_some,
    Option.any_some, ← Option.not_isSome, Ticket.isSome_announced timed', Ticket.isSome_announced timed]

theorem Revoking.Ends.adds :
    (r.logs .revoked).map (·.ticketId) = (if r.revokes id then [id] else []) ∧
      (r.facts .ticketRevoked).map (·.payload.aggregateId) = (if r.revokes id then [id] else []) := by
  have same (store : r.after.store = r.before.store) :
      r.revokes id = false ∧ r.logs .revoked = [] ∧ r.facts .ticketRevoked = [] := by
    have scanLogs : r.after.store.scanLogs = r.before.store.scanLogs ++ [] := by
      rw [store, List.append_nil]
    have outbox : r.after.store.analyticsOutbox = r.before.store.analyticsOutbox ++ [] := by
      rw [store, List.append_nil]
    refine ⟨?_, Span.logs_of_scanLogs scanLogs, Span.facts_of_outbox outbox⟩
    have there : r.after.ticket id = some row := by
      rw [World.ticket, store]
      exact present
    cases revoked : row.revoked <;> simp [revokes, present, there, revoked]
  cases ends with
  | stopped _ still =>
    obtain ⟨idle, logs, facts⟩ := same still.store
    simp [idle, logs, facts]
  | again _ _ store =>
    obtain ⟨idle, logs, facts⟩ := same store
    simp [idle, logs, facts]
  | revoked valid there scanLogs verdict own outbox topic aggregate =>
    have revokes : r.revokes id = true := by
      rw [Revoking.revokes, present, there]
      simp [valid, Ticket.updated, revokedState]
    rw [revokes, Span.logs_of_scanLogs scanLogs, Span.facts_of_outbox outbox]
    simp [verdict, own, topic, aggregate]

end Outcomes

section Calls

variable {calls : List Revoking}

theorem standing_congr {found found' : Option Ticket}
    (same : found'.map Ticket.standing = found.map Ticket.standing) :
    found'.bind Ticket.announced = found.bind Ticket.announced := by
  cases found with
  | none => rw [Option.map_eq_none_iff.mp same]
  | some row =>
    obtain ⟨row', rfl, alike⟩ := Option.map_eq_some_iff.mp same
    simp only [Ticket.standing, Prod.mk.injEq] at alike
    obtain ⟨id, event, -⟩ := Ticket.identity_iff.mp alike.1
    have milestone : revokedMilestone row' = revokedMilestone row := by
      funext occurredAt
      simp [revokedMilestone, id, event]
    simp [Ticket.announced, milestone, alike.2]

theorem Dated.meanwhile (dated : Dated id w)
    (same : (w'.ticket id).map Ticket.standing = (w.ticket id).map Ticket.standing) : Dated id w' := by
  obtain ⟨row, there, dated⟩ := dated
  rw [there] at same
  obtain ⟨row', there', alike⟩ := Option.map_eq_some_iff.mp same
  simp only [Ticket.standing, Prod.mk.injEq] at alike
  refine ⟨row', there', ?_⟩
  rw [alike.2.1, alike.2.2]
  exact dated

theorem dated_before (runs : ∀ r ∈ calls, r.Runs platform id) (first : ∀ r ∈ calls.head?, Dated id r.before)
    (meanwhile : calls.IsChain fun r later =>
      (later.before.ticket id).map Ticket.standing = (r.after.ticket id).map Ticket.standing) :
    ∀ r ∈ calls, Dated id r.before := by
  induction calls with
  | nil =>
    intro r member
    cases member
  | cons r rest ih =>
    obtain ⟨row, present, dated⟩ := first r (by simp)
    have ends := revoking_ends present dated (runs r List.mem_cons_self)
    have next : ∀ later ∈ rest.head?, Dated id later.before := by
      intro later member
      cases rest with
      | nil => cases member
      | cons other rest =>
        cases member
        exact (ends.dated present dated).meanwhile (List.isChain_cons_cons.mp meanwhile).1
    have rest_dated := ih (fun later member => runs later (List.mem_cons_of_mem _ member)) next meanwhile.tail
    exact List.forall_mem_cons.mpr ⟨⟨row, present, dated⟩, rest_dated⟩

theorem RevokedAgain.known (again : RevokedAgain platform id calls) (member : r ∈ calls) :
    ∃ row, r.before.ticket id = some row ∧ (row.revoked = true → row.revokedAt ≠ none) ∧ r.Ends id row := by
  have dated := dated_before again.runs (fun r first => by
    obtain ⟨row, present, valid⟩ := again.unrevoked r first
    exact ⟨row, present, by simp [valid]⟩) again.meanwhile
  obtain ⟨row, present, timed⟩ := dated r member
  exact ⟨row, present, timed, revoking_ends present timed (again.runs r member)⟩

theorem RevokedAgain.attempts (again : RevokedAgain platform id calls) :
    ∃ last, Rounds (fun milestone => milestone) none (calls.map (Revoking.attempt id)) last := by
  have chain : (calls.map (Revoking.attempt id)).IsChain
      fun attempt later => later.before = attempt.after := by
    refine List.isChain_map_of_isChain _ ?_ again.meanwhile
    intro r later same
    exact standing_congr same
  have does : ∀ attempt ∈ calls.map (Revoking.attempt id), attempt.Does fun milestone => milestone := by
    refine List.forall_mem_map.mpr fun r member => ?_
    obtain ⟨row, present, -, ends⟩ := again.known member
    exact ends.does present
  have unrevoked : ∀ attempt ∈ (calls.map (Revoking.attempt id)).head?, attempt.before = none := by
    rw [List.head?_map]
    intro attempt head
    obtain ⟨r, first, rfl⟩ := Option.map_eq_some_iff.mp head
    obtain ⟨row, present, valid⟩ := again.unrevoked r first
    simp [Revoking.attempt, World.announced, present, Ticket.announced, valid]
  exact Rounds.of_chain does chain unrevoked

theorem RevokedAgain.count (again : RevokedAgain platform id calls) :
    calls.countP (Revoking.revokes id) = (calls.map (Revoking.attempt id)).countP Round.commits := by
  rw [List.countP_map]
  refine List.countP_congr fun r member => ?_
  obtain ⟨row, present, timed, ends⟩ := again.known member
  rw [ends.revokes_eq present timed]
  rfl

theorem revoked_again_once (again : RevokedAgain platform id calls) : RevokesOnce id calls := by
  obtain ⟨last, made⟩ := again.attempts
  have one (revoked : last ≠ none) : calls.countP (Revoking.revokes id) = 1 := by
    rw [again.count, made.count_commits, if_pos ⟨rfl, revoked⟩]
  have committed {milestone : EventMilestoneRecordedDTO}
      (member : milestone ∈ calls.flatMap fun r => r.milestones .ticketRevoked) : last = some milestone := by
    obtain ⟨r, among, published⟩ := List.mem_flatMap.mp member
    obtain ⟨_, ended, rfl⟩ := made.message_eq (List.mem_map_of_mem among) published
    exact ended
  have adds (r : Revoking) (member : r ∈ calls) :
      (r.logs .revoked).map (·.ticketId) = (if r.revokes id then [id] else []) ∧
        (r.facts .ticketRevoked).map (·.payload.aggregateId) = (if r.revokes id then [id] else []) := by
    obtain ⟨row, present, -, ends⟩ := again.known member
    exact ends.adds present
  refine ⟨?_, ?_, ?_, ?_, ?_, ?_, ?_, ?_⟩
  · rw [again.count, made.count_commits]
    split <;> decide
  · intro r member revoked
    obtain ⟨row, present, timed, ends⟩ := again.known member
    obtain ⟨row', there, timed'⟩ := ends.dated present timed
    rw [there, Option.any_some, ← Ticket.isSome_announced timed'] at revoked
    refine one (made.committed (List.mem_map_of_mem member) ?_)
    have after : (r.attempt id).after = row'.announced := by
      simp only [Revoking.attempt, World.announced, there, Option.bind_some]
    rw [after]
    exact Option.isSome_iff_ne_none.mp revoked
  · intro r member returned
    exact one (made.completed (List.mem_map_of_mem member) returned).1
  · rw [List.map_flatMap]
    exact flatMap_eq_replicate fun r member => (adds r member).1
  · rw [List.map_flatMap]
    exact flatMap_eq_replicate fun r member => (adds r member).2
  · intro milestone member other member'
    exact Option.some.inj ((committed member).symm.trans (committed member'))
  · intro published
    obtain ⟨milestone, member⟩ := List.exists_mem_of_ne_nil _ published
    exact one (by simp [committed member])
  · intro r member returned
    exact (made.completed (List.mem_map_of_mem member) returned).2

end Calls

end Revoke

/-- Creation, linkage and revocation are safe to retry: redeliveries of a `ticket.create` message provide
its ticket once, and further calls of `revoke` revoke the ticket once. -/
theorem retry_safe (platform : Platform) :
    (∀ env payload raw input ticket deliveries, Mapping env payload raw input ticket →
      Redelivered platform env payload raw deliveries →
      ProvidesOnce platform env payload input ticket deliveries) ∧
    ∀ id calls, RevokedAgain platform id calls → RevokesOnce id calls :=
  ⟨fun _ _ _ _ _ _ => redelivered_provides_once, fun _ _ => revoked_again_once⟩

namespace Sample

def spell (id : Uuid) : String :=
  "0190a5d0-7d0a-7cc3-9d0e-3f1f6a1b2c" ++ (if id.draw < 10 then "0" else "") ++ toString id.draw

def invitation : CreateUserWithInvitationIdDTO where
  token := "token"
  invitationId := id 10
  userId := guest

def seat : GuestTicket where
  invitationId := id 10
  seatId := id 20

def guestTickets : GuestTicketKey where
  eventId := event
  actorId := staff
  tickets := [seat]

def cachedText : String :=
  "\x7b\"eventId\":\"" ++ spell event ++ "\",\"actorId\":\"" ++ spell staff ++
    "\",\"tickets\":[\x7b\"invitationId\":\"" ++ spell (id 10) ++ "\",\"seatId\":\"" ++ spell (id 20) ++
    "\"\x7d]\x7d"

def cached : PartialGuestTicketKey where
  eventId := some event
  actorId := some staff
  tickets := some [{ invitationId := some (id 10), seatId := some (id 20) }]

def seatEnv : SeatEnv where
  service := "ticket-service"
  parse raw := if raw = cachedText then .ok cached else .error "Unexpected token"
  spell := spell

theorem mapping : Mapping seatEnv invitation cachedText guestTickets seat where
  parsed := by
    have value : seatEnv.parse cachedText = .ok cached := by simp only [seatEnv, if_true]
    have key : guestTicketKey seatEnv cached = some guestTickets := by decide +kernel
    simp only [parseGuestTicketKey, value, key]
  found := by decide +kernel

def deliver (number : Nat) (cached : Except Exn (Option String)) (w : World) : Redelivery :=
  let ended := (engine deployment).perform
    (handleCreateTicket deployment seatEnv (Uuid.mk number) context (fun _ => cached) invitation) none w
  { before := w
    after := ended.2.2
    number := number
    context := context
    read := fun _ => cached
    out := ended.1 }

theorem deliver_before (number : Nat) (cached : Except Exn (Option String)) (w : World) :
    (deliver number cached w).before = w := rfl

def deliveries : List Redelivery :=
  let failed := deliver 0 (.error .statementFailed) World.empty
  let created := deliver 1 (.ok (some cachedText)) failed.after
  [failed, created, deliver 2 (.ok (some cachedText)) created.after]

def revoke (number : Nat) (reason : String) (w : World) : Revoking :=
  let ended := (engine deployment).perform (TicketWriteService.revoke deployment (Uuid.mk number) context
    ticket (some reason) staff) none w
  { before := w
    after := ended.2.2
    number := number
    context := context
    reason := some reason
    actorId := staff
    out := ended.1 }

theorem revoke_before (number : Nat) (reason : String) (w : World) :
    (revoke number reason w).before = w := rfl

def revocations : List Revoking :=
  let first := revoke 4 "stolen" (run prepared).shared.world
  [first, revoke 5 "lost" first.after]

end Sample

open Sample in
theorem retry_safe_deployed :
    ProvidesOnce deployment seatEnv invitation guestTickets seat deliveries ∧
      RevokesOnce Sample.ticket revocations := by
  have delivered (number : Nat) (cached : Except Exn (Option String)) (w : World) :
      (deliver number cached w).Runs deployment seatEnv invitation :=
    ⟨_, Engine.performs (engine deployment) Ticks _ none w⟩
  have revoked (number : Nat) (reason : String) (w : World) :
      (Sample.revoke number reason w).Runs deployment Sample.ticket :=
    ⟨_, Engine.performs (engine deployment) Ticks _ none w⟩
  have redelivered : Redelivered deployment seatEnv invitation cachedText deliveries := by
    refine ⟨?_, ?_, .cons_cons (by rw [deliver_before])
      (.cons_cons (by rw [deliver_before]) (.singleton _))⟩
    · exact List.forall_mem_cons.mpr ⟨delivered .., List.forall_mem_cons.mpr
        ⟨delivered .., List.forall_mem_singleton.mpr (delivered ..)⟩⟩
    · exact List.forall_mem_cons.mpr ⟨.inr ⟨_, rfl⟩, List.forall_mem_cons.mpr
        ⟨.inl rfl, List.forall_mem_singleton.mpr (.inl rfl)⟩⟩
  have unrevoked : ((run prepared).shared.world.ticket Sample.ticket).any (fun row => !row.revoked) = true := by
    decide +kernel
  have again : RevokedAgain deployment Sample.ticket revocations := by
    refine ⟨?_, ?_, .cons_cons (by rw [revoke_before]) (.singleton _)⟩
    · exact List.forall_mem_cons.mpr ⟨revoked .., List.forall_mem_singleton.mpr (revoked ..)⟩
    · intro r first
      obtain rfl := Option.some.inj first
      obtain ⟨row, present, valid⟩ := (Option.any_eq_true _ _).mp unrevoked
      exact ⟨row, present, by simpa using valid⟩
  exact ⟨(retry_safe deployment).1 seatEnv invitation cachedText guestTickets seat deliveries mapping
    redelivered, (retry_safe deployment).2 Sample.ticket revocations again⟩

end TicketService
