import TicketService.Interleaving.Reach
import TicketService.Model.SeatHandler
import TicketService.Refinement.Outcomes
import TicketService.Refinement.Spans
import TicketService.Shared.Retries

set_option autoImplicit false

namespace TicketService

open Interleaving Relational Retrying SeatHandler TicketWriteService

variable {platform : Platform}

structure Redelivery extends Span where
  number : Nat
  context : RequestContext
  -- What the cache answers.
  read : String → Except Exn (Option String)
  out : Except Exn Unit

variable {env : SeatEnv} {payload : CreateUserWithInvitationIdDTO} {raw : String} {input : GuestTicketKey}
  {ticket : GuestTicket}

def Redelivery.Runs (platform : Platform) (env : SeatEnv) (payload : CreateUserWithInvitationIdDTO)
    (d : Redelivery) : Prop :=
  ∃ tx, Executes platform
    (handleCreateTicket platform env (Uuid.mk d.number) d.context d.read payload) none d.before d.out tx
    d.after

structure Mapping (env : SeatEnv) (payload : CreateUserWithInvitationIdDTO) (raw : String)
    (input : GuestTicketKey) (ticket : GuestTicket) : Prop where
  parsed : parseGuestTicketKey env raw = .ok input
  found : input.tickets.find? (fun ticket => ticket.invitationId = payload.invitationId) = some ticket

/-- Deliveries of one message, one after another. Whatever happens in between neither creates nor
removes the ticket of the invitation. -/
structure Redelivered (platform : Platform) (env : SeatEnv) (payload : CreateUserWithInvitationIdDTO)
    (raw : String) (deliveries : List Redelivery) : Prop where
  runs : ∀ d ∈ deliveries, d.Runs platform env payload
  cached : ∀ d ∈ deliveries,
    d.read payload.token = .ok (some raw) ∨ ∃ error, d.read payload.token = .error error
  meanwhile : deliveries.IsChain fun d later =>
    (later.before.invited payload.invitationId).map Ticket.identity =
      (d.after.invited payload.invitationId).map Ticket.identity

def Provisioned (payload : CreateUserWithInvitationIdDTO) (input : GuestTicketKey) (ticket : GuestTicket)
    (w : World) : Prop :=
  ∃ row ∈ w.store.tickets.rows, row.invitationId = payload.invitationId ∧
    row.guestProfileId = payload.userId ∧ row.seatId = ticket.seatId ∧ row.eventId = input.eventId

structure ProvidesOnce (platform : Platform) (env : SeatEnv) (payload : CreateUserWithInvitationIdDTO)
    (input : GuestTicketKey) (ticket : GuestTicket) (deliveries : List Redelivery) : Prop where
  tickets : (deliveries.flatMap fun d => d.tickets).length ≤ 1
  -- The facts are those of the tickets.
  facts : (deliveries.flatMap fun d => d.facts .ticketGenerated).map (·.payload.aggregateId) =
    (deliveries.flatMap fun d => d.tickets).map (·.id)
  milestones : ∀ milestone ∈ deliveries.flatMap fun d => d.milestones .ticketGenerated,
    ∀ other ∈ deliveries.flatMap fun d => d.milestones .ticketGenerated, milestone = other
  -- Whenever a delivery comes to send the link, the ticket is there.
  linked : ∀ d ∈ deliveries, ∀ message header tx w,
    Reaches (engine platform) Ticks (.send (.addGuestId message header))
      (handleCreateTicket platform env (Uuid.mk d.number) d.context d.read payload) none d.before tx w →
    Provisioned payload input ticket w
  told : ∀ d ∈ deliveries, d.out = .ok () → d.milestones .ticketGenerated ≠ [] ∧ d.links ≠ []

section Handler

variable {uuid : Nat → Uuid} {context : RequestContext} {read : String → Except Exn (Option String)}
  {out : Except Exn Unit} {tx tx' : Option Tx} {w w' : World} {row : Ticket}

def generatedMessage (platform : Platform) (context : RequestContext) (row : Ticket) : Message :=
  recordedMessage platform context (generatedMilestone row)

def linkMessage (platform : Platform) (env : SeatEnv) (context : RequestContext)
    (payload : CreateUserWithInvitationIdDTO) (input : GuestTicketKey) : Message :=
  .addGuestId (addGuestId payload input.actorId) (linkMeta platform env context input.actorId)

inductive Sends (platform : Platform) (env : SeatEnv) (context : RequestContext)
    (payload : CreateUserWithInvitationIdDTO) (input : GuestTicketKey) (row : Ticket) :
    Except Exn Unit → List Message → Prop where
  | nothing (error : Exn) : Sends platform env context payload input row (.error error) []
  | milestone (error : Exn) :
      Sends platform env context payload input row (.error error) [generatedMessage platform context row]
  | all : Sends platform env context payload input row (.ok ())
      [generatedMessage platform context row, linkMessage platform env context payload input]

theorem provision_cases
    (run : Executes platform (provision platform env uuid context payload input ticket) none w out tx' w') :
    (∃ error, out = .error error ∧ Still w w') ∨
      ∃ row messages, Provides platform uuid context (ticketInput payload input ticket) w row w' ∧
        Sends platform env context payload input row out messages ∧ w'.sent = w.sent ++ messages := by
  rcases run.bind_cases with ⟨error, rfl, first⟩ | ⟨row, tx₁, w₁, first, rest⟩
  · rcases createTicket_cases first with stopped | ⟨row, provides, ⟨_, -, sent⟩ | ⟨returned, -⟩⟩
    · exact .inl ⟨error, rfl, stopped.elim fun _ stopped => stopped.2⟩
    · exact .inr ⟨row, [], provides, .nothing error, by rw [sent, List.append_nil]⟩
    · cases returned
  · rcases createTicket_cases first with ⟨_, thrown, -⟩ | ⟨row', provides, ⟨_, thrown, -⟩ | ⟨same, sent⟩⟩
    · cases thrown
    · cases thrown
    · cases same
      rcases send_cases rest with ⟨error, rfl, still⟩ | ⟨rfl, store, sent'⟩
      · exact .inr ⟨row, _, provides.congr still.store, .milestone error, still.sent.trans sent⟩
      · refine .inr ⟨row, _, provides.congr store, .all, ?_⟩
        rw [sent', sent, List.append_assoc]
        rfl

end Handler

section Accounts

variable {d : Redelivery} {row : Ticket} {data : CreateTicketInput} {uuid : Nat → Uuid}
  {context : RequestContext} {messages : List Message}

theorem Provides.adds {span : Span} (provides : Provides platform uuid context data span.before row span.after) :
    span.tickets.length = (if (span.before.invited data.invitationId).isNone then 1 else 0) ∧
      (span.facts .ticketGenerated).map (·.payload.aggregateId) = span.tickets.map (·.id) := by
  cases provides with
  | existing there _ _ _ store =>
    have none_new : span.tickets = [] := Span.tickets_of_rows (by simp [store]) (by simp)
    have outbox : span.after.store.analyticsOutbox = span.before.store.analyticsOutbox ++ [] := by
      rw [store, List.append_nil]
    have no_fact : span.facts .ticketGenerated = [] := Span.facts_of_outbox outbox
    simp [none_new, no_fact, there]
  | created absent new free enqueued store =>
    rename_i createdAt fact
    obtain ⟨unknown, -⟩ := taken_eq_false.mp free
    have rows : span.after.store.tickets.rows = span.before.store.tickets.rows ++ [row] := by
      rw [store]
      exact Table.rows_insert unknown
    have fresh : row ∉ span.before.store.tickets.rows := by
      intro member
      have found := List.find?_eq_none.mp absent row member
      simp [new, newTicket] at found
    have one_new : span.tickets = [row] := Span.tickets_of_rows rows (by simpa using fresh)
    have outbox : span.after.store.analyticsOutbox = span.before.store.analyticsOutbox ++ [fact] := by
      rw [store]
      rfl
    have one_fact : span.facts .ticketGenerated = [fact] := by
      rw [Span.facts_of_outbox outbox]
      simp [enqueued.topic]
    rw [one_new, one_fact, absent]
    exact ⟨rfl, congrArg (fun id => [id]) enqueued.aggregate⟩

end Accounts

section Deliveries

variable {d : Redelivery} {deliveries : List Redelivery}

def Redelivery.attempt (invitationId : Uuid) (d : Redelivery) :
    Round EventMilestoneRecordedDTO EventMilestoneRecordedDTO where
  before := (d.before.invited invitationId).map generatedMilestone
  after := (d.after.invited invitationId).map generatedMilestone
  published := d.milestones .ticketGenerated
  succeeded := d.out.toBool

theorem handler_cases (mapping : Mapping env payload raw input ticket) (runs : d.Runs platform env payload)
    (cached : d.read payload.token = .ok (some raw) ∨ ∃ error, d.read payload.token = .error error) :
    (∃ error, d.out = .error error ∧ Still d.before d.after) ∨
      ∃ row messages, Provides platform (Uuid.mk d.number) d.context (ticketInput payload input ticket)
          d.before row d.after ∧
        Sends platform env d.context payload input row d.out messages ∧
        d.after.sent = d.before.sent ++ messages := by
  obtain ⟨tx, run⟩ := runs
  unfold handleCreateTicket at run
  rcases cached with answered | ⟨error, failed⟩
  · rw [answered] at run
    cases full : truthy (some raw) with
    | none =>
      simp only [full] at run
      exact .inl ⟨_, throw_cases run⟩
    | some text =>
      obtain rfl : raw = text := Option.some.inj (Option.filter_eq_some_iff.mp full).1
      simp only [full, mapping.parsed, mapping.found] at run
      exact provision_cases run
  · rw [failed] at run
    exact .inl ⟨_, throw_cases run⟩

theorem Sends.published {context : RequestContext} {row : Ticket} {out : Except Exn Unit}
    {messages : List Message} (sends : Sends platform env context payload input row out messages) :
    messages.filterMap (Message.milestone .ticketGenerated) = [] ∧ out.toBool = false ∨
      messages.filterMap (Message.milestone .ticketGenerated) = [generatedMilestone row] := by
  cases sends with
  | nothing => exact .inl ⟨rfl, rfl⟩
  | milestone => exact .inr rfl
  | all => exact .inr rfl

theorem Redelivery.does (mapping : Mapping env payload raw input ticket) (runs : d.Runs platform env payload)
    (cached : d.read payload.token = .ok (some raw) ∨ ∃ error, d.read payload.token = .error error) :
    (d.attempt payload.invitationId).Does id := by
  rcases handler_cases mapping runs cached with ⟨error, out, still⟩ | ⟨row, messages, provides, sends, sent⟩
  · refine .of_stopped ?_ ?_ ?_
    · simp [attempt, World.invited, still.store]
    · have silent : d.messages = [] := Span.messages_of_sent (by rw [still.sent, List.append_nil])
      simp [attempt, Span.milestones, silent]
    · simp [attempt, out, Except.toBool]
  · have published : d.milestones .ticketGenerated =
        messages.filterMap (Message.milestone .ticketGenerated) := by
      rw [Span.milestones, Span.messages_of_sent sent]
    refine .of_committed (congrArg (Option.map generatedMilestone) provides.invited.1) ?_ ?_
    · cases provides with
      | existing there => exact .inl (congrArg (Option.map generatedMilestone) there)
      | created absent => exact .inr (congrArg (Option.map generatedMilestone) absent)
    · rw [attempt, published]
      exact sends.published

theorem Redelivery.adds (mapping : Mapping env payload raw input ticket) (runs : d.Runs platform env payload)
    (cached : d.read payload.token = .ok (some raw) ∨ ∃ error, d.read payload.token = .error error) :
    d.tickets.length = (if (d.attempt payload.invitationId).commits then 1 else 0) ∧
      (d.facts .ticketGenerated).map (·.payload.aggregateId) = d.tickets.map (·.id) := by
  rcases handler_cases mapping runs cached with ⟨error, out, still⟩ | ⟨row, messages, provides, sends, sent⟩
  · have rows : d.tickets = [] := Span.tickets_of_rows (by simp [still.store]) (by simp)
    have outbox : d.after.store.analyticsOutbox = d.before.store.analyticsOutbox ++ [] := by
      rw [still.store, List.append_nil]
    have facts : d.facts .ticketGenerated = [] := Span.facts_of_outbox outbox
    have idle : (d.attempt payload.invitationId).commits = false := by
      simp [attempt, Round.commits, World.invited, still.store]
    simp [rows, facts, idle]
  · have added := provides.adds
    have after : (d.attempt payload.invitationId).after.isSome := by
      rw [attempt, show d.after.invited payload.invitationId = some row from provides.invited.1]
      rfl
    have commits : (d.attempt payload.invitationId).commits =
        (d.before.invited payload.invitationId).isNone := by
      rw [Round.commits, after, Bool.and_true]
      simp [attempt]
    rw [commits]
    exact added

theorem Sends.told {context : RequestContext} {row : Ticket} {out : Except Exn Unit}
    {messages : List Message} (sends : Sends platform env context payload input row out messages)
    (returned : out = .ok ()) :
    messages.filterMap (Message.milestone .ticketGenerated) ≠ [] ∧ messages.filterMap Message.link ≠ [] := by
  cases sends with
  | nothing => cases returned
  | milestone => cases returned
  | all => exact ⟨nofun, nofun⟩

def Stmt.unlinked (stmt : Stmt) : Prop :=
  ∀ message header, stmt ≠ .send (.addGuestId message header)

theorem unlinked_createTicket {uuid : Nat → Uuid} {context : RequestContext} {data : CreateTicketInput} :
    (createTicket platform uuid context data).Issues Stmt.unlinked := by
  have enqueues (id : Uuid) (topic : FactTopic) (fact : FactInput) :
      (AnalyticsOutboxService.enqueue platform context id topic fact).Issues Stmt.unlinked := by
    unfold AnalyticsOutboxService.enqueue
    split
    · trivial
    · refine .bind (.perform nofun) fun _ => ?_
      split
      · exact .bind (.perform nofun) fun _ => trivial
      · trivial
  have publishes (row : Ticket) : ((publishMilestone platform (generatedMilestone row) context).bind
      fun _ => (.done row : Program Ticket)).Issues Stmt.unlinked :=
    .bind (.bind (.perform nofun) fun _ => trivial) fun _ => trivial
  refine .bind (.perform nofun) fun existing => ?_
  cases existing with
  | some existing =>
    dsimp only
    split
    · trivial
    · exact publishes existing
  | none =>
    refine .bind (.transaction ?_) publishes
    exact .bind (.perform nofun) fun row => .bind (enqueues _ _ _) fun _ => trivial

theorem handler_tells (mapping : Mapping env payload raw input ticket) (runs : d.Runs platform env payload)
    (cached : d.read payload.token = .ok (some raw) ∨ ∃ error, d.read payload.token = .error error)
    (returned : d.out = .ok ()) : d.milestones .ticketGenerated ≠ [] ∧ d.links ≠ [] := by
  rcases handler_cases mapping runs cached with ⟨error, out, -⟩ | ⟨row, messages, -, sends, sent⟩
  · rw [out] at returned
    cases returned
  · rw [Span.milestones, Span.links, Span.messages_of_sent sent]
    exact sends.told returned

theorem milestone_of_identity {found found' : Option Ticket}
    (same : found'.map Ticket.identity = found.map Ticket.identity) :
    found'.map generatedMilestone = found.map generatedMilestone := by
  cases found with
  | none => rw [Option.map_eq_none_iff.mp same]
  | some row =>
    obtain ⟨row', rfl, alike⟩ := Option.map_eq_some_iff.mp same
    obtain ⟨id, event, -, -, -, created⟩ := Ticket.identity_iff.mp alike
    simp [generatedMilestone, id, event, created]

theorem provisioned_of_reaches {uuid : Nat → Uuid} {context : RequestContext} {message : AddGuestIdDTO}
    {header : MessageMeta} {tx : Option Tx} {w w' : World}
    (reaches : Reaches (engine platform) Ticks (.send (.addGuestId message header))
      (provision platform env uuid context payload input ticket) none w tx w') :
    Provisioned payload input ticket w' := by
  rcases reaches.bind_cases with first | ⟨row, tx₁, w₁, created, sending⟩
  · exact absurd rfl (first.kind_of_issues unlinked_createTicket message header)
  · rcases sending.bind_cases with first | ⟨_, _, _, -, done⟩
    · obtain ⟨-, -, later⟩ := first.perform_cases
      have same := (Ticked.of_later later).store
      rcases createTicket_cases created with ⟨_, thrown, -⟩ | ⟨row', provides, -⟩
      · cases thrown
      · obtain ⟨there, event, guest, seat⟩ := provides.invited
        rw [World.invited, ← same] at there
        have invitation : row'.invitationId = (ticketInput payload input ticket).invitationId := by
          simpa using List.find?_some there
        exact ⟨row', List.mem_of_find?_eq_some there, invitation, guest, seat, event⟩
    · exact (Reaches.done_false done).elim

theorem handler_links {message : AddGuestIdDTO} {header : MessageMeta} {tx : Option Tx} {w : World}
    (mapping : Mapping env payload raw input ticket)
    (cached : d.read payload.token = .ok (some raw) ∨ ∃ error, d.read payload.token = .error error)
    (reaches : Reaches (engine platform) Ticks (.send (.addGuestId message header))
      (handleCreateTicket platform env (Uuid.mk d.number) d.context d.read payload) none d.before tx w) :
    Provisioned payload input ticket w := by
  unfold handleCreateTicket at reaches
  rcases cached with answered | ⟨error, failed⟩
  · rw [answered] at reaches
    cases full : truthy (some raw) with
    | none =>
      simp only [full] at reaches
      exact (Reaches.throw_false reaches).elim
    | some text =>
      obtain rfl : raw = text := Option.some.inj (Option.filter_eq_some_iff.mp full).1
      simp only [full, mapping.parsed, mapping.found] at reaches
      exact provisioned_of_reaches reaches
  · rw [failed] at reaches
    exact (Reaches.throw_false reaches).elim

end Deliveries

theorem redelivered_provides_once {deliveries : List Redelivery}
    (mapping : Mapping env payload raw input ticket)
    (redelivered : Redelivered platform env payload raw deliveries) :
    ProvidesOnce platform env payload input ticket deliveries := by
  have does (d : Redelivery) (member : d ∈ deliveries) :=
    d.does mapping (redelivered.runs d member) (redelivered.cached d member)
  have adds (d : Redelivery) (member : d ∈ deliveries) :=
    d.adds mapping (redelivered.runs d member) (redelivered.cached d member)
  let attempt := Redelivery.attempt payload.invitationId
  have chain : (deliveries.map attempt).IsChain fun attempt later => later.before = attempt.after := by
    refine List.isChain_map_of_isChain attempt ?_ redelivered.meanwhile
    intro d later same
    exact milestone_of_identity same
  obtain ⟨last, made⟩ := @Rounds.of_chain _ _ id ((deliveries.map attempt).head?.bind Round.before)
    (deliveries.map attempt) (List.forall_mem_map.mpr does) chain (by cases deliveries <;> simp)
  have count : (deliveries.flatMap fun d => d.tickets).length = (deliveries.map attempt).countP Round.commits := by
    rw [List.countP_map]
    exact length_flatMap_eq_countP fun d member => (adds d member).1
  have committed {milestone : EventMilestoneRecordedDTO}
      (member : milestone ∈ deliveries.flatMap fun d => d.milestones .ticketGenerated) :
      last = some milestone := by
    obtain ⟨d, among, published⟩ := List.mem_flatMap.mp member
    obtain ⟨_, ended, rfl⟩ := made.message_eq (List.mem_map_of_mem among) published
    exact ended
  refine ⟨?_, ?_, ?_, ?_, ?_⟩
  · rw [count, made.count_commits]
    split <;> decide
  · rw [List.map_flatMap, List.map_flatMap]
    exact List.flatMap_congr fun d member => (adds d member).2
  · intro milestone member other member'
    exact Option.some.inj ((committed member).symm.trans (committed member'))
  · intro d member message header tx w reaches
    exact handler_links mapping (redelivered.cached d member) reaches
  · intro d member returned
    exact handler_tells mapping (redelivered.runs d member) (redelivered.cached d member) returned

end TicketService
