import TicketService.Refinement.Exits
import TicketService.Refinement.Writes

set_option autoImplicit false

namespace TicketService

open Interleaving Relational AnalyticsOutboxService TicketEventRoleResolver TicketWriteService

variable {platform : Platform} {α β : Type} {tx tx' : Option Tx} {w w' : World}

structure Still (w w' : World) : Prop where
  store : w'.store = w.store
  sent : w'.sent = w.sent

theorem Still.trans {w₁ w₂ w₃ : World} (first : Still w₁ w₂) (second : Still w₂ w₃) : Still w₁ w₃ :=
  ⟨second.store.trans first.store, second.sent.trans first.sent⟩

theorem Ticked.still (ticked : Ticked w w') : Still w w' := by
  obtain ⟨ms, rfl⟩ := ticked
  exact ⟨rfl, rfl⟩

section Silent

def World.outward (w : World) : Store × List Message :=
  (w.store, w.sent)

theorem exec_silent {stmt : Stmt} {result : stmt.Res} (silent : Silent stmt)
    (executed : exec platform stmt w tx = some (result, w', tx')) : w'.outward = w.outward := by
  cases exec_effect executed with
  | reads => rfl
  | mints => rfl
  | sends message => exact absurd rfl (silent.2 message)
  | writes => rfl
  | _ => cases silent.1

theorem ticks_silent (action : EnvAct) (w : World) (ticks : Ticks action) :
    (action.apply w).outward = w.outward := by
  cases action with
  | tick => rfl
  | expire => exact ticks.elim
  | sign => exact ticks.elim

theorem still_of_silent {p : Program α} {out : Except Exn α} (silent : p.Leaves Silent)
    (run : Executes platform p tx w out tx' w') : Still w w' := by
  have same : w'.outward = w.outward :=
    Alone.leaves (fun _ _ _ _ _ _ silent executed => exec_silent silent executed) ticks_silent run silent
  exact ⟨congrArg Prod.fst same, congrArg Prod.snd same⟩

open Prog

theorem silent_createTransaction {uuid : Nat → Uuid} {context : RequestContext}
    {data : CreateTicketInput} : (createTransaction platform uuid context data).Leaves Silent :=
  Leaves.bind (silent_issue ⟨rfl, nofun⟩) fun _ => Leaves.bind silent_enqueue fun _ => trivial

theorem silent_revokeTransaction {uuid : Nat → Uuid} {context : RequestContext} {ticketId actorId : Uuid}
    {reason : Option String} {now : Time} {ticket : Ticket} :
    (revokeTransaction platform uuid context ticketId actorId reason now ticket).Leaves Silent :=
  Leaves.bind (silent_issue ⟨rfl, nofun⟩) fun _ =>
    Leaves.bind (silent_issue ⟨rfl, nofun⟩) fun _ => Leaves.bind silent_enqueue fun _ => trivial

end Silent

section Cases

variable {out : Except Exn β}

theorem read_cases {stmt : Stmt} {value : World → stmt.Res} {next : stmt.Res → Program β}
    (reading : ∀ w, exec platform stmt w tx = some (value w, w, tx))
    (run : Executes platform ((issue stmt).bind next) tx w out tx' w') :
    (∃ error, out = .error error ∧ Still w w') ∨
      ∃ w₁ w₂, Ticked w w₁ ∧ Ticked w₁ w₂ ∧ Executes platform (next (value w₁)) tx w₂ out tx' w' := by
  rcases run.bind_cases with ⟨error, ended, first⟩ | ⟨first, tx₁, w₃, run, rest⟩
  · rcases first.perform_cases with ⟨-, -, later⟩ | ⟨_, _, _, returned, -⟩
    · exact .inl ⟨error, ended, (Ticked.of_later later).still⟩
    · cases returned
  · rcases run.perform_cases with ⟨failed, -⟩ | ⟨result, w₁, w₂, returned, before, executed, after⟩
    · cases failed
    · have same := (reading w₁).symm.trans executed
      cases same
      cases returned
      exact .inr ⟨w₁, w₃, .of_later before, .of_later after, rest⟩

theorem done_cases {value : β} (run : Executes platform (.done value) tx w out tx' w') :
    out = .ok value ∧ Still w w' := by
  obtain ⟨ended, -, later⟩ := run.done_cases
  exact ⟨ended, (Ticked.of_later later).still⟩

theorem throw_cases {error : Exn} (run : Executes platform (.throw error) tx w out tx' w') :
    out = .error error ∧ Still w w' := by
  obtain ⟨ended, -, later⟩ := run.throw_cases
  exact ⟨ended, (Ticked.of_later later).still⟩

theorem send_cases {message : Message} {out : Except Exn Unit}
    (run : Executes platform (discard (.send message)) tx w out tx' w') :
    (∃ error, out = .error error ∧ Still w w') ∨
      out = .ok () ∧ w'.store = w.store ∧ w'.sent = w.sent ++ [message] := by
  rcases run.bind_cases with ⟨error, ended, sending⟩ | ⟨⟨⟩, tx₁, w₁, sending, done⟩
  · rcases sending.perform_cases with ⟨-, -, later⟩ | ⟨_, _, _, returned, -⟩
    · exact .inl ⟨error, ended, (Ticked.of_later later).still⟩
    · cases returned
  · rcases sending.perform_cases with ⟨failed, -⟩ | ⟨⟨⟩, w₂, w₃, -, before, executed, after⟩
    · cases failed
    · cases executed
      obtain ⟨ended, still⟩ := done_cases done
      have before := (Ticked.of_later before).still
      have still := (Ticked.of_later after).still.trans still
      exact .inr ⟨ended, still.store.trans before.store,
        still.sent.trans (congrArg (· ++ [message]) before.sent)⟩

theorem silent_cases {p : Program α} {next : α → Program β} (silent : p.Leaves Silent)
    (run : Executes platform (p.bind next) tx w out tx' w') :
    (∃ error, out = .error error ∧ Still w w') ∨
      ∃ value tx₁ w₁, Still w w₁ ∧ Executes platform p tx w (.ok value) tx₁ w₁ ∧
        Executes platform (next value) tx₁ w₁ out tx' w' := by
  rcases run.bind_cases with ⟨error, ended, first⟩ | ⟨value, tx₁, w₁, first, rest⟩
  · exact .inl ⟨error, ended, still_of_silent silent first⟩
  · exact .inr ⟨value, tx₁, w₁, still_of_silent silent first, first, rest⟩

theorem transaction_cases {body : Program α} {next : α → Program β} (silent : body.Leaves Silent)
    (run : Executes platform ((transaction body).bind next) tx w out tx' w') :
    (∃ error, out = .error error ∧ Still w w') ∨
      ∃ value t w₁ w₂ w₃, Still w w₁ ∧
        Executes platform body (some ⟨[]⟩) w₁ (.ok value) (some t) w₂ ∧
        w₃.store = t.apply w.store ∧ w₃.sent = w.sent ∧ Executes platform (next value) none w₃ out tx' w' := by
  rcases run.bind_cases with ⟨error, ended, first⟩ | ⟨value, tx₁, w₁, first, rest⟩
  · obtain ⟨w₁, later, whole⟩ := first.start_cases
    have before := (Ticked.of_later later).still
    rcases whole.bind_cases with ⟨_, -, thrown⟩ | ⟨value, tx₂, w₂, body, committing⟩
    · exact .inl ⟨error, ended, before.trans (still_of_silent silent thrown)⟩
    · have still := before.trans (still_of_silent silent body)
      obtain ⟨w₃, later, aborted | ⟨t, -, committed⟩⟩ := committing.commit_cases
      · exact .inl ⟨error, ended, still.trans ((Ticked.of_later later).still.trans (throw_cases aborted).2)⟩
      · cases (done_cases committed).1
  · obtain ⟨rfl, t, w₂, w₃, w₄, then₂, body, then₄, last⟩ := transaction_returns first
    have still := then₂.still.trans ((still_of_silent silent body).trans then₄.still)
    refine .inr ⟨value, t, w₂, w₃, w₁, then₂.still, body, ?_, ?_, rest⟩
    · exact last.still.store.trans (congrArg t.apply still.store)
    · exact last.still.sent.trans still.sent

end Cases

section Publish

variable {out : Except Exn β} {context : RequestContext}

def recordedMessage (platform : Platform) (context : RequestContext)
    (milestone : EventMilestoneRecordedDTO) : Message :=
  .milestoneRecorded milestone (ScanService.messageMeta platform context context.principalActorId)

theorem publish_cases {milestone : EventMilestoneRecordedDTO} {value : β}
    (run : Executes platform ((publishMilestone platform milestone context).bind fun _ => .done value) tx w
      out tx' w') :
    (∃ error, out = .error error ∧ Still w w') ∨
      out = .ok value ∧ w'.store = w.store ∧
        w'.sent = w.sent ++ [recordedMessage platform context milestone] := by
  rcases run.bind_cases with ⟨error, ended, first⟩ | ⟨⟨⟩, tx₁, w₁, first, done⟩
  · rcases send_cases first with ⟨_, -, still⟩ | ⟨returned, -⟩
    · exact .inl ⟨error, ended, still⟩
    · cases returned
  · rcases send_cases first with ⟨_, thrown, -⟩ | ⟨-, store, sent⟩
    · cases thrown
    · obtain ⟨ended, still⟩ := done_cases done
      exact .inr ⟨ended, still.store.trans store, still.sent.trans sent⟩

end Publish

section Create

variable {uuid : Nat → Uuid} {context : RequestContext} {data : CreateTicketInput} {t : Tx}
  {result : Ticket} {out : Except Exn Ticket}

inductive Provides (platform : Platform) (uuid : Nat → Uuid) (context : RequestContext)
    (data : CreateTicketInput) (w : World) (row : Ticket) : World → Prop where
  | existing {w' : World} :
      w.invited data.invitationId = some row → row.eventId = data.eventId →
      row.guestProfileId = data.userId → row.seatId = data.seatId → w'.store = w.store →
      Provides platform uuid context data w row w'
  | created {w' : World} {createdAt : Time} {fact : AnalyticsOutbox} :
      w.invited data.invitationId = none → row = newTicket (uuid 0) data createdAt →
      w.taken row = false → Enqueued platform context (uuid 1) .ticketGenerated (generatedFact row) fact →
      w'.store = (Tx.mk [.insertTicket row, .insertOutbox fact]).apply w.store →
      Provides platform uuid context data w row w'

theorem createTransaction_returns
    (run : Executes platform (createTransaction platform uuid context data) (some ⟨[]⟩) w (.ok result)
      (some t) w') :
    ∃ createdAt fact, result = newTicket (uuid 0) data createdAt ∧ w.taken result = false ∧
      Enqueued platform context (uuid 1) .ticketGenerated (generatedFact result) fact ∧
      t = ⟨[.insertTicket result, .insertOutbox fact]⟩ := by
  obtain ⟨row, tx₁, w₁, w₂, w₃, first, executed, -, run⟩ := stmt_returns run
  have store : (w₁.view (some ⟨[]⟩)).store = w.store := first.store
  simp only [exec] at executed
  split at executed
  next => cases executed
  next free =>
    cases executed
    obtain ⟨⟨⟩, tx₄, w₄, recording, done⟩ := bind_returns run
    obtain ⟨-, fact, enqueued, rfl⟩ := enqueue_returns recording
    obtain ⟨rfl, written, -⟩ := done_returns done
    cases written
    refine ⟨w₁.clock, fact, rfl, ?_, enqueued, rfl⟩
    rw [World.taken, store] at free
    exact Bool.eq_false_iff.mpr free

theorem createTicket_cases
    (run : Executes platform (createTicket platform uuid context data) none w out tx' w') :
    (∃ error, out = .error error ∧ Still w w') ∨
      ∃ row, Provides platform uuid context data w row w' ∧
        ((∃ error, out = .error error ∧ w'.sent = w.sent) ∨
          out = .ok row ∧ w'.sent = w.sent ++ [recordedMessage platform context (generatedMilestone row)]) := by
  rcases read_cases (fun _ => rfl) run with stopped | ⟨w₁, w₂, first, then₂, run⟩
  · exact .inl stopped
  have before := (first.trans then₂).still
  have found : w₁.invited data.invitationId = w.invited data.invitationId := by
    simp [World.invited, first.store]
  unfold World.invited at found
  rw [found] at run
  split at run
  next existing there =>
    split at run
    · obtain ⟨thrown, still⟩ := throw_cases run
      exact .inl ⟨_, thrown, before.trans still⟩
    next same =>
      obtain ⟨event, guest, seat⟩ : existing.eventId = data.eventId ∧
          existing.guestProfileId = data.userId ∧ existing.seatId = data.seatId := by
        simpa only [not_or, not_not] using same
      rcases publish_cases run with ⟨error, thrown, still⟩ | ⟨ended, store, sent⟩
      · exact .inl ⟨error, thrown, before.trans still⟩
      · refine .inr ⟨existing, .existing there event guest seat (store.trans before.store), .inr ⟨ended, ?_⟩⟩
        rw [sent, before.sent]
  next absent =>
    rcases transaction_cases silent_createTransaction run with
      ⟨error, thrown, still⟩ | ⟨row, t, w₃, w₄, w₅, still, body, store, sent, run⟩
    · exact .inl ⟨error, thrown, before.trans still⟩
    · obtain ⟨createdAt, fact, new, free, enqueued, rfl⟩ := createTransaction_returns body
      rw [World.taken, (before.trans still).store] at free
      rw [before.store] at store
      rw [before.sent] at sent
      rcases publish_cases run with ⟨error, thrown, still⟩ | ⟨ended, store', sent'⟩
      · exact .inr ⟨row, .created absent new free enqueued (still.store.trans store),
          .inl ⟨error, thrown, still.sent.trans sent⟩⟩
      · refine .inr ⟨row, .created absent new free enqueued (store'.trans store), .inr ⟨ended, ?_⟩⟩
        rw [sent', sent]

theorem Provides.congr {row : Ticket} {w₁ : World}
    (provides : Provides platform uuid context data w row w₁) (same : w'.store = w₁.store) :
    Provides platform uuid context data w row w' := by
  cases provides with
  | existing there event guest seat store => exact .existing there event guest seat (same.trans store)
  | created absent new free enqueued store => exact .created absent new free enqueued (same.trans store)

theorem Provides.invited {row : Ticket} (provides : Provides platform uuid context data w row w') :
    w'.invited data.invitationId = some row ∧ row.eventId = data.eventId ∧
      row.guestProfileId = data.userId ∧ row.seatId = data.seatId := by
  cases provides with
  | existing there event guest seat store =>
    refine ⟨?_, event, guest, seat⟩
    simpa [World.invited, store] using there
  | created absent new free enqueued store =>
    obtain ⟨unknown, -⟩ := taken_eq_false.mp free
    have rows : w'.store.tickets.rows = w.store.tickets.rows ++ [row] := by
      rw [store]
      exact Table.rows_insert unknown
    refine ⟨?_, new ▸ rfl, new ▸ rfl, new ▸ rfl⟩
    unfold World.invited at absent ⊢
    simp [rows, absent, new, newTicket]

end Create

section Revoke

variable {uuid : Nat → Uuid} {context : RequestContext} {ticketId actorId : Uuid}
  {reason : Option String} {now : Time} {ticket row result : Ticket} {t : Tx} {out : Except Exn Ticket}

theorem publishRevoked_cases
    (run : Executes platform ((publishRevokedMilestone platform ticket context).bind fun _ => .done ticket)
      tx w out tx' w') :
    (∃ error, out = .error error ∧ Still w w') ∨
      ∃ occurredAt, (∀ revokedAt, ticket.revokedAt = some revokedAt → occurredAt = revokedAt) ∧
        out = .ok ticket ∧ w'.store = w.store ∧
        w'.sent = w.sent ++ [recordedMessage platform context (revokedMilestone ticket occurredAt)] := by
  unfold publishRevokedMilestone at run
  split at run
  next occurredAt there =>
    rcases publish_cases run with stopped | published
    · exact .inl stopped
    · refine .inr ⟨occurredAt, ?_, published⟩
      intro revokedAt recorded
      rw [recorded] at there
      exact (Option.some.inj there).symm
  next absent =>
    have run : Executes platform ((issue .now).bind fun now => (publishMilestone platform
        (revokedMilestone ticket now) context).bind fun _ => .done ticket) tx w out tx' w' := by
      rw [← Prog.bind_assoc]
      exact run
    rcases read_cases (fun _ => rfl) run with stopped | ⟨w₁, w₂, first, then₂, run⟩
    · exact .inl stopped
    have before := (first.trans then₂).still
    rcases publish_cases run with ⟨error, thrown, still⟩ | ⟨ended, store, sent⟩
    · exact .inl ⟨error, thrown, before.trans still⟩
    · refine .inr ⟨w₁.clock, ?_, ended, store.trans before.store, sent.trans ?_⟩
      · intro revokedAt recorded
        rw [recorded] at absent
        cases absent
      · rw [before.sent]

def revocation (uuid : Nat → Uuid) (ticket : Ticket) (actorId : Uuid) (reason : Option String)
    (now updatedAt createdAt : Time) (fact : AnalyticsOutbox) : Tx :=
  ⟨[.putTicket ticket.id (revokedState now actorId reason ticket.toTicketState) updatedAt,
    .insertScanLog (staffLogRow (uuid 0) ticket.id ticket actorId .outside .revoked none none createdAt),
    .insertOutbox fact]⟩

theorem revokeTransaction_returns (present : w.ticket ticket.id = some ticket)
    (run : Executes platform (revokeTransaction platform uuid context ticket.id actorId reason now ticket)
      (some ⟨[]⟩) w (.ok result) (some t) w') :
    ∃ updatedAt createdAt fact,
      Enqueued platform context (uuid 1) .ticketRevoked (revokedFact ticket.id ticket) fact ∧
      result = ticket.updated (revokedState now actorId reason) updatedAt ∧
      t = revocation uuid ticket actorId reason now updatedAt createdAt fact := by
  obtain ⟨row, tx₁, w₁, w₂, w₃, first, updated, -, run⟩ := stmt_returns run
  have there : World.ticket (w₁.view (some ⟨[]⟩)) ticket.id = some ticket :=
    (first.ticket ticket.id).trans present
  simp only [exec, there, Option.bind_some] at updated
  cases updated
  obtain ⟨log, tx₄, w₄, w₅, w₆, -, logged, -, run⟩ := stmt_returns run
  simp only [exec] at logged
  split at logged
  next =>
    cases logged
    obtain ⟨⟨⟩, tx₇, w₇, recording, done⟩ := bind_returns run
    obtain ⟨-, fact, enqueued, rfl⟩ := enqueue_returns recording
    obtain ⟨rfl, written, -⟩ := done_returns done
    cases written
    exact ⟨w₁.clock, w₄.clock, fact, enqueued, rfl, rfl⟩
  next => cases logged

theorem revoke_cases (present : w.ticket ticketId = some row)
    (run : Executes platform (revoke platform uuid context ticketId reason actorId) none w out tx' w') :
    (∃ error, out = .error error ∧ Still w w') ∨
    (row.revoked = true ∧ out = .ok row ∧ w'.store = w.store ∧
      ∃ occurredAt, (∀ revokedAt, row.revokedAt = some revokedAt → occurredAt = revokedAt) ∧
        w'.sent = w.sent ++ [recordedMessage platform context (revokedMilestone row occurredAt)]) ∨
    (row.revoked = false ∧ ∃ now updatedAt createdAt fact,
      Enqueued platform context (uuid 1) .ticketRevoked (revokedFact row.id row) fact ∧
      w'.store = (revocation uuid row actorId reason now updatedAt createdAt fact).apply w.store ∧
      ((∃ error, out = .error error ∧ w'.sent = w.sent) ∨
        out = .ok (row.updated (revokedState now actorId reason) updatedAt) ∧
        w'.sent = w.sent ++ [recordedMessage platform context (revokedMilestone row now)])) := by
  obtain rfl : row.id = ticketId := Table.key_of_get? present
  rcases read_cases (fun _ => rfl) run with stopped | ⟨w₁, w₂, first, then₂, run⟩
  · exact .inl stopped
  rcases read_cases (fun _ => rfl) run with ⟨error, thrown, still⟩ | ⟨w₃, w₄, then₃, then₄, run⟩
  · exact .inl ⟨error, thrown, (first.trans then₂).still.trans still⟩
  have read := first.trans (then₂.trans then₃)
  have before := (read.trans then₄).still
  rw [World.clientView, read.ticket, present] at run
  rcases silent_cases silent_assertManageTicket run with
    ⟨error, thrown, still⟩ | ⟨⟨⟩, tx₅, w₅, still, -, run⟩
  · exact .inl ⟨error, thrown, before.trans still⟩
  have before := before.trans still
  split at run
  next revoked =>
    rcases publishRevoked_cases run with ⟨error, thrown, still⟩ | ⟨occurredAt, known, ended, store, sent⟩
    · exact .inl ⟨error, thrown, before.trans still⟩
    · exact .inr (.inl ⟨revoked, ended, store.trans before.store, occurredAt, known, before.sent ▸ sent⟩)
  next valid =>
    rcases transaction_cases silent_revokeTransaction run with
      ⟨error, thrown, still⟩ | ⟨updated, t, w₆, w₇, w₈, still, body, store, sent, run⟩
    · exact .inl ⟨error, thrown, before.trans still⟩
    have there : w₆.ticket row.id = some row := by
      unfold World.ticket
      rw [(before.trans still).store]
      exact present
    obtain ⟨updatedAt, createdAt, fact, enqueued, rfl, rfl⟩ := revokeTransaction_returns there body
    rw [before.store] at store
    rw [before.sent] at sent
    refine .inr (.inr ⟨Bool.eq_false_iff.mpr valid, w₁.clock, updatedAt, createdAt, fact, enqueued, ?_⟩)
    rcases publishRevoked_cases run with ⟨error, thrown, still⟩ | ⟨occurredAt, known, ended, store', sent'⟩
    · exact ⟨still.store.trans store, .inl ⟨error, thrown, still.sent.trans sent⟩⟩
    · obtain rfl : occurredAt = w₁.clock := known w₁.clock rfl
      exact ⟨store'.trans store, .inr ⟨ended, sent ▸ sent'⟩⟩

end Revoke

end TicketService
