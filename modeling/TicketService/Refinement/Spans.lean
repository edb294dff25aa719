import TicketService.Model.Store

set_option autoImplicit false

namespace TicketService

def Message.milestone (type : MilestoneType) : Message → Option EventMilestoneRecordedDTO
  | .milestoneRecorded payload _ => if payload.type = type then some payload else none
  | .addGuestId .. => none

def Message.link : Message → Option AddGuestIdDTO
  | .addGuestId payload _ => some payload
  | .milestoneRecorded .. => none

structure Span where
  before : World
  after : World

namespace Span

variable (span : Span)

def messages : List Message :=
  span.after.sent.drop span.before.sent.length

def milestones (type : MilestoneType) : List EventMilestoneRecordedDTO :=
  span.messages.filterMap (Message.milestone type)

def links : List AddGuestIdDTO :=
  span.messages.filterMap Message.link

def facts (topic : FactTopic) : List AnalyticsOutbox :=
  (span.after.store.analyticsOutbox.drop span.before.store.analyticsOutbox.length).filter fun fact =>
    fact.topic = topic

def tickets : List Ticket :=
  span.after.store.tickets.rows.filter fun row => row ∉ span.before.store.tickets.rows

def logs (verdict : ScanVerdict) : List ScanLog :=
  (span.after.store.scanLogs.drop span.before.store.scanLogs.length).filter fun log =>
    log.verdict = verdict

variable {span : Span}

theorem messages_of_sent {messages : List Message}
    (sent : span.after.sent = span.before.sent ++ messages) : span.messages = messages := by
  rw [Span.messages, sent, List.drop_left]

theorem facts_of_outbox {topic : FactTopic} {facts : List AnalyticsOutbox}
    (outbox : span.after.store.analyticsOutbox = span.before.store.analyticsOutbox ++ facts) :
    span.facts topic = facts.filter fun fact => fact.topic = topic := by
  rw [Span.facts, outbox, List.drop_left]

theorem logs_of_scanLogs {verdict : ScanVerdict} {logs : List ScanLog}
    (scanLogs : span.after.store.scanLogs = span.before.store.scanLogs ++ logs) :
    span.logs verdict = logs.filter fun log => log.verdict = verdict := by
  rw [Span.logs, scanLogs, List.drop_left]

theorem tickets_of_rows {rows : List Ticket}
    (committed : span.after.store.tickets.rows = span.before.store.tickets.rows ++ rows)
    (new : ∀ row ∈ rows, row ∉ span.before.store.tickets.rows) : span.tickets = rows := by
  have old : span.before.store.tickets.rows.filter
      (fun row => row ∉ span.before.store.tickets.rows) = [] := by
    simp [List.filter_eq_nil_iff]
  have kept : rows.filter (fun row => row ∉ span.before.store.tickets.rows) = rows := by
    simpa [List.filter_eq_self] using new
  rw [Span.tickets, committed, List.filter_append, old, kept, List.nil_append]

end Span

end TicketService
