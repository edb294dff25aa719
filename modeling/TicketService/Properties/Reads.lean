import TicketService.Properties.Refusal

set_option autoImplicit false

namespace TicketService

open Interleaving Relational TicketEventRoleResolver TicketQueryResolver TicketReadService

variable {platform : Platform} {α : Type} {w : World}

section Tickets

variable {id invitationId userId : Uuid} {ticket : Ticket}

theorem answers_findById (found : w.ticket id = some ticket) :
    Answers platform (findById id) w (.ok ticket) := by
  have read : Answers platform (issue (.ticketFindUnique .prisma id)) w (.ok (w.ticket id)) :=
    answers_issue rfl fun w' tx same => by
      simp only [exec, World.ticket, ← same]
      rfl
  rw [found] at read
  exact read.bind (answers_done _)

theorem answers_findByInvitation (found : w.invited invitationId = some ticket) :
    Answers platform (findByInvitation invitationId) w (.ok ticket) := by
  have read : Answers platform (issue (.ticketFindByInvitation invitationId)) w
      (.ok (w.invited invitationId)) :=
    answers_issue rfl fun w' tx same => by
      simp only [exec, World.invited, ← same]
      rfl
  rw [found] at read
  exact read.bind (answers_done _)

def mayRead (w : World) (ticket : Ticket) (userId : Uuid) : Bool :=
  ticket.guestProfileId = userId || isAdmin ((w.role ticket.eventId userId).map (·.role))

def readOutcome (w : World) (ticket : Ticket) (userId : Uuid) (value : α) : Except Exn α :=
  if mayRead w ticket userId then .ok value
  else .error (.ticketAccessDenied ticket.id "ticket-owner-mismatch")

theorem answers_assertReadable :
    Answers platform (assertReadable ticket ticket.id userId
      ((w.role ticket.eventId userId).map (·.role))) w (readOutcome w ticket userId ticket) := by
  unfold assertReadable readOutcome
  by_cases readable : mayRead w ticket userId
  · have passes : ¬(ticket.guestProfileId ≠ userId ∧
        ¬isAdmin ((w.role ticket.eventId userId).map (·.role))) := by
      simpa [mayRead, Classical.or_iff_not_imp_left] using readable
    rw [if_pos readable, if_neg passes]
    exact answers_done ticket
  · have stops : ticket.guestProfileId ≠ userId ∧
        ¬isAdmin ((w.role ticket.eventId userId).map (·.role)) := by
      simpa [mayRead] using readable
    rw [if_neg readable, if_pos stops]
    exact answers_throw _

theorem answers_findByIdForActor (found : w.ticket id = some ticket) :
    Answers platform (findByIdForActor id userId ((w.role ticket.eventId userId).map (·.role))) w
      (readOutcome w ticket userId ticket) := by
  have key : ticket.id = id := Table.key_of_get? found
  subst key
  exact (answers_findById found).bind answers_assertReadable

theorem answers_ticketById (found : w.ticket id = some ticket) :
    Answers platform (ticketById id userId) w (readOutcome w ticket userId ticket) :=
  (answers_findById found).bind
    ((answers_getRoleForUser userId ticket.eventId).bind (answers_findByIdForActor found))

theorem answers_ticketByInvitation (found : w.invited invitationId = some ticket) :
    Answers platform (ticketByInvitation invitationId userId) w
      (readOutcome w ticket userId ticket) :=
  (answers_findByInvitation found).bind ((answers_getRoleForUser userId ticket.eventId).bind
    ((answers_findByInvitation found).bind answers_assertReadable))

def World.logsOf (w : World) (ticketId : Uuid) : List ScanLog :=
  (w.store.scanLogs.filter fun log => log.ticketId = ticketId).mergeSort
    fun log other => other.createdAt ≤ log.createdAt

theorem answers_scanLogsByTicket (found : w.ticket id = some ticket) :
    Answers platform (scanLogsByTicket id userId) w
      (readOutcome w ticket userId (w.logsOf id)) := by
  refine (answers_findById found).bind ((answers_getRoleForUser userId ticket.eventId).bind ?_)
  have read : Answers platform
      (findByIdForActor id userId ((w.role ticket.eventId userId).map (·.role))) w
        (readOutcome w ticket userId ticket) := answers_findByIdForActor found
  unfold readOutcome at read ⊢
  split at read
  next readable =>
    rw [if_pos readable]
    have logs : Answers platform (scanLogs id) w (.ok (w.logsOf id)) :=
      answers_issue rfl fun w' tx same => by
      simp only [exec, World.logsOf, ← same]
      rfl
    exact read.bind logs
  next stops =>
    rw [if_neg stops]
    exact read.bind_error

end Tickets

end TicketService
