import TicketService.Interleaving.Beside
import TicketService.Properties.AccessRemoval
import TicketService.Properties.Integrity
import TicketService.Refinement.Trail

set_option autoImplicit false

namespace TicketService

open Interleaving Relational TicketEventRoleResolver TicketQueryResolver TicketReadService

inductive Query where
  | ticketById (id : Uuid)
  | ticketByInvitation (invitationId : Uuid)
  | scanLogsByTicket (ticketId : Uuid)
deriving DecidableEq, Repr

structure Disclosure where
  tickets : List Ticket
  logs : List ScanLog

def Query.program (userId : Uuid) : Query → Program Disclosure
  | .ticketById id => (TicketQueryResolver.ticketById id userId).bind fun row => .done ⟨[row], []⟩
  | .ticketByInvitation invitationId =>
    (TicketQueryResolver.ticketByInvitation invitationId userId).bind fun row => .done ⟨[row], []⟩
  | .scanLogsByTicket ticketId =>
    (TicketQueryResolver.scanLogsByTicket ticketId userId).bind fun logs => .done ⟨[], logs⟩

-- The tickets that the query is about.
def Query.names (row : Ticket) : Query → Bool
  | .ticketById id => row.id = id
  | .ticketByInvitation invitationId => row.invitationId = invitationId
  | .scanLogsByTicket ticketId => row.id = ticketId

variable {platform : Platform} {w : World} {c c' : ServiceState} {id eventId userId : Uuid} {row : Ticket}

section Reads

variable (platform) in
def Between (c c' : ServiceState) (P : World → Prop) : Prop :=
  ∃ c₁, (service platform).Runs c c₁ ∧ (service platform).Runs c₁ c' ∧ P c₁.shared.world

theorem Between.wider {c₀ c₂ : ServiceState} {P : World → Prop} (between : Between platform c c' P)
    (before : (service platform).Runs c₀ c) (after : (service platform).Runs c' c₂) :
    Between platform c₀ c₂ P := by
  obtain ⟨c₁, first, last, holds⟩ := between
  exact ⟨c₁, before.trans first, last.trans after, holds⟩

theorem read_beside {stmt : Stmt} {value : World → stmt.Res} {result : stmt.Res}
    (reading : ∀ w, exec platform stmt w none = some (value w, w, none))
    (beside : Beside (service platform) (issue stmt) c (.ok result) c') :
    Between platform c c' fun w => value w = result := by
  obtain ⟨c₁, before, after, executed⟩ := beside.perform_returns
  have executed' : exec platform stmt c₁.shared.world none = some (result, c₁.shared.world, none) := executed
  rw [reading] at executed'
  exact ⟨c₁, before, after, (Prod.mk.inj (Option.some.inj executed')).1⟩

theorem findById_beside (beside : Beside (service platform) (findById id) c (.ok row) c') :
    Between platform c c' fun w => w.ticket id = some row := by
  obtain ⟨found, c₁, first, rest⟩ := beside.bind_returns
  have read := read_beside (fun w => rfl) first
  cases found with
  | none => exact rest.throw_returns.elim
  | some found =>
    obtain rfl := rest.done_returns
    exact read.wider .refl rest.runs

theorem findByInvitation_beside
    (beside : Beside (service platform) (findByInvitation id) c (.ok row) c') :
    Between platform c c' fun w => w.invited id = some row := by
  obtain ⟨found, c₁, first, rest⟩ := beside.bind_returns
  have read := read_beside (fun w => rfl) first
  cases found with
  | none => exact rest.throw_returns.elim
  | some found =>
    obtain rfl := rest.done_returns
    exact read.wider .refl rest.runs

theorem getRoleForUser_beside {role : Option EventRoleType}
    (beside : Beside (service platform) (getRoleForUser userId eventId) c (.ok role) c') :
    Between platform c c' fun w => (w.role eventId userId).map (·.role) = role := by
  obtain ⟨found, c₁, first, rest⟩ := beside.bind_returns
  have read := read_beside (fun w => rfl) first
  obtain rfl := rest.done_returns
  obtain ⟨c₂, before, after, same⟩ := read.wider .refl rest.runs
  exact ⟨c₂, before, after, congrArg (Option.map (·.role)) same⟩

theorem assertReadable_beside {ticket : Ticket} {actorId : Uuid} {role : Option EventRoleType}
    (beside : Beside (service platform) (assertReadable ticket id actorId role) c (.ok row) c') :
    row = ticket ∧ (ticket.guestProfileId = actorId ∨ role = some .admin) := by
  unfold assertReadable at beside
  split at beside
  · exact beside.throw_returns.elim
  next readable =>
    refine ⟨beside.done_returns, ?_⟩
    simpa [isAdmin, Classical.or_iff_not_imp_left] using readable

theorem findByIdForActor_beside {role : Option EventRoleType}
    (beside : Beside (service platform) (findByIdForActor id userId role) c (.ok row) c') :
    (Between platform c c' fun w => w.ticket id = some row) ∧
      (row.guestProfileId = userId ∨ role = some .admin) := by
  obtain ⟨ticket, c₁, first, rest⟩ := beside.bind_returns
  obtain ⟨rfl, readable⟩ := assertReadable_beside rest
  exact ⟨(findById_beside first).wider .refl rest.runs, readable⟩

theorem findByInvitationForActor_beside {role : Option EventRoleType}
    (beside : Beside (service platform) (findByInvitationForActor id userId role) c (.ok row) c') :
    (Between platform c c' fun w => w.invited id = some row) ∧
      (row.guestProfileId = userId ∨ role = some .admin) := by
  obtain ⟨ticket, c₁, first, rest⟩ := beside.bind_returns
  obtain ⟨rfl, readable⟩ := assertReadable_beside rest
  exact ⟨(findByInvitation_beside first).wider .refl rest.runs, readable⟩

end Reads

section Queries

def Administers (userId eventId : Uuid) (w : World) : Prop :=
  (w.role eventId userId).map (·.role) = some .admin

variable (platform) in
structure Readable (c c' : ServiceState) (userId : Uuid) (row : Ticket) : Prop where
  stood : Between platform c c' fun w => w.ticket row.id = some row
  allowed : row.guestProfileId = userId ∨ Between platform c c' (Administers userId row.eventId)

variable (platform) in
structure Replaced (c c' : ServiceState) (userId : Uuid) (row first : Ticket) : Prop where
  stood : Between platform c c' fun w => w.ticket row.id = some row
  before : Between platform c c' fun w => w.ticket first.id = some first
  invitation : first.invitationId = row.invitationId
  event : first.eventId ≠ row.eventId
  allowed : Between platform c c' (Administers userId first.eventId)
  deleted : c'.shared.world.ticket first.id = none

theorem invited_some {invitationId : Uuid} (found : w.invited invitationId = some row) :
    w.ticket row.id = some row ∧ row.invitationId = invitationId :=
  ⟨Store.ticket_mem.mp (List.mem_of_find?_eq_some found), by simpa using List.find?_some found⟩

theorem identity_kept (pristine : Pristine w) (reachable : (service platform).Reachable w c)
    (runs : (service platform).Runs c c') {ticket : Ticket}
    (before : c.shared.world.ticket id = some ticket) (after : c'.shared.world.ticket id = some row) :
    row.identity = ticket.identity := by
  have key : ticket.id = id := Table.key_of_get? before
  subst key
  have known := (reachable_sound pristine reachable).inv.known before
  exact ((runs_extends pristine reachable runs).known ticket known).2 row after

theorem stays_deleted (pristine : Pristine w) (reachable : (service platform).Reachable w c)
    {c₁ : ServiceState} (runs : (service platform).Runs c c₁) (after : (service platform).Runs c₁ c')
    {ticket : Ticket} (before : c.shared.world.ticket id = some ticket)
    (deleted : c₁.shared.world.ticket id = none) : c'.shared.world.ticket id = none := by
  have key : ticket.id = id := Table.key_of_get? before
  subst key
  have known := (runs_extends pristine reachable runs).known ticket
    ((reachable_sound pristine reachable).inv.known before)
  exact (runs_extends pristine (reachable.trans runs) after).gone ticket.id known.1 deleted

theorem Replaced.wider {c₂ : ServiceState} {first : Ticket} (pristine : Pristine w)
    (reachable : (service platform).Reachable w c) (replaced : Replaced platform c c' userId row first)
    (after : (service platform).Runs c' c₂) : Replaced platform c c₂ userId row first := by
  obtain ⟨c₃, begun, ended, found⟩ := replaced.before
  exact
    { stood := replaced.stood.wider .refl after
      before := replaced.before.wider .refl after
      invitation := replaced.invitation
      event := replaced.event
      allowed := replaced.allowed.wider .refl after
      deleted := stays_deleted pristine (reachable.trans begun) ended after found replaced.deleted }

theorem administers_of_role {ticket : Ticket} {role : Option EventRoleType}
    (beside : Beside (service platform) (getRoleForUser userId ticket.eventId) c (.ok role) c')
    (admin : role = some .admin) : Between platform c c' (Administers userId ticket.eventId) := by
  obtain ⟨c₁, before, after, same⟩ := getRoleForUser_beside beside
  exact ⟨c₁, before, after, same.trans admin⟩

theorem read_twice (pristine : Pristine w) (reachable : (service platform).Reachable w c)
    {c₁ c₂ : ServiceState} {ticket : Ticket} {role : Option EventRoleType}
    (first : Beside (service platform) (findById id) c (.ok ticket) c₁)
    (second : Beside (service platform) (getRoleForUser userId ticket.eventId) c₁ (.ok role) c₂)
    (third : Beside (service platform) (findByIdForActor id userId role) c₂ (.ok row) c') :
    Readable platform c c' userId row ∧ row.id = id := by
  obtain ⟨c₃, before, after, found⟩ := findById_beside first
  obtain ⟨⟨c₄, before', after', found'⟩, readable⟩ := findByIdForActor_beside third
  have key : row.id = id := Table.key_of_get? found'
  have between : (service platform).Runs c₃ c₄ := (after.trans second.runs).trans before'
  have same := Ticket.identity_iff.mp
    (identity_kept pristine (reachable.trans before) between found found')
  refine ⟨⟨⟨c₄, before.trans between, after', key.symm ▸ found'⟩, ?_⟩, key⟩
  refine readable.imp_right fun admin => ?_
  rw [same.2.1]
  exact (administers_of_role second admin).wider first.runs third.runs

theorem ticketById_readable (pristine : Pristine w) (reachable : (service platform).Reachable w c)
    (beside : Beside (service platform) (ticketById id userId) c (.ok row) c') :
    Readable platform c c' userId row ∧ row.id = id := by
  obtain ⟨ticket, c₁, first, rest⟩ := beside.bind_returns
  obtain ⟨role, c₂, second, third⟩ := rest.bind_returns
  exact read_twice pristine reachable first second third

theorem Readable.wider {c₂ : ServiceState} (readable : Readable platform c c' userId row)
    (after : (service platform).Runs c' c₂) : Readable platform c c₂ userId row :=
  ⟨readable.stood.wider .refl after, readable.allowed.imp_right (·.wider .refl after)⟩

theorem scanLogsByTicket_readable (pristine : Pristine w) (reachable : (service platform).Reachable w c)
    {logs : List ScanLog} (beside : Beside (service platform) (scanLogsByTicket id userId) c (.ok logs) c')
    {log : ScanLog} (member : log ∈ logs) :
    (Between platform c c' fun w => log ∈ w.store.scanLogs) ∧
      ∃ row, row.id = id ∧ row.id = log.ticketId ∧ row.eventId = log.eventId ∧
        Readable platform c c' userId row := by
  obtain ⟨ticket, c₁, first, rest⟩ := beside.bind_returns
  obtain ⟨role, c₂, second, rest⟩ := rest.bind_returns
  obtain ⟨row, c₃, third, last⟩ := rest.bind_returns
  obtain ⟨readable, key⟩ := read_twice pristine reachable first second third
  obtain ⟨c₅, begun, ended, found⟩ := readable.stood
  obtain ⟨c₄, before, after, read⟩ := read_beside (fun w => rfl) last
  have runs : (service platform).Runs c c₃ := (first.runs.trans second.runs).trans third.runs
  have listed : log ∈ c₄.shared.world.store.scanLogs ∧ log.ticketId = id := by
    simpa [← read] using member
  have reached : (service platform).Reachable w c₄ := (reachable.trans runs).trans before
  obtain ⟨there, present, event⟩ := (reachable_referential pristine reached).logs log listed.1
  rw [listed.2, ← key] at present
  have same := identity_kept pristine (reachable.trans begun) (ended.trans before) found present
  exact ⟨⟨c₄, runs.trans before, after, listed.1⟩, row, key, key.trans listed.2.symm,
    (Ticket.identity_iff.mp same).2.1.symm.trans event, readable.wider last.runs⟩

theorem ticketByInvitation_readable (pristine : Pristine w) (reachable : (service platform).Reachable w c)
    (beside : Beside (service platform) (ticketByInvitation id userId) c (.ok row) c') :
    row.invitationId = id ∧
      (Readable platform c c' userId row ∨ ∃ first, Replaced platform c c' userId row first) := by
  obtain ⟨ticket, c₁, first, rest⟩ := beside.bind_returns
  obtain ⟨role, c₂, second, third⟩ := rest.bind_returns
  obtain ⟨c₃, before, after, found⟩ := findByInvitation_beside first
  obtain ⟨⟨c₄, before', after', found'⟩, readable⟩ := findByInvitationForActor_beside third
  have between : (service platform).Runs c₃ c₄ := (after.trans second.runs).trans before'
  have earlier := reachable.trans before
  have later := earlier.trans between
  obtain ⟨there, invitation⟩ := invited_some found
  obtain ⟨there', invitation'⟩ := invited_some found'
  have stood : Between platform c c' fun w => w.ticket row.id = some row :=
    ⟨c₄, before.trans between, after', there'⟩
  refine ⟨invitation', ?_⟩
  rcases readable with guest | admin
  · exact .inl ⟨stood, .inl guest⟩
  have allowed : Between platform c c' (Administers userId ticket.eventId) :=
    (administers_of_role second admin).wider first.runs third.runs
  by_cases same : row.eventId = ticket.eventId
  · exact .inl ⟨stood, .inr (same ▸ allowed)⟩
  · right
    have gone : c₄.shared.world.ticket ticket.id = none := by
      -- A ticket that were still there would be the only one with the invitation.
      rcases present : c₄.shared.world.ticket ticket.id with _ | other
      · rfl
      have kept := Ticket.identity_iff.mp (identity_kept pristine earlier between there present)
      have clash := reachable_unique_invitations pristine later row (Table.mem_of_get? there') other
        (Table.mem_of_get? present) (invitation'.trans (kept.2.2.1.trans invitation).symm)
      rw [clash, Table.key_of_get? present, present] at there'
      cases there'
      exact absurd kept.2.1 same
    exact ⟨ticket, stood, ⟨c₃, before, between.trans after', there⟩, invitation.trans invitation'.symm,
      Ne.symm same, allowed, stays_deleted pristine earlier between after' there gone⟩

/-- Whatever the calls of the service do while a query reads, its tickets and logs go to the guest of the
ticket or to an administrator of its event. Only a query by invitation may return the ticket of another
event than the one whose administrators it has asked for. -/
theorem queries_disclose (pristine : Pristine w) (reachable : (service platform).Reachable w c)
    {query : Query} {disclosure : Disclosure}
    (beside : Beside (service platform) (query.program userId) c (.ok disclosure) c') :
    (∀ row ∈ disclosure.tickets, query.names row = true ∧
      (Readable platform c c' userId row ∨
        (∃ invitationId, query = .ticketByInvitation invitationId) ∧
          ∃ first, Replaced platform c c' userId row first)) ∧
    ∀ log ∈ disclosure.logs, (Between platform c c' fun w => log ∈ w.store.scanLogs) ∧
      ∃ row, query.names row = true ∧ row.id = log.ticketId ∧ row.eventId = log.eventId ∧
        Readable platform c c' userId row := by
  cases query with
  | ticketById id =>
    obtain ⟨row, c₁, first, last⟩ := beside.bind_returns
    obtain rfl := last.done_returns
    obtain ⟨readable, named⟩ := ticketById_readable pristine reachable first
    refine ⟨fun other member => ?_, by simp⟩
    rw [List.mem_singleton.mp member]
    exact ⟨by simpa [Query.names] using named, .inl (readable.wider last.runs)⟩
  | ticketByInvitation invitationId =>
    obtain ⟨row, c₁, first, last⟩ := beside.bind_returns
    obtain rfl := last.done_returns
    obtain ⟨named, disclosed⟩ := ticketByInvitation_readable pristine reachable first
    refine ⟨fun other member => ?_, by simp⟩
    rw [List.mem_singleton.mp member]
    refine ⟨by simpa [Query.names] using named, ?_⟩
    rcases disclosed with readable | ⟨first, replaced⟩
    · exact .inl (readable.wider last.runs)
    · exact .inr ⟨⟨invitationId, rfl⟩, first, replaced.wider pristine reachable last.runs⟩
  | scanLogsByTicket id =>
    obtain ⟨logs, c₁, first, last⟩ := beside.bind_returns
    obtain rfl := last.done_returns
    refine ⟨by simp, fun log member => ?_⟩
    obtain ⟨stood, row, named, same, event, readable⟩ :=
      scanLogsByTicket_readable pristine reachable first member
    exact ⟨stood.wider .refl last.runs, row, by simpa [Query.names] using named, same, event,
      readable.wider last.runs⟩

end Queries

namespace Sample

def administered : List ServiceAct :=
  call 0 (.createTicket context ticketInput) 8 ++
    call 1 (.roleAssigned { eventId := event, userId := staff, role := .admin, occurredAt := 0 }) 2

-- The event is deleted, and the invitation gets a ticket for another one.
def reissued : List ServiceAct :=
  call 2 (.deleteByEventIds [event]) 9 ++
    call 3 (.createTicket context { ticketInput with eventId := Sample.id 3 }) 8

theorem administrator_reads_reissued : ∃ row, row.eventId = Sample.id 3 ∧
    Beside (service deployment) ((Query.ticketByInvitation (Sample.id 10)).program staff)
      (run administered) (.ok ⟨[row], []⟩) (run (administered ++ reissued)) := by
  have before : ((run administered).shared.world.invited (Sample.id 10)).any fun row =>
      ((run administered).shared.world.role row.eventId staff).map (·.role) = some .admin := by
    decide +kernel
  have after : ((run (administered ++ reissued)).shared.world.invited (Sample.id 10)).any fun row =>
      row.eventId = Sample.id 3 := by
    decide +kernel
  obtain ⟨first, found, role⟩ := (Option.any_eq_true _ _).mp before
  obtain ⟨row, found', event⟩ := (Option.any_eq_true _ _).mp after
  refine ⟨row, of_decide_eq_true event, .reads rfl ?_⟩
  unfold World.invited at found
  rw [found]
  refine .reads rfl (.later (runs_append administered reissued) (.reads rfl ?_))
  unfold World.invited at found'
  rw [found', of_decide_eq_true role]
  have readable : assertReadable row row.id staff (some .admin) = .done row := if_neg (by simp [isAdmin])
  change Beside _ ((assertReadable row row.id staff (some .admin)).bind _) _ _ _
  rw [readable]
  exact .done _ _

theorem reissued_disclosed : ∃ row, row.eventId = Sample.id 3 ∧
    (Readable deployment (run administered) (run (administered ++ reissued)) staff row ∨
      (∃ invitationId, Query.ticketByInvitation (Sample.id 10) = .ticketByInvitation invitationId) ∧
        ∃ first, Replaced deployment (run administered) (run (administered ++ reissued)) staff row first) := by
  obtain ⟨row, event, beside⟩ := administrator_reads_reissued
  have disclosed := (queries_disclose pristine_empty (reachable_run administered) beside).1
  exact ⟨row, event, (disclosed row (List.mem_singleton.mpr rfl)).2⟩

end Sample

end TicketService
