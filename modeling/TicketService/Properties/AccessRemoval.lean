import TicketService.Properties.Reads

set_option autoImplicit false

namespace TicketService

open Interleaving Relational TicketQueryResolver TicketReadService

variable {platform : Platform} {g g' : Global}

def UniqueInvitations (g : Global) : Prop :=
  ∀ row ∈ g.world.store.tickets.rows, ∀ other ∈ g.world.store.tickets.rows,
    row.invitationId = other.invitationId → row.id = other.id

theorem Created.invitation {i : Nat} {row before : Ticket} (created : Created g i row)
    (present : before ∈ g.world.store.tickets.rows) : before.invitationId ≠ row.invitationId := by
  obtain ⟨inserted, untaken, alike⟩ := created.untaken
  have free := (taken_eq_false.mp untaken).2.1 before present
  rwa [(Ticket.identity_iff.mp alike).2.2.1] at free

theorem Change.unique_invitations {actor : Option Nat} (change : Change platform actor g g')
    (unique : UniqueInvitations g) : UniqueInvitations g' := by
  intro row here other there same
  rcases change.row_before (Store.ticket_mem.mp here) with
    ⟨before, present, alike⟩ | ⟨i, rfl, created⟩
  · have key := Ticket.identity_iff.mp alike
    rcases change.row_before (Store.ticket_mem.mp there) with
      ⟨before', present', alike'⟩ | ⟨j, rfl, created'⟩
    · have key' := Ticket.identity_iff.mp alike'
      have equal := unique before (Table.mem_of_get? present) before' (Table.mem_of_get? present')
        (by rw [key.2.2.1, key'.2.2.1, same])
      rw [← key.1, ← key'.1, equal]
    · have differs := created'.invitation (Table.mem_of_get? present)
      exact absurd (key.2.2.1.trans same) differs
  · rcases change.row_before (Store.ticket_mem.mp there) with
      ⟨before', present', alike'⟩ | ⟨j, same_call, created'⟩
    · have differs := created.invitation (Table.mem_of_get? present')
      exact absurd ((Ticket.identity_iff.mp alike').2.2.1.trans same.symm) differs
    · cases same_call
      rw [created.id, created'.id]

theorem reachable_unique_invitations {w : World} (pristine : Pristine w) {c : ServiceState}
    (reachable : (service platform).Reachable w c) : UniqueInvitations c.shared := by
  refine reachable_invariant pristine reachable UniqueInvitations ?_ fun _ _ _ _ unique change =>
    change.unique_invitations unique
  intro row present
  have none_present : ((service platform).initial w).shared.world.store.tickets.rows = [] :=
    pristine.tickets
  rw [none_present] at present
  cases present

theorem UniqueInvitations.invited (unique : UniqueInvitations g) {ticket : Ticket}
    (present : ticket ∈ g.world.store.tickets.rows) :
    g.world.invited ticket.invitationId = some ticket := by
  cases found : g.world.invited ticket.invitationId with
  | none =>
    have missing := List.find?_eq_none.mp found ticket present
    simp at missing
  | some other =>
    have there := List.mem_of_find?_eq_some found
    have invitation : other.invitationId = ticket.invitationId := by
      simpa using List.find?_some found
    have same : g.world.store.ticket other.id = some ticket := by
      rw [unique other there ticket present invitation]
      exact Store.ticket_mem.mp present
    rw [Store.ticket_mem.mp there] at same
    exact same

def Denies {α : Type} (platform : Platform) (p : Program α) (w : World) : Prop :=
  ∀ result tx' w', Executes platform p none w result tx' w' →
    result = .error .statementFailed ∨ ∃ id reason, result = .error (.ticketAccessDenied id reason)

theorem denies_iff {α : Type} {p : Program α} {w : World} {ticket : Ticket} {userId : Uuid}
    {value : α} (answers : Answers platform p w (readOutcome w ticket userId value)) :
    Denies platform p w ↔ mayRead w ticket userId = false := by
  constructor
  · intro denies
    by_contra readable
    obtain ⟨tx', run⟩ := answers.may w none rfl
    have allowed : readOutcome w ticket userId value = .ok value := if_pos (by simpa using readable)
    rw [allowed] at run
    rcases denies _ tx' w run with failed | ⟨id, reason, denied⟩
    · cases failed
    · cases denied
  · intro unreadable result tx' w' run
    have refused : readOutcome w ticket userId value =
        .error (.ticketAccessDenied ticket.id "ticket-owner-mismatch") := by
      simp [readOutcome, unreadable]
    rcases answers.only w none result tx' w' rfl run with failed | ⟨ended, -⟩
    · exact .inl failed
    · exact .inr ⟨ticket.id, "ticket-owner-mismatch", ended.trans refused⟩

structure ReadsDenied (platform : Platform) (w : World) (ticket : Ticket) (userId : Uuid) :
    Prop where
  byId : Denies platform (ticketById ticket.id userId) w
  byInvitation : Denies platform (ticketByInvitation ticket.invitationId userId) w
  scanLogs : Denies platform (scanLogsByTicket ticket.id userId) w

-- The access projection says that the user may not view the tickets of the event.
def AccessRemoved (platform : Platform) (w : World) (userId eventId : Uuid) : Prop :=
  ∃ access, w.access eventId userId = some access ∧
    .viewTickets ∉ platform.uniqueEventPermissions access.permissions

def RemovalCloses (platform : Platform) (w : World) (ticket : Ticket) (userId : Uuid) : Prop :=
  AccessRemoved platform w userId ticket.eventId → ReadsDenied platform w ticket userId

/-- The removal of the access closes the reads of a ticket to a user other than its guest if and
only if the role projection does not name the user an administrator. -/
theorem removal_closes_iff {w : World} (pristine : Pristine w) {c : ServiceState}
    (reachable : (service platform).Reachable w c) {ticket : Ticket}
    (present : ticket ∈ c.shared.world.store.tickets.rows) {userId : Uuid}
    (other : userId ≠ ticket.guestProfileId) :
    RemovalCloses platform c.shared.world ticket userId ↔
      (AccessRemoved platform c.shared.world userId ticket.eventId →
        (c.shared.world.role ticket.eventId userId).map (·.role) ≠ some .admin) := by
  have found : c.shared.world.ticket ticket.id = some ticket := Store.ticket_mem.mp present
  have invited := (reachable_unique_invitations pristine reachable).invited present
  have stranger : ticket.guestProfileId ≠ userId := Ne.symm other
  have readable : mayRead c.shared.world ticket userId = false ↔
      (c.shared.world.role ticket.eventId userId).map (·.role) ≠ some .admin := by
    simp [mayRead, isAdmin, stranger]
  refine forall_congr' fun _ => ?_
  rw [← readable]
  constructor
  · intro denied
    exact (denies_iff (answers_ticketById found)).mp denied.byId
  · intro unreadable
    exact
      { byId := (denies_iff (answers_ticketById found)).mpr unreadable
        byInvitation := (denies_iff (answers_ticketByInvitation invited)).mpr unreadable
        scanLogs := (denies_iff (answers_scanLogsByTicket found)).mpr unreadable }

section Removed

open Sample

def removal (role : EventRoleType) : List ServiceAct :=
  call 0 (.createTicket context ticketInput) 8 ++
    call 1 (.roleAssigned { eventId := event, userId := staff, role, occurredAt := 0 }) 2 ++
    call 2 (.userAccessChanged (access [])) 2

theorem access_removed {role : EventRoleType}
    (removed : ((run (removal role)).shared.world.access event staff).any fun access =>
      decide (.viewTickets ∉ deployment.uniqueEventPermissions access.permissions)) :
    AccessRemoved deployment (run (removal role)).shared.world staff event := by
  obtain ⟨access, found, missing⟩ := (Option.any_eq_true _ _).mp removed
  exact ⟨access, found, of_decide_eq_true missing⟩

theorem removal_ticket {role : EventRoleType}
    (created : ((run (removal role)).shared.world.ticket ticket).any fun row =>
      row.eventId = event ∧ row.guestProfileId = guest) :
    ∃ row ∈ (run (removal role)).shared.world.store.tickets.rows,
      row.eventId = event ∧ staff ≠ row.guestProfileId := by
  obtain ⟨row, found, facts⟩ := (Option.any_eq_true _ _).mp created
  obtain ⟨atEvent, guest⟩ := of_decide_eq_true facts
  exact ⟨row, Table.mem_of_get? found, atEvent, by rw [guest]; decide⟩

theorem removal_closes_for_security :
    ∃ row ∈ (run (removal .security)).shared.world.store.tickets.rows,
      RemovalCloses deployment (run (removal .security)).shared.world row staff := by
  obtain ⟨row, present, atEvent, other⟩ := @removal_ticket .security (by decide +kernel)
  have role : ((run (removal .security)).shared.world.role event staff).map (·.role) ≠
      some .admin := by
    decide +kernel
  refine ⟨row, present, (removal_closes_iff pristine_empty (reachable_run _) present other).mpr ?_⟩
  rw [atEvent]
  exact fun _ => role

theorem administrator_reads_on : ¬∀ (platform : Platform) (c : ServiceState),
    (service platform).Reachable World.empty c → ∀ ticket ∈ c.shared.world.store.tickets.rows,
      ∀ userId ≠ ticket.guestProfileId, RemovalCloses platform c.shared.world ticket userId := by
  intro claim
  obtain ⟨row, present, atEvent, other⟩ := @removal_ticket .admin (by decide +kernel)
  have removed : AccessRemoved deployment (run (removal .admin)).shared.world staff event :=
    access_removed (by decide +kernel)
  have role : ((run (removal .admin)).shared.world.role event staff).map (·.role) = some .admin := by
    decide +kernel
  have denied := claim deployment _ (reachable_run (removal .admin)) row present staff other
    (by rw [atEvent]; exact removed)
  have found : (run (removal .admin)).shared.world.ticket row.id = some row :=
    Store.ticket_mem.mp present
  have readable : mayRead (run (removal .admin)).shared.world row staff = true := by
    rw [mayRead, atEvent, role]
    simp [isAdmin]
  have unreadable := (denies_iff (answers_ticketById found)).mp denied.byId
  rw [readable] at unreadable
  cases unreadable

end Removed

end TicketService
