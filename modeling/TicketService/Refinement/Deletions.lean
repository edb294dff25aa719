import TicketService.Refinement.Records

set_option autoImplicit false

namespace TicketService

open Interleaving Relational TicketEventRoleResolver TicketWriteService

variable {platform : Platform} {i : Nat} {tx : Option Tx} {log : Record} {g : Global}

def Record.shared (log : Record) : Global where
  world := .empty
  calls := []
  history := log

theorem Seen.of_history {g g' : Global} {stmt : Stmt} {result : stmt.Res} {P : World → Prop}
    (within : ∀ e ∈ g.history, e ∈ g'.history) (seen : Seen g i stmt result P) :
    Seen g' i stmt result P := by
  obtain ⟨w, member, holds⟩ := seen
  exact ⟨w, within _ member, holds⟩

theorem Granted.of_history {g g' : Global} {permission : EventPermissionKey} {eventId actorId : Uuid}
    (within : ∀ e ∈ g.history, e ∈ g'.history)
    (granted : Granted platform g i permission eventId actorId) :
    Granted platform g' i permission eventId actorId := by
  rcases granted with ⟨access, seen, includes⟩ | ⟨role, absent, seen, includes⟩
  · exact .inl ⟨access, seen.of_history within, includes⟩
  · exact .inr ⟨role, absent.of_history within, seen.of_history within, includes⟩

def erasure (ids gone : List Uuid) : List Write :=
  [.deleteScanLogs ids, .deleteShareGuards ids, .deleteTickets gone]

def Permitted (platform : Platform) (i : Nat) (ticketId actorId : Uuid) (log : Record) : Prop :=
  ∃ ticket, Read log.shared i .prisma ticketId ticket ∧
    Granted platform log.shared i .manageTickets ticket.eventId actorId

def DeletesOne (platform : Platform) (i : Nat) (ticketId actorId : Uuid) (t : Tx) (log : Record) :
    Prop :=
  t.writes = erasure [ticketId] [ticketId] ∧ Permitted platform i ticketId actorId log

def DeletesWhere (i : Nat) (filter : Ticket → Bool) (t : Tx) (log : Record) : Prop :=
  ∃ ids w, .stmt i (.ticketFindIds filter) ids w ∈ log ∧ ids = (w.matching filter).map (·.id) ∧
    (ids = [] ∧ t.writes = [] ∨
      ∃ w', .stmt i (.ticketDeleteMany ids) () w' ∈ log ∧ t.writes = erasure ids (w'.existing ids))

def Call.filter : Call → Option (Ticket → Bool)
  | .deleteByEventIds eventIds => some fun row => row.eventId ∈ eventIds
  | .deleteByGuestId guestId => some fun row => row.guestProfileId = guestId
  | _ => none

def Call.Deletes (platform : Platform) (i : Nat) (call : Call) (t : Tx) (log : Record) : Prop :=
  match call with
  | .delete ticketId actorId => DeletesOne platform i ticketId actorId t log
  | call => ∀ filter, call.filter = some filter → DeletesWhere i filter t log

def Uncommitted (i : Nat) (log : Record) : Prop :=
  ∀ t w, .commit i t w ∉ log

theorem Uncommitted.later (before : Uncommitted i log) {stmt : Stmt} {value : stmt.Res} {w : World} :
    Uncommitted i (.stmt i stmt value w :: log) := by
  intro t w' member
  rcases List.mem_cons.mp member with same | earlier
  · cases same
  · exact before t w' earlier

theorem Permitted.later {ticketId actorId : Uuid} (permitted : Permitted platform i ticketId actorId log)
    (e : Event statements World Tx) : Permitted platform i ticketId actorId (e :: log) := by
  obtain ⟨ticket, read, granted⟩ := permitted
  have within : ∀ e' ∈ log.shared.history, e' ∈ (Record.shared (e :: log)).history :=
    fun _ member => List.mem_cons_of_mem e member
  exact ⟨ticket, read.of_history within, granted.of_history within⟩

theorem DeletesWhere.later {filter : Ticket → Bool} {t : Tx}
    (deletes : DeletesWhere i filter t log) (e : Event statements World Tx) :
    DeletesWhere i filter t (e :: log) := by
  obtain ⟨ids, w, found, same, rest⟩ := deletes
  refine ⟨ids, w, List.mem_cons_of_mem e found, same, rest.imp id ?_⟩
  rintro ⟨w', deleted, writes⟩
  exact ⟨w', List.mem_cons_of_mem e deleted, writes⟩

theorem Call.Deletes.later {call : Call} {t : Tx} (deletes : call.Deletes platform i t log)
    (e : Event statements World Tx) : call.Deletes platform i t (e :: log) := by
  cases call with
  | delete ticketId actorId => exact ⟨deletes.1, deletes.2.later e⟩
  | _ => exact fun filter same => (deletes filter same).later e

def CommitsDeletion (platform : Platform) (i : Nat) (call : Call) (log : Record) : Prop :=
  ∀ t w, .commit i t w ∈ log → call.Deletes platform i t log

theorem Uncommitted.deletion {call : Call} (before : Uncommitted i log) :
    CommitsDeletion platform i call log :=
  fun t w member => absurd member (before t w)

theorem Uncommitted.commit {call : Call} {t : Tx} {w : World} (before : Uncommitted i log)
    (deletes : call.Deletes platform i t log) :
    CommitsDeletion platform i call (.commit i t w :: log) := by
  intro t' w' member
  rcases List.mem_cons.mp member with same | earlier
  · cases same
    exact deletes.later _
  · exact absurd earlier (before t' w')

section Along

variable {α : Type} {call : Call} {Q : α → Option Tx → Record → Prop}

abbrev AlongDeletion (platform : Platform) (i : Nat) (call : Call)
    (Q : α → Option Tx → Record → Prop) (p : Program α) (tx : Option Tx) (log : Record) : Prop :=
  Along (engine platform) .any i (CommitsDeletion platform i call) (fun _ _ => True) Q p tx log

theorem along_step {stmt : Stmt} (before : Uncommitted i log) :
    AlongDeletion platform i call (fun value tx' log' => ∃ w w',
      exec platform stmt w tx = some (value, w', tx') ∧ log' = .stmt i stmt value w :: log)
      (issue stmt) tx log :=
  along_issue stmt (fun _ w w' _ executed =>
    ⟨before.later.deletion, w, w', executed, rfl⟩) fun _ _ => trivial

theorem along_permissions {actorId eventId : Uuid} (before : Uncommitted i log) :
    AlongDeletion platform i call (fun permissions tx' log' => tx' = tx ∧ Uncommitted i log' ∧
      (∀ e ∈ log, e ∈ log') ∧ ∀ permission ∈ permissions,
        Granted platform log'.shared i permission eventId actorId)
      (getPermissionsForUser platform actorId eventId) tx log := by
  refine (along_step before).andThen fun access tx' log' => ?_
  rintro ⟨w, w', executed, rfl⟩
  cases executed
  cases found : w.access eventId actorId with
  | some access =>
    refine ⟨rfl, before.later, fun e member => List.mem_cons_of_mem _ member, fun permission member => ?_⟩
    exact .inl ⟨access, ⟨w, by rw [← found]; exact List.mem_cons_self, found⟩, member⟩
  | none =>
    refine Along.bind (Along.bind ((along_step before.later).mono fun role tx' log' => ?_))
    rintro ⟨w₁, w₂, executed, rfl⟩
    cases executed
    refine ⟨rfl, before.later.later, fun e member => ?_, fun permission member => ?_⟩
    · exact List.mem_cons_of_mem _ (List.mem_cons_of_mem _ member)
    · refine .inr ⟨w₁.role eventId actorId, ⟨w, ?_, found⟩, ⟨w₁, List.mem_cons_self, rfl⟩, member⟩
      rw [← found]
      exact List.mem_cons_of_mem _ List.mem_cons_self

theorem along_deletion {body : Program Unit}
    (along : AlongDeletion platform i call (fun _ tx log => Uncommitted i log ∧
      ∀ t ∈ tx, call.Deletes platform i t log) body (some ⟨[]⟩) log) :
    AlongDeletion platform i call (fun _ _ log => ∃ t w, .commit i t w ∈ log)
      (transaction body) none log := by
  refine Along.transaction (along.mono fun _ tx log here => ⟨fun t w opened => ?_, fun _ => trivial⟩)
  exact ⟨here.1.commit (here.2 t opened), t, w, List.mem_cons_self⟩

theorem along_deleteTransaction {ticketId actorId : Uuid} (before : Uncommitted i log)
    (permitted : Permitted platform i ticketId actorId log) :
    AlongDeletion platform i (.delete ticketId actorId) (fun _ tx log => Uncommitted i log ∧
      ∀ t ∈ tx, Call.Deletes platform i (.delete ticketId actorId) t log)
      (deleteTransaction ticketId) (some ⟨[]⟩) log := by
  refine Along.bind (Along.bind ((along_step before).mono fun _ tx' log' => ?_))
  rintro ⟨w₁, w₁', executed, rfl⟩
  cases executed
  refine Along.bind (Along.bind ((along_step before.later).mono fun _ tx' log' => ?_))
  rintro ⟨w₂, w₂', executed, rfl⟩
  cases executed
  refine Along.bind ((along_step before.later.later).mono fun _ tx' log' => ?_)
  rintro ⟨w₃, w₃', executed, rfl⟩
  simp only [exec] at executed
  split at executed
  · cases executed
    refine ⟨before.later.later.later, fun t opened => ?_⟩
    cases opened
    exact ⟨rfl, ((permitted.later _).later _).later _⟩
  · cases executed

theorem along_deleteWhere {filter : Ticket → Bool} (before : Uncommitted i log) :
    AlongDeletion platform i call (fun _ tx log => Uncommitted i log ∧
      ∀ t ∈ tx, DeletesWhere i filter t log) (deleteWhere filter) (some ⟨[]⟩) log := by
  refine (along_step before).andThen fun ids tx log' => ?_
  rintro ⟨w, w', executed, rfl⟩
  cases executed
  split
  next none =>
    refine ⟨before.later, fun t opened => ?_⟩
    cases opened
    exact ⟨_, w, List.mem_cons_self, rfl, .inl ⟨none, rfl⟩⟩
  next some_ids =>
    refine Along.bind (Along.bind ((along_step before.later).mono fun _ tx' log' => ?_))
    rintro ⟨w₁, w₁', executed, rfl⟩
    cases executed
    refine Along.bind (Along.bind ((along_step before.later.later).mono fun _ tx' log' => ?_))
    rintro ⟨w₂, w₂', executed, rfl⟩
    cases executed
    refine Along.bind ((along_step before.later.later.later).mono fun _ tx' log' => ?_)
    rintro ⟨w₃, w₃', executed, rfl⟩
    cases executed
    refine ⟨before.later.later.later.later, fun t opened => ?_⟩
    cases opened
    refine ⟨_, w, ?_, rfl, .inr ⟨w₃, List.mem_cons_self, rfl⟩⟩
    exact List.mem_cons_of_mem _ (List.mem_cons_of_mem _ (List.mem_cons_of_mem _ List.mem_cons_self))

end Along

def deletionStory (platform : Platform) : Story statements World Tx Call Exn Reply where
  keeps i call log :=
    match call.deletes with
    | true => CommitsDeletion platform i call log
    | false => True
  returns i call _ log :=
    match call.deletes with
    | true => call = .deleteByEventIds [] ∨ ∃ t w, .commit i t w ∈ log
    | false => True
  throws _ _ _ _ := True

theorem uncommitted_nil : Uncommitted i [] := by
  intro t w member
  cases member

theorem along_filter {call : Call} {filter : Ticket → Bool}
    (deletes : ∀ t log, DeletesWhere i filter t log → call.Deletes platform i t log) :
    AlongDeletion platform i call (fun _ _ log => call = .deleteByEventIds [] ∨
      ∃ t w, .commit i t w ∈ log) (transaction (deleteWhere filter)) none [] := by
  refine (along_deletion ((along_deleteWhere uncommitted_nil).mono ?_)).mono ?_
  · rintro _ tx log ⟨before, found⟩
    exact ⟨before, fun t opened => deletes t log (found t opened)⟩
  · exact fun _ _ _ committed => .inr committed

theorem tells_deletion (call : Call) (i : Nat) :
    (service platform).Tells (deletionStory platform) .any i call ⟨program platform i call, none⟩ [] := by
  cases call with
  | delete ticketId actorId =>
    refine Along.bind (Along.bind ((along_step uncommitted_nil).mono fun row tx log => ?_))
    rintro ⟨w, w', executed, rfl⟩
    obtain ⟨found, rfl⟩ : row = w.ticket ticketId ∧ tx = none := by
      cases executed
      exact ⟨rfl, rfl⟩
    cases row with
    | none => trivial
    | some ticket =>
      refine Along.bind (Along.bind ((along_permissions uncommitted_nil.later).mono ?_))
      rintro permissions tx log ⟨rfl, before, within, granted⟩
      split
      next allowed =>
        refine (along_deletion (along_deleteTransaction before ⟨ticket, ?_, granted _ allowed⟩)).mono ?_
        · exact ⟨w, within _ (List.mem_singleton_self _), found.symm⟩
        · exact fun _ _ _ committed => .inr committed
      next => trivial
  | deleteByEventIds eventIds =>
    refine Along.bind ?_
    unfold deleteByEventIds
    split
    next empty => exact .inl (by rw [empty])
    next => exact along_filter fun t log deletes filter same => Option.some.inj same ▸ deletes
  | deleteByGuestId guestId =>
    exact Along.bind (along_filter fun t log deletes filter same => Option.some.inj same ▸ deletes)
  | _ => exact Along.always (fun _ => trivial) (fun _ _ => trivial) fun _ _ _ => trivial

section Reachable

variable {w : World} {c : ServiceState} {call : Call}

theorem committed_deletes (reachable : (service platform).Reachable w c)
    (called : c.shared.calls[i]? = some call) (kind : call.deletes = true) {t : Tx} {w' : World}
    (committed : .commit i t w' ∈ c.shared.history) :
    call.Deletes platform i t (c.shared.own i) := by
  have tracked : (service platform).Tracked (deletionStory platform) .any c :=
    System.reachable_tracked reachable tells_deletion
  have own : .commit i t w' ∈ c.shared.own i := (Shared.mem_own _ _).mpr ⟨committed, rfl, rfl⟩
  have kept := tracked.kept i call called (List.ne_nil_of_mem own)
  simp only [deletionStory, kind] at kept
  exact kept t w' own

theorem returned_commits (reachable : (service platform).Reachable w c)
    (called : c.shared.calls[i]? = some call) (kind : call.deletes = true) {reply : Reply}
    (returned : c.threads[i]?.bind Thread.returned = some reply) :
    call = .deleteByEventIds [] ∨ ∃ t w', .commit i t w' ∈ c.shared.history := by
  have tracked : (service platform).Tracked (deletionStory platform) .any c :=
    System.reachable_tracked reachable tells_deletion
  obtain ⟨⟨prog, tx⟩, present, ended⟩ := Option.bind_eq_some_iff.mp returned
  have along := tracked.along i _ call present called
  cases prog with
  | done value =>
    simp only [System.Tells, Along, deletionStory, kind] at along
    refine along.imp id ?_
    rintro ⟨t, w', committed⟩
    exact ⟨t, w', ((Shared.mem_own _ _).mp committed).1⟩
  | _ => cases ended

end Reachable

end TicketService
