import TicketService.Refinement.Records

set_option autoImplicit false

namespace TicketService

open AnalyticsOutboxService Interleaving Relational TicketWriteService

variable {platform : Platform} {i j : Nat} {c c' : ServiceState} {g g' : Global} {w : World}
  {context : RequestContext} {data : CreateTicketInput} {a b row : Ticket} {call : Call}

-- Whether the tickets share an invitation, a seat, or a guest of an event.
def clash (a b : Ticket) : Prop :=
  a.invitationId = b.invitationId ∨ a.seatId = b.seatId ∨
    a.eventId = b.eventId ∧ a.guestProfileId = b.guestProfileId

def maps (row : Ticket) (data : CreateTicketInput) : Prop :=
  row.eventId = data.eventId ∧ row.guestProfileId = data.userId ∧ row.seatId = data.seatId

/-- A ticket conflicts with the event, guest or seat of the data: that of the invitation, by its
mapping, or another one. -/
def Conflicts (w : World) (data : CreateTicketInput) : Prop :=
  ∃ row ∈ w.store.tickets.rows,
    row.invitationId = data.invitationId ∧ ¬maps row data ∨
    row.invitationId ≠ data.invitationId ∧ (row.seatId = data.seatId ∨
      row.eventId = data.eventId ∧ row.guestProfileId = data.userId)

def generatedFacts (w : World) (id : Uuid) : List AnalyticsOutbox :=
  w.store.analyticsOutbox.filter fun fact =>
    fact.topic = .ticketGenerated && fact.payload.aggregateId = id

structure Publishable (platform : Platform) (context : RequestContext) (data : CreateTicketInput) :
    Prop where
  tenant : (tenant platform context).isSome
  fact : ∀ id createdAt occurredAt,
    platform.acceptsFact (payload (generatedFact (newTicket id data createdAt)) occurredAt)

-- Runs of `createTicket` calls in which every write to the outbox and to Kafka succeeds.
def Creating (platform : Platform) : ServiceAct → Prop
  | .invoke call => ∃ context data, call = Call.createTicket context data ∧
      Publishable platform context data
  | .step _ => True
  | .fault _ => False
  | .environ _ => True

-- Whether the thread is about to insert a ticket that a unique index refuses.
def disputes (w : World) (th : Thread statements Tx Exn Reply) : Bool :=
  match th.prog with
  | .call (.ticketCreate row) _ => w.taken (row w.clock)
  | _ => false

def undisputed (c : ServiceState) : ServiceAct → Bool
  | .step i => !c.threads[i]?.any (disputes c.shared.world)
  | _ => true

def LookedUp (c : ServiceState) (i : Nat) (data : CreateTicketInput) : Prop :=
  ∃ existing w, c.shared.own i = [.stmt i (.ticketFindByInvitation data.invitationId) existing w]

inductive Answer (c : ServiceState) (i : Nat) (data : CreateTicketInput) :
    Except Exn Reply → Prop where
  | returned (row : Ticket) : row ∈ c.shared.world.store.tickets.rows →
      row.invitationId = data.invitationId → maps row data → ¬Conflicts c.shared.world data →
      Answer c i data (.ok (.ticket row))
  | refused : Conflicts c.shared.world data → LookedUp c i data →
      Answer c i data (.error (.ticketAlreadyExists data.invitationId))

structure CreatesOnce (c : ServiceState) : Prop where
  unique : ∀ a ∈ c.shared.world.store.tickets.rows, ∀ b ∈ c.shared.world.store.tickets.rows,
    clash a b → a = b
  answered : ∀ i context data th out, c.shared.calls[i]? = some (.createTicket context data) →
    c.threads[i]? = some th → System.Stopped th out → Answer c i data out
  agree : ∀ (i j : Nat) context context' data a b out out',
    c.shared.calls[i]? = some (Call.createTicket context data) →
    c.shared.calls[j]? = some (Call.createTicket context' data) → c.threads[i]? = some a →
    c.threads[j]? = some b → System.Stopped a out → System.Stopped b out' → out = out'
  fact : ∀ row ∈ c.shared.world.store.tickets.rows,
    (generatedFacts c.shared.world row.id).length = 1

-- A statement fails only where the database refuses it, and then it is no insert of a ticket.
def refusals (platform : Platform) : Mishaps statements World Tx where
  fails stmt w tx := exec platform stmt w tx = none ∧
    ∀ row, stmt = .ticketCreate row → w.taken (row w.clock) = false
  aborts := False

def creates : Event statements World Tx → Bool
  | .stmt _ (.ticketFindByInvitation _) _ _ => true
  | .stmt _ (.ticketCreate _) _ _ => true
  | .stmt _ .now _ _ => true
  | .stmt _ (.outboxCreate _) _ _ => true
  | .stmt _ (.send _) _ _ => true
  | .stmt .. => false
  | .commit .. => true
  | .rollback .. => true

def OnlyCreates (log : Record) : Prop :=
  ∀ e ∈ log, creates e

-- The ticket that the call has found, or that it has inserted.
def Obtained (i : Nat) (data : CreateTicketInput) (row : Ticket) (log : Record) : Prop :=
  (∃ w, .stmt i (.ticketFindByInvitation data.invitationId) (some row) w ∈ log ∧
    row ∈ w.store.tickets.rows) ∨
  ∃ t w, .commit i t w ∈ log ∧ .insertTicket row ∈ t.writes

def creationStory : Story statements World Tx Call Exn Reply where
  keeps _ _ log := OnlyCreates log
  returns i call reply log :=
    match call with
    | .createTicket _ data => ∃ row, reply = .ticket row ∧ row.invitationId = data.invitationId ∧
        maps row data ∧ Obtained i data row log
    | _ => True
  throws i call error log :=
    match call with
    | .createTicket _ data => error = .ticketAlreadyExists data.invitationId ∧ ∃ row w,
        log = [.stmt i (.ticketFindByInvitation data.invitationId) (some row) w] ∧
          row ∈ w.store.tickets.rows ∧ row.invitationId = data.invitationId ∧ ¬maps row data
    | _ => True

section Along

variable {keeps : Record → Prop} {throws : Exn → Record → Prop} {log : Record} {tx : Option Tx}

theorem OnlyCreates.cons {e : Event statements World Tx} (before : OnlyCreates log)
    (kind : creates e) : OnlyCreates (e :: log) :=
  List.forall_mem_cons.mpr ⟨kind, before⟩

theorem along_sure {stmt : Stmt} {Q : stmt.Res → Option Tx → Record → Prop}
    (kind : ∀ result w, creates (.stmt i stmt result w)) (before : OnlyCreates log)
    (sure : ∀ w, exec platform stmt w tx ≠ none)
    (step : ∀ result w w' tx', exec platform stmt w tx = some (result, w', tx') →
      OnlyCreates (.stmt i stmt result w :: log) → Q result tx' (.stmt i stmt result w :: log)) :
    Along (engine platform) (refusals platform) i OnlyCreates throws Q
      (issue stmt) tx log := by
  refine along_issue stmt (fun result w w' tx' executed => ?_) fun w failed => ?_
  · have after := before.cons (kind result w)
    exact ⟨after, step result w w' tx' executed after⟩
  · exact absurd failed.1 (sure w)

theorem along_publishMilestone {payload : EventMilestoneRecordedDTO}
    {Q : Unit → Option Tx → Record → Prop} (before : OnlyCreates log)
    (post : ∀ e, Q () tx (e :: log)) :
    Along (engine platform) (refusals platform) i OnlyCreates throws Q
      (publishMilestone platform payload context) tx log := by
  refine Along.bind (along_sure (fun _ _ => rfl) before (fun w => by simp [exec]) ?_)
  intro result w w' tx' executed _
  cases executed
  exact post _

theorem along_enqueue_generated {t : Tx} {fact : FactInput} {id : Uuid}
    {Q : Unit → Option Tx → Record → Prop} (tenant : (tenant platform context).isSome)
    (accepts : ∀ occurredAt, platform.acceptsFact (payload fact occurredAt))
    (before : OnlyCreates log)
    (post : ∀ added log', OnlyCreates log' →
      Q () (some ⟨t.writes ++ [.insertOutbox added]⟩) log') :
    Along (engine platform) (refusals platform) i OnlyCreates throws Q
      (enqueue platform context id .ticketGenerated fact) (some t) log := by
  obtain ⟨tenantId, valid⟩ := Option.isSome_iff_exists.mp tenant
  unfold enqueue
  rw [valid]
  refine Along.bind (along_sure (fun _ _ => rfl) before (fun w => by simp [exec, reads]) ?_)
  intro now w w' tx' executed after
  rw [if_pos (accepts now)]
  cases executed
  refine Along.bind (along_sure (fun _ _ => rfl) after (fun w => by simp [exec, writes]) ?_)
  intro result w₁ w₁' tx₁ executed last
  cases executed
  exact post _ _ last

theorem along_createTicket (publishable : Publishable platform context data) :
    Along (engine platform) (refusals platform) i OnlyCreates
      (fun error log => error = .ticketAlreadyExists data.invitationId ∧ ∃ row w,
        log = [.stmt i (.ticketFindByInvitation data.invitationId) (some row) w] ∧
          row ∈ w.store.tickets.rows ∧ row.invitationId = data.invitationId ∧ ¬maps row data)
      (fun row _ log => row.invitationId = data.invitationId ∧ maps row data ∧
        Obtained i data row log)
      (createTicket platform (Uuid.mk i) context data) none [] := by
  refine Along.bind (along_sure (fun _ _ => rfl) (List.forall_mem_nil _) (fun w => by simp [exec, reads]) ?_)
  intro existing w w' tx' executed found
  cases executed
  cases lookup : w.store.tickets.rows.find? fun row => row.invitationId = data.invitationId with
  | some row =>
    have member : row ∈ w.store.tickets.rows := List.mem_of_find?_eq_some lookup
    have own : row.invitationId = data.invitationId := by
      simpa using List.find?_some lookup
    rw [lookup] at found
    simp only
    split
    next differs =>
      refine ⟨rfl, row, w, rfl, member, own, fun mapped => ?_⟩
      obtain ⟨event, guest, seat⟩ := mapped
      simp [event, guest, seat] at differs
    next same =>
      have mapped : maps row data := by
        simpa [maps, not_or, not_not] using same
      refine Along.bind (along_publishMilestone found fun e => ?_)
      exact ⟨own, mapped, .inl ⟨w, List.mem_cons_of_mem _ List.mem_cons_self, member⟩⟩
  | none =>
    rw [lookup] at found
    refine Along.bind (Along.transaction (Along.bind ?_))
    refine along_issue (.ticketCreate (newTicket ⟨i, 0⟩ data))
      (fun created w₁ w₁' tx₁ executed => ?_) fun w₁ failed => ?_
    · have inserted : created = newTicket ⟨i, 0⟩ data w₁.clock ∧
          tx₁ = some ⟨[.insertTicket created]⟩ := by
        simp only [exec] at executed
        split at executed
        · cases executed
        · cases executed
          exact ⟨rfl, rfl⟩
      obtain ⟨rfl, rfl⟩ := inserted
      have after : OnlyCreates (.stmt i (.ticketCreate (newTicket ⟨i, 0⟩ data))
          (newTicket ⟨i, 0⟩ data w₁.clock) w₁ :: _) := found.cons rfl
      refine ⟨after, Along.bind (along_enqueue_generated publishable.tenant
        (publishable.fact _ _) after fun added log' before => ?_)⟩
      refine ⟨?_, fun aborted => aborted.elim⟩
      intro t w₂ opened
      have committed : OnlyCreates (.commit i t w₂ :: log') := before.cons rfl
      refine ⟨committed, Along.bind (along_publishMilestone committed fun e => ?_)⟩
      refine ⟨rfl, ⟨rfl, rfl, rfl⟩, .inr ⟨t, w₂, List.mem_cons_of_mem _ List.mem_cons_self, ?_⟩⟩
      cases opened
      simp
    · have free : (w₁.view (some (engine platform).fresh)).taken
          (newTicket ⟨i, 0⟩ data w₁.clock) = false := failed.2 _ rfl
      have refused := failed.1
      simp only [exec] at refused
      rw [free] at refused
      cases refused

end Along

theorem tells_creation (creating : Creating platform (.invoke call)) (i : Nat) :
    (service platform).Tells creationStory (refusals platform) i call
      ⟨program platform i call, none⟩ [] := by
  obtain ⟨context, data, rfl, publishable⟩ := creating
  refine (along_createTicket publishable).andThen fun row tx log here => ?_
  exact ⟨row, rfl, here⟩

structure Catalogue (g : Global) : Prop where
  called : ∀ (i : Nat) call, g.calls[i]? = some call → ∃ context data, call = Call.createTicket context data
  past : ∀ e ∈ g.history, ∀ row ∈ e.world.store.tickets.rows, row ∈ g.world.store.tickets.rows
  committed : ∀ i t w, .commit i t w ∈ g.history → ∀ row, .insertTicket row ∈ t.writes →
    row ∈ g.world.store.tickets.rows
  unique : ∀ a ∈ g.world.store.tickets.rows, ∀ b ∈ g.world.store.tickets.rows, clash a b → a = b
  fact : ∀ row ∈ g.world.store.tickets.rows, (generatedFacts g.world row.id).length = 1
  pending : ∀ id, ¬Committed g id.call → generatedFacts g.world id = []

theorem clash.symm (clashes : clash a b) : clash b a := by
  rcases clashes with invitation | seat | ⟨event, guest⟩
  · exact .inl invitation.symm
  · exact .inr (.inl seat.symm)
  · exact .inr (.inr ⟨event.symm, guest.symm⟩)

theorem not_clash_of_free (free : w.taken row = false) (member : a ∈ w.store.tickets.rows) :
    a.id ≠ row.id ∧ ¬clash a row := by
  have none := List.any_eq_false.mp free a member
  simp only [decide_eq_true_eq, not_or] at none
  refine ⟨none.1, ?_⟩
  rintro (invitation | seat | guest)
  · exact none.2.1 invitation
  · exact none.2.2.1 seat
  · exact none.2.2.2 guest

theorem Catalogue.same (catalogue : Catalogue g) (tickets : g'.world.store.tickets = g.world.store.tickets)
    (outbox : g'.world.store.analyticsOutbox = g.world.store.analyticsOutbox)
    (calls : ∀ (i : Nat) call, g'.calls[i]? = some call → ∃ context data, call = Call.createTicket context data)
    (history : g'.history = g.history ∨ ∃ e, g'.history = e :: g.history ∧ e.world = g.world ∧
      ∀ i t w, e ≠ .commit i t w) : Catalogue g' := by
  have facts (id : Uuid) : generatedFacts g'.world id = generatedFacts g.world id := by
    simp [generatedFacts, outbox]
  refine ⟨calls, ?_, ?_, ?_, ?_, ?_⟩
  · intro e member row present
    rw [tickets]
    rcases history with same | ⟨new, added, world, -⟩
    · exact catalogue.past e (same ▸ member) row present
    · rw [added] at member
      rcases List.mem_cons.mp member with rfl | before
      · exact world ▸ present
      · exact catalogue.past e before row present
  · intro i t w member row written
    rw [tickets]
    rcases history with same | ⟨new, added, -, plain⟩
    · exact catalogue.committed i t w (same ▸ member) row written
    · rw [added] at member
      rcases List.mem_cons.mp member with same | before
      · exact absurd same.symm (plain i t w)
      · exact catalogue.committed i t w before row written
  · rw [tickets]
    exact catalogue.unique
  · rw [tickets]
    intro row member
    rw [facts]
    exact catalogue.fact row member
  · intro id uncommitted
    rw [facts]
    refine catalogue.pending id fun committed => uncommitted ?_
    obtain ⟨t, w, member⟩ := committed
    refine ⟨t, w, ?_⟩
    rcases history with same | ⟨new, added, -⟩
    · exact same ▸ member
    · rw [added]
      exact List.mem_cons_of_mem _ member

theorem Catalogue.created (catalogue : Catalogue g) {createdAt : Time} {fact : AnalyticsOutbox}
    (first : ¬Committed g i) (free : g.world.taken (newTicket ⟨i, 0⟩ data createdAt) = false)
    (enqueued : Enqueued platform context ⟨i, 1⟩ .ticketGenerated
      (generatedFact (newTicket ⟨i, 0⟩ data createdAt)) fact) :
    Catalogue (g.commit (engine platform) i
      ⟨[.insertTicket (newTicket ⟨i, 0⟩ data createdAt), .insertOutbox fact]⟩) := by
  generalize created : newTicket ⟨i, 0⟩ data createdAt = row at *
  have id : row.id = ⟨i, 0⟩ := created ▸ rfl
  have rows : (g.commit (engine platform) i ⟨[.insertTicket row, .insertOutbox fact]⟩).world.store.tickets.rows =
      g.world.store.tickets.rows ++ [row] := Table.rows_insert (taken_eq_false.mp free).1
  have about : fact.topic = .ticketGenerated ∧ fact.payload.aggregateId = row.id := by
    obtain ⟨tenantId, occurredAt, createdAt', -, rfl⟩ := enqueued
    exact ⟨rfl, rfl⟩
  have facts (target : Uuid) : generatedFacts
      (g.commit (engine platform) i ⟨[.insertTicket row, .insertOutbox fact]⟩).world target =
      generatedFacts g.world target ++ if row.id = target then [fact] else [] := by
    have added : (g.commit (engine platform) i
        ⟨[.insertTicket row, .insertOutbox fact]⟩).world.store.analyticsOutbox =
        g.world.store.analyticsOutbox ++ [fact] := rfl
    simp only [generatedFacts, added, List.filter_append, List.filter_cons, about]
    by_cases same : row.id = target <;> simp [same]
  have old (a : Ticket) (member : a ∈ g.world.store.tickets.rows) := not_clash_of_free free member
  refine ⟨catalogue.called, ?_, ?_, ?_, ?_, ?_⟩
  · intro e member a present
    rw [rows]
    rcases List.mem_cons.mp member with rfl | before
    · exact List.mem_append_left _ present
    · exact List.mem_append_left _ (catalogue.past e before a present)
  · intro j t w member a written
    rw [rows]
    rcases List.mem_cons.mp member with same | before
    · cases same
      have only : a = row := by simpa using written
      exact List.mem_append_right _ (List.mem_singleton.mpr only)
    · exact List.mem_append_left _ (catalogue.committed j t w before a written)
  · rw [rows]
    intro a here b there clashes
    rcases List.mem_append.mp here with before | new
    · rcases List.mem_append.mp there with before' | new'
      · exact catalogue.unique a before b before' clashes
      · obtain rfl := List.mem_singleton.mp new'
        exact absurd clashes (old a before).2
    · obtain rfl := List.mem_singleton.mp new
      rcases List.mem_append.mp there with before' | new'
      · exact absurd clashes.symm (old b before').2
      · exact (List.mem_singleton.mp new').symm
  · rw [rows]
    intro a member
    rw [facts]
    rcases List.mem_append.mp member with before | new
    · rw [if_neg (Ne.symm (old a before).1), List.append_nil]
      exact catalogue.fact a before
    · obtain rfl := List.mem_singleton.mp new
      rw [if_pos rfl, catalogue.pending a.id (by rw [id]; exact first)]
      rfl
  · intro target uncommitted
    have other : row.id ≠ target := by
      rintro rfl
      exact uncommitted ⟨_, _, by rw [id]; exact List.mem_cons_self⟩
    rw [facts, if_neg other, List.append_nil]
    refine catalogue.pending target fun committed => uncommitted ?_
    obtain ⟨t, w, member⟩ := committed
    exact ⟨t, w, List.mem_cons_of_mem _ member⟩

theorem Catalogue.step {actor : Option Nat} (catalogue : Catalogue g)
    (change : Change platform actor g g') (kinds : OnlyCreates g'.history)
    (calls : ∀ (i : Nat) call, g'.calls[i]? = some call →
      ∃ context data, call = Call.createTicket context data) : Catalogue g' := by
  cases change with
  | invoke call => exact catalogue.same rfl rfl calls (.inl rfl)
  | environ action =>
    cases action <;> exact catalogue.same rfl rfl calls (.inl rfl)
  | stmt i stmt result w tx tx' executed =>
    have recorded : (g.record i stmt result w).history = .stmt i stmt result g.world :: g.history := rfl
    rcases exec_cases executed with ⟨-, tickets, -, outbox⟩ | ⟨rfl, -⟩ | ⟨id, update, row, rfl, -⟩
    · exact catalogue.same tickets outbox calls (.inr ⟨_, recorded, rfl, by simp⟩)
    · exact catalogue.same rfl rfl calls (.inr ⟨_, recorded, rfl, by simp⟩)
    · exact absurd (kinds _ List.mem_cons_self) Bool.false_ne_true
  | commit i t commits first =>
    have only {call : Call} (called : g.calls[i]? = some call)
        (other : ∀ context data, call ≠ .createTicket context data) : Catalogue (g.commit (engine platform) i t) := by
      obtain ⟨context, data, same⟩ := catalogue.called i call called
      exact absurd same (other context data)
    cases commits with
    | created context data createdAt fact called free enqueued =>
      exact catalogue.created first free enqueued
    | activated _ _ _ _ _ _ _ activation => exact only activation.called (by simp)
    | deleted call _ _ called deletes =>
      exact only called fun context data same => by
        subst same
        cases deletes
    | empty call called deletes =>
      exact only called fun context data same => by
        subst same
        cases deletes
    | revoked _ _ _ _ _ _ _ _ _ _ called => exact only called (by simp)
    | presence _ _ _ _ _ _ _ _ _ _ called => exact only called (by simp)
    | reset _ _ _ _ _ _ called => exact only called (by simp)
    | accepted _ _ _ _ _ _ _ _ _ _ _ called => exact only called (by simp)
    | rejected _ _ _ _ _ called => exact only called (by simp)
  | rollback i =>
    exact catalogue.same rfl rfl calls (.inr ⟨_, rfl, rfl, by simp⟩)

abbrev CreatingRuns (platform : Platform) : ServiceState → ServiceState → Prop :=
  (service platform).RunsUnder fun c act => Creating platform act ∧ undisputed c act

variable {start : World}

theorem CreatingRuns.tracked
    (runs : CreatingRuns platform ((service platform).initial start) c) :
    (service platform).Tracked creationStory (refusals platform) c := by
  refine System.RunsUnder.tracked runs ?_ fun c call allowed => tells_creation allowed.1
  rintro c act ⟨creating, undisputed⟩
  cases act with
  | step i =>
    intro th stmt next present pending refused
    refine ⟨refused, ?_⟩
    rintro row rfl
    have free : disputes c.shared.world th = false := by
      simpa [TicketService.undisputed, present] using undisputed
    simpa [disputes, pending] using free
  | fault i => exact creating.elim
  | _ => trivial

theorem CreatingRuns.kinds (runs : CreatingRuns platform ((service platform).initial start) c) :
    OnlyCreates c.shared.history := by
  intro e member
  have tracked := runs.tracked
  cases kind : e.isRollback with
  | true =>
    cases e with
    | rollback => rfl
    | _ => cases kind
  | false =>
    have own : e ∈ c.shared.own e.thread := (Shared.mem_own _ _).mpr ⟨member, rfl, kind⟩
    have within : e.thread < c.shared.calls.length := by
      rw [← tracked.numbered]
      exact System.thread_of_history (System.runs_of_runsUnder runs) e member
    exact tracked.kept _ _ (List.getElem?_eq_getElem within) (List.ne_nil_of_mem own) e own

theorem CreatingRuns.calls (runs : CreatingRuns platform ((service platform).initial start) c) :
    ∀ (i : Nat) call, c.shared.calls[i]? = some call →
      ∃ context data, call = Call.createTicket context data := by
  induction runs with
  | refl =>
    intro i call called
    cases called
  | @tail b c _ last ih =>
    intro i call called
    obtain ⟨act, ⟨creating, -⟩, stepped⟩ := last
    rcases System.step_calls stepped with same | ⟨begun, rfl, added⟩
    · exact ih i call (same ▸ called)
    · rw [added] at called
      rcases List.mem_append.mp (List.mem_of_getElem? called) with before | new
      · obtain ⟨j, earlier⟩ := List.mem_iff_getElem?.mp before
        exact ih j call earlier
      · obtain rfl := List.mem_singleton.mp new
        obtain ⟨context, data, same, -⟩ := creating
        exact ⟨context, data, same⟩

theorem CreatingRuns.catalogue (pristine : Pristine start)
    (runs : CreatingRuns platform ((service platform).initial start) c) : Catalogue c.shared := by
  induction runs with
  | refl =>
    have rows : ((service platform).initial start).shared.world.store.tickets.rows = [] :=
      pristine.tickets
    refine ⟨fun i call called => ?_, fun e member => ?_, fun i t w member => ?_, ?_, ?_, ?_⟩
    · cases called
    · cases member
    · cases member
    · rw [rows]
      intro a member
      cases member
    · rw [rows]
      intro a member
      cases member
    · intro id _
      simp [generatedFacts, System.initial, pristine.analyticsOutbox]
  | @tail b c before last ih =>
    have after : CreatingRuns platform _ c := .tail before last
    obtain ⟨act, -, stepped⟩ := last
    have sound := reachable_sound pristine (System.runs_of_runsUnder before)
    rcases (sound.step (service_keeps platform) stepped).2 with same | ⟨actor, change⟩
    · exact same ▸ ih
    · exact ih.step change after.kinds after.calls

theorem Obtained.present {c : ServiceState} (catalogue : Catalogue c.shared)
    (obtained : Obtained i data row (c.shared.own i)) : row ∈ c.shared.world.store.tickets.rows := by
  rcases obtained with ⟨w, member, present⟩ | ⟨t, w, member, written⟩
  · exact catalogue.past _ ((Shared.mem_own _ _).mp member).1 row present
  · exact catalogue.committed i t w ((Shared.mem_own _ _).mp member).1 row written

theorem Catalogue.harmonious (catalogue : Catalogue g) (present : row ∈ g.world.store.tickets.rows)
    (own : row.invitationId = data.invitationId) (mapped : maps row data) :
    ¬Conflicts g.world data := by
  obtain ⟨event, guest, seat⟩ := mapped
  rintro ⟨other, there, ⟨same, differs⟩ | ⟨different, taken⟩⟩
  · obtain rfl := catalogue.unique other there row present (.inl (same.trans own.symm))
    exact differs ⟨event, guest, seat⟩
  · have clashes : clash other row := by
      rcases taken with seat' | ⟨event', guest'⟩
      · exact .inr (.inl (seat'.trans seat.symm))
      · exact .inr (.inr ⟨event'.trans event.symm, guest'.trans guest.symm⟩)
    obtain rfl := catalogue.unique other there row present clashes
    exact different own

theorem CreatingRuns.answer (catalogue : Catalogue c.shared)
    (tracked : (service platform).Tracked creationStory (refusals platform) c)
    {th : Thread statements Tx Exn Reply} {out : Except Exn Reply}
    (called : c.shared.calls[i]? = some (.createTicket context data))
    (present : c.threads[i]? = some th) (stopped : System.Stopped th out) : Answer c i data out := by
  have along := tracked.along i th _ present called
  obtain ⟨prog, tx⟩ := th
  obtain ⟨rfl, -⟩ := stopped
  cases out with
  | ok reply =>
    obtain ⟨row, rfl, own, mapped, obtained⟩ := along
    have member := obtained.present catalogue
    exact .returned row member own mapped (catalogue.harmonious member own mapped)
  | error error =>
    obtain ⟨rfl, row, w, log, there, own, differs⟩ := along
    have lookup : .stmt i (.ticketFindByInvitation data.invitationId) (some row) w ∈ c.shared.own i := by
      rw [log]
      exact List.mem_singleton_self _
    have member := catalogue.past _ ((Shared.mem_own _ _).mp lookup).1 row there
    exact .refused ⟨row, member, .inl ⟨own, differs⟩⟩ ⟨some row, w, log⟩

/-- As long as no ticket is inserted against one that exists, creation is idempotent and conflicts
are answered with the domain exception. -/
theorem creates_once (pristine : Pristine start)
    (runs : CreatingRuns platform ((service platform).initial start) c) : CreatesOnce c := by
  have catalogue := runs.catalogue pristine
  have tracked := runs.tracked
  refine ⟨catalogue.unique, ?_, ?_, catalogue.fact⟩
  · intro i context data th out called present stopped
    exact CreatingRuns.answer catalogue tracked called present stopped
  · intro i j context context' data a b out out' called called' here there stopped stopped'
    have first := CreatingRuns.answer catalogue tracked called here stopped
    have second := CreatingRuns.answer catalogue tracked called' there stopped'
    cases first with
    | returned row member own mapped harmonious =>
      cases second with
      | returned row' member' own' mapped' =>
        rw [catalogue.unique row member row' member' (.inl (own.trans own'.symm))]
      | refused conflicts => exact absurd conflicts harmonious
    | refused conflicts =>
      cases second with
      | returned row' member' own' mapped' harmonious => exact absurd conflicts harmonious
      | refused => rfl

section Samples

open Sample

theorem publishable (data : CreateTicketInput) : Publishable deployment Sample.context data :=
  ⟨rfl, fun _ _ _ => rfl⟩

def createsWith (context : RequestContext) : ServiceAct → Bool
  | .invoke (.createTicket context' _) => context' = context
  | .invoke _ => false
  | .step _ => true
  | .fault _ => false
  | .environ _ => true

theorem creating_of {acts : List ServiceAct} (all : acts.all (createsWith Sample.context)) :
    ∀ act ∈ acts, Creating deployment act := by
  intro act member
  have kind := List.all_eq_true.mp all act member
  cases act with
  | invoke call =>
    cases call with
    | createTicket context data =>
      obtain rfl : context = Sample.context := of_decide_eq_true kind
      exact ⟨Sample.context, data, rfl, publishable data⟩
    | _ => exact absurd kind Bool.false_ne_true
  | step i => trivial
  | fault i => exact absurd kind Bool.false_ne_true
  | environ action => trivial

def sameSeat : List ServiceAct :=
  Sample.call 0 (.createTicket Sample.context ticketInput) 8 ++
    Sample.call 1 (.createTicket Sample.context { ticketInput with invitationId := Sample.id 11 }) 4

def uncaught (th : Thread statements Tx Exn Reply) : Bool :=
  match th.prog with
  | .throw error => error = .statementFailed && th.tx.isNone
  | _ => false

theorem seat_conflict_unmapped : ¬∀ (start : World) (c : ServiceState), Pristine start →
    (service deployment).RunsBy (Creating deployment) ((service deployment).initial start) c →
    CreatesOnce c := by
  intro once
  have all := once World.empty (run sameSeat) pristine_empty
    (System.runsBy_run _ _ _ (creating_of (by decide +kernel)))
  have threw : (run sameSeat).threads[1]?.any uncaught := by decide +kernel
  obtain ⟨⟨prog, tx⟩, present, kind⟩ := (Option.any_eq_true _ _).mp threw
  cases prog with
  | throw error =>
    simp only [uncaught, Bool.and_eq_true, decide_eq_true_eq, Option.isNone_iff_eq_none] at kind
    obtain ⟨rfl, rfl⟩ := kind
    have stopped : System.Stopped (⟨.throw .statementFailed, none⟩ : Thread statements Tx Exn Reply)
        (.error .statementFailed) := ⟨rfl, fun _ _ => rfl⟩
    have answer := all.answered 1 Sample.context { ticketInput with invitationId := Sample.id 11 }
      _ _ (by decide +kernel) present stopped
    cases answer
  | _ => cases kind

def twice : List ServiceAct :=
  Sample.call 0 (.createTicket Sample.context ticketInput) 8 ++
    Sample.call 1 (.createTicket Sample.context ticketInput) 2

theorem creates_once_twice : CreatesOnce (run twice) := by
  have allows : (service deployment).Allows (fun c act => undisputed c act)
      ((service deployment).initial World.empty) twice := by decide +kernel
  exact creates_once pristine_empty (System.runsUnder_run _ _ _
    (System.allows_and _ (creating_of (by decide +kernel)) allows))

end Samples

end TicketService
