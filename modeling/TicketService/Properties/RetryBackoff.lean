import TicketService.Properties.Outbox
import TicketService.Refinement.Leases

set_option autoImplicit false

namespace TicketService

namespace AnalyticsOutboxPublisher

open Interleaving Relational

-- Whether an attempt to publish the row was put off since thread `i` last looked for candidates.
def rescheduled (i : Nat) (id : Uuid) : Record → Bool
  | [] => false
  | .stmt j (.findMany ..) _ _ :: earlier => j ≠ i && rescheduled i id earlier
  | .stmt _ (.update other (.retried ..)) _ _ :: earlier => other = id || rescheduled i id earlier
  | _ :: earlier => rescheduled i id earlier

/-- A row that was put off after the thread had found it is not claimed ahead of its time. -/
def InTime (g : PublisherShared) (i : Nat) : Stmt → Prop
  | .claim id staleBefore _ lockedBy => ∀ row ∈ g.world.row id, claimable staleBefore row = true →
    rescheduled i id g.history = true → row.nextAttemptAt ≤ g.world.clock lockedBy
  | _ => True

def Spaced (c : PublisherState) : Act Call EnvAct → Prop
  | .step i => ∀ th ∈ c.threads[i]?, ∀ stmt ∈ pending th.prog, InTime c.shared i stmt
  | _ => True

instance (g : PublisherShared) (i : Nat) (stmt : Stmt) : Decidable (InTime g i stmt) :=
  match stmt with
  | .claim id staleBefore _ lockedBy => inferInstanceAs (Decidable (∀ row ∈ g.world.row id,
      claimable staleBefore row = true → rescheduled i id g.history = true →
        row.nextAttemptAt ≤ g.world.clock lockedBy))
  | .enter _ => inferInstanceAs (Decidable True)
  | .leave _ => inferInstanceAs (Decidable True)
  | .now _ => inferInstanceAs (Decidable True)
  | .findMany .. => inferInstanceAs (Decidable True)
  | .findUniqueOrThrow _ => inferInstanceAs (Decidable True)
  | .rawSend _ => inferInstanceAs (Decidable True)
  | .caught _ => inferInstanceAs (Decidable True)
  | .update .. => inferInstanceAs (Decidable True)

instance (c : PublisherState) (act : Act Call EnvAct) : Decidable (Spaced c act) :=
  match act with
  | .step i => inferInstanceAs (Decidable (∀ th ∈ c.threads[i]?, ∀ stmt ∈ pending th.prog,
      InTime c.shared i stmt))
  | .invoke _ => inferInstanceAs (Decidable True)
  | .fault _ => inferInstanceAs (Decidable True)
  | .environ _ => inferInstanceAs (Decidable True)

def ClaimedDue (g : PublisherShared) (i : Nat) (instanceId : String) (id : Uuid) : Prop :=
  ∃ e row, g.history.find? (takenBy i id) = some e ∧ e.world.row id = some row ∧
    row.nextAttemptAt ≤ g.world.clock instanceId

def BackedOff (c : PublisherState) : Prop :=
  ∀ i th call sent, c.threads[i]? = some th → c.shared.calls[i]? = some call →
    pending th.prog = some (.rawSend sent) → ClaimedDue c.shared i call.instanceId sent.eventId

def Due (g : PublisherShared) (i : Nat) (instanceId : String) (id : Uuid) : Prop :=
  rescheduled i id g.history = true ∨
    ∃ row, g.world.row id = some row ∧ row.nextAttemptAt ≤ g.world.clock instanceId

-- When the call read the clock for its search.
def Phase.polledAt : Phase → Option Time
  | .polled now => some now
  | .finding now _ => some now
  | _ => none

structure OnSchedule (g : PublisherShared) (i : Nat) (instanceId : String) (φ : Phase) : Prop where
  keyed : φ.Keyed
  past : ∀ now, φ.polledAt = some now → now ≤ g.world.clock instanceId
  due : ∀ id ∈ φ.waiting, Due g i instanceId id
  claimed : ∀ id rest attempt, φ = .publishing id rest attempt → ClaimedDue g i instanceId id

section Steps

variable {g : PublisherShared} {i j : Nat} {instanceId : String} {φ φ' : Phase} {stmt : Stmt}
  {result : stmt.Res} {w : World} {id : Uuid}

theorem nextAttemptAt_of_exec (executed : exec stmt g.world = some (result, w)) {row : AnalyticsOutbox}
    (found : g.world.row id = some row) :
    (∃ attempts lastError nextAttemptAt, stmt = .update id (.retried attempts lastError nextAttemptAt)) ∨
      ∃ row', w.row id = some row' ∧ row'.nextAttemptAt = row.nextAttemptAt := by
  have effect := exec_effect executed
  cases effect with
  | keeps _ _ same => exact .inr ⟨row, (same.row_eq id).trans found, rfl⟩
  | @takes target _ _ _ _ _ other present _ puts =>
    by_cases here : id = target
    · subst here
      rw [found] at present
      cases present
      exact .inr ⟨_, puts.here, rfl⟩
    · exact .inr ⟨row, (puts.others id here).trans found, rfl⟩
  | passes => exact .inr ⟨row, found, rfl⟩
  | @completes target data _ _ other present puts =>
    by_cases here : id = target
    · subst here
      rw [found] at present
      cases present
      cases data with
      | retried attempts lastError nextAttemptAt => exact .inl ⟨_, _, _, rfl⟩
      | published publishedAt => exact .inr ⟨_, puts.here, rfl⟩
      | deadLettered attempts lastError deadLetteredAt => exact .inr ⟨_, puts.here, rfl⟩
    · exact .inr ⟨row, (puts.others id here).trans found, rfl⟩

theorem rescheduled_kept (before : rescheduled j id g.history = true)
    (unsearched : ∀ now staleBefore, stmt = .findMany now staleBefore → i ≠ j) :
    rescheduled j id (.stmt i stmt result g.world :: g.history) = true := by
  unfold rescheduled
  split
  next same => cases same
  next same =>
    cases same
    simp [before, unsearched _ _ rfl]
  next same =>
    cases same
    simp [before]
  next same =>
    cases same
    exact before

theorem Due.step (due : Due g j instanceId id) (executed : exec stmt g.world = some (result, w))
    (unsearched : ∀ now staleBefore, stmt = .findMany now staleBefore → i ≠ j) :
    Due (recorded g i stmt result w) j instanceId id := by
  rcases due with before | ⟨row, found, ready⟩
  · exact .inl (rescheduled_kept before unsearched)
  · rcases nextAttemptAt_of_exec executed found with ⟨attempts, lastError, nextAttemptAt, rfl⟩ |
      ⟨row', found', same⟩
    · exact .inl (by simp [Shared.record, rescheduled])
    · refine .inr ⟨row', found', ?_⟩
      rw [same, Shared.record_world, clock_of_exec executed]
      exact ready

theorem ClaimedDue.step (claimed : ClaimedDue g j instanceId id)
    (executed : exec stmt g.world = some (result, w))
    (unclaimed : i = j → takes id (.stmt i stmt result g.world) = false) :
    ClaimedDue (recorded g i stmt result w) j instanceId id := by
  obtain ⟨e, row, newest, found, ready⟩ := claimed
  have other : takenBy j id (.stmt i stmt result g.world) = false := by
    by_cases self : i = j
    · simp [takenBy, unclaimed self]
    · simp [takenBy, Event.thread, self]
  refine ⟨e, row, ?_, found, ?_⟩
  · exact (List.find?_cons_of_neg (by simp [other])).trans newest
  · rw [Shared.record_world, clock_of_exec executed]
    exact ready

theorem OnSchedule.other (schedule : OnSchedule g j instanceId φ) (different : i ≠ j)
    (executed : exec stmt g.world = some (result, w)) :
    OnSchedule (recorded g i stmt result w) j instanceId φ where
  keyed := schedule.keyed
  past now polled := by
    rw [Shared.record_world, clock_of_exec executed]
    exact schedule.past now polled
  due id member := (schedule.due id member).step executed fun _ _ _ => different
  claimed id rest attempt within :=
    (schedule.claimed id rest attempt within).step executed fun self => absurd self different

theorem due_candidates {now staleBefore : Time} {w : World} {row : AnalyticsOutbox}
    (member : row ∈ w.candidates now staleBefore) :
    w.row row.id = some row ∧ row.nextAttemptAt ≤ now := by
  have present := (List.mergeSort_perm _ _).mem_iff.mp (List.mem_of_mem_take member)
  obtain ⟨there, ready⟩ := List.mem_filter.mp present
  simp only [Bool.and_eq_true, decide_eq_true_eq] at ready
  exact ⟨Table.get?_of_mem there, ready.2⟩

theorem OnSchedule.own (schedule : OnSchedule g i instanceId φ)
    (moves : Moves instanceId φ stmt (some result) φ') (executed : exec stmt g.world = some (result, w))
    (inTime : InTime g i stmt) : OnSchedule (recorded g i stmt result w) i instanceId φ' where
  keyed := keyed_of_moves moves executed
  past now polled := by
    rw [Shared.record_world, clock_of_exec executed]
    cases moves with
    | polled =>
      cases polled
      cases executed
      exact Nat.le_refl _
    | staled =>
      cases polled
      exact schedule.past now rfl
    | _ => cases polled
  due id member := by
    by_cases searched : ∃ now staleBefore, stmt = .findMany now staleBefore
    · obtain ⟨now, staleBefore, rfl⟩ := searched
      cases moves with
      | found _ _ rows =>
        cases executed
        obtain ⟨row, candidate, rfl⟩ := List.mem_map.mp member
        obtain ⟨found, ready⟩ := due_candidates candidate
        exact .inr ⟨row, found, Nat.le_trans ready (schedule.past now rfl)⟩
    · have unsearched : ∀ now staleBefore, stmt ≠ .findMany now staleBefore :=
        fun now staleBefore same => searched ⟨now, staleBefore, same⟩
      exact (schedule.due id (moves.waiting unsearched member)).step executed
        fun now staleBefore same => absurd same (unsearched now staleBefore)
  claimed id rest attempt within := by
    subst within
    rcases moves.publishing with ⟨⟨before, rfl⟩, unclaimed⟩ | ⟨staleBefore, lockedAt, rfl, rfl, rfl⟩
    · exact (schedule.claimed id rest before rfl).step executed fun _ => takes_other unclaimed
    · have due := schedule.due id List.mem_cons_self
      have answer := moves.answered
      have effect := exec_effect executed
      cases effect with
      | keeps unclaimed => exact absurd rfl (unclaimed _ _ _ _)
      | @takes _ _ _ _ _ _ row found free puts =>
        have ready : row.nextAttemptAt ≤ g.world.clock instanceId := by
          rcases due with late | ⟨row', found', ready⟩
          · exact inTime row found free late
          · rw [found] at found'
            cases found'
            exact ready
        refine ⟨_, row, List.find?_cons_of_pos ?_, found, ?_⟩
        · simp [takenBy, Event.thread, takes, found, free]
        · have time : w.clock = g.world.clock := puts.clock
          exact (congrFun time instanceId).symm ▸ ready
      | passes =>
        unfold World.answer at answer
        split at answer <;> cases answer

theorem OnSchedule.throws (schedule : OnSchedule g i instanceId φ)
    (moves : Moves instanceId φ stmt none φ') : OnSchedule g i instanceId φ' where
  keyed := keyed_of_throws moves
  past now polled := by
    cases moves <;> cases polled
  due id member := by
    refine schedule.due id (moves.waiting ?_ member)
    rintro now staleBefore rfl
    cases moves with
    | aborted => cases member
  claimed id rest attempt within := by
    subst within
    rcases moves.publishing with ⟨⟨before, rfl⟩, -⟩ | ⟨staleBefore, lockedAt, -, rfl, -⟩
    · exact schedule.claimed id rest before rfl
    · cases moves

theorem OnSchedule.environ (schedule : OnSchedule g i instanceId φ) (action : EnvAct) :
    OnSchedule (g.environ engine action) i instanceId φ := by
  have later := environ_clock action g.world instanceId
  refine ⟨schedule.keyed, fun now polled => Nat.le_trans (schedule.past now polled) later,
    fun id member => ?_, fun id rest attempt within => ?_⟩
  · rcases schedule.due id member with before | ⟨row, found, ready⟩
    · exact .inl before
    · exact .inr ⟨row, environ_row action found, Nat.le_trans ready later⟩
  · obtain ⟨e, row, newest, found, ready⟩ := schedule.claimed id rest attempt within
    exact ⟨e, row, newest, found, Nat.le_trans ready later⟩

end Steps

def Scheduled (g : PublisherShared) (φ : Nat → Phase) : Prop :=
  ∀ i call, g.calls[i]? = some call → OnSchedule g i call.instanceId (φ i)

theorem preserves_scheduled : publishers.Preserves route Spaced Scheduled where
  invoke c φ call guided schedules _ i call' called := by
    by_cases old : i < c.threads.length
    · rw [Function.update_of_ne (Nat.ne_of_lt old)]
      have called' : c.shared.calls[i]? = some call' := by
        simpa [Shared.invoke, List.getElem?_append_left (guided.numbered ▸ old)] using called
      have schedule := schedules i call' called'
      exact ⟨schedule.keyed, schedule.past, schedule.due, schedule.claimed⟩
    · have within := (List.getElem?_eq_some_iff.mp called).1
      simp only [Shared.invoke, List.length_append, List.length_singleton, ← guided.numbered] at within
      obtain rfl : i = c.threads.length := by omega
      rw [Function.update_self]
      constructor
      · rintro _ _ _ ⟨⟩
      · rintro _ ⟨⟩
      · rintro _ ⟨⟩
      · rintro _ _ _ ⟨⟩
  call c φ i call stmt next result w φ' _ schedules allows present called moves executed := by
    have ran : exec stmt c.shared.world = some (result, w) := engine_exec.mp executed
    intro j call' called'
    by_cases self : i = j
    · subst self
      obtain rfl : call = call' := Option.some.inj (called.symm.trans called')
      rw [Function.update_self]
      exact (schedules i call called).own moves ran (allows _ present stmt rfl)
    · rw [Function.update_of_ne (Ne.symm self)]
      exact (schedules j call' called').other self ran
  throws c φ i call act stmt next φ' _ schedules _ _ _ called moves := by
    intro j call' called'
    by_cases self : i = j
    · subst self
      obtain rfl : call = call' := Option.some.inj (called.symm.trans called')
      rw [Function.update_self]
      exact (schedules i call called).throws moves
    · rw [Function.update_of_ne (Ne.symm self)]
      exact schedules j call' called'
  environ c φ action _ schedules _ i call called := (schedules i call called).environ action

theorem scheduled_start (clock : String → Time) (φ : Nat → Phase) :
    Scheduled (publishers.initial (World.start clock)).shared φ := by
  intro i call called
  cases called

/-- In every run in which no row that was put off is claimed ahead of its time, no row is sent before
it was due when it was claimed. -/
theorem backs_off {clock : String → Time} {c : PublisherState}
    (runs : publishers.RunsUnder Spaced (publishers.initial (World.start clock)) c) : BackedOff c := by
  obtain ⟨φ, guided, schedules⟩ := System.Guided.runs autocommits route_guides preserves_scheduled
    (System.initial_guided _ fun _ => .ended) (scheduled_start clock _) runs
  intro i th call sent present called next
  have schedule := schedules i call called
  obtain ⟨φ', moves⟩ := moves_of_pending (guided.follows i th call present called) next
  obtain ⟨id, rest, record, within, rfl⟩ := moves.sending
  have key : record.id = id := schedule.keyed id rest record within
  subst key
  exact schedule.claimed _ rest _ within

namespace Sample

def putOff : List (Act Call EnvAct) :=
  enqueued ++ poll "first" 0 8 ++ [.fault 0] ++ List.replicate 4 (.step 0) ++
    [.environ (.tick fun _ => 2000)] ++ poll "second" 1 8

-- The second instance has found the row too, before the first claimed it.
def found : List (Act Call EnvAct) :=
  enqueued ++ poll "second" 0 4 ++ poll "first" 1 8 ++ [.fault 1] ++ List.replicate 3 (.step 1) ++
    List.replicate 4 (.step 0)

end Sample

theorem backs_off_later : BackedOff (Sample.run Sample.putOff) :=
  @backs_off (fun _ => 100000) _ (System.runsUnder_run _ _ _ (by decide +kernel))

theorem sent_ahead : ¬∀ (clock : String → Time) (c : PublisherState),
    publishers.Reachable (World.start clock) c → BackedOff c := by
  intro backed
  have sends : ((Sample.run Sample.found).threads[0]?.bind fun th => pending th.prog) =
      some (.rawSend (message (AnalyticsOutboxService.row TicketService.Sample.context "tenant" ⟨0, 0⟩
        .ticketRevoked Sample.payload 0))) := by decide +kernel
  have called : (Sample.run Sample.found).shared.calls[0]? = some (.publishReady "second") := by
    decide +kernel
  have due : (((Sample.run Sample.found).shared.history.find? (takenBy 0 ⟨0, 0⟩)).bind
      fun e => (e.world.row ⟨0, 0⟩).map (·.nextAttemptAt)) = some 102000 := by decide +kernel
  have time : (Sample.run Sample.found).shared.world.clock "second" = 100000 := by decide +kernel
  obtain ⟨th, present, next⟩ := Option.bind_eq_some_iff.mp sends
  obtain ⟨e, row, newest, found, ready⟩ :=
    backed _ _ (Sample.reachable_run Sample.found) 0 th _ _ present called next
  change List.find? (takenBy 0 ⟨0, 0⟩) _ = some e at newest
  change e.world.row ⟨0, 0⟩ = some row at found
  rw [newest, Option.bind_some, found, Option.map_some, Option.some.injEq] at due
  have early : row.nextAttemptAt ≤ 100000 := time ▸ ready
  rw [due] at early
  exact absurd early (by decide)

end AnalyticsOutboxPublisher

end TicketService
