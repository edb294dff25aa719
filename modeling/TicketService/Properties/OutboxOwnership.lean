import TicketService.Properties.Outbox
import TicketService.Refinement.Leases

set_option autoImplicit false

namespace TicketService

namespace AnalyticsOutboxPublisher

open Interleaving Relational

def pendingUpdate : Program Unit → Option Uuid
  | .call (.update id _) _ => some id
  | _ => none

/-- A thread that completes an attempt has made the last change of the row, by its claim. -/
def Fenced (c : PublisherState) : Act Call EnvAct → Prop
  | .step i => ∀ th ∈ c.threads[i]?, ∀ id ∈ pendingUpdate th.prog, holder id c.shared.history = some i
  | _ => True

instance (c : PublisherState) (act : Act Call EnvAct) : Decidable (Fenced c act) :=
  match act with
  | .step i => inferInstanceAs (Decidable (∀ th ∈ c.threads[i]?, ∀ id ∈ pendingUpdate th.prog,
      holder id c.shared.history = some i))
  | .invoke _ => inferInstanceAs (Decidable True)
  | .fault _ => inferInstanceAs (Decidable True)
  | .environ _ => inferInstanceAs (Decidable True)

-- Each completion was made on a row that the instance had locked.
def OwnersOnly (g : PublisherShared) : Prop :=
  ∀ i id data result w, .stmt i (.update id data) result w ∈ g.history →
    ∃ row call, w.row id = some row ∧ g.calls[i]? = some call ∧ row.lockedBy = some call.instanceId

structure Settled (row row' : AnalyticsOutbox) : Prop where
  publishedAt : row'.publishedAt = row.publishedAt
  attempts : row'.attempts = row.attempts
  deadLetteredAt : row'.deadLetteredAt = none

def published (w : World) : List AnalyticsOutbox :=
  w.outbox.rows.filter (·.publishedAt.isSome)

structure Held (g : PublisherShared) : Prop where
  owned : ∀ id i, holder id g.history = some i → ∃ row call, g.world.row id = some row ∧
    g.calls[i]? = some call ∧ row.lockedBy = some call.instanceId ∧ row.publishedAt = none ∧
      row.deadLetteredAt = none
  updates : OwnersOnly g
  settled : ∀ id row, g.world.row id = some row → row.publishedAt = none ∨ row.deadLetteredAt = none

def Kept (row : AnalyticsOutbox) (w : World) : Prop :=
  row.publishedAt.isSome ∧ ∃ row', w.row row.id = some row' ∧ Settled row row'

section Steps

variable {g : PublisherShared} {i : Nat} {call : Call} {φ φ' : Phase} {stmt : Stmt}
  {result : stmt.Res} {w : World}

theorem OwnersOnly.record (updates : OwnersOnly g)
    (new : ∀ id data, stmt = .update id data →
      ∃ row call, g.world.row id = some row ∧ g.calls[i]? = some call ∧ row.lockedBy = some call.instanceId) :
    OwnersOnly (recorded g i stmt result w) := by
  intro j id data result' w' member
  rcases List.mem_cons.mp member with same | before
  · cases same
    exact new id data rfl
  · exact updates j id data result' w' before

theorem Held.step (held : Held g) (called : g.calls[i]? = some call)
    (moves : Moves call.instanceId φ stmt (some result) φ') (executed : exec stmt g.world = some (result, w))
    (fenced : ∀ id data, stmt = .update id data → holder id g.history = some i) :
    Held (recorded g i stmt result w) := by
  -- The last change of the other rows is what it was.
  have kept (id : Uuid) (untaken : takes id (.stmt i stmt result g.world) = false)
      (open_ : completes id (.stmt i stmt result g.world) = false) (same : w.row id = g.world.row id)
      (j : Nat) (holds : holder id (recorded g i stmt result w).history = some j) :
      ∃ row call, w.row id = some row ∧ g.calls[j]? = some call ∧
        row.lockedBy = some call.instanceId ∧ row.publishedAt = none ∧ row.deadLetteredAt = none := by
    have before : holder id (.stmt i stmt result g.world :: g.history) = some j := holds
    rw [holder_same untaken open_] at before
    obtain ⟨row, call', found, rest⟩ := held.owned id j before
    exact ⟨row, call', same.trans found, rest⟩
  have effect := exec_effect executed
  cases effect with
  | keeps unclaimed open_ same =>
    refine ⟨fun id => kept id (takes_other unclaimed) (completes_other open_) (same.row_eq id),
      held.updates.record fun id data update => absurd update (open_ id data), fun id row found => ?_⟩
    exact held.settled id row ((same.row_eq id).symm.trans found)
  | @takes target staleBefore lockedAt lockedBy _ _ row found free puts =>
    obtain rfl : lockedBy = call.instanceId := moves.lockedBy
    have unsettled : row.publishedAt = none ∧ row.deadLetteredAt = none := by
      simp only [claimable, Bool.and_eq_true, Option.isNone_iff_eq_none] at free
      exact free.1
    refine ⟨fun id j holds => ?_, held.updates.record (by simp),
      fun id row' (present : w.row id = some row') => ?_⟩
    · by_cases here : target = id
      · subst here
        have taken : takes target (.stmt i (.claim target staleBefore lockedAt call.instanceId)
            (g.world.answer (1 : Nat)) g.world) = true := by simp [takes, found, free]
        have mine : holder target (.stmt i (.claim target staleBefore lockedAt call.instanceId)
            (g.world.answer (1 : Nat)) g.world :: g.history) = some j := holds
        simp only [holder, taken, if_true, Event.thread, Option.some.injEq] at mine
        subst mine
        exact ⟨_, call, puts.here, called, rfl, unsettled⟩
      · exact kept id (by simp [takes, here]) rfl (puts.others id (Ne.symm here)) j holds
    · by_cases here : id = target
      · subst here
        rw [puts.here] at present
        cases present
        exact .inl unsettled.1
      · exact held.settled id row' ((puts.others id here).symm.trans present)
  | passes free =>
    refine ⟨fun id => kept id ?_ rfl rfl, held.updates.record (by simp), held.settled⟩
    simp only [takes, decide_eq_false_iff_not]
    rintro ⟨rfl, taken⟩
    simp [free] at taken
  | @completes target data _ _ row found puts =>
    obtain ⟨row', call', there, owner, locked, unpublished, undead⟩ :=
      held.owned target i (fenced target data rfl)
    obtain rfl : row = row' := Option.some.inj (found.symm.trans there)
    refine ⟨fun id j holds => ?_, held.updates.record fun id data' same => ?_,
      fun id row' (present : w.row id = some row') => ?_⟩
    · by_cases here : target = id
      · subst here
        have ended : holder target (.stmt i (.update target data) (g.world.answer (data.apply row))
            g.world :: g.history) = some j := holds
        simp [holder, completes, takes] at ended
      · exact kept id rfl (by simp [completes, here]) (puts.others id (Ne.symm here)) j holds
    · cases same
      exact ⟨row, call', there, owner, locked⟩
    · by_cases here : id = target
      · subst here
        rw [puts.here] at present
        cases present
        cases data with
        | published publishedAt => exact .inr undead
        | deadLettered attempts lastError deadLetteredAt => exact .inl unpublished
        | retried attempts lastError nextAttemptAt => exact .inl unpublished
      · exact held.settled id row' ((puts.others id here).symm.trans present)

theorem Held.keeps (held : Held g) (executed : exec stmt g.world = some (result, w))
    (fenced : ∀ id data, stmt = .update id data → holder id g.history = some i)
    {old : AnalyticsOutbox} (kept : Kept old g.world) : Kept old w := by
  obtain ⟨sent, row, found, settled⟩ := kept
  have unclaimable : row.publishedAt ≠ none := by
    rw [settled.publishedAt]
    exact Option.isSome_iff_ne_none.mp sent
  refine ⟨sent, row, ?_, settled⟩
  have effect := exec_effect executed
  cases effect with
  | keeps unclaimed open_ same => exact (same.row_eq old.id).trans found
  | @takes target _ _ _ _ _ other present free puts =>
    by_cases here : old.id = target
    · subst here
      obtain rfl : other = row := Option.some.inj (present.symm.trans found)
      simp [claimable, unclaimable] at free
    · exact (puts.others _ here).trans found
  | passes => exact found
  | @completes target data _ _ other present puts =>
    by_cases here : old.id = target
    · subst here
      obtain ⟨row', -, present', -, -, unpublished, -⟩ := held.owned _ i (fenced _ data rfl)
      rw [found] at present'
      cases present'
      exact absurd unpublished unclaimable
    · exact (puts.others _ here).trans found

end Steps

theorem Held.invoke {g : PublisherShared} (held : Held g) (call : Call) : Held (g.invoke call) := by
  have earlier (j : Nat) (call' : Call) (there : g.calls[j]? = some call') :
      (g.invoke call).calls[j]? = some call' := by
    have within := (List.getElem?_eq_some_iff.mp there).1
    simp [Shared.invoke, List.getElem?_append_left within, there]
  refine ⟨fun id j holds => ?_, fun j id data result w member => ?_, held.settled⟩
  · obtain ⟨row, call', found, called, rest⟩ := held.owned id j holds
    exact ⟨row, call', found, earlier j call' called, rest⟩
  · obtain ⟨row, call', found, called, locked⟩ := held.updates j id data result w member
    exact ⟨row, call', found, earlier j call' called, locked⟩

theorem Held.environ {g : PublisherShared} (held : Held g) (action : EnvAct) :
    Held (g.environ engine action) := by
  refine ⟨fun id j holds => ?_, held.updates, fun id row found => ?_⟩
  · obtain ⟨row, call, found, rest⟩ := held.owned id j holds
    exact ⟨row, call, environ_row action found, rest⟩
  · rcases environ_new action found with before | ⟨unpublished, -⟩
    · exact held.settled id row before
    · exact .inl unpublished

theorem preserves_held (old : List AnalyticsOutbox) :
    publishers.Preserves route Fenced fun g _ => Held g ∧ ∀ row ∈ old, Kept row g.world where
  invoke _ _ call _ holds _ := ⟨holds.1.invoke call, holds.2⟩
  call c φ i call stmt next result w φ' _ holds allows present called moves executed := by
    have ran : exec stmt c.shared.world = some (result, w) := engine_exec.mp executed
    have fenced (id : Uuid) (data : Completion) (update : stmt = .update id data) :
        holder id c.shared.history = some i := by
      subst update
      exact allows _ present id rfl
    exact ⟨holds.1.step called moves ran fenced, fun row member =>
      holds.1.keeps ran fenced (holds.2 row member)⟩
  throws _ _ _ _ _ _ _ _ _ holds _ _ _ _ _ := holds
  environ c φ action _ holds _ := by
    refine ⟨holds.1.environ action, fun row member => ?_⟩
    obtain ⟨sent, row', found, settled⟩ := holds.2 row member
    exact ⟨sent, row', environ_row action found, settled⟩

theorem held_start (clock : String → Time) :
    Held (publishers.initial (World.start clock)).shared where
  owned id i holds := by cases holds
  updates i id data result w member := by cases member
  settled id row found := by cases found

theorem kept_published {g : PublisherShared} (held : Held g) {row : AnalyticsOutbox}
    (member : row ∈ published g.world) : Kept row g.world := by
  obtain ⟨present, sent⟩ := List.mem_filter.mp member
  have found : g.world.row row.id = some row := Table.get?_of_mem present
  have unsettled := Option.isSome_iff_ne_none.mp sent
  exact ⟨sent, row, found, rfl, rfl, (held.settled _ _ found).resolve_left unsettled⟩

-- What a late publisher must not do: complete a row that it does not own, or change a published one.
def Intact (c c' : PublisherState) : Prop :=
  OwnersOnly c'.shared ∧ ∀ row ∈ published c.shared.world, ∀ row' ∈ c'.shared.world.outbox.rows,
    row'.id = row.id → Settled row row'

/-- In every run whose completions are made under the last claim of the row, each of them is made
on a row that the instance has locked, and published rows stay as they are. -/
theorem owners_complete {clock : String → Time} {c c' : PublisherState}
    (runs : publishers.RunsUnder Fenced (publishers.initial (World.start clock)) c)
    (more : publishers.RunsUnder Fenced c c') : Intact c c' := by
  obtain ⟨φ, guided, held, -⟩ := System.Guided.runs autocommits route_guides (preserves_held [])
    (System.initial_guided _ fun _ => .ended) ⟨held_start clock, by simp⟩ runs
  obtain ⟨φ', -, held', kept⟩ := System.Guided.runs autocommits route_guides
    (preserves_held (published c.shared.world)) guided
    ⟨held, fun _ member => kept_published held member⟩ more
  refine ⟨held'.updates, fun row member row' there same => ?_⟩
  obtain ⟨-, last, found, settled⟩ := kept row member
  have here : c'.shared.world.row row.id = some row' := same ▸ Table.get?_of_mem there
  rw [found] at here
  cases here
  exact settled

theorem owners_complete_retried :
    Intact (Sample.run Sample.enqueued) (Sample.run (Sample.enqueued ++ Sample.retry)) := by
  have first : publishers.RunsUnder Fenced (publishers.initial (World.start fun _ => 100000))
      (Sample.run Sample.enqueued) := System.runsUnder_run _ _ _ (by decide +kernel)
  have second : publishers.RunsUnder Fenced (Sample.run Sample.enqueued)
      (Sample.run (Sample.enqueued ++ Sample.retry)) := by
    unfold Sample.run
    rw [System.run_append]
    exact System.runsUnder_run _ _ _ (by decide +kernel)
  exact owners_complete first second

namespace Sample

-- The first instance has read the row when its lease runs out. The second claims the row, sends it
-- and marks it published; then the `rawSend` of the first throws.
def overtaken : List (Act Call EnvAct) :=
  enqueued ++ poll "first" 0 8 ++ [.environ (.tick fun _ => 61000)] ++ poll "second" 1 12

def late : List (Act Call EnvAct) :=
  [.fault 0] ++ List.replicate 3 (.step 0)

end Sample

theorem late_failure_recorded : ¬∀ (clock : String → Time) (c c' : PublisherState),
    publishers.Reachable (World.start clock) c → publishers.Runs c c' → Intact c c' := by
  intro intact
  have kept := (intact _ _ _ (Sample.reachable_run Sample.overtaken)
    (Sample.runs_append Sample.overtaken Sample.late)).2
  have before : ((⟨0, 0⟩, 0) : Uuid × Nat) ∈ (published (Sample.run Sample.overtaken).shared.world).map
      fun row => (row.id, row.attempts) := by decide +kernel
  have after : ((⟨0, 0⟩, 1) : Uuid × Nat) ∈
      (Sample.run (Sample.overtaken ++ Sample.late)).shared.world.outbox.rows.map
        fun row => (row.id, row.attempts) := by decide +kernel
  obtain ⟨row, member, first⟩ := List.mem_map.mp before
  obtain ⟨row', member', second⟩ := List.mem_map.mp after
  obtain ⟨id, attempts⟩ := Prod.mk.inj first
  obtain ⟨id', attempts'⟩ := Prod.mk.inj second
  have same := (kept row member row' member' (id'.trans id.symm)).attempts
  rw [attempts, attempts'] at same
  cases same

end AnalyticsOutboxPublisher

end TicketService
