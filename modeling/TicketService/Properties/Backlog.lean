import TicketService.Properties.Outbox
import TicketService.Refinement.Attempts

set_option autoImplicit false

namespace TicketService

namespace AnalyticsOutboxPublisher

open Interleaving Relational

def unfinished (row : AnalyticsOutbox) : Bool :=
  row.publishedAt.isNone && row.deadLetteredAt.isNone

def World.unfinished (w : World) : List AnalyticsOutbox :=
  w.outbox.rows.filter AnalyticsOutboxPublisher.unfinished

def Ready (now : Time) (row : AnalyticsOutbox) : Prop :=
  row.nextAttemptAt ≤ now ∧ row.lockedAt.all (· < now - 60000) = true

structure Polled (instanceId : String) (c c' : PublisherState) : Prop where
  alone : publishers.Sequential ticks c (.publishReady instanceId) c'
  returned : c'.threads[c.threads.length]?.bind Thread.returned = some ()

section Candidates

variable {w : World} {now staleBefore : Time} {row : AnalyticsOutbox}

instance (now : Time) (row : AnalyticsOutbox) : Decidable (Ready now row) :=
  inferInstanceAs (Decidable (_ ∧ _))

theorem mem_candidates (member : row ∈ w.candidates now staleBefore) :
    w.row row.id = some row ∧ claimable staleBefore row = true := by
  have sorted := List.mem_of_mem_take member
  obtain ⟨present, due⟩ := List.mem_filter.mp (List.mem_mergeSort.mp sorted)
  exact ⟨Table.get?_of_mem present, (Bool.and_eq_true _ _ ▸ due).1⟩

theorem candidates_distinct : ((w.candidates now staleBefore).map (·.id)).Nodup := by
  have rows : ((w.outbox.rows.filter fun row => claimable staleBefore row && row.nextAttemptAt ≤ now).map
      (·.id)).Nodup := w.outbox.nodup.sublist (List.filter_sublist.map _)
  have sorted := ((List.mergeSort_perm _ fun row other : AnalyticsOutbox =>
    decide (row.createdAt ≤ other.createdAt)).map (·.id)).nodup_iff.mpr rows
  exact sorted.sublist ((List.take_sublist 50 _).map _)

end Candidates

section Poll

variable {i : Nat} {tx tx' : Option Unit} {s s' : World × Record} {instanceId : String}

theorem Handled.within {rows : List AnalyticsOutbox} {w w₁ w₂ w' : World} {new earlier later : Record}
    (handled : Handled rows w₁ w₂ new) (before : w₁.outbox = w.outbox) (after : w'.outbox = w₂.outbox)
    (unsent : messages earlier = []) (unsent' : messages later = []) :
    Handled rows w w' (later ++ (new ++ earlier)) := by
  have sent : messages (later ++ (new ++ earlier)) = messages new := by
    rw [messages_append, messages_append, unsent, unsent', List.append_nil, List.nil_append]
  have row (id : Uuid) : w'.row id = w₂.row id := congrArg (fun outbox => Table.get? outbox id) after
  have calm : Calm (later ++ (new ++ earlier)) → Calm new :=
    fun whole => (calm_append.mp (calm_append.mp whole).2).1
  constructor
  · intro old member
    rw [sent, row]
    exact (handled.published_or_failed old member).imp_right fun ⟨there, trouble⟩ =>
      ⟨there, fun whole => trouble (calm whole)⟩
  · intro id absent
    have same : w₁.row id = w.row id := congrArg (fun outbox => Table.get? outbox id) before
    exact ((row id).trans (handled.others id absent)).trans same
  · rw [sent]
    exact handled.order
  · intro whole
    rw [sent]
    exact handled.calm (calm whole)

theorem poll_handles (answering : s.1.answering = true)
    (run : Runs i (poll instanceId) tx s (.ok ()) tx' s') :
    ∃ now later new, s.1.clock instanceId ≤ now ∧ now ≤ later ∧ s'.2 = new ++ s.2 ∧
      Handled (s.1.candidates now (later - 60000)) s.1 s'.1 new ∧ s'.1.answering = true ∧
      s'.1.running = s.1.running ∧ ∀ other, s.1.clock other ≤ s'.1.clock other := by
  obtain ⟨now, w₁, w₂, s₁, tx₁, before, read, after, logged, run⟩ := issue_returned run
  cases read
  obtain ⟨later, w₃, w₄, s₂, tx₂, before', read', after', logged', run⟩ := issue_returned run
  have stays := Prod.mk.inj (Option.some.inj read')
  obtain ⟨rfl, rfl⟩ : w₃.clock instanceId = later ∧ w₃ = w₄ := stays
  obtain ⟨rows, w₅, w₆, s₃, tx₃, before'', found, after'', logged'', run⟩ := issue_returned run
  have passed := (before.trans after).trans before'
  have ticked := (passed.trans after').trans before''
  cases found
  have same : w₅.candidates (w₁.clock instanceId) (w₃.clock instanceId - 60000) =
      s.1.candidates (w₁.clock instanceId) (w₃.clock instanceId - 60000) := by
    simp only [World.candidates, ticked.outbox]
  rw [same] at run logged''
  have whole := ticked.trans after''
  obtain ⟨new, logged₄, handled, still, running, clock⟩ :=
    publishAll_handles (whole.answering.trans answering) candidates_distinct (fun row member => by
      obtain ⟨present, free⟩ := mem_candidates member
      refine ⟨(whole.row row.id).trans present, claimable_mono (Nat.sub_le_sub_right ?_ 60000) free⟩
      exact Nat.le_trans (after'.clock instanceId)
        (Nat.le_trans (before''.clock instanceId) (after''.clock instanceId))) run
  rw [logged', logged] at logged''
  rw [logged''] at logged₄
  refine ⟨w₁.clock instanceId, w₃.clock instanceId, new ++ [_, _, _], before.clock instanceId,
    Nat.le_trans (after.clock instanceId) (before'.clock instanceId),
    logged₄.trans (List.append_assoc new [_, _, _] _).symm,
    @Handled.within _ _ _ _ _ _ _ [] handled whole.outbox rfl rfl rfl, still,
    running.trans whole.running,
    fun other => Nat.le_trans (whole.clock other) (clock other)⟩

theorem publishReady_handles (answering : s.1.answering = true) (idle : instanceId ∉ s.1.running)
    (run : Runs i (publishReady instanceId) tx s (.ok ()) tx' s') :
    ∃ now later new, s.1.clock instanceId ≤ now ∧ now ≤ later ∧ s'.2 = new ++ s.2 ∧
      Handled (s.1.candidates now (later - 60000)) s.1 s'.1 new ∧ s'.1.answering = true ∧
      s'.1.running ⊆ s.1.running ∧ ∀ other, s.1.clock other ≤ s'.1.clock other := by
  obtain ⟨running, w₁, w₂, s₁, tx₁, before, entered, after, logged, run⟩ := issue_returned run
  cases entered
  have free : decide (instanceId ∈ w₁.running) = false :=
    decide_eq_false (before.running ▸ idle)
  rw [free] at run logged
  obtain ⟨tx₂, s₂, s₃, polled, left, last⟩ := run.ensure_cases
  obtain ⟨_, w₃, w₄, s₄, tx₃, before', leaves, after', logged', ended⟩ := issue_returned left
  cases leaves
  obtain ⟨-, -, last'⟩ := ended.done_cases
  obtain ⟨ticked, same⟩ := ticked_of_later last'
  obtain ⟨ticked', same'⟩ := ticked_of_later last
  obtain ⟨now, later, new, began, ordered, logged₂, handled, still, runs, clock⟩ :=
    poll_handles (after.answering.trans (before.answering.trans answering)) polled
  have outside := (after'.trans ticked).trans ticked'
  have outbox := after.outbox.trans before.outbox
  have same₂ : s₁.1.candidates now (later - 60000) = s.1.candidates now (later - 60000) := by
    simp only [World.candidates, outbox]
  rw [same₂] at handled
  rw [logged] at logged₂
  rw [logged₂] at logged'
  have logs : s'.2 = ([_] ++ (new ++ [_])) ++ s.2 :=
    same'.trans (same.trans (logged'.trans
      (congrArg (List.cons _) (List.append_assoc new [_] s.2).symm)))
  refine ⟨now, later, _, ?_, ordered, logs,
    handled.within outbox (outside.outbox.trans before'.outbox) rfl rfl, ?_, ?_, ?_⟩
  · exact Nat.le_trans (before.clock instanceId) (Nat.le_trans (after.clock instanceId) began)
  · exact outside.answering.trans (before'.answering.trans still)
  · intro other member
    rw [outside.running] at member
    obtain ⟨there, different⟩ := List.mem_filter.mp member
    have added : other ∈ instanceId :: w₁.running := by
      rw [before'.running, runs, after.running] at there
      exact there
    rcases List.mem_cons.mp added with same | present
    · exact absurd same (of_decide_eq_true different)
    · exact before.running ▸ present
  · intro other
    calc s.1.clock other ≤ w₁.clock other := before.clock other
      _ ≤ s₁.1.clock other := after.clock other
      _ ≤ s₂.1.clock other := clock other
      _ ≤ w₃.clock other := before'.clock other
      _ ≤ s'.1.clock other := outside.clock other

end Poll

section System

variable {c c' : PublisherState} {instanceId : String}

theorem messages_filter (history : Record) : messages (history.filter fun e => !e.isRollback) = messages history := by
  unfold messages
  rw [List.filterMap_filter]
  congr 2
  funext e
  cases e <;> rfl

theorem calm_filter (history : Record) : Calm (history.filter fun e => !e.isRollback) ↔ Calm history := by
  constructor
  · intro calm e member
    cases e with
    | stmt thread stmt result world => exact calm _ (List.mem_filter.mpr ⟨member, rfl⟩)
    | _ => rfl
  · exact fun calm e member => calm e (List.mem_filter.mp member).1

theorem Handled.recorded {rows : List AnalyticsOutbox} {w w' : World} {steps : Record}
    (handled : Handled rows w w' (steps.filter fun e => !e.isRollback)) : Handled rows w w' steps where
  published_or_failed row member := by
    have handled := handled.published_or_failed row member
    rwa [messages_filter, calm_filter] at handled
  others := handled.others
  order := messages_filter steps ▸ handled.order
  calm calm := messages_filter steps ▸ handled.calm ((calm_filter steps).mpr calm)

theorem Polled.handles (polled : Polled instanceId c c') (answering : c.shared.world.answering = true)
    (idle : instanceId ∉ c.shared.world.running) :
    ∃ now later steps, c.shared.world.clock instanceId ≤ now ∧ now ≤ later ∧
      c'.shared.history = steps ++ c.shared.history ∧
      Handled (c.shared.world.candidates now (later - 60000)) c.shared.world c'.shared.world steps ∧
      c'.shared.world.answering = true ∧ c'.shared.world.running ⊆ c.shared.world.running ∧
      ∀ other, c.shared.world.clock other ≤ c'.shared.world.clock other := by
  obtain ⟨⟨begun, invoked, runs⟩, returned⟩ := polled
  obtain ⟨⟨prog, tx⟩, last, ended⟩ := Option.bind_eq_some_iff.mp returned
  cases invoked
  have stopped : System.Stopped (⟨prog, tx⟩ : Thread statements Unit Exn Unit) (.ok ()) := by
    refine ⟨?_, by simp⟩
    cases prog with
    | done value => rfl
    | _ => cases ended
  have first : (c.threads ++ [Thread.mk (publishReady instanceId) (none : Option Unit)])[c.threads.length]? =
      some ⟨publishReady instanceId, none⟩ := by simp
  have run : Runs c.threads.length (publishReady instanceId) none c.shared.logged (.ok ()) tx
      c'.shared.logged := runs.alone first last stopped
  obtain ⟨now, later, new, began, ordered, logged, handled, rest⟩ :=
    publishReady_handles answering idle run
  obtain ⟨steps, history⟩ := System.runs_history (System.runs_of_runsBy runs)
  have history' : c'.shared.history = steps ++ c.shared.history := history.symm
  have same : steps.filter (fun e => !e.isRollback) = new := by
    have whole : c'.shared.logged.2 = steps.filter (fun e => !e.isRollback) ++ c.shared.logged.2 := by
      simp [Shared.logged, history']
    exact List.append_cancel_right (whole.symm.trans logged)
  rw [← same] at handled
  exact ⟨now, later, steps, began, ordered, history', handled.recorded, rest⟩

/-- A poll that runs alone attempts each of the first fifty rows that are due once, in the order in
which they were enqueued. It leaves each of them published, or rescheduled or given up after a
failure, and in no case with its lease, and it changes no other row. -/
theorem poll_attempts (answering : c.shared.world.answering = true)
    (idle : instanceId ∉ c.shared.world.running) (polled : Polled instanceId c c') :
    ∃ now later steps, c.shared.world.clock instanceId ≤ now ∧ now ≤ later ∧
      c'.shared.history = steps ++ c.shared.history ∧
      Handled (c.shared.world.candidates now (later - 60000)) c.shared.world c'.shared.world steps := by
  obtain ⟨now, later, steps, began, ordered, history, handled, -⟩ := polled.handles answering idle
  exact ⟨now, later, steps, began, ordered, history, handled⟩

end System

inductive Polls : List String → PublisherState → PublisherState → Prop where
  | nil (c : PublisherState) : Polls [] c c
  | cons {instanceId : String} {rest : List String} {c c₁ c' : PublisherState} :
    Polled instanceId c c₁ → Polls rest c₁ c' → Polls (instanceId :: rest) c c'

section Drain

variable {c c' : PublisherState} {instances : List String} {w w' : World} {row : AnalyticsOutbox}

def InQueue (queue : List AnalyticsOutbox) : Prop :=
  queue.Pairwise fun row other => row.createdAt ≤ other.createdAt

theorem mem_unfinished : row ∈ w.unfinished ↔ w.row row.id = some row ∧ unfinished row = true :=
  ⟨fun member => ⟨Table.get?_of_mem (List.mem_filter.mp member).1, (List.mem_filter.mp member).2⟩,
    fun ⟨found, open_⟩ => List.mem_filter.mpr ⟨Table.mem_of_get? found, open_⟩⟩

theorem unfinished_distinct : (w.unfinished.map (·.id)).Nodup :=
  w.outbox.nodup.sublist (List.filter_sublist.map _)

theorem Ready.mono {now later : Time} (passed : now ≤ later) (due : Ready now row) : Ready later row :=
  ⟨Nat.le_trans due.1 passed, stale_mono (Nat.sub_le_sub_right passed 60000) due.2⟩

def World.queue (w : World) : List AnalyticsOutbox :=
  w.unfinished.mergeSort fun row other => row.createdAt ≤ other.createdAt

theorem queue_perm (w : World) : w.queue.Perm w.unfinished :=
  List.mergeSort_perm _ _

theorem queue_inQueue (w : World) : InQueue w.queue := by
  let earlier (row other : AnalyticsOutbox) : Bool := row.createdAt ≤ other.createdAt
  have trans (row other last : AnalyticsOutbox) (first : earlier row other = true)
      (second : earlier other last = true) : earlier row last = true :=
    decide_eq_true (Nat.le_trans (of_decide_eq_true first) (of_decide_eq_true second))
  have total (row other : AnalyticsOutbox) : (earlier row other || earlier other row) = true := by
    simpa [earlier] using Nat.le_total row.createdAt other.createdAt
  have sorted := List.pairwise_mergeSort trans total w.unfinished
  exact sorted.imp of_decide_eq_true

theorem candidates_due {now later : Time} (ordered : now ≤ later)
    (due : ∀ row ∈ w.unfinished, Ready now row) :
    w.candidates now (later - 60000) = w.queue.take 50 := by
  have same : (w.outbox.rows.filter fun row => claimable (later - 60000) row && row.nextAttemptAt ≤ now) =
      w.unfinished := by
    apply List.filter_congr
    intro row member
    have parts : claimable (later - 60000) row =
        (unfinished row && row.lockedAt.all (· < later - 60000)) := rfl
    rw [parts]
    cases open_ : unfinished row with
    | false => rfl
    | true =>
      have ready := due row (List.mem_filter.mpr ⟨member, open_⟩)
      simp only [(ready.mono ordered).2, ready.1, decide_true, Bool.and_true]
  simp only [World.candidates, World.queue, same]

theorem apart {queue : List AnalyticsOutbox} {count : Nat} (queued : queue.Perm w.unfinished)
    (member : row ∈ queue.drop count) : row.id ∉ (queue.take count).map (·.id) := by
  have distinct : (queue.map (·.id)).Nodup := (queued.map (·.id)).nodup_iff.mpr unfinished_distinct
  rw [← List.take_append_drop count queue, List.map_append, List.nodup_append] at distinct
  exact fun taken => distinct.2.2 _ taken _ (List.mem_map_of_mem member) rfl

theorem left_over {queue : List AnalyticsOutbox} {count : Nat} (queued : queue.Perm w.unfinished)
    (published : ∀ row ∈ queue.take count, ∃ publishedAt,
      w'.row row.id = some ((Completion.published publishedAt).apply row))
    (others : ∀ id, id ∉ (queue.take count).map (·.id) → w'.row id = w.row id) :
    (queue.drop count).Perm w'.unfinished := by
  have distinct : (queue.map (·.id)).Nodup := (queued.map (·.id)).nodup_iff.mpr unfinished_distinct
  refine (List.perm_ext_iff_of_nodup (distinct.of_map.sublist (List.drop_sublist count queue))
    unfinished_distinct.of_map).mpr fun row => ?_
  constructor
  · intro member
    obtain ⟨found, open_⟩ := mem_unfinished.mp (queued.mem_iff.mp (List.mem_of_mem_drop member))
    exact mem_unfinished.mpr ⟨(others row.id (apart queued member)).trans found, open_⟩
  · intro member
    obtain ⟨found, open_⟩ := mem_unfinished.mp member
    by_cases taken : row.id ∈ (queue.take count).map (·.id)
    · obtain ⟨old, member, same⟩ := List.mem_map.mp taken
      obtain ⟨publishedAt, there⟩ := published old member
      rw [same, found] at there
      cases there
      cases open_
    · have before := mem_unfinished.mpr ⟨(others row.id taken).symm.trans found, open_⟩
      have member := queued.mem_iff.mpr before
      rw [← List.take_append_drop count queue, List.mem_append] at member
      exact member.resolve_left fun there => taken (List.mem_map_of_mem there)

theorem Handled.published {rows : List AnalyticsOutbox} {new : Record} (handled : Handled rows w w' new)
    (calm : Calm new) (row : AnalyticsOutbox) (member : row ∈ rows) :
    ∃ publishedAt, w'.row row.id = some ((Completion.published publishedAt).apply row) :=
  (handled.published_or_failed row member).resolve_right (fun failed => failed.2 calm) |>.1

theorem Polls.extends (polls : Polls instances c c') : ∃ steps, c'.shared.history = steps ++ c.shared.history := by
  induction polls with
  | nil c => exact ⟨[], rfl⟩
  | cons polled _ ih =>
    obtain ⟨⟨begun, invoked, runs⟩, -⟩ := polled
    obtain ⟨first, here⟩ := System.runs_history (System.runs_of_runsBy runs)
    obtain ⟨later, there⟩ := ih
    cases invoked
    exact ⟨later ++ first, by rw [there, ← here, List.append_assoc]; rfl⟩

theorem take_front {α : Type} {front queue : List α} {count more : Nat} (short : front.length ≤ count)
    (full : front.length < count → queue = []) :
    (front ++ queue).take (count + more) = front ++ queue.take more := by
  rw [List.take_append, List.take_of_length_le (by omega)]
  by_cases filled : front.length = count
  · rw [filled, Nat.add_sub_cancel_left]
  · rw [full (by omega), List.take_nil, List.take_nil]

/-- Polls that run one after another without a failure publish the oldest rows of the backlog, fifty
in a poll, and each of them is sent once, in the order in which they were enqueued. -/
theorem backlog_drains (answering : c.shared.world.answering = true)
    (idle : ∀ instanceId ∈ instances, instanceId ∉ c.shared.world.running)
    (due : ∀ row ∈ c.shared.world.unfinished, ∀ instanceId ∈ instances,
      Ready (c.shared.world.clock instanceId) row)
    (polls : Polls instances c c') {steps : Record} (added : c'.shared.history = steps ++ c.shared.history)
    (calm : Calm steps) :
    ∃ queue, queue.Perm c.shared.world.unfinished ∧ InQueue queue ∧
      messages steps = (queue.take (50 * instances.length)).map message ∧
      (∀ row ∈ queue.take (50 * instances.length), ∃ publishedAt,
        c'.shared.world.row row.id = some ((Completion.published publishedAt).apply row)) ∧
      ∀ id, id ∉ (queue.take (50 * instances.length)).map (·.id) →
        c'.shared.world.row id = c.shared.world.row id := by
  induction polls generalizing steps with
  | nil c =>
    obtain rfl : steps = [] := List.self_eq_append_left.mp added
    exact ⟨c.shared.world.queue, queue_perm _, queue_inQueue _, rfl, by simp, by simp⟩
  | @cons instanceId rest c c₁ c' polled polls ih =>
    obtain ⟨now, later, first, began, ordered, history, handled, still, running, clock⟩ :=
      polled.handles answering (idle instanceId List.mem_cons_self)
    obtain ⟨last, history'⟩ := polls.extends
    obtain rfl : steps = last ++ first := by
      rw [history', history, ← List.append_assoc] at added
      exact (List.append_cancel_right added).symm
    obtain ⟨calm', calm⟩ := calm_append.mp calm
    have ready (row : AnalyticsOutbox) (member : row ∈ c.shared.world.unfinished) : Ready now row :=
      (due row member instanceId List.mem_cons_self).mono began
    rw [candidates_due ordered ready] at handled
    have left := left_over (queue_perm _) (handled.published calm) handled.others
    let front := c.shared.world.queue.take 50
    let back := c.shared.world.queue.drop 50
    have still_due (row : AnalyticsOutbox) (member : row ∈ c₁.shared.world.unfinished) (other : String)
        (listed : other ∈ rest) : Ready (c₁.shared.world.clock other) row := by
      have before := (queue_perm _).mem_iff.mp (List.mem_of_mem_drop (left.mem_iff.mpr member))
      exact (due row before other (List.mem_cons_of_mem _ listed)).mono (clock other)
    obtain ⟨queue, perm, sorted, sent, published, others⟩ := ih still
      (fun other listed present => idle other (List.mem_cons_of_mem _ listed) (running present))
      still_due history' calm'
    have behind : queue.Perm back := perm.trans left.symm
    have taken : (front ++ queue).take (50 * (instanceId :: rest).length) =
        front ++ queue.take (50 * rest.length) := by
      have length : 50 * (instanceId :: rest).length = 50 + 50 * rest.length := by
        simp only [List.length_cons]
        omega
      rw [length]
      refine take_front (List.length_take_le 50 _) fun short => ?_
      have none_left : back = [] := by
        apply List.drop_eq_nil_of_le
        have shorter : min 50 c.shared.world.queue.length < 50 := List.length_take .. ▸ short
        omega
      exact (none_left ▸ behind).eq_nil
    have whole : (front ++ queue).Perm c.shared.world.unfinished := by
      have joined := behind.append_left front
      rw [List.take_append_drop] at joined
      exact joined.trans (queue_perm _)
    refine ⟨front ++ queue, whole, ?_, ?_, ?_, ?_⟩
    · have ordered := queue_inQueue c.shared.world
      rw [InQueue, ← List.take_append_drop 50 c.shared.world.queue, List.pairwise_append] at ordered
      exact List.pairwise_append.mpr
        ⟨ordered.1, sorted, fun row taken other later => ordered.2.2 row taken other (behind.mem_iff.mp later)⟩
    · rw [taken, messages_append, handled.calm calm, sent, List.map_append]
    · rw [taken]
      intro row member
      rcases List.mem_append.mp member with early | late
      · have elsewhere : row.id ∉ (queue.take (50 * rest.length)).map (·.id) := by
          intro again
          obtain ⟨other, member, same⟩ := List.mem_map.mp again
          refine apart (queue_perm _) (behind.mem_iff.mp (List.mem_of_mem_take member)) ?_
          exact List.mem_map.mpr ⟨row, early, same.symm⟩
        rw [others row.id elsewhere]
        exact handled.published calm row early
      · exact published row late
    · rw [taken]
      intro id absent
      rw [List.map_append, List.mem_append, not_or] at absent
      exact (others id absent.2).trans (handled.others id absent.1)

end Drain

section Possible

variable {w : World} {c : PublisherState} {instanceId : String}

theorem publishReady_can (answering : w.answering = true) (idle : instanceId ∉ w.running) :
    ∃ w', Can (publishReady instanceId) w () w' ∧
      Clears (w.candidates (w.clock instanceId) (w.clock instanceId - 60000)) w w' := by
  let entered : World := { w with running := instanceId :: w.running }
  let rows := entered.candidates (w.clock instanceId) (w.clock instanceId - 60000)
  obtain ⟨w₁, run, cleared⟩ :=
    @publishAll_can entered instanceId rows answering candidates_distinct fun row => mem_candidates
  let left : World := { w₁ with running := w₁.running.filter fun other => other ≠ instanceId }
  have polled : Can (poll instanceId) entered () w₁ :=
    (issue_can rfl).bind ((issue_can rfl).bind ((issue_can rfl).bind run))
  have leaves : Can (leave instanceId) w₁ () left := (issue_can rfl).bind (.done () none left)
  refine ⟨left, ?_, ?_⟩
  · have free : exec (.enter instanceId) w = some (false, entered) := by
      simp only [exec, idle, decide_false]
      rfl
    exact (issue_can free).bind (polled.ensure leaves)
  · refine ⟨cleared.published, cleared.others, cleared.clock, ?_, cleared.answering⟩
    intro other member
    obtain ⟨there, different⟩ := List.mem_filter.mp member
    exact List.mem_of_ne_of_mem (of_decide_eq_true different) (cleared.running there)

theorem poll_possible (answering : c.shared.world.answering = true)
    (idle : instanceId ∉ c.shared.world.running) : ∃ c', Polled instanceId c c' ∧
      Clears (c.shared.world.candidates (c.shared.world.clock instanceId)
        (c.shared.world.clock instanceId - 60000)) c.shared.world c'.shared.world := by
  obtain ⟨w', run, cleared⟩ := publishReady_can answering idle
  let begun : PublisherState :=
    { shared := c.shared.invoke (.publishReady instanceId)
      threads := c.threads ++ [⟨publishReady instanceId, none⟩] }
  have unlocked : publishers.Idle begun c.threads.length := by
    intro j th _ _
    cases th.tx <;> rfl
  have present : begun.threads[c.threads.length]? = some ⟨publishReady instanceId, none⟩ := by
    simp [begun]
  obtain ⟨c', runs, world, ended⟩ := run.runs present rfl unlocked
  refine ⟨c', ⟨⟨begun, rfl, runs⟩, ?_⟩, world ▸ cleared⟩
  rw [ended]
  rfl

theorem drain_possible (answering : c.shared.world.answering = true)
    (idle : instanceId ∉ c.shared.world.running)
    (due : ∀ row ∈ c.shared.world.unfinished, Ready (c.shared.world.clock instanceId) row) :
    ∃ n c', Polls (List.replicate n instanceId) c c' ∧
      Clears c.shared.world.unfinished c.shared.world c'.shared.world := by
  generalize count : c.shared.world.unfinished.length = length
  induction length using Nat.strongRecOn generalizing c with
  | ind length ih =>
    by_cases none_left : c.shared.world.unfinished = []
    · exact ⟨0, c, .nil c, none_left ▸ .refl _⟩
    obtain ⟨c₁, polled, cleared⟩ := poll_possible answering idle
    rw [candidates_due (Nat.le_refl _) due] at cleared
    let queue := c.shared.world.queue
    have queued : queue.Perm c.shared.world.unfinished := queue_perm _
    have left : (queue.drop 50).Perm c₁.shared.world.unfinished :=
      left_over queued cleared.published cleared.others
    have fewer : c₁.shared.world.unfinished.length < length := by
      have some_left := List.length_pos_iff.mpr none_left
      have size := queued.length_eq
      rw [← left.length_eq, List.length_drop]
      omega
    obtain ⟨n, c', polls, rest⟩ := ih _ fewer (cleared.answering.trans answering)
      (fun present => idle (cleared.running present)) (fun row member => by
        rw [cleared.clock]
        exact due row (queued.mem_iff.mp (List.mem_of_mem_drop (left.mem_iff.mpr member)))) rfl
    refine ⟨n + 1, c', .cons polled polls, (cleared.trans (rest.perm left.symm) ?_).perm ?_⟩
    · intro row early late
      obtain ⟨other, member, same⟩ := List.mem_map.mp late
      exact apart queued member (List.mem_map.mpr ⟨row, early, same.symm⟩)
    · rw [List.take_append_drop]
      exact queued

theorem stale_later (held : Option Nat) (now : Nat) {elapsed : Nat} (enough : held.getD 0 + 60001 ≤ elapsed) :
    held.all (· < now + elapsed - 60000) = true := by
  cases held with
  | none => rfl
  | some lockedAt =>
    have size : lockedAt < now + elapsed - 60000 := by
      simp only [Option.getD_some] at enough
      omega
    rw [Option.all_some]
    exact decide_eq_true size

theorem due_later (rows : List AnalyticsOutbox) :
    ∃ elapsed : Nat, ∀ (now : Nat) row, row ∈ rows → Ready (now + elapsed) row := by
  induction rows with
  | nil => exact ⟨0, by simp⟩
  | cons row rest ih =>
    obtain ⟨elapsed, due⟩ := ih
    let more : Nat := row.nextAttemptAt + (row.lockedAt.getD 0 + 60001)
    refine ⟨elapsed + more, fun now other member => ?_⟩
    rcases List.mem_cons.mp member with rfl | member
    · refine ⟨?_, stale_later other.lockedAt now ?_⟩
      · calc other.nextAttemptAt ≤ more := Nat.le_add_right _ _
          _ ≤ elapsed + more := Nat.le_add_left _ _
          _ ≤ now + (elapsed + more) := Nat.le_add_left _ _
      · exact Nat.le_trans (Nat.le_add_left _ other.nextAttemptAt) (Nat.le_add_left more elapsed)
    · refine (due now other member).mono ?_
      exact Nat.add_le_add_left (Nat.le_add_right elapsed more) now

-- Time passes, and the database comes back; no poll begins or goes on.
def Pause : Act Call EnvAct → Prop
  | .environ (.tick _) => True
  | .environ (.connection _) => True
  | _ => False

/-- No row is stranded: whatever has crashed or failed before, new polls of any instance that is not in
one are enough, after a pause, to publish all that is neither published nor given up. -/
theorem no_row_is_stranded (idle : instanceId ∉ c.shared.world.running) :
    ∃ waited n c', publishers.RunsBy Pause c waited ∧ Polls (List.replicate n instanceId) waited c' ∧
      (∀ row ∈ c.shared.world.unfinished, ∃ publishedAt,
        c'.shared.world.row row.id = some ((Completion.published publishedAt).apply row)) ∧
      ∀ id, id ∉ c.shared.world.unfinished.map (·.id) →
        c'.shared.world.row id = c.shared.world.row id := by
  obtain ⟨elapsed, due⟩ := due_later c.shared.world.unfinished
  let waited : PublisherState :=
    { c with shared := (c.shared.environ engine (.connection true)).environ engine (.tick fun _ => elapsed) }
  have waits : publishers.RunsBy Pause c waited :=
    .head ⟨.environ (.connection true), trivial, rfl⟩
      (.single ⟨.environ (.tick fun _ => elapsed), trivial, rfl⟩)
  obtain ⟨n, c', polls, cleared⟩ := drain_possible (c := waited) rfl idle fun row member => due _ row member
  exact ⟨waited, n, c', waits, polls, cleared.published, cleared.others⟩

end Possible

namespace Sample

theorem polled_run (acts : List (Act Call EnvAct)) (instanceId : String) {steps : List (Act Call EnvAct)}
    {number : Nat} (next : (run acts).threads.length = number) (alone : ∀ act ∈ steps, act.Solo ticks number)
    (returned : (run (acts ++ .invoke (.publishReady instanceId) :: steps)).threads[number]?.bind
      Thread.returned = some ()) :
    Polled instanceId (run acts) (run (acts ++ .invoke (.publishReady instanceId) :: steps)) := by
  subst next
  refine ⟨?_, returned⟩
  unfold run
  rw [System.run_append]
  exact ⟨_, rfl, System.runsBy_run _ _ _ alone⟩

def troubled : List (Act Call EnvAct) :=
  List.replicate 8 (.step 0) ++ [.fault 0] ++ List.replicate 5 (.step 0)

theorem poll_attempts_troubled :
    ∃ now later steps, (run enqueued).shared.world.clock "first" ≤ now ∧ now ≤ later ∧
      (run (enqueued ++ .invoke (.publishReady "first") :: troubled)).shared.history =
        steps ++ (run enqueued).shared.history ∧
      Handled ((run enqueued).shared.world.candidates now (later - 60000)) (run enqueued).shared.world
        (run (enqueued ++ .invoke (.publishReady "first") :: troubled)).shared.world steps := by
  have polled : Polled "first" (run enqueued)
      (run (enqueued ++ .invoke (.publishReady "first") :: troubled)) :=
    polled_run enqueued "first" rfl (by
      intro act member
      simp only [troubled, List.mem_append, List.mem_singleton, List.mem_replicate] at member
      rcases member with (⟨-, rfl⟩ | rfl) | ⟨-, rfl⟩ <;> rfl) (by decide +kernel)
  exact poll_attempts (by decide +kernel) (by decide +kernel) polled

def firstPoll : List (Act Call EnvAct) := enqueued ++ poll "first" 0 12

def bothPolls : List (Act Call EnvAct) := firstPoll ++ poll "second" 1 5

theorem backlog_drains_sent :
    ∃ queue, queue.Perm (run enqueued).shared.world.unfinished ∧ InQueue queue ∧
      messages (run bothPolls).shared.history = (queue.take 100).map message ∧
      (∀ row ∈ queue.take 100, ∃ publishedAt,
        (run bothPolls).shared.world.row row.id =
          some ((Completion.published publishedAt).apply row)) ∧
      ∀ id, id ∉ (queue.take 100).map (·.id) →
        (run bothPolls).shared.world.row id = (run enqueued).shared.world.row id := by
  have steps (number count : Nat) : ∀ act ∈ (List.replicate count (.step number) : List (Act Call EnvAct)),
      act.Solo ticks number := by
    intro act member
    rw [List.eq_of_mem_replicate member]
    rfl
  have first : Polled "first" (run enqueued) (run firstPoll) :=
    polled_run enqueued "first" rfl (steps 0 12) (by decide +kernel)
  have second : Polled "second" (run firstPoll) (run bothPolls) :=
    polled_run firstPoll "second" (by decide +kernel) (steps 1 5) (by decide +kernel)
  have polls : Polls ["first", "second"] (run enqueued) (run bothPolls) :=
    .cons first (.cons second (.nil _))
  have added : (run bothPolls).shared.history =
      (run bothPolls).shared.history ++ (run enqueued).shared.history := (List.append_nil _).symm
  exact backlog_drains (by decide +kernel) (by decide +kernel) (by decide +kernel) polls added
    (by decide +kernel)

-- The first instance has crashed with the lease of the row.
def crashed : List (Act Call EnvAct) := enqueued ++ poll "first" 0 8

theorem no_row_is_stranded_crashed :
    ∃ waited n c', publishers.RunsBy Pause (run crashed) waited ∧
      Polls (List.replicate n "second") waited c' ∧
      (∀ row ∈ (run crashed).shared.world.unfinished, ∃ publishedAt,
        c'.shared.world.row row.id = some ((Completion.published publishedAt).apply row)) ∧
      ∀ id, id ∉ (run crashed).shared.world.unfinished.map (·.id) →
        c'.shared.world.row id = (run crashed).shared.world.row id :=
  no_row_is_stranded (show "second" ∉ (run crashed).shared.world.running by decide +kernel)

end Sample

end AnalyticsOutboxPublisher

end TicketService
