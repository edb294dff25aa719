import TicketService.Model.Calls
import TicketService.Model.Publisher

set_option autoImplicit false

namespace TicketService

namespace AnalyticsOutboxPublisher

open Interleaving Relational

def failed (id : Uuid) : Event statements World Unit → Bool
  | .stmt _ (.caught other) _ _ => other = id
  | _ => false

def failures (id : Uuid) (history : Record) : Nat :=
  history.countP (failed id)

def Sent (row : AnalyticsOutbox) (history : Record) : Prop :=
  ∃ thread world, .stmt thread (.rawSend (message row)) () world ∈ history

structure Accounted (history : Record) (row : AnalyticsOutbox) : Prop where
  published : row.publishedAt ≠ none → Sent row history
  attempts : row.attempts ≤ failures row.id history
  deadLettered : row.deadLetteredAt ≠ none → 10 ≤ failures row.id history

def Holds (w : World) (row : AnalyticsOutbox) : Prop :=
  ∃ row' ∈ w.outbox.rows, message row' = message row

structure Grown (g g' : PublisherShared) : Prop where
  history : g.history <:+ g'.history
  rows : ∀ row ∈ g.world.outbox.rows, Holds g'.world row
  accounted : ∀ row ∈ g'.world.outbox.rows, Accounted g'.history row

def contract : Contract statements World Unit Call Exn Unit where
  frame _ _ _ := True
  guar _ := Grown
  inv g := ∀ row ∈ g.world.outbox.rows, Accounted g.history row
  returns _ _ _ := True
  throws _ _ _ := True

theorem autocommits : engine.Autocommits := by
  intro stmt w result w' tx' executed
  simp only [engine, Option.map_eq_some_iff, Prod.mk.injEq] at executed
  obtain ⟨_, -, -, -, rfl⟩ := executed
  rfl

section History

variable {id : Uuid} {row row' : AnalyticsOutbox} {history later : Record}

theorem failures_mono (id : Uuid) (longer : history <:+ later) : failures id history ≤ failures id later :=
  longer.sublist.countP_le

theorem Sent.mono (sent : Sent row history) (longer : history <:+ later) : Sent row later := by
  obtain ⟨thread, world, member⟩ := sent
  exact ⟨thread, world, longer.subset member⟩

theorem Sent.congr (sent : Sent row history) (same : message row' = message row) :
    Sent row' history := by
  unfold Sent
  rw [same]
  exact sent

theorem Accounted.mono (accounted : Accounted history row) (longer : history <:+ later) :
    Accounted later row := by
  have more := failures_mono row.id longer
  constructor
  · exact fun published => (accounted.published published).mono longer
  · have before := accounted.attempts
    omega
  · intro deadLettered
    have before := accounted.deadLettered deadLettered
    omega

end History

section Rows

variable {w : World} {old new row : AnalyticsOutbox}

theorem message_id {row row' : AnalyticsOutbox} (same : message row' = message row) :
    row'.id = row.id :=
  congrArg RawMessage.eventId same

theorem mem_put (member : row ∈ (w.put new).outbox.rows) : row = new ∨ row ∈ w.outbox.rows := by
  obtain ⟨other, present, replaced⟩ := List.mem_map.mp member
  by_cases same : other.id = new.id
  · rw [if_pos same] at replaced
    exact .inl replaced.symm
  · rw [if_neg same] at replaced
    exact .inr (replaced ▸ present)

theorem holds_put (found : w.row old.id = some old) (same : message new = message old)
    (member : row ∈ w.outbox.rows) : Holds (w.put new) row := by
  by_cases here : row.id = new.id
  · have target : row.id = old.id := here.trans (message_id same)
    have present : w.row row.id = some row := Table.get?_of_mem member
    rw [target, found] at present
    obtain rfl : old = row := Option.some.inj present
    exact ⟨new, List.mem_map.mpr ⟨old, member, if_pos here⟩, same⟩
  · exact ⟨row, List.mem_map.mpr ⟨row, member, if_neg here⟩, rfl⟩

theorem Completion.message_apply (data : Completion) : message (data.apply row) = message row := by
  cases data <;> rfl

theorem Holds.unique (holds : Holds w row) (found : w.row row.id = some old) :
    message old = message row := by
  obtain ⟨row', member, same⟩ := holds
  have present : w.row row'.id = some row' := Table.get?_of_mem member
  rw [message_id same, found] at present
  obtain rfl : old = row' := Option.some.inj present
  exact same

end Rows

section Steps

variable {g : PublisherShared} {i : Nat} {stmt : Stmt} {result : stmt.Res} {w : World}

theorem grown_same (inv : contract.inv g) (same : w.outbox = g.world.outbox) :
    Grown g (@Shared.record statements World Unit Call g i stmt result w) := by
  have longer : g.history <:+ .stmt i stmt result g.world :: g.history := List.suffix_cons _ _
  refine ⟨longer, fun row member => ?_, fun row member => ?_⟩
  · exact ⟨row, same ▸ member, rfl⟩
  · exact (inv row (same ▸ member)).mono longer

theorem grown_put (old new : AnalyticsOutbox) (inv : contract.inv g)
    (found : g.world.row old.id = some old) (same : message new = message old)
    (accounted : Accounted g.history new) :
    Grown g (@Shared.record statements World Unit Call g i stmt result (g.world.put new)) := by
  have longer : g.history <:+ .stmt i stmt result g.world :: g.history := List.suffix_cons _ _
  refine ⟨longer, fun row member => holds_put found same member, fun row member => ?_⟩
  rcases mem_put member with rfl | kept
  · exact accounted.mono longer
  · exact (inv row kept).mono longer

end Steps

structure Known (id : Uuid) (record : AnalyticsOutbox) (g : PublisherShared) : Prop where
  key : record.id = id
  holds : Holds g.world record
  attempts : record.attempts ≤ failures id g.history

def Grounds (id : Uuid) (g : PublisherShared) : Completion → Prop
  | .published _ => ∃ record, Known id record g ∧ Sent record g.history
  | .deadLettered attempts _ _ => 10 ≤ attempts ∧ attempts ≤ failures id g.history
  | .retried attempts _ _ => attempts ≤ failures id g.history

theorem holds_stable (row : AnalyticsOutbox) : contract.Stable fun g => Holds g.world row := by
  intro actor g g' grown holds
  obtain ⟨row', member, same⟩ := holds
  obtain ⟨later, present, same'⟩ := grown.rows row' member
  exact ⟨later, present, same'.trans same⟩

theorem sent_stable (row : AnalyticsOutbox) : contract.Stable fun g => Sent row g.history :=
  fun _ _ _ grown sent => sent.mono grown.history

theorem failures_stable (n : Nat) (id : Uuid) :
    contract.Stable fun g => n ≤ failures id g.history := by
  intro actor g g' grown bound
  have more := failures_mono id grown.history
  omega

theorem known_stable (id : Uuid) (record : AnalyticsOutbox) :
    contract.Stable (Known id record) := by
  intro actor g g' grown known
  constructor
  · exact known.key
  · exact holds_stable record actor g g' grown known.holds
  · exact failures_stable _ id actor g g' grown known.attempts

theorem Grounds.accounted {id : Uuid} {g : PublisherShared} {data : Completion}
    {row : AnalyticsOutbox} (grounds : Grounds id g data) (found : g.world.row id = some row)
    (before : Accounted g.history row) : Accounted g.history (data.apply row) := by
  obtain rfl : row.id = id := Table.key_of_get? found
  cases data with
  | published publishedAt =>
    obtain ⟨record, known, sent⟩ := grounds
    have same : message row = message record := known.holds.unique (known.key ▸ found)
    exact ⟨fun _ => sent.congr same, before.attempts, before.deadLettered⟩
  | deadLettered attempts lastError deadLetteredAt =>
    refine ⟨before.published, grounds.2, fun _ => ?_⟩
    exact Nat.le_trans grounds.1 grounds.2
  | retried attempts lastError nextAttemptAt =>
    exact ⟨before.published, grounds, before.deadLettered⟩

section Triples

variable {i : Nat} {P : PublisherShared → Prop} {T : Exn → PublisherShared → Prop}

abbrev Triple {α : Type} (i : Nat) (P : PublisherShared → Prop) (p : Program α)
    (Q : α → PublisherShared → Prop) (T : Exn → PublisherShared → Prop) : Prop :=
  contract.Triple engine i P p Q T

theorem issue_triple {stmt : Stmt} {R : stmt.Res → PublisherShared → Prop} (stable : contract.Stable P)
    (after : ∀ result, contract.Stable (R result))
    (step : ∀ g result w, P g → contract.inv g → exec stmt g.world = some (result, w) →
      Grown g (@Shared.record statements World Unit Call g i stmt result w) ∧
        R result (@Shared.record statements World Unit Call g i stmt result w))
    (fails : ∀ g, P g → T .statementFailed g) :
    Triple i P (issue stmt) (fun result g => P g ∧ R result g) T := by
  refine Contract.Triple.perform autocommits stable (fun result => stable.and (after result)) ?_ fails
  intro g result w holds inv executed
  have ran : exec stmt g.world = some (result, w) := by
    simpa [engine] using executed
  obtain ⟨grown, reached⟩ := step g result w holds inv ran
  exact ⟨grown, stable (some i) g _ grown holds, reached⟩

theorem kept_triple {stmt : Stmt} (stable : contract.Stable P)
    (step : ∀ g result w, P g → contract.inv g → exec stmt g.world = some (result, w) →
      Grown g (@Shared.record statements World Unit Call g i stmt result w))
    (fails : ∀ g, P g → T .statementFailed g) : Triple i P (issue stmt) (fun _ => P) T := by
  have triple : Triple i P (issue stmt) (fun _ g => P g ∧ True) T :=
    issue_triple stable (fun _ => .always)
      (fun g result w holds inv executed => ⟨step g result w holds inv executed, trivial⟩) fails
  exact triple.weaken (fun _ same => same) (fun _ _ both => both.1) fun _ _ same => same

theorem now_triple {instanceId : String} (stable : contract.Stable P)
    (fails : ∀ g, P g → T .statementFailed g) :
    Triple i P (issue (.now instanceId)) (fun _ => P) T := by
  refine kept_triple stable (fun g result w _ inv executed => ?_) fails
  cases executed
  exact grown_same inv rfl

theorem update_triple {id : Uuid} {data : Completion} (stable : contract.Stable P)
    (grounds : ∀ g, P g → Grounds id g data) (fails : ∀ g, P g → T .statementFailed g) :
    Triple i P (issue (.update id data)) (fun _ => P) T := by
  refine kept_triple stable (fun g result w holds inv executed => ?_) fails
  simp only [exec, Option.map_eq_some_iff] at executed
  obtain ⟨row, found, rfl, rfl⟩ := executed
  have here : row.id = id := Table.key_of_get? found
  have accounted := (grounds g holds).accounted found (inv row (Table.mem_of_get? found))
  exact grown_put row _ inv (here ▸ found) data.message_apply accounted

theorem answered_triple {β : Type} {answer : Option β} (stable : contract.Stable P)
    (fails : ∀ g, P g → T .statementFailed g) :
    Triple i P (answered answer) (fun _ => P) T := by
  cases answer with
  | some value => exact Contract.Triple.done (Q := fun _ => P) stable
  | none => exact fun g holds g' rely => fails g' (rely.invariant stable holds)

theorem complete_triple {id : Uuid} {data : Completion} (stable : contract.Stable P)
    (grounds : ∀ g, P g → Grounds id g data) (fails : ∀ g, P g → T .statementFailed g) :
    Triple i P ((issue (.update id data)).bind fun answer =>
      (answered (β := AnalyticsOutbox) answer).bind fun _ => .done ()) (fun _ _ => True) T := by
  refine (update_triple stable grounds fails).bind fun answer => ?_
  refine (answered_triple stable fails).bind fun _ => ?_
  exact (Contract.Triple.done (Q := fun _ _ => True) .always).weaken (fun _ _ => trivial)
    (fun _ _ same => same) fun _ _ same => same

theorem send_triple (instanceId : String) (id : Uuid) (record : AnalyticsOutbox) :
    Triple i (Known id record) (send instanceId id record) (fun _ _ => True)
      (fun _ => Known id record) := by
  have known := known_stable id record
  have both := known.and (sent_stable record)
  have sent : Triple i (Known id record) (issue (.rawSend (message record)))
      (fun _ g => Known id record g ∧ Sent record g.history) (fun _ => Known id record) := by
    refine issue_triple known (fun _ => sent_stable record) (fun g result w _ inv executed => ?_)
      fun _ holds => holds
    cases executed
    exact ⟨grown_same inv rfl, i, g.world, List.mem_cons_self⟩
  refine sent.bind fun _ => (now_triple both fun _ holds => holds.1).bind fun publishedAt => ?_
  have grounds (g : PublisherShared) (holds : Known id record g ∧ Sent record g.history) :
      Grounds id g (.published publishedAt) := ⟨record, holds⟩
  exact complete_triple both grounds fun _ holds => holds.1

theorem failures_caught (id : Uuid) (text : String) (w : World) (history : Record) :
    failures id (.stmt i (.caught id) text w :: history) = failures id history + 1 := by
  simp [failures, failed]

theorem fail_triple (instanceId : String) (id : Uuid) (record : AnalyticsOutbox) :
    Triple i (Known id record) (fail instanceId id record) (fun _ _ => True) (fun _ _ => True) := by
  have known := known_stable id record
  have counted := failures_stable (record.attempts + 1) id
  have caught : Triple i (Known id record) (issue (.caught id))
      (fun _ g => Known id record g ∧ record.attempts + 1 ≤ failures id g.history)
      (fun _ _ => True) := by
    refine issue_triple known (fun _ => counted) (fun g result w before inv executed => ?_)
      fun _ _ => trivial
    cases executed
    have more := failures_caught (i := i) id g.world.error g.world g.history
    exact ⟨grown_same inv rfl, more ▸ Nat.succ_le_succ before.attempts⟩
  refine caught.bind fun lastError => (now_triple (known.and counted) fun _ _ => trivial).bind fun now => ?_
  refine complete_triple (known.and counted) (fun g holds => ?_) fun _ _ => trivial
  split
  next final => exact ⟨final, holds.2⟩
  next => exact holds.2

theorem answered_plain {β : Type} {answer : Option β} : (answered answer).Plain := by
  cases answer <;> trivial

theorem issue_plain (stmt : Stmt) : (issue stmt).Plain :=
  @Prog.Plain.perform statements Exn .statementFailed stmt

theorem send_plain (instanceId : String) (id : Uuid) (record : AnalyticsOutbox) :
    (send instanceId id record).Plain := by
  refine (issue_plain _).bind fun _ => (issue_plain _).bind fun _ => ?_
  exact (issue_plain _).bind fun _ => answered_plain.bind fun _ => trivial

theorem publish_plain (instanceId : String) (id : Uuid) : (publish instanceId id).Plain := by
  refine (issue_plain _).bind fun record => ?_
  refine (send_plain instanceId id record).handle fun _ => ?_
  refine (issue_plain _).bind fun _ => (issue_plain _).bind fun _ => ?_
  exact (issue_plain _).bind fun _ => answered_plain.bind fun _ => trivial

theorem publishAll_plain (instanceId : String) (ids : List Uuid) :
    (publishAll instanceId ids).Plain := by
  induction ids with
  | nil => trivial
  | cons id rest ih =>
    refine (issue_plain _).bind fun _ => (issue_plain _).bind fun _ => ?_
    refine (issue_plain _).bind fun _ => answered_plain.bind fun count => ?_
    split
    next => exact (publish_plain instanceId id).bind fun _ => ih
    next => exact ih

theorem poll_plain (instanceId : String) : (poll instanceId).Plain := by
  refine (issue_plain _).bind fun _ => (issue_plain _).bind fun _ => ?_
  exact (issue_plain _).bind fun _ => publishAll_plain instanceId _

abbrev Lawful {α : Type} (i : Nat) (p : Program α) : Prop :=
  Triple i (fun _ => True) p (fun _ _ => True) fun _ _ => True

theorem Lawful.bind {α β : Type} {p : Program α} {f : α → Program β} (lawful : Lawful i p)
    (rest : ∀ value, Lawful i (f value)) : Lawful i (p.bind f) :=
  Contract.Triple.bind lawful rest

theorem Lawful.done {α : Type} {value : α} : Lawful i (.done value : Program α) :=
  Contract.Triple.done (Q := fun _ _ => True) .always

theorem Lawful.answered {β : Type} {answer : Option β} : Lawful i (answered answer) :=
  answered_triple .always fun _ _ => trivial

theorem Lawful.quiet {stmt : Stmt}
    (same : ∀ w result w', exec stmt w = some (result, w') → w'.outbox = w.outbox) :
    Lawful i (issue stmt) := by
  refine kept_triple .always (fun g result w _ inv executed => ?_) fun _ _ => trivial
  exact grown_same inv (same g.world result w executed)

theorem Lawful.now {instanceId : String} : Lawful i (issue (.now instanceId)) :=
  now_triple .always fun _ _ => trivial

theorem Lawful.claim {id : Uuid} {staleBefore lockedAt : Time} {lockedBy : String} :
    Lawful i (issue (.claim id staleBefore lockedAt lockedBy)) := by
  refine kept_triple .always (fun g result w _ inv executed => ?_) fun _ _ => trivial
  simp only [exec] at executed
  split at executed
  next row found =>
    cases executed
    obtain ⟨present, -⟩ := Option.filter_eq_some_iff.mp found
    obtain rfl : row.id = id := Table.key_of_get? present
    have before := inv row (Table.mem_of_get? present)
    exact grown_put row _ inv present rfl ⟨before.published, before.attempts, before.deadLettered⟩
  next =>
    cases executed
    exact grown_same inv rfl

theorem lawful_publish (instanceId : String) (id : Uuid) : Lawful i (publish instanceId id) := by
  have read : Triple i (fun _ => True) (issue (.findUniqueOrThrow id))
      (fun record g => True ∧ Known id record g) (fun _ _ => True) := by
    refine issue_triple .always (known_stable id) ?_ fun _ _ => trivial
    intro g (row : AnalyticsOutbox) w _ inv executed
    obtain ⟨_, found, same⟩ := Option.map_eq_some_iff.mp executed
    cases same
    have member := Table.mem_of_get? found
    obtain rfl : row.id = id := Table.key_of_get? found
    exact ⟨grown_same inv rfl, rfl, ⟨row, member, rfl⟩, ((inv row member).mono (List.suffix_cons _ _)).attempts⟩
  refine read.bind fun record => ?_
  have handled := (send_triple (i := i) instanceId id record).handle autocommits
    (send_plain instanceId id record) fun _ => fail_triple instanceId id record
  exact handled.weaken (fun _ both => both.2) (fun _ _ _ => trivial) fun _ _ _ => trivial

theorem lawful_publishAll (instanceId : String) (ids : List Uuid) :
    Lawful i (publishAll instanceId ids) := by
  induction ids with
  | nil => exact .done
  | cons id rest ih =>
    refine Lawful.now.bind fun now => Lawful.now.bind fun lockedAt => ?_
    refine Lawful.claim.bind fun answer => Lawful.answered.bind fun count => ?_
    split
    next => exact (lawful_publish instanceId id).bind fun _ => ih
    next => exact ih

theorem lawful_publishReady (instanceId : String) : Lawful i (publishReady instanceId) := by
  have enters : Lawful i (issue (.enter instanceId)) := .quiet fun w result w' executed => by
    cases executed
    rfl
  have leaves : Lawful i (leave instanceId) := by
    refine (Lawful.quiet fun w result w' executed => ?_).bind fun _ => .done
    cases executed
    rfl
  have polls : Lawful i (poll instanceId) := by
    refine Lawful.now.bind fun now => Lawful.now.bind fun later => ?_
    refine (Lawful.quiet fun w result w' executed => ?_).bind fun candidates => ?_
    · cases executed
      rfl
    · exact lawful_publishAll instanceId _
  refine enters.bind fun running => ?_
  split
  next => exact .done
  next =>
    exact polls.ensure autocommits (poll_plain instanceId) (fun _ => .always) (fun _ => .always)
      (fun _ => leaves) fun _ => leaves

end Triples

theorem Accounted.unsent {row : AnalyticsOutbox} {history : Record} (attempts : row.attempts = 0)
    (published : row.publishedAt = none) (deadLettered : row.deadLetteredAt = none) :
    Accounted history row := by
  constructor
  · exact fun sent => absurd published sent
  · omega
  · exact fun dead => absurd deadLettered dead

theorem grown_enqueue {g : PublisherShared} {row : AnalyticsOutbox} (inv : contract.inv g)
    (unsent : Accounted g.history row) :
    Grown g { g with world := { g.world with outbox := g.world.outbox.insert row } } := by
  refine ⟨List.suffix_rfl, fun old member => ⟨old, ?_, rfl⟩, fun old member => ?_⟩
  · rcases g.world.outbox.rows_insert_cases row with same | added
    · exact same ▸ member
    · exact added ▸ List.mem_append_left _ member
  · rcases g.world.outbox.rows_insert_cases row with same | added
    · exact inv old (same ▸ member)
    · rcases List.mem_append.mp (added ▸ member) with kept | new
      · exact inv old kept
      · exact List.mem_singleton.mp new ▸ unsent

theorem keeps : publishers.Keeps contract where
  conflict_comm _ _ := rfl
  fresh_held := rfl
  exec_held stmt w tx result w' tx' _ l held := by
    cases l
  exec_frame _ _ _ _ _ _ _ _ _ := trivial
  publish_frame _ _ _ _ := trivial
  environ_frame _ _ _ := trivial
  frame_refl _ _ := trivial
  invoke g call inv := ⟨List.suffix_rfl, fun row member => ⟨row, member, rfl⟩, inv⟩
  environ g action inv := by
    cases action with
    | enqueue context tenantId id topic payload createdAt =>
      exact grown_enqueue inv (.unsent rfl rfl rfl)
    | _ => exact ⟨List.suffix_rfl, fun row member => ⟨row, member, rfl⟩, inv⟩
  inv_guar _ _ _ _ grown := grown.accounted
  safe g call inv := by
    cases call with
    | publishReady instanceId =>
      have safe := lawful_publishReady (i := g.calls.length) instanceId
        (g.invoke (.publishReady instanceId)) trivial
      exact safe.mono fun _ _ _ _ => trivial

theorem reachable_sound {clock : String → Time} {c : PublisherState}
    (reachable : publishers.Reachable (World.start clock) c) : publishers.Sound contract c := by
  have base : contract.inv (publishers.initial (World.start clock)).shared := by
    intro row member
    cases member
  exact (System.initial_sound base).runs keeps reachable

/-- A row that a run has added to the outbox stays there, it is published only after its message
was sent, it counts no more attempts than have failed, and it is given up after ten of them. -/
theorem outbox_loses_no_fact {clock : String → Time} {c c' : PublisherState}
    (reachable : publishers.Reachable (World.start clock) c) (runs : publishers.Runs c c') :
    (∀ row ∈ c.shared.world.outbox.rows, Holds c'.shared.world row) ∧
      ∀ row ∈ c'.shared.world.outbox.rows, Accounted c'.shared.history row := by
  have sound := reachable_sound reachable
  constructor
  · intro row member
    refine sound.invariant keeps runs (fun g => Holds g.world row) ⟨row, member, rfl⟩ ?_
    intro actor g g' _ holds grown
    exact holds_stable row actor g g' grown holds
  · exact (sound.runs keeps runs).inv

namespace Sample

def payload : AnalyticsDomainFact where
  producer := "ticket"
  occurredAt := 0
  eventName := .ticketRevoked
  aggregateId := TicketService.Sample.ticket
  aggregateType := "TICKET"
  subjectId := TicketService.Sample.guest
  properties := { ticketId := TicketService.Sample.ticket, eventId := TicketService.Sample.event }

def enqueue (id : Uuid) : Act Call EnvAct :=
  .environ (.enqueue TicketService.Sample.context "tenant" id .ticketRevoked payload 0)

def poll (instanceId : String) (number count : Nat) : List (Act Call EnvAct) :=
  .invoke (.publishReady instanceId) :: List.replicate count (.step number)

def run (acts : List (Act Call EnvAct)) : PublisherState :=
  publishers.run (publishers.initial (World.start fun _ => 100000)) acts

theorem reachable_run (acts : List (Act Call EnvAct)) :
    publishers.Reachable (World.start fun _ => 100000) (run acts) :=
  System.runs_run _ _ acts

theorem runs_append (acts more : List (Act Call EnvAct)) :
    publishers.Runs (run acts) (run (acts ++ more)) := by
  unfold run
  rw [System.run_append]
  exact System.runs_run _ _ more

def enqueued : List (Act Call EnvAct) := [enqueue ⟨0, 0⟩]

-- The first `rawSend` throws; two seconds later another instance sends the row.
def retry : List (Act Call EnvAct) :=
  poll "first" 0 8 ++ [.fault 0] ++ List.replicate 4 (.step 0) ++
    [.environ (.tick fun _ => 2000)] ++ poll "second" 1 12

end Sample

theorem outbox_loses_no_fact_retried :
    (Sample.run (Sample.enqueued ++ Sample.retry)).shared.world.outbox.rows.map
        (fun row => (row.attempts, row.publishedAt)) = [(1, some 102000)] ∧
      (∀ row ∈ (Sample.run Sample.enqueued).shared.world.outbox.rows,
        Holds (Sample.run (Sample.enqueued ++ Sample.retry)).shared.world row) ∧
      ∀ row ∈ (Sample.run (Sample.enqueued ++ Sample.retry)).shared.world.outbox.rows,
        Accounted (Sample.run (Sample.enqueued ++ Sample.retry)).shared.history row :=
  ⟨by decide +kernel, outbox_loses_no_fact (Sample.reachable_run Sample.enqueued)
    (Sample.runs_append Sample.enqueued Sample.retry)⟩

end AnalyticsOutboxPublisher

end TicketService
