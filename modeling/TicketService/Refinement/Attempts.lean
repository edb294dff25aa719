import TicketService.Interleaving.Recovery
import TicketService.Interleaving.Solo
import TicketService.Refinement.Leases

set_option autoImplicit false

namespace TicketService

namespace AnalyticsOutboxPublisher

open Interleaving Relational

def ticks : EnvAct → Prop
  | .tick _ => True
  | _ => False

structure Ticked (w w' : World) : Prop where
  outbox : w'.outbox = w.outbox
  clock : ∀ instanceId, w.clock instanceId ≤ w'.clock instanceId
  running : w'.running = w.running
  answering : w'.answering = w.answering

theorem Ticked.refl (w : World) : Ticked w w :=
  ⟨rfl, fun _ => Nat.le_refl _, rfl, rfl⟩

theorem Ticked.trans {w w₁ w' : World} (first : Ticked w w₁) (second : Ticked w₁ w') : Ticked w w' where
  outbox := second.outbox.trans first.outbox
  clock instanceId := Nat.le_trans (first.clock instanceId) (second.clock instanceId)
  running := second.running.trans first.running
  answering := second.answering.trans first.answering

theorem Ticked.row {w w' : World} (ticked : Ticked w w') (id : Uuid) : w'.row id = w.row id :=
  congrArg (fun outbox => Table.get? outbox id) ticked.outbox

theorem Ticked.put {w w' : World} (ticked : Ticked w w') (row : AnalyticsOutbox) :
    Ticked (w.put row) (w'.put row) where
  outbox := congrArg (fun outbox => Table.put outbox row) ticked.outbox
  clock := ticked.clock
  running := ticked.running
  answering := ticked.answering

theorem put_put (w : World) {row new : AnalyticsOutbox} (same : row.id = new.id) :
    (w.put row).put new = w.put new := by
  have rows : ((w.outbox.put row).put new) = w.outbox.put new := by
    apply Table.ext
    simp only [Table.put, List.map_map]
    apply List.map_congr_left
    intro old _
    by_cases here : old.id = new.id <;> simp [same, here]
  simp only [World.put, rows]

section Events

def messages (log : Record) : List RawMessage :=
  (log.filterMap fun
    | .stmt _ (.rawSend message) _ _ => some message
    | _ => none).reverse

def troubled : Event statements World Unit → Bool
  | .stmt _ (.caught _) _ _ => true
  | _ => false

def Calm (log : Record) : Prop :=
  ∀ e ∈ log, troubled e = false

instance (log : Record) : Decidable (Calm log) :=
  inferInstanceAs (Decidable (∀ e ∈ log, _))

theorem messages_append (later log : Record) : messages (later ++ log) = messages log ++ messages later := by
  simp [messages, List.filterMap_append]

theorem calm_append {later log : Record} : Calm (later ++ log) ↔ Calm later ∧ Calm log := by
  simp only [Calm, List.forall_mem_append]

end Events

section Alone

variable {i : Nat} {α : Type} {tx tx' : Option Unit} {s s' : World × Record} {instanceId : String}
  {id : Uuid} {row record : AnalyticsOutbox}

abbrev Runs (i : Nat) (p : Program α) (tx : Option Unit) (s : World × Record) (out : Except Exn α)
    (tx' : Option Unit) (s' : World × Record) : Prop :=
  Alone (engine.logged i) ticks p tx s out tx' s'

theorem ticked_of_later (later : Alone.Later (engine.logged i) ticks s s') :
    Ticked s.1 s'.1 ∧ s'.2 = s.2 := by
  induction later with
  | refl => exact ⟨.refl _, rfl⟩
  | tail _ last ih =>
    obtain ⟨action, allowed, rfl⟩ := last
    cases action with
    | tick elapsed =>
      refine ⟨ih.1.trans ⟨rfl, fun instanceId => ?_, rfl, rfl⟩, ih.2⟩
      exact environ_clock (.tick elapsed) _ instanceId
    | _ => cases allowed

theorem issue_cases {stmt : Stmt} {out : Except Exn stmt.Res} (run : Runs i (issue stmt) tx s out tx' s') :
    ((∃ error, out = .error error) ∧ Ticked s.1 s'.1 ∧ s'.2 = s.2) ∨
      ∃ result w₁ w₂, out = .ok result ∧ Ticked s.1 w₁ ∧ exec stmt w₁ = some (result, w₂) ∧
        Ticked w₂ s'.1 ∧ s'.2 = .stmt i stmt result w₁ :: s.2 := by
  rcases run.perform_cases with ⟨ended, -, later⟩ | ⟨result, s₁, s₂, ended, before, executed, after⟩
  · exact .inl ⟨⟨_, ended⟩, ticked_of_later later⟩
  · obtain ⟨ticked, same⟩ := ticked_of_later before
    obtain ⟨ticked', same'⟩ := ticked_of_later after
    obtain ⟨performed, logged⟩ := Engine.logged_exec.mp executed
    have found : exec stmt s₁.1 = some (result, s₂.1) := by
      obtain ⟨⟨_, _⟩, found, equal⟩ := Option.map_eq_some_iff.mp performed
      cases equal
      exact found
    exact .inr ⟨result, s₁.1, s₂.1, ended, ticked, found, ticked', by rw [same', logged, same]⟩

theorem issue_then {stmt : Stmt} {f : stmt.Res → Program α} {out : Except Exn α}
    (run : Runs i (issue stmt >>= f) tx s out tx' s') :
    ((∃ error, out = .error error) ∧ Ticked s.1 s'.1 ∧ s'.2 = s.2) ∨
      ∃ result w₁ w₂ s₂ tx₂, Ticked s.1 w₁ ∧ exec stmt w₁ = some (result, w₂) ∧ Ticked w₂ s₂.1 ∧
        s₂.2 = .stmt i stmt result w₁ :: s.2 ∧ Runs i (f result) tx₂ s₂ out tx' s' := by
  rcases run.bind_cases with ⟨error, ended, first⟩ | ⟨result, tx₂, s₂, first, rest⟩
  · rcases issue_cases first with ⟨-, ticked, same⟩ | ⟨result, w₁, w₂, impossible, -⟩
    · exact .inl ⟨⟨error, ended⟩, ticked, same⟩
    · cases impossible
  · rcases issue_cases first with ⟨⟨_, impossible⟩, -⟩ | ⟨result', w₁, w₂, ended, before, executed, after, logged⟩
    · cases impossible
    · cases ended
      exact .inr ⟨result, w₁, w₂, s₂, tx₂, before, executed, after, logged, rest⟩

theorem issue_returned {stmt : Stmt} {f : stmt.Res → Program α} {value : α}
    (run : Runs i (issue stmt >>= f) tx s (.ok value) tx' s') :
    ∃ result w₁ w₂ s₂ tx₂, Ticked s.1 w₁ ∧ exec stmt w₁ = some (result, w₂) ∧ Ticked w₂ s₂.1 ∧
      s₂.2 = .stmt i stmt result w₁ :: s.2 ∧ Runs i (f result) tx₂ s₂ (.ok value) tx' s' := by
  rcases issue_then run with ⟨⟨_, impossible⟩, -⟩ | executed
  · cases impossible
  · exact executed

theorem update_then {data : Completion} {out : Except Exn Unit} (answering : s.1.answering = true)
    (found : s.1.row id = some row)
    (run : Runs i (issue (.update id data) >>= fun answer =>
      answered (β := AnalyticsOutbox) answer >>= fun _ => .done ()) tx s out tx' s') :
    ((∃ error, out = .error error) ∧ Ticked s.1 s'.1 ∧ s'.2 = s.2) ∨
      out = .ok () ∧ Ticked (s.1.put (data.apply row)) s'.1 ∧
        ∃ answer w, s'.2 = .stmt i (.update id data) answer w :: s.2 := by
  rcases issue_then run with failed | ⟨answer, w₁, w₂, s₂, tx₂, before, executed, after, logged, rest⟩
  · exact .inl failed
  right
  have executed' : exec (.update id data) w₁ =
      some (w₁.answer (data.apply row), w₁.put (data.apply row)) := by
    simp only [exec, before.row id, found, Option.map_some]
    rfl
  rw [executed'] at executed
  cases executed
  have arrives : w₁.answer (data.apply row) = some (data.apply row) :=
    if_pos (before.answering.trans answering)
  rw [arrives] at rest
  obtain ⟨ended, -, later⟩ := rest.done_cases
  obtain ⟨ticked, same⟩ := ticked_of_later later
  exact ⟨ended, ((before.put _).trans after).trans ticked, _, _, same.trans logged⟩

theorem send_cases {out : Except Exn Unit} (answering : s.1.answering = true)
    (found : s.1.row id = some row) (run : Runs i (send instanceId id record) tx s out tx' s') :
    ∃ new, s'.2 = new ++ s.2 ∧ Calm new ∧
      (out = .ok () ∧ messages new = [message record] ∧
          (∃ publishedAt, Ticked (s.1.put ((Completion.published publishedAt).apply row)) s'.1) ∨
        (∃ error, out = .error error) ∧ (messages new = [] ∨ messages new = [message record]) ∧
          Ticked s.1 s'.1) := by
  rcases issue_then run with ⟨failed, ticked, same⟩ | ⟨_, w₁, w₂, s₂, tx₂, before, sent, after, logged, run⟩
  · exact ⟨[], same, by simp [Calm], .inr ⟨failed, .inl rfl, ticked⟩⟩
  cases sent
  rcases issue_then run with ⟨failed, ticked, same⟩ | ⟨_, w₃, w₄, s₃, tx₃, before', read, after', logged', run⟩
  · exact ⟨[_], same.trans logged, by simp [Calm, troubled],
      .inr ⟨failed, .inr rfl, (before.trans after).trans ticked⟩⟩
  cases read
  have ticked := ((before.trans after).trans before').trans after'
  rcases update_then (ticked.answering.trans answering) ((ticked.row id).trans found) run with
    ⟨failed, ticked', same⟩ | ⟨ended, ticked', answer, w₅, same⟩
  · have whole := same.trans (logged'.trans (congrArg (List.cons _) logged))
    exact ⟨[_, _], whole, by simp [Calm, troubled], .inr ⟨failed, .inr rfl, ticked.trans ticked'⟩⟩
  · have whole := same.trans (congrArg (List.cons _) (logged'.trans (congrArg (List.cons _) logged)))
    exact ⟨[_, _, _], whole, by simp [Calm, troubled],
      .inl ⟨ended, rfl, _, (ticked.put _).trans ticked'⟩⟩

theorem fail_cases (answering : s.1.answering = true) (found : s.1.row id = some row)
    (run : Runs i (fail instanceId id record) tx s (.ok ()) tx' s') :
    ∃ new lastError now, s'.2 = new ++ s.2 ∧ ¬Calm new ∧ messages new = [] ∧
      Ticked (s.1.put ((failure record lastError now).apply row)) s'.1 := by
  obtain ⟨lastError, w₁, w₂, s₂, tx₂, before, caught, after, logged, run⟩ := issue_returned run
  cases caught
  obtain ⟨now, w₃, w₄, s₃, tx₃, before', read, after', logged', run⟩ := issue_returned run
  cases read
  have ticked := ((before.trans after).trans before').trans after'
  rcases update_then (ticked.answering.trans answering) ((ticked.row id).trans found) run with
    ⟨⟨_, impossible⟩, -⟩ | ⟨-, ticked', answer, w₅, same⟩
  · cases impossible
  · have whole := same.trans (congrArg (List.cons _) (logged'.trans (congrArg (List.cons _) logged)))
    exact ⟨[_, _, _], _, _, whole, by simp [Calm, troubled], rfl, (ticked.put _).trans ticked'⟩

/-- How an attempt to publish the row leaves it, with what it has recorded. -/
inductive Attempted (row : AnalyticsOutbox) : AnalyticsOutbox → Record → Prop where
  | published (publishedAt : Time) (new : Record) :
      Calm new → messages new = [message row] →
      Attempted row ((Completion.published publishedAt).apply row) new
  | failed (lastError : String) (now : Time) (new : Record) :
      ¬Calm new → (messages new = [] ∨ messages new = [message row]) →
      Attempted row ((failure row lastError now).apply row) new

theorem Attempted.unlocked {row' : AnalyticsOutbox} {new : Record} {lockedAt : Time} {lockedBy : String}
    (attempted : Attempted { row with lockedAt := some lockedAt, lockedBy := some lockedBy } row' new) :
    Attempted row row' new := by
  cases attempted with
  | published publishedAt new calm sent => exact .published publishedAt new calm sent
  | failed lastError now new trouble sent =>
    have same : (failure { row with lockedAt := some lockedAt, lockedBy := some lockedBy } lastError
        now).apply { row with lockedAt := some lockedAt, lockedBy := some lockedBy } =
        (failure row lastError now).apply row := by
      unfold failure
      dsimp only
      split <;> rfl
    rw [same]
    exact .failed lastError now new trouble sent

theorem Attempted.after {row' : AnalyticsOutbox} {new before : Record}
    (attempted : Attempted row row' new) (calm : Calm before) (unsent : messages before = []) :
    Attempted row row' (new ++ before) := by
  have same : messages (new ++ before) = messages new := by rw [messages_append, unsent, List.nil_append]
  cases attempted with
  | published publishedAt new calm' sent =>
    exact .published publishedAt _ (calm_append.mpr ⟨calm', calm⟩) (same.trans sent)
  | failed lastError now new trouble sent =>
    refine .failed lastError now _ (fun whole => trouble (calm_append.mp whole).1) ?_
    rw [same]
    exact sent

theorem Attempted.same_id {row' : AnalyticsOutbox} {new : Record} (attempted : Attempted row row' new) :
    row'.id = row.id := by
  cases attempted with
  | published => rfl
  | failed => exact Completion.apply_id _ row

theorem Attempted.sent {row' : AnalyticsOutbox} {new : Record} (attempted : Attempted row row' new) :
    messages new = [] ∨ messages new = [message row] := by
  cases attempted with
  | published _ _ _ sent => exact .inr sent
  | failed _ _ _ _ sent => exact sent

theorem Attempted.published_of_calm {row' : AnalyticsOutbox} {new : Record}
    (attempted : Attempted row row' new) (calm : Calm new) :
    messages new = [message row] ∧ ∃ publishedAt, row' = (Completion.published publishedAt).apply row := by
  cases attempted with
  | published publishedAt _ _ sent => exact ⟨sent, publishedAt, rfl⟩
  | failed _ _ _ trouble => exact absurd calm trouble

theorem publish_cases (answering : s.1.answering = true) (found : s.1.row id = some row)
    (run : Runs i (publish instanceId id) tx s (.ok ()) tx' s') :
    ∃ row' new, s'.2 = new ++ s.2 ∧ Attempted row row' new ∧ Ticked (s.1.put row') s'.1 := by
  obtain ⟨record, w₁, w₂, s₂, tx₂, before, read, after, logged, run⟩ := issue_returned run
  have executed : exec (.findUniqueOrThrow id) w₁ = some (row, w₁) := by
    simp only [exec, before.row id, found]
    rfl
  rw [executed] at read
  cases read
  have ticked := before.trans after
  have answering' := ticked.answering.trans answering
  have found' := (ticked.row id).trans found
  rcases run.handle_cases with ⟨_, ended, sent⟩ | ⟨error, tx₃, s₃, thrown, handled⟩
  · cases ended
    obtain ⟨new, logged', calm, ⟨-, delivered, publishedAt, put⟩ | ⟨⟨_, impossible⟩, -⟩⟩ :=
      send_cases answering' found' sent
    · have whole := logged'.trans (congrArg (new ++ ·) logged)
      refine ⟨_, new ++ [_], whole.trans (List.append_assoc new [_] _).symm, ?_, (ticked.put _).trans put⟩
      exact (Attempted.published publishedAt new calm delivered).after (by simp [Calm, troubled]) rfl
    · cases impossible
  · obtain ⟨new, logged', calm, ⟨impossible, -⟩ | ⟨-, delivered, still⟩⟩ :=
      send_cases answering' found' thrown
    · cases impossible
    obtain ⟨new', lastError, now, logged'', trouble, unsent, put⟩ :=
      fail_cases (still.answering.trans answering') ((still.row id).trans found') handled
    have whole := logged''.trans (congrArg (new' ++ ·) (logged'.trans (congrArg (new ++ ·) logged)))
    have joined := whole.trans (congrArg (new' ++ ·) (List.append_assoc new [_] _).symm)
    refine ⟨_, new' ++ (new ++ [_]), joined.trans (List.append_assoc new' _ _).symm, ?_,
      ((ticked.trans still).put _).trans put⟩
    refine .failed lastError now _ (fun calm => trouble (calm_append.mp calm).1) ?_
    rw [messages_append, messages_append, unsent, List.append_nil]
    exact delivered

structure Handled (rows : List AnalyticsOutbox) (w w' : World) (new : Record) : Prop where
  published_or_failed : ∀ row ∈ rows,
    (∃ publishedAt, w'.row row.id = some ((Completion.published publishedAt).apply row)) ∧
        message row ∈ messages new ∨
      (∃ lastError now, w'.row row.id = some ((failure row lastError now).apply row)) ∧ ¬Calm new
  others : ∀ id, id ∉ rows.map (·.id) → w'.row id = w.row id
  order : (messages new).Sublist (rows.map message)
  calm : Calm new → messages new = rows.map message

theorem stale_mono {held : Option Time} {staleBefore later : Time} (passed : staleBefore ≤ later)
    (stale : held.all (· < staleBefore) = true) : held.all (· < later) = true := by
  cases held with
  | none => rfl
  | some lockedAt => exact decide_eq_true (Nat.lt_of_lt_of_le (of_decide_eq_true stale) passed)

theorem claimable_mono {staleBefore later : Time} (passed : staleBefore ≤ later)
    (free : claimable staleBefore row = true) : claimable later row = true := by
  simp only [claimable, Bool.and_eq_true] at free ⊢
  exact ⟨free.1, stale_mono passed free.2⟩

theorem claim_cases {w w' : World} {staleBefore lockedAt : Time} {answer : Option Nat}
    (answering : w.answering = true) (found : w.row id = some row)
    (free : claimable staleBefore row = true)
    (executed : exec (.claim id staleBefore lockedAt instanceId) w = some (answer, w')) :
    answer = some 1 ∧
      w' = w.put { row with lockedAt := some lockedAt, lockedBy := some instanceId } := by
  have taken : (w.row id).filter (claimable staleBefore) = some row := by
    rw [found]
    exact Option.filter_some_pos free
  have arrives : w.answer (1 : Nat) = some 1 := if_pos answering
  simp only [exec, taken, arrives] at executed
  cases executed
  exact ⟨rfl, rfl⟩

theorem attempt_first {rest : List Uuid} (answering : s.1.answering = true)
    (found : s.1.row row.id = some row) (free : claimable (s.1.clock instanceId - 60000) row = true)
    (run : Runs i (publishAll instanceId (row.id :: rest)) tx s (.ok ()) tx' s') :
    ∃ row' new tx₁ s₁, s₁.2 = new ++ s.2 ∧ Attempted row row' new ∧ Ticked (s.1.put row') s₁.1 ∧
      Runs i (publishAll instanceId rest) tx₁ s₁ (.ok ()) tx' s' := by
  obtain ⟨now, w₁, w₂, s₂, tx₂, before, read, after, logged, run⟩ := issue_returned run
  cases read
  obtain ⟨lockedAt, w₃, w₄, s₃, tx₃, before', read', after', logged', run⟩ := issue_returned run
  have same : w₄ = w₃ := (Prod.mk.inj (Option.some.inj read')).2.symm
  subst same
  obtain ⟨answer, w₅, w₆, s₄, tx₄, before'', claimed, after'', logged'', run⟩ := issue_returned run
  have early := ((before.trans after).trans before').trans after'
  have ticked := early.trans before''
  have passed : s.1.clock instanceId - 60000 ≤ w₁.clock instanceId - 60000 :=
    Nat.sub_le_sub_right (before.clock instanceId) 60000
  obtain ⟨rfl, rfl⟩ := claim_cases (ticked.answering.trans answering) ((ticked.row row.id).trans found)
    (claimable_mono passed free) claimed
  have run : Runs i (publish instanceId row.id >>= fun _ => publishAll instanceId rest) tx₄ s₄ (.ok ())
      tx' s' := run
  rcases run.bind_cases with ⟨_, impossible, -⟩ | ⟨_, tx₅, s₅, published, run⟩
  · cases impossible
  let held : AnalyticsOutbox := { row with lockedAt := some lockedAt, lockedBy := some instanceId }
  have locked : Ticked (s.1.put held) s₄.1 := (ticked.put held).trans after''
  have puts : Puts row.id held s.1 (s.1.put held) := puts_put found rfl
  have present : s₄.1.row row.id = some held := (locked.row row.id).trans puts.here
  obtain ⟨row', part, logged₅, attempted, put⟩ :=
    publish_cases (locked.answering.trans answering) present published
  have settled : Ticked (s.1.put row') s₅.1 := by
    have overwritten : (s.1.put held).put row' = s.1.put row' := put_put s.1 attempted.same_id.symm
    rw [← overwritten]
    exact (locked.put row').trans put
  rw [logged', logged] at logged''
  rw [logged''] at logged₅
  exact ⟨row', part ++ [_, _, _], tx₅, s₅, logged₅.trans (List.append_assoc part [_, _, _] _).symm,
    attempted.unlocked.after (by simp [Calm, troubled]) rfl, settled, run⟩

theorem Handled.cons {rows : List AnalyticsOutbox} {row' : AnalyticsOutbox} {w w₁ w' : World}
    {new later : Record} (found : w.row row.id = some row) (fresh : row.id ∉ rows.map (·.id))
    (attempted : Attempted row row' new) (put : Ticked (w.put row') w₁)
    (handled : Handled rows w₁ w' later) : Handled (row :: rows) w w' (later ++ new) := by
  have puts : Puts row.id row' w (w.put row') := puts_put found attempted.same_id
  constructor
  · intro other member
    rw [messages_append, List.mem_append, calm_append]
    rcases List.mem_cons.mp member with rfl | member
    · have there : w'.row other.id = some row' :=
        (handled.others other.id fresh).trans ((put.row other.id).trans puts.here)
      cases attempted with
      | published publishedAt _ _ sent =>
        exact .inl ⟨⟨publishedAt, there⟩, .inl (sent ▸ List.mem_singleton_self _)⟩
      | failed lastError now _ trouble =>
        exact .inr ⟨⟨lastError, now, there⟩, fun calm => trouble calm.2⟩
    · rcases handled.published_or_failed other member with ⟨there, sent⟩ | ⟨there, trouble⟩
      · exact .inl ⟨there, .inr sent⟩
      · exact .inr ⟨there, fun calm => trouble calm.1⟩
  · intro id absent
    rw [List.map_cons, List.mem_cons, not_or] at absent
    calc w'.row id = w₁.row id := handled.others id absent.2
      _ = (w.put row').row id := put.row id
      _ = w.row id := puts.others id absent.1
  · rw [messages_append, List.map_cons]
    rcases attempted.sent with none | one
    · rw [none, List.nil_append]
      exact handled.order.cons (message row)
    · rw [one, List.singleton_append]
      exact handled.order.cons_cons (message row)
  · intro calm
    obtain ⟨rest, first⟩ := calm_append.mp calm
    rw [messages_append, List.map_cons, handled.calm rest, (attempted.published_of_calm first).1]
    rfl

theorem publishAll_handles {rows : List AnalyticsOutbox} (answering : s.1.answering = true)
    (distinct : (rows.map (·.id)).Nodup)
    (due : ∀ row ∈ rows, s.1.row row.id = some row ∧
      claimable (s.1.clock instanceId - 60000) row = true)
    (run : Runs i (publishAll instanceId (rows.map (·.id))) tx s (.ok ()) tx' s') :
    ∃ new, s'.2 = new ++ s.2 ∧ Handled rows s.1 s'.1 new ∧ s'.1.answering = true ∧
      s'.1.running = s.1.running ∧ ∀ instanceId, s.1.clock instanceId ≤ s'.1.clock instanceId := by
  induction rows generalizing tx s with
  | nil =>
    obtain ⟨-, -, later⟩ := run.done_cases
    obtain ⟨ticked, same⟩ := ticked_of_later later
    refine ⟨[], same, ⟨by simp, fun id _ => ticked.row id, by simp [messages], fun _ => rfl⟩,
      ticked.answering.trans answering, ticked.running, ticked.clock⟩
  | cons row rest ih =>
    obtain ⟨fresh, distinct⟩ := List.nodup_cons.mp distinct
    obtain ⟨found, free⟩ := due row List.mem_cons_self
    obtain ⟨row', new, tx₁, s₁, logged, attempted, put, run⟩ := attempt_first answering found free run
    have puts : Puts row.id row' s.1 (s.1.put row') := puts_put found attempted.same_id
    have kept (other : AnalyticsOutbox) (member : other ∈ rest) : s₁.1.row other.id = s.1.row other.id := by
      have different : other.id ≠ row.id := by
        intro same
        exact fresh (List.mem_map.mpr ⟨other, member, same⟩)
      exact (put.row other.id).trans (puts.others other.id different)
    obtain ⟨later, logged', handled, still, running, passed⟩ :=
      ih (put.answering.trans answering) distinct (fun other member => by
        obtain ⟨there, open_⟩ := due other (List.mem_cons_of_mem _ member)
        exact ⟨(kept other member).trans there,
          claimable_mono (Nat.sub_le_sub_right (put.clock instanceId) 60000) open_⟩) run
    refine ⟨later ++ new, ?_, handled.cons found fresh attempted put, still,
      running.trans put.running, fun instanceId => Nat.le_trans (put.clock instanceId) (passed instanceId)⟩
    rw [logged', logged, List.append_assoc]

end Alone

section Undisturbed

variable {w w' : World} {instanceId : String} {id : Uuid} {row record : AnalyticsOutbox}

abbrev Can {α : Type} (p : Program α) (w : World) (value : α) (w' : World) : Prop :=
  Alone engine ticks p none w (.ok value) none w'

theorem issue_can {stmt : Stmt} {result : stmt.Res} (executed : exec stmt w = some (result, w')) :
    Can (issue stmt) w result w' := by
  refine Alone.perform ?_ (engine_exec.mpr executed)
  exact fun _ _ needed => absurd needed List.not_mem_nil

theorem answer_arrives {β : Type} (answering : w.answering = true) (value : β) :
    w.answer value = some value :=
  if_pos answering

theorem send_can (answering : w.answering = true) (found : w.row id = some row) :
    Can (send instanceId id record) w ()
      (w.put ((Completion.published (w.clock instanceId)).apply row)) := by
  have updated : exec (.update id (.published (w.clock instanceId))) w =
      some (some ((Completion.published (w.clock instanceId)).apply row),
        w.put ((Completion.published (w.clock instanceId)).apply row)) := by
    simp only [exec, found, Option.map_some, answer_arrives answering]
    rfl
  refine (issue_can rfl).bind ((issue_can rfl).bind ((issue_can updated).bind ?_))
  exact .done () none _

theorem publish_can (answering : w.answering = true) (found : w.row id = some row) :
    Can (publish instanceId id) w () (w.put ((Completion.published (w.clock instanceId)).apply row)) := by
  have read : exec (.findUniqueOrThrow id) w = some (row, w) := by
    simp only [exec, found]
    rfl
  exact (issue_can read).bind (send_can answering found).handle

structure Clears (rows : List AnalyticsOutbox) (w w' : World) : Prop where
  published : ∀ row ∈ rows, ∃ publishedAt,
    w'.row row.id = some ((Completion.published publishedAt).apply row)
  others : ∀ id, id ∉ rows.map (·.id) → w'.row id = w.row id
  clock : w'.clock = w.clock
  running : w'.running ⊆ w.running
  answering : w'.answering = w.answering

theorem Clears.refl (w : World) : Clears [] w w :=
  ⟨by simp, fun _ _ => rfl, rfl, fun _ member => member, rfl⟩

theorem Clears.trans {rows rest : List AnalyticsOutbox} {w₁ : World} (first : Clears rows w w₁)
    (second : Clears rest w₁ w')
    (apart : ∀ row ∈ rows, row.id ∉ rest.map (·.id)) : Clears (rows ++ rest) w w' where
  published row member := by
    rcases List.mem_append.mp member with early | late
    · obtain ⟨publishedAt, there⟩ := first.published row early
      exact ⟨publishedAt, (second.others row.id (apart row early)).trans there⟩
    · exact second.published row late
  others id absent := by
    rw [List.map_append, List.mem_append, not_or] at absent
    exact (second.others id absent.2).trans (first.others id absent.1)
  clock := second.clock.trans first.clock
  running _ member := first.running (second.running member)
  answering := second.answering.trans first.answering

theorem Clears.perm {rows rows' : List AnalyticsOutbox} (clears : Clears rows w w')
    (same : rows.Perm rows') : Clears rows' w w' where
  published row member := clears.published row (same.mem_iff.mpr member)
  others id absent := clears.others id fun member => absent ((same.map (·.id)).mem_iff.mp member)
  clock := clears.clock
  running := clears.running
  answering := clears.answering

theorem attempt_can (answering : w.answering = true) (found : w.row row.id = some row)
    (free : claimable (w.clock instanceId - 60000) row = true) {rest : List Uuid}
    (run : Can (publishAll instanceId rest)
      (w.put ((Completion.published (w.clock instanceId)).apply row)) () w') :
    Can (publishAll instanceId (row.id :: rest)) w () w' := by
  let held : AnalyticsOutbox :=
    { row with lockedAt := some (w.clock instanceId), lockedBy := some instanceId }
  let published := (Completion.published (w.clock instanceId)).apply row
  have taken : (w.row row.id).filter (claimable (w.clock instanceId - 60000)) = some row := by
    rw [found]
    exact Option.filter_some_pos free
  have claimed : exec (.claim row.id (w.clock instanceId - 60000) (w.clock instanceId) instanceId) w =
      some (some (1 : Nat), w.put held) := by
    simp only [exec, taken, answer_arrives answering]
    rfl
  have sent : Can (publish instanceId row.id) (w.put held) () (w.put published) := by
    have overwritten : (w.put held).put published = w.put published := put_put w rfl
    rw [← overwritten]
    have puts : Puts row.id held w (w.put held) := puts_put found rfl
    have published := @publish_can (w.put held) instanceId row.id held answering puts.here
    exact published
  exact (issue_can rfl).bind ((issue_can rfl).bind ((issue_can claimed).bind (sent.bind run)))

theorem publishAll_can {rows : List AnalyticsOutbox} (answering : w.answering = true)
    (distinct : (rows.map (·.id)).Nodup)
    (due : ∀ row ∈ rows, w.row row.id = some row ∧ claimable (w.clock instanceId - 60000) row = true) :
    ∃ w', Can (publishAll instanceId (rows.map (·.id))) w () w' ∧ Clears rows w w' := by
  induction rows generalizing w with
  | nil => exact ⟨w, .done () none w, .refl w⟩
  | cons row rest ih =>
    obtain ⟨fresh, distinct⟩ := List.nodup_cons.mp distinct
    obtain ⟨found, free⟩ := due row List.mem_cons_self
    let published := (Completion.published (w.clock instanceId)).apply row
    have puts : Puts row.id published w (w.put published) := puts_put found rfl
    have apart (other : AnalyticsOutbox) (member : other ∈ rest) : other.id ≠ row.id := by
      intro same
      exact fresh (List.mem_map.mpr ⟨other, member, same⟩)
    have first : Clears [row] w (w.put published) := by
      refine ⟨?_, fun id absent => puts.others id (by simpa using absent), rfl, fun _ member => member, rfl⟩
      intro other member
      obtain rfl : other = row := List.mem_singleton.mp member
      exact ⟨w.clock instanceId, puts.here⟩
    obtain ⟨w', run, cleared⟩ := ih (w := w.put published) answering distinct fun other member => by
      obtain ⟨there, open_⟩ := due other (List.mem_cons_of_mem _ member)
      exact ⟨(puts.others other.id (apart other member)).trans there, open_⟩
    refine ⟨w', attempt_can answering found free run, first.trans cleared fun other member => ?_⟩
    obtain rfl : other = row := List.mem_singleton.mp member
    exact fresh

end Undisturbed

end AnalyticsOutboxPublisher

end TicketService
