import TicketService.Properties.OutboxOwnership

set_option autoImplicit false

namespace TicketService

namespace AnalyticsOutboxPublisher

open Interleaving Relational

-- The instances have one clock.
def Common : Act Call EnvAct → Prop
  | .environ (.tick elapsed) => ∀ instanceId other, elapsed instanceId = elapsed other
  | _ => True

/-- Each thread that publishes a row is within sixty seconds of the `lockedAt` of its claim. -/
def Timely (c : PublisherState) : Prop :=
  ∀ i ∈ List.range c.threads.length, ∀ th ∈ c.threads[i]?, ∀ id ∈ publishing th.prog,
    ∀ call ∈ c.shared.calls[i]?, ∀ lockedAt ∈ lease i id c.shared.history,
      c.shared.world.clock call.instanceId ≤ lockedAt + 60000

def Stmt.completing : Stmt → Bool
  | .now _ => true
  | .update .. => true
  | _ => false

def Reliable (c : PublisherState) : Act Call EnvAct → Prop
  | .step i => ∀ th ∈ c.threads[i]?, ∀ _ ∈ pendingUpdate th.prog, c.shared.world.answering = true
  | .fault i => ∀ th ∈ c.threads[i]?, ∀ stmt ∈ pending th.prog, stmt.completing = false
  | _ => True

def Punctual (c : PublisherState) (act : Act Call EnvAct) : Prop :=
  Common act ∧ Timely c ∧ Reliable c act

instance (c : PublisherState) : Decidable (Timely c) :=
  inferInstanceAs (Decidable (∀ i ∈ List.range c.threads.length, ∀ th ∈ c.threads[i]?,
    ∀ id ∈ publishing th.prog, ∀ call ∈ c.shared.calls[i]?, ∀ lockedAt ∈ lease i id c.shared.history,
      c.shared.world.clock call.instanceId ≤ lockedAt + 60000))

instance (c : PublisherState) (act : Act Call EnvAct) : Decidable (Reliable c act) :=
  match act with
  | .step i => inferInstanceAs (Decidable (∀ th ∈ c.threads[i]?, ∀ _ ∈ pendingUpdate th.prog,
      c.shared.world.answering = true))
  | .fault i => inferInstanceAs (Decidable (∀ th ∈ c.threads[i]?, ∀ stmt ∈ pending th.prog,
      stmt.completing = false))
  | .invoke _ => inferInstanceAs (Decidable True)
  | .environ _ => inferInstanceAs (Decidable True)

def sends (id : Uuid) : Event statements World Unit → Bool
  | .stmt _ (.rawSend sent) _ _ => sent.eventId = id
  | _ => false

structure Exclusive (c : PublisherState) : Prop where
  alone : ∀ (i j : Nat) (th th' : Thread statements Unit Exn Unit) id, c.threads[i]? = some th → c.threads[j]? = some th' →
    publishing th.prog = some id → publishing th'.prog = some id → i = j
  once : ∀ id, c.shared.history.countP (sends id) ≤ 1
  settled : ∀ row ∈ c.shared.world.outbox.rows, row.publishedAt = none ∨ row.deadLetteredAt = none

def Phase.staleBefore : Phase → Option Time
  | .dated _ _ staleBefore => some staleBefore
  | .claiming _ _ staleBefore _ => some staleBefore
  | _ => none

def Phase.delivered : Phase → Option Uuid
  | .publishing id _ (.sent _) => some id
  | .publishing id _ (.marking _ _) => some id
  | _ => none

structure Tenant (g : PublisherShared) (i : Nat) (instanceId : String) (φ : Phase) : Prop where
  keyed : φ.Keyed
  stale : ∀ staleBefore, φ.staleBefore = some staleBefore →
    staleBefore ≤ g.world.clock instanceId - 60000
  holds : ∀ id rest attempt, φ = .publishing id rest attempt → holder id g.history = some i

def Locked (g : PublisherShared) (i : Nat) (id : Uuid) : Prop :=
  ∃ row lockedAt, g.world.row id = some row ∧ row.lockedAt = some lockedAt ∧
    lease i id g.history = some lockedAt

def Once (g : PublisherShared) (φ : Nat → Phase) (id : Uuid) : Prop :=
  g.history.countP (sends id) = 0 ∨ g.history.countP (sends id) = 1 ∧
    ((∃ row, g.world.row id = some row ∧ row.publishedAt.isSome) ∨
      ∃ i call, g.calls[i]? = some call ∧ (φ i).delivered = some id)

structure Leases (g : PublisherShared) (φ : Nat → Phase) : Prop where
  held : Held g
  common : ∀ instanceId other, g.world.clock instanceId = g.world.clock other
  locked : ∀ id i, holder id g.history = some i → Locked g i id
  tenants : ∀ i call, g.calls[i]? = some call → Tenant g i call.instanceId (φ i)
  once : ∀ id, Once g φ id

def Prompt (g : PublisherShared) (φ : Nat → Phase) : Prop :=
  ∀ i call id rest attempt, g.calls[i]? = some call → φ i = .publishing id rest attempt →
    ∀ lockedAt, lease i id g.history = some lockedAt →
      g.world.clock call.instanceId ≤ lockedAt + 60000

theorem publishing_of_delivered {φ : Phase} {id : Uuid} (delivered : φ.delivered = some id) :
    ∃ rest attempt, φ = .publishing id rest attempt := by
  unfold Phase.delivered at delivered
  split at delivered <;> cases delivered
  · exact ⟨_, _, rfl⟩
  · exact ⟨_, _, rfl⟩

section Moves

variable {instanceId : String} {φ φ' : Phase} {stmt : Stmt} {id : Uuid}

theorem Moves.delivers {result : stmt.Res} (moves : Moves instanceId φ stmt (some result) φ')
    (delivered : φ.delivered = some id) :
    φ'.delivered = some id ∨ ∃ publishedAt, stmt = .update id (.published publishedAt) := by
  cases moves with
  | marks => exact .inl delivered
  | marked _ _ _ _ publishedAt =>
    cases delivered
    exact .inr ⟨publishedAt, rfl⟩
  | unmarked _ _ _ publishedAt =>
    cases delivered
    exact .inr ⟨publishedAt, rfl⟩
  | left _ _ last => rcases last with rfl | rfl <;> cases delivered
  | _ => cases delivered

theorem Moves.fails_delivering (moves : Moves instanceId φ stmt none φ')
    (delivered : φ.delivered = some id) :
    (∃ instanceId, stmt = .now instanceId) ∨ ∃ data, stmt = .update id data := by
  cases moves with
  | undated => exact .inl ⟨_, rfl⟩
  | refused =>
    cases delivered
    exact .inr ⟨_, rfl⟩
  | aborted _ _ search =>
    obtain ⟨rest, attempt, rfl⟩ := publishing_of_delivered delivered
    cases search
  | left _ _ last => rcases last with rfl | rfl <;> cases delivered
  | _ => cases delivered

end Moves

section Steps

variable {g : PublisherShared} {i j : Nat} {call call' : Call} {φ : Nat → Phase} {φ' : Phase}
  {stmt : Stmt} {result : stmt.Res} {w : World} {id : Uuid}

theorem prompt_of_timely {c : PublisherState} (guided : publishers.Guided route c φ)
    (leases : Leases c.shared φ) (timely : Timely c) : Prompt c.shared φ := by
  intro i call id rest attempt called within lockedAt leased
  have bound := (List.getElem?_eq_some_iff.mp called).1
  rw [← guided.numbered] at bound
  have present := List.getElem?_eq_getElem bound
  have guides := guided.follows i _ call present called
  have keyed := (leases.tenants i call called).keyed
  rw [within] at guides keyed
  exact timely i (List.mem_range.mpr bound) _ present id (publishing_of_phase guides keyed) call
    called lockedAt leased

theorem Leases.unclaimable (leases : Leases g φ) (prompt : Prompt g φ) {rest : List Uuid}
    {attempt : Attempt} (called : g.calls[j]? = some call') (within : φ j = .publishing id rest attempt)
    {staleBefore : Time} {instanceId : String} (stale : staleBefore ≤ g.world.clock instanceId - 60000) :
    (g.world.row id).any (claimable staleBefore) = false := by
  have mine := (leases.tenants j call' called).holds id rest attempt within
  obtain ⟨row, lockedAt, found, locked, leased⟩ := leases.locked id j mine
  have limit := prompt j call' id rest attempt called within lockedAt leased
  rw [leases.common call'.instanceId instanceId] at limit
  have kept : ¬lockedAt < staleBefore :=
    Nat.not_lt.mpr (Nat.le_trans stale (Nat.sub_le_of_le_add limit))
  simp [found, claimable, locked, kept]

theorem Leases.fenced (leases : Leases g φ) (called : g.calls[i]? = some call)
    {answer : Option stmt.Res} (moves : Moves call.instanceId (φ i) stmt answer φ') {data : Completion}
    (update : stmt = .update id data) : holder id g.history = some i := by
  subst update
  obtain ⟨rest, attempt, within⟩ := moves.updating
  exact (leases.tenants i call called).holds id rest attempt within

theorem Leases.undisturbed (leases : Leases g φ) (prompt : Prompt g φ)
    (called : g.calls[i]? = some call) (moves : Moves call.instanceId (φ i) stmt (some result) φ')
    (there : g.calls[j]? = some call') (different : i ≠ j) {rest : List Uuid} {attempt : Attempt}
    (within : φ j = .publishing id rest attempt) :
    takes id (.stmt i stmt result g.world) = false ∧ completes id (.stmt i stmt result g.world) = false := by
  constructor
  · cases stmt with
    | claim target staleBefore lockedAt lockedBy =>
      obtain ⟨rest', claiming⟩ := moves.claiming
      have stale := (leases.tenants i call called).stale staleBefore (by rw [claiming]; rfl)
      have kept := leases.unclaimable prompt there within stale
      by_cases here : target = id
      · subst here
        simp [takes, kept]
      · simp [takes, here]
    | _ => rfl
  · cases stmt with
    | update target data =>
      have mine := leases.fenced called moves rfl
      have theirs := (leases.tenants j call' there).holds id rest attempt within
      refine decide_eq_false fun here => different ?_
      subst here
      exact Option.some.inj (mine.symm.trans theirs)
    | _ => rfl

theorem Leases.other (leases : Leases g φ) (prompt : Prompt g φ) (called : g.calls[i]? = some call)
    (moves : Moves call.instanceId (φ i) stmt (some result) φ')
    (executed : exec stmt g.world = some (result, w)) (there : g.calls[j]? = some call')
    (different : i ≠ j) : Tenant (recorded g i stmt result w) j call'.instanceId (φ j) := by
  have tenant := leases.tenants j call' there
  refine ⟨tenant.keyed, fun staleBefore dated => ?_, fun id rest attempt within => ?_⟩
  · rw [Shared.record_world, clock_of_exec executed]
    exact tenant.stale staleBefore dated
  · obtain ⟨untaken, open_⟩ := leases.undisturbed prompt called moves there different within
    exact (holder_same untaken open_).trans (tenant.holds id rest attempt within)

theorem Leases.own (leases : Leases g φ) (called : g.calls[i]? = some call)
    (moves : Moves call.instanceId (φ i) stmt (some result) φ')
    (executed : exec stmt g.world = some (result, w))
    (answering : ∀ id data, stmt = .update id data → g.world.answering = true) :
    Tenant (recorded g i stmt result w) i call.instanceId φ' := by
  have tenant := leases.tenants i call called
  refine ⟨keyed_of_moves moves executed, fun staleBefore dated => ?_, fun id rest attempt within => ?_⟩
  · rw [Shared.record_world, clock_of_exec executed]
    generalize before : φ i = ψ at moves
    cases moves with
    | dated _ _ now =>
      obtain rfl : now - 60000 = staleBefore := Option.some.inj dated
      have time : g.world.clock call.instanceId = now :=
        congrArg Prod.fst (Option.some.inj executed)
      exact Nat.sub_le_sub_right (Nat.le_of_eq time.symm) 60000
    | locks =>
      cases dated
      exact tenant.stale _ (by rw [before]; rfl)
    | _ => cases dated
  · subst within
    rcases moves.publishing with ⟨⟨before, same⟩, unclaimed⟩ | ⟨staleBefore, lockedAt, -, rfl, rfl⟩
    · have open_ : completes id (.stmt i stmt result g.world) = false := by
        refine completes_other ?_
        rintro target data rfl
        have lost := moves.lost
        obtain ⟨row, -, answer⟩ := Option.map_eq_some_iff.mp executed
        simp only [World.answer, answering target data rfl, if_true, lost] at answer
        cases answer
      exact (holder_same (takes_other unclaimed) open_).trans (tenant.holds id rest before same)
    · have answer := moves.answered
      have effect := exec_effect executed
      cases effect with
      | keeps unclaimed => exact absurd rfl (unclaimed _ _ _ _)
      | takes row found free => exact holder_takes (by simp [takes, found, free])
      | passes =>
        unfold World.answer at answer
        split at answer <;> cases answer

theorem Locked.step (locked : Locked g j id) (untaken : takes id (.stmt i stmt result g.world) = false)
    (same : w.row id = g.world.row id) : Locked (recorded g i stmt result w) j id := by
  obtain ⟨row, lockedAt, found, there, leased⟩ := locked
  exact ⟨row, lockedAt, same.trans found, there, (lease_same untaken).trans leased⟩

theorem Leases.lock (leases : Leases g φ) (executed : exec stmt g.world = some (result, w))
    (holds : holder id (recorded g i stmt result w).history = some j) :
    Locked (recorded g i stmt result w) j id := by
  have kept (untaken : takes id (.stmt i stmt result g.world) = false)
      (open_ : completes id (.stmt i stmt result g.world) = false) (same : w.row id = g.world.row id) :
      Locked (recorded g i stmt result w) j id :=
    (leases.locked id j ((holder_same untaken open_).symm.trans holds)).step untaken same
  have effect := exec_effect executed
  cases effect with
  | keeps unclaimed open_ same => exact kept (takes_other unclaimed) (completes_other open_) (same.row_eq id)
  | @takes target staleBefore lockedAt lockedBy _ _ row found free puts =>
    by_cases here : target = id
    · subst here
      have taken : takes target (.stmt i (.claim target staleBefore lockedAt lockedBy)
          (g.world.answer (1 : Nat)) g.world) = true := by simp [takes, found, free]
      obtain rfl : i = j := Option.some.inj ((holder_takes taken).symm.trans holds)
      exact ⟨_, lockedAt, puts.here, rfl, lease_takes taken⟩
    · exact kept (by simp [takes, here]) rfl (puts.others id (Ne.symm here))
  | passes free =>
    refine kept (decide_eq_false ?_) rfl rfl
    rintro ⟨rfl, taken⟩
    simp [free] at taken
  | @completes target data _ _ row found puts =>
    by_cases here : target = id
    · subst here
      have ended : holder target (.stmt i (.update target data) (g.world.answer (data.apply row))
          g.world :: g.history) = some j := holds
      simp [holder, completes, takes] at ended
    · exact kept rfl (by simp [completes, here]) (puts.others id (Ne.symm here))

theorem Leases.unsent (leases : Leases g φ) (called : g.calls[i]? = some call) {rest : List Uuid}
    {record : AnalyticsOutbox} (within : φ i = .publishing id rest (.sending record)) :
    g.history.countP (sends id) = 0 := by
  have mine := (leases.tenants i call called).holds id rest _ within
  rcases leases.once id with unsent | ⟨-, ⟨row, found, published⟩ | ⟨k, call', there, delivered⟩⟩
  · exact unsent
  · obtain ⟨row', -, found', -, -, unpublished, -⟩ := leases.held.owned id i mine
    rw [found] at found'
    cases found'
    simp [unpublished] at published
  · obtain ⟨rest', attempt, elsewhere⟩ := publishing_of_delivered delivered
    have theirs := (leases.tenants k call' there).holds id rest' attempt elsewhere
    obtain rfl : i = k := Option.some.inj (mine.symm.trans theirs)
    rw [within] at delivered
    cases delivered

theorem Leases.counted (leases : Leases g φ) (called : g.calls[i]? = some call)
    (moves : Moves call.instanceId (φ i) stmt (some result) φ')
    (executed : exec stmt g.world = some (result, w))
    (answering : ∀ id data, stmt = .update id data → g.world.answering = true) (id : Uuid) :
    Once (recorded g i stmt result w) (Function.update φ i φ') id := by
  by_cases sending : sends id (.stmt i stmt result g.world) = true
  · cases stmt with
    | rawSend sent =>
      obtain ⟨target, rest, record, within, rfl⟩ := moves.sending
      have key : record.id = target := (leases.tenants i call called).keyed target rest record within
      obtain rfl : target = id := key.symm.trans (of_decide_eq_true sending)
      refine .inr ⟨?_, .inr ⟨i, call, called, ?_⟩⟩
      · exact (List.countP_cons_of_pos sending).trans (congrArg (· + 1) (leases.unsent called within))
      · rw [within] at moves
        rw [Function.update_self]
        cases moves
        rfl
    | _ => cases sending
  · have same : (recorded g i stmt result w).history.countP (sends id) = g.history.countP (sends id) :=
      List.countP_cons_of_neg sending
    rcases leases.once id with unsent | ⟨sent, ⟨row, found, published⟩ | ⟨k, call', there, delivered⟩⟩
    · exact .inl (same.trans unsent)
    · have key : row.id = id := Table.key_of_get? found
      have kept : Kept row g.world := ⟨published, row, key ▸ found, rfl, rfl,
        (leases.held.settled id row found).resolve_left (Option.isSome_iff_ne_none.mp published)⟩
      obtain ⟨-, row', found', settled⟩ :=
        leases.held.keeps executed (fun _ _ update => leases.fenced called moves update) kept
      exact .inr ⟨same.trans sent, .inl ⟨row', key ▸ found', settled.publishedAt ▸ published⟩⟩
    · refine .inr ⟨same.trans sent, ?_⟩
      by_cases self : k = i
      · subst self
        rcases moves.delivers delivered with still | ⟨publishedAt, rfl⟩
        · exact .inr ⟨k, call', there, by rw [Function.update_self]; exact still⟩
        · have effect := exec_effect executed
          cases effect with
          | keeps _ open_ => exact absurd rfl (open_ _ _)
          | completes row found puts => exact .inl ⟨_, puts.here, rfl⟩
      · exact .inr ⟨k, call', there, by rw [Function.update_of_ne self]; exact delivered⟩

theorem Leases.returns (leases : Leases g φ) (prompt : Prompt g φ) (called : g.calls[i]? = some call)
    (moves : Moves call.instanceId (φ i) stmt (some result) φ')
    (executed : exec stmt g.world = some (result, w))
    (answering : ∀ id data, stmt = .update id data → g.world.answering = true) :
    Leases (recorded g i stmt result w) (Function.update φ i φ') where
  held := leases.held.step called moves executed fun _ _ update => leases.fenced called moves update
  common instanceId other := by
    rw [Shared.record_world, clock_of_exec executed]
    exact leases.common instanceId other
  locked id j holds := leases.lock executed holds
  tenants j call' there := by
    by_cases self : i = j
    · subst self
      obtain rfl : call = call' := Option.some.inj (called.symm.trans there)
      rw [Function.update_self]
      exact leases.own called moves executed answering
    · rw [Function.update_of_ne (Ne.symm self)]
      exact leases.other prompt called moves executed there self
  once := leases.counted called moves executed answering

theorem Leases.undelivered (leases : Leases g φ) (called : g.calls[i]? = some call)
    (moves : Moves call.instanceId (φ i) stmt none φ')
    (failed : stmt.completing = false ∨ exec stmt g.world = none) : (φ i).delivered = none := by
  by_contra present
  obtain ⟨id, delivered⟩ := Option.ne_none_iff_exists'.mp present
  rcases moves.fails_delivering delivered with ⟨instanceId, rfl⟩ | ⟨data, rfl⟩
  · rcases failed with completing | throws
    · cases completing
    · cases throws
  · rcases failed with completing | throws
    · cases completing
    · obtain ⟨row, -, found, -⟩ := leases.held.owned id i (leases.fenced called moves rfl)
      have missing : g.world.row id = none := Option.map_eq_none_iff.mp throws
      rw [found] at missing
      cases missing

theorem Leases.throws (leases : Leases g φ) (called : g.calls[i]? = some call)
    (moves : Moves call.instanceId (φ i) stmt none φ')
    (failed : stmt.completing = false ∨ exec stmt g.world = none) :
    Leases g (Function.update φ i φ') := by
  have undelivered := leases.undelivered called moves failed
  refine ⟨leases.held, leases.common, leases.locked, fun j call' there => ?_, fun id => ?_⟩
  · by_cases self : i = j
    · subst self
      obtain rfl : call = call' := Option.some.inj (called.symm.trans there)
      have tenant := leases.tenants i call called
      rw [Function.update_self]
      refine ⟨keyed_of_throws moves, fun staleBefore dated => ?_, fun id rest attempt within => ?_⟩
      · generalize φ i = ψ at moves
        cases moves <;> cases dated
      · subst within
        rcases moves.publishing with ⟨⟨before, same⟩, -⟩ | ⟨staleBefore, lockedAt, -, rfl, -⟩
        · exact tenant.holds id rest before same
        · generalize φ i = ψ at moves
          cases moves
    · rw [Function.update_of_ne (Ne.symm self)]
      exact leases.tenants j call' there
  · rcases leases.once id with unsent | ⟨sent, published | ⟨k, call', there, delivered⟩⟩
    · exact .inl unsent
    · exact .inr ⟨sent, .inl published⟩
    · have different : k ≠ i := by
        rintro rfl
        rw [undelivered] at delivered
        cases delivered
      exact .inr ⟨sent, .inr ⟨k, call', there, by rw [Function.update_of_ne different]; exact delivered⟩⟩

theorem Leases.invoke (leases : Leases g φ) (new : Call) :
    Leases (g.invoke new) (Function.update φ g.calls.length .starting) := by
  have old (j : Nat) (earlier : j < g.calls.length) :
      (g.invoke new).calls[j]? = g.calls[j]? ∧ Function.update φ g.calls.length .starting j = φ j :=
    ⟨List.getElem?_append_left earlier, Function.update_of_ne (Nat.ne_of_lt earlier) _ _⟩
  refine ⟨leases.held.invoke new, leases.common, leases.locked, fun j call' there => ?_, fun id => ?_⟩
  · by_cases earlier : j < g.calls.length
    · obtain ⟨calls, phase⟩ := old j earlier
      have tenant := leases.tenants j call' (calls ▸ there)
      rw [phase]
      exact ⟨tenant.keyed, tenant.stale, tenant.holds⟩
    · have within := (List.getElem?_eq_some_iff.mp there).1
      simp only [Shared.invoke, List.length_append, List.length_singleton] at within
      obtain rfl : j = g.calls.length := by omega
      rw [Function.update_self]
      constructor
      · rintro _ _ _ ⟨⟩
      · rintro _ ⟨⟩
      · rintro _ _ _ ⟨⟩
  · rcases leases.once id with unsent | ⟨sent, published | ⟨k, call', there, delivered⟩⟩
    · exact .inl unsent
    · exact .inr ⟨sent, .inl published⟩
    · obtain ⟨calls, phase⟩ := old k (List.getElem?_eq_some_iff.mp there).1
      exact .inr ⟨sent, .inr ⟨k, call', calls.trans there, phase.symm ▸ delivered⟩⟩

theorem Leases.environ (leases : Leases g φ) {action : EnvAct} (common : Common (.environ action)) :
    Leases (g.environ engine action) φ where
  held := leases.held.environ action
  common instanceId other := by
    have before := leases.common instanceId other
    cases action with
    | tick elapsed =>
      have same : elapsed instanceId = elapsed other := common instanceId other
      change g.world.clock instanceId + elapsed instanceId = g.world.clock other + elapsed other
      rw [before, same]
    | _ => exact before
  locked id j holds := by
    obtain ⟨row, lockedAt, found, locked⟩ := leases.locked id j holds
    exact ⟨row, lockedAt, environ_row action found, locked⟩
  tenants j call' there := by
    have tenant := leases.tenants j call' there
    have later := environ_clock action g.world call'.instanceId
    refine ⟨tenant.keyed, fun staleBefore dated => ?_, tenant.holds⟩
    exact Nat.le_trans (tenant.stale staleBefore dated) (Nat.sub_le_sub_right later 60000)
  once id := by
    rcases leases.once id with unsent | ⟨sent, ⟨row, found, published⟩ | delivered⟩
    · exact .inl unsent
    · exact .inr ⟨sent, .inl ⟨row, environ_row action found, published⟩⟩
    · exact .inr ⟨sent, .inr delivered⟩

end Steps

theorem preserves_leases : publishers.Preserves route Punctual Leases where
  invoke c φ call guided leases _ := guided.numbered ▸ leases.invoke call
  call c φ i call stmt next result w φ' guided leases punctual present called moves executed := by
    refine leases.returns (prompt_of_timely guided leases punctual.2.1) called moves
      (engine_exec.mp executed) ?_
    rintro id data rfl
    exact punctual.2.2 _ present id rfl
  throws c φ i call act stmt next φ' _ leases punctual reason present called moves := by
    refine leases.throws called moves ?_
    rcases reason with rfl | ⟨-, failed⟩
    · exact .inl (punctual.2.2 _ present stmt rfl)
    · exact .inr (Option.map_eq_none_iff.mp failed)
  environ c φ action _ leases punctual := leases.environ punctual.1

theorem leases_start (time : Time) (φ : Nat → Phase) :
    Leases (publishers.initial (World.start fun _ => time)).shared φ where
  held := held_start fun _ => time
  common _ _ := rfl
  locked id i holds := by cases holds
  tenants i call called := by cases called
  once id := .inl rfl

/-- While the instances have one clock, completions are written and no `publish` outlasts its lease,
a row is published by one thread at a time and sent at most once. -/
theorem leases_exclude {time : Time} {c : PublisherState}
    (runs : publishers.RunsUnder Punctual (publishers.initial (World.start fun _ => time)) c) :
    Exclusive c := by
  obtain ⟨φ, guided, leases⟩ := System.Guided.runs autocommits route_guides preserves_leases
    (System.initial_guided _ fun _ => .ended) (leases_start time _) runs
  have holds (i : Nat) (th : Thread statements Unit Exn Unit) (id : Uuid)
      (present : c.threads[i]? = some th) (within : publishing th.prog = some id) :
      holder id c.shared.history = some i := by
    have bound := (List.getElem?_eq_some_iff.mp present).1
    rw [guided.numbered] at bound
    have called := List.getElem?_eq_getElem bound
    have tenant := leases.tenants i _ called
    obtain ⟨rest, attempt, phase⟩ :=
      phase_of_publishing (guided.follows i th _ present called) tenant.keyed within
    exact tenant.holds id rest attempt phase
  refine ⟨fun i j th th' id first second publishes publishes' => ?_, fun id => ?_, fun row member => ?_⟩
  · have mine := holds i th id first publishes
    have theirs := holds j th' id second publishes'
    exact Option.some.inj (mine.symm.trans theirs)
  · rcases leases.once id with unsent | ⟨sent, -⟩
    · exact unsent ▸ Nat.zero_le 1
    · exact Nat.le_of_eq sent
  · exact leases.held.settled row.id row (Table.get?_of_mem member)

namespace Sample

-- The first instance has failed to send the row, and while the second sends it a third finds it.
def shared : List (Act Call EnvAct) :=
  enqueued ++ poll "first" 0 8 ++ [.fault 0] ++ List.replicate 4 (.step 0) ++
    [.environ (.tick fun _ => 2000)] ++ poll "second" 1 4 ++ poll "third" 2 4 ++
      List.replicate 5 (.step 1) ++ List.replicate 3 (.step 2)

end Sample

theorem leases_exclude_shared : Exclusive (Sample.run Sample.shared) := by
  have common : ∀ act ∈ Sample.shared, Common act := by
    simp [Sample.shared, Sample.enqueued, Sample.enqueue, Sample.poll, Common, or_imp, forall_and]
  have allows : publishers.Allows (fun c act => Timely c ∧ Reliable c act)
      (publishers.initial (World.start fun _ => 100000)) Sample.shared := by decide +kernel
  exact leases_exclude (System.runsUnder_run _ _ _ (System.allows_and _ common allows))

end AnalyticsOutboxPublisher

end TicketService
