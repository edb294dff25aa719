import TicketService.Interleaving.Phases
import TicketService.Model.Publisher

set_option autoImplicit false

namespace TicketService

namespace AnalyticsOutboxPublisher

open Interleaving Relational

inductive Attempt where
  | reading
  | sending (record : AnalyticsOutbox)
  | sent (record : AnalyticsOutbox)
  | marking (record : AnalyticsOutbox) (publishedAt : Time)
  | failing (record : AnalyticsOutbox)
  | failed (record : AnalyticsOutbox) (lastError : String)
  | closing (data : Completion)

inductive Phase where
  | starting
  | polling
  | polled (now : Time)
  | finding (now staleBefore : Time)
  -- The candidates that are left.
  | looping (ids : List Uuid)
  | dated (id : Uuid) (rest : List Uuid) (staleBefore : Time)
  | claiming (id : Uuid) (rest : List Uuid) (staleBefore lockedAt : Time)
  | publishing (id : Uuid) (rest : List Uuid) (attempt : Attempt)
  | leaving
  | ended

def failure (record : AnalyticsOutbox) (lastError : String) (now : Time) : Completion :=
  if 10 ≤ record.attempts + 1 then .deadLettered (record.attempts + 1) lastError now
  else .retried (record.attempts + 1) lastError (now + retryDelay (record.attempts + 1))

def Phase.search (instanceId : String) : Phase → Option Stmt
  | .polling => some (.now instanceId)
  | .polled _ => some (.now instanceId)
  | .finding now staleBefore => some (.findMany now staleBefore)
  | .looping (_ :: _) => some (.now instanceId)
  | .dated .. => some (.now instanceId)
  | .claiming id _ staleBefore lockedAt => some (.claim id staleBefore lockedAt instanceId)
  | _ => none

def Stmt.searches : Stmt → Bool
  | .now _ => true
  | .findMany .. => true
  | .claim .. => true
  | _ => false

theorem Phase.searches_of_search {instanceId : String} {φ : Phase} {stmt : Stmt}
    (search : φ.search instanceId = some stmt) : stmt.searches = true := by
  unfold Phase.search at search
  split at search <;> cases search <;> rfl

inductive Moves (instanceId : String) : Phases statements Phase where
  | entered : Moves instanceId .starting (.enter instanceId) (some false) .polling
  | busy : Moves instanceId .starting (.enter instanceId) (some true) .ended
  | barred : Moves instanceId .starting (.enter instanceId) none .ended
  | polled (now : Time) : Moves instanceId .polling (.now instanceId) (some now) (.polled now)
  | staled (now later : Time) :
    Moves instanceId (.polled now) (.now instanceId) (some later) (.finding now (later - 60000))
  | found (now staleBefore : Time) (rows : List AnalyticsOutbox) :
    Moves instanceId (.finding now staleBefore) (.findMany now staleBefore) (some rows)
      (.looping (rows.map (·.id)))
  | dated (id : Uuid) (rest : List Uuid) (now : Time) :
    Moves instanceId (.looping (id :: rest)) (.now instanceId) (some now) (.dated id rest (now - 60000))
  | locks (id : Uuid) (rest : List Uuid) (staleBefore lockedAt : Time) :
    Moves instanceId (.dated id rest staleBefore) (.now instanceId) (some lockedAt)
      (.claiming id rest staleBefore lockedAt)
  | claimed (id : Uuid) (rest : List Uuid) (staleBefore lockedAt : Time) :
    Moves instanceId (.claiming id rest staleBefore lockedAt)
      (.claim id staleBefore lockedAt instanceId) (some (some (1 : Nat))) (.publishing id rest .reading)
  | missed (id : Uuid) (rest : List Uuid) (staleBefore lockedAt : Time) (count : Nat) : count ≠ 1 →
    Moves instanceId (.claiming id rest staleBefore lockedAt)
      (.claim id staleBefore lockedAt instanceId) (some (some count)) (.looping rest)
  | unanswered (id : Uuid) (rest : List Uuid) (staleBefore lockedAt : Time) :
    Moves instanceId (.claiming id rest staleBefore lockedAt)
      (.claim id staleBefore lockedAt instanceId) (some none) .leaving
  | aborted (φ : Phase) (stmt : Stmt) : φ.search instanceId = some stmt →
    Moves instanceId φ stmt none .leaving
  | read (id : Uuid) (rest : List Uuid) (record : AnalyticsOutbox) :
    Moves instanceId (.publishing id rest .reading) (.findUniqueOrThrow id) (some record)
      (.publishing id rest (.sending record))
  | unread (id : Uuid) (rest : List Uuid) :
    Moves instanceId (.publishing id rest .reading) (.findUniqueOrThrow id) none .leaving
  | sent (id : Uuid) (rest : List Uuid) (record : AnalyticsOutbox) :
    Moves instanceId (.publishing id rest (.sending record)) (.rawSend (message record)) (some ())
      (.publishing id rest (.sent record))
  | unsent (id : Uuid) (rest : List Uuid) (record : AnalyticsOutbox) :
    Moves instanceId (.publishing id rest (.sending record)) (.rawSend (message record)) none
      (.publishing id rest (.failing record))
  | marks (id : Uuid) (rest : List Uuid) (record : AnalyticsOutbox) (publishedAt : Time) :
    Moves instanceId (.publishing id rest (.sent record)) (.now instanceId) (some publishedAt)
      (.publishing id rest (.marking record publishedAt))
  | undated (id : Uuid) (rest : List Uuid) (record : AnalyticsOutbox) :
    Moves instanceId (.publishing id rest (.sent record)) (.now instanceId) none
      (.publishing id rest (.failing record))
  | marked (id : Uuid) (rest : List Uuid) (record row : AnalyticsOutbox) (publishedAt : Time) :
    Moves instanceId (.publishing id rest (.marking record publishedAt))
      (.update id (.published publishedAt)) (some (some row)) (.looping rest)
  | unmarked (id : Uuid) (rest : List Uuid) (record : AnalyticsOutbox) (publishedAt : Time) :
    Moves instanceId (.publishing id rest (.marking record publishedAt))
      (.update id (.published publishedAt)) (some none) (.publishing id rest (.failing record))
  | refused (id : Uuid) (rest : List Uuid) (record : AnalyticsOutbox) (publishedAt : Time) :
    Moves instanceId (.publishing id rest (.marking record publishedAt))
      (.update id (.published publishedAt)) none (.publishing id rest (.failing record))
  | caught (id : Uuid) (rest : List Uuid) (record : AnalyticsOutbox) (lastError : String) :
    Moves instanceId (.publishing id rest (.failing record)) (.caught id) (some lastError)
      (.publishing id rest (.failed record lastError))
  | closes (id : Uuid) (rest : List Uuid) (record : AnalyticsOutbox) (lastError : String) (now : Time) :
    Moves instanceId (.publishing id rest (.failed record lastError)) (.now instanceId) (some now)
      (.publishing id rest (.closing (failure record lastError now)))
  | closed (id : Uuid) (rest : List Uuid) (data : Completion) (row : AnalyticsOutbox) :
    Moves instanceId (.publishing id rest (.closing data)) (.update id data) (some (some row))
      (.looping rest)
  | unclosed (id : Uuid) (rest : List Uuid) (data : Completion) :
    Moves instanceId (.publishing id rest (.closing data)) (.update id data) (some none) .leaving
  | uncaught (id : Uuid) (rest : List Uuid) (record : AnalyticsOutbox) :
    Moves instanceId (.publishing id rest (.failing record)) (.caught id) none .leaving
  | unfailed (id : Uuid) (rest : List Uuid) (record : AnalyticsOutbox) (lastError : String) :
    Moves instanceId (.publishing id rest (.failed record lastError)) (.now instanceId) none .leaving
  | abandoned (id : Uuid) (rest : List Uuid) (data : Completion) :
    Moves instanceId (.publishing id rest (.closing data)) (.update id data) none .leaving
  | left (φ : Phase) (result : Option Unit) : φ = .leaving ∨ φ = .looping [] →
    Moves instanceId φ (.leave instanceId) result .ended

theorem Moves.lockedBy {instanceId lockedBy : String} {φ φ' : Phase} {id : Uuid}
    {staleBefore lockedAt : Time} {result : Option (Stmt.claim id staleBefore lockedAt lockedBy).Res}
    (moves : Moves instanceId φ (.claim id staleBefore lockedAt lockedBy) result φ') :
    lockedBy = instanceId := by
  cases moves with
  | aborted _ _ search =>
    unfold Phase.search at search
    split at search <;> cases search
    rfl
  | _ => rfl

def Phase.waiting : Phase → List Uuid
  | .looping ids => ids
  | .dated id rest _ => id :: rest
  | .claiming id rest _ _ => id :: rest
  | .publishing _ rest _ => rest
  | _ => []

section Moves

variable {instanceId : String} {φ φ' : Phase} {stmt : Stmt}

theorem Moves.waiting {result : Option stmt.Res} (moves : Moves instanceId φ stmt result φ')
    (unsearched : ∀ now staleBefore, stmt ≠ .findMany now staleBefore) : φ'.waiting ⊆ φ.waiting := by
  cases moves with
  | found now staleBefore => exact absurd rfl (unsearched now staleBefore)
  | _ => simp [Phase.waiting]

theorem Moves.publishing {result : Option stmt.Res} {id : Uuid} {rest : List Uuid} {attempt : Attempt}
    (moves : Moves instanceId φ stmt result (.publishing id rest attempt)) :
    (∃ before, φ = .publishing id rest before) ∧
        (∀ id staleBefore lockedAt lockedBy, stmt ≠ .claim id staleBefore lockedAt lockedBy) ∨
      ∃ staleBefore lockedAt, φ = .claiming id rest staleBefore lockedAt ∧
        stmt = .claim id staleBefore lockedAt instanceId ∧ attempt = .reading := by
  cases moves with
  | claimed _ _ staleBefore lockedAt => exact .inr ⟨staleBefore, lockedAt, rfl, rfl, rfl⟩
  | _ => exact .inl ⟨⟨_, rfl⟩, by simp⟩

theorem Moves.answered {id : Uuid} {rest : List Uuid} {attempt : Attempt} {staleBefore lockedAt : Time}
    {lockedBy : String} {answer : Option Nat}
    (moves : Moves instanceId φ (.claim id staleBefore lockedAt lockedBy) (some answer)
      (.publishing id rest attempt)) : answer = some 1 := by
  cases moves
  rfl

theorem Moves.lost {id target : Uuid} {rest : List Uuid} {attempt : Attempt} {data : Completion}
    {answer : Option AnalyticsOutbox}
    (moves : Moves instanceId φ (.update target data) (some answer) (.publishing id rest attempt)) :
    answer = none := by
  cases moves
  rfl

theorem Moves.updating {id : Uuid} {data : Completion} {result : Option (Stmt.update id data).Res}
    (moves : Moves instanceId φ (.update id data) result φ') :
    ∃ rest attempt, φ = .publishing id rest attempt := by
  cases moves with
  | aborted _ _ search => cases Phase.searches_of_search search
  | _ => exact ⟨_, _, rfl⟩

theorem Moves.claiming {id : Uuid} {staleBefore lockedAt : Time} {lockedBy : String}
    {answer : Option Nat}
    (moves : Moves instanceId φ (.claim id staleBefore lockedAt lockedBy) (some answer) φ') :
    ∃ rest, φ = .claiming id rest staleBefore lockedAt := by
  cases moves <;> exact ⟨_, rfl⟩

theorem Moves.sending {sent : RawMessage} {result : Option Unit}
    (moves : Moves instanceId φ (.rawSend sent) result φ') :
    ∃ id rest record, φ = .publishing id rest (.sending record) ∧ sent = message record := by
  cases moves with
  | aborted _ _ search => cases Phase.searches_of_search search
  | sent id rest record => exact ⟨id, rest, record, rfl, rfl⟩
  | unsent id rest record => exact ⟨id, rest, record, rfl, rfl⟩

end Moves

section Follows

variable {instanceId : String} {id : Uuid} {rest : List Uuid} {record : AnalyticsOutbox}

abbrev Passes {α : Type} (instanceId : String) (Q : α → Phase → Prop) (T : Phase → Prop)
    (p : Program α) (φ : Phase) : Prop :=
  Follows (Moves instanceId) Q (fun _ => T) p φ

theorem passes_issue {stmt : Stmt} {Q : stmt.Res → Phase → Prop} {T : Phase → Prop} {φ : Phase}
    (returns : ∀ result, ∃ φ', Moves instanceId φ stmt (some result) φ' ∧ Q result φ')
    (throws : ∃ φ', Moves instanceId φ stmt none φ' ∧ T φ') :
    Passes instanceId Q T (issue stmt) φ :=
  Follows.perform returns throws

theorem passes_send : Passes instanceId (fun _ φ => φ = .looping rest)
    (fun φ => φ = .publishing id rest (.failing record)) (send instanceId id record)
    (.publishing id rest (.sending record)) := by
  refine Follows.bind (passes_issue (fun result => ⟨_, .sent id rest record, ?_⟩)
    ⟨_, .unsent id rest record, rfl⟩)
  refine Follows.bind (passes_issue (fun publishedAt => ⟨_, .marks id rest record publishedAt, ?_⟩)
    ⟨_, .undated id rest record, rfl⟩)
  refine Follows.bind (passes_issue (fun answer => ?_) ⟨_, .refused id rest record publishedAt, rfl⟩)
  cases answer with
  | some row => exact ⟨_, .marked id rest record row publishedAt, rfl⟩
  | none => exact ⟨_, .unmarked id rest record publishedAt, rfl⟩

theorem passes_fail : Passes instanceId (fun _ φ => φ = .looping rest) (fun φ => φ = .leaving)
    (fail instanceId id record) (.publishing id rest (.failing record)) := by
  refine Follows.bind (passes_issue (fun lastError => ⟨_, .caught id rest record lastError, ?_⟩)
    ⟨_, .uncaught id rest record, rfl⟩)
  refine Follows.bind (passes_issue (fun now => ⟨_, .closes id rest record lastError now, ?_⟩)
    ⟨_, .unfailed id rest record lastError, rfl⟩)
  refine Follows.bind (passes_issue (fun answer => ?_) ⟨_, .abandoned id rest _, rfl⟩)
  cases answer with
  | some row => exact ⟨_, .closed id rest _ row, rfl⟩
  | none => exact ⟨_, .unclosed id rest _, rfl⟩

theorem passes_publish : Passes instanceId (fun _ φ => φ = .looping rest) (fun φ => φ = .leaving)
    (publish instanceId id) (.publishing id rest .reading) := by
  refine Follows.bind (passes_issue (fun record => ⟨_, .read id rest record, ?_⟩)
    ⟨_, .unread id rest, rfl⟩)
  refine Follows.handle (Follows.mono_throws passes_send fun _ φ failed => ?_)
  subst failed
  exact passes_fail

theorem passes_publishAll (ids : List Uuid) : Passes instanceId (fun _ φ => φ = .looping [])
    (fun φ => φ = .leaving) (publishAll instanceId ids) (.looping ids) := by
  induction ids with
  | nil => rfl
  | cons id rest ih =>
    refine Follows.bind (passes_issue (fun now => ⟨_, .dated id rest now, ?_⟩) ⟨_, .aborted _ _ rfl, rfl⟩)
    refine Follows.bind (passes_issue (fun lockedAt => ⟨_, .locks id rest _ lockedAt, ?_⟩)
      ⟨_, .aborted _ _ rfl, rfl⟩)
    refine Follows.bind (passes_issue (fun answer => ?_) ⟨_, .aborted _ _ rfl, rfl⟩)
    cases answer with
    | none => exact ⟨_, .unanswered id rest _ lockedAt, rfl⟩
    | some count =>
      by_cases one : (count : Nat) = 1
      · subst one
        have published : Passes instanceId (fun _ φ => φ = .looping []) (fun φ => φ = .leaving)
            ((publish instanceId id).bind fun _ => publishAll instanceId rest)
            (.publishing id rest .reading) :=
          Follows.bind (passes_publish.mono fun _ φ done => done ▸ ih)
        exact ⟨_, .claimed id rest _ lockedAt, published⟩
      · refine ⟨_, .missed id rest _ lockedAt count one, ?_⟩
        simp only [answered, Prog.bind_eq, Prog.bind, if_neg one]
        exact ih

theorem passes_poll : Passes instanceId (fun _ φ => φ = .looping []) (fun φ => φ = .leaving)
    (poll instanceId) .polling := by
  refine Follows.bind (passes_issue (fun now => ⟨_, .polled now, ?_⟩) ⟨_, .aborted _ _ rfl, rfl⟩)
  refine Follows.bind (passes_issue (fun later => ⟨_, .staled now later, ?_⟩) ⟨_, .aborted _ _ rfl, rfl⟩)
  refine Follows.bind (passes_issue (fun rows => ⟨_, .found now _ rows, ?_⟩) ⟨_, .aborted _ _ rfl, rfl⟩)
  exact passes_publishAll _

theorem passes_leave {φ : Phase} (last : φ = .leaving ∨ φ = .looping []) :
    Passes instanceId (fun _ φ => φ = .ended) (fun φ => φ = .ended) (leave instanceId) φ :=
  Follows.bind (passes_issue (fun _ => ⟨_, .left φ _ last, rfl⟩) ⟨_, .left φ none last, rfl⟩)

theorem passes_publishReady : Passes instanceId (fun _ φ => φ = .ended) (fun φ => φ = .ended)
    (publishReady instanceId) .starting := by
  refine Follows.bind (passes_issue (fun running => ?_) ⟨_, .barred, rfl⟩)
  cases running with
  | true => exact ⟨_, .busy, rfl⟩
  | false =>
    refine ⟨_, .entered, Follows.ensure ?_⟩
    refine (passes_poll.mono fun _ φ done => passes_leave (.inr done)).mono_throws fun _ φ thrown => ?_
    exact passes_leave (.inl thrown)

end Follows

def Call.instanceId : Call → String
  | .publishReady instanceId => instanceId

def route : Route statements Call Phase where
  first _ := .starting
  moves call := Moves call.instanceId
  last φ := φ = .ended

theorem route_guides (i : Nat) (call : Call) : route.Guides call (program i call) (route.first call) := by
  cases call with
  | publishReady instanceId => exact passes_publishReady

def pending : Program Unit → Option Stmt
  | .call stmt _ => some stmt
  | _ => none

-- The row that the program is publishing: what it does next, when it has read the clock, is to read
-- the row, to send it, to enter the catch clause or to end the attempt.
def publishing : Program Unit → Option Uuid
  | .call (.now _) next => publishing (next (some (0 : Nat)))
  | .call (.findUniqueOrThrow id) _ => some id
  | .call (.rawSend message) _ => some message.eventId
  | .call (.caught id) _ => some id
  | .call (.update id _) _ => some id
  | _ => none

def Phase.Keyed (φ : Phase) : Prop :=
  ∀ id rest record, φ = .publishing id rest (.sending record) → record.id = id

section Publishing

variable {call : Call} {id : Uuid} {p : Program Unit} {φ : Phase}

theorem moves_of_pending (guides : route.Guides call p φ)
    {stmt : Stmt} (next : pending p = some stmt) : ∃ φ', Moves call.instanceId φ stmt none φ' := by
  cases p with
  | call other rest =>
    cases next
    obtain ⟨φ', moves, -⟩ := guides none
    exact ⟨φ', moves⟩
  | _ => cases next

theorem publishing_of_phase {rest : List Uuid} {attempt : Attempt}
    (guides : route.Guides call p (.publishing id rest attempt))
    (keyed : (Phase.publishing id rest attempt).Keyed) : publishing p = some id := by
  induction p generalizing attempt with
  | done value => cases guides
  | throw error => cases guides
  | start next => exact guides.elim
  | commit next => exact guides.elim
  | call stmt next ih =>
    obtain ⟨φ', moves, -⟩ := guides none
    cases moves with
    | aborted _ _ search => cases search
    | unread => simp [publishing]
    | unsent _ _ record => simp [publishing, message, keyed id rest record rfl]
    | undated _ _ record =>
      obtain ⟨_, moves', follows⟩ := guides (some (0 : Nat))
      cases moves'
      exact ih _ follows fun _ _ _ same => by cases same
    | refused => simp [publishing]
    | uncaught => simp [publishing]
    | unfailed _ _ record lastError =>
      obtain ⟨_, moves', follows⟩ := guides (some (0 : Nat))
      cases moves'
      exact ih _ follows fun _ _ _ same => by cases same
    | abandoned => simp [publishing]
    | left _ _ last => simp at last

theorem phase_of_publishing (guides : route.Guides call p φ) (keyed : φ.Keyed)
    (within : publishing p = some id) : ∃ rest attempt, φ = .publishing id rest attempt := by
  induction p generalizing φ with
  | done value => cases within
  | throw error => cases within
  | start next => cases within
  | commit next => cases within
  | call stmt next ih =>
    cases stmt with
    | now instanceId =>
      obtain ⟨φ', moves, follows⟩ := guides (some (0 : Nat))
      have later (kept : φ'.Keyed) : ∃ rest attempt, φ' = .publishing id rest attempt :=
        ih _ follows kept within
      cases moves with
      | marks other rest record =>
        obtain ⟨rest', attempt, same⟩ := later fun _ _ _ same => by cases same
        cases same
        exact ⟨rest, _, rfl⟩
      | closes other rest record lastError =>
        obtain ⟨rest', attempt, same⟩ := later fun _ _ _ same => by cases same
        cases same
        exact ⟨rest, _, rfl⟩
      | _ =>
        obtain ⟨rest, attempt, same⟩ := later fun _ _ _ same => by cases same
        cases same
    | findUniqueOrThrow other =>
      obtain rfl : other = id := Option.some.inj within
      obtain ⟨φ', moves, -⟩ := guides none
      cases moves with
      | unread _ rest => exact ⟨rest, _, rfl⟩
      | aborted _ _ search => cases Phase.searches_of_search search
    | rawSend sent =>
      obtain ⟨φ', moves, -⟩ := guides none
      cases moves with
      | unsent other rest record =>
        have mine : record.id = id := Option.some.inj within
        obtain rfl : other = id := (keyed other rest record rfl).symm.trans mine
        exact ⟨rest, _, rfl⟩
      | aborted _ _ search => cases Phase.searches_of_search search
    | caught other =>
      obtain rfl : other = id := Option.some.inj within
      obtain ⟨φ', moves, -⟩ := guides none
      cases moves with
      | uncaught _ rest record => exact ⟨rest, _, rfl⟩
      | aborted _ _ search => cases Phase.searches_of_search search
    | update other data =>
      obtain rfl : other = id := Option.some.inj within
      obtain ⟨φ', moves, -⟩ := guides none
      cases moves with
      | refused _ rest record publishedAt => exact ⟨rest, _, rfl⟩
      | abandoned _ rest => exact ⟨rest, _, rfl⟩
      | aborted _ _ search => cases Phase.searches_of_search search
    | _ => cases within

end Publishing

end AnalyticsOutboxPublisher

end TicketService
