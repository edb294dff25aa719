import TicketService.Refinement.Accepts

set_option autoImplicit false

namespace TicketService

open Interleaving Relational ScanService TicketEventRoleResolver TicketWriteService VerifyService

variable {platform : Platform} {w w' : World} {id : Uuid} {row : Ticket} {state target : PresenceState}

section Manual

variable {tx tx' : Option Tx} {context : RequestContext} {actorId : Uuid} {number : Nat}

def FirstCheckIn (row : Ticket) (state : PresenceState) (checkedInAt : Option Time) (begun ended : Time) :
    Prop :=
  if state = .inside ∧ row.checkedInAt = none then
    ∃ now, checkedInAt = some now ∧ begun ≤ now ∧ now ≤ ended
  else checkedInAt = none

theorem FirstCheckIn.wider {at_ : Option Time} {begun ended begun' ended' : Time}
    (checked : FirstCheckIn row state at_ begun ended) (earlier : begun' ≤ begun)
    (later : ended ≤ ended') : FirstCheckIn row state at_ begun' ended' := by
  unfold FirstCheckIn at checked ⊢
  split at checked
  next first =>
    obtain ⟨now, same, after, before⟩ := checked
    rw [if_pos first]
    exact ⟨now, same, Nat.le_trans earlier after, Nat.le_trans before later⟩
  next again =>
    rw [if_neg again]
    exact checked

theorem firstCheckIn_returns {at_ : Option Time}
    (run : Executes platform (firstCheckIn row state) tx w (.ok at_) tx' w') :
    tx' = tx ∧ Ticked w w' ∧ FirstCheckIn row state at_ w.clock w'.clock := by
  unfold firstCheckIn at run
  unfold FirstCheckIn
  split at run
  next first =>
    obtain ⟨w₂, w₃, then₂, then₃, run⟩ := issue_returns (fun _ => rfl) run
    obtain ⟨rfl, rfl, last⟩ := done_returns run
    rw [if_pos first]
    exact ⟨rfl, then₂.trans (then₃.trans last), w₂.clock, rfl, then₂.clock, (then₃.trans last).clock⟩
  next again =>
    obtain ⟨rfl, rfl, last⟩ := done_returns run
    rw [if_neg again]
    exact ⟨rfl, last, rfl⟩

theorem presenceTransaction_returns {uuid : Nat → Uuid} {result : Ticket}
    (present : w.ticket id = some row)
    (run : Executes platform (presenceTransaction platform uuid context id state actorId row)
      (some ⟨[]⟩) w (.ok result) tx' w') :
    ∃ at_ writtenAt log fact, Ticked w w' ∧ FirstCheckIn row state at_ w.clock w'.clock ∧
      tx' = some ⟨[.putTicket id (presenceState state at_ row.toTicketState) writtenAt,
        .insertScanLog log, .insertOutbox fact]⟩ := by
  obtain ⟨at_, tx₁, w₁, checked, run⟩ := bind_returns run
  obtain ⟨rfl, first, checked⟩ := firstCheckIn_returns checked
  obtain ⟨written, tx₂, w₂, w₃, w₄, then₂, updated, then₄, run⟩ := stmt_returns run
  have there : World.ticket (w₂.view (some ⟨[]⟩)) id = some row := (first.trans then₂).ticket id ▸ present
  simp only [exec, there, Option.bind_some] at updated
  cases updated
  obtain ⟨log, tx₅, w₅, w₆, w₇, then₅, logged, then₇, run⟩ := stmt_returns run
  simp only [exec] at logged
  split at logged
  next =>
    cases logged
    obtain ⟨⟨⟩, tx₈, w₈, enqueued, done⟩ := bind_returns run
    obtain ⟨then₈, fact, -, rfl⟩ := enqueue_returns enqueued
    obtain ⟨-, rfl, last⟩ := done_returns done
    have rest := then₂.trans (then₄.trans (then₅.trans (then₇.trans (then₈.trans last))))
    exact ⟨at_, w₂.clock, _, fact, first.trans rest, checked.wider (Nat.le_refl _) rest.clock, rfl⟩
  next => cases logged

theorem updatePresence_returns {reply : Reply}
    (run : Executes platform (program platform number (.updatePresence context id target actorId)) none w
      (.ok reply) tx' w') (present : w.ticket id = some row) (elsewhere : row.currentState ≠ target) :
    row.revoked = false ∧ ∃ at_ writtenAt, FirstCheckIn row target at_ w.clock w'.clock ∧
      w'.ticket id = some (row.updated (presenceState target at_) writtenAt) := by
  obtain ⟨result, tx₁, w₁, run, done⟩ := bind_returns run
  obtain ⟨rfl, rfl, last⟩ := done_returns done
  obtain ⟨w₂, w₃, then₂, then₃, run⟩ := issue_returns (fun _ => rfl) run
  have there : w₂.ticket id = some row := (then₂.ticket id).trans present
  have before := then₂.trans then₃
  split at run
  next absent =>
    rw [World.clientView, there] at absent
    cases absent
  next ticket found =>
    rw [World.clientView, there] at found
    cases found
    obtain ⟨permissions, tx₄, w₄, permitted, run⟩ := bind_returns run
    obtain ⟨rfl, then₄, -⟩ := getPermissionsForUser_cases permitted
    have before := before.trans then₄
    split at run
    · exact (throw_returns run).elim
    split at run
    · exact (throw_returns run).elim
    next valid =>
      obtain ⟨rfl, t, w₅, w₆, w₇, then₅, body, then₆, after⟩ := transaction_returns run
      have before := before.trans then₅
      obtain ⟨at_, writtenAt, log, fact, then₇, checked, written⟩ :=
        presenceTransaction_returns ((before.ticket id).trans present) body
      cases written
      have later := Nat.le_trans then₆.clock (Nat.le_trans after.clock last.clock)
      refine ⟨Bool.eq_false_iff.mpr valid, at_, writtenAt, checked.wider before.clock later, ?_⟩
      have stored := (after.trans last).store
      have there : w₇.store.ticket id = some row :=
        ((before.trans (then₇.trans then₆)).ticket id).trans present
      have written := Store.ticket_putTicket w₇.store id id
        (presenceState target at_ row.toTicketState) writtenAt
      rw [if_pos rfl, there] at written
      unfold World.ticket
      rw [stored]
      exact written

end Manual

theorem scan_accepted_returns {number : Nat} {context : RequestContext} {input : SecurityScanInput}
    {reply : ScanPayloadDTO} {tx : Option Tx}
    (run : Executes platform (program platform number (.scan context input)) none w (.ok (.scan reply)) tx
      w') (present : w.ticket reply.ticket.id = some row) (ok : reply.verdict = .ok) :
    row.revoked = false ∧ row.currentState ≠ intendedState input.direction ∧
      ∃ (payload : QrPayload) (at_ : Option Time) (rotatedAt : Time), some payload.dn = row.nextNonce ∧
        CheckedInBetween row (intendedState input.direction) at_ w.clock w'.clock ∧
        w'.ticket reply.ticket.id =
          some (row.updated (acceptedState payload (intendedState input.direction) at_) rotatedAt) := by
  obtain ⟨payload, at_, rotatedAt, updatedAt, -, checked, elsewhere, between, -, stored⟩ :=
    scan_accepted run present ok
  exact ⟨checked.valid, elsewhere, payload, at_, rotatedAt, checked.expected, between, stored⟩

section Sequences

-- How the presence of a ticket is changed.
inductive Way where
  | scan
  | manual
deriving DecidableEq, Repr

def Way.checkIn : Way → PresenceState → Time → Option Time → Option Time
  | .scan, .inside, t, _ => some t
  | .manual, .inside, t, checkedInAt => checkedInAt.or (some t)
  | _, .outside, _, checkedInAt => checkedInAt

inductive Performs (platform : Platform) (id : Uuid) (target : PresenceState) (t : Time) (w : World) :
    Way → World → Prop where
  | scan {number : Nat} {context : RequestContext} {input : SecurityScanInput} {reply : ScanPayloadDTO}
    {tx : Option Tx} {w' : World} :
    Executes platform (program platform number (.scan context input)) none w (.ok (.scan reply)) tx w' →
    reply.ticket.id = id → reply.verdict = .ok → intendedState input.direction = target →
    w.clock = t → w'.clock = t → Performs platform id target t w .scan w'
  | manual {number : Nat} {context : RequestContext} {actorId : Uuid} {reply : Reply} {tx : Option Tx}
    {row : Ticket} {w' : World} :
    Executes platform (program platform number (.updatePresence context id target actorId)) none w
      (.ok reply) tx w' →
    w.ticket id = some row → row.currentState ≠ target → w.clock = t → w'.clock = t →
    Performs platform id target t w .manual w'

structure Meanwhile (id : Uuid) (w w' : World) : Prop where
  clock : w.clock ≤ w'.clock
  ticket : w'.ticket id = w.ticket id

inductive Performed (platform : Platform) (id : Uuid) :
    World → List (Way × PresenceState × Time) → World → Prop where
  | none (w : World) : Performed platform id w [] w
  | change {w w₁ w₂ w' : World} {way : Way} {target : PresenceState} {t : Time}
    {rest : List (Way × PresenceState × Time)} :
    Meanwhile id w w₁ → Performs platform id target t w₁ way w₂ → Performed platform id w₂ rest w' →
    Performed platform id w ((way, target, t) :: rest) w'

theorem Performs.written {way : Way} {t : Time} (performs : Performs platform id target t w way w')
    (present : w.ticket id = some row) :
    ∃ row', w'.ticket id = some row' ∧ row'.currentState = target ∧
      row'.checkedInAt = way.checkIn target t row.checkedInAt := by
  cases performs with
  | @scan number context input reply tx _ run own ok intended begun ended =>
    subst own intended
    obtain ⟨-, -, payload, at_, rotatedAt, -, checked, written⟩ := scan_accepted_returns run present ok
    refine ⟨_, written, rfl, ?_⟩
    cases direction : intendedState input.direction with
    | outside =>
      rw [direction] at checked
      exact checked
    | inside =>
      rw [direction] at checked
      obtain ⟨now, same, after, before⟩ := checked
      rw [begun] at after
      rw [ended] at before
      obtain rfl : now = t := Nat.le_antisymm before after
      exact same
  | manual run there elsewhere begun ended =>
    rw [present] at there
    cases there
    obtain ⟨-, at_, writtenAt, checked, written⟩ := updatePresence_returns run present elsewhere
    refine ⟨_, written, rfl, ?_⟩
    change at_.or row.checkedInAt = _
    unfold FirstCheckIn at checked
    split at checked
    next first =>
      obtain ⟨now, rfl, after, before⟩ := checked
      rw [begun] at after
      rw [ended] at before
      obtain rfl : now = t := Nat.le_antisymm before after
      simp [Way.checkIn, first.1, first.2]
    next again =>
      subst checked
      cases target with
      | outside => rfl
      | inside =>
        cases recorded : row.checkedInAt with
        | none => exact absurd ⟨rfl, recorded⟩ again
        | some first => rfl

def checkIns (changes : List (Way × PresenceState × Time)) (checkedInAt : Option Time) : Option Time :=
  changes.foldl (fun checkedInAt change => change.1.checkIn change.2.1 change.2.2 checkedInAt) checkedInAt

def lastState (changes : List (PresenceState × Time)) (state : PresenceState) : PresenceState :=
  changes.foldl (fun _ change => change.1) state

theorem Performed.written {changes : List (Way × PresenceState × Time)}
    (performed : Performed platform id w changes w') (present : w.ticket id = some row) :
    ∃ row', w'.ticket id = some row' ∧
      row'.currentState = lastState (changes.map Prod.snd) row.currentState ∧
      row'.checkedInAt = checkIns changes row.checkedInAt := by
  induction performed generalizing row with
  | none => exact ⟨row, present, rfl, rfl⟩
  | change meanwhile performs _ ih =>
    obtain ⟨row₂, there, state, checkedIn⟩ := performs.written (meanwhile.ticket.trans present)
    obtain ⟨row', last, state', checkedIn'⟩ := ih there
    rw [state] at state'
    rw [checkedIn] at checkedIn'
    exact ⟨row', last, state', checkedIn'⟩

end Sequences

section Settled

def firstEntry (checkedInAt : Option Time) (changes : List (PresenceState × Time)) : Option Time :=
  checkedInAt.or ((changes.find? fun change => change.1 = .inside).map Prod.snd)

/-- The guest never enters at another time than that of the first check-in. -/
def Settled (checkedInAt : Option Time) (changes : List (PresenceState × Time)) : Prop :=
  ∀ change ∈ changes, change.1 = .inside → some change.2 = firstEntry checkedInAt changes

instance (checkedInAt : Option Time) (changes : List (PresenceState × Time)) :
    Decidable (Settled checkedInAt changes) :=
  inferInstanceAs (Decidable (∀ change ∈ changes, _ → _))

theorem firstEntry_outside (checkedInAt : Option Time) (t : Time) (rest : List (PresenceState × Time)) :
    firstEntry checkedInAt ((.outside, t) :: rest) = firstEntry checkedInAt rest := by
  simp [firstEntry]

theorem firstEntry_inside (checkedInAt : Option Time) (t : Time) (rest : List (PresenceState × Time)) :
    firstEntry checkedInAt ((.inside, t) :: rest) = checkedInAt.or (some t) := by
  simp [firstEntry]

theorem firstEntry_some (first : Time) (rest : List (PresenceState × Time)) :
    firstEntry (some first) rest = some first := by
  simp [firstEntry]

theorem checkIns_settled {changes : List (Way × PresenceState × Time)} {checkedInAt : Option Time}
    (settled : Settled checkedInAt (changes.map Prod.snd)) :
    checkIns changes checkedInAt = firstEntry checkedInAt (changes.map Prod.snd) := by
  induction changes generalizing checkedInAt with
  | nil => cases checkedInAt <;> rfl
  | cons change rest ih =>
    obtain ⟨way, target, t⟩ := change
    have later : ∀ change ∈ rest.map Prod.snd, change.1 = .inside →
        some change.2 = firstEntry checkedInAt ((target, t) :: rest.map Prod.snd) :=
      fun change member => settled change (List.mem_cons_of_mem _ member)
    cases target with
    | outside =>
      rw [firstEntry_outside] at later
      have kept : checkIns ((way, .outside, t) :: rest) checkedInAt = checkIns rest checkedInAt := by
        cases way <;> rfl
      rw [kept, List.map_cons, firstEntry_outside]
      exact ih later
    | inside =>
      rw [firstEntry_inside] at later
      have own : some t = checkedInAt.or (some t) := by
        have here := settled (.inside, t) (List.mem_cons_self ..) rfl
        rwa [List.map_cons, firstEntry_inside] at here
      have kept : checkIns ((way, .inside, t) :: rest) checkedInAt = checkIns rest (some t) := by
        cases way with
        | scan => rfl
        | manual => exact congrArg (checkIns rest) own.symm
      rw [← own] at later
      rw [kept, List.map_cons, firstEntry_inside, ← own, ih, firstEntry_some]
      rw [Settled, firstEntry_some]
      exact later

theorem checkIns_manual (changes : List (PresenceState × Time)) (checkedInAt : Option Time) :
    checkIns (changes.map fun change => (.manual, change)) checkedInAt = firstEntry checkedInAt changes := by
  induction changes generalizing checkedInAt with
  | nil => cases checkedInAt <;> rfl
  | cons change rest ih =>
    obtain ⟨target, t⟩ := change
    cases target with
    | outside =>
      rw [firstEntry_outside]
      exact ih checkedInAt
    | inside =>
      rw [firstEntry_inside]
      refine (ih (checkedInAt.or (some t))).trans ?_
      cases checkedInAt <;> exact firstEntry_some _ _

def scansAt (t : Time) (changes : List (PresenceState × Time)) : List (Way × PresenceState × Time) :=
  changes.map fun change => (if change = (.inside, t) then .scan else .manual, change)

theorem checkIns_scansAt_some (t : Time) (changes : List (PresenceState × Time)) :
    checkIns (scansAt t changes) (some t) = some t := by
  induction changes with
  | nil => rfl
  | cons change rest ih =>
    have kept : Way.checkIn (if change = (.inside, t) then .scan else .manual) change.1 change.2 (some t) =
        some t := by
      obtain ⟨target, t'⟩ := change
      split
      next same =>
        cases same
        rfl
      next => cases target <;> rfl
    change checkIns (scansAt t rest) (Way.checkIn _ change.1 change.2 (some t)) = some t
    rw [kept]
    exact ih

theorem checkIns_scansAt {t : Time} {changes : List (PresenceState × Time)}
    (member : (.inside, t) ∈ changes) (checkedInAt : Option Time) :
    checkIns (scansAt t changes) checkedInAt = some t := by
  induction changes generalizing checkedInAt with
  | nil => cases member
  | cons change rest ih =>
    by_cases same : change = (.inside, t)
    · subst same
      have scanned : checkIns (scansAt t ((.inside, t) :: rest)) checkedInAt =
          checkIns (scansAt t rest) (some t) := by
        simp [scansAt, checkIns, Way.checkIn]
      rw [scanned]
      exact checkIns_scansAt_some t rest
    · have later : (.inside, t) ∈ rest := (List.mem_cons.mp member).resolve_left (Ne.symm same)
      exact ih later _

end Settled

section Possible

structure Serves (platform : Platform) : Prop where
  tenant : ∃ tenantId, (AnalyticsOutboxService.tenant platform
    { tenantId := some tenantId, principalTenantId := none, principalActorId := none,
      correlationId := none }).isSome
  scanner : ∃ permissions, .scanTickets ∈ platform.uniqueEventPermissions permissions
  scanned : ∀ ticket input occurredAt,
    platform.acceptsFact (AnalyticsOutboxService.payload (scanFact ticket .ok input) occurredAt)
  present : ∀ ticket state occurredAt, platform.acceptsFact
    (AnalyticsOutboxService.payload (presenceFact ticket.id ticket state) occurredAt)

variable {context : RequestContext} {actorId : Uuid} {number : Nat}

theorem executes_presenceTransaction {uuid : Nat → Uuid} (present : w.ticket row.id = some row)
    (tenant : (AnalyticsOutboxService.tenant platform context).isSome)
    (accepts : ∀ occurredAt, platform.acceptsFact
      (AnalyticsOutboxService.payload (presenceFact row.id row target) occurredAt)) :
    ∃ result t, Executes platform (presenceTransaction platform uuid context row.id target actorId row)
      (some ⟨[]⟩) w (.ok result) (some t) w := by
  have checked : ∃ at_, Executes platform (firstCheckIn row target) (some ⟨[]⟩) w (.ok at_) (some ⟨[]⟩) w := by
    unfold firstCheckIn
    split
    · exact ⟨some w.clock, .bind (executes_issue rfl) (.done _ _ _)⟩
    · exact ⟨none, .done _ _ _⟩
  obtain ⟨at_, checked⟩ := checked
  let written : Write := .putTicket row.id (presenceState target at_ row.toTicketState) w.clock
  have updated : exec platform (.ticketUpdate .tx row.id (presenceState target at_)) w (some ⟨[]⟩) =
      some (row.updated (presenceState target at_) w.clock, w, some ⟨[written]⟩) := by
    have there : World.ticket (w.view (some ⟨[]⟩)) row.id = some row := present
    simp only [exec, there, Option.bind_some]
    rfl
  let log := staffLogRow (uuid 0) row.id row actorId target .ok (some "MANUAL") none w.clock
  have logged : exec platform (.scanLogCreate
      (staffLogRow (uuid 0) row.id row actorId target .ok (some "MANUAL") none)) w (some ⟨[written]⟩) =
      some (log, w, some ⟨[written, .insertScanLog log]⟩) := by
    have viewed := Store.ticket_putTicket w.store row.id row.id
      (presenceState target at_ row.toTicketState) w.clock
    have stands : w.store.ticket row.id = some row := present
    rw [if_pos rfl, stands] at viewed
    have there : (World.ticket (w.view (some ⟨[written]⟩)) log.ticketId).isSome = true :=
      Option.isSome_iff_exists.mpr ⟨_, viewed⟩
    simp only [exec, log] at there ⊢
    rw [if_pos there]
    rfl
  obtain ⟨t, enqueued⟩ := @executes_enqueue platform context ⟨[written, .insertScanLog log]⟩ (uuid 1)
    (presenceTopic target) _ tenant accepts w
  exact ⟨_, t, .bind checked (.bind (.perform (free_plain rfl w _) updated)
    (.bind (.perform (free_plain rfl w _) logged) (.bind enqueued (.done _ _ _))))⟩

theorem executes_updatePresence (present : w.ticket row.id = some row) (valid : row.revoked = false)
    (elsewhere : row.currentState ≠ target)
    (scanner : .scanTickets ∈ permissionsOf platform w actorId row.eventId)
    (tenant : (AnalyticsOutboxService.tenant platform context).isSome)
    (accepts : ∀ occurredAt, platform.acceptsFact
      (AnalyticsOutboxService.payload (presenceFact row.id row target) occurredAt)) :
    ∃ reply w', Executes platform (program platform number (.updatePresence context row.id target actorId))
      none w (.ok reply) none w' ∧ w'.clock = w.clock := by
  have found : Executes platform (issue (.ticketFindUnique .prisma row.id)) none w
      (.ok (w.ticket row.id)) none w := .perform (free_plain rfl w none) rfl
  rw [present] at found
  have granted : Answers platform (getPermissionsForUser platform actorId row.eventId) w
      (.ok (permissionsOf platform w actorId row.eventId)) := answers_getPermissionsForUser actorId row.eventId
  obtain ⟨tx, permissions⟩ := granted.may w none rfl
  obtain ⟨rfl, -, -⟩ := getPermissionsForUser_cases permissions
  obtain ⟨result, t, body⟩ := @executes_presenceTransaction platform w row target context actorId
    (Uuid.mk number) present tenant accepts
  refine ⟨.ticket result, { w with store := t.apply w.store }, ?_, rfl⟩
  refine .bind (.bind found (.bind permissions ?_)) (.done _ _ _)
  rw [if_neg (not_not.mpr scanner), if_neg (by simp [valid]), if_neg elsewhere]
  exact .start (.bind body (.commit (.done _ _ _)))

structure Scannable (row : Ticket) : Prop where
  valid : row.revoked = false
  key : row.devicePublicKey = some "key"
  device : row.deviceId = some "phone"
  next : ∃ n, row.nextNonce = some n ∧ row.lastNonce.any (n ≤ ·) = false

def gate (target : PresenceState) : GateDirection :=
  match target with
  | .inside => .entry
  | .outside => .exit

def presented (target : PresenceState) : SecurityScanInput where
  token := "token"
  signature := "signature"
  deviceId := "phone"
  direction := gate target
  gate := none
  actorId := ⟨0, 0⟩

def staged (permissions : List String) (row : Ticket) (n : Nat) (t : Time) : World where
  store :=
    { Store.empty with
      tickets := Table.empty.insert row
      eventAccess := Table.empty.insert
        { eventId := row.eventId, userId := ⟨0, 0⟩, permissions, roles := none, occurredAt := none
          updatedAt := none } }
  clock := t
  minted :=
    [{ token := "token"
       payload :=
        { tid := row.id, eid := row.eventId, gid := row.guestProfileId, sid := row.seatId, dn := n, ts := t
          dh := none, kid := none }
       iat := t / 1000 }]
  signatures :=
    [{ publicKey := "key", message := signedMessage "token" "phone", signature := "signature" }]
  sent := []

theorem staged_ticket (permissions : List String) (row : Ticket) (n : Nat) (t : Time) :
    (staged permissions row n t).ticket row.id = some row := by
  simp [staged, World.ticket, Table.get?_insert]

theorem staged_permissions (permissions : List String) (row : Ticket) (n : Nat) (t : Time) :
    permissionsOf platform (staged permissions row n t) ⟨0, 0⟩ row.eventId =
      platform.uniqueEventPermissions permissions := by
  simp [staged, permissionsOf, World.access, Table.get?_insert]

theorem performs_change (serves : Serves platform) (scannable : Scannable row)
    (elsewhere : row.currentState ≠ target) (way : Way) (t : Time) :
    ∃ w w', w.clock = t ∧ w.ticket row.id = some row ∧ Performs platform row.id target t w way w' ∧
      ∃ row', w'.ticket row.id = some row' ∧ row'.id = row.id ∧ Scannable row' := by
  obtain ⟨permissions, scanner⟩ := serves.scanner
  obtain ⟨tenantId, tenant⟩ := serves.tenant
  obtain ⟨valid, key, device, n, next, recent⟩ := scannable
  let w := staged permissions row n t
  have there : w.ticket row.id = some row := staged_ticket permissions row n t
  rw [← @staged_permissions platform permissions row n t] at scanner
  cases way with
  | manual =>
    obtain ⟨reply, w', run, clock⟩ := @executes_updatePresence platform w row target _ ⟨0, 0⟩ 0 there valid
      elsewhere scanner tenant (serves.present row target)
    obtain ⟨-, at_, writtenAt, -, written⟩ := updatePresence_returns run there elsewhere
    exact ⟨w, w', rfl, there, .manual run there elsewhere rfl clock, _, written, rfl, valid, key, device, n,
      next, recent⟩
  | scan =>
    have intended : intendedState (presented target).direction = target := by cases target <;> rfl
    let payload : QrPayload :=
      { tid := row.id, eid := row.eventId, gid := row.guestProfileId, sid := row.seatId, dn := n, ts := t
        dh := none, kid := none }
    have verified : w.verified (presented target).token = some payload := by
      simp [w, staged, World.verified, World.epoch, presented, payload]
    have checked : Checked w (presented target) payload row := by
      refine ⟨valid, ⟨"key", ?_, ?_⟩, device, recent, next.symm⟩
      · rw [key]
        rfl
      · exact List.mem_singleton_self _
    have running : Running w row.eventId (presented target).direction w.clock := by
      intro _ endsAt ends
      cases ends
    have entitled : Entitled platform _ (presented target) w row :=
      ⟨scanner, tenant, serves.scanned row (presented target), serves.present row _⟩
    obtain ⟨reply, w', run, ok, own, clock⟩ := @executes_scan platform w (presented target) payload row _
      (by rw [intended]; exact elsewhere) running (Nat.le_of_eq (Nat.max_zero _)) rfl 0
      (by simp [presented]) verified there checked entitled
    obtain ⟨-, -, payload', at_, rotatedAt, same, -, written⟩ :=
      scan_accepted_returns run (own ▸ there) ok
    rw [own] at written
    rw [next] at same
    refine ⟨w, w', rfl, there, .scan run own ok intended rfl clock, _, written, rfl, valid, key, device,
      n + 1, ?_, ?_⟩
    · exact congrArg (fun dn => some (dn + 1)) (Option.some.inj same)
    · simp [Ticket.updated, acceptedState, Option.some.inj same]

theorem Performs.clock {way : Way} {t : Time} (performs : Performs platform id target t w way w') :
    w'.clock = t := by
  cases performs with
  | scan _ _ _ _ _ ended => exact ended
  | manual _ _ _ _ ended => exact ended

theorem performed_possible (serves : Serves platform) {changes : List (Way × PresenceState × Time)}
    (scannable : Scannable row) (present : w.ticket row.id = some row)
    (alternating : (row.currentState :: changes.map fun change => change.2.1).IsChain (· ≠ ·))
    (ordered : (w.clock :: changes.map fun change => change.2.2).IsChain (· ≤ ·)) :
    ∃ w', Performed platform row.id w changes w' := by
  induction changes generalizing row w with
  | nil => exact ⟨w, .none w⟩
  | cons change rest ih =>
    obtain ⟨way, target, t⟩ := change
    rw [List.map_cons, List.isChain_cons_cons] at alternating ordered
    obtain ⟨w₁, w₂, clock, there, performs, row₂, there₂, same, scannable₂⟩ :=
      performs_change serves scannable alternating.1 way t
    obtain ⟨row', there', state, -⟩ := performs.written there
    rw [there₂] at there'
    cases there'
    have meanwhile : Meanwhile row.id w w₁ := ⟨clock ▸ ordered.1, there.trans present.symm⟩
    have alternating₂ := alternating.2
    have ordered₂ := ordered.2
    rw [← state] at alternating₂
    rw [← performs.clock] at ordered₂
    obtain ⟨w', performed⟩ := ih scannable₂ (same ▸ there₂) alternating₂ ordered₂
    rw [same] at performed
    exact ⟨w', .change meanwhile performs performed⟩

end Possible

def World.presence (w : World) (id : Uuid) : Option (PresenceState × Option Time) :=
  (w.ticket id).map fun row => (row.currentState, row.checkedInAt)

/-- Which of the two ways the changes of the presence of a ticket went does not show in the end. -/
def Interchangeable (platform : Platform) (state : PresenceState) (checkedInAt : Option Time)
    (changes : List (PresenceState × Time)) : Prop :=
  ∀ id row w ways ways' w₁ w₂, w.ticket id = some row → row.revoked = false → row.currentState = state →
    row.checkedInAt = checkedInAt → ways.map Prod.snd = changes → ways'.map Prod.snd = changes →
    Performed platform id w ways w₁ → Performed platform id w ways' w₂ → w₁.presence id = w₂.presence id

theorem Performed.presence {changes : List (Way × PresenceState × Time)}
    (performed : Performed platform id w changes w') (present : w.ticket id = some row) :
    w'.presence id =
      some (lastState (changes.map Prod.snd) row.currentState, checkIns changes row.checkedInAt) := by
  obtain ⟨row', there, last, checkedIn⟩ := performed.written present
  simp [World.presence, there, last, checkedIn]

variable {checkedInAt : Option Time} {changes : List (PresenceState × Time)}

theorem interchangeable_of_settled (settled : Settled checkedInAt changes) :
    Interchangeable platform state checkedInAt changes := by
  intro id row w ways ways' w₁ w₂ present valid current recorded same same' performed performed'
  subst current recorded same
  rw [performed.presence present, performed'.presence present, checkIns_settled settled]
  rw [← same'] at settled
  rw [checkIns_settled settled, same']

def scannable (state : PresenceState) (checkedInAt : Option Time) : Ticket :=
  { newTicket ⟨0, 0⟩ ⟨⟨0, 1⟩, ⟨0, 2⟩, ⟨0, 3⟩, ⟨0, 4⟩, ⟨0, 5⟩⟩ 0 with
    devicePublicKey := some "key"
    deviceId := some "phone"
    currentState := state
    checkedInAt := checkedInAt }

theorem settled_of_interchangeable (serves : Serves platform)
    (alternating : (state :: changes.map Prod.fst).IsChain (· ≠ ·))
    (ordered : (changes.map Prod.snd).IsChain (· ≤ ·))
    (agree : Interchangeable platform state checkedInAt changes) : Settled checkedInAt changes := by
  rintro ⟨target, t⟩ member rfl
  let row := scannable state checkedInAt
  let w : World := { World.empty with store.tickets := Table.empty.insert row }
  have present : w.ticket row.id = some row := by simp [w, World.ticket, Table.get?_insert]
  have ready : Scannable row := ⟨rfl, rfl, rfl, 1, rfl, rfl⟩
  have begun : (w.clock :: changes.map Prod.snd).IsChain (· ≤ ·) := by
    cases changes with
    | nil => cases member
    | cons change rest => exact List.isChain_cons_cons.mpr ⟨Nat.zero_le _, ordered⟩
  have possible (ways : List (Way × PresenceState × Time)) (same : ways.map Prod.snd = changes) :
      ∃ w', Performed platform row.id w ways w' := by
    subst same
    rw [List.map_map] at alternating begun
    exact performed_possible serves ready present alternating begun
  have manual : (changes.map fun change => (Way.manual, change)).map Prod.snd = changes := by
    rw [List.map_map]
    exact List.map_id _
  have scans : (scansAt t changes).map Prod.snd = changes := by
    rw [scansAt, List.map_map]
    exact List.map_id _
  obtain ⟨w₁, performed⟩ := possible _ manual
  obtain ⟨w₂, performed'⟩ := possible _ scans
  have same := agree row.id row w _ _ w₁ w₂ present rfl rfl rfl manual scans performed performed'
  rw [performed.presence present, performed'.presence present, checkIns_manual, checkIns_scansAt member]
    at same
  exact (congrArg Prod.snd (Option.some.inj same)).symm

/-- Scans and manual changes of the presence are interchangeable if and only if the guest does not
enter at another time than that of the first check-in. -/
theorem presence_ways_agree_iff (serves : Serves platform) (state : PresenceState)
    (checkedInAt : Option Time) (changes : List (PresenceState × Time))
    (alternating : (state :: changes.map Prod.fst).IsChain (· ≠ ·))
    (ordered : (changes.map Prod.snd).IsChain (· ≤ ·)) :
    Interchangeable platform state checkedInAt changes ↔ Settled checkedInAt changes :=
  ⟨settled_of_interchangeable serves alternating ordered, interchangeable_of_settled⟩

namespace Sample

theorem deployment_serves : Serves deployment where
  tenant := ⟨"0190a5d0-7d0a-7cc3-9d0e-3f1f6a1b2c3d", by decide⟩
  scanner := ⟨["ScanTickets"], by decide⟩
  scanned _ _ _ := rfl
  present _ _ _ := rfl

def reentry : List (PresenceState × Time) := [(.inside, 1000), (.outside, 2000), (.inside, 3000)]

end Sample

theorem presence_ways_agree_iff_reentry :
    Interchangeable Sample.deployment .outside none Sample.reentry ↔ Settled none Sample.reentry :=
  presence_ways_agree_iff Sample.deployment_serves .outside none Sample.reentry (by decide) (by decide)

theorem not_interchangeable_reentry :
    ¬Interchangeable Sample.deployment .outside none Sample.reentry := by
  intro agree
  have settled := settled_of_interchangeable Sample.deployment_serves (by decide) (by decide) agree
  exact absurd settled (by decide)

end TicketService
