import TicketService.Properties.Nonces
import TicketService.Refinement.Trail

set_option autoImplicit false

namespace TicketService

open Interleaving Relational

variable {platform : Platform} {g g' : Global} {i : Nat} {t : Uuid} {w : World}
  {state : PresenceState}

-- The presence that a scan or an override is to bring about.
def Call.presence : Call → Option PresenceState
  | .scan _ input => some (intendedState input.direction)
  | .updatePresence _ _ state _ => some state
  | _ => none

def Write.updates (t : Uuid) : Write → Bool
  | .putTicket id _ _ => id = t
  | _ => false

def Tx.updates (t : Uuid) (tx : Tx) : Bool :=
  tx.writes.any (Write.updates t)

def Ticket.stands (state : PresenceState) (row : Ticket) : Bool :=
  !row.revoked && row.currentState = state

-- Whether the event is the commit of a presence that the valid ticket already has.
def repeats (calls : List Call) (t : Uuid) : Event statements World Tx → Bool
  | .commit i tx w => (calls[i]?.bind Call.presence).any fun state =>
      tx.updates t && (w.ticket t).any (Ticket.stands state)
  | _ => false

def PresenceChanges (t : Uuid) (g : Global) : Prop :=
  ∀ e ∈ g.history, repeats g.calls t e = false

instance (t : Uuid) (g : Global) : Decidable (PresenceChanges t g) :=
  inferInstanceAs (Decidable (∀ e ∈ g.history, repeats g.calls t e = false))

namespace Life

-- The directions of the accepted scan logs, in commit order.
def directions (l : Life) : List PresenceState :=
  l.okLogs.map (·.direction)

def guests (l : Life) : Int :=
  (l.factsOf .ticketGuestCheckedIn).length - (l.factsOf .ticketGuestCheckedOut).length

end Life

def Alternates (t : Uuid) (g : Global) : Prop :=
  ∀ row, g.world.ticket t = some row → row.revoked = false →
    List.IsChain (· ≠ ·) (.outside :: (life g.world.store t).directions) ∧
    (life g.world.store t).guests = if row.currentState = .inside then 1 else 0

theorem isChain_concat {α : Type} {R : α → α → Prop} {a x : α} {l : List α} :
    List.IsChain R (a :: (l ++ [x])) ↔ List.IsChain R (a :: l) ∧ R (l.getLastD a) x := by
  induction l generalizing a with
  | nil => simp
  | cons b rest ih =>
    rw [List.cons_append, List.isChain_cons_cons, List.isChain_cons_cons, ih, List.getLastD_cons,
      and_assoc]

theorem count_alternating {first : PresenceState} {rest : List PresenceState}
    (chain : List.IsChain (· ≠ ·) (first :: rest)) :
    rest.count .inside + (if first = .inside then 1 else 0) =
      rest.count .outside + if rest.getLastD first = .inside then 1 else 0 := by
  induction rest generalizing first with
  | nil => simp
  | cons next rest ih =>
    obtain ⟨differs, after⟩ := List.isChain_cons_cons.mp chain
    have counted := ih after
    rw [List.getLastD_cons]
    cases first with
    | inside =>
      cases next with
      | inside => exact absurd rfl differs
      | outside =>
        simp only [List.count_cons, if_true, reduceCtorEq, if_false, beq_iff_eq] at counted ⊢
        omega
    | outside =>
      cases next with
      | outside => exact absurd rfl differs
      | inside =>
        simp only [List.count_cons, if_true, reduceCtorEq, if_false, beq_iff_eq] at counted ⊢
        omega

theorem length_okLogsTowards (l : Life) (state : PresenceState) :
    (l.okLogsTowards state).length = l.directions.count state := by
  unfold Life.okLogsTowards Life.directions List.count
  rw [List.countP_map, List.countP_eq_length_filter]
  rfl

theorem guests_eq {l : Life} {row : Ticket} (accounted : Accounted l) (present : l.row = some row)
    (chain : List.IsChain (· ≠ ·) (.outside :: l.directions)) :
    l.guests = if l.directions.getLastD .outside = .inside then 1 else 0 := by
  have presence := accounted.presence (by simp [present])
  have entered := presence .inside
  have left := presence .outside
  have counted := count_alternating chain
  rw [length_okLogsTowards] at entered left
  simp only [ScanService.presenceTopic, if_true, reduceCtorEq, if_false] at entered left counted
  unfold Life.guests
  rw [entered, left]
  by_cases last : l.directions.getLastD .outside = .inside
  · simp only [last, if_true] at counted ⊢
    omega
  · simp only [last, if_false] at counted ⊢
    omega

structure Presence (l : Life) : Prop where
  chain : ∀ row ∈ l.row, row.revoked = false → List.IsChain (· ≠ ·) (.outside :: l.directions)
  last : ∀ row ∈ l.row, row.revoked = false → l.directions.getLastD .outside = row.currentState

namespace Presence

variable {row row' : Ticket} {logs : List ScanLog} {facts facts' : List AnalyticsOutbox}

theorem same (presence : Presence ⟨some row, logs, facts⟩) (status : row'.status = row.status)
    {logs' : List ScanLog} (directions : Life.directions ⟨some row', logs', facts'⟩ =
      Life.directions ⟨some row, logs, facts⟩) : Presence ⟨some row', logs', facts'⟩ where
  chain := by
    rintro _ ⟨⟩ valid
    rw [directions]
    exact presence.chain row rfl ((congrArg Status.revoked status).symm.trans valid)
  last := by
    rintro _ ⟨⟩ valid
    rw [directions]
    have before := presence.last row rfl ((congrArg Status.revoked status).symm.trans valid)
    exact before.trans (congrArg Status.currentState status).symm

theorem changed (presence : Presence ⟨some row, logs, facts⟩) {log : ScanLog}
    (verdict : log.verdict = .ok) (status : row'.status = ⟨log.direction, row.revoked⟩)
    (differs : row.revoked = false → row.currentState ≠ log.direction) :
    Presence ⟨some row', logs ++ [log], facts'⟩ := by
  have directions : Life.directions ⟨some row', logs ++ [log], facts'⟩ =
      Life.directions ⟨some row, logs, facts⟩ ++ [log.direction] := by
    simp [Life.directions, Life.okLogs, List.filter_append, verdict]
  constructor
  · rintro _ ⟨⟩ valid
    have before : row.revoked = false := (congrArg Status.revoked status).symm.trans valid
    rw [directions]
    refine isChain_concat.mpr ⟨presence.chain row rfl before, ?_⟩
    rw [presence.last row rfl before]
    exact differs before
  · rintro _ ⟨⟩ -
    rw [directions, List.getLastD_concat]
    exact (congrArg Status.currentState status).symm

end Presence

theorem directions_concat {row row' : Option Ticket} {logs : List ScanLog} {log : ScanLog}
    {facts facts' : List AnalyticsOutbox} (other : log.verdict ≠ .ok) :
    Life.directions ⟨row', logs ++ [log], facts'⟩ = Life.directions ⟨row, logs, facts⟩ := by
  simp [Life.directions, Life.okLogs, List.filter_append, other]

theorem PresenceChanges.before (changes : PresenceChanges t g') (moved : Extends g g') :
    PresenceChanges t g := by
  intro e member
  have spared := changes e (moved.history e member)
  cases e with
  | stmt => rfl
  | rollback => rfl
  | commit i tx w =>
    cases called : g.calls[i]? with
    | none => simp [repeats, called]
    | some call => simpa [repeats, called, moved.calls i call called] using spared

theorem PresenceChanges.differs {tx : Tx} (changes : PresenceChanges t (g.commit (engine platform) i tx))
    {call : Call} (called : g.calls[i]? = some call) (presence : call.presence = some state)
    (updates : tx.updates t = true) {row : Ticket} (present : g.world.ticket t = some row)
    (valid : row.revoked = false) : row.currentState ≠ state := by
  have spared := changes _ List.mem_cons_self
  intro same
  simp [repeats, called, presence, updates, present, Ticket.stands, valid, same] at spared

theorem Commits.updates {tx : Tx} {log : ScanLog} (commits : Commits platform g i tx)
    (written : .insertScanLog log ∈ tx.writes) (own : log.ticketId = t) (verdict : log.verdict = .ok) :
    tx.updates t = true := by
  cases commits with
  | revoked | presence | reset | accepted =>
    obtain rfl : log = _ := by simpa using written
    simp only [Tx.updates, List.any_cons, Write.updates, Bool.or_eq_true, decide_eq_true_eq]
    exact .inl own
  | rejected context input result createdAt fact called refused =>
    obtain rfl : log = _ := by simpa using written
    exact absurd verdict refused
  | _ => simp at written

open ScanService TicketWriteService VerifyService in
theorem Turn.keeps_presence {before after : Life} {tx : Tx} (turn : Turn platform g t i before after)
    (commits : Commits platform g i tx) (same : life g.world.store t = before)
    (written : life (tx.apply g.world.store) t = after)
    (quiet : after.logs = before.logs → ∀ a ∈ before.row, ∀ b ∈ after.row, a.alike b)
    (changes : PresenceChanges t (g.commit (engine platform) i tx))
    (absent : before.row = none → before.logs = []) (presence : Presence before) : Presence after := by
  have present (row : Ticket) (here : before.row = some row) : g.world.ticket t = some row :=
    (congrArg Life.row same).trans here
  have updates {log : ScanLog} (added : after.logs = before.logs ++ [log]) (own : log.ticketId = t)
      (verdict : log.verdict = .ok) : tx.updates t = true := by
    refine commits.updates (log_written (t := t) (s := g.world.store) ?_) own verdict
    rw [same, written]
    exact added
  cases turn with
  | created context data createdAt fact logs facts =>
    obtain rfl : logs = [] := absent rfl
    constructor
    · rintro row - -
      exact .singleton _
    · rintro _ ⟨⟩ -
      rfl
  | bound input ticket row siblings now updatedAt logs facts =>
    have status : (row.updated (bindDevice input now) updatedAt).status = row.status := rfl
    exact presence.same status rfl
  | unbound input ticket row siblings unboundAt logs facts =>
    have status : (row.updated unbindDevice unboundAt).status = row.status := rfl
    exact presence.same status rfl
  | deleted call row logs facts => exact ⟨by simp, by simp⟩
  | revoked context reason actorId ticket row now updatedAt createdAt fact logs facts =>
    constructor
    · rintro _ ⟨⟩ ⟨⟩
    · rintro _ ⟨⟩ ⟨⟩
  | presence context state actorId ticket row checkedInAt updatedAt createdAt fact logs facts called =>
    exact presence.changed rfl rfl fun valid =>
      changes.differs called rfl (updates rfl rfl rfl) (present row rfl) valid
  | reset actorId ticket row updatedAt createdAt logs facts =>
    have status : (row.updated unbindDevice updatedAt).status = row.status := rfl
    refine presence.same status (directions_concat ?_)
    simp [staffLogRow]
  | accepted context input payload ticket row checkedInAt updatedAt returnedAt createdAt scanned
      presence_row logs facts called own =>
    exact presence.changed rfl rfl fun valid =>
      changes.differs called rfl (updates rfl own.symm rfl) (present row rfl) valid
  | rejected context input result row createdAt fact logs facts called own refused =>
    exact presence.same rfl (directions_concat refused)
  | autoRevoked row now updatedAt logs facts =>
    exact presence.same (quiet rfl row rfl _ rfl).1 rfl

theorem reachable_presence (pristine : Pristine w) {c : ServiceState}
    (reachable : (service platform).Reachable w c) (changes : PresenceChanges t c.shared) :
    Presence (life c.shared.world.store t) := by
  refine reachable_induction pristine reachable
    (fun g => PresenceChanges t g → Presence (life g.world.store t)) ?_ ?_ changes
  · intro _
    have absent : (life ((service platform).initial w).shared.world.store t).row = none := by
      simp [System.initial, life, Store.ticket, Table.get?, pristine.tickets]
    exact ⟨by simp [absent], by simp [absent]⟩
  · intro actor b c before _ change ih changes
    have presence := ih (changes.before change.extends)
    cases change.advance t with
    | still same => exact same ▸ presence
    | turned i tx committed commits _ turn quiet =>
      rw [committed] at changes
      have written : life (tx.apply b.shared.world.store) t = life c.shared.world.store t :=
        congrArg (fun g : Global => life g.world.store t) committed.symm
      exact turn.keeps_presence commits rfl written quiet changes
        ((reachable_tallied pristine before).accounted t).absent presence
    | revoked i e _ revokes =>
      obtain ⟨now, result, row, updatedAt, -, -, after⟩ := revokes
      rw [after]
      constructor
      · rintro _ ⟨⟩ ⟨⟩
      · rintro _ ⟨⟩ ⟨⟩

theorem Alternates.broken (alternates : Alternates t g) (tallied : Tallied g) {row row' : Ticket}
    (present : g.world.ticket t = some row) (stands : row.stands state)
    (later : g'.world.ticket t = some row') (valid : row'.revoked = false) {log : ScanLog}
    (verdict : log.verdict = .ok) (direction : log.direction = state)
    (logs : (life g'.world.store t).logs = (life g.world.store t).logs ++ [log]) :
    ¬Alternates t g' := by
  intro alternates'
  simp only [Ticket.stands, Bool.and_eq_true, Bool.not_eq_true', decide_eq_true_eq] at stands
  obtain ⟨chain, guests⟩ := alternates row present stands.1
  rw [guests_eq (tallied.accounted t) present chain, stands.2] at guests
  obtain ⟨chain', -⟩ := alternates' row' later valid
  have directions : (life g'.world.store t).directions =
      (life g.world.store t).directions ++ [state] := by
    simp [Life.directions, Life.okLogs, logs, List.filter_append, verdict, direction]
  rw [directions] at chain'
  have differs := (isChain_concat.mp chain').2
  generalize (life g.world.store t).directions.getLastD .outside = last at guests differs
  cases last <;> cases state <;> simp_all

theorem Alternates.again (alternates : Alternates t g) (tallied : Tallied g) {row : Ticket}
    (present : g.world.ticket t = some row) (stands : row.stands state) {data : TicketState}
    (valid : data.revoked = false) {log : ScanLog} (facts : List AnalyticsOutbox) {updatedAt : Time}
    (own : log.ticketId = t) (verdict : log.verdict = .ok) (direction : log.direction = state) :
    ¬Alternates t (g.commit (engine platform) i
      ⟨.putTicket t data updatedAt :: .insertScanLog log :: facts.map .insertOutbox⟩) := by
  have written := logged (life g.world.store t) data updatedAt facts own
  rw [← life_commit ⟨_⟩] at written
  exact alternates.broken tallied present stands (written.1.trans (congrArg _ present)) valid verdict
    direction written.2

theorem Commits.breaks {tx : Tx} (commits : Commits platform g i tx)
    (repeated : repeats g.calls t (.commit i tx g.world)) (tallied : Tallied g)
    (alternates : Alternates t g) : ¬Alternates t (g.commit (engine platform) i tx) := by
  obtain ⟨state, sets, rest⟩ := (Option.any_eq_true _ _).mp repeated
  obtain ⟨call, calls, presence⟩ := Option.bind_eq_some_iff.mp sets
  obtain ⟨updates, here⟩ := Bool.and_eq_true_iff.mp rest
  obtain ⟨old, there, stands⟩ := (Option.any_eq_true _ _).mp here
  have known {other : Call} (called : g.calls[i]? = some other) : other.presence = some state := by
    rw [calls] at called
    cases called
    exact presence
  have valid : old.revoked = false := by
    simp only [Ticket.stands, Bool.and_eq_true, Bool.not_eq_true'] at stands
    exact stands.1
  cases commits with
  | presence context ticketId state' actorId ticket row checkedInAt updatedAt createdAt fact called
      override present enqueued =>
    obtain rfl : ticketId = t := by simpa [Tx.updates, Write.updates] using updates
    obtain rfl : old = row := Option.some.inj (there.symm.trans present)
    cases known called
    refine alternates.again tallied there stands ?_ [fact] rfl ?_ ?_
    · exact valid
    · rfl
    · rfl
  | accepted context input payload ticket row checkedInAt updatedAt returnedAt createdAt scanned
      presence_row called accepted granted present scanned_row =>
    obtain rfl : ticket.id = t := by simpa [Tx.updates, Write.updates] using updates
    obtain rfl : old = row := Option.some.inj (there.symm.trans present)
    cases known called
    refine alternates.again tallied there stands ?_ [scanned, presence_row] rfl ?_ ?_
    · exact valid
    · rfl
    · rfl
  | rejected => simp [Tx.updates, Write.updates] at updates
  | deleted => simp [Tx.updates, Write.updates] at updates
  | empty => simp [Tx.updates] at updates
  | activated _ _ _ _ _ _ _ activation => cases known activation.called
  | created _ _ _ _ called => cases known called
  | revoked _ _ _ _ _ _ _ _ _ _ called => cases known called
  | reset _ _ _ _ _ _ called => cases known called

theorem Change.presence_changes {actor : Option Nat} (change : Change platform actor g g')
    (rooted : Rooted g) (tallied : Tallied g) (alternates : Alternates t g)
    (alternates' : Alternates t g') (changes : PresenceChanges t g) : PresenceChanges t g' := by
  have old (e : Event statements World Tx) (member : e ∈ g.history) : repeats g'.calls t e = false := by
    have spared := changes e member
    cases e with
    | stmt => rfl
    | rollback => rfl
    | commit i tx w =>
      have within := rooted.numbered i ⟨tx, w, member⟩
      have called := List.getElem?_eq_getElem within
      simpa [repeats, change.extends.calls i _ called, called] using spared
  cases change with
  | invoke call => exact old
  | environ action => exact old
  | stmt i stmt result w tx tx' => exact List.forall_mem_cons.mpr ⟨rfl, old⟩
  | rollback i => exact List.forall_mem_cons.mpr ⟨rfl, old⟩
  | commit i tx commits first =>
    refine List.forall_mem_cons.mpr ⟨?_, old⟩
    by_contra repeated
    exact commits.breaks (by simpa using repeated) tallied alternates alternates'

/-- The accepted scan logs of a valid ticket alternate all along a run if and only if no scan and
no override of the run commits a presence that the ticket already has. -/
theorem presence_alternates_iff (pristine : Pristine w) {c : ServiceState}
    (reachable : (service platform).Reachable w c) :
    (∀ b, (service platform).Reachable w b → (service platform).Runs b c → Alternates t b.shared) ↔
      PresenceChanges t c.shared := by
  constructor
  · intro all
    refine reachable_along pristine reachable (Alternates t) (PresenceChanges t) all ?_ ?_
    · intro e member
      cases member
    intro actor b c before _ change here after changes
    exact change.presence_changes (reachable_rooted pristine before)
      (reachable_tallied pristine before) here after changes
  · intro changes b before runs row present valid
    have presence := reachable_presence pristine before (changes.before (runs_extends pristine before runs))
    have found : row ∈ (life b.shared.world.store t).row := present
    have chain := presence.chain row found valid
    refine ⟨chain, ?_⟩
    rw [guests_eq ((reachable_tallied pristine before).accounted t) found chain,
      presence.last row found valid]

section Samples

open Sample

-- Two overrides have read that the ticket is outside before either of them brings it inside.
def enteredTwice : List ServiceAct :=
  prepared ++ call 4 (.updatePresence context ticket .inside staff) 2 ++
    call 5 (.updatePresence context ticket .inside staff) 10 ++ List.replicate 10 (.step 4)

theorem check_ins_repeat : ¬∀ (w : World) (c : ServiceState) (t : Uuid), Pristine w →
    (service deployment).Reachable w c → Alternates t c.shared := by
  intro claim
  have alternates := claim World.empty (run enteredTwice) ticket pristine_empty (reachable_run _)
  have valid : ((run enteredTwice).shared.world.ticket ticket).any (!·.revoked) := by
    decide +kernel
  have twice : (life (run enteredTwice).shared.world.store ticket).directions =
      [.inside, .inside] := by decide +kernel
  obtain ⟨row, present, valid⟩ := (Option.any_eq_true _ _).mp valid
  obtain ⟨chain, -⟩ := alternates row present (by simpa using valid)
  rw [twice] at chain
  exact absurd chain (by decide)

def enteredAndLeft : List ServiceAct :=
  prepared ++ call 4 (.scan context entry) 30 ++
    call 5 (.updatePresence context ticket .outside staff) 12

theorem presence_alternates_entered : Alternates ticket (run enteredAndLeft).shared := by
  have changes : PresenceChanges ticket (run enteredAndLeft).shared := by decide +kernel
  exact (presence_alternates_iff pristine_empty (reachable_run enteredAndLeft)).mpr changes _
    (reachable_run enteredAndLeft) .refl

end Samples

end TicketService
