import TicketService.Refinement.Grounds

set_option autoImplicit false

namespace TicketService

open Interleaving Relational AnalyticsOutboxService ScanService ShareGuardService
open TicketEventRoleResolver VerifyService

variable {platform : Platform} {i : Nat} {t : Uuid} {log : Record} {α : Type}

-- The call that counts a failure of the ticket with the event.
def decider (t : Uuid) : Event statements World Tx → Option Nat
  | .stmt i (.shareGuardUpsert id) _ _ => if id = t then some i else none
  | _ => none

def deciders (t : Uuid) (log : Record) : List Nat :=
  log.filterMap (decider t)

def Stmt.weighs : Stmt → Bool
  | .ticketUpdate .prisma _ _ => true
  | .shareGuardUpsert _ => true
  | _ => false

def Kind.weighs : Kind → Bool
  | .ticketUpdate .prisma => true
  | .shareGuardUpsert => true
  | _ => false

theorem weighs_of_kind {stmt : Stmt} (other : stmt.kind.weighs = false) : stmt.weighs = false := by
  unfold Stmt.weighs
  split
  · cases other
  · cases other
  · rfl

def Counted (i : Nat) (t : Uuid) (n : Nat) (log : Record) : Prop :=
  ∃ guard w, .stmt i (.shareGuardUpsert t) guard w ∈ log ∧ guard.failCount = n

structure Weighed (i : Nat) (revokes : Prop) (log : Record) : Prop where
  once : ∀ t, (deciders t log).length ≤ 1
  revocations : ∀ t data row w, .stmt i (.ticketUpdate .prisma t data) row w ∈ log →
    revokes ∨ ∃ n, Counted i t n log ∧ revokeThreshold ≤ n + 1
  refused : ∀ t entry, EntryCreated i log entry → deciders t log ≠ [] → entry.verdict ≠ .ok

section Weighed

variable {revokes : Prop} {n : Nat}

theorem Counted.later (counted : Counted i t n log) (e : Event statements World Tx) :
    Counted i t n (e :: log) := by
  obtain ⟨guard, w, member, same⟩ := counted
  exact ⟨guard, w, List.mem_cons_of_mem e member, same⟩

theorem deciders_cons_none {e : Event statements World Tx} (uncounted : decider t e = none) :
    deciders t (e :: log) = deciders t log :=
  List.filterMap_cons_none uncounted

theorem decider_stmt {stmt : Stmt} {result : stmt.Res} {w : World} (plain : stmt.weighs = false) :
    decider t (.stmt i stmt result w) = none := by
  cases stmt with
  | shareGuardUpsert => cases plain
  | _ => rfl

def Uncounted (e : Event statements World Tx) : Prop :=
  match e with
  | .stmt _ stmt _ _ => stmt.weighs = false
  | _ => True

theorem uncounted_stmt {stmt : Stmt} {result : stmt.Res} {w : World} (plain : stmt.weighs = false) :
    Uncounted (.stmt i stmt result w) :=
  plain

theorem Uncounted.decider {e : Event statements World Tx} (uncounted : Uncounted e) :
    decider t e = none := by
  cases e with
  | stmt i stmt result w => exact decider_stmt uncounted
  | commit => rfl
  | rollback => rfl

theorem Weighed.later (weighed : Weighed i revokes log) {e : Event statements World Tx}
    (uncounted : Uncounted e)
    (entries : ∀ entry, EntryCreated i [e] entry → ∀ t, deciders t log ≠ [] → entry.verdict ≠ .ok) :
    Weighed i revokes (e :: log) where
  once t := by
    rw [deciders_cons_none uncounted.decider]
    exact weighed.once t
  revocations t data row w member := by
    rcases List.mem_cons.mp member with same | before
    · subst same
      cases uncounted
    · refine (weighed.revocations t data row w before).imp_right ?_
      rintro ⟨n, counted, reached⟩
      exact ⟨n, counted.later e, reached⟩
  refused t entry created decided := by
    rw [deciders_cons_none uncounted.decider] at decided
    obtain ⟨row, w, member⟩ := created
    rcases List.mem_cons.mp member with same | before
    · exact entries entry ⟨row, w, List.mem_singleton.mpr same⟩ t decided
    · exact weighed.refused t entry ⟨row, w, before⟩ decided

def Idle (log : Record) : Prop :=
  ∀ e ∈ log, Uncounted e

theorem Idle.deciders_nil (idle : Idle log) (t : Uuid) : deciders t log = [] :=
  List.filterMap_eq_nil_iff.mpr fun e member => (idle e member).decider

theorem Idle.weighed (idle : Idle log) : Weighed i revokes log where
  once t := by simp [idle.deciders_nil t]
  revocations t data row w member := nomatch idle _ member
  refused t _ _ decided := absurd (idle.deciders_nil t) decided

theorem idle_nil : Idle [] := by
  intro e member
  cases member

theorem Idle.cons (idle : Idle log) {e : Event statements World Tx} (uncounted : Uncounted e) :
    Idle (e :: log) :=
  List.forall_mem_cons.mpr ⟨uncounted, idle⟩

structure Blank (i : Nat) (log : Record) : Prop where
  idle : Idle log
  untold : ∀ entry, ¬EntryCreated i log entry

theorem blank_nil : Blank i [] where
  idle := idle_nil
  untold := by
    rintro entry ⟨row, w, member⟩
    cases member

theorem Blank.cons (blank : Blank i log) {e : Event statements World Tx} (uncounted : Uncounted e)
    (unlogged : Unlogged i e) : Blank i (e :: log) where
  idle := blank.idle.cons uncounted
  untold := by
    rintro entry ⟨row, w, member⟩
    rcases List.mem_cons.mp member with same | before
    · exact unlogged entry ⟨row, w, List.mem_singleton.mpr same⟩
    · exact blank.untold entry ⟨row, w, before⟩

theorem Blank.counts (blank : Blank i log) (guard : ShareGuard) (w : World) :
    Weighed i revokes (.stmt i (.shareGuardUpsert t) guard w :: log) where
  once t' := by
    unfold deciders
    rw [List.filterMap_cons]
    have none : log.filterMap (decider t') = [] := blank.idle.deciders_nil t'
    rw [none]
    split <;> simp
  revocations t' data row w' member := by
    rcases List.mem_cons.mp member with same | before
    · cases same
    · exact nomatch blank.idle _ before
  refused t' entry created := by
    obtain ⟨row, w', member⟩ := created
    rcases List.mem_cons.mp member with same | before
    · cases same
    · exact absurd ⟨row, w', before⟩ (blank.untold entry)

theorem Weighed.revoked (weighed : Weighed i revokes log) {data : TicketState → TicketState}
    {row : Ticket} {w : World} (counted : Counted i t n log) (grounds : revokes ∨ revokeThreshold ≤ n + 1) :
    Weighed i revokes (.stmt i (.ticketUpdate .prisma t data) row w :: log) where
  once t' := weighed.once t'
  revocations t' data' row' w' member := by
    rcases List.mem_cons.mp member with same | before
    · cases same
      exact grounds.imp_right fun reached => ⟨n, counted.later _, reached⟩
    · refine (weighed.revocations t' data' row' w' before).imp_right ?_
      rintro ⟨n, counted, reached⟩
      exact ⟨n, counted.later _, reached⟩
  refused t' entry created decided := by
    obtain ⟨row', w', member⟩ := created
    rcases List.mem_cons.mp member with same | before
    · cases same
    · exact weighed.refused t' entry ⟨row', w', before⟩ decided

end Weighed

section Scan

variable {revokes : Prop} {tx : Option Tx}

theorem along_blank {stmt : Stmt} (plain : stmt.weighs = false) (other : ∀ row, stmt ≠ .scanLogCreate row)
    (blank : Blank i log) :
    Along (engine platform) .any i (Weighed i revokes) (fun _ _ => True) (fun _ _ log => Blank i log)
      (issue stmt) tx log :=
  along_issue stmt
    (fun _ _ _ _ _ =>
      have later := blank.cons (uncounted_stmt plain) (unlogged_stmt other)
      ⟨later.idle.weighed, later⟩)
    fun _ _ => trivial

theorem along_uncounted {stmt : Stmt} (plain : stmt.weighs = false)
    (other : ∀ row, stmt ≠ .scanLogCreate row) (weighed : Weighed i revokes log) :
    Along (engine platform) .any i (Weighed i revokes) (fun _ _ => True)
      (fun _ _ log => Weighed i revokes log) (issue stmt) tx log :=
  along_issue stmt
    (fun _ _ _ _ _ =>
      have later := weighed.later (uncounted_stmt plain) fun entry created =>
        absurd created (unlogged_stmt other entry)
      ⟨later, later⟩)
    fun _ _ => trivial

theorem along_applyDecision_weighed {result : RiskResult} (grounds : result.shouldRevoke = true → revokes)
    (blank : Blank i log) :
    Along (engine platform) .any i (Weighed i revokes) (fun _ _ => True)
      (fun _ _ log => Weighed i revokes log) (applyDecision t result) tx log := by
  refine (along_blank rfl (by simp) blank).andThen fun now tx log blank => ?_
  refine Along.bind (along_issue _ (fun guard w w' tx' _ => ?_) fun _ _ => trivial)
  have weighed : Weighed i revokes (.stmt i (.shareGuardUpsert t) guard w :: log) :=
    blank.counts guard w
  have counted : Counted i t guard.failCount (.stmt i (.shareGuardUpsert t) guard w :: log) :=
    ⟨guard, w, List.mem_cons_self, rfl⟩
  refine ⟨weighed, ?_⟩
  dsimp only
  split
  next reached =>
    refine Along.bind (along_issue _ (fun row w w' tx' _ => ?_) fun _ _ => trivial)
    have revoked : Weighed i revokes (.stmt i (.ticketUpdate .prisma t (autoRevoked now)) row w :: _) :=
      weighed.revoked counted (reached.imp_left grounds)
    exact ⟨revoked, revoked⟩
  next =>
    split
    · exact (along_uncounted rfl (by simp) weighed).andThen fun _ _ _ weighed => weighed
    · exact (along_uncounted rfl (by simp) weighed).andThen fun _ _ _ weighed => weighed

variable {ticket : Ticket} {payload : QrPayload} {direction : GateDirection}

def Refuses (i : Nat) (result : VerifyResult) (log : Record) : Prop :=
  Weighed i False log ∧ (result.verdict = .ok → ∀ t, deciders t log = [])

theorem Blank.refuses (blank : Blank i log) {result : VerifyResult} : Refuses i result log :=
  ⟨blank.idle.weighed, fun _ => blank.idle.deciders_nil⟩

theorem not_shouldRevoke {risk : RiskInput} (bounded : score risk < revokeThreshold) :
    (calculateRisk risk).shouldRevoke = true → False := by
  intro revokes
  exact absurd (of_decide_eq_true revokes) (Nat.not_le.mpr bounded)

theorem along_rejectRisk_weighed {risk : RiskInput} {verdict : ScanVerdict} {message : String}
    (refused : verdict ≠ .ok) (bounded : score risk < revokeThreshold) (blank : Blank i log) :
    Along (engine platform) .any i (Weighed i False) (fun _ _ => True)
      (fun result _ log => Refuses i result log)
      (rejectRisk ticket payload risk verdict message) tx log :=
  (along_applyDecision_weighed (not_shouldRevoke bounded) blank).andThen fun _ _ _ weighed =>
    ⟨weighed, fun accepted => absurd accepted refused⟩

theorem along_rotateNonce_weighed {state : PresenceState} (blank : Blank i log) :
    Along (engine platform) .any i (Weighed i False) (fun _ _ => True)
      (fun result _ log => Refuses i result log) (rotateNonce ticket payload state) tx log := by
  have checked : Along (engine platform) .any i (Weighed i False) (fun _ _ => True)
      (fun _ _ log => Blank i log) (checkedInAt ticket state) tx log := by
    cases state with
    | inside => exact (along_blank rfl (by simp) blank).andThen fun _ _ _ blank => blank
    | outside => exact blank
  refine checked.andThen fun checkedInAt tx log blank => ?_
  refine (along_blank rfl (by simp) blank).andThen fun count tx log blank => ?_
  split
  · exact blank.refuses
  · exact (along_blank rfl (by simp) blank).andThen fun _ _ _ blank => blank.refuses

theorem along_acquireReplayKey_weighed {state : PresenceState} (blank : Blank i log) :
    Along (engine platform) .any i (Weighed i False) (fun _ _ => True)
      (fun result _ log => Refuses i result log) (acquireReplayKey ticket payload state) tx log := by
  refine (along_blank rfl (by simp) blank).andThen fun acquired tx log blank => ?_
  split
  · have reset : Along (engine platform) .any i (Weighed i False) (fun _ _ => True)
        (fun _ _ log => Blank i log) (resetShareGuard ticket.id) tx log := by
      refine (along_blank rfl (by simp) blank).andThen fun guard tx log blank => ?_
      cases guard with
      | none => exact blank
      | some guard => exact (along_blank rfl (by simp) blank).andThen fun _ _ _ blank => blank
    exact reset.andThen fun _ _ _ blank => along_rotateNonce_weighed blank
  · exact along_rejectRisk_weighed (by simp) (by decide) blank

theorem along_applyDirectionPolicy_weighed (blank : Blank i log) :
    Along (engine platform) .any i (Weighed i False) (fun _ _ => True)
      (fun result _ log => Refuses i result log)
      (applyDirectionPolicy ticket payload direction) tx log := by
  unfold applyDirectionPolicy
  simp only
  split
  · exact blank.refuses
  · have ended : Along (engine platform) .any i (Weighed i False) (fun _ _ => True)
        (fun _ _ log => Blank i log) (eventEnded ticket direction) tx log := by
      cases direction with
      | exit => exact blank
      | entry =>
        refine (along_blank rfl (by simp) blank).andThen fun settings tx log blank => ?_
        split
        · exact blank
        · exact (along_blank rfl (by simp) blank).andThen fun _ _ _ blank => blank
    refine ended.andThen fun ended tx log blank => ?_
    split
    · exact blank.refuses
    · exact along_acquireReplayKey_weighed blank

theorem along_checkDevice_weighed {token signature deviceId : String} (blank : Blank i log) :
    Along (engine platform) .any i (Weighed i False) (fun _ _ => True)
      (fun result _ log => Refuses i result log)
      (checkDevice ticket payload token signature deviceId direction) tx log := by
  unfold checkDevice
  split
  · exact blank.refuses
  · refine (along_blank rfl (by simp) blank).andThen fun genuine tx log blank => ?_
    split
    · exact along_rejectRisk_weighed (by simp) (by decide) blank
    · split
      · exact along_rejectRisk_weighed (by simp) (by decide) blank
      · unfold checkNonce
        split
        · exact along_rejectRisk_weighed (by simp) (by decide) blank
        · split
          · exact along_rejectRisk_weighed (by simp) (by decide) blank
          · exact along_applyDirectionPolicy_weighed blank

theorem along_isBlocked_weighed (blank : Blank i log) :
    Along (engine platform) .any i (Weighed i False) (fun _ _ => True) (fun _ _ log => Blank i log)
      (isBlocked t) tx log := by
  refine (along_blank rfl (by simp) blank).andThen fun guard tx log blank => ?_
  split
  · exact blank
  · exact (along_blank rfl (by simp) blank).andThen fun _ _ _ blank => blank

theorem along_verifyToken_weighed {token signature deviceId : String} :
    Along (engine platform) .any i (Weighed i False) (fun _ _ => True)
      (fun result _ log => Refuses i result log)
      (verifyToken token signature deviceId direction) (some ⟨[]⟩) [] := by
  refine (along_blank rfl (by simp) blank_nil).andThen fun payload tx log blank => ?_
  cases payload with
  | none => trivial
  | some payload =>
    refine (along_blank rfl (by simp) blank).andThen fun row tx log blank => ?_
    cases row with
    | none => trivial
    | some ticket =>
      dsimp only
      split
      · exact blank.refuses
      · refine (along_isBlocked_weighed blank).andThen fun blocked tx log blank => ?_
        split
        · exact blank.refuses
        · exact along_checkDevice_weighed blank

def Stmt.plain (stmt : Stmt) : Prop :=
  stmt.weighs = false ∧ ∀ row, stmt ≠ .scanLogCreate row

def Kind.plain : Kind → Bool
  | .scanLogCreate => false
  | kind => !kind.weighs

theorem plain_of_kinds {ks : List Kind} {p : Program α} (issues : Kinds ks p)
    (listed : ks.all Kind.plain = true) : p.Issues Stmt.plain := by
  refine issues.all listed fun stmt other => ?_
  unfold Kind.plain at other
  split at other
  · cases other
  next unlogged => exact ⟨weighs_of_kind (by simpa using other), fun row same => unlogged (same ▸ rfl)⟩

theorem Refuses.later {result : VerifyResult} (refuses : Refuses i result log)
    {e : Event statements World Tx} (uncounted : Uncounted e) (unlogged : Unlogged i e) :
    Refuses i result (e :: log) := by
  refine ⟨refuses.1.later uncounted fun entry created => absurd created (unlogged entry), ?_⟩
  intro accepted t
  rw [deciders_cons_none uncounted.decider]
  exact refuses.2 accepted t

theorem along_plain_refuses {p : Program α} (quiet : p.Issues Stmt.plain) {result : VerifyResult}
    (refuses : Refuses i result log) :
    Along (engine platform) .any i (Weighed i False) (fun _ _ => True)
      (fun _ _ log => Refuses i result log) p tx log :=
  Along.of_issues quiet
    (fun _ _ _ _ quiet refuses => refuses.later (uncounted_stmt quiet.1) (unlogged_stmt quiet.2))
    (fun _ _ _ refuses => refuses.later trivial unlogged_commit) (fun _ refuses => refuses.1)
    (fun _ _ _ => trivial) refuses

variable {context : RequestContext} {input : SecurityScanInput}

theorem along_recordScan_weighed {result : VerifyResult} (refuses : Refuses i result log) :
    Along (engine platform) .any i (Weighed i False) (fun _ _ => True)
      (fun _ _ log => Refuses i result log)
      (recordScan platform (Uuid.mk i) context input result) tx log := by
  refine Along.bind (along_issue _ (fun entry w w' tx' executed => ?_) fun _ _ => trivial)
  have created : entry = scanLogRow ⟨i, 0⟩ result input w.clock := by
    simp only [exec] at executed
    split at executed
    · obtain ⟨t, -, same⟩ := Option.map_eq_some_iff.mp executed
      cases same
      rfl
    · cases executed
  have logged : Refuses i result
      (.stmt i (.scanLogCreate (scanLogRow ⟨i, 0⟩ result input)) entry w :: log) := by
    refine ⟨refuses.1.later (uncounted_stmt rfl) ?_, fun accepted t => refuses.2 accepted t⟩
    rintro other ⟨row, w', member⟩ t decided accepted
    cases List.mem_singleton.mp member
    rw [created] at accepted
    exact decided (refuses.2 accepted t)
  refine ⟨logged.1, along_plain_refuses ?_ logged⟩
  refine Prog.Issues.bind (plain_of_kinds kinds_enqueue rfl) fun _ => ?_
  split
  · exact Prog.Issues.bind (plain_of_kinds kinds_enqueue rfl) fun _ => trivial
  · trivial

theorem along_scan_weighed :
    Along (engine platform) .any i (Weighed i False) (fun _ _ => True) (fun _ _ _ => True)
      (scan platform (Uuid.mk i) context input) none [] := by
  refine Along.bind (Along.transaction (along_verifyToken_weighed.andThen fun result tx log here => ?_))
  refine (along_plain_refuses (plain_of_kinds kinds_getPermissionsForUser rfl) here).andThen
    fun permissions tx log here => ?_
  split
  · refine (along_recordScan_weighed here).mono fun payload tx log here => ⟨fun t w _ => ?_, fun _ => trivial⟩
    have committed := here.later (e := .commit i t w) trivial unlogged_commit
    exact ⟨committed.1, (along_plain_refuses (plain_of_kinds kinds_finished rfl) committed).mono
      fun _ _ _ _ => trivial⟩
  · trivial

end Scan

section Records

def decisionStory : Story statements World Tx Call Exn Reply where
  keeps i call log :=
    match call with
    | .scan .. => Weighed i False log
    | .applyDecision _ result => Weighed i (result.shouldRevoke = true) log
    | _ => Idle log
  returns _ _ _ _ := True
  throws _ _ _ _ := True

theorem along_idle {p : Program Reply} (idle : p.Issues fun stmt : Stmt => stmt.weighs = false) :
    Along (engine platform) .any i Idle (fun _ _ => True) (fun _ _ _ => True) p none [] := by
  refine (Along.of_issues (I := Idle) idle ?_ ?_ (fun _ idle => idle) (fun _ _ _ => trivial)
    idle_nil).mono fun _ _ _ _ => trivial
  · intro stmt result w log plain idle
    exact idle.cons (uncounted_stmt plain)
  · intro t w log idle
    exact idle.cons trivial

theorem along_plain_idle {ks : List Kind} {p : Program Reply} (issues : Kinds ks p)
    (listed : ks.all (fun kind => !kind.weighs) = true) :
    Along (engine platform) .any i Idle (fun _ _ => True) (fun _ _ _ => True) p none [] :=
  along_idle (issues.all listed fun stmt other => weighs_of_kind (by simpa using other))

theorem tells_decisions (call : Call) (i : Nat) :
    (service platform).Tells decisionStory .any i call ⟨program platform i call, none⟩ [] := by
  have kinds := @kinds_program platform call i
  cases call with
  | scan context input =>
    refine Along.bind ?_
    unfold TicketMutationResolver.scanToken
    split
    · trivial
    · exact along_scan_weighed.mono fun _ _ _ _ => trivial
  | applyDecision ticketId result =>
    exact (along_applyDecision_weighed id blank_nil).andThen fun _ _ _ _ => trivial
  | _ => exact along_plain_idle kinds rfl

variable {w w' : World} {c : ServiceState} {call : Call}

theorem kept_decisions (reachable : (service platform).Reachable w c)
    (called : c.shared.calls[i]? = some call) {e : Event statements World Tx}
    (own : e ∈ c.shared.own i) : decisionStory.keeps i call (c.shared.own i) := by
  have tracked : (service platform).Tracked decisionStory .any c :=
    System.reachable_tracked reachable tells_decisions
  exact tracked.kept i call called (List.ne_nil_of_mem own)

def Call.refuses (i : Nat) (t : Uuid) (log : Record) : Call → Prop
  | .scan _ input =>
    Presented i input.token t log ∧ ∀ entry, EntryCreated i log entry → entry.verdict ≠ .ok
  | .applyDecision ticketId _ => ticketId = t
  | _ => False

theorem decider_of_upsert {guard : ShareGuard} :
    decider t (.stmt i (.shareGuardUpsert t) guard w) = some i :=
  if_pos rfl

theorem refuses_of_upsert (reachable : (service platform).Reachable w c)
    (called : c.shared.calls[i]? = some call) {guard : ShareGuard}
    (issued : .stmt i (.shareGuardUpsert t) guard w' ∈ c.shared.history) :
    call.refuses i t (c.shared.own i) := by
  have own : .stmt i (.shareGuardUpsert t) guard w' ∈ c.shared.own i :=
    (Shared.mem_own _ _).mpr ⟨issued, rfl, rfl⟩
  have grounds := judged_on_grounds reachable called issued rfl
  have kept := kept_decisions reachable called own
  have decided : deciders t (c.shared.own i) ≠ [] :=
    List.ne_nil_of_mem (List.mem_filterMap.mpr ⟨_, own, decider_of_upsert⟩)
  cases call with
  | scan context input =>
    have weighed : Weighed i False (c.shared.own i) := kept
    exact ⟨grounds, fun entry created => weighed.refused t entry created decided⟩
  | applyDecision ticketId result => exact grounds
  | _ => exact absurd (Idle.deciders_nil kept t) decided

theorem deciders_own (reachable : (service platform).Reachable w c)
    (called : c.shared.calls[i]? = some call) : (deciders t (c.shared.own i)).length ≤ 1 := by
  cases own : c.shared.own i with
  | nil => exact Nat.zero_le _
  | cons e rest =>
    have kept := kept_decisions reachable called (own ▸ List.mem_cons_self : e ∈ c.shared.own i)
    rw [← own]
    cases call with
    | scan context input => exact (show Weighed i False (c.shared.own i) from kept).once t
    | applyDecision ticketId result =>
      exact (show Weighed i (result.shouldRevoke = true) (c.shared.own i) from kept).once t
    | _ => simp [Idle.deciders_nil kept t]

theorem revoked_by_count (reachable : (service platform).Reachable w c)
    (called : c.shared.calls[i]? = some call) {data : TicketState → TicketState} {row : Ticket}
    (issued : .stmt i (.ticketUpdate .prisma t data) row w' ∈ c.shared.history) :
    (∃ result, call = .applyDecision t result ∧ result.shouldRevoke = true) ∨
      ∃ n, Counted i t n c.shared.history ∧ revokeThreshold ≤ n + 1 := by
  have own : .stmt i (.ticketUpdate .prisma t data) row w' ∈ c.shared.own i :=
    (Shared.mem_own _ _).mpr ⟨issued, rfl, rfl⟩
  have grounds := judged_on_grounds reachable called issued rfl
  have kept := kept_decisions reachable called own
  have counted {revokes : Prop} (weighed : Weighed i revokes (c.shared.own i)) :
      revokes ∨ ∃ n, Counted i t n c.shared.history ∧ revokeThreshold ≤ n + 1 := by
    refine (weighed.revocations t data row w' own).imp_right ?_
    rintro ⟨n, ⟨guard, w, member, same⟩, reached⟩
    exact ⟨n, ⟨guard, w, ((Shared.mem_own _ _).mp member).1, same⟩, reached⟩
  cases call with
  | scan context input => exact (counted kept).imp_left False.elim
  | applyDecision ticketId result =>
    refine (counted kept).imp_left fun revokes => ⟨result, ?_, revokes⟩
    rw [show ticketId = t from grounds]
  | _ => exact nomatch (show Idle (c.shared.own i) from kept) _ own

end Records

end TicketService
