import TicketService.Refinement.Kinds
import TicketService.Refinement.Records

set_option autoImplicit false

namespace TicketService

open Interleaving Relational ScanService ShareGuardService VerifyService

variable {platform : Platform} {i : Nat} {t : Uuid} {log : Record} {α : Type}

-- The ticket about which the statement writes outside of its transaction.
def Stmt.judges : Stmt → Option Uuid
  | .ticketUpdate .prisma id _ => some id
  | .shareGuardUpsert id => some id
  | .shareGuardUpdate id _ => some id
  | .rawSetIfAbsent id _ _ => some id
  | _ => none

section Others

def Kind.judges : Kind → Bool
  | .ticketUpdate .prisma => true
  | .shareGuardUpsert => true
  | .shareGuardUpdate => true
  | .rawSetIfAbsent => true
  | _ => false

theorem judges_of_kind {stmt : Stmt} (other : stmt.kind.judges = false) : stmt.judges = none := by
  unfold Stmt.judges
  split
  · cases other
  · cases other
  · cases other
  · cases other
  · rfl

abbrev Lenient (p : Program α) : Prop :=
  p.Issues fun stmt : Stmt => stmt.judges = none

def Call.judging : Call → Bool
  | .scan .. => true
  | .applyDecision .. => true
  | .resetShareGuard _ => true
  | _ => false

theorem lenient_program {call : Call} (other : call.judging = false) :
    Lenient (program platform i call) := by
  have listed : call.kinds.all (fun kind => !kind.judges) = true := by
    cases call with
    | scan context input => cases other
    | applyDecision ticketId result => cases other
    | resetShareGuard ticketId => cases other
    | _ => rfl
  exact (kinds_program call i).all listed fun stmt other => judges_of_kind (by simpa using other)

end Others

section Scan

def Stmt.about (t : Uuid) : Stmt → Prop
  | .ticketFindUnique .tx id => id = t
  | stmt => ∀ id ∈ stmt.judges, id = t

abbrev About (t : Uuid) (p : Program α) : Prop :=
  p.Issues (Stmt.about t)

theorem about_issue {stmt : Stmt} (about : stmt.about t) : About t (issue stmt) :=
  Prog.Issues.perform about

theorem about_other {stmt : Stmt} (other : stmt.judges = none)
    (unread : ∀ id, stmt ≠ .ticketFindUnique .tx id) : stmt.about t := by
  unfold Stmt.about
  split
  next id => exact absurd rfl (unread id)
  next => simp [other]

theorem about_now : About t (issue .now) :=
  about_issue (about_other rfl (by simp))

theorem about_applyDecision {result : RiskResult} : About t (applyDecision t result) := by
  refine about_now.bind fun now => (about_issue (by simp [Stmt.about, Stmt.judges])).bind fun guard => ?_
  dsimp only
  repeat' split
  · exact (about_issue (by simp [Stmt.about, Stmt.judges])).bind fun _ => trivial
  · exact (about_issue (by simp [Stmt.about, Stmt.judges])).bind fun _ => trivial
  · exact (about_issue (by simp [Stmt.about, Stmt.judges])).bind fun _ => trivial

theorem about_resetShareGuard : About t (resetShareGuard t) := by
  refine (about_issue (about_other rfl (by simp))).bind fun guard => ?_
  cases guard with
  | none => trivial
  | some guard => exact (about_issue (by simp [Stmt.about, Stmt.judges])).bind fun _ => trivial

theorem about_isBlocked : About t (isBlocked t) := by
  refine (about_issue (about_other rfl (by simp))).bind fun guard => ?_
  cases Option.bind guard (·.blockedUntil) with
  | none => trivial
  | some blockedUntil => exact about_now.bind fun _ => trivial

variable {ticket : Ticket} {payload : QrPayload}

theorem about_rejectRisk {risk : RiskInput} {verdict : ScanVerdict} {message : String} :
    About ticket.id (rejectRisk ticket payload risk verdict message) :=
  about_applyDecision.bind fun _ => trivial

theorem about_rotateNonce {state : PresenceState} :
    About ticket.id (rotateNonce ticket payload state) := by
  have checked : About ticket.id (checkedInAt ticket state) := by
    cases state with
    | inside => exact about_now.bind fun _ => trivial
    | outside => trivial
  refine checked.bind fun checkedInAt => (about_issue (about_other rfl (by simp))).bind fun count => ?_
  split
  · trivial
  · exact about_now.bind fun _ => trivial

theorem about_acquireReplayKey {state : PresenceState} :
    About ticket.id (acquireReplayKey ticket payload state) := by
  refine (about_issue (by simp [Stmt.about, Stmt.judges])).bind fun acquired => ?_
  split
  · exact about_resetShareGuard.bind fun _ => about_rotateNonce
  · exact about_rejectRisk

theorem about_applyDirectionPolicy {direction : GateDirection} :
    About ticket.id (applyDirectionPolicy ticket payload direction) := by
  have ended : About ticket.id (eventEnded ticket direction) := by
    cases direction with
    | exit => trivial
    | entry =>
      refine (about_issue (about_other rfl (by simp))).bind fun settings => ?_
      cases Option.bind settings (·.endsAt) with
      | none => trivial
      | some endsAt => exact about_now.bind fun _ => trivial
  unfold applyDirectionPolicy
  dsimp only
  split
  · trivial
  · refine ended.bind fun ended => ?_
    split
    · trivial
    · exact about_acquireReplayKey

theorem about_checkDevice {token signature deviceId : String} {direction : GateDirection} :
    About ticket.id (checkDevice ticket payload token signature deviceId direction) := by
  unfold checkDevice
  split
  · trivial
  · refine (about_issue (about_other rfl (by simp))).bind fun genuine => ?_
    split
    · exact about_rejectRisk
    · split
      · exact about_rejectRisk
      · unfold checkNonce
        repeat' split
        · exact about_rejectRisk
        · exact about_rejectRisk
        · exact about_applyDirectionPolicy

def Stmt.aside (stmt : Stmt) : Prop :=
  stmt.judges = none ∧ ∀ id, stmt ≠ .ticketFindUnique .tx id

def Kind.aside : Kind → Bool
  | .ticketFindUnique .tx => false
  | kind => !kind.judges

theorem aside_of_kinds {ks : List Kind} {p : Program α} (issues : Kinds ks p)
    (listed : ks.all Kind.aside = true) : p.Issues Stmt.aside := by
  refine issues.all listed fun stmt other => ?_
  unfold Kind.aside at other
  split at other
  · cases other
  next unread => exact ⟨judges_of_kind (by simpa using other), fun id same => unread (same ▸ rfl)⟩

end Scan

section Records

def Presented (i : Nat) (token : String) (t : Uuid) (log : Record) : Prop :=
  ∃ payload w, .stmt i (.tokenVerify token) (some payload) w ∈ log ∧
    w.verified token = some payload ∧ payload.tid = t

theorem Presented.later {token : String} (presented : Presented i token t log)
    (e : Event statements World Tx) : Presented i token t (e :: log) := by
  obtain ⟨payload, w, member, verified, same⟩ := presented
  exact ⟨payload, w, List.mem_cons_of_mem e member, verified, same⟩

def Justified (i : Nat) (token : String) (log : Record) : Prop :=
  ∀ stmt result w, .stmt i stmt result w ∈ log →
    stmt.aside ∨ ∃ t, Presented i token t log ∧ stmt.about t

variable {token : String}

theorem Justified.stmt (justified : Justified i token log) {stmt : Stmt} {result : stmt.Res} {w : World}
    (cause : stmt.aside ∨ ∃ t, Presented i token t (.stmt i stmt result w :: log) ∧ stmt.about t) :
    Justified i token (.stmt i stmt result w :: log) := by
  intro stmt' result' w' member
  rcases List.mem_cons.mp member with same | before
  · cases same
    exact cause
  · refine (justified stmt' result' w' before).imp id ?_
    rintro ⟨t, presented, about⟩
    exact ⟨t, presented.later _, about⟩

theorem Justified.commit (justified : Justified i token log) (t : Tx) (w : World) :
    Justified i token (.commit i t w :: log) := by
  intro stmt result w' member
  rcases List.mem_cons.mp member with same | before
  · cases same
  · refine (justified stmt result w' before).imp id ?_
    rintro ⟨id, presented, about⟩
    exact ⟨id, presented.later _, about⟩

theorem along_aside {p : Program α} {tx : Option Tx} (aside : p.Issues Stmt.aside)
    (justified : Justified i token log) :
    Along (engine platform) .any i (Justified i token) (fun _ _ => True)
      (fun _ _ log => Justified i token log) p tx log :=
  Along.of_issues aside (fun _ _ _ _ aside justified => justified.stmt (.inl aside))
    (fun t w _ justified => justified.commit t w) (fun _ justified => justified)
    (fun _ _ _ => trivial) justified

theorem along_about {p : Program α} {tx : Option Tx} (about : About t p)
    (presented : Presented i token t log) (justified : Justified i token log) :
    Along (engine platform) .any i (Justified i token) (fun _ _ => True)
      (fun _ _ log => Justified i token log) p tx log := by
  refine (Along.of_issues (I := fun log => Presented i token t log ∧ Justified i token log) about ?_ ?_
    (fun _ here => here.2) (fun _ _ _ => trivial) ⟨presented, justified⟩).mono fun _ _ _ here => here.2
  · rintro stmt result w log about ⟨presented, justified⟩
    exact ⟨presented.later _, justified.stmt (.inr ⟨t, presented.later _, about⟩)⟩
  · rintro tx w log ⟨presented, justified⟩
    exact ⟨presented.later _, justified.commit tx w⟩

theorem along_verifyToken_justified {signature deviceId : String} {direction : GateDirection} :
    Along (engine platform) .any i (Justified i token) (fun _ _ => True)
      (fun _ _ log => Justified i token log) (verifyToken token signature deviceId direction)
      (some ⟨[]⟩) [] := by
  have fresh : Justified i token [] := by
    intro stmt result w member
    cases member
  refine Along.bind (Along.bind (along_issue (.tokenVerify token) (fun found w w' tx' executed => ?_)
    fun _ _ => trivial))
  have verified : Justified i token [.stmt i (.tokenVerify token) found w] :=
    fresh.stmt (.inl ⟨rfl, by simp⟩)
  obtain ⟨genuine, rfl⟩ : found = w.verified token ∧ tx' = some ⟨[]⟩ := by
    cases executed
    exact ⟨rfl, rfl⟩
  refine ⟨verified, ?_⟩
  cases found with
  | none => trivial
  | some payload =>
    have presented : Presented i token payload.tid [.stmt i (.tokenVerify token) (some payload) w] :=
      ⟨payload, w, List.mem_cons_self, genuine.symm, rfl⟩
    refine Along.bind (along_issue (.ticketFindUnique .tx payload.tid)
      (fun row w₁ w₂ tx₁ executed => ?_) fun _ _ => trivial)
    have same : row = w₁.ticket payload.tid := by
      cases executed
      rfl
    have read : Justified i token [.stmt i (.ticketFindUnique .tx payload.tid) row w₁,
        .stmt i (.tokenVerify token) (some payload) w] :=
      verified.stmt (.inr ⟨payload.tid, presented.later _, rfl⟩)
    refine ⟨read, ?_⟩
    cases row with
    | none => trivial
    | some ticket =>
      have key : ticket.id = payload.tid := Table.key_of_get? same.symm
      refine along_about (t := ticket.id) ?_ (key ▸ presented.later _) read
      dsimp only
      split
      · trivial
      · refine about_isBlocked.bind fun blocked => ?_
        split
        · trivial
        · exact about_checkDevice

theorem along_scan_justified {context : RequestContext} {input : SecurityScanInput} :
    Along (engine platform) .any i (Justified i input.token) (fun _ _ => True)
      (fun _ _ log => Justified i input.token log) (scan platform (Uuid.mk i) context input) none [] := by
  refine Along.bind (Along.transaction (along_verifyToken_justified.andThen fun result tx log here => ?_))
  refine (along_aside (aside_of_kinds kinds_scanned rfl) here).mono fun payload tx log here =>
    ⟨fun t w _ => ?_, fun _ => trivial⟩
  have committed := here.commit t w
  exact ⟨committed, along_aside (aside_of_kinds kinds_finished rfl) committed⟩

def Call.judges (i : Nat) (t : Uuid) (log : Record) : Call → Prop
  | .scan _ input => Presented i input.token t log
  | .applyDecision ticketId _ => ticketId = t
  | .resetShareGuard ticketId => ticketId = t
  | _ => False

def Names (i : Nat) (ids : List Uuid) (log : Record) : Prop :=
  ∀ stmt result w, .stmt i stmt result w ∈ log → ∀ t ∈ stmt.judges, t ∈ ids

def groundsStory : Story statements World Tx Call Exn Reply where
  keeps i call log :=
    match call with
    | .scan _ input => Justified i input.token log
    | .applyDecision ticketId _ => Names i [ticketId] log
    | .resetShareGuard ticketId => Names i [ticketId] log
    | _ => Names i [] log
  returns _ _ _ _ := True
  throws _ _ _ _ := True

theorem along_names {p : Program α} {ids : List Uuid}
    (issues : p.Issues fun stmt : Stmt => ∀ t ∈ stmt.judges, t ∈ ids) :
    Along (engine platform) .any i (Names i ids) (fun _ _ => True) (fun _ _ _ => True) p none [] := by
  refine (Along.of_issues (I := Names i ids) issues ?_ ?_ (fun _ here => here) (fun _ _ _ => trivial) ?_).mono
    fun _ _ _ _ => trivial
  · intro stmt result w log names here stmt' result' w' member
    rcases List.mem_cons.mp member with same | before
    · cases same
      exact names
    · exact here stmt' result' w' before
  · intro t w log here stmt result w' member
    rcases List.mem_cons.mp member with same | before
    · cases same
    · exact here stmt result w' before
  · intro stmt result w member
    cases member

theorem along_lenient {p : Program Reply} (lenient : Lenient p) :
    Along (engine platform) .any i (Names i []) (fun _ _ => True) (fun _ _ _ => True) p none [] := by
  refine along_names (lenient.mono fun stmt none t judged => ?_)
  rw [none] at judged
  cases judged

theorem names_about {stmt : Stmt} (about : stmt.about t) : ∀ id ∈ stmt.judges, id ∈ [t] := by
  intro id judged
  unfold Stmt.about at about
  split at about
  · cases judged
  · exact List.mem_singleton.mpr (about id judged)

theorem tells_grounds (call : Call) (i : Nat) :
    (service platform).Tells groundsStory .any i call ⟨program platform i call, none⟩ [] := by
  have lenient := @lenient_program platform i call
  cases call with
  | scan context input =>
    refine Along.bind ?_
    unfold TicketMutationResolver.scanToken
    split
    · trivial
    · exact along_scan_justified.mono fun _ _ _ _ => trivial
  | applyDecision ticketId result =>
    exact along_names (Prog.Issues.bind (about_applyDecision.mono fun _ => names_about) fun _ => trivial)
  | resetShareGuard ticketId =>
    exact along_names (Prog.Issues.bind (about_resetShareGuard.mono fun _ => names_about) fun _ => trivial)
  | _ => exact along_lenient (lenient rfl)

end Records

section Reachable

variable {w w' : World} {c : ServiceState} {call : Call}

theorem kept_grounds (reachable : (service platform).Reachable w c)
    (called : c.shared.calls[i]? = some call) {e : Event statements World Tx}
    (own : e ∈ c.shared.own i) : groundsStory.keeps i call (c.shared.own i) := by
  have tracked : (service platform).Tracked groundsStory .any c :=
    System.reachable_tracked reachable tells_grounds
  exact tracked.kept i call called (List.ne_nil_of_mem own)

/-- A call that judges a ticket has been given a token of the ticket, or it is a decision about it. -/
theorem judged_on_grounds (reachable : (service platform).Reachable w c)
    (called : c.shared.calls[i]? = some call) {stmt : Stmt} {result : stmt.Res}
    (issued : .stmt i stmt result w' ∈ c.shared.history) (judges : stmt.judges = some t) :
    call.judges i t (c.shared.own i) := by
  have own : .stmt i stmt result w' ∈ c.shared.own i := (Shared.mem_own _ _).mpr ⟨issued, rfl, rfl⟩
  have kept := kept_grounds reachable called own
  have listed {ids : List Uuid} (names : Names i ids (c.shared.own i)) : t ∈ ids :=
    names stmt result w' own t judges
  cases call with
  | scan context input =>
    rcases kept stmt result w' own with aside | ⟨id, presented, about⟩
    · rw [aside.1] at judges
      cases judges
    · obtain rfl : t = id := List.mem_singleton.mp (names_about about t judges)
      exact presented
  | applyDecision ticketId decision => exact (List.mem_singleton.mp (listed kept)).symm
  | resetShareGuard ticketId => exact (List.mem_singleton.mp (listed kept)).symm
  | _ => exact absurd (listed kept) List.not_mem_nil

theorem read_presented (reachable : (service platform).Reachable w c) {context : RequestContext}
    {input : SecurityScanInput} (called : c.shared.calls[i]? = some (.scan context input))
    {ticket : Ticket} (read : Read c.shared i .tx t ticket) :
    Presented i input.token t (c.shared.own i) := by
  obtain ⟨w', issued, -⟩ := read
  have own : .stmt i (.ticketFindUnique .tx t) (some ticket) w' ∈ c.shared.own i :=
    (Shared.mem_own _ _).mpr ⟨issued, rfl, rfl⟩
  rcases kept_grounds reachable called own _ _ w' own with aside | ⟨id, presented, about⟩
  · exact absurd rfl (aside.2 t)
  · obtain rfl : t = id := about
    exact presented

end Reachable

end TicketService
