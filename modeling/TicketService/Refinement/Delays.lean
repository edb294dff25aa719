import TicketService.Refinement.Grounds
import TicketService.Refinement.Trail

set_option autoImplicit false

namespace TicketService

open Interleaving Relational ScanService ShareGuardService TicketEventRoleResolver VerifyService

variable {platform : Platform} {i : Nat} {t : Uuid} {log : Record} {tx : Option Tx} {α : Type}

def Timed (i : Nat) (log : Record) (data : ShareGuard → ShareGuard) : Prop :=
  data = cleared ∨ ∃ now w failCount reason, .stmt i .now now w ∈ log ∧ now = w.clock ∧
    (data = failed now failCount reason ∨ data = blocked now failCount reason)

structure Punctual (i : Nat) (log : Record) : Prop where
  blocks : ∀ t data row w, .stmt i (.shareGuardUpdate t data) row w ∈ log → Timed i log data
  keys : ∀ t nonce seconds acquired w, .stmt i (.rawSetIfAbsent t nonce seconds) acquired w ∈ log →
    seconds = 120

theorem punctual_nil : Punctual i [] := by
  constructor
  · intro t data row w member
    cases member
  · intro t nonce seconds acquired w member
    cases member

theorem Timed.later {data : ShareGuard → ShareGuard} (timed : Timed i log data)
    (e : Event statements World Tx) : Timed i (e :: log) data := by
  refine timed.imp_right ?_
  rintro ⟨now, w, failCount, reason, member, read, same⟩
  exact ⟨now, w, failCount, reason, List.mem_cons_of_mem e member, read, same⟩

def Stmt.brief : Stmt → Prop
  | .shareGuardUpdate _ data => data = cleared
  | .rawSetIfAbsent _ _ seconds => seconds = 120
  | _ => True

theorem Punctual.commit (punctual : Punctual i log) (t : Tx) (w : World) :
    Punctual i (.commit i t w :: log) where
  blocks t data row w member := by
    rcases List.mem_cons.mp member with same | before
    · cases same
    · exact (punctual.blocks t data row w before).later _
  keys t nonce seconds acquired w member := by
    rcases List.mem_cons.mp member with same | before
    · cases same
    · exact punctual.keys t nonce seconds acquired w before

theorem Punctual.stmt (punctual : Punctual i log) {stmt : Stmt} {result : stmt.Res} {w : World}
    (timed : ∀ t data, stmt = .shareGuardUpdate t data → Timed i log data)
    (keys : ∀ t nonce seconds, stmt = .rawSetIfAbsent t nonce seconds → seconds = 120) :
    Punctual i (.stmt i stmt result w :: log) where
  blocks t data row w' member := by
    rcases List.mem_cons.mp member with same | before
    · cases same
      exact (timed t data rfl).later _
    · exact (punctual.blocks t data row w' before).later _
  keys t nonce seconds acquired w' member := by
    rcases List.mem_cons.mp member with same | before
    · cases same
      exact keys t nonce seconds rfl
    · exact punctual.keys t nonce seconds acquired w' before

theorem Punctual.brief (punctual : Punctual i log) {stmt : Stmt} {result : stmt.Res} {w : World}
    (brief : stmt.brief) : Punctual i (.stmt i stmt result w :: log) := by
  refine punctual.stmt ?_ ?_
  · rintro t data rfl
    exact .inl brief
  · rintro t nonce seconds rfl
    exact brief

section Programs

variable (platform) in
abbrev AlongPunctual (i : Nat) (p : Program α) (tx : Option Tx) (log : Record) : Prop :=
  Along (engine platform) .any i (Punctual i) (fun _ _ => True) (fun _ _ log => Punctual i log) p tx log

theorem along_brief {p : Program α} (issues : p.Issues Stmt.brief) (punctual : Punctual i log) :
    AlongPunctual platform i p tx log :=
  Along.of_issues issues (fun _ _ _ _ brief punctual => punctual.brief brief)
    (fun t w _ punctual => punctual.commit t w) (fun _ punctual => punctual) (fun _ _ _ => trivial) punctual

theorem along_applyDecision_punctual {result : RiskResult} (punctual : Punctual i log) :
    AlongPunctual platform i (applyDecision t result) tx log := by
  refine Along.bind (along_issue _ (fun now w w' tx' executed => ?_) fun _ _ => trivial)
  cases executed
  have read : Punctual i (.stmt i .now w.clock w :: log) := punctual.brief trivial
  refine ⟨read, Along.bind (along_issue _ (fun guard w₁ w' tx' _ => ?_) fun _ _ => trivial)⟩
  have counted : Punctual i (.stmt i (.shareGuardUpsert t) guard w₁ :: .stmt i .now w.clock w :: log) :=
    read.brief trivial
  have sets {data : ShareGuard → ShareGuard}
      (same : ∃ failCount reason, data = failed w.clock failCount reason ∨
        data = blocked w.clock failCount reason) :
      AlongPunctual platform i ((issue (.shareGuardUpdate t data)).bind fun _ => .done () : Program Unit) tx'
        (.stmt i (.shareGuardUpsert t) guard w₁ :: .stmt i .now w.clock w :: log) := by
    obtain ⟨failCount, reason, same⟩ := same
    refine Along.bind (along_issue _ (fun row w₂ w' tx' _ => ?_) fun _ _ => trivial)
    have punctual : Punctual i (.stmt i (.shareGuardUpdate t data) row w₂ ::
        .stmt i (.shareGuardUpsert t) guard w₁ :: .stmt i .now w.clock w :: log) := by
      refine counted.stmt ?_ nofun
      rintro _ _ ⟨⟩
      exact .inr ⟨w.clock, w, failCount, reason, List.mem_cons_of_mem _ List.mem_cons_self, rfl, same⟩
    exact ⟨punctual, punctual⟩
  refine ⟨counted, ?_⟩
  dsimp only
  split
  · exact along_brief ((Prog.Issues.perform trivial).bind fun _ => trivial) counted
  · split
    · exact sets ⟨_, _, .inr rfl⟩
    · exact sets ⟨_, _, .inl rfl⟩

variable {ticket : Ticket} {payload : QrPayload} {direction : GateDirection}

theorem along_rejectRisk_punctual {risk : RiskInput} {verdict : ScanVerdict} {message : String}
    (punctual : Punctual i log) :
    AlongPunctual platform i (rejectRisk ticket payload risk verdict message) tx log :=
  (along_applyDecision_punctual punctual).andThen fun _ _ _ punctual => punctual

theorem brief_issue {stmt : Stmt} (brief : stmt.brief) : (issue stmt).Issues Stmt.brief :=
  Prog.Issues.perform brief

theorem brief_resetShareGuard : (resetShareGuard t).Issues Stmt.brief := by
  refine (brief_issue (by trivial)).bind fun guard => ?_
  cases guard with
  | none => trivial
  | some guard => exact (brief_issue (by exact rfl)).bind fun _ => trivial

def Kind.brief : Kind → Bool
  | .shareGuardUpdate => false
  | .rawSetIfAbsent => false
  | _ => true

theorem brief_of_kinds {ks : List Kind} {p : Program α} (issues : Kinds ks p)
    (listed : ks.all Kind.brief = true) : p.Issues Stmt.brief := by
  refine issues.all listed fun stmt other => ?_
  unfold Stmt.brief
  split
  · cases other
  · cases other
  · trivial

theorem along_applyDirectionPolicy_punctual (punctual : Punctual i log) :
    AlongPunctual platform i (applyDirectionPolicy ticket payload direction) tx log := by
  unfold applyDirectionPolicy
  simp only
  split
  · exact punctual
  · refine (along_brief (brief_of_kinds kinds_eventEnded rfl) punctual).andThen fun ended tx log punctual => ?_
    split
    · exact punctual
    · refine (along_brief (brief_issue (by exact rfl)) punctual).andThen fun acquired tx log punctual => ?_
      split
      · exact along_brief (brief_resetShareGuard.bind fun _ => brief_of_kinds kinds_rotateNonce rfl) punctual
      · exact along_rejectRisk_punctual punctual

theorem along_verifyToken_punctual {token signature deviceId : String} (punctual : Punctual i log) :
    AlongPunctual platform i (verifyToken token signature deviceId direction) tx log := by
  refine (along_brief (brief_issue (by trivial)) punctual).andThen fun payload tx log punctual => ?_
  cases payload with
  | none => trivial
  | some payload =>
    refine (along_brief (brief_issue (by trivial)) punctual).andThen fun row tx log punctual => ?_
    cases row with
    | none => trivial
    | some ticket =>
      dsimp only
      split
      · exact punctual
      refine (along_brief (brief_of_kinds kinds_isBlocked rfl) punctual).andThen
        fun blocked tx log punctual => ?_
      split
      · exact punctual
      unfold checkDevice
      split
      · exact punctual
      refine (along_brief (brief_issue (by trivial)) punctual).andThen fun genuine tx log punctual => ?_
      split
      · exact along_rejectRisk_punctual punctual
      split
      · exact along_rejectRisk_punctual punctual
      unfold checkNonce
      split
      · exact along_rejectRisk_punctual punctual
      split
      · exact along_rejectRisk_punctual punctual
      · exact along_applyDirectionPolicy_punctual punctual

theorem along_scan_punctual {context : RequestContext} {input : SecurityScanInput} :
    AlongPunctual platform i (scan platform (Uuid.mk i) context input) none [] := by
  refine Along.bind (Along.transaction
    ((along_verifyToken_punctual punctual_nil).andThen fun result tx log punctual => ?_))
  refine (along_brief (brief_of_kinds kinds_scanned rfl) punctual).mono fun payload tx log punctual =>
    ⟨fun t w _ => ?_, fun _ => trivial⟩
  have committed := punctual.commit t w
  exact ⟨committed, along_brief (brief_of_kinds kinds_finished rfl) committed⟩

def delayStory : Story statements World Tx Call Exn Reply where
  keeps i _ log := Punctual i log
  returns _ _ _ _ := True
  throws _ _ _ _ := True

theorem tells_delays (call : Call) (i : Nat) :
    (service platform).Tells delayStory .any i call ⟨program platform i call, none⟩ [] := by
  have kinds := @kinds_program platform call i
  cases call with
  | scan context input =>
    refine Along.bind ?_
    unfold TicketMutationResolver.scanToken
    split
    · trivial
    · exact along_scan_punctual.mono fun _ _ _ _ => trivial
  | applyDecision ticketId result =>
    exact (along_applyDecision_punctual punctual_nil).andThen fun _ _ _ _ => trivial
  | resetShareGuard ticketId =>
    exact (along_brief brief_resetShareGuard punctual_nil).andThen fun _ _ _ _ => trivial
  | _ => exact (along_brief (brief_of_kinds kinds rfl) punctual_nil).mono fun _ _ _ _ => trivial

end Programs

end TicketService
