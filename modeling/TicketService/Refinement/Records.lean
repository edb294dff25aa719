import TicketService.Interleaving.Along
import TicketService.Refinement.Service

set_option autoImplicit false

namespace TicketService

open Interleaving Relational

abbrev Record := Log statements World Tx

variable {platform : Platform} {m : Mishaps statements World Tx} {i : Nat}
  {keeps : Record → Prop} {throws : Exn → Record → Prop} {tx : Option Tx} {log : Record}

def EntryCreated (i : Nat) (log : Record) (entry : ScanLog) : Prop :=
  ∃ row w, (.stmt i (.scanLogCreate row) entry w : Event statements World Tx) ∈ log

theorem EntryCreated.later {entry : ScanLog} (logged : EntryCreated i log entry)
    (e : Event statements World Tx) : EntryCreated i (e :: log) entry := by
  obtain ⟨row, w, member⟩ := logged
  exact ⟨row, w, List.mem_cons_of_mem e member⟩

section Issue

theorem along_issue (stmt : Stmt) {Q : stmt.Res → Option Tx → Record → Prop}
    (step : ∀ result w w' tx', exec platform stmt w tx = some (result, w', tx') →
      keeps (.stmt i stmt result w :: log) ∧ Q result tx' (.stmt i stmt result w :: log))
    (fails : ∀ w, m.fails stmt w tx → throws .statementFailed log) :
    Along (engine platform) m i keeps throws Q (issue stmt) tx log :=
  Along.perform step fails

end Issue

def Unlogged (i : Nat) (e : Event statements World Tx) : Prop :=
  ∀ entry, ¬EntryCreated i [e] entry

section Scan

open AnalyticsOutboxService ScanService TicketEventRoleResolver VerifyService

variable {R : VerifyResult → Record → Prop} {result : VerifyResult} {context : RequestContext}
  {input : SecurityScanInput}
  (plain : ∀ result log e, Unlogged i e → R result log → keeps (e :: log) ∧ R result (e :: log))
  (logs : ∀ result log row entry w, entry.verdict = result.verdict →
    entry.ticketId = result.ticket.id → R result log →
    keeps (.stmt i (.scanLogCreate row) entry w :: log) ∧
      R result (.stmt i (.scanLogCreate row) entry w :: log))
  (fails : ∀ error log, throws error log)

theorem unlogged_stmt {stmt : Stmt} {value : stmt.Res} {w : World}
    (other : ∀ row, stmt ≠ .scanLogCreate row) : Unlogged i (.stmt i stmt value w) := by
  rintro entry ⟨row, w', member⟩
  cases List.mem_singleton.mp member
  exact other row rfl

theorem unlogged_send {message : Message} {w : World} :
    Unlogged i (.stmt i (.send message) () w) :=
  unlogged_stmt (by simp)

theorem unlogged_commit {t : Tx} {w : World} : Unlogged i (.commit i t w) := by
  rintro entry ⟨row, w', member⟩
  cases List.mem_singleton.mp member

include plain fails

theorem along_plain {stmt : Stmt} (other : ∀ row, stmt ≠ .scanLogCreate row)
    (before : R result log) :
    Along (engine platform) m i keeps throws (fun _ _ log => R result log) (issue stmt) tx log :=
  along_issue stmt (fun _ _ _ _ _ => plain result log _ (unlogged_stmt other) before)
    fun _ _ => fails _ _

theorem along_getPermissionsForUser {userId eventId : Uuid} (before : R result log) :
    Along (engine platform) m i keeps throws (fun _ _ log => R result log)
      (getPermissionsForUser platform userId eventId) tx log := by
  refine (along_plain plain fails (by simp) before).andThen fun access tx log here => ?_
  cases access with
  | some access => exact here
  | none =>
    refine Along.bind (Along.bind ?_)
    exact (along_plain plain fails (by simp) here).mono fun _ _ _ here => here

theorem along_enqueue {id : Uuid} {topic : FactTopic} {fact : FactInput} (before : R result log) :
    Along (engine platform) m i keeps throws (fun _ _ log => R result log)
      (enqueue platform context id topic fact) tx log := by
  unfold enqueue
  cases tenant platform context with
  | none => exact fails _ _
  | some tenantId =>
    refine (along_plain plain fails (by simp) before).andThen fun now tx log here => ?_
    split
    · exact (along_plain plain fails (by simp) here).andThen fun _ _ _ here => here
    · exact fails _ _

include logs

theorem along_recordScan (before : R result log) :
    Along (engine platform) m i keeps throws
      (fun payload _ log => payload.verdict = result.verdict ∧ R result log)
      (recordScan platform (Uuid.mk i) context input result) tx log := by
  refine Along.bind (along_issue _ (fun entry w w' tx' executed => ?_) fun _ _ => fails _ _)
  have created : entry = scanLogRow ⟨i, 0⟩ result input w.clock := by
    simp only [exec] at executed
    split at executed
    · obtain ⟨t, -, same⟩ := Option.map_eq_some_iff.mp executed
      cases same
      rfl
    · cases executed
  obtain ⟨kept, here⟩ := logs result log _ entry w (created ▸ rfl) (created ▸ rfl) before
  refine ⟨kept, (along_enqueue plain fails here).andThen fun _ tx log here => ?_⟩
  split
  · exact (along_enqueue plain fails here).andThen fun _ _ _ here => ⟨rfl, here⟩
  · exact ⟨rfl, here⟩

theorem along_scan
    (verified : Along (engine platform) m i keeps throws (fun result _ log => R result log)
      (verifyToken input.token input.signature input.deviceId input.direction) (some ⟨[]⟩) []) :
    Along (engine platform) m i keeps throws
      (fun payload _ log => ∃ result, payload.verdict = result.verdict ∧ R result log)
      (scan platform (Uuid.mk i) context input) none [] := by
  refine Along.bind (Along.transaction ?_)
  refine verified.andThen fun result tx log here => ?_
  refine Along.bind ((along_getPermissionsForUser plain fails here).mono
    fun permissions tx log here => ?_)
  split
  · refine (along_recordScan plain logs fails here).mono fun payload tx log here => ?_
    obtain ⟨verdict, here⟩ := here
    refine ⟨fun t w _ => ?_, fun _ => fails _ _⟩
    obtain ⟨kept, here⟩ := plain result log (.commit i t w) unlogged_commit here
    refine ⟨kept, ?_⟩
    split
    · refine Along.bind (And.intro (fun _ w w' tx' _ => ?_) fun _ _ => ⟨result, verdict, here⟩)
      obtain ⟨kept, here⟩ := plain result _ _ unlogged_send here
      exact ⟨kept, result, verdict, here⟩
    · exact ⟨result, verdict, here⟩
  · exact fails _ _

end Scan

section Logs

theorem exec_logs {stmt : Stmt} {result : stmt.Res} {w w' : World} {tx' : Option Tx}
    (executed : exec platform stmt w tx = some (result, w', tx')) {t' : Tx}
    (opened : tx' = some t') {entry : ScanLog} (member : .insertScanLog entry ∈ t'.writes) :
    (∃ t, tx = some t ∧ .insertScanLog entry ∈ t.writes) ∨
      EntryCreated i [.stmt i stmt result w] entry := by
  cases exec_effect executed with
  | writes stmt result t added before locked logged =>
    cases opened
    rcases List.mem_append.mp member with old | new
    · exact .inl ⟨t, before, old⟩
    · have created := logged entry new
      cases stmt with
      | scanLogCreate row =>
        cases created
        exact .inr ⟨row, w, List.mem_singleton_self _⟩
      | _ => cases created
  | _ => exact .inl ⟨t', opened, member⟩

def LogsCreated (i : Nat) (log : Record) : Prop :=
  ∀ t w, .commit i t w ∈ log → ∀ entry, .insertScanLog entry ∈ t.writes → EntryCreated i log entry

def logsStory : Story statements World Tx Call Exn Reply where
  keeps i _ log := LogsCreated i log
  returns _ _ _ _ := True
  throws _ _ _ _ := True

theorem LogsCreated.later (created : LogsCreated i log) {e : Event statements World Tx}
    (open_logs : ∀ t w, e = .commit i t w → ∀ entry, .insertScanLog entry ∈ t.writes →
      EntryCreated i log entry) : LogsCreated i (e :: log) := by
  intro t w member entry written
  rcases List.mem_cons.mp member with same | before
  · exact (open_logs t w same.symm entry written).later e
  · exact (created t w before entry written).later e

theorem tells_logs (call : Call) (i : Nat) :
    (service platform).Tells logsStory .any i call ⟨program platform i call, none⟩ [] := by
  refine Along.invariant (I := fun tx log => LogsCreated i log ∧
    ∀ t, tx = some t → ∀ entry, .insertScanLog entry ∈ t.writes → EntryCreated i log entry)
    ?_ ?_ ?_ ?_ ?_ ?_ ?_
  · rintro stmt w tx result w' tx' log ⟨created, held⟩ executed
    have after : LogsCreated i (.stmt i stmt result w :: log) :=
      created.later fun t w' same => by cases same
    refine ⟨⟨after, fun t opened entry written => ?_⟩, after⟩
    have cases : (∃ t, tx = some t ∧ .insertScanLog entry ∈ t.writes) ∨
        EntryCreated i [.stmt i stmt result w] entry := exec_logs executed opened written
    rcases cases with ⟨t', before, old⟩ | ⟨row, w', new⟩
    · exact (held t' before entry old).later _
    · exact ⟨row, w', List.mem_cons.mpr (.inl (List.mem_singleton.mp new))⟩
  · rintro tx log ⟨created, -⟩
    refine ⟨created, fun t opened entry written => ?_⟩
    cases opened
    cases written
  · rintro t w log ⟨created, held⟩
    have after : LogsCreated i (.commit i t w :: log) :=
      created.later fun t' w' same entry written => by
        cases same
        exact held t rfl entry written
    exact ⟨⟨after, fun t' opened => by cases opened⟩, after⟩
  · rintro tx log ⟨created, -⟩
    exact ⟨created, fun t opened => by cases opened⟩
  · exact fun _ _ _ _ => trivial
  · exact fun _ _ _ _ => trivial
  · constructor
    · intro t w member
      cases member
    · intro t opened
      cases opened

theorem committed_logged {w w' : World} {c : ServiceState}
    (reachable : (service platform).Reachable w c) {t : Tx}
    (committed : .commit i t w' ∈ c.shared.history) {entry : ScanLog}
    (written : .insertScanLog entry ∈ t.writes) : EntryCreated i (c.shared.own i) entry := by
  have tracked : (service platform).Tracked logsStory .any c :=
    System.reachable_tracked reachable tells_logs
  have member : .commit i t w' ∈ c.shared.own i :=
    (Shared.mem_own _ _).mpr ⟨committed, rfl, rfl⟩
  have within : i < c.shared.calls.length := by
    rw [← tracked.numbered]
    exact System.thread_of_history reachable _ committed
  have called := List.getElem?_eq_getElem within
  exact tracked.kept i _ called (List.ne_nil_of_mem member) t w' member entry written

end Logs

end TicketService
