import TicketService.Properties.Mediation

set_option autoImplicit false

namespace TicketService

open Interleaving Relational

variable {platform : Platform} {w : World} {g g' : Global} {i : Nat} {log : ScanLog}

def Call.Recorded (platform : Platform) (g : Global) (log : ScanLog) : Call → Prop
  | .scan _ input =>
    log.actorId = input.actorId ∧ log.direction = intendedState input.direction ∧
      log.gate = input.gate ∧ log.deviceId = some input.deviceId ∧
      Presented log.id.call input.token log.ticketId (g.own log.id.call) ∧
      Granted platform g log.id.call .scanTickets log.eventId input.actorId
  | .updatePresence _ ticketId state actorId =>
    log.ticketId = ticketId ∧ log.actorId = actorId ∧ log.direction = state ∧ log.verdict = .ok ∧
      log.gate = some "MANUAL" ∧ Granted platform g log.id.call .scanTickets log.eventId actorId
  | .revoke _ ticketId _ actorId =>
    log.ticketId = ticketId ∧ log.actorId = actorId ∧ log.direction = .outside ∧
      log.verdict = .revoked ∧ Granted platform g log.id.call .manageTickets log.eventId actorId
  | .resetDeviceBinding ticketId actorId =>
    log.ticketId = ticketId ∧ log.actorId = actorId ∧ log.verdict = .unknown ∧
      log.gate = some "MANUAL" ∧ Granted platform g log.id.call .manageTickets log.eventId actorId
  | _ => False

theorem Presented.extends {token : String} {t : Uuid} (moved : Extends g g')
    (presented : Presented i token t (g.own i)) : Presented i token t (g'.own i) := by
  obtain ⟨payload, w, member, verified, same⟩ := presented
  obtain ⟨issued, thread, step⟩ := (Shared.mem_own _ _).mp member
  exact ⟨payload, w, (Shared.mem_own _ _).mpr ⟨moved.history _ issued, thread, step⟩, verified, same⟩

theorem Call.Recorded.extends (moved : Extends g g') {call : Call}
    (recorded : call.Recorded platform g log) : call.Recorded platform g' log := by
  cases call with
  | scan context input =>
    obtain ⟨actor, direction, gate, device, presented, granted⟩ := recorded
    exact ⟨actor, direction, gate, device, presented.extends moved, granted.extends moved⟩
  | updatePresence context ticketId state actorId =>
    obtain ⟨ticket, actor, direction, verdict, gate, granted⟩ := recorded
    exact ⟨ticket, actor, direction, verdict, gate, granted.extends moved⟩
  | revoke context ticketId reason actorId =>
    obtain ⟨ticket, actor, direction, verdict, granted⟩ := recorded
    exact ⟨ticket, actor, direction, verdict, granted.extends moved⟩
  | resetDeviceBinding ticketId actorId =>
    obtain ⟨ticket, actor, verdict, gate, granted⟩ := recorded
    exact ⟨ticket, actor, verdict, gate, granted.extends moved⟩
  | _ => cases recorded

section Commits

def Write.scanLog : Write → Option ScanLog
  | .insertScanLog log => some log
  | _ => none

theorem Write.scanLogs (write : Write) (s : Store) :
    (write.apply s).scanLogs.Sublist (s.scanLogs ++ write.scanLog.toList) := by
  cases write with
  | putTicket id state now =>
    have same : ((putTicket id state now).apply s).scanLogs = s.scanLogs := by
      simp only [Write.apply, Store.putTicket]
      split <;> rfl
    simp [same, Write.scanLog]
  | deleteTickets ids => simp [Write.apply, Write.scanLog]
  | deleteScanLogs ids => simp [Write.apply, Write.scanLog]
  | _ => simp [Write.apply, Write.scanLog]

theorem Tx.scanLogs (tx : Tx) (s : Store) :
    (tx.apply s).scanLogs.Sublist (s.scanLogs ++ tx.writes.filterMap Write.scanLog) := by
  obtain ⟨writes⟩ := tx
  induction writes generalizing s with
  | nil => exact .trans (.refl _) (List.sublist_append_left _ _)
  | cons write rest ih =>
    have later := ih (write.apply s)
    have first := (write.scanLogs s).append (.refl (rest.filterMap Write.scanLog))
    have whole : (write :: rest).filterMap Write.scanLog =
        write.scanLog.toList ++ rest.filterMap Write.scanLog := by
      cases logged : write.scanLog <;> simp [logged]
    rw [whole, ← List.append_assoc]
    exact later.trans first

theorem commit_recorded {c : ServiceState} (reachable : (service platform).Reachable w c)
    (moved : Extends g c.shared) {tx : Tx} (commits : Commits platform g i tx) :
    tx.writes.filterMap Write.scanLog = [] ∨ ∃ log call, tx.writes.filterMap Write.scanLog = [log] ∧
      log.id = ⟨i, 0⟩ ∧ c.shared.calls[i]? = some call ∧ call.Recorded platform c.shared log := by
  cases commits with
  | created context data createdAt fact called free enqueued => exact .inl rfl
  | activated input ticket row siblings now updatedAt unboundAt activation present cleaned locked =>
    left
    simp [Write.scanLog]
  | deleted call ids gone called kind within rest => exact .inl rfl
  | empty call called deletes => exact .inl rfl
  | revoked context ticketId reason actorId ticket row now updatedAt createdAt fact called read granted
      valid present enqueued =>
    exact .inr ⟨_, _, rfl, rfl, moved.calls i _ called, rfl, rfl, rfl, rfl, granted.extends moved⟩
  | presence context ticketId state actorId ticket row checkedInAt updatedAt createdAt fact called
      override present enqueued =>
    exact .inr ⟨_, _, rfl, rfl, moved.calls i _ called, rfl, rfl, rfl, rfl, rfl, override.granted.extends moved⟩
  | reset ticketId actorId ticket row updatedAt createdAt called read granted present =>
    exact .inr ⟨_, _, rfl, rfl, moved.calls i _ called, rfl, rfl, rfl, rfl, granted.extends moved⟩
  | accepted context input payload ticket row checkedInAt updatedAt returnedAt createdAt scanned
      presence called accepted granted present enqueued enqueued' =>
    have called' := moved.calls i _ called
    have presented := read_presented reachable called' (moved.seen accepted.admitted.read)
    rw [← accepted.admitted.read.id] at presented
    exact .inr ⟨_, _, rfl, rfl, called', rfl, rfl, rfl, rfl, presented, granted.extends moved⟩
  | rejected context input result createdAt fact called refused read granted present enqueued =>
    have called' := moved.calls i _ called
    have presented := read_presented reachable called' (moved.seen read)
    rw [← read.id] at presented
    exact .inr ⟨_, _, rfl, rfl, called', rfl, rfl, rfl, rfl, presented, granted.extends moved⟩

end Commits

structure Attributed (platform : Platform) (g : Global) (logs : List ScanLog) : Prop where
  recorded : ∀ log ∈ logs, ∃ call, g.calls[log.id.call]? = some call ∧ call.Recorded platform g log
  committed : ∀ log ∈ logs, Committed g log.id.call
  distinct : (logs.map (·.id.call)).Nodup

theorem Attributed.sublist {logs logs' : List ScanLog} (attributed : Attributed platform g logs)
    (sublist : logs'.Sublist logs) : Attributed platform g logs' where
  recorded log member := attributed.recorded log (sublist.subset member)
  committed log member := attributed.committed log (sublist.subset member)
  distinct := attributed.distinct.sublist (sublist.map _)

theorem Attributed.extends {logs : List ScanLog} (attributed : Attributed platform g logs)
    (moved : Extends g g') : Attributed platform g' logs where
  recorded log member := by
    obtain ⟨call, called, recorded⟩ := attributed.recorded log member
    exact ⟨call, moved.calls _ _ called, recorded.extends moved⟩
  committed log member := moved.committed (attributed.committed log member)
  distinct := attributed.distinct

theorem Attributed.logged {logs : List ScanLog} (attributed : Attributed platform g logs) {call : Call}
    (moved : Extends g g') (first : ¬Committed g i) (last : Committed g' i) (id : log.id = ⟨i, 0⟩)
    (called : g'.calls[i]? = some call) (recorded : call.Recorded platform g' log) :
    Attributed platform g' (logs ++ [log]) where
  recorded other member := by
    rcases List.mem_append.mp member with before | same
    · exact (attributed.extends moved).recorded other before
    · obtain rfl := List.mem_singleton.mp same
      exact ⟨call, by rw [id]; exact called, recorded⟩
  committed other member := by
    rcases List.mem_append.mp member with before | same
    · exact moved.committed (attributed.committed other before)
    · obtain rfl := List.mem_singleton.mp same
      rw [id]
      exact last
  distinct := by
    rw [List.map_append, List.map_singleton, ← List.concat_eq_append, List.nodup_concat]
    refine ⟨fun member => ?_, attributed.distinct⟩
    obtain ⟨other, before, same⟩ := List.mem_map.mp member
    have call : other.id.call = i := by rw [same, id]
    exact first (call ▸ attributed.committed other before)

/-- In every state of every run, each scan log is that of the call that its id names, whose actor had
been granted the permission for its event, and no two scan logs are of one call. -/
theorem logs_attributed (pristine : Pristine w) {c : ServiceState}
    (reachable : (service platform).Reachable w c) :
    Attributed platform c.shared c.shared.world.store.scanLogs := by
  refine reachable_induction pristine reachable
    (fun g => Attributed platform g g.world.store.scanLogs) ?_ ?_
  · have empty : ((service platform).initial w).shared.world.store.scanLogs = [] := pristine.scanLogs
    rw [empty]
    exact ⟨by simp, by simp, by simp⟩
  · intro actor b c before after change attributed
    have moved := change.extends
    have recorded {i : Nat} {tx : Tx} := @commit_recorded platform w b.shared i c after moved tx
    have kept := attributed.extends moved
    generalize c.shared = g' at change moved kept recorded
    cases change with
    | invoke call => exact kept
    | environ action => cases action <;> exact kept
    | rollback i => exact kept
    | stmt i stmt result w₁ tx tx' executed issued =>
      have same : w₁.store.scanLogs = b.shared.world.store.scanLogs := by
        rcases exec_cases executed with ⟨-, -, same, -⟩ | ⟨rfl, -⟩ | ⟨id, data, row, -, -, -, rfl⟩
        · exact same
        · rfl
        · simp only [Store.putTicket]
          split <;> rfl
      refine kept.sublist ?_
      exact same ▸ .refl _
    | commit i tx commits first =>
      refine Attributed.sublist ?_ (tx.scanLogs b.shared.world.store)
      rcases recorded commits with none | ⟨log, call, written, id, called, recorded⟩
      · rw [none, List.append_nil]
        exact kept
      · rw [written]
        exact attributed.logged moved first ⟨tx, _, List.mem_cons_self⟩ id called recorded

section Samples

open Sample

def admittedAndRevoked : List ServiceAct :=
  prepared ++ call 4 (.scan context entry) 30 ++ call 5 (.revoke context ticket none staff) 14

theorem admission_attributed :
    (run admittedAndRevoked).shared.world.store.scanLogs.map (·.id.call) = [4, 5] ∧
      Attributed deployment (run admittedAndRevoked).shared
        (run admittedAndRevoked).shared.world.store.scanLogs :=
  ⟨by decide +kernel, logs_attributed pristine_empty (reachable_run _)⟩

end Samples

end TicketService
