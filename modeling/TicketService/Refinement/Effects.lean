import TicketService.Model.Store

set_option autoImplicit false

namespace TicketService

open Relational

def World.failures (w : World) (t : Uuid) : Nat :=
  (w.guard t).elim 0 (·.failCount)

def World.invited (w : World) (invitationId : Uuid) : Option Ticket :=
  w.store.tickets.rows.find? fun row => row.invitationId = invitationId

def Stmt.logs : (stmt : Stmt) → stmt.Res → Option ScanLog
  | .scanLogCreate _, log => some log
  | _, _ => none

inductive Effect (platform : Platform) (w : World) (tx : Option Tx) :
    (stmt : Stmt) → stmt.Res → World → Option Tx → Prop where
  | reads (stmt : Stmt) (result : stmt.Res) : Effect platform w tx stmt result w tx
  | mints (payload : QrPayload) (token : String) :
      Effect platform w tx (.tokenGenerate payload) token
        { w with minted := w.minted ++ [⟨platform.compactJwe w.minted.length, payload, w.epoch⟩] } tx
  | sends (message : Message) :
      Effect platform w tx (.send message) () { w with sent := w.sent ++ [message] } tx
  | writes (stmt : Stmt) (result : stmt.Res) (t : Tx) (added : List Write) :
      tx = some t → (∀ l ∈ added.flatMap Write.locks, l ∈ needs stmt w tx) →
      (∀ log, .insertScanLog log ∈ added → stmt.logs result = some log) →
      Effect platform w tx stmt result w (some ⟨t.writes ++ added⟩)
  | ticketUpdate (id : Uuid) (data : TicketState → TicketState) (row : Ticket) :
      w.ticket id = some row →
      Effect platform w tx (.ticketUpdate .prisma id data) (row.updated data w.clock)
        { w with store := w.store.putTicket id (data row.toTicketState) w.clock } tx
  | shareGuardUpsert (ticketId : Uuid) :
      w.guard ticketId = none →
      Effect platform w tx (.shareGuardUpsert ticketId) (ShareGuard.created ticketId)
        { w with store.shareGuards := w.store.shareGuards.insert (ShareGuard.created ticketId) } tx
  | shareGuardUpdate (ticketId : Uuid) (data : ShareGuard → ShareGuard) (row : ShareGuard) :
      w.guard ticketId = some row →
      Effect platform w tx (.shareGuardUpdate ticketId data) (row.updated data)
        { w with store.shareGuards := w.store.shareGuards.put (row.updated data) } tx
  | rawSetIfAbsent (ticketId : Uuid) (nonce seconds : Nat) :
      w.replayKeyLive ticketId nonce = false →
      Effect platform w tx (.rawSetIfAbsent ticketId nonce seconds) true
        { w with
          store.replayKeys := w.store.replayKeys.upsert ⟨ticketId, nonce, w.clock + seconds * 1000⟩ } tx
  | accessUpsert (row : EventAccessProjection) (data : EventAccessProjection → EventAccessProjection)
      (rows : Table EventAccessProjection _ _) :
      Effect platform w tx (.accessUpsert row data) () { w with store.eventAccess := rows } tx
  | accessDeleteMany (ids : List Uuid) (rows : Table EventAccessProjection _ _) :
      Effect platform w tx (.accessDeleteMany ids) () { w with store.eventAccess := rows } tx
  | roleUpsert (row : EventRoleProjection) (rows : Table EventRoleProjection _ _) :
      Effect platform w tx (.roleUpsert row) () { w with store.eventRoles := rows } tx
  | roleDeleteMany (filter : Uuid × Uuid → Bool) (rows : Table EventRoleProjection _ _) :
      Effect platform w tx (.roleDeleteMany filter) () { w with store.eventRoles := rows } tx
  | settingsUpsert (row : EventSettingsProjection)
      (data : EventSettingsProjection → EventSettingsProjection)
      (rows : Table EventSettingsProjection _ _) :
      Effect platform w tx (.settingsUpsert row data) () { w with store.eventSettings := rows } tx
  | settingsDeleteMany (ids : List Uuid) (rows : Table EventSettingsProjection _ _) :
      Effect platform w tx (.settingsDeleteMany ids) () { w with store.eventSettings := rows } tx

variable {platform : Platform} {stmt : Stmt} {w w' : World} {tx tx' : Option Tx}

private theorem Effect.of_writes {result value : stmt.Res} {added : List Write}
    (executed : TicketService.writes value added w tx = some (result, w', tx'))
    (locked : ∀ l ∈ added.flatMap Write.locks, l ∈ needs stmt w tx)
    (logged : ∀ log, .insertScanLog log ∈ added → stmt.logs value = some log) :
    Effect platform w tx stmt result w' tx' := by
  obtain ⟨t, opened, same⟩ := Option.map_eq_some_iff.mp executed
  cases same
  exact .writes stmt _ t added opened locked logged

theorem exec_effect {result : stmt.Res} (executed : exec platform stmt w tx = some (result, w', tx')) :
    Effect platform w tx stmt result w' tx' := by
  cases stmt with
  | tokenGenerate payload =>
    cases executed
    exact .mints payload _
  | send message =>
    cases executed
    exact .sends message
  | ticketCreate row =>
    simp only [exec] at executed
    split at executed
    · cases executed
    · exact .of_writes executed (by simp [needs]) (by simp)
  | ticketUpdate client id data =>
    cases client with
    | tx =>
      obtain ⟨row, found, stored⟩ := Option.bind_eq_some_iff.mp executed
      exact .of_writes stored (by simp [needs, World.clientView, found, Write.locks]) (by simp)
    | prisma =>
      obtain ⟨row, found, stored⟩ := Option.bind_eq_some_iff.mp executed
      cases stored
      exact .ticketUpdate id data row found
  | ticketUpdateMany filter data =>
    exact .of_writes executed (by simp [needs, Write.locks, List.flatMap_map, eq_comm]) (by simp)
  | ticketDelete id =>
    simp only [exec] at executed
    split at executed
    next found => exact .of_writes executed (by simp [needs, found, Write.locks]) (by simp)
    · cases executed
  | ticketDeleteMany ids => exact .of_writes executed (by simp [needs, Write.locks]) (by simp)
  | scanLogCreate row =>
    simp only [exec] at executed
    split at executed
    · exact .of_writes executed (by simp [needs, Write.locks]) (by simp [Stmt.logs])
    · cases executed
  | scanLogDeleteMany ids => exact .of_writes executed (by simp [Write.locks]) (by simp)
  | shareGuardUpsert ticketId =>
    simp only [exec] at executed
    split at executed
    · cases executed
      exact .reads _ _
    next absent =>
      split at executed
      · cases executed
        exact .shareGuardUpsert ticketId absent
      · cases executed
  | shareGuardUpdate ticketId data =>
    obtain ⟨row, found, stored⟩ := Option.bind_eq_some_iff.mp executed
    cases stored
    exact .shareGuardUpdate ticketId data row found
  | shareGuardDeleteMany ids => exact .of_writes executed (by simp [needs, Write.locks]) (by simp)
  | outboxCreate row => exact .of_writes executed (by simp [Write.locks]) (by simp)
  | rawSetIfAbsent ticketId nonce seconds =>
    simp only [exec] at executed
    split at executed
    · cases executed
      exact .reads _ _
    next expired =>
      cases executed
      exact .rawSetIfAbsent ticketId nonce seconds (by simpa using expired)
  | accessUpsert row data =>
    cases executed
    exact .accessUpsert row data _
  | accessDeleteMany ids =>
    cases executed
    exact .accessDeleteMany ids _
  | roleUpsert row =>
    cases executed
    exact .roleUpsert row _
  | roleDeleteMany filter =>
    cases executed
    exact .roleDeleteMany filter _
  | settingsUpsert row data =>
    cases executed
    exact .settingsUpsert row data _
  | settingsDeleteMany ids =>
    cases executed
    exact .settingsDeleteMany ids _
  | _ =>
    cases executed
    exact .reads _ _

end TicketService
