import TicketService.Interleaving.System
import TicketService.Model.Data

set_option autoImplicit false

namespace TicketService

open Interleaving Relational

inductive Client where
  | tx
  | prisma
deriving DecidableEq, Repr

structure Store where
  tickets : Table Ticket Uuid Ticket.id
  scanLogs : List ScanLog
  shareGuards : Table ShareGuard Uuid ShareGuard.ticketId
  analyticsOutbox : List AnalyticsOutbox
  eventAccess : Table EventAccessProjection (Uuid × Uuid) fun row => (row.eventId, row.userId)
  eventRoles : Table EventRoleProjection (Uuid × Uuid) fun row => (row.eventId, row.userId)
  eventSettings : Table EventSettingsProjection Uuid EventSettingsProjection.eventId
  replayKeys : Table ReplayKey (Uuid × Nat) fun row => (row.ticketId, row.nonce)

structure World where
  store : Store
  clock : Time
  minted : List MintedToken
  signatures : List DeviceSignature
  sent : List Message

def Store.empty : Store where
  tickets := .empty
  scanLogs := []
  shareGuards := .empty
  analyticsOutbox := []
  eventAccess := .empty
  eventRoles := .empty
  eventSettings := .empty
  replayKeys := .empty

def World.empty : World where
  store := .empty
  clock := 0
  minted := []
  signatures := []
  sent := []

namespace World

def ticket (w : World) (id : Uuid) : Option Ticket :=
  w.store.tickets.get? id

def guard (w : World) (ticketId : Uuid) : Option ShareGuard :=
  w.store.shareGuards.get? ticketId

def access (w : World) (eventId userId : Uuid) : Option EventAccessProjection :=
  w.store.eventAccess.get? (eventId, userId)

def role (w : World) (eventId userId : Uuid) : Option EventRoleProjection :=
  w.store.eventRoles.get? (eventId, userId)

def settings (w : World) (eventId : Uuid) : Option EventSettingsProjection :=
  w.store.eventSettings.get? eventId

def replayKeyLive (w : World) (ticketId : Uuid) (nonce : Nat) : Bool :=
  (w.store.replayKeys.get? (ticketId, nonce)).any fun key => w.clock < key.expiresAt

def epoch (w : World) : Nat := w.clock / 1000

-- The payload of a token string that was minted and whose `exp` has not passed.
def verified (w : World) (token : String) : Option QrPayload :=
  (w.minted.find? fun m => m.token = token).bind fun m =>
    if w.epoch < m.iat + 60 then some m.payload else none

end World

-- What a transaction has written and not yet published. `putTicket` is a new version of the
-- columns of a row that updates change.
inductive Write where
  | putTicket (id : Uuid) (state : TicketState) (updatedAt : Time)
  | insertTicket (row : Ticket)
  | deleteTickets (ids : List Uuid)
  | insertScanLog (row : ScanLog)
  | deleteScanLogs (ticketIds : List Uuid)
  | deleteShareGuards (ticketIds : List Uuid)
  | insertOutbox (row : AnalyticsOutbox)

def Store.putTicket (s : Store) (id : Uuid) (state : TicketState) (updatedAt : Time) : Store :=
  match s.tickets.get? id with
  | some row =>
    { s with
      tickets := s.tickets.put { row with toTicketState := state, updatedAt := some updatedAt } }
  | none => s

def Write.apply : Write → Store → Store
  | .putTicket id state updatedAt, s => s.putTicket id state updatedAt
  | .insertTicket row, s => { s with tickets := s.tickets.insert row }
  | .deleteTickets ids, s =>
    -- The foreign keys of scan_log and share_guard cascade.
    { s with
      tickets := s.tickets.erase fun id => id ∈ ids
      scanLogs := s.scanLogs.filter fun log => log.ticketId ∉ ids
      shareGuards := s.shareGuards.erase fun id => id ∈ ids }
  | .insertScanLog row, s => { s with scanLogs := s.scanLogs ++ [row] }
  | .deleteScanLogs ids, s =>
    { s with scanLogs := s.scanLogs.filter fun log => log.ticketId ∉ ids }
  | .deleteShareGuards ids, s =>
    { s with shareGuards := s.shareGuards.erase fun id => id ∈ ids }
  | .insertOutbox row, s => { s with analyticsOutbox := s.analyticsOutbox ++ [row] }

structure Tx where
  writes : List Write

def Tx.apply (tx : Tx) (s : Store) : Store :=
  tx.writes.foldl (fun s write => write.apply s) s

def World.view (w : World) (tx : Option Tx) : World :=
  match tx with
  | some tx => { w with store := tx.apply w.store }
  | none => w

inductive RowLock where
  | keyShare
  | noKeyUpdate
  | update
deriving DecidableEq, Repr

def RowLock.conflict : RowLock → RowLock → Bool
  | .keyShare, .update => true
  | .update, .keyShare => true
  | .keyShare, _ => false
  | _, .keyShare => false
  | _, _ => true

inductive Lock where
  | ticket (id : Uuid) (mode : RowLock)
  | shareGuard (ticketId : Uuid)
  | invitation (id : Uuid)
  | seat (id : Uuid)
  | guest (eventId guestProfileId : Uuid)
deriving DecidableEq, Repr

def Lock.conflict : Lock → Lock → Bool
  | .ticket id mode, .ticket id' mode' => id = id' && mode.conflict mode'
  | .shareGuard id, .shareGuard id' => id = id'
  | .invitation id, .invitation id' => id = id'
  | .seat id, .seat id' => id = id'
  | .guest event profile, .guest event' profile' => event = event' && profile = profile'
  | _, _ => false

def Write.locks : Write → List Lock
  | .putTicket id _ _ => [.ticket id .noKeyUpdate]
  | .insertTicket row =>
    [.ticket row.id .update, .invitation row.invitationId, .seat row.seatId,
      .guest row.eventId row.guestProfileId]
  | .deleteTickets ids => ids.map fun id => .ticket id .update
  | .insertScanLog row => [.ticket row.ticketId .keyShare]
  | .deleteScanLogs _ => []
  | .deleteShareGuards ids => ids.map .shareGuard
  | .insertOutbox _ => []

def Tx.locks (tx : Tx) : List Lock :=
  tx.writes.flatMap Write.locks

-- The rows of the `Create` statements take the time that fills their `@default(now())` columns.
inductive Stmt where
  | now
  | tokenGenerate (payload : QrPayload)
  | tokenVerify (token : String)
  | verifySignature (message signature publicKey : String)
  | ticketFindUnique (client : Client) (id : Uuid)
  | ticketFindByInvitation (invitationId : Uuid)
  | ticketFindIds (filter : Ticket → Bool)
  | ticketCreate (row : Time → Ticket)
  | ticketUpdate (client : Client) (id : Uuid) (data : TicketState → TicketState)
  | ticketUpdateMany (filter : Ticket → Bool) (data : TicketState → TicketState)
  | ticketDelete (id : Uuid)
  | ticketDeleteMany (ids : List Uuid)
  | scanLogCreate (row : Time → ScanLog)
  | scanLogFindMany (ticketId : Uuid)
  | scanLogDeleteMany (ticketIds : List Uuid)
  | shareGuardFindUnique (ticketId : Uuid)
  | shareGuardUpsert (ticketId : Uuid)
  | shareGuardUpdate (ticketId : Uuid) (data : ShareGuard → ShareGuard)
  | shareGuardDeleteMany (ticketIds : List Uuid)
  | outboxCreate (row : Time → AnalyticsOutbox)
  | rawSetIfAbsent (ticketId : Uuid) (nonce : Nat) (seconds : Nat)
  | accessFindUnique (eventId userId : Uuid)
  | accessUpsert (row : EventAccessProjection) (data : EventAccessProjection → EventAccessProjection)
  | roleFindUnique (eventId userId : Uuid)
  | roleUpsert (row : EventRoleProjection)
  | roleDeleteMany (filter : Uuid × Uuid → Bool)
  | settingsFindUnique (eventId : Uuid)
  | settingsUpsert (row : EventSettingsProjection)
      (data : EventSettingsProjection → EventSettingsProjection)
  | settingsDeleteMany (eventIds : List Uuid)
  | accessDeleteMany (eventIds : List Uuid)
  | send (message : Message)

def Stmt.Res : Stmt → Type
  | .now => Time
  | .tokenGenerate _ => String
  | .tokenVerify _ => Option QrPayload
  | .verifySignature .. => Bool
  | .ticketFindUnique .. => Option Ticket
  | .ticketFindByInvitation _ => Option Ticket
  | .ticketFindIds _ => List Uuid
  | .ticketCreate _ => Ticket
  | .ticketUpdate .. => Ticket
  | .ticketUpdateMany .. => Nat
  | .ticketDelete _ => Unit
  | .ticketDeleteMany _ => Unit
  | .scanLogCreate _ => ScanLog
  | .scanLogFindMany _ => List ScanLog
  | .scanLogDeleteMany _ => Unit
  | .shareGuardFindUnique _ => Option ShareGuard
  | .shareGuardUpsert _ => ShareGuard
  | .shareGuardUpdate .. => ShareGuard
  | .shareGuardDeleteMany _ => Unit
  | .outboxCreate _ => Unit
  | .rawSetIfAbsent .. => Bool
  | .accessFindUnique .. => Option EventAccessProjection
  | .accessUpsert .. => Unit
  | .roleFindUnique .. => Option EventRoleProjection
  | .roleUpsert _ => Unit
  | .roleDeleteMany _ => Unit
  | .settingsFindUnique _ => Option EventSettingsProjection
  | .settingsUpsert .. => Unit
  | .settingsDeleteMany _ => Unit
  | .accessDeleteMany _ => Unit
  | .send _ => Unit

abbrev statements : Signature := ⟨Stmt, Stmt.Res⟩

-- The columns an update leaves alone are kept whatever `data` does; `updatedAt` is `@updatedAt`.
def Ticket.updated (row : Ticket) (data : TicketState → TicketState) (now : Time) : Ticket :=
  { row with toTicketState := data row.toTicketState, updatedAt := some now }

def ShareGuard.updated (row : ShareGuard) (data : ShareGuard → ShareGuard) : ShareGuard :=
  { data row with ticketId := row.ticketId }

def ShareGuard.created (ticketId : Uuid) : ShareGuard where
  ticketId := ticketId
  failCount := 0
  lastFailAt := none
  blockedUntil := none
  reason := none

def World.taken (w : World) (row : Ticket) : Bool :=
  w.store.tickets.rows.any fun other =>
    other.id = row.id ∨ other.invitationId = row.invitationId ∨ other.seatId = row.seatId ∨
      (other.eventId = row.eventId ∧ other.guestProfileId = row.guestProfileId)

def World.clientView (w : World) (client : Client) (tx : Option Tx) : World :=
  match client with
  | .tx => w.view tx
  | .prisma => w

def World.existing (w : World) (ids : List Uuid) : List Uuid :=
  ids.filter fun id => (w.ticket id).isSome

def World.matching (w : World) (filter : Ticket → Bool) : List Ticket :=
  w.store.tickets.rows.filter filter

variable (platform : Platform)

def World.accessUpserted (w : World) (row : EventAccessProjection)
    (data : EventAccessProjection → EventAccessProjection) : EventAccessProjection :=
  match w.access row.eventId row.userId with
  | some existing =>
    { data existing with eventId := row.eventId, userId := row.userId, updatedAt := some w.clock }
  | none => { row with updatedAt := some w.clock }

def needs (stmt : Stmt) (w : World) (tx : Option Tx) : List Lock :=
  match stmt with
  | .ticketCreate row => (Write.insertTicket (row w.clock)).locks
  | .ticketUpdate client id _ =>
    if ((w.clientView client tx).ticket id).isSome then [.ticket id .noKeyUpdate] else []
  | .ticketUpdateMany filter _ =>
    ((w.view tx).matching filter).map fun row => .ticket row.id .noKeyUpdate
  | .ticketDelete id => if ((w.view tx).ticket id).isSome then [.ticket id .update] else []
  | .ticketDeleteMany ids => ((w.view tx).existing ids).map fun id => .ticket id .update
  | .scanLogCreate row => [.ticket (row w.clock).ticketId .keyShare]
  | .shareGuardUpsert ticketId =>
    if (w.guard ticketId).isSome then [.shareGuard ticketId]
    else [.shareGuard ticketId, .ticket ticketId .keyShare]
  | .shareGuardUpdate ticketId _ => [.shareGuard ticketId]
  | .shareGuardDeleteMany ids => ids.map .shareGuard
  | _ => []

def autocommit : Stmt → Bool
  | .ticketUpdate .prisma _ _ => true
  | .shareGuardUpsert _ => true
  | .shareGuardUpdate .. => true
  | _ => false

def reads {β : Type} (value : β) (w : World) (tx : Option Tx) :
    Option (β × World × Option Tx) :=
  some (value, w, tx)

-- A statement that adds to what the transaction has written; without one it has no client.
def writes {β : Type} (value : β) (added : List Write) (w : World) (tx : Option Tx) :
    Option (β × World × Option Tx) :=
  tx.map fun tx => (value, w, some ⟨tx.writes ++ added⟩)

def stores {β : Type} (value : β) (store : Store) (w : World) (tx : Option Tx) :
    Option (β × World × Option Tx) :=
  some (value, { w with store }, tx)

def exec (stmt : Stmt) (w : World) (tx : Option Tx) : Option (stmt.Res × World × Option Tx) :=
  match stmt with
  | .now => reads w.clock w tx
  | .tokenGenerate payload =>
    let token := platform.compactJwe w.minted.length
    some (token, { w with minted := w.minted ++ [{ token, payload, iat := w.epoch }] }, tx)
  | .tokenVerify token => reads (w.verified token) w tx
  | .verifySignature message signature publicKey =>
    reads (decide ({ publicKey, message, signature } ∈ w.signatures)) w tx
  | .ticketFindUnique client id => reads ((w.clientView client tx).ticket id) w tx
  | .ticketFindByInvitation id =>
    reads (w.store.tickets.rows.find? fun row => row.invitationId = id) w tx
  | .ticketFindIds filter => reads (((w.view tx).matching filter).map (·.id)) w tx
  | .ticketCreate row =>
    let row := row w.clock
    if (w.view tx).taken row then none else writes row [.insertTicket row] w tx
  | .ticketUpdate .tx id data =>
    ((w.view tx).ticket id).bind fun row =>
      writes (row.updated data w.clock)
        [.putTicket id (data row.toTicketState) w.clock] w tx
  | .ticketUpdate .prisma id data =>
    (w.ticket id).bind fun row =>
      stores (row.updated data w.clock)
        (w.store.putTicket id (data row.toTicketState) w.clock) w tx
  | .ticketUpdateMany filter data =>
    let rows := (w.view tx).matching filter
    writes rows.length
      (rows.map fun row => .putTicket row.id (data row.toTicketState) w.clock) w tx
  | .ticketDelete id =>
    if ((w.view tx).ticket id).isSome then writes () [.deleteTickets [id]] w tx else none
  | .ticketDeleteMany ids => writes () [.deleteTickets ((w.view tx).existing ids)] w tx
  | .scanLogCreate row =>
    let row := row w.clock
    if ((w.view tx).ticket row.ticketId).isSome then writes row [.insertScanLog row] w tx
    else none
  | .scanLogFindMany ticketId =>
    -- `orderBy: { createdAt: 'desc' }`
    reads ((w.store.scanLogs.filter fun log => log.ticketId = ticketId).mergeSort
      fun log other => other.createdAt ≤ log.createdAt) w tx
  | .scanLogDeleteMany ids => writes () [.deleteScanLogs ids] w tx
  | .shareGuardFindUnique ticketId => reads (w.guard ticketId) w tx
  | .shareGuardUpsert ticketId =>
    match w.guard ticketId with
    | some row => reads row w tx
    | none =>
      if (w.ticket ticketId).isSome then
        let row := ShareGuard.created ticketId
        stores row { w.store with shareGuards := w.store.shareGuards.insert row } w tx
      else none
  | .shareGuardUpdate ticketId data =>
    (w.guard ticketId).bind fun row =>
      stores (row.updated data)
        { w.store with shareGuards := w.store.shareGuards.put (row.updated data) } w tx
  | .shareGuardDeleteMany ids => writes () [.deleteShareGuards ids] w tx
  | .outboxCreate row => writes () [.insertOutbox (row w.clock)] w tx
  | .rawSetIfAbsent ticketId nonce seconds =>
    if w.replayKeyLive ticketId nonce then reads false w tx
    else
      let row : ReplayKey := { ticketId, nonce, expiresAt := w.clock + seconds * 1000 }
      stores true { w.store with replayKeys := w.store.replayKeys.upsert row } w tx
  | .accessFindUnique eventId userId => reads (w.access eventId userId) w tx
  | .accessUpsert row data =>
    stores () { w.store with eventAccess := w.store.eventAccess.upsert (w.accessUpserted row data) } w tx
  | .roleFindUnique eventId userId => reads (w.role eventId userId) w tx
  | .roleUpsert row =>
    let row := { row with updatedAt := some w.clock }
    stores () { w.store with eventRoles := w.store.eventRoles.upsert row } w tx
  | .roleDeleteMany filter =>
    stores () { w.store with eventRoles := w.store.eventRoles.erase filter } w tx
  | .settingsFindUnique eventId => reads (w.settings eventId) w tx
  | .settingsUpsert row data =>
    let row :=
      match w.settings row.eventId with
      | some existing => { data existing with eventId := row.eventId, updatedAt := some w.clock }
      | none => { row with updatedAt := some w.clock }
    stores () { w.store with eventSettings := w.store.eventSettings.upsert row } w tx
  | .settingsDeleteMany ids =>
    stores () { w.store with eventSettings := w.store.eventSettings.erase fun id => id ∈ ids } w tx
  | .accessDeleteMany ids =>
    stores () { w.store with eventAccess := w.store.eventAccess.erase fun key => key.1 ∈ ids } w tx
  | .send message => some ((), { w with sent := w.sent ++ [message] }, tx)

inductive EnvAct where
  | tick (milliseconds : Nat)
  | expire (ticketId : Uuid) (nonce : Nat)
  | sign (signature : DeviceSignature)

def EnvAct.apply : EnvAct → World → World
  | .tick ms, w => { w with clock := w.clock + ms }
  | .expire ticketId nonce, w =>
    { w with store.replayKeys := w.store.replayKeys.erase fun key => key = (ticketId, nonce) }
  | .sign signature, w => { w with signatures := signature :: w.signatures }

def engine : Engine statements World Tx Lock EnvAct where
  conflict := Lock.conflict
  fresh := ⟨[]⟩
  held := Tx.locks
  needs := needs
  autocommit := autocommit
  exec := exec platform
  publish tx w := { w with store := tx.apply w.store }
  environ := EnvAct.apply

end TicketService
