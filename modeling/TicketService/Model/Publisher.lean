import TicketService.Interleaving.Autocommit
import TicketService.Model.Scan

set_option autoImplicit false

namespace TicketService

namespace AnalyticsOutboxPublisher

open Interleaving Relational

structure RawMessage where
  topic : FactTopic
  eventId : Uuid
  eventName : FactTopic
  eventType : String
  eventVersion : String
  service : String
  timestamp : Time
  payload : AnalyticsDomainFact
  tenantId : String
  correlationId : Option String
  actorId : Option Uuid
deriving DecidableEq, Repr

def message (record : AnalyticsOutbox) : RawMessage where
  topic := record.topic
  eventId := record.id
  eventName := record.topic
  eventType := "EVENT"
  eventVersion := "1"
  service := "ticket"
  timestamp := record.createdAt
  payload := record.payload
  tenantId := record.tenantId
  correlationId := record.correlationId
  actorId := record.actorId

inductive Completion where
  | published (publishedAt : Time)
  | deadLettered (attempts : Nat) (lastError : String) (deadLetteredAt : Time)
  | retried (attempts : Nat) (lastError : String) (nextAttemptAt : Time)
deriving DecidableEq, Repr

def Completion.apply : Completion → AnalyticsOutbox → AnalyticsOutbox
  | .published publishedAt, row =>
    { row with
      publishedAt := some publishedAt
      lockedAt := none
      lockedBy := none
      lastError := none }
  | .deadLettered attempts lastError deadLetteredAt, row =>
    { row with
      attempts
      lockedAt := none
      lockedBy := none
      lastError := some lastError
      deadLetteredAt := some deadLetteredAt }
  | .retried attempts lastError nextAttemptAt, row =>
    { row with
      attempts
      lockedAt := none
      lockedBy := none
      lastError := some lastError
      nextAttemptAt }

-- The row is neither published nor given up, and no lease taken at `staleBefore` or later is on it.
def claimable (staleBefore : Time) (row : AnalyticsOutbox) : Bool :=
  row.publishedAt.isNone && row.deadLetteredAt.isNone && row.lockedAt.all (· < staleBefore)

structure World where
  outbox : Table AnalyticsOutbox Uuid (·.id)
  -- What `Date.now()` returns in each instance.
  clock : String → Time
  -- The instances whose `running` is set.
  running : List String
  -- Whether the database's answer to a write reaches the instance.
  answering : Bool
  error : String

def World.row (w : World) (id : Uuid) : Option AnalyticsOutbox :=
  w.outbox.get? id

def World.candidates (w : World) (now staleBefore : Time) : List AnalyticsOutbox :=
  ((w.outbox.rows.filter fun row => claimable staleBefore row && row.nextAttemptAt ≤ now).mergeSort
    -- `orderBy: { createdAt: 'asc' }`
    fun row other => row.createdAt ≤ other.createdAt).take 50

inductive Stmt where
  -- `if (this.running)` and `this.running = true`; the result is what `running` was.
  | enter (instanceId : String)
  -- `this.running = false`
  | leave (instanceId : String)
  | now (instanceId : String)
  | findMany (now staleBefore : Time)
  | claim (id : Uuid) (staleBefore lockedAt : Time) (lockedBy : String)
  | findUniqueOrThrow (id : Uuid)
  | rawSend (message : RawMessage)
  -- The catch clause is entered; the result is the text of the error.
  | caught (id : Uuid)
  | update (id : Uuid) (data : Completion)
deriving DecidableEq

-- The result of a write is `none` when it took effect and its answer was lost.
def Stmt.Res : Stmt → Type
  | .enter _ => Bool
  | .leave _ => Unit
  | .now _ => Time
  | .findMany .. => List AnalyticsOutbox
  | .claim .. => Option Nat
  | .findUniqueOrThrow _ => AnalyticsOutbox
  | .rawSend _ => Unit
  | .caught _ => String
  | .update .. => Option AnalyticsOutbox

abbrev statements : Signature := ⟨Stmt, Stmt.Res⟩

def World.put (w : World) (row : AnalyticsOutbox) : World :=
  { w with outbox := w.outbox.put row }

def World.answer {β : Type} (w : World) (value : β) : Option β :=
  if w.answering then some value else none

def exec (stmt : Stmt) (w : World) : Option (stmt.Res × World) :=
  match stmt with
  | .enter instanceId =>
    some (decide (instanceId ∈ w.running), { w with running := instanceId :: w.running })
  | .leave instanceId =>
    some ((), { w with running := w.running.filter fun other => other ≠ instanceId })
  | .now instanceId => some (w.clock instanceId, w)
  | .findMany now staleBefore => some (w.candidates now staleBefore, w)
  | .claim id staleBefore lockedAt lockedBy =>
    match (w.row id).filter (claimable staleBefore) with
    | some row =>
      some (w.answer 1, w.put { row with lockedAt := some lockedAt, lockedBy := some lockedBy })
    | none => some (w.answer 0, w)
  | .findUniqueOrThrow id => (w.row id).map fun row => (row, w)
  | .rawSend _ => some ((), w)
  | .caught _ => some (w.error, w)
  | .update id data =>
    (w.row id).map fun row => (w.answer (data.apply row), w.put (data.apply row))

-- What happens around the instances. The clocks need not agree.
inductive EnvAct where
  | tick (elapsed : String → Nat)
  -- A transaction that created the row commits.
  | enqueue (context : RequestContext) (tenantId : String) (id : Uuid) (topic : FactTopic)
      (payload : AnalyticsDomainFact) (createdAt : Time)
  | connection (answering : Bool)
  | trouble (error : String)

def EnvAct.apply : EnvAct → World → World
  | .tick elapsed, w => { w with clock := fun instanceId => w.clock instanceId + elapsed instanceId }
  | .enqueue context tenantId id topic payload createdAt, w =>
    let row := AnalyticsOutboxService.row context tenantId id topic payload createdAt
    { w with outbox := w.outbox.insert row }
  | .connection answering, w => { w with answering }
  | .trouble error, w => { w with error }

def engine : Engine statements World Unit Empty EnvAct where
  conflict _ _ := false
  fresh := ()
  held _ := []
  needs _ _ _ := []
  autocommit _ := true
  exec stmt w tx := (exec stmt w).map fun (result, world) => (result, world, tx)
  publish _ w := w
  environ := EnvAct.apply

abbrev Program := Prog statements Exn

def issue (stmt : Stmt) : Program stmt.Res :=
  @Prog.perform statements Exn .statementFailed stmt

def answered {β : Type} : Option β → Program β
  | some value => .done value
  | none => .throw .statementFailed

-- `Math.min(300_000, 2 ** attempts * 1_000)`
def retryDelay (attempts : Nat) : Nat :=
  min 300000 (Nat.pow 2 attempts * 1000)

def send (instanceId : String) (id : Uuid) (record : AnalyticsOutbox) : Program Unit := do
  let _ ← issue (.rawSend (message record))
  let publishedAt : Time ← issue (.now instanceId)
  let answer ← issue (.update id (.published publishedAt))
  let _ ← answered (β := AnalyticsOutbox) answer
  .done ()

def fail (instanceId : String) (id : Uuid) (record : AnalyticsOutbox) : Program Unit := do
  let attempts := record.attempts + 1
  let lastError : String ← issue (.caught id)
  let now : Time ← issue (.now instanceId)
  let answer ← issue (.update id
    (if 10 ≤ attempts then .deadLettered attempts lastError now
    else .retried attempts lastError (now + retryDelay attempts)))
  let _ ← answered (β := AnalyticsOutbox) answer
  .done ()

def publish (instanceId : String) (id : Uuid) : Program Unit := do
  let record : AnalyticsOutbox ← issue (.findUniqueOrThrow id)
  (send instanceId id record).handle fun _ => fail instanceId id record

def publishAll (instanceId : String) : List Uuid → Program Unit
  | [] => .done ()
  | id :: rest => do
    let now : Time ← issue (.now instanceId)
    let lockedAt : Time ← issue (.now instanceId)
    let answer ← issue (.claim id (now - 60000) lockedAt instanceId)
    let count ← answered (β := Nat) answer
    if count = 1 then publish instanceId id
    publishAll instanceId rest

def poll (instanceId : String) : Program Unit := do
  let now : Time ← issue (.now instanceId)
  let later : Time ← issue (.now instanceId)
  let candidates : List AnalyticsOutbox ← issue (.findMany now (later - 60000))
  publishAll instanceId (candidates.map (·.id))

def leave (instanceId : String) : Program Unit := do
  let _ ← issue (.leave instanceId)
  .done ()

def publishReady (instanceId : String) : Program Unit := do
  let running : Bool ← issue (.enter instanceId)
  if running then .done () else (poll instanceId).ensure (leave instanceId)

inductive Call where
  -- The interval timer of an instance.
  | publishReady (instanceId : String)
deriving DecidableEq, Repr

def program (_ : Nat) : Call → Program Unit
  | .publishReady instanceId => publishReady instanceId

def publishers : System statements World Unit Empty EnvAct Call Exn Unit where
  engine := engine
  program := program

abbrev PublisherState := Config statements World Unit Call Exn Unit

abbrev PublisherShared := Shared statements World Unit Call

abbrev Record := List (Event statements World Unit)

def World.start (clock : String → Time) : World where
  outbox := .empty
  clock := clock
  running := []
  answering := true
  error := ""

end AnalyticsOutboxPublisher

end TicketService
