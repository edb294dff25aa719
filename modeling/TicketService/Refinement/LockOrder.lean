import TicketService.Interleaving.Locking
import TicketService.Refinement.Service

set_option autoImplicit false

namespace TicketService

open Interleaving Relational

variable (platform : Platform)

-- The keys of a ticket come in the order of its unique indexes.
def Lock.rank : Lock → Nat
  | .shareGuard _ => 0
  | .ticket .. => 1
  | .invitation _ => 2
  | .seat _ => 3
  | .guest .. => 4

def lockOrder : LockOrder (engine platform) where
  rank := Lock.rank
  top := 4
  rank_le l := by cases l <;> simp [Lock.rank]
  rank_eq l l' conflict := by
    cases l <;> cases l' <;> first | rfl | cases conflict
  conflict_comm := Lock.conflict_comm
  held_fresh := rfl
  held_exec _ _ _ _ _ _ executed := exec_held executed

-- The call may issue a statement that locks several rows of a table: of tickets, or of what is
-- deleted with them or with an event.
def Call.locksSeveral : Call → Prop
  | .activateDevice .. => True
  | .delete .. => True
  | .deleteByEventIds _ => True
  | .deleteByGuestId _ => True
  | .eventDeleted _ => True
  | _ => False

def Stmt.keepsLocks : Stmt → Bool
  | .ticketCreate _ => false
  | .ticketUpdate .tx _ _ => false
  | .ticketUpdateMany .. => false
  | .ticketDelete _ => false
  | .ticketDeleteMany _ => false
  | .scanLogCreate _ => false
  | .shareGuardDeleteMany _ => false
  | _ => true

def Stmt.lockless : Stmt → Bool
  | .ticketUpdate .. => false
  | .shareGuardUpsert _ => false
  | .shareGuardUpdate .. => false
  | stmt => stmt.keepsLocks

variable {platform : Platform} {stmt : Stmt} {w w' : World} {tx tx' : Option Tx}
  {result : stmt.Res} {level : Prop} {α β : Type}

theorem Stmt.keepsLocks_of_lockless (lockless : stmt.lockless = true) : stmt.keepsLocks = true := by
  cases stmt with
  | ticketUpdate => cases lockless
  | shareGuardUpsert => rfl
  | shareGuardUpdate => rfl
  | _ => exact lockless

theorem needs_of_lockless (lockless : stmt.lockless = true) (w : World) (tx : Option Tx) :
    needs stmt w tx = [] := by
  cases stmt <;> first | rfl | cases lockless

def heldBy (tx : Option Tx) : List Lock :=
  tx.elim [] Tx.locks

theorem engine_heldBy (tx : Option Tx) : (engine platform).heldBy tx = heldBy tx := by
  cases tx <;> rfl

theorem exec_keepsLocks (keeps : stmt.keepsLocks = true)
    (executed : exec platform stmt w tx = some (result, w', tx')) :
    heldBy tx' = heldBy tx ∧
      tx'.isSome = tx.isSome := by
  have writes_kept {β : Type} {value value' : β} {added : List Write}
      (unlocked : added.flatMap Write.locks = [])
      (written : TicketService.writes value added w tx = some (value', w', tx')) :
      heldBy tx' = heldBy tx ∧
        tx'.isSome = tx.isSome := by
    obtain ⟨t, rfl, same⟩ := Option.map_eq_some_iff.mp written
    cases same
    simp [heldBy, Tx.locks, unlocked]
  cases stmt with
  | ticketUpdate client id data =>
    cases client with
    | tx => cases keeps
    | prisma =>
      obtain ⟨row, -, stored⟩ := Option.bind_eq_some_iff.mp executed
      cases stored
      exact ⟨rfl, rfl⟩
  | shareGuardUpsert ticketId =>
    simp only [exec] at executed
    split at executed
    · cases executed
      exact ⟨rfl, rfl⟩
    · split at executed <;> cases executed
      exact ⟨rfl, rfl⟩
  | shareGuardUpdate ticketId data =>
    obtain ⟨row, -, stored⟩ := Option.bind_eq_some_iff.mp executed
    cases stored
    exact ⟨rfl, rfl⟩
  | rawSetIfAbsent ticketId nonce seconds =>
    simp only [exec] at executed
    split at executed <;> cases executed <;> exact ⟨rfl, rfl⟩
  | scanLogDeleteMany ids => exact writes_kept rfl executed
  | outboxCreate row => exact writes_kept rfl executed
  | ticketCreate => cases keeps
  | ticketUpdateMany => cases keeps
  | ticketDelete => cases keeps
  | ticketDeleteMany => cases keeps
  | scanLogCreate => cases keeps
  | shareGuardDeleteMany => cases keeps
  | _ =>
    cases executed
    exact ⟨rfl, rfl⟩

theorem exec_open (executed : exec platform stmt w tx = some (result, w', tx'))
    (opened : tx.isSome = true) : tx'.isSome = true := by
  rcases exec_cases executed with ⟨rfl, -⟩ | ⟨-, t, added, -, rfl, -⟩ | ⟨_, _, _, -, -, rfl, -⟩
  · exact opened
  · rfl
  · exact opened

def Free (tx : Option Tx) : Prop :=
  heldBy tx = [] ∧ tx.isSome = true

def Holds (id : Uuid) (tx : Option Tx) : Prop :=
  tx.isSome = true ∧ ∃ mode, mode ≠ .keyShare ∧ .ticket id mode ∈ heldBy tx

abbrev Ascending (platform : Platform) (level : Prop) (Q : α → Option Tx → Prop) (p : Program α)
    (tx : Option Tx) : Prop :=
  Orderly (lockOrder platform) level Q p tx

-- The statement needs the same locks whenever it is executed, and at most one of a rank.
def Alike (stmt : Stmt) (tx : Option Tx) : Prop :=
  ∀ w w', ∀ l ∈ needs stmt w tx, ∀ own ∈ needs stmt w' tx,
    (l.rank < own.rank → l ∈ needs stmt w' tx) ∧ (l.rank = own.rank → l = own)

theorem Alike.among (alike : Alike stmt tx) : ∀ w w', ∀ l ∈ needs stmt w tx, ∀ own ∈ needs stmt w' tx,
    (l.rank < own.rank → l ∈ needs stmt w' tx) ∧ (l.rank = own.rank → l = own ∨ level) := by
  intro w w' l needed own needed'
  obtain ⟨below, same⟩ := alike w w' l needed own needed'
  exact ⟨below, fun equal => .inl (same equal)⟩

theorem alike_of_single (l₀ : Lock) (single : ∀ w, ∀ l ∈ needs stmt w tx, l = l₀) : Alike stmt tx := by
  intro w w' l needed own needed'
  rw [single w l needed, single w' own needed']
  exact ⟨fun less => absurd less (Nat.lt_irrefl _), fun _ => rfl⟩

theorem alike_of_constant (locks : List Lock) (constant : ∀ w, needs stmt w tx = locks)
    (apart : ∀ l ∈ locks, ∀ own ∈ locks, l.rank = own.rank → l = own) : Alike stmt tx := by
  intro w w' l needed own needed'
  rw [constant] at needed needed' ⊢
  exact ⟨fun _ => needed, apart l needed own needed'⟩

theorem alike_of_lockless (lockless : stmt.lockless = true) : Alike stmt tx := by
  intro w w' l needed
  rw [needs_of_lockless lockless] at needed
  cases needed

theorem alike_ticketUpdate {client : Client} {id : Uuid} {data : TicketState → TicketState} :
    Alike (.ticketUpdate client id data) tx := by
  refine alike_of_single (.ticket id .noKeyUpdate) fun w l needed => ?_
  simp only [needs] at needed
  split at needed
  · exact List.mem_singleton.mp needed
  · cases needed

theorem alike_of_keepsLocks (keeps : stmt.keepsLocks = true) : Alike stmt tx := by
  cases stmt with
  | ticketUpdate => exact alike_ticketUpdate
  | shareGuardUpsert ticketId =>
    have listed (w : World) (l : Lock) (needed : l ∈ needs (.shareGuardUpsert ticketId) w tx) :
        l = .shareGuard ticketId ∨ l = .ticket ticketId .keyShare := by
      simp only [needs] at needed
      split at needed
      · exact .inl (List.mem_singleton.mp needed)
      · simpa using needed
    intro w w' l needed own needed'
    have guard : .shareGuard ticketId ∈ needs (.shareGuardUpsert ticketId) w' tx := by
      simp only [needs]
      split <;> exact List.mem_cons_self
    rcases listed w l needed with rfl | rfl <;> rcases listed w' own needed' with rfl | rfl
    · exact ⟨fun _ => guard, fun _ => rfl⟩
    · exact ⟨fun _ => guard, fun same => absurd same (by simp [Lock.rank])⟩
    · exact ⟨fun less => absurd less (by simp [Lock.rank]), fun same => absurd same (by simp [Lock.rank])⟩
    · exact ⟨fun less => absurd less (Nat.lt_irrefl _), fun _ => rfl⟩
  | shareGuardUpdate ticketId data =>
    exact alike_of_single (.shareGuard ticketId) fun w l needed => List.mem_singleton.mp needed
  | ticketCreate => cases keeps
  | ticketUpdateMany => cases keeps
  | ticketDelete => cases keeps
  | ticketDeleteMany => cases keeps
  | scanLogCreate => cases keeps
  | shareGuardDeleteMany => cases keeps
  | _ => exact alike_of_lockless rfl

theorem among_level {rank : Nat} (all : ∀ w, ∀ l ∈ needs stmt w tx, l.rank = rank) :
    ∀ w w', ∀ l ∈ needs stmt w tx, ∀ own ∈ needs stmt w' tx,
      (l.rank < own.rank → l ∈ needs stmt w' tx) ∧ (l.rank = own.rank → l = own ∨ True) := by
  intro w w' l needed own needed'
  rw [all w l needed, all w' own needed']
  exact ⟨fun less => absurd less (Nat.lt_irrefl _), fun _ => .inr trivial⟩

theorem asks_free (alike : Alike stmt tx) (free : heldBy tx = []) :
    (lockOrder platform).Asks level stmt tx where
  after w l _ := by
    right
    intro own held
    rw [engine_heldBy, free] at held
    cases held
  among := alike.among

theorem asks_lockless (lockless : stmt.lockless = true) :
    (lockOrder platform).Asks level stmt tx where
  after w l needed := by
    have needed' : l ∈ needs stmt w tx := needed
    rw [needs_of_lockless lockless] at needed'
    cases needed'
  among := (alike_of_lockless lockless).among

theorem asks_level (rank : Nat) (inside : autocommit stmt = false)
    (all : ∀ w, ∀ l ∈ needs stmt w tx, l.rank = rank) (held : ∀ own ∈ heldBy tx, own.rank ≤ rank) :
    (lockOrder platform).Asks True stmt tx where
  after w l needed := by
    right
    intro own mine
    right
    have same : (lockOrder platform).rank l = rank := all w l needed
    rw [engine_heldBy] at mine
    rw [same]
    exact ⟨trivial, inside, held own mine⟩
  among := among_level all

theorem asks_log {row : Time → ScanLog} {id : Uuid} (same : ∀ now, (row now).ticketId = id)
    (holds : Holds id tx) : (lockOrder platform).Asks level (.scanLogCreate row) tx := by
  have single (w : World) (l : Lock) (needed : l ∈ needs (.scanLogCreate row) w tx) :
      l = .ticket id .keyShare := by
    simpa [needs, same] using needed
  refine ⟨fun w l needed => ?_, (alike_of_single _ single).among⟩
  obtain ⟨-, mode, exclusive, held⟩ := holds
  obtain rfl := single w l needed
  left
  refine ⟨rfl, .ticket id mode, engine_heldBy tx ▸ held, fun l' conflict => ?_⟩
  cases l' with
  | ticket id' mode' =>
    cases mode <;> cases mode' <;> simp_all [engine, Lock.conflict, RowLock.conflict]
  | _ => cases conflict

section Programs

theorem ascending_free {p : Program α} (issues : p.Only fun stmt : Stmt => stmt.keepsLocks = true)
    (free : Free tx) : Ascending platform level (fun _ tx => Free tx) p tx := by
  refine Orderly.issues issues (fun stmt tx keeps here => asks_free (alike_of_keepsLocks keeps) here.1) ?_ free
  intro stmt w tx result w' tx' keeps here executed
  obtain ⟨held, opened⟩ := exec_keepsLocks keeps executed
  exact ⟨held.trans here.1, opened.trans here.2⟩

theorem ascending_lockless {p : Program α} (issues : p.Only fun stmt : Stmt => stmt.lockless = true)
    {I : Option Tx → Prop} (respects : ∀ tx tx' : Option Tx, heldBy tx' =
      heldBy tx → tx'.isSome = tx.isSome → I tx → I tx') (holds : I tx) :
    Ascending platform level (fun _ tx => I tx) p tx := by
  refine Orderly.issues issues (fun stmt tx lockless _ => asks_lockless lockless) ?_ holds
  intro stmt w tx result w' tx' lockless here executed
  obtain ⟨held, opened⟩ := exec_keepsLocks (Stmt.keepsLocks_of_lockless lockless) executed
  exact respects tx tx' held opened here

theorem ascending_alone {p : Program α} (issues : p.Only fun stmt : Stmt => stmt.keepsLocks = true) :
    Ascending platform level (fun _ tx => tx = none) p none := by
  refine Orderly.issues issues (fun stmt tx keeps (alone : tx = none) => ?_) ?_ rfl
  · subst alone
    exact asks_free (alike_of_keepsLocks keeps) rfl
  · intro stmt w tx result w' tx' _ alone executed
    subst alone
    exact exec_alone executed

end Programs

section Statements

open AnalyticsOutboxService EventRoleHandler EventSettingsHandler ShareGuardService
  TicketEventRoleResolver TicketWriteService TokenService VerifyService

abbrev Lockless (p : Program α) : Prop :=
  p.Only fun stmt : Stmt => stmt.lockless = true

abbrev KeepsLocks (p : Program α) : Prop :=
  p.Only fun stmt : Stmt => stmt.keepsLocks = true

theorem Lockless.keepsLocks {p : Program α} (lockless : Lockless p) : KeepsLocks p :=
  lockless.mono fun _ => Stmt.keepsLocks_of_lockless

theorem lockless_issue (lockless : stmt.lockless = true) : Lockless (issue stmt) :=
  Prog.Only.perform lockless

theorem lockless_discard (lockless : stmt.lockless = true) : Lockless (discard stmt) :=
  (lockless_issue lockless).bind fun _ => trivial

theorem lockless_attempt (lockless : stmt.lockless = true) : Lockless (attempt stmt) :=
  ⟨lockless, fun _ => trivial⟩

theorem keepsLocks_issue (keeps : stmt.keepsLocks = true) : KeepsLocks (issue stmt) :=
  Prog.Only.perform keeps

theorem lockless_getPermissionsForUser {userId eventId : Uuid} :
    Lockless (getPermissionsForUser platform userId eventId) := by
  refine (lockless_issue rfl).bind fun access => ?_
  cases access with
  | some access => trivial
  | none =>
    exact Prog.Only.bind (Prog.Only.bind (lockless_issue rfl) fun _ => trivial) fun _ => trivial

theorem lockless_enqueue {context : RequestContext} {id : Uuid} {topic : FactTopic}
    {fact : FactInput} : Lockless (enqueue platform context id topic fact) := by
  unfold enqueue
  split
  · trivial
  · refine (lockless_issue rfl).bind fun _ => ?_
    split
    · exact lockless_discard rfl
    · trivial

theorem lockless_verify {token : String} : Lockless (verify token) := by
  refine (lockless_issue rfl).bind fun payload => ?_
  cases payload <;> trivial

theorem lockless_isBlocked {ticketId : Uuid} : Lockless (isBlocked ticketId) := by
  refine (lockless_issue rfl).bind fun guard => ?_
  cases Option.bind guard (·.blockedUntil) with
  | none => trivial
  | some blockedUntil => exact (lockless_issue rfl).bind fun _ => trivial

theorem lockless_eventEnded {ticket : Ticket} {direction : GateDirection} :
    Lockless (eventEnded ticket direction) := by
  cases direction with
  | exit => trivial
  | entry =>
    refine (lockless_issue rfl).bind fun settings => ?_
    cases Option.bind settings (·.endsAt) with
    | none => trivial
    | some endsAt => exact (lockless_issue rfl).bind fun _ => trivial

theorem lockless_checkedIn {ticket : Ticket} {state : PresenceState} :
    Lockless (checkedInAt ticket state) := by
  cases state with
  | inside => exact (lockless_issue rfl).bind fun _ => trivial
  | outside => trivial

theorem lockless_firstCheckIn {ticket : Ticket} {state : PresenceState} :
    Lockless (firstCheckIn ticket state) := by
  unfold firstCheckIn
  split
  · exact (lockless_issue rfl).bind fun _ => trivial
  · trivial

theorem keepsLocks_applyDecision {ticketId : Uuid} {decision : RiskResult} :
    KeepsLocks (applyDecision ticketId decision) := by
  refine (keepsLocks_issue rfl).bind fun now => (keepsLocks_issue rfl).bind fun guard => ?_
  dsimp only
  split
  · exact (keepsLocks_issue rfl).bind fun _ => trivial
  · split
    · exact (keepsLocks_issue rfl).bind fun _ => trivial
    · exact (keepsLocks_issue rfl).bind fun _ => trivial

theorem keepsLocks_resetShareGuard {ticketId : Uuid} : KeepsLocks (resetShareGuard ticketId) := by
  refine (keepsLocks_issue rfl).bind fun guard => ?_
  cases guard with
  | none => trivial
  | some guard => exact (keepsLocks_issue rfl).bind fun _ => trivial

theorem lockless_publishMilestone {milestone : EventMilestoneRecordedDTO}
    {context : RequestContext} : Lockless (publishMilestone platform milestone context) :=
  lockless_discard rfl

theorem lockless_publishRevoked {ticket : Ticket} {context : RequestContext} :
    Lockless (publishRevokedMilestone platform ticket context) := by
  unfold publishRevokedMilestone
  split
  · exact lockless_publishMilestone
  · exact (lockless_issue rfl).bind fun _ => lockless_publishMilestone

theorem lockless_assertManageTicket {eventId actorId : Uuid} :
    Lockless (assertManageTicket platform eventId actorId) := by
  refine lockless_getPermissionsForUser.bind fun permissions => ?_
  split <;> trivial

theorem lockless_handler {find write : Stmt} {stale : find.Res → Bool}
    (finds : find.lockless = true) (writes : write.lockless = true) :
    Lockless (issue find >>= fun row => if stale row then .done () else discard write) := by
  refine (lockless_issue finds).bind fun row => ?_
  split
  · trivial
  · exact lockless_discard writes

end Statements

section Transactions

open AnalyticsOutboxService ScanService ShareGuardService TicketEventRoleResolver
  TicketWriteService TokenService VerifyService

variable {uuid : Nat → Uuid} {context : RequestContext} {ticket : Ticket} {ticketId actorId : Uuid}

theorem free_fresh : Free (some ⟨[]⟩) := ⟨rfl, rfl⟩

theorem ascending_issue {Q : stmt.Res → Option Tx → Prop}
    (asks : (lockOrder platform).Asks level stmt tx)
    (post : ∀ result w w' tx', exec platform stmt w tx = some (result, w', tx') → Q result tx') :
    Ascending platform level Q (issue stmt) tx :=
  Orderly.perform asks post

theorem ascending_transaction {body : Program α}
    (orderly : Ascending platform level (fun _ tx => tx.isSome = true) body (some ⟨[]⟩)) :
    Ascending platform level (fun _ tx => tx = none) (transaction body) none :=
  Orderly.transaction (orderly.mono fun _ _ opened => ⟨opened, rfl⟩)

theorem ascending_rest {p : Program α} (lockless : Lockless p) (opened : tx.isSome = true) :
    Ascending platform level (fun _ tx => tx.isSome = true) p tx :=
  ascending_lockless lockless (fun _ _ _ same before => same.trans before) opened

theorem holds_of_update {data : TicketState → TicketState} {row : Ticket}
    (executed : exec platform (.ticketUpdate .tx ticketId data) w tx = some (row, w', tx')) :
    Holds ticketId tx' := by
  obtain ⟨before, -, written⟩ := Option.bind_eq_some_iff.mp executed
  obtain ⟨t, rfl, same⟩ := Option.map_eq_some_iff.mp written
  cases same
  exact ⟨rfl, .noKeyUpdate, by simp, by simp [heldBy, Tx.locks, Write.locks]⟩

theorem held_rank (rank : Nat) (free : Free tx)
    (executed : exec platform stmt w tx = some (result, w', tx'))
    (all : ∀ l ∈ needs stmt w tx, l.rank = rank) : ∀ own ∈ heldBy tx', own.rank = rank := by
  intro own held
  rcases exec_held executed own ((engine_heldBy tx').symm ▸ held) with before | needed
  · rw [engine_heldBy, free.1] at before
    cases before
  · exact all own needed

theorem ascending_update_log {data : TicketState → TicketState} {row : Time → ScanLog}
    {rest : Ticket → ScanLog → Program α} (same : ∀ now, (row now).ticketId = ticketId)
    (lockless : ∀ updated log, Lockless (rest updated log)) (free : Free tx) :
    Ascending platform level (fun _ tx => tx.isSome = true)
      ((issue (.ticketUpdate .tx ticketId data)).bind fun updated =>
        (issue (.scanLogCreate row)).bind fun log => rest updated log) tx := by
  refine Orderly.bind (ascending_issue (asks_free alike_ticketUpdate free.1)
    fun updated w w' tx' executed => ?_)
  have holds := holds_of_update executed
  refine Orderly.bind (ascending_issue (asks_log same holds) fun log w₁ w₂ tx'' logged => ?_)
  exact ascending_rest (lockless updated log) (exec_open logged holds.1)

theorem ascending_createTransaction {data : CreateTicketInput} :
    Ascending platform level (fun _ tx => tx.isSome = true)
      (createTransaction platform uuid context data) (some ⟨[]⟩) := by
  have alike : Alike (.ticketCreate (newTicket (uuid 0) data)) (some ⟨[]⟩) := by
    refine alike_of_constant [.ticket (uuid 0) .update, .invitation data.invitationId,
      .seat data.seatId, .guest data.eventId data.userId] (fun w => rfl) ?_
    intro l needed own needed' same
    simp only [List.mem_cons, List.not_mem_nil, or_false] at needed needed'
    rcases needed with rfl | rfl | rfl | rfl <;> rcases needed' with rfl | rfl | rfl | rfl <;>
      first | rfl | cases same
  refine Orderly.bind (ascending_issue (asks_free alike rfl) fun row w w' tx' executed => ?_)
  exact ascending_rest (lockless_enqueue.bind fun _ => trivial) (exec_open executed rfl)

theorem ascending_activateTransaction {input : ActivateDeviceDTO} :
    Ascending platform True (fun _ tx => tx.isSome = true)
      (activateTransaction platform input actorId) (some ⟨[]⟩) := by
  refine (ascending_free (keepsLocks_issue rfl) free_fresh).andThen fun found tx free => ?_
  cases found with
  | none => trivial
  | some ticket =>
    dsimp only
    split
    · trivial
    · split
      · trivial
      · split
        · trivial
        · refine (ascending_free (keepsLocks_issue rfl) free).andThen fun now tx free => ?_
          refine Orderly.bind (ascending_issue (asks_free alike_ticketUpdate free.1)
            fun updated w w' tx' executed => ?_)
          have opened := (holds_of_update executed).1
          have held := held_rank 1 free executed ?_
          · refine Orderly.bind (ascending_issue (asks_level 1 rfl ?_ fun own mine => ?_)
              fun count w w' tx'' cleaned => exec_open cleaned opened)
            · intro w l needed
              obtain ⟨row, -, rfl⟩ := List.mem_map.mp needed
              rfl
            · exact Nat.le_of_eq (held own mine)
          · intro l needed
            simp only [needs] at needed
            split at needed
            · rw [List.mem_singleton.mp needed]
              rfl
            · cases needed

theorem ascending_deletion {ids : List Uuid} {stmt : Stmt} (inside : autocommit stmt = false)
    (tickets : ∀ w tx, ∀ l ∈ needs stmt w tx, l.rank = 1) (free : Free tx) :
    Ascending platform True (fun _ tx => tx.isSome = true)
      ((discard (.scanLogDeleteMany ids)).bind fun _ =>
        (discard (.shareGuardDeleteMany ids)).bind fun _ => discard stmt) tx := by
  refine (ascending_free (lockless_discard rfl).keepsLocks free).andThen fun _ tx free => ?_
  have guards (w : World) : ∀ l ∈ needs (.shareGuardDeleteMany ids) w tx, l.rank = 0 := by
    intro l needed
    obtain ⟨id, -, rfl⟩ := List.mem_map.mp needed
    rfl
  refine Orderly.bind (Orderly.bind (ascending_issue (asks_level 0 rfl guards fun own held => ?_)
    fun _ w w' tx' executed => ?_))
  · rw [free.1] at held
    cases held
  · have opened := exec_open executed free.2
    refine Orderly.bind (ascending_issue (asks_level 1 inside (fun w => tickets w tx') fun own held => ?_)
      fun result w w' tx'' deleted => exec_open deleted opened)
    rw [held_rank 0 free executed (guards w) own held]
    exact Nat.zero_le 1

theorem ascending_deleteTransaction :
    Ascending platform True (fun _ tx => tx.isSome = true) (deleteTransaction ticketId)
      (some ⟨[]⟩) := by
  refine ascending_deletion rfl (fun w tx l needed => ?_) free_fresh
  simp only [needs] at needed
  split at needed
  · rw [List.mem_singleton.mp needed]
    rfl
  · cases needed

theorem ascending_deleteWhere {filter : Ticket → Bool} :
    Ascending platform True (fun _ tx => tx.isSome = true) (deleteWhere filter) (some ⟨[]⟩) := by
  refine (ascending_free (keepsLocks_issue rfl) free_fresh).andThen fun ids tx free => ?_
  split
  · exact free.2
  · refine ascending_deletion rfl (fun w tx l needed => ?_) free
    obtain ⟨id, -, rfl⟩ := List.mem_map.mp needed
    rfl

theorem ascending_revokeTransaction {reason : Option String} {now : Time} :
    Ascending platform level (fun _ tx => tx.isSome = true)
      (revokeTransaction platform uuid context ticketId actorId reason now ticket) (some ⟨[]⟩) :=
  ascending_update_log (fun _ => rfl) (fun _ _ => lockless_enqueue.bind fun _ => trivial) free_fresh

theorem ascending_presenceTransaction {state : PresenceState} :
    Ascending platform level (fun _ tx => tx.isSome = true)
      (presenceTransaction platform uuid context ticketId state actorId ticket) (some ⟨[]⟩) := by
  refine (ascending_free lockless_firstCheckIn.keepsLocks free_fresh).andThen fun checkedInAt tx free => ?_
  exact ascending_update_log (fun _ => rfl) (fun _ _ => lockless_enqueue.bind fun _ => trivial) free

theorem ascending_resetTransaction :
    Ascending platform level (fun _ tx => tx.isSome = true)
      (resetTransaction uuid ticketId actorId ticket) (some ⟨[]⟩) :=
  ascending_update_log (fun _ => rfl) (fun _ _ => trivial) free_fresh

def Loggable (id : Uuid) (tx : Option Tx) : Prop :=
  Free tx ∨ Holds id tx

abbrev ScanInOrder (platform : Platform) (level : Prop) (p : Program VerifyResult)
    (tx : Option Tx) : Prop :=
  Ascending platform level (fun result tx => Loggable result.ticket.id tx) p tx

theorem ascending_rotateNonce {payload : QrPayload} {state : PresenceState} (free : Free tx) :
    ScanInOrder platform level (rotateNonce ticket payload state) tx := by
  refine (ascending_free lockless_checkedIn.keepsLocks free).andThen fun checkedInAt tx free => ?_
  have alike : Alike (.ticketUpdateMany (fun row => row.id = ticket.id ∧ row.nextNonce = some payload.dn)
      (acceptedState payload state checkedInAt)) tx := by
    refine alike_of_single (.ticket ticket.id .noKeyUpdate) fun w l needed => ?_
    obtain ⟨row, matched, rfl⟩ := List.mem_map.mp needed
    have same := List.of_mem_filter matched
    simp only [decide_eq_true_eq] at same
    rw [same.1]
  refine Orderly.bind (ascending_issue (asks_free alike free.1) fun count w w' tx' executed => ?_)
  obtain ⟨t, rfl, same⟩ := Option.map_eq_some_iff.mp executed
  cases same
  dsimp only
  split
  next none =>
    left
    have unmatched : ((w.view (some t)).matching fun row =>
        row.id = ticket.id ∧ row.nextNonce = some payload.dn) = [] :=
      List.eq_nil_of_length_eq_zero none
    rw [unmatched]
    simpa using free
  next some_row =>
    refine (ascending_lockless (lockless_issue rfl) (I := Holds ticket.id) ?_ ?_).andThen ?_
    · rintro tx tx' held opened ⟨inside, mode, exclusive, mine⟩
      exact ⟨opened.trans inside, mode, exclusive, held ▸ mine⟩
    · obtain ⟨row, member⟩ := List.exists_mem_of_ne_nil _ fun empty =>
        some_row (List.length_eq_zero_iff.mpr empty)
      have matched := List.of_mem_filter member
      simp only [decide_eq_true_eq] at matched
      refine ⟨rfl, .noKeyUpdate, by simp, ?_⟩
      simp only [heldBy, Option.elim, Tx.locks, List.flatMap_append, List.mem_append]
      right
      refine List.mem_flatMap.mpr ⟨_, List.mem_map.mpr ⟨row, member, rfl⟩, ?_⟩
      simp [Write.locks, matched.1]
    · exact fun updatedAt tx holds => .inr holds

theorem ascending_rejectRisk {payload : QrPayload} {risk : RiskInput} {verdict : ScanVerdict}
    {message : String} (free : Free tx) :
    ScanInOrder platform level (rejectRisk ticket payload risk verdict message) tx :=
  (ascending_free keepsLocks_applyDecision free).andThen fun _ _ free => .inl free

theorem ascending_checkNonce {payload : QrPayload} {direction : GateDirection} (free : Free tx) :
    ScanInOrder platform level (checkNonce ticket payload direction) tx := by
  unfold checkNonce
  split
  · exact ascending_rejectRisk free
  · split
    · exact ascending_rejectRisk free
    · unfold applyDirectionPolicy
      dsimp only
      split
      · exact .inl free
      · refine (ascending_free lockless_eventEnded.keepsLocks free).andThen fun ended tx free => ?_
        split
        · exact .inl free
        · refine (ascending_free (keepsLocks_issue rfl) free).andThen fun acquired tx free => ?_
          split
          · refine (ascending_free keepsLocks_resetShareGuard free).andThen fun _ tx free => ?_
            exact ascending_rotateNonce free
          · exact ascending_rejectRisk free

theorem ascending_verifyToken {token signature deviceId : String} {direction : GateDirection} :
    ScanInOrder platform level (verifyToken token signature deviceId direction) (some ⟨[]⟩) := by
  refine (ascending_free lockless_verify.keepsLocks free_fresh).andThen fun payload tx free => ?_
  refine (ascending_free (keepsLocks_issue rfl) free).andThen fun found tx free => ?_
  cases found with
  | none => trivial
  | some ticket =>
    dsimp only
    split
    · exact .inl free
    · refine (ascending_free lockless_isBlocked.keepsLocks free).andThen fun blocked tx free => ?_
      split
      · exact .inl free
      · unfold checkDevice
        split
        · exact .inl free
        · refine (ascending_free (keepsLocks_issue rfl) free).andThen fun genuine tx free => ?_
          split
          · exact ascending_rejectRisk free
          · split
            · exact ascending_rejectRisk free
            · exact ascending_checkNonce free

theorem ascending_recordScan {input : SecurityScanInput} {result : VerifyResult}
    (loggable : Loggable result.ticket.id tx) :
    Ascending platform level (fun _ tx => tx.isSome = true)
      (recordScan platform uuid context input result) tx := by
  have asks : (lockOrder platform).Asks level
      (.scanLogCreate (scanLogRow (uuid 0) result input)) tx := by
    rcases loggable with free | holds
    · refine asks_free (alike_of_single (.ticket result.ticket.id .keyShare) fun w l needed => ?_) free.1
      exact List.mem_singleton.mp needed
    · exact asks_log (fun _ => rfl) holds
  have opened : tx.isSome = true := loggable.elim (·.2) (·.1)
  refine Orderly.bind (ascending_issue asks fun log w w' tx' executed => ?_)
  refine ascending_rest (lockless_enqueue.bind fun _ => ?_) (exec_open executed opened)
  split
  · exact lockless_enqueue.bind fun _ => trivial
  · trivial

theorem ascending_scanTransaction {input : SecurityScanInput} :
    Ascending platform level (fun _ tx => tx.isSome = true)
      (scanTransaction platform uuid context input) (some ⟨[]⟩) := by
  refine ascending_verifyToken.andThen fun result tx loggable => ?_
  refine (ascending_lockless lockless_getPermissionsForUser (I := Loggable result.ticket.id) ?_
    loggable).andThen fun permissions tx loggable => ?_
  · rintro tx tx' held opened (free | ⟨inside, mode, exclusive, mine⟩)
    · exact .inl ⟨held.trans free.1, opened.trans free.2⟩
    · exact .inr ⟨opened.trans inside, mode, exclusive, held ▸ mine⟩
  · split
    · exact ascending_recordScan loggable
    · trivial

end Transactions

section Calls

open EventRoleHandler EventSettingsHandler TicketWriteService

theorem ascending_answer {p : Program α} {reply : α → Reply}
    (orderly : Ascending platform level (fun _ tx => tx = none) p none) :
    Ascending platform level (fun _ tx => tx = none) (answer p reply) none :=
  orderly.andThen fun _ _ alone => alone

theorem ascending_before {p : Program α} {f : α → Program β} (lockless : Lockless p)
    (rest : ∀ value, Ascending platform level (fun _ tx => tx = none) (f value) none) :
    Ascending platform level (fun _ tx => tx = none) (p >>= f) none := by
  refine (ascending_alone lockless.keepsLocks).andThen fun value tx alone => ?_
  subst alone
  exact rest value

theorem program_ascending (number : Nat) (call : Call) :
    Ascending platform call.locksSeveral (fun _ tx => tx = none) (program platform number call) none := by
  cases call with
  | createTicket context data =>
    refine ascending_answer (ascending_before (lockless_issue rfl) fun existing => ?_)
    cases existing with
    | some existing =>
      dsimp only
      split
      · trivial
      · exact ascending_before lockless_publishMilestone fun _ => rfl
    | none =>
      refine (ascending_transaction ascending_createTransaction).andThen fun created tx alone => ?_
      subst alone
      exact ascending_before lockless_publishMilestone fun _ => rfl
  | activateDevice input actorId =>
    refine ascending_answer ?_
    unfold TicketMutationResolver.activateDevice
    split
    · trivial
    · exact ascending_transaction ascending_activateTransaction
  | generateToken ticketId actorId =>
    refine ascending_answer (ascending_before (lockless_issue rfl) fun ticket => ?_)
    cases ticket with
    | none => trivial
    | some ticket =>
      dsimp only
      split
      · trivial
      · split
        · trivial
        · refine ascending_alone (Lockless.keepsLocks ?_)
          exact (lockless_issue rfl).bind fun _ => (lockless_issue rfl).bind fun _ => lockless_issue rfl
  | delete ticketId actorId =>
    refine ascending_answer (ascending_before (lockless_issue rfl) fun ticket => ?_)
    cases ticket with
    | none => trivial
    | some ticket =>
      exact ascending_before lockless_assertManageTicket fun _ =>
        ascending_transaction ascending_deleteTransaction
  | deleteByEventIds eventIds =>
    refine ascending_answer ?_
    unfold deleteByEventIds
    split
    · rfl
    · exact ascending_transaction ascending_deleteWhere
  | deleteByGuestId guestId => exact ascending_answer (ascending_transaction ascending_deleteWhere)
  | revoke context ticketId reason actorId =>
    refine ascending_answer (ascending_before (lockless_issue rfl) fun now =>
      ascending_before (lockless_issue rfl) fun ticket => ?_)
    cases ticket with
    | none => trivial
    | some ticket =>
      refine ascending_before lockless_assertManageTicket fun _ => ?_
      split
      · exact ascending_before lockless_publishRevoked fun _ => rfl
      · refine (ascending_transaction ascending_revokeTransaction).andThen fun updated tx alone => ?_
        subst alone
        exact ascending_before lockless_publishRevoked fun _ => rfl
  | updatePresence context ticketId state actorId =>
    refine ascending_answer (ascending_before (lockless_issue rfl) fun ticket => ?_)
    cases ticket with
    | none => trivial
    | some ticket =>
      refine ascending_before lockless_getPermissionsForUser fun permissions => ?_
      split
      · trivial
      · split
        · trivial
        · split
          · rfl
          · exact ascending_transaction ascending_presenceTransaction
  | resetDeviceBinding ticketId actorId =>
    refine ascending_answer (ascending_before (lockless_issue rfl) fun ticket => ?_)
    cases ticket with
    | none => trivial
    | some ticket =>
      refine ascending_before lockless_assertManageTicket fun _ => ?_
      split
      · rfl
      · exact ascending_transaction ascending_resetTransaction
  | scan context input =>
    refine ascending_answer ?_
    unfold TicketMutationResolver.scanToken
    split
    · trivial
    · refine (ascending_transaction ascending_scanTransaction).andThen fun result tx alone => ?_
      subst alone
      split
      · have publishes : Lockless (ScanService.publishMilestone platform
            (ScanService.scannedMilestone input result) context input.actorId) :=
          ⟨rfl, fun _ => trivial⟩
        exact ascending_before publishes fun _ => rfl
      · rfl
  | resetShareGuard ticketId => exact ascending_answer (ascending_alone keepsLocks_resetShareGuard)
  | applyDecision ticketId decision => exact ascending_answer (ascending_alone keepsLocks_applyDecision)
  | userAccessChanged payload =>
    exact ascending_answer (ascending_alone (lockless_handler rfl rfl).keepsLocks)
  | roleAssigned payload => exact ascending_answer (ascending_alone (lockless_handler rfl rfl).keepsLocks)
  | roleRemoved payload => exact ascending_answer (ascending_alone (lockless_handler rfl rfl).keepsLocks)
  | ownerChanged payload =>
    have handles : Lockless (handleOwnerChanged payload) := by
      unfold handleOwnerChanged
      split
      · exact (lockless_handler rfl rfl).bind fun _ => lockless_handler rfl rfl
      · exact lockless_handler rfl rfl
    exact ascending_answer (ascending_alone handles.keepsLocks)
  | eventDeleted eventIds =>
    have deletes : Lockless (EventRoleHandler.handleEventDeleted eventIds) := by
      refine (lockless_attempt rfl).bind fun roles => (lockless_attempt rfl).bind fun settings => ?_
      refine (lockless_attempt rfl).bind fun access => ?_
      split <;> trivial
    exact ascending_answer (ascending_alone deletes.keepsLocks)
  | eventCreated payload => exact ascending_answer (ascending_alone (lockless_discard rfl).keepsLocks)
  | eventUpdated payload => exact ascending_answer (ascending_alone (lockless_handler rfl rfl).keepsLocks)

end Calls

end TicketService
