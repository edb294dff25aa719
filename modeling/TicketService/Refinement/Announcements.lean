import TicketService.Refinement.Kinds
import TicketService.Refinement.Outcomes
import TicketService.Refinement.Records

set_option autoImplicit false

namespace TicketService

open Interleaving Relational AnalyticsOutboxService ScanService TicketEventRoleResolver TicketWriteService
open VerifyService

variable {platform : Platform} {i : Nat} {tx : Option Tx} {log log' : Record} {α : Type}

def Kind.sends : Kind → Bool
  | .send => true
  | _ => false

def outgoing : Event statements World Tx → Option Message
  | .stmt _ (.send message) _ _ => some message
  | _ => none

def announcements (log : Record) : List Message :=
  log.filterMap outgoing

def Wrote (i : Nat) (writes : List Write) (log : Record) : Prop :=
  ∃ t w, .commit i t w ∈ log ∧ writes ⊆ t.writes

structure Ticket.Fits (row : Ticket) (data : CreateTicketInput) : Prop where
  eventId : row.eventId = data.eventId
  invitationId : row.invitationId = data.invitationId
  guestProfileId : row.guestProfileId = data.userId
  seatId : row.seatId = data.seatId

def Provided (i : Nat) (row : Ticket) (log : Record) : Prop :=
  (∃ invitationId w, .stmt i (.ticketFindByInvitation invitationId) (some row) w ∈ log ∧
    row ∈ w.store.tickets.rows) ∨
  row.id = ⟨i, 0⟩ ∧ Wrote i [.insertTicket row] log

def Cancelled (i : Nat) (t : Uuid) (row : Ticket) (log : Record) : Prop :=
  (∃ w, .stmt i (.ticketFindUnique .prisma t) (some row) w ∈ log ∧ w.ticket t = some row ∧
    row.revoked = true) ∨
  ∃ old now actorId reason w, .stmt i (.ticketUpdate .tx t (revokedState now actorId reason)) row w ∈ log ∧
    w.ticket t = some old ∧ row = old.updated (revokedState now actorId reason) w.clock ∧
    ∃ entry, entry.ticketId = t ∧ entry.verdict = .revoked ∧
      Wrote i [.putTicket t row.toTicketState w.clock, .insertScanLog entry] log

def scanMilestone (entry : ScanLog) : EventMilestoneRecordedDTO where
  eventId := entry.eventId
  milestoneId := ⟨entry.id, "scanned"⟩
  type := .ticketScanned
  label :=
    match truthy entry.gate with
    | some gate => "Ticket scanned at " ++ gate
    | none => "Ticket scanned"
  occurredAt := entry.createdAt
  referenceId := entry.ticketId

def Call.Announces (platform : Platform) (i : Nat) (message : Message) (log : Record) : Call → Prop
  | .createTicket context data => ∃ row, row.Fits data ∧ Provided i row log ∧
      message = recordedMessage platform context (generatedMilestone row)
  | .revoke context ticketId _ _ => ∃ row occurredAt, Cancelled i ticketId row log ∧
      (∀ revokedAt, row.revokedAt = some revokedAt → occurredAt = revokedAt) ∧
      message = recordedMessage platform context (revokedMilestone row occurredAt)
  | .scan context input => ∃ entry, entry.id = ⟨i, 0⟩ ∧ entry.verdict = .ok ∧
      entry.actorId = input.actorId ∧ entry.gate = input.gate ∧ Wrote i [.insertScanLog entry] log ∧
      message = .milestoneRecorded (scanMilestone entry) (messageMeta platform context (some input.actorId))
  | _ => False

structure Announces (platform : Platform) (i : Nat) (call : Call) (log : Record) : Prop where
  told : ∀ message ∈ announcements log, call.Announces platform i message log
  once : (announcements log).length ≤ 1

def Untold (log : Record) : Prop :=
  announcements log = []

section Records

variable {call : Call} {message : Message} {writes : List Write} {row : Ticket}

theorem Wrote.later (wrote : Wrote i writes log) (within : log ⊆ log') : Wrote i writes log' := by
  obtain ⟨t, w, committed, written⟩ := wrote
  exact ⟨t, w, within committed, written⟩

theorem Provided.later (provided : Provided i row log) (within : log ⊆ log') : Provided i row log' := by
  rcases provided with ⟨invitationId, w, found, member⟩ | ⟨own, wrote⟩
  · exact .inl ⟨invitationId, w, within found, member⟩
  · exact .inr ⟨own, wrote.later within⟩

theorem Cancelled.later {t : Uuid} (cancelled : Cancelled i t row log) (within : log ⊆ log') :
    Cancelled i t row log' := by
  rcases cancelled with ⟨w, found, here⟩ |
    ⟨old, now, actorId, reason, w, updated, present, same, entry, own, verdict, wrote⟩
  · exact .inl ⟨w, within found, here⟩
  · exact .inr ⟨old, now, actorId, reason, w, within updated, present, same, entry, own, verdict,
      wrote.later within⟩

theorem Call.Announces.later (announces : call.Announces platform i message log) (within : log ⊆ log') :
    call.Announces platform i message log' := by
  cases call with
  | createTicket context data =>
    obtain ⟨row, fits, provided, same⟩ := announces
    exact ⟨row, fits, provided.later within, same⟩
  | revoke context ticketId reason actorId =>
    obtain ⟨row, occurredAt, cancelled, known, same⟩ := announces
    exact ⟨row, occurredAt, cancelled.later within, known, same⟩
  | scan context input =>
    obtain ⟨entry, id, verdict, actor, gate, wrote, same⟩ := announces
    exact ⟨entry, id, verdict, actor, gate, wrote.later within, same⟩
  | _ => exact announces

theorem untold_nil : Untold [] := rfl

theorem outgoing_none {stmt : Stmt} {result : stmt.Res} {w : World} (other : stmt.kind.sends = false) :
    outgoing (.stmt i stmt result w) = none := by
  cases stmt with
  | send => cases other
  | _ => rfl

theorem Untold.stmt {stmt : Stmt} {result : stmt.Res} {w : World} (untold : Untold log)
    (other : stmt.kind.sends = false) : Untold (.stmt i stmt result w :: log) :=
  (List.filterMap_cons_none (outgoing_none other)).trans untold

theorem Untold.commit {t : Tx} {w : World} (untold : Untold log) : Untold (.commit i t w :: log) :=
  untold

theorem Untold.announces (untold : Untold log) : Announces platform i call log where
  told message member := by
    rw [untold] at member
    cases member
  once := by simp [untold.symm ▸ List.length_nil]

theorem Untold.send {w : World} (untold : Untold log) (announces : call.Announces platform i message log) :
    Announces platform i call (.stmt i (.send message) () w :: log) := by
  have only : announcements (.stmt i (.send message) () w :: log) = [message] :=
    congrArg (message :: ·) untold
  refine ⟨fun other member => ?_, ?_⟩
  · rw [only, List.mem_singleton] at member
    exact member ▸ announces.later (List.subset_cons_self _ _)
  · rw [only]
    exact Nat.le_refl 1

end Records

section Programs

variable {call : Call} {written : List Write} {context : RequestContext}

abbrev AlongAnnouncing (platform : Platform) (i : Nat) (call : Call)
    (Q : α → Option Tx → Record → Prop) (p : Program α) (tx : Option Tx) (log : Record) : Prop :=
  Along (engine platform) .any i (Announces platform i call) (fun _ _ => True) Q p tx log

theorem along_untold {ks : List Kind} {p : Program α} (issues : Kinds ks p)
    (listed : ks.all (fun kind => !kind.sends) = true) (untold : Untold log) :
    AlongAnnouncing platform i call (fun _ _ later => Untold later ∧ log ⊆ later) p tx log := by
  refine Along.of_issues (I := fun later => Untold later ∧ log ⊆ later)
    (issues.all (P := fun stmt => stmt.kind.sends = false) listed fun stmt other => by simpa using other)
    ?_ ?_ (fun _ here => here.1.announces) (fun _ _ _ => trivial) ⟨untold, List.Subset.refl log⟩
  · rintro stmt result w later other ⟨untold, within⟩
    exact ⟨untold.stmt other, List.Subset.trans within (List.subset_cons_self _ _)⟩
  · rintro t w later ⟨untold, within⟩
    exact ⟨untold.commit, List.Subset.trans within (List.subset_cons_self _ _)⟩

def Held (written : List Write) (tx : Option Tx) : Prop :=
  ∀ t ∈ tx, written ⊆ t.writes

theorem Held.exec {stmt : Stmt} {result : stmt.Res} {w w' : World} {tx' : Option Tx} (held : Held written tx)
    (executed : exec platform stmt w tx = some (result, w', tx')) : Held written tx' := by
  cases exec_effect executed with
  | writes stmt result t added opened =>
    rintro _ ⟨⟩
    exact List.Subset.trans (held t opened) (List.subset_append_left t.writes added)
  | _ => exact held

theorem along_held {stmt : Stmt} (other : stmt.kind.sends = false) (untold : Untold log)
    (held : Held written tx) :
    AlongAnnouncing platform i call (fun _ tx later => Untold later ∧ log ⊆ later ∧ Held written tx)
      (issue stmt) tx log :=
  along_issue stmt (fun _ _ _ _ executed => ⟨(untold.stmt other).announces, untold.stmt other,
    List.subset_cons_self _ _, held.exec executed⟩) fun _ _ => trivial

theorem along_enqueue_held {id : Uuid} {topic : FactTopic} {fact : FactInput} (untold : Untold log)
    (held : Held written tx) :
    AlongAnnouncing platform i call (fun _ tx later => Untold later ∧ log ⊆ later ∧ Held written tx)
      (enqueue platform context id topic fact) tx log := by
  unfold enqueue
  split
  · trivial
  · refine (along_held rfl untold held).andThen fun now tx log₁ here => ?_
    obtain ⟨untold, within, held⟩ := here
    split
    · refine (along_held rfl untold held).andThen fun _ tx log₂ here => ?_
      exact ⟨here.1, List.Subset.trans within here.2.1, here.2.2⟩
    · trivial

theorem held_scanLog {row : Time → ScanLog} {entry : ScanLog} {w w' : World} {tx' : Option Tx}
    (held : Held written tx) (executed : exec platform (.scanLogCreate row) w tx = some (entry, w', tx')) :
    entry = row w.clock ∧ Held (.insertScanLog entry :: written) tx' := by
  simp only [exec] at executed
  split at executed
  · obtain ⟨t, opened, same⟩ := Option.map_eq_some_iff.mp executed
    cases same
    refine ⟨rfl, ?_⟩
    rintro _ ⟨⟩
    exact List.cons_subset.mpr ⟨List.mem_append_right _ List.mem_cons_self,
      List.Subset.trans (held t opened) (List.subset_append_left _ _)⟩
  · cases executed

theorem along_send {message : Message} (untold : Untold log)
    (announces : call.Announces platform i message log) :
    AlongAnnouncing platform i call (fun _ _ later => ¬Untold later) (discard (.send message)) tx log := by
  refine Along.bind (along_issue (.send message) (fun _ w w' tx' _ => ?_) fun _ _ => trivial)
  exact ⟨untold.send announces, List.cons_ne_nil _ _⟩

theorem along_provided {data : CreateTicketInput} {row : Ticket} (untold : Untold log) (fits : row.Fits data)
    (provided : Provided i row log) :
    AlongAnnouncing platform i (.createTicket context data) (fun _ _ later => ¬Untold later)
      (publishMilestone platform (generatedMilestone row) context >>= fun _ => .done row : Program Ticket)
      tx log := by
  have announces : (Call.createTicket context data).Announces platform i
      (recordedMessage platform context (generatedMilestone row)) log := ⟨row, fits, provided, rfl⟩
  exact (along_send untold announces).andThen fun _ _ _ told => told

theorem along_createTicket_announces {data : CreateTicketInput} :
    AlongAnnouncing platform i (.createTicket context data) (fun _ _ later => ¬Untold later)
      (createTicket platform (Uuid.mk i) context data) none [] := by
  refine Along.bind (along_issue (.ticketFindByInvitation data.invitationId)
    (fun existing w w' tx' executed => ?_) fun _ _ => trivial)
  have untold : Untold [.stmt i (.ticketFindByInvitation data.invitationId) existing w] :=
    untold_nil.stmt rfl
  refine ⟨untold.announces, ?_⟩
  cases executed
  cases lookup : w.store.tickets.rows.find? fun row => row.invitationId = data.invitationId with
  | some row =>
    rw [lookup] at untold
    dsimp only
    split
    · trivial
    next same =>
      have invitation : row.invitationId = data.invitationId := by simpa using List.find?_some lookup
      simp only [not_or, not_not] at same
      have provided : Provided i row [.stmt i (.ticketFindByInvitation data.invitationId) (some row) w] :=
        .inl ⟨_, w, List.mem_cons_self, List.mem_of_find?_eq_some lookup⟩
      exact along_provided untold ⟨same.1, invitation, same.2.1, same.2.2⟩ provided
  | none =>
    rw [lookup] at untold
    refine Along.bind (Along.transaction (Along.bind ?_))
    refine along_issue (.ticketCreate (newTicket ⟨i, 0⟩ data)) (fun created w₁ w₂ tx₁ executed => ?_)
      fun _ _ => trivial
    obtain ⟨fits, id, rfl⟩ : created.Fits data ∧ created.id = ⟨i, 0⟩ ∧
        tx₁ = some ⟨[.insertTicket created]⟩ := by
      simp only [exec] at executed
      split at executed
      · cases executed
      · cases executed
        exact ⟨⟨rfl, rfl, rfl, rfl⟩, rfl, rfl⟩
    have held : Held [.insertTicket created] (some ⟨[.insertTicket created]⟩) := by
      rintro _ ⟨⟩
      exact List.Subset.refl _
    refine ⟨(untold.stmt rfl).announces, (along_enqueue_held (untold.stmt rfl) held).andThen
      fun _ tx log here => ⟨fun t w₃ opened => ?_, fun _ => trivial⟩⟩
    obtain ⟨untold, -, held⟩ := here
    exact ⟨untold.commit.announces, along_provided untold.commit fits
      (.inr ⟨id, t, w₃, List.mem_cons_self, held t opened⟩)⟩

variable {ticketId actorId : Uuid} {reason : Option String} {row : Ticket}

theorem along_publishRevokedMilestone (untold : Untold log) (cancelled : Cancelled i ticketId row log) :
    AlongAnnouncing platform i (.revoke context ticketId reason actorId) (fun _ _ later => ¬Untold later)
      (publishRevokedMilestone platform row context) tx log := by
  have announces {later : Record} {occurredAt : Time} (within : log ⊆ later)
      (known : ∀ revokedAt, row.revokedAt = some revokedAt → occurredAt = revokedAt) :
      (Call.revoke context ticketId reason actorId).Announces platform i
        (recordedMessage platform context (revokedMilestone row occurredAt)) later :=
    ⟨row, occurredAt, cancelled.later within, known, rfl⟩
  unfold publishRevokedMilestone
  cases known : row.revokedAt with
  | some revokedAt => exact along_send untold (announces (List.Subset.refl log) (by simp [known]))
  | none =>
    simp only [Option.none_or]
    split
    · exact along_send untold (announces (List.Subset.refl log) (by simp [known]))
    · refine (along_untold (kinds_issue rfl : Kinds [.now] _) rfl untold).andThen fun now tx later here => ?_
      exact along_send here.1 (announces here.2 (by simp [known]))

theorem along_revoke_announces :
    AlongAnnouncing platform i (.revoke context ticketId reason actorId) (fun _ _ later => ¬Untold later)
      (revoke platform (Uuid.mk i) context ticketId reason actorId) none [] := by
  refine (along_untold (kinds_issue rfl : Kinds [.now] _) rfl untold_nil).andThen fun now tx log here => ?_
  refine Along.bind (along_issue (.ticketFindUnique .prisma ticketId) (fun found w w' tx' executed => ?_)
    fun _ _ => trivial)
  have untold : Untold (.stmt i (.ticketFindUnique .prisma ticketId) found w :: log) := here.1.stmt rfl
  refine ⟨untold.announces, ?_⟩
  have present : w.ticket ticketId = found := by
    cases executed
    rfl
  cases found with
  | none => trivial
  | some ticket =>
    refine (along_untold kinds_assertManageTicket rfl untold).andThen fun _ tx log here => ?_
    obtain ⟨untold, within⟩ := here
    split
    next revoked =>
      have cancelled : Cancelled i ticketId ticket log :=
        .inl ⟨w, within List.mem_cons_self, present, revoked⟩
      exact (along_publishRevokedMilestone untold cancelled).andThen fun _ _ _ told => told
    next =>
      refine Along.bind (Along.transaction (Along.bind ?_))
      refine along_issue (.ticketUpdate .tx ticketId (revokedState now actorId reason))
        (fun updated w₁ w₂ tx₁ executed => ?_) fun _ _ => trivial
      obtain ⟨old, there, same, opened⟩ : ∃ old, w₁.ticket ticketId = some old ∧
          updated = old.updated (revokedState now actorId reason) w₁.clock ∧
          tx₁ = some ⟨[.putTicket ticketId updated.toTicketState w₁.clock]⟩ := by
        obtain ⟨old, there, executed⟩ := Option.bind_eq_some_iff.mp executed
        cases executed
        exact ⟨old, there, rfl, rfl⟩
      have held : Held [.putTicket ticketId updated.toTicketState w₁.clock] tx₁ := by
        subst opened
        rintro _ ⟨⟩
        exact List.Subset.refl _
      refine ⟨(untold.stmt rfl).announces, Along.bind ?_⟩
      refine along_issue (.scanLogCreate
        (staffLogRow ⟨i, 0⟩ ticketId ticket actorId .outside .revoked none none))
        (fun entry w₂ w₃ tx₂ executed => ?_) fun _ _ => trivial
      obtain ⟨created, held⟩ := held_scanLog held executed
      refine ⟨((untold.stmt rfl).stmt rfl).announces, ?_⟩
      refine (along_enqueue_held ((untold.stmt rfl).stmt rfl) held).andThen fun _ tx log₁ here =>
        ⟨fun t w₄ opened => ?_, fun _ => trivial⟩
      obtain ⟨untold, within₁, held⟩ := here
      refine ⟨untold.commit.announces, ?_⟩
      have issued := within₁ (List.mem_cons_of_mem _ List.mem_cons_self)
      have wrote : Wrote i [.putTicket ticketId updated.toTicketState w₁.clock, .insertScanLog entry]
          (.commit i t w₄ :: log₁) :=
        ⟨t, w₄, List.mem_cons_self, List.Subset.trans (List.Perm.swap _ _ _).subset (held t opened)⟩
      refine (along_publishRevokedMilestone untold.commit (.inr ⟨old, now, actorId, reason, w₁,
        List.mem_cons_of_mem _ issued, there, same, entry, ?_, ?_, wrote⟩)).andThen fun _ _ _ told => told
      · rw [created]
        rfl
      · rw [created]
        rfl

variable {input : SecurityScanInput}

structure Reports (i : Nat) (input : SecurityScanInput) (payload : ScanPayloadDTO) : Prop where
  id : payload.log.id = ⟨i, 0⟩
  verdict : payload.log.verdict = payload.verdict
  actorId : payload.log.actorId = input.actorId
  gate : payload.log.gate = input.gate
  milestone : scannedMilestone input payload = scanMilestone payload.log

theorem along_recordScan_held {result : VerifyResult} (untold : Untold log) :
    AlongAnnouncing platform i call (fun payload tx later => Untold later ∧ Reports i input payload ∧
        Held [.insertScanLog payload.log] tx)
      (recordScan platform (Uuid.mk i) context input result) tx log := by
  refine Along.bind (along_issue (.scanLogCreate (scanLogRow ⟨i, 0⟩ result input))
    (fun entry w w' tx' executed => ?_) fun _ _ => trivial)
  have none : Held [] tx := fun t _ => List.nil_subset _
  obtain ⟨created, held⟩ := held_scanLog none executed
  have reports : Reports i input ⟨result.ticket, entry, result.verdict, result.message⟩ := by
    subst created
    exact ⟨rfl, rfl, rfl, rfl, rfl⟩
  refine ⟨(untold.stmt rfl).announces, (along_enqueue_held (untold.stmt rfl) held).andThen
    fun _ tx log here => ?_⟩
  obtain ⟨untold, -, held⟩ := here
  split
  · exact (along_enqueue_held untold held).andThen fun _ _ _ here => ⟨here.1, reports, here.2.2⟩
  · exact ⟨untold, reports, held⟩

theorem along_scan_announces :
    AlongAnnouncing platform i (.scan context input) (fun _ _ _ => True)
      (scan platform (Uuid.mk i) context input) none [] := by
  refine Along.bind (Along.transaction ?_)
  refine (along_untold kinds_verifyToken rfl untold_nil).andThen fun result tx log here => ?_
  refine (along_untold kinds_getPermissionsForUser rfl here.1).andThen fun permissions tx log here => ?_
  split
  · refine (along_recordScan_held here.1).mono fun payload tx log here =>
      ⟨fun t w opened => ?_, fun _ => trivial⟩
    obtain ⟨untold, reports, held⟩ := here
    refine ⟨untold.commit.announces, ?_⟩
    split
    next accepted =>
      refine Along.bind (And.intro (fun _ w' _ _ _ => ⟨untold.commit.send ?_, trivial⟩) fun _ _ => trivial)
      refine ⟨payload.log, reports.id, reports.verdict.trans accepted, reports.actorId, reports.gate,
        ⟨t, w, List.mem_cons_self, held t opened⟩, ?_⟩
      rw [reports.milestone]
    · trivial
  · trivial

def Call.publishes : Call → Bool
  | .createTicket .. => true
  | .revoke .. => true
  | _ => false

def announcementStory (platform : Platform) : Story statements World Tx Call Exn Reply where
  keeps i call log := Announces platform i call log
  returns _ call _ log := call.publishes = true → ¬Untold log
  throws _ _ _ _ := True

theorem tells_announcements (call : Call) (i : Nat) :
    (service platform).Tells (announcementStory platform) .any i call ⟨program platform i call, none⟩ [] := by
  have kinds := @kinds_program platform call i
  cases call with
  | createTicket context data => exact along_createTicket_announces.andThen fun _ _ _ told _ => told
  | revoke context ticketId reason actorId => exact along_revoke_announces.andThen fun _ _ _ told _ => told
  | scan context input =>
    refine Along.bind ?_
    unfold TicketMutationResolver.scanToken
    split
    · trivial
    · exact along_scan_announces.mono fun _ _ _ _ => nofun
  | _ => exact (along_untold kinds rfl untold_nil).mono fun _ _ _ _ => nofun

end Programs

end TicketService
