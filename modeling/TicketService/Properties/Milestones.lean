import TicketService.Properties.LogsTellRows
import TicketService.Properties.Mediation
import TicketService.Refinement.Announcements
import TicketService.Refinement.Spans

set_option autoImplicit false

namespace TicketService

open Interleaving Relational ScanService TicketWriteService

variable {platform : Platform} {w : World} {g g' : Global} {i : Nat} {t : Uuid} {c : ServiceState}

-- The creation of the ticket has been committed.
def Inserted (g : Global) (row : Ticket) : Prop :=
  Wrote row.id.call [.insertTicket row] g.history

def Call.Told (platform : Platform) (g : Global) (i : Nat) (message : Message) : Call → Prop
  | .createTicket context data => ∃ row, Inserted g row ∧ row.Fits data ∧
      message = recordedMessage platform context (generatedMilestone row) ∧
      ∀ now, g.world.ticket row.id = some now → now.identity = row.identity
  | .revoke context ticketId _ _ => ∃ row revokedAt, Cancelled i ticketId row g.history ∧ row.id = ticketId ∧
      row.revokedAt = some revokedAt ∧
      message = recordedMessage platform context (revokedMilestone row revokedAt) ∧
      ∀ now, g.world.ticket ticketId = some now → now.identity = row.identity ∧ now.revoked = true
  | .scan context input => ∃ entry, Wrote i [.insertScanLog entry] g.history ∧ entry.id = ⟨i, 0⟩ ∧
      entry.verdict = .ok ∧ entry.actorId = input.actorId ∧ entry.gate = input.gate ∧
      message = .milestoneRecorded (scanMilestone entry) (messageMeta platform context (some input.actorId)) ∧
      ∀ now, g.world.ticket entry.ticketId = some now → entry ∈ g.world.store.scanLogs
  | _ => False

section Creations

structure Sown (g : Global) : Prop where
  rows : ∀ row ∈ g.world.store.tickets.rows, ∃ created, Inserted g created ∧ created.identity = row.identity
  past : ∀ e ∈ g.history, ∀ row ∈ e.world.store.tickets.rows,
    ∃ created, Inserted g created ∧ created.identity = row.identity
  once : ∀ a b, Inserted g a → Inserted g b → a.id = b.id → a = b

theorem Inserted.extends {row : Ticket} (inserted : Inserted g row) (moved : Extends g g') :
    Inserted g' row :=
  inserted.later moved.history

theorem Commits.inserts_one {tx : Tx} (commits : Commits platform g i tx) {a b : Ticket}
    (first : .insertTicket a ∈ tx.writes) (second : .insertTicket b ∈ tx.writes) : a = b := by
  cases commits with
  | created context data createdAt fact called untaken =>
    simp only [List.mem_cons, Write.insertTicket.injEq, reduceCtorEq, List.not_mem_nil, or_false]
      at first second
    rw [first, second]
  | _ => simp at first

theorem Change.wrote {actor : Option Nat} (change : Change platform actor g g') {writes : List Write}
    (wrote : Wrote i writes g'.history) : Wrote i writes g.history ∨
      ∃ tx, g' = g.commit (engine platform) i tx ∧ Commits platform g i tx ∧ ¬Committed g i ∧
        writes ⊆ tx.writes := by
  obtain ⟨t, w, committed, written⟩ := wrote
  cases change with
  | invoke call => exact .inl ⟨t, w, committed, written⟩
  | environ action => exact .inl ⟨t, w, committed, written⟩
  | rollback j => exact .inl ⟨t, w, by simpa [Shared.rollback] using committed, written⟩
  | stmt j stmt result w' tx tx' => exact .inl ⟨t, w, by simpa [Shared.record] using committed, written⟩
  | commit j tx commits first =>
    rcases List.mem_cons.mp committed with same | before
    · cases same
      exact .inr ⟨t, rfl, commits, first, written⟩
    · exact .inl ⟨t, w, before, written⟩

theorem Change.once {actor : Option Nat} (change : Change platform actor g g')
    (once : ∀ a b, Inserted g a → Inserted g b → a.id = b.id → a = b) :
    ∀ a b, Inserted g' a → Inserted g' b → a.id = b.id → a = b := by
  have uncommitted {row : Ticket} (before : Inserted g row) (first : ¬Committed g row.id.call) : False := by
    obtain ⟨t, w, committed, -⟩ := before
    exact first ⟨t, w, committed⟩
  intro a b inserted inserted' same
  rcases change.wrote inserted with before | ⟨tx, here, commits, first, written⟩ <;>
    rcases change.wrote inserted' with before' | ⟨tx', here', -, first', written'⟩
  · exact once a b before before' same
  · exact (uncommitted before (same ▸ first')).elim
  · exact (uncommitted before' (same ▸ first)).elim
  · rw [← same, here] at here'
    have one := congrArg Shared.history here'
    cases (List.cons.inj one).1
    exact commits.inserts_one (written List.mem_cons_self) (written' List.mem_cons_self)

theorem Change.row_origin {actor : Option Nat} (change : Change platform actor g g') {row : Ticket}
    (present : row ∈ g'.world.store.tickets.rows) :
    (∃ before ∈ g.world.store.tickets.rows, before.identity = row.identity) ∨
      ∃ created, Inserted g' created ∧ created.identity = row.identity := by
  cases change with
  | invoke call => exact .inl ⟨row, present, rfl⟩
  | environ action => exact .inl ⟨row, by cases action <;> exact present, rfl⟩
  | rollback i => exact .inl ⟨row, present, rfl⟩
  | stmt i stmt result w tx tx' executed =>
    left
    rcases exec_cases executed with ⟨-, tickets, -⟩ | ⟨rfl, -⟩ | ⟨id, data, old, -, there, -, rfl⟩
    · exact ⟨row, tickets ▸ present, rfl⟩
    · exact ⟨row, present, rfl⟩
    · have written : row ∈ ((Write.putTicket id (data old.toTicketState)
          g.world.clock).apply g.world.store).tickets.rows := present
      rcases Write.row_before written with before | inserted
      · exact before
      · cases inserted
  | commit i tx commits first =>
    rcases Tx.row_before present with before | ⟨created, written, same⟩
    · exact .inl before
    · refine .inr ⟨created, ⟨tx, g.world, ?_, List.cons_subset.mpr ⟨written, List.nil_subset _⟩⟩, same⟩
      rw [(commits.inserted written).1]
      exact List.mem_cons_self

theorem Change.sown {actor : Option Nat} (change : Change platform actor g g') (sown : Sown g) : Sown g' := by
  have kept {row : Ticket} (before : ∃ created, Inserted g created ∧ created.identity = row.identity) :
      ∃ created, Inserted g' created ∧ created.identity = row.identity := by
    obtain ⟨created, inserted, same⟩ := before
    exact ⟨created, inserted.extends change.extends, same⟩
  refine ⟨fun row present => ?_, fun e member row present => ?_, change.once sown.once⟩
  · rcases change.row_origin present with ⟨before, there, same⟩ | created
    · rw [← same]
      exact kept (sown.rows before there)
    · exact created
  · rcases change.recorded e member with before | same
    · exact kept (sown.past e before row present)
    · rw [same] at present
      exact kept (sown.rows row present)

theorem Sown.identity {row now : Ticket} (sown : Sown g) (inserted : Inserted g row)
    (present : g.world.ticket row.id = some now) : now.identity = row.identity := by
  obtain ⟨created, inserted', same⟩ := sown.rows now (Table.mem_of_get? present)
  have key : now.id = row.id := Table.key_of_get? present
  rw [← same, sown.once created row inserted' inserted ((Ticket.id_of_identity same).trans key)]

theorem reachable_sown (pristine : Pristine w) (reachable : (service platform).Reachable w c) :
    Sown c.shared := by
  refine reachable_invariant pristine reachable Sown ⟨?_, ?_, ?_⟩ fun _ _ _ _ sown change => change.sown sown
  · intro row present
    have : row ∈ w.store.tickets.rows := present
    simp [pristine.tickets] at this
  · intro e member
    cases member
  · rintro a b ⟨t, w', member, -⟩
    cases member

end Creations

section Logs

variable {entry : ScanLog} {writes : List Write} {l before after : Life}

def Write.drops : Write → Bool
  | .deleteTickets _ => true
  | .deleteScanLogs _ => true
  | _ => false

theorem Life.write_keeps {write : Write} (keeps : write.drops = false) : l.logs ⊆ (l.write t write).logs := by
  cases write with
  | deleteTickets => cases keeps
  | deleteScanLogs => cases keeps
  | deleteShareGuards => exact List.Subset.refl _
  | insertScanLog log =>
    simp only [Life.write]
    split
    · exact List.subset_append_left _ _
    · exact List.Subset.refl _
  | _ =>
    simp only [Life.write]
    split <;> exact List.Subset.refl _

theorem Life.foldl_keeps (keeps : ∀ write ∈ writes, write.drops = false) :
    l.logs ⊆ (writes.foldl (Life.write t) l).logs := by
  induction writes generalizing l with
  | nil => exact List.Subset.refl _
  | cons write rest ih =>
    obtain ⟨first, keeps⟩ := List.forall_mem_cons.mp keeps
    exact List.Subset.trans (Life.write_keeps first) (ih keeps)

theorem Life.foldl_logs (keeps : ∀ write ∈ writes, write.drops = false)
    (written : .insertScanLog entry ∈ writes) :
    entry ∈ (writes.foldl (Life.write entry.ticketId) l).logs := by
  induction writes generalizing l with
  | nil => cases written
  | cons write rest ih =>
    have others := (List.forall_mem_cons.mp keeps).2
    rcases List.mem_cons.mp written with rfl | later
    · have logged : entry ∈ (l.write entry.ticketId (.insertScanLog entry)).logs := by simp [Life.write]
      exact Life.foldl_keeps others logged
    · exact ih others later

theorem Commits.keeps_logs {tx : Tx} (commits : Commits platform g i tx)
    (written : .insertScanLog entry ∈ tx.writes) : ∀ write ∈ tx.writes, write.drops = false := by
  cases commits with
  | deleted => simp at written
  | _ => simp [Write.drops]

theorem Turn.keeps_logs (turn : Turn platform g t i before after) :
    after.row = none ∨ before.logs ⊆ after.logs := by
  cases turn with
  | deleted => exact .inl rfl
  | revoked => exact .inr (List.subset_append_left _ _)
  | presence => exact .inr (List.subset_append_left _ _)
  | reset => exact .inr (List.subset_append_left _ _)
  | accepted => exact .inr (List.subset_append_left _ _)
  | rejected => exact .inr (List.subset_append_left _ _)
  | _ => exact .inr (List.Subset.refl _)

def Filed (g : Global) (entry : ScanLog) : Prop :=
  entry ∈ (life g.world.store entry.ticketId).logs ∨
    Committed g entry.ticketId.call ∧ g.world.ticket entry.ticketId = none

theorem Change.filed {actor : Option Nat} (change : Change platform actor g g') (rooted : Rooted g)
    (absent : ∀ t, (life g.world.store t).row = none → (life g.world.store t).logs = [])
    (filed : Filed g entry) : Filed g' entry := by
  have moved := change.extends
  rcases filed with member | ⟨committed, gone⟩
  · cases stood : g.world.ticket entry.ticketId with
    | none =>
      rw [absent entry.ticketId stood] at member
      cases member
    | some row =>
      rcases change.turn entry.ticketId with same | ⟨i, -, turn⟩
      · exact .inl (same ▸ member)
      · rcases turn.keeps_logs with deleted | kept
        · exact .inr ⟨moved.committed (rooted.committed stood), deleted⟩
        · exact .inl (kept member)
  · exact .inr ⟨moved.committed committed, moved.gone entry.ticketId committed gone⟩

theorem reachable_filed (pristine : Pristine w) (reachable : (service platform).Reachable w c)
    (wrote : Wrote i [.insertScanLog entry] c.shared.history) : Filed c.shared entry := by
  refine reachable_induction pristine reachable
    (fun g => Wrote i [.insertScanLog entry] g.history → Filed g entry) ?_ ?_ wrote
  · rintro ⟨t, w', member, -⟩
    cases member
  · intro actor b c earlier _ change filed wrote
    rcases change.wrote wrote with before | ⟨tx, same, commits, -, written⟩
    · exact change.filed (reachable_rooted pristine earlier)
        (fun t => ((reachable_tallied pristine earlier).accounted t).absent) (filed before)
    · left
      have member := written List.mem_cons_self
      have after : c.shared.world.store = tx.apply b.shared.world.store := by
        rw [same]
        rfl
      rw [after, life_commit]
      exact Life.foldl_logs (commits.keeps_logs member) member

end Logs

section Told

variable {call : Call} {message : Message} {row created : Ticket}

theorem Ticket.Fits.of_identity {data : CreateTicketInput} (fits : row.Fits data)
    (same : created.identity = row.identity) : created.Fits data := by
  obtain ⟨-, event, invitation, seat, guest, -⟩ := Ticket.identity_iff.mp same
  exact ⟨event.trans fits.eventId, invitation.trans fits.invitationId, guest.trans fits.guestProfileId,
    seat.trans fits.seatId⟩

theorem generatedMilestone_of_identity (same : created.identity = row.identity) :
    generatedMilestone created = generatedMilestone row := by
  obtain ⟨id, event, -, -, -, createdAt⟩ := Ticket.identity_iff.mp same
  simp [generatedMilestone, id, event, createdAt]

theorem Cancelled.revokedAt (pristine : Pristine w) (reachable : (service platform).Reachable w c)
    (cancelled : Cancelled i t row c.shared.history) :
    Known c.shared row ∧ row.id = t ∧ ∃ revokedAt, row.revokedAt = some revokedAt := by
  have past := reachable_past pristine reachable
  rcases cancelled with ⟨w', found, present, revoked⟩ |
    ⟨old, now, actorId, reason, w', updated, there, rfl, -⟩
  · have read : Read c.shared i .prisma t row := ⟨w', found, present⟩
    have shaped := ((reachable_shaped pristine reachable).read read).1
    exact ⟨past.read read, read.id, Option.ne_none_iff_exists'.mp (shaped.revoked revoked).1⟩
  · have known : Known c.shared old := past _ updated old (Table.mem_of_get? there)
    have id : old.id = t := Table.key_of_get? there
    exact ⟨known, id, now, rfl⟩

theorem Wrote.logged (pristine : Pristine w) (reachable : (service platform).Reachable w c) {entry : ScanLog}
    (wrote : Wrote i [.insertScanLog entry] c.shared.history)
    (present : c.shared.world.ticket entry.ticketId ≠ none) :
    entry ∈ (life c.shared.world.store entry.ticketId).logs :=
  (reachable_filed pristine reachable wrote).resolve_right fun gone => present gone.2

theorem Cancelled.lasts (pristine : Pristine w) (reachable : (service platform).Reachable w c)
    (cancelled : Cancelled i t row c.shared.history) {now : Ticket}
    (present : c.shared.world.ticket t = some now) : now.revoked = true := by
  rcases cancelled with ⟨w', found, there, revoked⟩ | ⟨_, _, _, _, _, _, _, _, entry, rfl, verdict, wrote⟩
  · exact reachable_lasting pristine reachable _ found row there revoked now present
  · obtain ⟨tx, w', committed, written⟩ := wrote
    have logged : Wrote i [.insertScanLog entry] c.shared.history :=
      ⟨tx, w', committed, List.Subset.trans (List.subset_cons_self _ _) written⟩
    have member := logged.logged pristine reachable (by rw [present]; exact nofun)
    exact (reachable_traced pristine reachable entry.ticketId).revoked now present entry member verdict

theorem Call.Announces.committed (pristine : Pristine w) (reachable : (service platform).Reachable w c)
    (announces : call.Announces platform i message c.shared.history) :
    call.Told platform c.shared i message := by
  have sown := reachable_sown pristine reachable
  cases call with
  | createTicket context data =>
    obtain ⟨row, fits, provided, rfl⟩ := announces
    obtain ⟨created, inserted, same⟩ :
        ∃ created, Inserted c.shared created ∧ created.identity = row.identity := by
      rcases provided with ⟨invitationId, w', found, present⟩ | ⟨own, wrote⟩
      · exact sown.past _ found row present
      · exact ⟨row, by rw [Inserted, own]; exact wrote, rfl⟩
    refine ⟨created, inserted, fits.of_identity same, by rw [generatedMilestone_of_identity same], ?_⟩
    exact fun now => sown.identity inserted
  | revoke context ticketId reason actorId =>
    obtain ⟨row, occurredAt, cancelled, same, rfl⟩ := announces
    obtain ⟨known, id, revokedAt, at'⟩ := cancelled.revokedAt pristine reachable
    refine ⟨row, revokedAt, cancelled, id, at', by rw [same revokedAt at'], fun now present => ⟨?_, ?_⟩⟩
    · exact known.2 now (id ▸ present)
    · exact cancelled.lasts pristine reachable present
  | scan context input =>
    obtain ⟨entry, id, verdict, actorId, gate, wrote, same⟩ := announces
    refine ⟨entry, wrote, id, verdict, actorId, gate, same, fun now present => ?_⟩
    exact (List.mem_filter.mp (wrote.logged pristine reachable (by rw [present]; exact nofun))).1
  | _ => cases announces

theorem kept_announcements (reachable : (service platform).Reachable w c)
    (called : c.shared.calls[i]? = some call) : Announces platform i call (c.shared.own i) := by
  have tracked : (service platform).Tracked (announcementStory platform) .any c :=
    System.reachable_tracked reachable tells_announcements
  by_cases recorded : c.shared.own i = []
  · rw [recorded]
    exact untold_nil.announces
  · exact tracked.kept i call called recorded

end Told

section Sent

theorem exec_sent {stmt : Stmt} {result : stmt.Res} {w w' : World} {tx tx' : Option Tx}
    (executed : exec platform stmt w tx = some (result, w', tx')) :
    w'.sent = w.sent ++ (outgoing (.stmt i stmt result w)).toList := by
  cases other : stmt.kind.sends with
  | true =>
    cases stmt with
    | send message =>
      cases executed
      rfl
    | _ => cases other
  | false =>
    have kept : w'.sent = w.sent := by
      cases exec_effect executed with
      | sends message => cases other
      | _ => rfl
    rw [outgoing_none other, kept]
    exact (List.append_nil _).symm

theorem Change.sent {actor : Option Nat} (change : Change platform actor g g')
    (sent : g.world.sent = w.sent ++ (announcements g.history).reverse) :
    g'.world.sent = w.sent ++ (announcements g'.history).reverse := by
  cases change with
  | invoke call => exact sent
  | environ action => cases action <;> exact sent
  | rollback i => exact sent
  | commit i tx => exact sent
  | stmt i stmt result w' tx tx' executed =>
    have added : announcements (g.record i stmt result w').history =
        (outgoing (.stmt i stmt result g.world)).toList ++ announcements g.history := by
      cases said : outgoing (.stmt i stmt result g.world) with
      | none => exact List.filterMap_cons_none said
      | some message => exact List.filterMap_cons_some said
    have now : (g.record i stmt result w').world.sent = w'.sent := rfl
    rw [now, added, exec_sent executed, sent, List.reverse_append, List.append_assoc]
    cases outgoing (.stmt i stmt result g.world) <;> rfl

end Sent

section Once

variable {log : Record}

def sender (e : Event statements World Tx) : Option Nat :=
  (outgoing e).map fun _ => e.thread

def senders (log : Record) : List Nat :=
  log.filterMap sender

def milestones (type : MilestoneType) (log : Record) : List EventMilestoneRecordedDTO :=
  (announcements log).filterMap (Message.milestone type)

theorem outgoing_event {e : Event statements World Tx} {message : Message}
    (said : outgoing e = some message) : ∃ i w, e = .stmt i (.send message) () w := by
  cases e with
  | stmt i stmt result w =>
    cases stmt with
    | send other =>
      cases said
      exact ⟨i, w, rfl⟩
    | _ => cases said
  | commit => cases said
  | rollback => cases said

theorem length_senders : (senders log).length = (announcements log).length := by
  simp [senders, announcements, sender, List.length_filterMap_eq_countP]

theorem senders_nodup (pristine : Pristine w) (reachable : (service platform).Reachable w c) :
    (senders c.shared.history).Nodup := by
  refine Shared.nodup_filterMap id (fun e _ i sends => ?_) fun i member => ?_
  · obtain ⟨message, said, same⟩ := Option.map_eq_some_iff.mp sends
    obtain ⟨j, w', rfl⟩ := outgoing_event said
    exact ⟨same, rfl⟩
  · obtain ⟨e, issued, sends⟩ := List.mem_filterMap.mp member
    obtain ⟨message, said, rfl⟩ := Option.map_eq_some_iff.mp sends
    obtain ⟨call, called⟩ := called_of_history pristine reachable issued
    exact length_senders ▸ (kept_announcements reachable called).once

structure Milestones (platform : Platform) (start : World) (c : ServiceState) : Prop where
  sent : c.shared.world.sent = start.sent ++ (announcements c.shared.history).reverse
  told : ∀ i message w', .stmt i (.send message) () w' ∈ c.shared.history →
    ∃ call, c.shared.calls[i]? = some call ∧ call.Told platform c.shared i message
  once : (senders c.shared.history).Nodup
  returned : ∀ i call reply, c.shared.calls[i]? = some call → call.publishes = true →
    c.threads[i]?.bind Thread.returned = some reply → i ∈ senders c.shared.history
  generations : ∀ x ∈ milestones .ticketGenerated c.shared.history,
    ∀ y ∈ milestones .ticketGenerated c.shared.history, x.milestoneId = y.milestoneId → x = y
  scans : ((milestones .ticketScanned c.shared.history).map (·.milestoneId)).Nodup

theorem told_of_event (pristine : Pristine w) (reachable : (service platform).Reachable w c)
    {message : Message} {w' : World} (sent : .stmt i (.send message) () w' ∈ c.shared.history) :
    ∃ call, c.shared.calls[i]? = some call ∧ call.Told platform c.shared i message := by
  obtain ⟨call, called⟩ := called_of_history pristine reachable sent
  have own : .stmt i (.send message) () w' ∈ c.shared.own i := (Shared.mem_own _ _).mpr ⟨sent, rfl, rfl⟩
  have announces := (kept_announcements reachable called).told message (List.mem_filterMap.mpr ⟨_, own, rfl⟩)
  exact ⟨call, called, (announces.later (c.shared.own_sublist i).subset).committed pristine reachable⟩

theorem Call.Told.generated {call : Call} {message : Message} {milestone : EventMilestoneRecordedDTO}
    (told : call.Told platform g i message)
    (generated : message.milestone .ticketGenerated = some milestone) :
    ∃ row, Inserted g row ∧ milestone = generatedMilestone row := by
  cases call with
  | createTicket context data =>
    obtain ⟨row, inserted, -, rfl, -⟩ := told
    cases generated
    exact ⟨row, inserted, rfl⟩
  | revoke context ticketId reason actorId =>
    obtain ⟨row, revokedAt, -, -, -, rfl, -⟩ := told
    cases generated
  | scan context input =>
    obtain ⟨entry, -, -, -, -, -, rfl, -⟩ := told
    cases generated
  | _ => cases told

theorem Call.Told.scanned {call : Call} {message : Message} {milestone : EventMilestoneRecordedDTO}
    (told : call.Told platform g i message) (scanned : message.milestone .ticketScanned = some milestone) :
    milestone.milestoneId = ⟨⟨i, 0⟩, "scanned"⟩ := by
  cases call with
  | createTicket context data =>
    obtain ⟨row, -, -, rfl, -⟩ := told
    cases scanned
  | revoke context ticketId reason actorId =>
    obtain ⟨row, revokedAt, -, -, -, rfl, -⟩ := told
    cases scanned
  | scan context input =>
    obtain ⟨entry, -, id, -, -, -, rfl, -⟩ := told
    cases scanned
    rw [scanMilestone, id]
  | _ => cases told

def scanned (e : Event statements World Tx) : Option MilestoneId :=
  ((outgoing e).bind (Message.milestone .ticketScanned)).map (·.milestoneId)

theorem mem_milestones {type : MilestoneType} {milestone : EventMilestoneRecordedDTO}
    (member : milestone ∈ milestones type log) : ∃ (i : Nat) (message : Message) (w' : World),
      .stmt i (.send message) () w' ∈ log ∧ message.milestone type = some milestone := by
  obtain ⟨message, said, told⟩ := List.mem_filterMap.mp member
  obtain ⟨e, recorded, announces⟩ := List.mem_filterMap.mp said
  obtain ⟨i, w', rfl⟩ := outgoing_event announces
  exact ⟨i, message, w', recorded, told⟩

theorem scanned_event (pristine : Pristine w) (reachable : (service platform).Reachable w c)
    {e : Event statements World Tx} (member : e ∈ c.shared.history) {id : MilestoneId}
    (given : scanned e = some id) :
    ∃ i message w', e = .stmt i (.send message) () w' ∧ id = ⟨⟨i, 0⟩, "scanned"⟩ := by
  obtain ⟨milestone, found, rfl⟩ := Option.map_eq_some_iff.mp given
  obtain ⟨message, said, scanned⟩ := Option.bind_eq_some_iff.mp found
  obtain ⟨i, w', rfl⟩ := outgoing_event said
  cases said
  obtain ⟨call, -, told⟩ := told_of_event pristine reachable member
  exact ⟨i, message, w', rfl, told.scanned scanned⟩

theorem scans_nodup (pristine : Pristine w) (reachable : (service platform).Reachable w c) :
    ((milestones .ticketScanned c.shared.history).map (·.milestoneId)).Nodup := by
  have scans (log : Record) :
      (milestones .ticketScanned log).map (·.milestoneId) = log.filterMap scanned := by
    rw [milestones, announcements, List.filterMap_filterMap, List.map_filterMap]
    rfl
  rw [scans]
  refine Shared.nodup_filterMap (fun id => id.subject.call) (fun e member id given => ?_) fun id member => ?_
  · obtain ⟨i, message, w', rfl, rfl⟩ := scanned_event pristine reachable member given
    exact ⟨rfl, rfl⟩
  · obtain ⟨e, recorded, given⟩ := List.mem_filterMap.mp member
    obtain ⟨i, message, w', rfl, same⟩ := scanned_event pristine reachable recorded given
    obtain ⟨call, called⟩ := called_of_history pristine reachable recorded
    rw [same, ← scans, List.length_map]
    exact Nat.le_trans (List.length_filterMap_le _ _) (kept_announcements reachable called).once

/-- What the calls publish in any run, whatever interleaves, fails or crashes. -/
theorem milestones_tell_commits (pristine : Pristine w) (reachable : (service platform).Reachable w c) :
    Milestones platform w c where
  sent := reachable_invariant pristine reachable
    (fun g => g.world.sent = w.sent ++ (announcements g.history).reverse) (List.append_nil _).symm
    fun _ _ _ _ sent change => change.sent sent
  told i message w' sent := told_of_event pristine reachable sent
  once := senders_nodup pristine reachable
  returned i call reply called publishes returned := by
    have tracked : (service platform).Tracked (announcementStory platform) .any c :=
      System.reachable_tracked reachable tells_announcements
    obtain ⟨⟨prog, tx⟩, present, ended⟩ := Option.bind_eq_some_iff.mp returned
    have along := tracked.along i _ call present called
    cases prog with
    | done value =>
      obtain ⟨message, said⟩ := List.exists_mem_of_ne_nil _ (along publishes)
      obtain ⟨e, own, announces⟩ := List.mem_filterMap.mp said
      obtain ⟨issued, thread, -⟩ := (Shared.mem_own _ _).mp own
      exact List.mem_filterMap.mpr ⟨e, issued, by rw [sender, announces, Option.map_some, thread]⟩
    | _ => cases ended
  generations x sent y sent' same := by
    obtain ⟨i, message, w', event, generated⟩ := mem_milestones sent
    obtain ⟨j, message', w'', event', generated'⟩ := mem_milestones sent'
    obtain ⟨call, -, told⟩ := told_of_event pristine reachable event
    obtain ⟨call', -, told'⟩ := told_of_event pristine reachable event'
    obtain ⟨row, inserted, rfl⟩ := told.generated generated
    obtain ⟨row', inserted', rfl⟩ := told'.generated generated'
    have id : row.id = row'.id := congrArg MilestoneId.subject same
    rw [(reachable_sown pristine reachable).once row row' inserted inserted' id]
  scans := scans_nodup pristine reachable

end Once

section Samples

open Sample

-- The ticket is requested again, and two revocations read it while a scan that accepts it goes on.
def crossingRevocations : List ServiceAct :=
  prepared ++ call 4 (.createTicket context ticketInput) 2 ++ call 5 (.scan context entry) 16 ++
    call 6 (.revoke context ticket none staff) 4 ++ [.environ (.tick 1)] ++
    call 7 (.revoke context ticket none staff) 14 ++ List.replicate 14 (.step 5) ++
    List.replicate 9 (.step 6) ++ List.replicate 14 (.step 7)

theorem crossing_revocations_told :
    senders (run crossingRevocations).shared.history = [7, 6, 5, 4, 0] ∧
      Milestones deployment World.empty (run crossingRevocations) :=
  ⟨by decide +kernel, milestones_tell_commits pristine_empty (reachable_run _)⟩

end Samples

end TicketService
