import TicketService.Refinement.Records

set_option autoImplicit false

namespace TicketService

open Interleaving Relational ScanService ShareGuardService VerifyService

variable {platform : Platform} {t : Uuid} {i j : Nat} {T : Time} {w w' : World}
  {tx tx' : Option Tx} {g g' : Global} {e : Event statements World Tx}

def BlockedTill (t : Uuid) (T : Time) (w : World) : Prop :=
  ∃ B, (w.guard t).bind (·.blockedUntil) = some B ∧ T ≤ B

def storesBlock (t : Uuid) (T : Time) : Event statements World Tx → Bool
  | .stmt _ (.shareGuardUpdate id _) stored _ => id = t ∧ ShareGuard.blockedUntil stored = some T
  | _ => false

def lifts (t : Uuid) (T : Time) : Event statements World Tx → Bool
  | .stmt _ (.shareGuardUpdate id _) stored _ =>
    id = t && !(ShareGuard.blockedUntil stored).any (T ≤ ·)
  | _ => false

def Write.dropsGuard (t : Uuid) : Write → Bool
  | .deleteShareGuards ids => t ∈ ids
  | .deleteTickets ids => t ∈ ids
  | _ => false

def deletes (t : Uuid) : Event statements World Tx → Bool
  | .commit _ tx _ => tx.writes.any (·.dropsGuard t)
  | _ => false

def blocking (t : Uuid) (T : Time) (takes : Event statements World Tx → Bool) : Record → Bool
  | [] => false
  | e :: earlier => storesBlock t T e || (blocking t T takes earlier && !takes e)

-- What takes a block away.
def unblocks (t : Uuid) (T : Time) (e : Event statements World Tx) : Bool :=
  lifts t T e || deletes t e

theorem exec_blocked {stmt : Stmt} {result : stmt.Res}
    (executed : exec platform stmt w tx = some (result, w', tx')) (blocked : BlockedTill t T w)
    (held : lifts t T (.stmt i stmt result w) = false) : BlockedTill t T w' := by
  obtain ⟨B, until_, late⟩ := blocked
  cases exec_effect executed with
  | ticketUpdate id data row found =>
    have kept : (w.store.putTicket id (data row.toTicketState) w.clock).shareGuards =
        w.store.shareGuards := by
      unfold Store.putTicket
      split <;> rfl
    refine ⟨B, ?_, late⟩
    simpa [World.guard, kept] using until_
  | shareGuardUpsert id absent =>
    obtain ⟨row, present, blockedUntil⟩ := Option.bind_eq_some_iff.mp until_
    have found : w.store.shareGuards.get? t = some row := present
    refine ⟨B, ?_, late⟩
    simpa [World.guard, Table.get?_insert, found] using blockedUntil
  | shareGuardUpdate id data row found =>
    have present : w.store.shareGuards.get? id = some row := found
    have key : row.ticketId = id := Table.key_of_get? present
    by_cases same : id = t
    · subst same
      have lasts : ∃ B, (row.updated data).blockedUntil = some B ∧ T ≤ B := by
        simpa [lifts, Option.any_eq_true] using held
      obtain ⟨B', until', late'⟩ := lasts
      refine ⟨B', ?_, late'⟩
      simpa [World.guard, Table.get?_put, ShareGuard.updated, key, present] using until'
    · refine ⟨B, ?_, late⟩
      simpa [World.guard, Table.get?_put, ShareGuard.updated, key, Ne.symm same] using until_
  | _ => exact ⟨B, until_, late⟩

theorem exec_blocks {data : ShareGuard → ShareGuard} {stored : ShareGuard}
    (executed : exec platform (.shareGuardUpdate t data) w tx = some (stored, w', tx'))
    (blocks : stored.blockedUntil = some T) : BlockedTill t T w' := by
  obtain ⟨row, found, same⟩ := Option.bind_eq_some_iff.mp executed
  cases same
  have present : w.store.shareGuards.get? t = some row := found
  have key : row.ticketId = t := Table.key_of_get? present
  refine ⟨T, ?_, Nat.le_refl T⟩
  simpa [World.guard, Table.get?_put, ShareGuard.updated, key, present] using blocks

theorem shareGuards_apply {write : Write} {s : Store} (kept : write.dropsGuard t = false) :
    (write.apply s).shareGuards.get? t = s.shareGuards.get? t := by
  cases write with
  | putTicket id state now =>
    have same : (s.putTicket id state now).shareGuards = s.shareGuards := by
      unfold Store.putTicket
      split <;> rfl
    simp [Write.apply, same]
  | deleteTickets ids =>
    have outside : t ∉ ids := of_decide_eq_false kept
    simp [Write.apply, Table.get?_erase, outside]
  | deleteShareGuards ids =>
    have outside : t ∉ ids := of_decide_eq_false kept
    simp [Write.apply, Table.get?_erase, outside]
  | _ => rfl

theorem guard_commit {t' : Tx} (kept : deletes t (.commit i t' w) = false) :
    (World.guard { w with store := t'.apply w.store } t) = w.guard t := by
  obtain ⟨writes⟩ := t'
  have each : ∀ write ∈ writes, write.dropsGuard t = false := by
    simpa [deletes] using kept
  unfold World.guard
  generalize w.store = s
  change (Tx.apply ⟨writes⟩ s).shareGuards.get? t = s.shareGuards.get? t
  clear kept
  induction writes generalizing s with
  | nil => rfl
  | cons write rest ih =>
    rw [List.forall_mem_cons] at each
    exact (ih each.2 (write.apply s)).trans (shareGuards_apply each.1)

theorem blocking_cases {history : Record} (still : blocking t T (unblocks t T) (e :: history)) :
    storesBlock t T e ∨ blocking t T (unblocks t T) history ∧ lifts t T e = false ∧
      deletes t e = false := by
  simpa [blocking, unblocks] using still

theorem Change.blocked {actor : Option Nat} (change : Change platform actor g g')
    (before : blocking t T (unblocks t T) g.history → BlockedTill t T g.world)
    (still : blocking t T (unblocks t T) g'.history) : BlockedTill t T g'.world := by
  cases change with
  | invoke call => exact before still
  | environ action =>
    have blocked := before still
    cases action <;> exact blocked
  | stmt i stmt result w tx tx' executed =>
    rcases blocking_cases still with stores | ⟨earlier, held, -⟩
    · cases stmt with
      | shareGuardUpdate id data =>
        obtain ⟨rfl, blocks⟩ := of_decide_eq_true stores
        exact exec_blocks executed blocks
      | _ => cases stores
    · exact exec_blocked executed (before earlier) held
  | commit i t' =>
    rcases blocking_cases still with stores | ⟨earlier, -, kept⟩
    · cases stores
    · obtain ⟨B, until_, late⟩ := before earlier
      have same : (g.commit (engine platform) i t').world.guard t = g.world.guard t :=
        guard_commit kept
      rw [← same] at until_
      exact ⟨B, until_, late⟩
  | rollback i =>
    rcases blocking_cases still with stores | ⟨earlier, -⟩
    · cases stores
    · exact before earlier

theorem reachable_blocked {start : World} (pristine : Pristine start) {c : ServiceState}
    (reachable : (service platform).Reachable start c) {after rest : Record}
    (split : c.shared.history = after ++ e :: rest) (still : blocking t T (unblocks t T) rest) :
    BlockedTill t T e.world := by
  have all := reachable_invariant pristine reachable
    (fun g => (blocking t T (unblocks t T) g.history → BlockedTill t T g.world) ∧
      ∀ e rest, e :: rest <:+ g.history → blocking t T (unblocks t T) rest →
        BlockedTill t T e.world) ?_ ?_
  · exact all.2 e rest ⟨after, split.symm⟩ still
  · refine ⟨fun impossible => absurd impossible Bool.false_ne_true, fun e rest suffix => ?_⟩
    exact absurd (List.suffix_nil.mp suffix) (List.cons_ne_nil _ _)
  · rintro actor g g' - ⟨now, past⟩ change
    refine ⟨change.blocked now, fun e rest suffix => ?_⟩
    rcases change.history_cases with same | ⟨new, added, world⟩
    · rw [same] at suffix
      exact past e rest suffix
    · rw [added] at suffix
      rcases List.suffix_cons_iff.mp suffix with same | earlier
      · obtain ⟨rfl, rfl⟩ := List.cons.inj same
        rw [world]
        exact now
      · exact past e rest earlier

theorem reachable_found {start : World} (pristine : Pristine start) {c : ServiceState}
    (reachable : (service platform).Reachable start c) {found : Option ShareGuard}
    (member : .stmt j (.shareGuardFindUnique t) found w ∈ c.shared.history) :
    found = w.guard t := by
  refine reachable_invariant pristine reachable
    (fun g => ∀ j found w, .stmt j (.shareGuardFindUnique t) found w ∈ g.history →
      found = w.guard t) ?_ ?_ j found w member
  · intro j found w member
    cases member
  · intro actor g g' _ before change j found w member
    cases change with
    | stmt i stmt result w' tx tx' executed =>
      rcases List.mem_cons.mp member with same | old
      · cases same
        cases executed
        rfl
      · exact before j found w old
    | invoke call => exact before j found w member
    | environ action => exact before j found w member
    | commit i t' => exact before j found w ((List.mem_cons.mp member).resolve_left (by simp))
    | rollback i => exact before j found w ((List.mem_cons.mp member).resolve_left (by simp))

section Screening

def readsGuard : Event statements World Tx → Bool
  | .stmt _ (.shareGuardFindUnique _) _ _ => true
  | _ => false

-- What a call has done from its first lookup of a share guard on, oldest first.
def screening (log : Record) : Record :=
  log.reverse.dropWhile fun e => !readsGuard e

def Passed (i : Nat) (log : Record) : Prop :=
  ∀ id found w rest B, screening log = .stmt i (.shareGuardFindUnique id) found w :: rest →
    Option.bind found (·.blockedUntil) = some B →
      ∃ now w' later, rest = .stmt i .now now w' :: later ∧ B ≤ now

def TurnsAway (verdict : ScanVerdict) : Prop :=
  verdict = .blocked ∨ verdict = .revoked

def AllTurnedAway (i : Nat) (log : Record) : Prop :=
  ∀ entry, EntryCreated i log entry → TurnsAway entry.verdict

def PassedForGood (i : Nat) (log : Record) : Prop :=
  ∀ later, Passed i (later ++ log)

theorem screening_append {log later : Record} {e : Event statements World Tx} {rest : Record}
    (begun : screening log = e :: rest) : screening (later ++ log) = e :: rest ++ later.reverse := by
  unfold screening at begun ⊢
  rw [List.reverse_append, List.dropWhile_append, begun]
  rfl

theorem AllTurnedAway.plain {i : Nat} {log : Record} (denied : AllTurnedAway i log)
    {e : Event statements World Tx} (plain : Unlogged i e) : AllTurnedAway i (e :: log) := by
  rintro entry ⟨row, w, member⟩
  rcases List.mem_cons.mp member with same | before
  · exact absurd ⟨row, w, List.mem_singleton.mpr same⟩ (plain entry)
  · exact denied entry ⟨row, w, before⟩

def screeningStory : Story statements World Tx Call Exn Reply where
  keeps i call log :=
    match call with
    | .scan .. => AllTurnedAway i log ∨ Passed i log
    | _ => True
  returns i call reply log :=
    match call with
    | .scan .. => ∀ payload, reply = .scan payload → TurnsAway payload.verdict ∨ Passed i log
    | _ => True
  throws _ _ _ _ := True

def Screened (i : Nat) (result : VerifyResult) (log : Record) : Prop :=
  TurnsAway result.verdict ∧ AllTurnedAway i log ∨ PassedForGood i log

variable {context : RequestContext} {input : SecurityScanInput}

theorem along_isBlocked {log : Record} {tx : Option Tx} (denied : AllTurnedAway i log)
    (unread : screening log = []) :
    Along (engine platform) .any i (fun log => AllTurnedAway i log ∨ Passed i log) (fun _ _ => True)
      (fun blocked _ log => AllTurnedAway i log ∧ (blocked = false → PassedForGood i log))
      (isBlocked t) tx log := by
  refine Along.bind (along_issue (.shareGuardFindUnique t) (fun found w w' tx' _ => ?_) fun _ _ => trivial)
  have read : AllTurnedAway i (.stmt i (.shareGuardFindUnique t) found w :: log) :=
    denied.plain (unlogged_stmt (by simp))
  have begun : screening (.stmt i (.shareGuardFindUnique t) found w :: log) =
      [.stmt i (.shareGuardFindUnique t) found w] := by
    unfold screening at unread ⊢
    rw [List.reverse_cons, List.dropWhile_append, unread]
    rfl
  refine ⟨.inl read, ?_⟩
  cases blockedUntil : Option.bind found (·.blockedUntil) with
  | none =>
    refine ⟨read, fun _ later id found' w₁ rest B split until_ => ?_⟩
    rw [screening_append begun] at split
    cases split
    rw [blockedUntil] at until_
    cases until_
  | some B =>
    refine Along.bind (along_issue .now (fun now w₁ w₂ tx₁ _ => ?_) fun _ _ => trivial)
    have compared : AllTurnedAway i (.stmt i .now now w₁ ::
        .stmt i (.shareGuardFindUnique t) found w :: log) := read.plain (unlogged_stmt (by simp))
    refine ⟨.inl compared, compared, fun free later id found' w₃ rest B' split until_ => ?_⟩
    have second : screening (.stmt i .now now w₁ :: .stmt i (.shareGuardFindUnique t) found w :: log) =
        [.stmt i (.shareGuardFindUnique t) found w, .stmt i .now now w₁] :=
      @screening_append _ [_] _ _ begun
    rw [screening_append second] at split
    cases split
    rw [blockedUntil] at until_
    cases until_
    exact ⟨now, w₁, later.reverse, rfl, Nat.le_of_not_lt (by simpa using free)⟩

theorem along_verifyToken :
    Along (engine platform) .any i (fun log => AllTurnedAway i log ∨ Passed i log) (fun _ _ => True)
      (fun result _ log => Screened i result log)
      (verifyToken input.token input.signature input.deviceId input.direction) (some ⟨[]⟩) [] := by
  have fresh : AllTurnedAway i [] := by
    rintro entry ⟨row, w, member⟩
    cases member
  refine Along.bind (Along.bind (along_issue (.tokenVerify input.token)
    (fun payload w w' tx' _ => ?_) fun _ _ => trivial))
  have verified : AllTurnedAway i [.stmt i (.tokenVerify input.token) payload w] :=
    fresh.plain (unlogged_stmt (by simp))
  refine ⟨.inl verified, ?_⟩
  cases payload with
  | none => trivial
  | some payload =>
    refine Along.bind (along_issue (.ticketFindUnique .tx payload.tid)
      (fun found w₁ w₂ tx₁ _ => ?_) fun _ _ => trivial)
    have read : AllTurnedAway i (.stmt i (.ticketFindUnique .tx payload.tid) found w₁ ::
        [.stmt i (.tokenVerify input.token) _ w]) := verified.plain (unlogged_stmt (by simp))
    refine ⟨.inl read, ?_⟩
    cases found with
    | none => trivial
    | some ticket =>
      simp only
      split
      · exact .inl ⟨.inr rfl, read⟩
      · refine (along_isBlocked read rfl).andThen fun blocked tx log here => ?_
        obtain ⟨denied, passed⟩ := here
        cases blocked with
        | true => exact .inl ⟨.inl rfl, denied⟩
        | false =>
          exact Along.always (fun later => .inr (passed rfl later)) (fun _ _ => trivial)
            fun _ _ later => .inr fun more => by
              rw [← List.append_assoc]
              exact passed rfl (more ++ later)

theorem Screened.keeps {result : VerifyResult} {log : Record} (screened : Screened i result log) :
    AllTurnedAway i log ∨ Passed i log := by
  rcases screened with ⟨-, denied⟩ | passed
  · exact .inl denied
  · exact .inr (passed [])

theorem PassedForGood.later {log : Record} (passed : PassedForGood i log)
    (e : Event statements World Tx) : PassedForGood i (e :: log) := by
  intro later
  have longer := passed (later ++ [e])
  rwa [List.append_assoc, List.singleton_append] at longer

theorem along_scan_screened :
    Along (engine platform) .any i (fun log => AllTurnedAway i log ∨ Passed i log) (fun _ _ => True)
      (fun payload _ log => TurnsAway payload.verdict ∨ Passed i log)
      (scan platform (Uuid.mk i) context input) none [] := by
  refine (along_scan ?_ ?_ (fun _ _ => trivial) along_verifyToken).mono ?_
  · intro result log e plain screened
    have after : Screened i result (e :: log) := screened.imp
      (fun denied => ⟨denied.1, denied.2.plain plain⟩) fun passed => passed.later e
    exact ⟨after.keeps, after⟩
  · intro result log row entry w verdict _ screened
    have after : Screened i result (.stmt i (.scanLogCreate row) entry w :: log) := by
      refine screened.imp (fun denied => ⟨denied.1, ?_⟩) fun passed => passed.later _
      rintro other ⟨row', w', member⟩
      rcases List.mem_cons.mp member with same | before
      · cases same
        rw [verdict]
        exact denied.1
      · exact denied.2 other ⟨row', w', before⟩
    exact ⟨after.keeps, after⟩
  · rintro payload tx log ⟨result, verdict, screened⟩
    rw [verdict]
    rcases screened with ⟨denied, -⟩ | passed
    · exact .inl denied
    · exact .inr (passed [])

theorem tells_screening (call : Call) (i : Nat) :
    (service platform).Tells screeningStory .any i call ⟨program platform i call, none⟩ [] := by
  cases call with
  | scan context input =>
    refine Along.bind ?_
    unfold TicketMutationResolver.scanToken
    split
    · trivial
    · refine along_scan_screened.mono fun payload tx log here => ?_
      rintro payload' same
      cases same
      exact here
  | _ => exact Along.always (fun _ => trivial) (fun _ _ => trivial) fun _ _ _ => trivial

end Screening

structure Checks (c : ServiceState) (j : Nat) (t : Uuid) (T : Time) (rest : Record) : Prop where
  called : ∃ context input, c.shared.calls[j]? = some (.scan context input)
  read : ∃ after found w, c.shared.history =
    after ++ .stmt j (.shareGuardFindUnique t) found w :: rest ∧ w.clock < T
  first : ∀ e ∈ rest, e.thread = j → readsGuard e = false
  early : ∀ read (now : Time) w later,
    screening (c.shared.own j) = read :: .stmt j .now now w :: later → now < T

structure TurnedAway (c : ServiceState) (j : Nat) : Prop where
  verdict : ∀ payload, c.threads[j]?.bind Thread.returned = some (.scan payload) →
    TurnsAway payload.verdict
  commits : ∀ t w, .commit j t w ∈ c.shared.history → ∀ entry, .insertScanLog entry ∈ t.writes →
    entry.verdict ≠ .ok

theorem Checks.screening {c : ServiceState} {rest : Record} (checks : Checks c j t T rest) :
    ∃ after found w later, c.shared.history = after ++ .stmt j (.shareGuardFindUnique t) found w :: rest ∧
      screening (c.shared.own j) = .stmt j (.shareGuardFindUnique t) found w :: later := by
  obtain ⟨after, found, w, split, -⟩ := checks.read
  let mine : Event statements World Tx → Bool := fun e => !e.isRollback && decide (e.thread = j)
  have own : c.shared.own j = after.filter mine ++
      .stmt j (.shareGuardFindUnique t) found w :: rest.filter mine := by
    simp [Shared.own, Shared.logged, split, List.filter_append, mine, Event.isRollback,
      Event.thread, Bool.and_comm]
  have begun : TicketService.screening (c.shared.own j) =
      .stmt j (.shareGuardFindUnique t) found w :: (after.filter mine).reverse := by
    unfold TicketService.screening
    rw [own, List.reverse_append, List.reverse_cons, List.append_assoc,
      List.dropWhile_append_of_pos]
    · rfl
    · intro e member
      obtain ⟨there, own⟩ := List.mem_filter.mp (List.mem_reverse.mp member)
      simp only [mine, Bool.and_eq_true, decide_eq_true_eq] at own
      simp [checks.first e there own.2]
  exact ⟨after, found, w, _, split, begun⟩

/-- While nothing takes a stored block away, it turns away every scan that checks for it before it
ends. -/
theorem block_turns_away {start : World} (pristine : Pristine start) {c : ServiceState}
    (reachable : (service platform).Reachable start c) {rest : Record}
    (still : blocking t T (unblocks t T) rest) (checks : Checks c j t T rest) : TurnedAway c j := by
  obtain ⟨after, found, w, later, split, screened⟩ := checks.screening
  have member : .stmt j (.shareGuardFindUnique t) found w ∈ c.shared.history := by simp [split]
  obtain ⟨B, until_, late⟩ := reachable_blocked pristine reachable split still
  have same : found = w.guard t := reachable_found pristine reachable member
  have lasts : ¬Passed j (c.shared.own j) := by
    intro passed
    obtain ⟨now, w', rest', compared, ended⟩ := passed t found w later B screened (same ▸ until_)
    subst compared
    have before := checks.early _ now w' rest' screened
    exact absurd (Nat.lt_of_lt_of_le before late) (Nat.not_lt.mpr ended)
  have tracked : (service platform).Tracked screeningStory .any c :=
    System.reachable_tracked reachable tells_screening
  obtain ⟨context, input, called⟩ := checks.called
  constructor
  · intro payload returned
    obtain ⟨⟨prog, tx⟩, present, ended⟩ := Option.bind_eq_some_iff.mp returned
    have along := tracked.along j _ _ present called
    cases prog with
    | done reply =>
      cases ended
      exact (along payload rfl).resolve_right lasts
    | _ => cases ended
  · intro t' w' committed entry written
    have here : .stmt j (.shareGuardFindUnique t) found w ∈ c.shared.own j :=
      (Shared.mem_own _ _).mpr ⟨member, rfl, rfl⟩
    have kept := (tracked.kept j _ called (List.ne_nil_of_mem here)).resolve_right lasts
    rcases kept entry (committed_logged reachable committed written) with blocked | revoked
    · simp [blocked]
    · simp [revoked]

section Samples

open Sample

def readsBefore (j : Nat) (t : Uuid) (T : Time) : Event statements World Tx → Bool
  | .stmt i (.shareGuardFindUnique target) _ w => i = j ∧ target = t ∧ w.clock < T
  | _ => false

def comparesBefore (T : Time) : Event statements World Tx → Bool
  | .stmt _ .now now _ =>
    let time : Time := now
    time < T
  | _ => true

theorem checks_of (c : ServiceState) (k : Nat)
    (called : ∃ context input, c.shared.calls[j]? = some (.scan context input))
    (reads : c.shared.history[k]?.any (readsBefore j t T))
    (first : (c.shared.history.drop (k + 1)).all fun e => !(decide (e.thread = j) && readsGuard e))
    (early : (screening (c.shared.own j))[1]?.all (comparesBefore T)) :
    Checks c j t T (c.shared.history.drop (k + 1)) := by
  refine ⟨called, ?_, ?_, ?_⟩
  · obtain ⟨e, here, reads⟩ := (Option.any_eq_true _ _).mp reads
    obtain ⟨within, same⟩ := List.getElem?_eq_some_iff.mp here
    have split := (List.take_append_drop k c.shared.history).symm
    rw [List.drop_eq_getElem_cons within, same] at split
    cases e with
    | stmt i stmt found w =>
      cases stmt with
      | shareGuardFindUnique target =>
        obtain ⟨rfl, rfl, before⟩ := of_decide_eq_true reads
        exact ⟨_, found, w, split, before⟩
      | _ => cases reads
    | _ => cases reads
  · intro e member own
    have all := List.all_eq_true.mp first e member
    simpa [own] using all
  · intro read now w later begun
    rw [begun] at early
    exact of_decide_eq_true early

-- A scan has checked for a block and acquired its replay key when a forged scan gets the ticket
-- blocked for five minutes; it goes on with its reset of the share guard. The next scan is accepted.
def forged : SecurityScanInput := { entry with signature := "forged" }

def exitToken : String := compactJwe 1

def exitSignature : DeviceSignature :=
  { signature with message := VerifyService.signedMessage exitToken "phone" }

def leaving : SecurityScanInput := { entry with token := exitToken, direction := .exit }

def lifting : List ServiceAct :=
  prepared ++ call 4 (.scan context entry) 7 ++ call 5 (.scan context forged) 8 ++
    List.replicate 13 (.step 4) ++ call 6 (.generateToken ticket guest) 5 ++
    [.environ (.sign exitSignature)] ++ call 7 (.scan context leaving) 18

def accepts : Reply → Bool
  | .scan payload => decide (payload.verdict = .ok)
  | _ => false

theorem block_lifted : ¬∀ (start : World) (c : ServiceState) (j : Nat) (t : Uuid) (T : Time)
    (rest : Record), Pristine start → (service deployment).Reachable start c →
    blocking t T (deletes t) rest → Checks c j t T rest → TurnedAway c j := by
  intro turns_away
  have checks : Checks (run lifting) 7 ticket 300000 ((run lifting).shared.history.drop 15) :=
    checks_of (run lifting) 14 ⟨context, leaving, by decide +kernel⟩ (by decide +kernel) (by decide +kernel)
      (by decide +kernel)
  have away := turns_away World.empty (run lifting) 7 ticket 300000 _ pristine_empty
    (reachable_run lifting) (by decide +kernel) checks
  have accepted : ((run lifting).threads[7]?.bind Thread.returned).any accepts := by decide +kernel
  obtain ⟨reply, returned, verdict⟩ := (Option.any_eq_true _ _).mp accepted
  cases reply with
  | scan payload =>
    have ok : payload.verdict = .ok := of_decide_eq_true verdict
    rcases away.verdict payload returned with other | other
    · simp [ok] at other
    · simp [ok] at other
  | _ => cases verdict

def blockedEntry : List ServiceAct :=
  prepared ++ call 4 (.applyDecision ticket (calculateRisk { invalidSignature := true })) 3 ++
    call 5 (.scan context entry) 10

theorem block_turns_away_entry : TurnedAway (run blockedEntry) 5 := by
  have still : blocking ticket 300000 (unblocks ticket 300000)
      ((run blockedEntry).shared.history.drop 7) := by decide +kernel
  have checks : Checks (run blockedEntry) 5 ticket 300000 ((run blockedEntry).shared.history.drop 7) :=
    checks_of (run blockedEntry) 6 ⟨context, entry, by decide +kernel⟩ (by decide +kernel) (by decide +kernel)
      (by decide +kernel)
  exact block_turns_away pristine_empty (reachable_run blockedEntry) still checks

end Samples

end TicketService
