import TicketService.Interleaving.Solo
import TicketService.Properties.Refusal
import TicketService.Properties.RevocationCauses
import TicketService.Properties.Visits
import TicketService.Refinement.Delays

set_option autoImplicit false

namespace TicketService

open Interleaving Relational ScanService ShareGuardService TokenService VerifyService

variable {platform : Platform} {w w' : World} {c c' : ServiceState} {g g' : Global}

section Lapsing

structure Lapsing (w : World) : Prop where
  blocks : ∀ t blockedUntil, (w.guard t).bind (·.blockedUntil) = some blockedUntil →
    blockedUntil ≤ w.clock + blockTtlMs
  keys : ∀ t nonce key, w.store.replayKeys.get? (t, nonce) = some key → key.expiresAt ≤ w.clock + 120 * 1000

theorem Change.clock {actor : Option Nat} (change : Change platform actor g g') :
    g.world.clock ≤ g'.world.clock := by
  cases change with
  | environ action =>
    cases action with
    | tick ms => exact Nat.le_add_right _ _
    | _ => exact Nat.le_refl _
  | stmt i stmt result w tx tx' executed issued => exact Nat.le_of_eq (exec_world executed).1.symm
  | _ => exact Nat.le_refl _

theorem runs_clock (pristine : Pristine w) (reachable : (service platform).Reachable w c)
    (runs : (service platform).Runs c c') : c.shared.world.clock ≤ c'.shared.world.clock :=
  runs_invariant pristine reachable runs (fun g => c.shared.world.clock ≤ g.world.clock) (Nat.le_refl _)
    fun _ _ _ _ before change => Nat.le_trans before change.clock

theorem read_passed (pristine : Pristine w) (reachable : (service platform).Reachable w c)
    {e : Event statements World Tx} (recorded : e ∈ c.shared.history) : e.world.clock ≤ c.shared.world.clock := by
  obtain ⟨before, reached, runs, same⟩ := System.state_of_history reachable e recorded
  rw [← same]
  exact runs_clock pristine reached runs

structure SetInTime (g : Global) : Prop where
  blocks : ∀ i t data row w, .stmt i (.shareGuardUpdate t data) row w ∈ g.history →
    ∀ (old : ShareGuard) blockedUntil, (data old).blockedUntil = some blockedUntil →
      old.blockedUntil = some blockedUntil ∨ blockedUntil ≤ g.world.clock + blockTtlMs
  keys : ∀ i t nonce seconds acquired w, .stmt i (.rawSetIfAbsent t nonce seconds) acquired w ∈ g.history →
    seconds = 120

theorem reachable_setInTime (pristine : Pristine w) (reachable : (service platform).Reachable w c) :
    SetInTime c.shared := by
  have punctual {i : Nat} {stmt : Stmt} {result : stmt.Res} {w' : World}
      (recorded : .stmt i stmt result w' ∈ c.shared.history) :
      .stmt i stmt result w' ∈ c.shared.own i ∧ Punctual i (c.shared.own i) := by
    have tracked : (service platform).Tracked delayStory .any c :=
      System.reachable_tracked reachable tells_delays
    have own : .stmt i stmt result w' ∈ c.shared.own i := (Shared.mem_own _ _).mpr ⟨recorded, rfl, rfl⟩
    obtain ⟨call, called⟩ := called_of_history pristine reachable recorded
    exact ⟨own, tracked.kept i call called (List.ne_nil_of_mem own)⟩
  constructor
  · intro i t data row w' recorded old blockedUntil until_
    obtain ⟨own, punctual⟩ := punctual recorded
    rcases punctual.blocks t data row w' own with rfl | ⟨now, w₁, failCount, reason, member, rfl, rfl | rfl⟩
    · cases until_
    · exact .inl until_
    · have passed := read_passed pristine reachable ((Shared.mem_own _ _).mp member).1
      rw [← Option.some.inj until_]
      exact .inr (Nat.add_le_add_right passed _)
  · intro i t nonce seconds acquired w' recorded
    obtain ⟨own, punctual⟩ := punctual recorded
    exact punctual.keys t nonce seconds acquired w' own

theorem Lapsing.of_kept (lapsing : Lapsing w)
    (guards : ∀ t, w'.guard t = w.guard t ∨ (w'.guard t).bind (·.blockedUntil) = none)
    (keys : ∀ t nonce, w'.store.replayKeys.get? (t, nonce) = w.store.replayKeys.get? (t, nonce) ∨
      w'.store.replayKeys.get? (t, nonce) = none)
    (clock : w.clock ≤ w'.clock) : Lapsing w' where
  blocks t blockedUntil until_ := by
    rcases guards t with same | open_
    · rw [same] at until_
      exact Nat.le_trans (lapsing.blocks t blockedUntil until_) (Nat.add_le_add_right clock _)
    · rw [open_] at until_
      cases until_
  keys t nonce key found := by
    rcases keys t nonce with same | gone
    · rw [same] at found
      exact Nat.le_trans (lapsing.keys t nonce key found) (Nat.add_le_add_right clock _)
    · rw [gone] at found
      cases found

theorem Effect.lapsing {stmt : Stmt} {result : stmt.Res} {tx tx' : Option Tx}
    (effect : Effect platform w tx stmt result w' tx')
    (blocks : ∀ t data, stmt = .shareGuardUpdate t data → ∀ (old : ShareGuard) blockedUntil,
      (data old).blockedUntil = some blockedUntil →
        old.blockedUntil = some blockedUntil ∨ blockedUntil ≤ w'.clock + blockTtlMs)
    (keys : ∀ t nonce seconds, stmt = .rawSetIfAbsent t nonce seconds → seconds = 120)
    (lapsing : Lapsing w) : Lapsing w' := by
  cases effect with
  | ticketUpdate id data row found =>
    refine lapsing.of_kept (fun t => .inl ?_) (fun t nonce => .inl ?_) (Nat.le_refl _)
    · simp only [World.guard, Store.putTicket]
      split <;> rfl
    · simp only [Store.replayKeys_putTicket]
  | shareGuardUpsert id absent =>
    refine lapsing.of_kept (fun t => ?_) (fun _ _ => .inl rfl) (Nat.le_refl _)
    simp only [World.guard, Table.get?_insert]
    split
    · exact .inr rfl
    · exact .inl rfl
  | shareGuardUpdate id data row found =>
    refine ⟨fun t blockedUntil until_ => ?_, lapsing.keys⟩
    simp only [World.guard, Table.get?_put] at until_
    split at until_
    next same =>
      have there : w.store.shareGuards.get? t = some row := by
        rw [same]
        have key : row.ticketId = id := Table.key_of_get? found
        rw [← key] at found
        exact found
      rw [there] at until_
      rcases blocks id data rfl row blockedUntil until_ with before | short
      · exact lapsing.blocks t blockedUntil (by rw [World.guard, there]; exact before)
      · exact short
    next => exact lapsing.blocks t blockedUntil until_
  | rawSetIfAbsent id nonce seconds expired =>
    refine ⟨lapsing.blocks, fun t n key there => ?_⟩
    obtain rfl := keys id nonce seconds rfl
    simp only [Table.get?_upsert] at there
    split at there
    · cases there
      exact Nat.le_refl _
    · exact lapsing.keys t n key there
  | _ => exact lapsing.of_kept (fun _ => .inl rfl) (fun _ _ => .inl rfl) (Nat.le_refl _)

theorem Change.lapsing {actor : Option Nat} (change : Change platform actor g g') (set_ : SetInTime g')
    (lapsing : Lapsing g.world) : Lapsing g'.world := by
  have clock := change.clock
  cases change with
  | invoke call => exact lapsing
  | rollback i => exact lapsing
  | environ action =>
    cases action with
    | tick ms => exact lapsing.of_kept (fun _ => .inl rfl) (fun _ _ => .inl rfl) clock
    | sign signature => exact lapsing.of_kept (fun _ => .inl rfl) (fun _ _ => .inl rfl) clock
    | expire ticketId nonce =>
      refine lapsing.of_kept (fun _ => .inl rfl) (fun t n => ?_) clock
      simp only [Shared.environ, engine, EnvAct.apply, Table.get?_erase]
      split
      · exact .inr rfl
      · exact .inl rfl
  | commit i tx commits first =>
    refine lapsing.of_kept (fun t => ?_) (fun t nonce => ?_) clock
    · refine (tx.failures_le g.world.store).imp_right fun gone => ?_
      exact congrArg (Option.bind · (·.blockedUntil)) gone
    · exact .inl (congrArg (Table.get? · (t, nonce)) (tx.apply_kept g.world.store).1)
  | stmt i stmt result w tx tx' executed issued =>
    refine (exec_effect executed).lapsing ?_ ?_ lapsing
    · rintro t data rfl
      exact set_.blocks i t data result g.world List.mem_cons_self
    · rintro t nonce seconds rfl
      exact set_.keys i t nonce seconds result g.world List.mem_cons_self

theorem reachable_lapsing (pristine : Pristine w) (reachable : (service platform).Reachable w c) :
    Lapsing c.shared.world := by
  refine reachable_induction pristine reachable (fun g => Lapsing g.world) ?_
    fun _ _ _ _ after change lapsing => change.lapsing (reachable_setInTime pristine after) lapsing
  constructor
  · intro t blockedUntil until_
    simp [System.initial, World.guard, Table.get?, pristine.shareGuards] at until_
  · intro t nonce key found
    simp [System.initial, Table.get?, pristine.replayKeys] at found

end Lapsing

section Alone

theorem executes_generateToken {number nonce : Nat} {row : Ticket} (present : w.ticket row.id = some row)
    (next : row.nextNonce = some nonce) : ∃ payload, payload.tid = row.id ∧ payload.dn = nonce ∧
      Executes platform (program platform number (.generateToken row.id row.guestProfileId)) none w
        (.ok (.token (platform.compactJwe w.minted.length))) none (w.mints platform payload) := by
  let payload : QrPayload :=
    { TicketWriteService.tokenPayload platform row nonce w.clock with
      ts := w.clock, kid := some platform.activeKid }
  refine ⟨payload, rfl, rfl, .bind ?_ (.done _ _ _)⟩
  refine .bind (.perform (free_plain rfl w none) rfl) ?_
  have found : (w.clientView .prisma none).ticket row.id = some row := present
  rw [found]
  dsimp only
  rw [if_neg (not_not.mpr rfl), next]
  refine .bind (.perform (free_plain rfl w none) rfl) ?_
  exact .bind (.perform (free_plain rfl w none) rfl) (.perform (free_plain rfl w none) rfl)

theorem called_alone (pristine : Pristine w) (reachable : (service platform).Reachable w c)
    (closed : ∀ th ∈ c.threads, th.tx = none) {call : Call} {out : Except Exn Reply}
    (run : Executes platform (program platform c.shared.calls.length call) none c.shared.world out none w') :
    ∃ c', (service platform).Runs c c' ∧ c'.shared.world = w' ∧ (∀ th ∈ c'.threads, th.tx = none) ∧
      c'.shared.calls = c.shared.calls ++ [call] ∧
      c'.threads[c.shared.calls.length]? = some ⟨Prog.ended out, none⟩ := by
  obtain ⟨c', ⟨begun, invoked, runs⟩, world, ended⟩ := executes_sequential pristine reachable closed run
  have numbered := (reachable_sound pristine reachable).numbered
  have ran : (service platform).Runs begun c' := System.runs_of_runsBy runs
  obtain ⟨others, calls⟩ := runs.frame
  cases invoked
  refine ⟨c', .head ⟨.invoke call, rfl⟩ ran, world, fun th member => ?_, calls, numbered ▸ ended⟩
  obtain ⟨j, here⟩ := List.mem_iff_getElem?.mp member
  by_cases own : j = c.threads.length
  · rw [own, ended] at here
    cases here
    rfl
  · rw [others j own, List.getElem?_append] at here
    split at here
    · exact closed th (List.mem_of_getElem? here)
    next beyond =>
      have past : 0 < j - c.threads.length := by omega
      rw [List.getElem?_eq_none (by exact past)] at here
      cases here

end Alone

section Availability

variable {wa : World} {row : Ticket} {publicKey : String} {context : RequestContext}
  {input : SecurityScanInput}

theorem welcome_after_waiting (pristine : Pristine w) (reachable : (service platform).Reachable w c)
    (present : c.shared.world.ticket row.id = some row) (valid : row.revoked = false)
    (key : truthy row.devicePublicKey = some publicKey) {deviceId : String}
    (device : row.deviceId = some deviceId) (ticked : Ticked c.shared.world wa)
    (waited : c.shared.world.clock + blockTtlMs ≤ wa.clock) :
    Welcome platform publicKey deviceId wa row := by
  have lapsing := reachable_lapsing pristine reachable
  refine ⟨(ticked.ticket row.id).trans present, valid, key, device, ?_, ?_, ?_, ?_⟩
  · exact ((reachable_tallied pristine reachable).accounted row.id).next row present
  · intro nonce live
    obtain ⟨replay, found, lives⟩ := (Option.any_eq_true _ _).mp live
    rw [ticked.store] at found
    have lapsed := lapsing.keys row.id nonce replay found
    have lives : wa.clock < replay.expiresAt := of_decide_eq_true lives
    have sooner : c.shared.world.clock + 120 * 1000 ≤ c.shared.world.clock + blockTtlMs :=
      Nat.add_le_add_left (by decide) _
    exact absurd (Nat.le_trans lapsed (Nat.le_trans sooner waited)) (Nat.not_le.mpr lives)
  · rw [ticked.unblockedAt]
    refine Nat.max_le.mpr ⟨Nat.le_refl _, Nat.le_trans ?_ waited⟩
    cases until_ : (c.shared.world.guard row.id).bind (·.blockedUntil) with
    | none => exact Nat.zero_le _
    | some blockedUntil => exact lapsing.blocks row.id blockedUntil until_
  · obtain ⟨ms, rfl⟩ := ticked
    exact (reachable_minting pristine reachable).numbered

theorem Entitled.congr {token signature : String} {row : Ticket}
    (entitled : Entitled platform context input w row) (same : w'.store = w.store) :
    Entitled platform context { input with token, signature } w' row where
  scanner := by
    have scanner := entitled.scanner
    simp only [permissionsOf, World.access, World.role, same] at scanner ⊢
    exact scanner
  tenant := entitled.tenant
  scanned := entitled.scanned
  present := entitled.present

theorem welcome_scans (pristine : Pristine w) (reachable : (service platform).Reachable w c)
    (closed : ∀ th ∈ c.threads, th.tx = none)
    (welcome : Welcome platform publicKey input.deviceId c.shared.world row)
    (formed : input.signature ≠ "" ∧ input.deviceId ≠ "") (tokens : ∀ n, platform.compactJwe n ≠ "")
    (elsewhere : row.currentState ≠ intendedState input.direction)
    (running : Running c.shared.world row.eventId input.direction c.shared.world.clock)
    (entitled : Entitled platform context input c.shared.world row) :
    ∃ (c' : ServiceState) (token : String) (reply : ScanPayloadDTO) (n : Nat), (service platform).Runs c c' ∧
      c'.shared.calls[n]? = some (.scan context { input with token }) ∧
      c'.threads[n]?.bind Thread.returned = some (.scan reply) ∧ reply.verdict = .ok ∧
      reply.ticket.id = row.id ∧ c'.shared.world.clock = c.shared.world.clock := by
  obtain ⟨payload, tid, dn, generated⟩ :=
    @executes_generateToken platform c.shared.world c.shared.calls.length _ row welcome.present welcome.next
  obtain ⟨c₁, first, made, closed₁, -, -⟩ := called_alone pristine reachable closed generated
  -- The device signs the token.
  let token := platform.compactJwe c.shared.world.minted.length
  let signed : EnvAct := .sign ⟨publicKey, signedMessage token input.deviceId, input.signature⟩
  let c₂ : ServiceState := { c₁ with shared := c₁.shared.environ (engine platform) signed }
  have second : (service platform).Runs c₁ c₂ := .single ⟨.environ signed, rfl⟩
  have reachable₂ : (service platform).Reachable w c₂ := (reachable.trans first).trans second
  have world : c₂.shared.world = signed.apply (c.shared.world.mints platform payload) :=
    congrArg signed.apply made
  have welcome₂ : Welcome platform publicKey input.deviceId c₂.shared.world row := by
    rw [world]
    exact { welcome.mints with }
  have verified : c₂.shared.world.verified token = some payload := by
    have issued : c.shared.world.epoch < c.shared.world.epoch + 60 := Nat.lt_add_of_pos_right (by decide)
    rw [world]
    exact (congrArg (Option.bind · _) (find_mints welcome.numbered)).trans (if_pos issued)
  have checked : Checked c₂.shared.world { input with token } payload row := by
    refine Welcome.checked welcome₂ dn ?_
    rw [world]
    exact List.mem_cons_self
  have store : c₂.shared.world.store = c.shared.world.store := by
    rw [world]
    rfl
  have clock : c₂.shared.world.clock = c.shared.world.clock := by
    rw [world]
    rfl
  have running₂ : Running c₂.shared.world row.eventId input.direction c₂.shared.world.clock := by
    rw [clock]
    exact running.congr (funext fun eventId => by rw [World.settings, store, World.settings])
  have found : c₂.shared.world.ticket payload.tid = some row := tid ▸ welcome₂.present
  obtain ⟨reply, w₃, scanned, ok, own, last⟩ := @executes_scan platform c₂.shared.world
    { input with token } payload row context elsewhere running₂ welcome₂.unblocked (welcome₂.unused dn)
    c₂.shared.calls.length (by simp [formed, tokens, token]) verified found checked (entitled.congr store)
  obtain ⟨c₃, third, world₃, -, calls, returned⟩ := called_alone pristine reachable₂ closed₁ scanned
  refine ⟨c₃, token, reply, c₂.shared.calls.length, (first.trans second).trans third, ?_, ?_, ok, own, ?_⟩
  · rw [calls]
    simp
  · rw [returned]
    rfl
  · rw [world₃, last, clock]

/-- In every state of every run, whatever races, failures and crashes have left behind, five minutes are
enough: after five minutes in which nothing happens, every visit to the gate with a valid ticket that is
bound to the device ends with an accepted scan, and if no transaction is open, the guest can be let through
at once. -/
theorem available_after_waiting (pristine : Pristine w) (reachable : (service platform).Reachable w c)
    (present : c.shared.world.ticket row.id = some row) (valid : row.revoked = false)
    (key : truthy row.devicePublicKey = some publicKey) (device : row.deviceId = some input.deviceId)
    (elsewhere : row.currentState ≠ intendedState input.direction) {ms : Nat} (waited : blockTtlMs ≤ ms)
    (after : wa = { c.shared.world with clock := c.shared.world.clock + ms }) :
    (∀ owner reply w', Visit platform publicKey input.deviceId row.id owner input.direction wa reply w' →
      Running wa row.eventId input.direction w'.clock → reply.verdict = .ok) ∧
    ((∀ th ∈ c.threads, th.tx = none) → (input.signature ≠ "" ∧ input.deviceId ≠ "") →
      (∀ n, platform.compactJwe n ≠ "") → Entitled platform context input wa row →
      Running wa row.eventId input.direction wa.clock →
      ∃ (c' : ServiceState) (token : String) (reply : ScanPayloadDTO) (n : Nat),
        (service platform).Runs c c' ∧ c'.shared.world.clock = wa.clock ∧
        c'.shared.calls[n]? = some (.scan context { input with token }) ∧
        c'.threads[n]?.bind Thread.returned = some (.scan reply) ∧ reply.verdict = .ok ∧
        reply.ticket.id = row.id) := by
  have ticked : Ticked c.shared.world wa := ⟨ms, after⟩
  have long : c.shared.world.clock + blockTtlMs ≤ wa.clock := by
    rw [after]
    exact Nat.add_le_add_left waited _
  have welcome := welcome_after_waiting pristine reachable present valid key device ticked long
  constructor
  · intro owner reply w' visit running
    exact (visit.accepted welcome elsewhere running).1
  · intro closed formed tokens entitled running
    let c₁ : ServiceState := { c with shared := c.shared.environ (engine platform) (.tick ms) }
    have waits : (service platform).Runs c c₁ := .single ⟨.environ (.tick ms), rfl⟩
    have world : c₁.shared.world = wa := after.symm
    rw [← world] at welcome entitled running
    obtain ⟨c', token, reply, n, runs, called, returned, ok, own, clock⟩ :=
      welcome_scans pristine (reachable.trans waits) closed welcome formed tokens elsewhere running entitled
    exact ⟨c', token, reply, n, waits.trans runs, clock.trans (congrArg World.clock world), called, returned,
      ok, own⟩

end Availability

namespace Sample

-- A scan has acquired its replay key when another client has the ticket blocked; then it crashes.
def crashed : List ServiceAct :=
  prepared ++ call 4 (.scan context entry) 7 ++
    call 5 (.scan context { entry with signature := "forged" }) 16 ++ [.fault 4, .step 4]

end Sample

theorem Sample.compactJwe_ne_empty (n : Nat) : Sample.compactJwe n ≠ "" := by
  unfold Sample.compactJwe
  intro none
  generalize "header.key.iv.text." = head at none
  have length := congrArg String.length none
  simp at length

open Sample in
theorem available_after_crash :
    ((run crashed).shared.world.guard ticket).bind (·.blockedUntil) = some 300000 ∧
      (run crashed).shared.world.replayKeyLive ticket 1 = true ∧
      ∃ (c' : ServiceState) (token : String) (reply : ScanPayloadDTO) (n : Nat),
        (service deployment).Runs (run crashed) c' ∧ c'.shared.world.clock = 300000 ∧
        c'.shared.calls[n]? = some (.scan context { entry with token }) ∧
        c'.threads[n]?.bind Thread.returned = some (.scan reply) ∧ reply.verdict = .ok ∧
        reply.ticket.id = ticket := by
  let start : World := (run crashed).shared.world
  refine ⟨by decide +kernel, by decide +kernel, ?_⟩
  have facts : (start.ticket Sample.ticket).any (fun row => row.id = Sample.ticket ∧ row.revoked = false ∧
      truthy row.devicePublicKey = some "phone-key" ∧ row.deviceId = some "phone" ∧
      row.currentState = .outside ∧ row.eventId = event) = true := by decide +kernel
  obtain ⟨row, present, facts⟩ := (Option.any_eq_true _ _).mp facts
  obtain ⟨own, valid, key, device, outside, located⟩ := of_decide_eq_true facts
  have closed : ∀ th ∈ (run crashed).threads, th.tx = none := by
    have all : (run crashed).threads.all (·.tx.isNone) = true := by decide +kernel
    exact fun th member => Option.isNone_iff_eq_none.mp (List.all_eq_true.mp all th member)
  have elsewhere : row.currentState ≠ intendedState entry.direction := by
    rw [outside]
    decide
  rw [← own] at present ⊢
  have waited : blockTtlMs ≤ 300000 := by decide
  obtain ⟨after, later⟩ : ∃ after : World, after = { start with clock := start.clock + 300000 } := ⟨_, rfl⟩
  have tokens : ∀ n, deployment.compactJwe n ≠ "" := compactJwe_ne_empty
  have entitled : Entitled deployment context entry after row := by
    refine ⟨?_, by decide, fun _ => rfl, fun _ => rfl⟩
    rw [located, later]
    decide +kernel
  have running : Running after row.eventId entry.direction after.clock := by
    intro _ endsAt ends
    have settings : after.settings event = none := by
      rw [later]
      decide +kernel
    rw [located, settings] at ends
    cases ends
  obtain ⟨c', token, reply, n, runs, clock, rest⟩ :=
    (available_after_waiting pristine_empty (reachable_run crashed) present valid key device elsewhere
      waited later).2 closed (by decide) tokens entitled running
  refine ⟨c', token, reply, n, runs, ?_, rest⟩
  rw [clock, later]
  decide +kernel

end TicketService
