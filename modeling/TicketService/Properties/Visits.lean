import TicketService.Properties.Authentication
import TicketService.Properties.Nonces
import TicketService.Refinement.Accepts

set_option autoImplicit false

namespace TicketService

open Interleaving Relational ScanService ShareGuardService TokenService VerifyService

variable {platform : Platform} {w w' wa : World} {publicKey deviceId token : String} {row : Ticket}
  {payload : QrPayload}

/-- The ticket is valid and bound to the device, nothing blocks it, and the replay keys of the nonces
that its tokens will carry are free. -/
structure Welcome (platform : Platform) (publicKey deviceId : String) (w : World) (row : Ticket) : Prop where
  present : w.ticket row.id = some row
  valid : row.revoked = false
  key : truthy row.devicePublicKey = some publicKey
  device : row.deviceId = some deviceId
  next : row.nextNonce = some (row.usedNonces + 1)
  free : ∀ nonce, w.replayKeyLive row.id nonce = true → nonce ≤ row.usedNonces
  unblocked : unblockedAt w row.id ≤ w.clock
  numbered : ∀ n m, w.minted[n]? = some m → m.token = platform.compactJwe n

theorem Welcome.later (welcome : Welcome platform publicKey deviceId w row) (ticked : Ticked w w') :
    Welcome platform publicKey deviceId w' row where
  present := (ticked.ticket row.id).trans welcome.present
  valid := welcome.valid
  key := welcome.key
  device := welcome.device
  next := welcome.next
  free nonce live := by
    by_contra beyond
    have closed : w.replayKeyLive row.id nonce = false := by
      by_contra open_
      exact beyond (welcome.free nonce (by simpa using open_))
    rw [replayKeyLive_later ticked closed] at live
    cases live
  unblocked := by
    rw [ticked.unblockedAt]
    exact Nat.max_le.mpr ⟨Nat.le_refl _, Nat.le_trans (Nat.max_le.mp welcome.unblocked).2 ticked.clock⟩
  numbered := by
    obtain ⟨ms, rfl⟩ := ticked
    exact welcome.numbered

theorem Welcome.unused (welcome : Welcome platform publicKey deviceId w row)
    (dn : payload.dn = row.usedNonces + 1) : w.replayKeyLive row.id payload.dn = false := by
  by_contra taken
  have used := welcome.free payload.dn (by simpa using taken)
  rw [dn] at used
  exact absurd used (Nat.not_succ_le_self _)

theorem Welcome.checked {input : SecurityScanInput}
    (welcome : Welcome platform publicKey input.deviceId w row) (dn : payload.dn = row.usedNonces + 1)
    (signed : ⟨publicKey, signedMessage input.token input.deviceId, input.signature⟩ ∈ w.signatures) :
    Checked w input payload row where
  valid := welcome.valid
  signed := ⟨publicKey, welcome.key, signed⟩
  device := welcome.device
  fresh := by
    rw [dn]
    cases last : row.lastNonce <;> simp [Ticket.usedNonces, last]
  expected := by rw [dn, welcome.next]

section Token

def World.mints (platform : Platform) (w : World) (payload : QrPayload) : World :=
  { w with minted := w.minted ++ [⟨platform.compactJwe w.minted.length, payload, w.epoch⟩] }

theorem generateToken_returns {number : Nat} {tx : Option Tx} {id owner : Uuid} {n : Nat}
    (run : Executes platform (program platform number (.generateToken id owner)) none w
      (.ok (.token token)) tx wa) (present : w.ticket id = some row)
    (next : row.nextNonce = some n) :
    ∃ w₁ payload, Ticked w w₁ ∧ payload.tid = id ∧ payload.dn = n ∧
      token = platform.compactJwe w₁.minted.length ∧ Ticked (w₁.mints platform payload) wa := by
  have key : row.id = id := Table.key_of_get? present
  obtain ⟨generated, tx₁, w₅, body, last⟩ := bind_returns run
  obtain ⟨ended, -, after⟩ := done_returns last
  cases ended
  obtain ⟨w₁, w₂, first, second, body⟩ := issue_returns (fun w => rfl) body
  have found : (w₁.clientView .prisma none).ticket id = some row := (first.ticket id).trans present
  rw [found] at body
  dsimp only at body
  split at body
  · exact (throw_returns body).elim
  rw [next] at body
  dsimp only at body
  obtain ⟨w₃, w₄, third, fourth, body⟩ := issue_returns (fun w => rfl) body
  obtain ⟨w₆, w₇, fifth, sixth, body⟩ := issue_returns (fun w => rfl) body
  rcases Alone.perform_cases body with ⟨ended, -⟩ | ⟨minted, w₈, w₉, ended, before, executed, after'⟩
  · cases ended
  cases ended
  cases executed
  have ticked : Ticked w w₈ := first.trans (second.trans (third.trans (fourth.trans
    (fifth.trans (sixth.trans (.of_later before))))))
  exact ⟨w₈, _, ticked, key, rfl, rfl, (Ticked.of_later after').trans after⟩

theorem find_mints (numbered : ∀ n m, w.minted[n]? = some m → m.token = platform.compactJwe n) :
    (w.mints platform payload).minted.find? (fun m => m.token = platform.compactJwe w.minted.length) =
      some ⟨platform.compactJwe w.minted.length, payload, w.epoch⟩ := by
  have unmatched : w.minted.find? (fun m => m.token = platform.compactJwe w.minted.length) = none := by
    refine List.find?_eq_none.mpr fun m member same => ?_
    obtain ⟨n, within, here⟩ := List.mem_iff_getElem.mp member
    have named := numbered n m (List.getElem?_eq_some_iff.mpr ⟨within, here⟩)
    have position := platform.compactJwe_injective (named.symm.trans (of_decide_eq_true same))
    exact absurd within (Nat.not_lt.mpr (Nat.le_of_eq position.symm))
  rw [World.mints, List.find?_append, unmatched]
  simp

theorem verified_mints (numbered : ∀ n m, w.minted[n]? = some m → m.token = platform.compactJwe n)
    (minted : w'.minted = (w.mints platform payload).minted) {payload' : QrPayload}
    (verified : w'.verified (platform.compactJwe w.minted.length) = some payload') : payload' = payload := by
  obtain ⟨m, found, valid⟩ := Option.bind_eq_some_iff.mp verified
  rw [minted, find_mints numbered] at found
  cases found
  split at valid
  · exact (Option.some.inj valid).symm
  · cases valid

theorem numbered_mints (numbered : ∀ n m, w.minted[n]? = some m → m.token = platform.compactJwe n) :
    ∀ n m, (w.mints platform payload).minted[n]? = some m → m.token = platform.compactJwe n := by
  intro n m here
  rw [World.mints, List.getElem?_append] at here
  split at here
  · exact numbered n m here
  next beyond =>
    obtain ⟨within, same⟩ := List.getElem?_eq_some_iff.mp here
    have position : n = w.minted.length := by
      simp only [List.length_singleton] at within
      omega
    subst position
    simp only [Nat.sub_self, List.getElem_cons_zero] at same
    rw [← same]

end Token

theorem Welcome.mints (welcome : Welcome platform publicKey deviceId w row) :
    Welcome platform publicKey deviceId (w.mints platform payload) row :=
  { welcome with numbered := numbered_mints welcome.numbered }

section Recorded

variable {direction : GateDirection} {log : ScanLog} {facts : List AnalyticsOutbox}
  {messages : List Message} {at_ : Option Time} {rotatedAt : Time}

theorem Exits.admits {input : SecurityScanInput} {ticket : Ticket} {result : VerifyResult} {t : Tx}
    (exits : Exits platform input payload ticket w result t w') (ok : result.verdict = .ok) :
    ∃ w₁ at_ rotatedAt, Ticked w w₁ ∧ Ticked (w₁.acquired ticket.id payload.dn) w' ∧
      t = ⟨[.putTicket ticket.id
        (acceptedState payload (intendedState input.direction) at_ ticket.toTicketState) rotatedAt]⟩ := by
  cases exits with
  | accepted at_ rotatedAt updatedAt ticked _ _ _ _ acquired _ =>
    exact ⟨_, at_, rotatedAt, ticked, acquired, rfl⟩
  | directed =>
    generalize intendedState input.direction = state at ok
    cases state <;> cases ok
  | struck _ _ _ _ _ risky => cases risky <;> cases ok
  | _ => cases ok

theorem recorded_put {data : TicketState → TicketState} (present : w.ticket row.id = some row)
    (recorded : w' = w.recorded ⟨[.putTicket row.id (data row.toTicketState) rotatedAt]⟩ log facts messages) :
    w'.ticket row.id = some (row.updated data rotatedAt) ∧
      w'.store.shareGuards = w.store.shareGuards ∧ w'.store.replayKeys = w.store.replayKeys ∧
      w'.store.eventSettings = w.store.eventSettings ∧ w'.clock = w.clock ∧ w'.minted = w.minted := by
  rw [recorded_eq] at recorded
  subst recorded
  have there : w.store.tickets.get? row.id = some row := present
  have written := Store.ticket_putTicket w.store row.id row.id (data row.toTicketState) rotatedAt
  have stood : w.store.ticket row.id = some row := present
  rw [if_pos rfl, stood] at written
  refine ⟨written, ?_, ?_, ?_, rfl, rfl⟩ <;>
    simp only [Tx.apply, List.foldl_cons, List.foldl_nil, Write.apply, Store.putTicket, there]

theorem guardsCleared_unblocked (w : World) (id : Uuid) :
    ((w.guardsCleared id).get? id).bind (·.blockedUntil) = none := by
  unfold World.guardsCleared
  cases found : w.guard id with
  | none =>
    have absent : w.store.shareGuards.get? id = none := found
    simp only [absent, Option.bind_none]
  | some guard =>
    have same : guard.ticketId = id := Table.key_of_get? found
    have there : w.store.shareGuards.get? id = some guard := found
    simp only [Table.get?_put, ShareGuard.updated, same, there, if_true, cleared]
    rfl

theorem Welcome.recorded (welcome : Welcome platform publicKey deviceId w row)
    (acquired : Ticked (w.acquired row.id payload.dn) wa) (dn : payload.dn = row.usedNonces + 1) :
    Welcome platform publicKey deviceId
      (wa.recorded ⟨[.putTicket row.id
        (acceptedState payload (intendedState direction) at_ row.toTicketState) rotatedAt]⟩ log facts messages)
      (row.updated (acceptedState payload (intendedState direction) at_) rotatedAt) := by
  have present : wa.ticket row.id = some row := (acquired.ticket row.id).trans welcome.present
  generalize recorded : wa.recorded _ _ _ _ = w'
  obtain ⟨written, guards, keys, -, clock, minted⟩ := recorded_put present recorded.symm
  constructor
  · exact written
  · exact welcome.valid
  · exact welcome.key
  · exact welcome.device
  · rfl
  · intro nonce live
    -- The scan's own key is the only one it has added.
    rw [World.replayKeyLive, keys, clock, acquired.store] at live
    simp only [World.acquired, Table.get?_upsert] at live
    split at live
    next own => exact Nat.le_of_eq (congrArg Prod.snd own)
    next other =>
      have earlier : w.replayKeyLive row.id nonce = true := by
        obtain ⟨key, found, lives⟩ := (Option.any_eq_true _ _).mp live
        have begun : w.clock ≤ wa.clock := acquired.clock
        have lives : w.clock < key.expiresAt := Nat.lt_of_le_of_lt begun (of_decide_eq_true lives)
        exact (Option.any_eq_true _ _).mpr ⟨key, found, decide_eq_true lives⟩
      exact Nat.le_trans (welcome.free nonce earlier) (Nat.le_trans (Nat.le_succ _) (Nat.le_of_eq dn.symm))
  · have guard : w'.guard row.id = (w.guardsCleared row.id).get? row.id := by
      rw [World.guard, guards, acquired.store]
      rfl
    have open_ : ((w'.guard row.id).bind (·.blockedUntil)) = none := by
      rw [guard]
      exact guardsCleared_unblocked w row.id
    show max w'.clock (((w'.guard row.id).bind (·.blockedUntil)).getD 0) ≤ w'.clock
    rw [open_]
    exact Nat.max_le.mpr ⟨Nat.le_refl _, Nat.zero_le _⟩
  · obtain ⟨ms, rfl⟩ := acquired
    rw [minted]
    exact welcome.numbered

end Recorded

section Visit

inductive Visit (platform : Platform) (publicKey deviceId : String) (id owner : Uuid)
    (direction : GateDirection) (w : World) : ScanPayloadDTO → World → Prop where
  | scanned {number number' : Nat} {context : RequestContext} {reply : ScanPayloadDTO} {wa w' : World}
    {tx tx' : Option Tx} (input : SecurityScanInput) :
    Executes platform (program platform number (.generateToken id owner)) none w (.ok (.token input.token))
      tx wa →
    input.deviceId = deviceId → input.direction = direction →
    Executes platform (program platform number' (.scan context input)) none
      (EnvAct.apply (.sign ⟨publicKey, signedMessage input.token deviceId, input.signature⟩) wa)
      (.ok (.scan reply)) tx' w' →
    Visit platform publicKey deviceId id owner direction w reply w'

variable {owner : Uuid} {direction : GateDirection} {reply : ScanPayloadDTO}

theorem Visit.accepted (welcome : Welcome platform publicKey deviceId w row)
    (visit : Visit platform publicKey deviceId row.id owner direction w reply w')
    (elsewhere : row.currentState ≠ intendedState direction)
    (running : Running w row.eventId direction w'.clock) :
    reply.verdict = .ok ∧ ∃ row', Welcome platform publicKey deviceId w' row' ∧
      row'.identity = row.identity ∧ row'.currentState = intendedState direction ∧
      row'.usedNonces = row.usedNonces + 1 ∧ w'.settings = w.settings := by
  cases visit with
  | @scanned number number' context _ wa _ tx tx' input generated device turns scanned =>
    subst device turns
    obtain ⟨w₁, payload, ticked, tid, dn, made, minted⟩ :=
      generateToken_returns generated welcome.present welcome.next
    -- The world in which the scan begins.
    generalize signed : EnvAct.apply (.sign ⟨publicKey, signedMessage input.token input.deviceId,
      input.signature⟩) wa = wb at scanned
    have store : wb.store = w.store := by
      rw [← signed]
      exact minted.store.trans ticked.store
    have tokens : wb.minted = (w₁.mints platform payload).minted := by
      obtain ⟨ms, rfl⟩ := minted
      rw [← signed]
      rfl
    have clock : w.clock ≤ wb.clock := by
      rw [← signed]
      exact Nat.le_trans ticked.clock minted.clock
    have arrived : Welcome platform publicKey input.deviceId wb row := by
      have generated := Welcome.later (welcome.later ticked).mints minted
      rw [← signed]
      exact { generated with }
    obtain ⟨payload', ticket, w₂, result, t, w₃, createdAt, facts, messages, verified, found, first,
      exits, -, answer, begun, ended, -, last⟩ := scan_returns scanned
    cases answer
    rw [made] at verified
    obtain rfl := verified_mints (welcome.later ticked).numbered tokens verified
    rw [tid, arrived.present] at found
    cases found
    have arrived := arrived.later first
    have checked : Checked w₂ input payload' row := by
      refine arrived.checked dn ?_
      rw [first.signatures, ← signed]
      exact List.mem_cons_self
    have running₂ : Running w₂ row.eventId input.direction w₃.clock := by
      intro entry endsAt ends
      rw [first.settings, World.settings, store] at ends
      exact Nat.le_trans (Nat.le_trans begun ended) (running entry endsAt ends)
    obtain ⟨_, _, _, accepted, -⟩ :=
      accepted_of_exits exits checked elsewhere running₂ arrived.unblocked (arrived.unused dn)
    have ok : result.verdict = .ok := by rw [accepted]; rfl
    obtain ⟨w₄, at_, rotatedAt, before, acquired, rfl⟩ := exits.admits ok
    have present : w₃.ticket row.id = some row := (acquired.ticket row.id).trans (arrived.later before).present
    have welcomed := Welcome.later ((arrived.later before).recorded acquired dn) last
    generalize recorded : World.recorded w₃ _ _ facts messages = w₅ at last
    obtain ⟨-, -, -, settings, -⟩ := recorded_put present recorded.symm
    have unchanged : w₃.store.eventSettings = w.store.eventSettings := by
      rw [acquired.store, World.acquired, before.store, first.store, store]
    refine ⟨ok, _, welcomed, rfl, rfl, dn, ?_⟩
    funext eventId
    rw [last.settings, World.settings, settings, unchanged, World.settings]

end Visit

section Visits

variable {owner : Uuid} {direction : GateDirection} {reply : ScanPayloadDTO}
  {answers : List (GateDirection × Time × ScanPayloadDTO)}

/-- Visits of the gate one after another, with nothing in between but time, as the staff scan them: in
which direction, by when and with which answer. -/
inductive Visits (platform : Platform) (publicKey deviceId : String) (id owner : Uuid) :
    World → List (GateDirection × Time × ScanPayloadDTO) → World → Prop where
  | none {w w' : World} : Ticked w w' → Visits platform publicKey deviceId id owner w [] w'
  | visit {direction : GateDirection} {reply : ScanPayloadDTO} {w w₁ w₂ w' : World}
    {answers : List (GateDirection × Time × ScanPayloadDTO)} :
    Ticked w w₁ → Visit platform publicKey deviceId id owner direction w₁ reply w₂ →
    Visits platform publicKey deviceId id owner w₂ answers w' →
    Visits platform publicKey deviceId id owner w ((direction, w₂.clock, reply) :: answers) w'

theorem Running.congr {eventId : Uuid} {direction : GateDirection} {until_ : Time}
    (running : Running w eventId direction until_) (same : w'.settings = w.settings) :
    Running w' eventId direction until_ := by
  intro entry endsAt ends
  rw [same] at ends
  exact running entry endsAt ends

theorem Visits.accepted {id : Uuid}
    (visits : Visits platform publicKey deviceId id owner w answers w') (own : row.id = id)
    (welcome : Welcome platform publicKey deviceId w row)
    (alternating : (row.currentState :: answers.map (intendedState ·.1)).IsChain (· ≠ ·))
    (running : ∀ answer ∈ answers, Running w row.eventId answer.1 answer.2.1) :
    (∀ answer ∈ answers, answer.2.2.verdict = .ok) ∧
      ∃ row', Welcome platform publicKey deviceId w' row' ∧ row'.identity = row.identity ∧
        row'.currentState = (answers.map (intendedState ·.1)).getLastD row.currentState ∧
        row'.usedNonces = row.usedNonces + answers.length := by
  induction visits generalizing row with
  | none ticked => exact ⟨by simp, row, welcome.later ticked, rfl, rfl, rfl⟩
  | @visit direction reply w w₁ w₂ w' answers ticked visit _ ih =>
    subst own
    rw [List.map_cons, List.isChain_cons_cons] at alternating
    obtain ⟨turned, rest⟩ := alternating
    dsimp only at rest
    have settings : w₁.settings = w.settings := funext ticked.settings
    obtain ⟨ok, row₁, welcome₁, identity, state, used, unchanged⟩ :=
      visit.accepted (welcome.later ticked) turned ((running _ List.mem_cons_self).congr settings)
    obtain ⟨-, event⟩ := Ticket.identity_iff.mp identity
    rw [← state] at rest
    obtain ⟨oks, row', welcome', identity', state', used'⟩ := ih (Ticket.id_of_identity identity) welcome₁ rest
      fun answer member => by
        rw [event.1]
        exact (running answer (List.mem_cons_of_mem _ member)).congr (unchanged.trans settings)
    refine ⟨List.forall_mem_cons.mpr ⟨ok, oks⟩, row', welcome', identity'.trans identity, ?_, ?_⟩
    · rw [state', state, List.map_cons, List.getLastD_cons]
    · rw [used', used, List.length_cons]
      omega

/-- From every state of every run, while nothing else happens, every scan that returns is accepted, however
often the guest comes and goes, if the ticket is valid and bound to the device, neither a block nor the
replay key of a later nonce is left behind, the guest enters and leaves in turn, and the event goes on at
every entry. -/
theorem visits_accepted (pristine : Pristine w) {c : ServiceState}
    (reachable : (service platform).Reachable w c) (present : c.shared.world.ticket row.id = some row)
    (valid : row.revoked = false) (key : truthy row.devicePublicKey = some publicKey)
    (device : row.deviceId = some deviceId)
    (unblocked : ∀ blockedUntil, (c.shared.world.guard row.id).bind (·.blockedUntil) = some blockedUntil →
      blockedUntil ≤ c.shared.world.clock)
    (free : ∀ nonce, row.usedNonces < nonce → c.shared.world.replayKeyLive row.id nonce = false)
    (visits : Visits platform publicKey deviceId row.id owner c.shared.world answers w')
    (alternating : (row.currentState :: answers.map (intendedState ·.1)).IsChain (· ≠ ·))
    (running : ∀ answer ∈ answers, Running c.shared.world row.eventId answer.1 answer.2.1) :
    (∀ answer ∈ answers, answer.2.2.verdict = .ok) ∧
      ∃ row', w'.ticket row.id = some row' ∧ row'.identity = row.identity ∧
        row'.currentState = (answers.map (intendedState ·.1)).getLastD row.currentState ∧
        row'.usedNonces = row.usedNonces + answers.length := by
  have welcome : Welcome platform publicKey deviceId c.shared.world row := by
    refine ⟨present, valid, key, device, ?_, ?_, ?_, (reachable_minting pristine reachable).numbered⟩
    · exact ((reachable_tallied pristine reachable).accounted row.id).next row present
    · intro nonce live
      by_contra beyond
      rw [free nonce (Nat.not_le.mp beyond)] at live
      cases live
    · unfold unblockedAt
      cases until_ : (c.shared.world.guard row.id).bind (·.blockedUntil) with
      | none => exact Nat.max_le.mpr ⟨Nat.le_refl _, Nat.zero_le _⟩
      | some blockedUntil => exact Nat.max_le.mpr ⟨Nat.le_refl _, unblocked blockedUntil until_⟩
  obtain ⟨ok, row', welcome', identity, rest⟩ := visits.accepted rfl welcome alternating running
  have there := welcome'.present
  rw [Ticket.id_of_identity identity] at there
  exact ⟨ok, row', there, identity, rest⟩

namespace Sample

-- The guest visits the gate; call number `n` is the first.
def visit (n : Nat) (direction : GateDirection) (w : World) : Option (ScanPayloadDTO × World) :=
  match (engine deployment).perform (program deployment n (.generateToken Sample.ticket guest)) none w with
  | (.ok (.token token), _, wa) =>
    let input : SecurityScanInput := { entry with token, direction }
    let signed := EnvAct.apply (.sign ⟨"phone-key", signedMessage token "phone", "signature"⟩) wa
    match (engine deployment).perform (program deployment (n + 1) (.scan context input)) none signed with
    | (.ok (.scan reply), _, w') => some (reply, w')
    | _ => none
  | _ => none

theorem visit_visits {n : Nat} (made : visit n direction w = some (reply, w')) :
    Visit deployment "phone-key" "phone" Sample.ticket guest direction w reply w' := by
  have generates := Engine.performs (engine deployment) Ticks
    (program deployment n (.generateToken Sample.ticket guest)) none w
  unfold visit at made
  split at made
  next token tx wa generated =>
    rw [generated] at generates
    dsimp only at made
    split at made
    next reply' tx' w'' scanned =>
      cases made
      have scans := Engine.performs (engine deployment) Ticks (program deployment (n + 1)
        (.scan context { entry with token, direction })) none
        (EnvAct.apply (.sign ⟨"phone-key", signedMessage token "phone", "signature"⟩) wa)
      rw [scanned] at scans
      exact .scanned { entry with token, direction } generates rfl rfl scans
    next => cases made
  next => cases made

end Sample

open Sample in
theorem visits_accepted_twice : ∃ answers w',
    Visits deployment "phone-key" "phone" Sample.ticket guest (run prepared).shared.world answers w' ∧
      answers.map (·.1) = [.entry, .exit] ∧ ∀ answer ∈ answers, answer.2.2.verdict = .ok := by
  let start : World := (run prepared).shared.world
  have twice : ((Sample.visit 4 .entry start).bind fun first => Sample.visit 6 .exit first.2).isSome = true := by
    decide +kernel
  have stood : (start.ticket Sample.ticket).isSome = true := by decide +kernel
  obtain ⟨⟨reply', w'⟩, both⟩ := Option.isSome_iff_exists.mp twice
  obtain ⟨⟨reply, w₁⟩, first, second⟩ := Option.bind_eq_some_iff.mp both
  obtain ⟨row, present⟩ := Option.isSome_iff_exists.mp stood
  have facts : (start.ticket Sample.ticket).all (fun row => row.revoked = false ∧
      truthy row.devicePublicKey = some "phone-key" ∧ row.deviceId = some "phone" ∧
      row.currentState = .outside ∧ (start.settings row.eventId).isNone) = true := by decide +kernel
  have unguarded : (start.guard Sample.ticket).isNone = true := by decide +kernel
  have keyless : start.store.replayKeys.rows = [] := by decide +kernel
  rw [present] at facts
  simp only [Option.all_some, decide_eq_true_eq] at facts
  obtain ⟨valid, key, device, outside, settings⟩ := facts
  have own : row.id = Sample.ticket := Table.key_of_get? present
  rw [← own] at present unguarded
  have visits : Visits deployment "phone-key" "phone" Sample.ticket guest start
      [(.entry, w₁.clock, reply), (.exit, w'.clock, reply')] w' :=
    .visit (.refl _) (visit_visits first) (.visit (.refl _) (visit_visits second) (.none (.refl _)))
  refine ⟨_, w', visits, rfl, ?_⟩
  rw [← own] at visits
  refine (visits_accepted pristine_empty (reachable_run prepared) present valid key device ?_ ?_ visits ?_ ?_).1
  · intro blockedUntil until_
    rw [Option.isNone_iff_eq_none.mp unguarded] at until_
    cases until_
  · intro nonce _
    have absent : start.store.replayKeys.get? (row.id, nonce) = none := by simp [Table.get?, keyless]
    show (start.store.replayKeys.get? (row.id, nonce)).any _ = false
    rw [absent]
    rfl
  · rw [outside]
    simp [intendedState]
  · intro answer _ _ endsAt ends
    rw [Option.isNone_iff_eq_none.mp settings] at ends
    cases ends

end Visits

end TicketService
