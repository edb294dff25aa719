import TicketService.Properties.Nonces

set_option autoImplicit false

namespace TicketService

open Interleaving Relational

variable {platform : Platform} {g g' : Global} {i : Nat}

section Minting

variable {stmt : Stmt} {w w' : World} {tx tx' : Option Tx} {result : stmt.Res}

theorem exec_world (executed : exec platform stmt w tx = some (result, w', tx')) :
    w'.clock = w.clock ∧ (w'.minted = w.minted ∨ ∃ payload, stmt = .tokenGenerate payload ∧
      w'.minted = w.minted ++ [⟨platform.compactJwe w.minted.length, payload, w.epoch⟩]) := by
  cases exec_effect executed with
  | mints payload token => exact ⟨rfl, .inr ⟨payload, rfl, rfl⟩⟩
  | _ => exact ⟨rfl, .inl rfl⟩

end Minting

structure MintedFrom (platform : Platform) (g : Global) (j : Nat) (bound : Ticket)
    (m : MintedToken) : Prop where
  called : g.calls[j]? = some (.generateToken bound.id bound.guestProfileId)
  read : Read g j .prisma bound.id bound
  nonce : bound.nextNonce = some m.payload.dn
  payload : ∃ ts, m.payload = { TicketWriteService.tokenPayload platform bound m.payload.dn ts with
    kid := some platform.activeKid }
  minted : Seen g j (.tokenGenerate m.payload) m.token fun w => w.epoch = m.iat

theorem MintedFrom.extends {j : Nat} {bound : Ticket} {m : MintedToken}
    (minted : MintedFrom platform g j bound m) (moved : Extends g g') :
    MintedFrom platform g' j bound m where
  called := moved.calls j _ minted.called
  read := moved.seen minted.read
  nonce := minted.nonce
  payload := minted.payload
  minted := moved.seen minted.minted

structure Minting (platform : Platform) (g : Global) : Prop where
  numbered : ∀ (n : Nat) (m : MintedToken), g.world.minted[n]? = some m →
    m.token = platform.compactJwe n
  issued : ∀ m ∈ g.world.minted, ∃ j bound, MintedFrom platform g j bound m
  timely : ∀ m ∈ g.world.minted, m.iat ≤ g.world.epoch
  past : ∀ e ∈ g.history, ∀ m ∈ e.world.minted, m ∈ g.world.minted ∧ m.iat ≤ e.world.epoch

theorem Change.minted {actor : Option Nat} (change : Change platform actor g g') :
    g.world.epoch ≤ g'.world.epoch ∧ (g'.world.minted = g.world.minted ∨
      ∃ m j bound, g'.world.minted = g.world.minted ++ [m] ∧
        m.token = platform.compactJwe g.world.minted.length ∧ m.iat = g.world.epoch ∧
        MintedFrom platform g' j bound m) := by
  have moved := change.extends
  cases change with
  | invoke call => exact ⟨Nat.le_refl _, .inl rfl⟩
  | environ action =>
    cases action with
    | tick ms =>
      have later : g.world.clock ≤ g.world.clock + ms := Nat.le_add_right _ _
      exact ⟨Nat.div_le_div_right later, .inl rfl⟩
    | expire ticketId nonce => exact ⟨Nat.le_refl _, .inl rfl⟩
    | sign signature => exact ⟨Nat.le_refl _, .inl rfl⟩
  | stmt j stmt result w tx tx' executed issued =>
    obtain ⟨clock, same | ⟨payload, rfl, added⟩⟩ := exec_world executed
    · exact ⟨by simp [World.epoch, clock], .inl same⟩
    · refine ⟨by simp [World.epoch, clock], .inr ?_⟩
      obtain ⟨ticketId, actorId, bound, dn, ts, minted, called, read, rfl, next, rfl⟩ := issued
      obtain rfl : bound.id = ticketId := by
        obtain ⟨w', -, found⟩ := read
        exact Table.key_of_get? found
      cases executed
      refine ⟨_, j, bound, added, rfl, rfl, called, moved.seen read, next, ⟨minted, rfl⟩, ?_⟩
      exact ⟨g.world, List.mem_cons_self, rfl⟩
  | commit j tx => exact ⟨Nat.le_refl _, .inl rfl⟩
  | rollback j => exact ⟨Nat.le_refl _, .inl rfl⟩

theorem Change.minting {actor : Option Nat} (change : Change platform actor g g')
    (minting : Minting platform g) : Minting platform g' := by
  obtain ⟨later, cases⟩ := change.minted
  have kept : ∀ m ∈ g.world.minted, m ∈ g'.world.minted := by
    intro m member
    rcases cases with same | ⟨new, _, _, added, -⟩
    · rw [same]
      exact member
    · rw [added]
      exact List.mem_append_left _ member
  have old : ∀ m ∈ g.world.minted, (∃ j bound, MintedFrom platform g' j bound m) ∧
      m.iat ≤ g'.world.epoch := by
    intro m member
    obtain ⟨j, bound, minted⟩ := minting.issued m member
    exact ⟨⟨j, bound, minted.extends change.extends⟩, Nat.le_trans (minting.timely m member) later⟩
  constructor
  · intro n m found
    rcases cases with same | ⟨new, _, _, added, token, -⟩
    · rw [same] at found
      exact minting.numbered n m found
    · rw [added, List.getElem?_append] at found
      split at found
      · exact minting.numbered n m found
      · have last : n = g.world.minted.length := by
          have within := (List.getElem?_eq_some_iff.mp found).1
          simp only [List.length_singleton] at within
          omega
        subst last
        simp only [Nat.sub_self, List.getElem?_cons_zero, Option.some.injEq] at found
        rw [← found]
        exact token
  · intro m member
    rcases cases with same | ⟨new, j, bound, added, -, -, minted⟩
    · rw [same] at member
      exact (old m member).1
    · rw [added] at member
      rcases List.mem_append.mp member with before | last
      · exact (old m before).1
      · rw [List.mem_singleton.mp last]
        exact ⟨j, bound, minted⟩
  · intro m member
    rcases cases with same | ⟨new, _, _, added, -, iat, -⟩
    · rw [same] at member
      exact (old m member).2
    · rw [added] at member
      rcases List.mem_append.mp member with before | last
      · exact (old m before).2
      · rw [List.mem_singleton.mp last, iat]
        exact later
  · intro e recorded m member
    rcases change.recorded e recorded with before | same
    · obtain ⟨here, passed⟩ := minting.past e before m member
      exact ⟨kept m here, passed⟩
    · rw [same] at member ⊢
      exact ⟨kept m member, minting.timely m member⟩

theorem reachable_minting {w : World} (pristine : Pristine w) {c : ServiceState}
    (reachable : (service platform).Reachable w c) : Minting platform c.shared := by
  refine reachable_invariant pristine reachable (Minting platform) ?_ fun _ _ _ _ minting change =>
    change.minting minting
  have none_minted : ((service platform).initial w).shared.world.minted = [] := pristine.minted
  constructor
  · simp [none_minted]
  · simp [none_minted]
  · simp [none_minted]
  · intro e recorded
    cases recorded

theorem Minting.unique (minting : Minting platform g) {m m' : MintedToken}
    (here : m ∈ g.world.minted) (there : m' ∈ g.world.minted) (same : m.token = m'.token) :
    m = m' := by
  obtain ⟨n, found⟩ := List.mem_iff_getElem?.mp here
  obtain ⟨n', found'⟩ := List.mem_iff_getElem?.mp there
  have tokens : platform.compactJwe n = platform.compactJwe n' := by
    rw [← minting.numbered n m found, ← minting.numbered n' m' found', same]
  have positions : n = n' := platform.compactJwe_injective tokens
  rw [positions, found'] at found
  exact (Option.some.inj found).symm

theorem World.verified_minted {w : World} {token : String} {payload : QrPayload}
    (verified : w.verified token = some payload) :
    ∃ m ∈ w.minted, m.token = token ∧ m.payload = payload ∧ w.epoch < m.iat + 60 := by
  obtain ⟨m, found, valid⟩ := Option.bind_eq_some_iff.mp verified
  split at valid
  next fresh =>
    refine ⟨m, List.mem_of_find?_eq_some found, ?_, Option.some.inj valid, fresh⟩
    simpa using List.find?_some found
  next => cases valid

def scanInput (g : Global) (log : ScanLog) : Option SecurityScanInput :=
  match g.calls[log.id.call]? with
  | some (.scan _ input) => some input
  | _ => none

theorem scanInput_extends (moved : Extends g g') {log : ScanLog} {input : SecurityScanInput}
    (scanned : scanInput g log = some input) : scanInput g' log = some input := by
  unfold scanInput at scanned ⊢
  cases called : g.calls[log.id.call]? with
  | none => simp [called] at scanned
  | some call =>
    rw [called] at scanned
    rw [moved.calls _ call called]
    exact scanned

-- The log of a scan that was not a manual override and accepted its token.
def ScanLog.acceptedScan (log : ScanLog) : Bool :=
  log.verdict = .ok ∧ log.nonce.isSome

structure Logged (g : Global) (log : ScanLog) (input : SecurityScanInput) (payload : QrPayload)
    (row : Ticket) : Prop where
  scanned : scanInput g log = some input
  admitted : Admitted g log.id.call input payload row
  ticket : log.ticketId = row.id
  nonce : log.nonce = some payload.dn
  device : log.deviceId = some input.deviceId

theorem Logged.extends {log : ScanLog} {input : SecurityScanInput} {payload : QrPayload}
    {row : Ticket} (logged : Logged g log input payload row) (moved : Extends g g') :
    Logged g' log input payload row where
  scanned := scanInput_extends moved logged.scanned
  admitted := logged.admitted.extends moved
  ticket := logged.ticket
  nonce := logged.nonce
  device := logged.device

def ScansLogged (g : Global) (logs : List ScanLog) : Prop :=
  ∀ log ∈ logs, log.acceptedScan → ∃ input payload row, Logged g log input payload row

theorem ScansLogged.append {logs : List ScanLog} {log : ScanLog} (logged : ScansLogged g logs)
    (plain : log.acceptedScan = false) : ScansLogged g (logs ++ [log]) := by
  intro old member accepted
  rcases List.mem_append.mp member with before | last
  · exact logged old before accepted
  · rw [List.mem_singleton.mp last, plain] at accepted
    cases accepted

open TicketWriteService in
theorem Turn.scans_logged {t : Uuid} {before after : Life} (turn : Turn platform g t i before after)
    (logged : ScansLogged g before.logs) : ScansLogged g after.logs := by
  cases turn with
  | created context data createdAt fact logs facts => exact logged
  | bound input ticket row siblings now updatedAt logs facts => exact logged
  | unbound input ticket row siblings unboundAt logs facts => exact logged
  | deleted call row logs facts => simp [ScansLogged]
  | revoked context reason actorId ticket row now updatedAt createdAt fact logs facts =>
    exact logged.append (by simp [ScanLog.acceptedScan, staffLogRow])
  | presence context state actorId ticket row checkedInAt updatedAt createdAt fact logs facts =>
    exact logged.append (by simp [ScanLog.acceptedScan, staffLogRow])
  | reset actorId ticket row updatedAt createdAt logs facts =>
    exact logged.append (by simp [ScanLog.acceptedScan, staffLogRow])
  | accepted context input payload ticket row checkedInAt updatedAt returnedAt createdAt scanned
      presence logs facts called same accepted =>
    intro log member ok
    rcases List.mem_append.mp member with before | last
    · exact logged log before ok
    · rw [List.mem_singleton.mp last]
      refine ⟨input, payload, ticket, ?_, accepted.admitted, rfl, rfl, rfl⟩
      simp [scanInput, ScanService.scanLogRow, called]
  | rejected context input result row createdAt fact logs facts called same refused =>
    exact logged.append (by simp [ScanLog.acceptedScan, ScanService.scanLogRow, refused])
  | autoRevoked row now updatedAt logs facts => exact logged

theorem reachable_logged {w : World} (pristine : Pristine w) {c : ServiceState}
    (reachable : (service platform).Reachable w c) :
    ScansLogged c.shared c.shared.world.store.scanLogs := by
  refine reachable_invariant pristine reachable (fun g => ScansLogged g g.world.store.scanLogs) ?_ ?_
  · intro log member
    have none_logged : ((service platform).initial w).shared.world.store.scanLogs = [] :=
      pristine.scanLogs
    simp [none_logged] at member
  · intro actor g g' _ logged change log member accepted
    -- The log is in the life of its ticket.
    have here : log ∈ (life g'.world.store log.ticketId).logs := by
      simpa [life] using member
    have before : ScansLogged g (life g.world.store log.ticketId).logs :=
      fun old there => logged old (List.mem_of_mem_filter there)
    have after : ScansLogged g (life g'.world.store log.ticketId).logs := by
      rcases change.turn log.ticketId with same | ⟨i, -, turn⟩
      · rw [same]
        exact before
      · exact turn.scans_logged before
    obtain ⟨input, payload, row, grounds⟩ := after log here accepted
    exact ⟨input, payload, row, grounds.extends change.extends⟩

theorem Accounted.nodup {l : Life} (accounted : Accounted l) : l.acceptedNonces.Nodup := by
  cases present : l.row with
  | none => simp [Life.acceptedNonces, Life.okLogs, accounted.absent present]
  | some row =>
    rw [accounted.nonces row present]
    exact List.nodup_range'

theorem Tallied.pairwise (tallied : Tallied g) :
    g.world.store.scanLogs.Pairwise fun log log' => log.ticketId = log'.ticketId →
      log.verdict = .ok → log'.verdict = .ok → ∀ n, log.nonce = some n → log'.nonce ≠ some n := by
  rw [List.pairwise_iff_getElem]
  intro k l within within' earlier same ok ok' n nonce nonce'
  have once := (tallied.accounted g.world.store.scanLogs[k].ticketId).nodup
  simp only [Life.acceptedNonces, Life.okLogs, life, List.Nodup, List.pairwise_filterMap,
    List.pairwise_filter] at once
  have differ := List.pairwise_iff_getElem.mp once k l within within' earlier
  simp [same, ok, ok', nonce, nonce'] at differ

structure Agreement (platform : Platform) (g : Global) (log : ScanLog) (owner : Uuid) (nonce : Nat)
    (token : String) : Prop where
  minted : ∃ j bound m, MintedFrom platform g j bound m ∧ bound.id = log.ticketId ∧
    bound.guestProfileId = owner ∧ m.payload.dn = nonce ∧ m.token = token ∧
    Seen g log.id.call (.tokenVerify token) (some m.payload) fun w =>
      m.iat ≤ w.epoch ∧ w.epoch < m.iat + 60
  signed : ∃ row publicKey deviceId signature, Read g log.id.call .tx log.ticketId row ∧
    row.devicePublicKey = some publicKey ∧ row.deviceId = some deviceId ∧
    Seen g log.id.call (.verifySignature (VerifyService.signedMessage token deviceId) signature
      publicKey) true fun w =>
        ⟨publicKey, VerifyService.signedMessage token deviceId, signature⟩ ∈ w.signatures

theorem Logged.ticket_id {log : ScanLog} {input : SecurityScanInput} {payload : QrPayload}
    {row : Ticket} (logged : Logged g log input payload row) : log.ticketId = payload.tid := by
  obtain ⟨w, -, found⟩ := logged.admitted.read
  have key : row.id = payload.tid := Table.key_of_get? found
  rw [logged.ticket, key]

-- The token of an accepted scan, as it was minted.
theorem Logged.token_minted {log : ScanLog} {input : SecurityScanInput} {payload : QrPayload}
    {row : Ticket} (logged : Logged g log input payload row) (minting : Minting platform g) :
    ∃ m ∈ g.world.minted, m.token = input.token ∧ m.payload = payload ∧
      Seen g log.id.call (.tokenVerify input.token) (some payload) fun w =>
        m.iat ≤ w.epoch ∧ w.epoch < m.iat + 60 := by
  obtain ⟨w, event, verified⟩ := logged.admitted.token
  obtain ⟨m, member, token, payload, fresh⟩ := World.verified_minted verified
  obtain ⟨here, passed⟩ := minting.past _ event m member
  exact ⟨m, here, token, payload, w, event, passed, fresh⟩

theorem Logged.signed {log : ScanLog} {input : SecurityScanInput} {payload : QrPayload}
    {row : Ticket} (logged : Logged g log input payload row) :
    ∃ row publicKey deviceId signature, Read g log.id.call .tx log.ticketId row ∧
      row.devicePublicKey = some publicKey ∧ row.deviceId = some deviceId ∧
      Seen g log.id.call (.verifySignature (VerifyService.signedMessage input.token deviceId)
        signature publicKey) true fun w =>
          ⟨publicKey, VerifyService.signedMessage input.token deviceId, signature⟩ ∈
            w.signatures := by
  obtain ⟨publicKey, bound, signed⟩ := logged.admitted.signed
  have key : row.devicePublicKey = some publicKey := (Option.filter_eq_some_iff.mp bound).1
  refine ⟨row, publicKey, input.deviceId, input.signature, ?_, key, logged.admitted.device, signed⟩
  rw [logged.ticket_id]
  exact logged.admitted.read

theorem MintedFrom.owner {j : Nat} {bound row : Ticket} {m : MintedToken}
    (minted : MintedFrom platform g j bound m)
    (past : Past g) (present : g.world.ticket bound.id = some row) :
    bound.guestProfileId = row.guestProfileId := by
  have same := (past.read minted.read).2 row present
  exact (Ticket.identity_iff.mp same).2.2.2.2.1.symm

/-- In every state of every run, the token of an accepted scan was minted for the owner of the
ticket and signed by its device, and no two accepted scans share a token. -/
theorem scans_agree {w : World} (pristine : Pristine w) {c : ServiceState}
    (reachable : (service platform).Reachable w c) :
    (∀ log ∈ c.shared.world.store.scanLogs, log.verdict = .ok → ∀ n, log.nonce = some n →
      ∃ row ∈ c.shared.world.store.tickets.rows, row.id = log.ticketId ∧
        ∃ input, scanInput c.shared log = some input ∧
          Agreement platform c.shared log row.guestProfileId n input.token) ∧
    c.shared.world.store.scanLogs.Pairwise fun log log' =>
      log.acceptedScan → log'.acceptedScan → ∀ input input',
        scanInput c.shared log = some input → scanInput c.shared log' = some input' →
          input.token ≠ input'.token := by
  have minting := reachable_minting pristine reachable
  have tallied := reachable_tallied pristine reachable
  have logged := reachable_logged pristine reachable
  constructor
  · intro log member ok n nonce
    have accepted : log.acceptedScan := by simp [ScanLog.acceptedScan, ok, nonce]
    obtain ⟨input, payload, row, grounds⟩ := logged log member accepted
    obtain ⟨m, here, token, rfl, verified⟩ := grounds.token_minted minting
    obtain ⟨j, bound, minted⟩ := minting.issued m here
    have same_id : bound.id = log.ticketId := by
      obtain ⟨ts, payload⟩ := minted.payload
      rw [grounds.ticket_id, payload]
      rfl
    -- A ticket without a row has no logs.
    obtain ⟨current, present⟩ : ∃ current,
        c.shared.world.store.ticket log.ticketId = some current := by
      rw [← Option.ne_none_iff_exists']
      intro absent
      have none_logged := (tallied.accounted log.ticketId).absent absent
      have listed : log ∈ (life c.shared.world.store log.ticketId).logs := by
        simpa [life] using member
      simp [none_logged] at listed
    have owner := minted.owner (reachable_past pristine reachable) (same_id ▸ present)
    have used : m.payload.dn = n := by
      have carried := grounds.nonce
      rw [nonce] at carried
      exact (Option.some.inj carried).symm
    refine ⟨current, Table.mem_of_get? present, Table.key_of_get? present, input, grounds.scanned,
      ?_, grounds.signed⟩
    exact ⟨j, bound, m, minted, same_id, owner, used, token, verified⟩
  · refine List.Pairwise.imp_of_mem ?_ tallied.pairwise
    intro log log' member member' differ accepted accepted' input input' scanned scanned' same
    obtain ⟨_, payload, row, grounds⟩ := logged log member accepted
    obtain ⟨_, payload', row', grounds'⟩ := logged log' member' accepted'
    cases scanned.symm.trans grounds.scanned
    cases scanned'.symm.trans grounds'.scanned
    obtain ⟨m, here, token, rfl, -⟩ := grounds.token_minted minting
    obtain ⟨m', here', token', rfl, -⟩ := grounds'.token_minted minting
    have unique : m = m' := minting.unique here here' (by rw [token, token', same])
    subst unique
    simp only [ScanLog.acceptedScan, decide_eq_true_eq] at accepted accepted'
    exact differ (grounds.ticket_id.trans grounds'.ticket_id.symm) accepted.1 accepted'.1 _
      grounds.nonce grounds'.nonce

open Sample in
theorem scans_agree_entry :
    ∃ log ∈ (run (prepared ++ call 4 (.scan context entry) 30)).shared.world.store.scanLogs,
      ∃ row ∈ (run (prepared ++ call 4 (.scan context entry) 30)).shared.world.store.tickets.rows,
        ∃ input : SecurityScanInput, Agreement deployment (run (prepared ++ call 4 (.scan context entry) 30)).shared log
          row.guestProfileId 1 input.token := by
  have entered : ∃ log ∈ (run (prepared ++ call 4 (.scan context entry)
      30)).shared.world.store.scanLogs, log.verdict = .ok ∧ log.nonce = some 1 := by decide +kernel
  obtain ⟨log, member, ok, nonce⟩ := entered
  obtain ⟨row, present, -, input, -, agreement⟩ :=
    (scans_agree pristine_empty (reachable_run _)).1 log member ok 1 nonce
  exact ⟨log, member, row, present, input, agreement⟩

end TicketService
