import TicketService.Interleaving.Solo
import TicketService.Properties.Authentication
import TicketService.Properties.RowShape
import TicketService.Refinement.Records
import TicketService.Refinement.Statements

set_option autoImplicit false

namespace TicketService

open Interleaving Relational VerifyService

variable {platform : Platform} {g : Global} {i : Nat} {w : World}

section Bound

def TokensReached (w : World) : Prop :=
  ∀ m ∈ w.minted, ∀ row, w.ticket m.payload.tid = some row →
    1 ≤ m.payload.dn ∧ m.payload.dn ≤ row.usedNonces + 1

theorem Tallied.next (tallied : Tallied g) {t : Uuid} {row : Ticket}
    (present : g.world.ticket t = some row) : row.nextNonce = some (row.usedNonces + 1) :=
  (tallied.accounted t).next row present

theorem MintedFrom.tid {j : Nat} {bound : Ticket} {m : MintedToken}
    (minted : MintedFrom platform g j bound m) : m.payload.tid = bound.id := by
  obtain ⟨ts, payload⟩ := minted.payload
  rw [payload]
  rfl

theorem reachable_next (pristine : Pristine w) {c : ServiceState}
    (reachable : (service platform).Reachable w c) {e : Event statements World Tx}
    (recorded : e ∈ c.shared.history) {t : Uuid} {row : Ticket} (found : e.world.ticket t = some row) :
    row.nextNonce = some (row.usedNonces + 1) := by
  obtain ⟨before, reached, -, same⟩ := System.state_of_history reachable e recorded
  rw [← same] at found
  exact (reachable_tallied pristine reached).next found

theorem reachable_tokens (pristine : Pristine w) {c : ServiceState}
    (reachable : (service platform).Reachable w c) : TokensReached c.shared.world := by
  intro m member row present
  obtain ⟨j, bound, minted⟩ := (reachable_minting pristine reachable).issued m member
  obtain ⟨w', event, found⟩ := minted.read
  have next := reachable_next pristine reachable event found
  have used : m.payload.dn = bound.usedNonces + 1 := by
    rw [minted.nonce] at next
    exact Option.some.inj next
  have ages := ((reachable_shaped pristine reachable).read minted.read).2 row (minted.tid ▸ present)
  have kept := ages.nonces
  omega

theorem runs_minted (pristine : Pristine w) {c c' : ServiceState}
    (reachable : (service platform).Reachable w c) (runs : (service platform).Runs c c') :
    c.shared.world.minted ⊆ c'.shared.world.minted := by
  refine runs_invariant pristine reachable runs (fun g => c.shared.world.minted ⊆ g.world.minted)
    (fun _ member => member) fun actor g g' _ before change m member => ?_
  rcases change.minted.2 with same | ⟨new, _, _, added, -⟩
  · rw [same]
    exact before member
  · rw [added]
    exact List.mem_append_left _ (before member)

end Bound

section Opening

open AnalyticsOutboxService ScanService ShareGuardService TicketEventRoleResolver

def Stmt.consults : Stmt → Bool
  | .tokenVerify _ => true
  | .ticketFindUnique .tx _ => true
  | _ => false

def consults : Event statements World Tx → Bool
  | .stmt _ stmt _ _ => stmt.consults
  | _ => false

abbrev Onward {α : Type} (p : Program α) : Prop :=
  p.Issues fun stmt : Stmt => stmt.consults = false

theorem onward_of_proceeds {α : Type} {p : Program α} (proceeds : Proceeds p) : Onward p := by
  refine proceeds.mono fun stmt asked => ?_
  cases stmt with
  | tokenVerify => cases asked
  | ticketFindUnique => cases asked
  | _ => rfl

variable {ticket : Ticket} {payload : QrPayload} {uuid : Nat → Uuid} {context : RequestContext}
  {input : SecurityScanInput}

def Opened (i : Nat) (token : String) (log : Record) : Prop :=
  (∃ found w, log = [.stmt i (.tokenVerify token) found w]) ∨
    ∃ later payload row w w₀, log = later ++
        [.stmt i (.ticketFindUnique .tx payload.tid) row w, .stmt i (.tokenVerify token) (some payload) w₀] ∧
      w₀.verified token = some payload ∧ row = w.ticket payload.tid ∧
        ∀ e ∈ later, consults e = false

theorem Opened.later {token : String} {log : Record} {e : Event statements World Tx}
    (opened : Opened i token log) (read : 1 < log.length) (other : consults e = false) :
    Opened i token (e :: log) := by
  rcases opened with ⟨found, w, rfl⟩ | ⟨later, payload, row, w, w₀, rfl, verified, found, others⟩
  · simp at read
  · refine .inr ⟨e :: later, payload, row, w, w₀, rfl, verified, found, ?_⟩
    rintro e' (_ | ⟨_, member⟩)
    · exact other
    · exact others e' member

theorem Opened.read_after {token : String} {log : Record} (opened : Opened i token log)
    {payload : QrPayload} {row : Ticket} {w₀ w₁ : World}
    (verified : .stmt i (.tokenVerify token) (some payload) w₀ ∈ log)
    (read : .stmt i (.ticketFindUnique .tx payload.tid) (some row) w₁ ∈ log)
    {R : Event statements World Tx → Event statements World Tx → Prop} (ordered : log.Pairwise R) :
    w₀.verified token = some payload ∧ w₁.ticket payload.tid = some row ∧
      R (.stmt i (.ticketFindUnique .tx payload.tid) (some row) w₁)
        (.stmt i (.tokenVerify token) (some payload) w₀) := by
  rcases opened with ⟨found, w, rfl⟩ | ⟨later, payload', row', w, w', rfl, genuine, found, others⟩
  · cases List.mem_singleton.mp read
  · have last {e : Event statements World Tx} (begins : consults e = true)
        (member : e ∈ later ++ [.stmt i (.ticketFindUnique .tx payload'.tid) row' w,
          .stmt i (.tokenVerify token) (some payload') w']) :
        e = .stmt i (.ticketFindUnique .tx payload'.tid) row' w ∨
          e = .stmt i (.tokenVerify token) (some payload') w' := by
      rcases List.mem_append.mp member with after | first
      · have other := others e after
        rw [begins] at other
        cases other
      · simpa using first
    rcases last rfl verified with impossible | same
    · cases impossible
    cases same
    rcases last rfl read with same | impossible
    · cases same
      have both := (List.pairwise_append.mp ordered).2.1
      exact ⟨genuine, found.symm, List.rel_of_pairwise_cons both (List.mem_singleton_self _)⟩
    · cases impossible

theorem along_onward {α : Type} {token : String} {p : Program α} {tx : Option Tx} {log : Record}
    (onward : Onward p) (opened : Opened i token log) (read : 1 < log.length) :
    Along (engine platform) .any i (Opened i token) (fun _ _ => True)
      (fun _ _ log => Opened i token log ∧ 1 < log.length) p tx log := by
  have later (e : Event statements World Tx) (log : Record) (other : consults e = false)
      (before : Opened i token log ∧ 1 < log.length) :
      Opened i token (e :: log) ∧ 1 < (e :: log).length :=
    ⟨before.1.later before.2 other, Nat.lt_succ_of_lt before.2⟩
  refine Along.of_issues onward ?_ ?_ (fun _ held => held.1) (fun _ _ _ => trivial) ⟨opened, read⟩
  · exact fun stmt result w log other => later _ log other
  · exact fun t w log => later _ log rfl

theorem along_verifyToken_opened :
    Along (engine platform) .any i (Opened i input.token) (fun _ _ => True)
      (fun _ _ log => Opened i input.token log ∧ 1 < log.length)
      (verifyToken input.token input.signature input.deviceId input.direction) (some ⟨[]⟩) [] := by
  refine Along.bind (Along.bind (along_issue (.tokenVerify input.token)
    (fun found w₀ w' tx' executed => ?_) fun _ _ => trivial))
  refine ⟨.inl ⟨found, w₀, rfl⟩, ?_⟩
  cases executed
  cases verified : w₀.verified input.token with
  | none => trivial
  | some payload =>
    refine Along.bind (along_issue (.ticketFindUnique .tx payload.tid)
      (fun row w w' tx' executed => ?_) fun _ _ => trivial)
    cases executed
    have opened : Opened i input.token
        [.stmt i (.ticketFindUnique .tx payload.tid) (w.ticket payload.tid) w,
          .stmt i (.tokenVerify input.token) (some payload) w₀] :=
      .inr ⟨[], payload, _, w, w₀, rfl, verified, rfl, by simp⟩
    refine ⟨opened, along_onward (onward_of_proceeds ?_) opened (Nat.lt_succ_self 1)⟩
    split
    · trivial
    · split
      · trivial
      · refine proceeds_isBlocked.bind fun blocked => ?_
        split
        · trivial
        · exact proceeds_checkDevice

theorem along_scan_opened :
    Along (engine platform) .any i (Opened i input.token) (fun _ _ => True)
      (fun _ _ log => Opened i input.token log) (scan platform (Uuid.mk i) context input) none [] := by
  refine Along.bind (Along.transaction (Along.bind (along_verifyToken_opened.mono
    fun result tx log before => ?_)))
  have onward : Onward (do
      let permissions ← getPermissionsForUser platform input.actorId result.ticket.eventId
      if .scanTickets ∈ permissions then recordScan platform (Uuid.mk i) context input result
      else
        .throw (.eventAccessDenied result.ticket.eventId input.actorId "event-permission-mismatch"
          permissions [.scanTickets])) := by
    refine onward_of_proceeds (proceeds_getPermissionsForUser.bind fun permissions => ?_)
    split
    · exact proceeds_recordScan
    · trivial
  refine (along_onward onward before.1 before.2).mono fun payload tx log here => ?_
  refine ⟨fun t w _ => ?_, fun _ => trivial⟩
  have committed : Opened i input.token (.commit i t w :: log) := here.1.later here.2 rfl
  refine ⟨committed, ?_⟩
  have published : Onward (if payload.verdict = .ok then do
      publishMilestone platform (scannedMilestone input payload) context input.actorId
      .done payload
      else .done payload) := by
    split
    · exact ⟨rfl, fun _ => trivial⟩
    · trivial
  exact (along_onward published committed (Nat.lt_succ_of_lt here.2)).mono fun _ _ _ last => last.1

def openingStory : Story statements World Tx Call Exn Reply where
  keeps i call log :=
    match call with
    | .scan _ input => Opened i input.token log
    | _ => True
  returns _ _ _ _ := True
  throws _ _ _ _ := True

theorem tells_opening (call : Call) (i : Nat) :
    (service platform).Tells openingStory .any i call ⟨program platform i call, none⟩ [] := by
  cases call with
  | scan context input =>
    refine Along.bind ?_
    unfold TicketMutationResolver.scanToken
    split
    · trivial
    · exact along_scan_opened.mono fun _ _ _ _ => trivial
  | _ => exact Along.always (fun _ => trivial) (fun _ _ => trivial) fun _ _ _ => trivial

end Opening

structure Expected (row : Ticket) (payload : QrPayload) : Prop where
  reached : ∃ next, row.nextNonce = some next ∧ payload.dn ≤ next
  checked : ∀ direction, checkNonce row payload direction =
    if row.nextNonce = some payload.dn then applyDirectionPolicy row payload direction
    else rejectRisk row payload { replay := true } .replay (scanMessages .replay)

theorem expected_of_reached {row : Ticket} {payload : QrPayload}
    (next : row.nextNonce = some (row.usedNonces + 1)) (first : 1 ≤ payload.dn)
    (bound : payload.dn ≤ row.usedNonces + 1) : Expected row payload := by
  refine ⟨⟨_, next, bound⟩, fun direction => ?_⟩
  unfold checkNonce
  by_cases current : payload.dn = row.usedNonces + 1
  · have fresh : ¬row.lastNonce.any (payload.dn ≤ ·) = true := by
      cases consumed : row.lastNonce with
      | none => simp
      | some last =>
        simp only [Ticket.usedNonces, consumed, Option.getD_some] at current
        simp only [Option.any_some, decide_eq_true_eq]
        omega
    rw [if_neg fresh, next, current]
    simp
  · have stale : row.lastNonce.any (payload.dn ≤ ·) = true := by
      cases consumed : row.lastNonce with
      | none =>
        simp only [Ticket.usedNonces, consumed, Option.getD_none] at bound current
        omega
      | some last =>
        simp only [Ticket.usedNonces, consumed, Option.getD_some] at bound current
        simp only [Option.any_some, decide_eq_true_eq]
        omega
    have other : row.nextNonce ≠ some payload.dn := by
      rw [next]
      simpa using Ne.symm current
    rw [if_pos stale, if_neg other]

/-- In every run, whenever a scan reads the row of the ticket of a token that it has verified, the
nonce of the token is one that the row has reached. -/
theorem scans_expect_nonce (pristine : Pristine w) {c : ServiceState}
    (reachable : (service platform).Reachable w c) {context : RequestContext}
    {input : SecurityScanInput} (called : c.shared.calls[i]? = some (.scan context input))
    {payload : QrPayload} {row : Ticket} {w₀ w₁ : World}
    (verified : .stmt i (.tokenVerify input.token) (some payload) w₀ ∈ c.shared.history)
    (read : .stmt i (.ticketFindUnique .tx payload.tid) (some row) w₁ ∈ c.shared.history) :
    Expected row payload := by
  have tracked : (service platform).Tracked openingStory .any c :=
    System.reachable_tracked reachable tells_opening
  have verifies : .stmt i (.tokenVerify input.token) (some payload) w₀ ∈ c.shared.own i :=
    (Shared.mem_own _ _).mpr ⟨verified, rfl, rfl⟩
  have reads : .stmt i (.ticketFindUnique .tx payload.tid) (some row) w₁ ∈ c.shared.own i :=
    (Shared.mem_own _ _).mpr ⟨read, rfl, rfl⟩
  have opened : Opened i input.token (c.shared.own i) :=
    tracked.kept i _ called (List.ne_nil_of_mem verifies)
  have grows : c.shared.history.Pairwise fun later earlier =>
      earlier.world.minted ⊆ later.world.minted :=
    System.pairwise_of_history (R := fun w w' => w.minted ⊆ w'.minted) reachable
      fun c c' reached runs => runs_minted pristine reached runs
  obtain ⟨genuine, found, minted⟩ := opened.read_after verifies reads (grows.sublist (Shared.own_sublist _ i))
  obtain ⟨m, member, -, rfl, -⟩ := World.verified_minted genuine
  obtain ⟨before, reached, -, same⟩ := System.state_of_history reachable _ read
  have here : before.shared.world.ticket m.payload.tid = some row := by
    rw [same]
    exact found
  have bound := reachable_tokens pristine reached m (same ▸ minted member) row here
  exact expected_of_reached (reachable_next pristine reachable read found) bound.1 bound.2

section Samples

open Sample

def verifiedBy (i : Nat) (token : String) : Event statements World Tx → Option QrPayload
  | .stmt j (.tokenVerify presented) found _ =>
    Option.filter (fun _ => j = i ∧ presented = token) found
  | _ => none

def readBy (i : Nat) (id : Uuid) : Event statements World Tx → Option Ticket
  | .stmt j (.ticketFindUnique .tx target) found _ => Option.filter (fun _ => j = i ∧ target = id) found
  | _ => none

theorem mem_of_verifiedBy {token : String} {payload : QrPayload} {history : Record}
    (found : history.findSome? (verifiedBy i token) = some payload) :
    ∃ w, .stmt i (.tokenVerify token) (some payload) w ∈ history := by
  obtain ⟨e, member, verified⟩ := List.exists_of_findSome?_eq_some found
  unfold verifiedBy at verified
  split at verified
  next j presented carried w =>
    obtain ⟨same, mine⟩ := Option.filter_eq_some_iff.mp verified
    obtain ⟨rfl, rfl⟩ := of_decide_eq_true mine
    exact ⟨w, same ▸ member⟩
  next => cases verified

theorem mem_of_readBy {id : Uuid} {row : Ticket} {history : Record}
    (found : history.findSome? (readBy i id) = some row) :
    ∃ w, .stmt i (.ticketFindUnique .tx id) (some row) w ∈ history := by
  obtain ⟨e, member, read⟩ := List.exists_of_findSome?_eq_some found
  unfold readBy at read
  split at read
  next j target carried w =>
    obtain ⟨same, mine⟩ := Option.filter_eq_some_iff.mp read
    obtain ⟨rfl, rfl⟩ := of_decide_eq_true mine
    exact ⟨w, same ▸ member⟩
  next => cases read

def rescan : List ServiceAct :=
  prepared ++ call 4 (.scan context entry) 30 ++ call 5 (.scan context entry) 30

theorem scans_expect_nonce_rescan :
    ∃ row payload, row.nextNonce = some 2 ∧ payload.dn = 1 ∧ Expected row payload := by
  have payloads : ((run rescan).shared.history.findSome? (verifiedBy 5 token)).map
      (fun payload => (payload.tid, payload.dn)) = some (ticket, 1) := by decide +kernel
  have rows : ((run rescan).shared.history.findSome? (readBy 5 ticket)).map (·.nextNonce) =
      some (some 2) := by decide +kernel
  obtain ⟨payload, verifies, carried⟩ := Option.map_eq_some_iff.mp payloads
  obtain ⟨row, reads, next⟩ := Option.map_eq_some_iff.mp rows
  obtain ⟨tid, dn⟩ := Prod.mk.inj carried
  obtain ⟨w₀, verified⟩ := mem_of_verifiedBy verifies
  obtain ⟨w₁, read⟩ := mem_of_readBy reads
  rw [← tid] at read
  have called : (run rescan).shared.calls[5]? = some (.scan context entry) := by decide +kernel
  exact ⟨row, payload, next, dn,
    scans_expect_nonce pristine_empty (reachable_run rescan) called verified read⟩

end Samples

end TicketService
