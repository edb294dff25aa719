import TicketService.Properties.Authentication

set_option autoImplicit false

namespace TicketService

open Interleaving

variable {platform : Platform} {g : Global}

def HashesMatch (platform : Platform) (g : Global) : Prop :=
  ∀ log ∈ g.world.store.scanLogs, log.acceptedScan → ∀ input m,
    scanInput g log = some input → m ∈ g.world.minted → m.token = input.token →
      ∀ dh, m.payload.dh = some dh →
        TokenService.verifyDeviceHash platform input.deviceId (some dh) = true ∧
          dh = TokenService.hashDevice platform input.deviceId

def StillBound (platform : Platform) (g : Global) : Prop :=
  ∀ log ∈ g.world.store.scanLogs, log.acceptedScan → ∀ input m j bound row,
    scanInput g log = some input → m.token = input.token → MintedFrom platform g j bound m →
      Admitted g log.id.call input m.payload row → (truthy bound.deviceId).isSome →
        row.deviceId = bound.deviceId

theorem MintedFrom.hash {j : Nat} {bound : Ticket} {m : MintedToken}
    (minted : MintedFrom platform g j bound m) :
    m.payload.dh = (truthy bound.deviceId).map (TokenService.hashDevice platform) := by
  obtain ⟨ts, payload⟩ := minted.payload
  rw [payload]
  rfl

theorem verifyDeviceHash_hashDevice (deviceId : String) :
    TokenService.verifyDeviceHash platform deviceId
      (some (TokenService.hashDevice platform deviceId)) = true := by
  unfold TokenService.verifyDeviceHash
  split
  · rfl
  next hash present =>
    have same := (Option.filter_eq_some_iff.mp present).1
    simpa using same

theorem StillBound.hashes_match (minting : Minting platform g)
    (logged : ScansLogged g g.world.store.scanLogs) (still : StillBound platform g) :
    HashesMatch platform g := by
  intro log member accepted input m scanned here token dh carried
  obtain ⟨input', payload, row, grounds⟩ := logged log member accepted
  cases scanned.symm.trans grounds.scanned
  obtain ⟨m', here', token', same, -⟩ := grounds.token_minted minting
  obtain rfl : m = m' := minting.unique here here' (token.trans token'.symm)
  subst same
  obtain ⟨j, bound, minted⟩ := minting.issued m here
  rw [minted.hash] at carried
  obtain ⟨deviceId, present, rfl⟩ := Option.map_eq_some_iff.mp carried
  have kept := still log member accepted input m j bound row scanned token minted grounds.admitted
    (by simp [present])
  have bound_to : bound.deviceId = some deviceId := (Option.filter_eq_some_iff.mp present).1
  have presented : some input.deviceId = some deviceId := by
    rw [← grounds.admitted.device, kept, bound_to]
  cases presented
  exact ⟨verifyDeviceHash_hashDevice _, rfl⟩

theorem HashesMatch.still_bound (injective : Function.Injective platform.sha256Hex)
    (minting : Minting platform g) (hashes : HashesMatch platform g) : StillBound platform g := by
  intro log member accepted input m j bound row scanned token minted admitted present
  obtain ⟨deviceId, found⟩ := Option.isSome_iff_exists.mp present
  have carried := minted.hash
  rw [found] at carried
  obtain ⟨w, event, verified⟩ := admitted.token
  obtain ⟨m', met, token', same, -⟩ := World.verified_minted verified
  have here := (minting.past _ event m' met).1
  have matched := (hashes log member accepted input m' scanned here token' _ (same ▸ carried)).2
  have devices : deviceId = input.deviceId := injective matched
  rw [admitted.device, ← devices]
  exact (Option.filter_eq_some_iff.mp found).1.symm

/-- In a reachable state, the hashes of the tokens that scans accepted match the presented devices
if and only if the tickets were still bound as when the tokens were minted. -/
theorem hashes_match_iff {w : World} (injective : Function.Injective platform.sha256Hex)
    (pristine : Pristine w) {c : ServiceState} (reachable : (service platform).Reachable w c) :
    HashesMatch platform c.shared ↔ StillBound platform c.shared := by
  have minting := reachable_minting pristine reachable
  have logged := reachable_logged pristine reachable
  exact ⟨fun hashes => hashes.still_bound injective minting,
    fun still => still.hashes_match minting logged⟩

section Rebinding

open Sample

theorem Sample.sha256Hex_injective : Function.Injective deployment.sha256Hex := by
  intro deviceId deviceId' same
  exact String.append_right_inj _ |>.mp same

theorem hashes_match_entry :
    HashesMatch deployment (run (prepared ++ call 4 (.scan context entry) 30)).shared ↔
      StillBound deployment (run (prepared ++ call 4 (.scan context entry) 30)).shared :=
  hashes_match_iff sha256Hex_injective pristine_empty (reachable_run _)

def tablet : ActivateDeviceDTO where
  ticketId := ticket
  publicKey := "tablet-key"
  deviceId := "tablet"
  ip := none

def tabletSignature : DeviceSignature where
  publicKey := "tablet-key"
  message := VerifyService.signedMessage token "tablet"
  signature := "tablet-signature"

-- The token was minted while the ticket was bound to the phone.
def reboundBeforeScan : List ServiceAct :=
  prepared ++ call 4 (.resetDeviceBinding ticket staff) 7 ++ call 5 (.activateDevice tablet guest) 7 ++
    [.environ (.sign tabletSignature)] ++
    call 6 (.scan context { entry with deviceId := "tablet", signature := "tablet-signature" }) 30

theorem rebound_device_accepted : ¬∀ (platform : Platform) (w : World) (c : ServiceState),
    Function.Injective platform.sha256Hex → Pristine w → (service platform).Reachable w c →
      HashesMatch platform c.shared := by
  intro claim
  have hashes := claim deployment World.empty (run reboundBeforeScan) sha256Hex_injective
    pristine_empty (reachable_run _)
  have accepted : ∃ log ∈ (run reboundBeforeScan).shared.world.store.scanLogs, log.acceptedScan ∧
      ∃ m ∈ (run reboundBeforeScan).shared.world.minted,
        (scanInput (run reboundBeforeScan).shared log).any (fun input => m.token = input.token ∧
          m.payload.dh = some (TokenService.hashDevice deployment "phone") ∧
            input.deviceId = "tablet") := by decide +kernel
  obtain ⟨log, member, ok, m, minted, facts⟩ := accepted
  obtain ⟨input, scanned, facts⟩ := (Option.any_eq_true _ _).mp facts
  simp only [decide_eq_true_eq] at facts
  obtain ⟨token, carried, presented⟩ := facts
  have matched := (hashes log member ok input m scanned minted token _ carried).2
  rw [presented] at matched
  exact absurd (sha256Hex_injective matched) (by decide)

end Rebinding

end TicketService
