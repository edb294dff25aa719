import TicketService.Model.Dev
import TicketService.Refinement.Exits

set_option autoImplicit false

namespace TicketService

open DevService Interleaving Relational VerifyService

variable {crypto : NodeCrypto} {privateKey : crypto.PrivateKey} {token deviceId : String}

theorem p256Order_lt : p256Order < 256 ^ 32 := by decide

theorem RawSignature.der_ne (signature : RawSignature) : signature.der ≠ signature.ieeeP1363 :=
  Der.pair_ne_concatenation (by decide) (Nat.lt_trans signature.r_range.2 p256Order_lt)
    (Nat.lt_trans signature.s_range.2 p256Order_lt)

theorem signToken_returns : signToken crypto token deviceId (generateKeyPair crypto privateKey).privateKey =
    some ⟨signedMessage token deviceId,
      Base64.encode (crypto.rawSignature privateKey (utf8 (signedMessage token deviceId))).der⟩ := by
  simp only [signToken, generateKeyPair, Base64.decode_encode, crypto.createPrivateKey_pkcs8]
  rfl

theorem verifySignature_iff {message : String} {signature : Bytes} :
    verifySignature crypto message (Base64.encode signature) (generateKeyPair crypto privateKey).publicKey =
      true ↔ signature = (crypto.rawSignature privateKey (utf8 message)).ieeeP1363 := by
  simp only [verifySignature, generateKeyPair, Base64.decode_encode, crypto.createPublicKey_spki]
  exact crypto.verify_iff privateKey (utf8 message) signature

theorem verifySignature_signToken {signed : SignedToken}
    (signs : signToken crypto token deviceId (generateKeyPair crypto privateKey).privateKey = some signed) :
    verifySignature crypto (signedMessage token deviceId) signed.signature
      (generateKeyPair crypto privateKey).publicKey = false := by
  rw [signToken_returns] at signs
  obtain rfl := Option.some.inj signs
  rw [Bool.eq_false_iff, ne_eq, verifySignature_iff]
  exact RawSignature.der_ne _

namespace Sample

def publicPoint : Bytes :=
  0x04 :: (Der.bigEndian 32 0x4ce11a37f9d5ad82daec4d89bcbc8dab21dd636185937e958003e315493bb393 ++
    Der.bigEndian 32 0x89d0a29a3016705e15fc4d58c89ea35404a8cc92590405682ff06ca436360b95)

-- `id-ecPublicKey` with the curve `prime256v1`.
def algorithm : Bytes :=
  Der.sequence [Der.element 0x06 [0x2a, 0x86, 0x48, 0xce, 0x3d, 0x02, 0x01],
    Der.element 0x06 [0x2a, 0x86, 0x48, 0xce, 0x3d, 0x03, 0x01, 0x07]]

def spki : Bytes :=
  Der.sequence [algorithm, Der.element 0x03 (0x00 :: publicPoint)]

def pkcs8 : Bytes :=
  Der.sequence [Der.integer 0, algorithm, Der.element 0x04 (Der.sequence [Der.integer 1,
    Der.element 0x04 (Der.bigEndian 32 0x8c52a832ca0297409ec36865689ceda2516f1ba3f7fc841d77e90d2ec4be2aed),
    Der.element 0xa1 (Der.element 0x03 (0x00 :: publicPoint))])]

def rawSignature : RawSignature where
  r := 0xbe3311e2447405be8c3ae15cd0feef0f5a831cf8a3fffef46215432a88fb6319
  s := 0x477eb88340ba4ac36bdc56843e8895f9e4cbd7eac529cc72274501223c5efff9
  r_range := by decide
  s_range := by decide

def nodeCrypto : NodeCrypto where
  PrivateKey := Unit
  PublicKey := Unit
  publicKeyOf _ := ()
  exportSpki _ := spki
  createPublicKey bytes := if bytes = spki then some () else none
  createPublicKey_spki _ := if_pos rfl
  exportPkcs8 _ := pkcs8
  createPrivateKey bytes := if bytes = pkcs8 then some () else none
  createPrivateKey_pkcs8 _ := if_pos rfl
  rawSignature _ message :=
    if message = utf8 signature.message then rawSignature
    else ⟨1, 1, by decide, by decide⟩
  verify _ message signed := signed =
    (if message = utf8 signature.message then rawSignature else ⟨1, 1, by decide, by decide⟩ :
      RawSignature).ieeeP1363
  verify_iff _ _ _ := decide_eq_true_iff

end Sample

def GateAccepts (crypto : NodeCrypto) (privateKey : crypto.PrivateKey) (token deviceId : String) : Prop :=
  ∀ signed, signToken crypto token deviceId (generateKeyPair crypto privateKey).privateKey = some signed →
    verifySignature crypto (signedMessage token deviceId) signed.signature
      (generateKeyPair crypto privateKey).publicKey = true

/-- The gate accepts no signature of the simulated client. -/
theorem simulated_client_rejected (crypto : NodeCrypto) (privateKey : crypto.PrivateKey)
    (token deviceId : String) : ¬GateAccepts crypto privateKey token deviceId := by
  intro accepts
  have accepted := accepts _ signToken_returns
  rw [verifySignature_signToken signToken_returns] at accepted
  cases accepted

theorem simulated_client_rejected_phone : ¬∀ (crypto : NodeCrypto) (privateKey : crypto.PrivateKey)
    (token deviceId : String), GateAccepts crypto privateKey token deviceId := by
  intro claim
  have signs := @signToken_returns Sample.nodeCrypto () Sample.token "phone"
  exact Bool.false_ne_true ((verifySignature_signToken signs).symm.trans (claim _ _ _ _ _ signs))

def Genuine (crypto : NodeCrypto) (w : World) : Prop :=
  ∀ signed ∈ w.signatures, verifySignature crypto signed.message signed.signature signed.publicKey = true

theorem simulated_scan_refused {platform : Platform} {w w' : World} {number : Nat} {context : RequestContext}
    {input : SecurityScanInput} {reply : ScanPayloadDTO} {tx : Option Tx} {row : Ticket} {signed : SignedToken}
    (genuine : Genuine crypto w)
    (run : Executes platform (program platform number (.scan context input)) none w (.ok (.scan reply)) tx
      w') (present : w.ticket reply.ticket.id = some row)
    (key : truthy row.devicePublicKey = some (generateKeyPair crypto privateKey).publicKey)
    (signs : signToken crypto input.token input.deviceId (generateKeyPair crypto privateKey).privateKey =
      some signed) (presented : input.signature = signed.signature) :
    reply.verdict = .revoked ∨ reply.verdict = .blocked ∨ ∃ risk, Risky risk reply.verdict reply.message := by
  obtain ⟨payload, w₁, result, t, w₂, first, exits, -, verdict, message, -⟩ := scan_row run present
  rw [verdict, message]
  have unchecked (checked : Checked w₁ input payload row) : False := by
    obtain ⟨publicKey, key', signature⟩ := checked.signed
    rw [key] at key'
    obtain rfl := Option.some.inj key'
    rw [first.signatures, presented] at signature
    have accepted := genuine _ signature
    rw [verifySignature_signToken signs] at accepted
    cases accepted
  cases exits with
  | revoked => exact .inl rfl
  | blocked => exact .inr (.inl rfl)
  | keyless _ _ _ keyless =>
    rw [key] at keyless
    cases keyless
  | directed _ _ checked => exact (unchecked checked).elim
  | ended _ _ _ checked => exact (unchecked checked).elim
  | struck risk _ _ _ _ risky => exact .inr (.inr ⟨risk, risky⟩)
  | accepted _ _ _ _ _ checked => exact (unchecked checked).elim

end TicketService
