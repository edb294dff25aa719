import TicketService.Properties.SimulatedClient
import TicketService.Shared.Segments

set_option autoImplicit false

namespace TicketService

open DevService Interleaving Relational VerifyService

-- `jose.compactDecrypt` throws unless `split('.')` gives five segments.
def Compact (token : List UInt16) : Prop :=
  (token.splitOn fullStop).length = 5

instance (token : List UInt16) : Decidable (Compact token) :=
  inferInstanceAs (Decidable (_ = 5))

section Bytes

variable {text text' token token' deviceId deviceId' : List UInt16}

theorem toList_loop (bytes : ByteArray) (i : Nat) (read : Bytes) :
    ByteArray.toList.loop bytes i read = read.reverse ++ bytes.data.toList.drop i := by
  fun_induction ByteArray.toList.loop bytes i read with
  | case1 i read within ih =>
    have there : i < bytes.data.toList.length := within
    have byte : bytes.get! i = bytes.data.toList[i] := by
      have value := getElem!_pos bytes.data i within
      simpa [ByteArray.get!] using value
    rw [ih, List.drop_eq_getElem_cons there]
    simp [byte]
  | case2 i read beyond =>
    have ended : bytes.data.toList.length ≤ i := by simpa using beyond
    simp [List.drop_eq_nil_of_le ended]

theorem utf8_inj {text text' : String} (same : utf8 text = utf8 text') : text = text' := by
  have read (bytes : ByteArray) : bytes.toList = bytes.data.toList :=
    toList_loop bytes 0 []
  unfold utf8 at same
  rw [read, read] at same
  exact String.toByteArray_inj.mp (ByteArray.ext (Array.toList_inj.mp same))

theorem bufferFrom_eq_iff : bufferFrom text = bufferFrom text' ↔ Utf16.decode text = Utf16.decode text' := by
  constructor
  · intro same
    exact String.ofList_inj.mp (utf8_inj same)
  · intro same
    simp only [bufferFrom, same]

theorem bufferFrom_inj (formed : Utf16.WellFormed text) (formed' : Utf16.WellFormed text')
    (same : bufferFrom text = bufferFrom text') : text = text' :=
  formed.decode_inj formed' (bufferFrom_eq_iff.mp same)

theorem decode_signedMessageOf : Utf16.decode (signedMessageOf token deviceId) =
    Utf16.decode token ++ Utf16.single fullStop :: Utf16.decode deviceId :=
  Utf16.decode_append (by decide)

theorem bufferFrom_signedMessageOf (compact : Compact token) (compact' : Compact token')
    (same : bufferFrom (signedMessageOf token deviceId) = bufferFrom (signedMessageOf token' deviceId')) :
    bufferFrom token = bufferFrom token' ∧ bufferFrom deviceId = bufferFrom deviceId' := by
  have joined := bufferFrom_eq_iff.mp same
  rw [decode_signedMessageOf, decode_signedMessageOf] at joined
  have counts : (Utf16.decode token).count (Utf16.single fullStop) =
      (Utf16.decode token').count (Utf16.single fullStop) := by
    rw [Utf16.count_decode (by decide) (by decide), Utf16.count_decode (by decide) (by decide)]
    have segments := compact.trans compact'.symm
    rw [Segments.length_splitOn, Segments.length_splitOn] at segments
    exact Nat.succ.inj segments
  obtain ⟨tokens, deviceIds⟩ := Segments.append_cons_inj counts joined
  exact ⟨bufferFrom_eq_iff.mpr tokens, bufferFrom_eq_iff.mpr deviceIds⟩

end Bytes

section Signatures

variable {crypto : NodeCrypto} {privateKey : crypto.PrivateKey} {publicKey signature : String}
  {token token' deviceId deviceId' : List UInt16}

-- The bytes of this message are the only ones that have the signature under the key.
def MadeFor (crypto : NodeCrypto) (privateKey : crypto.PrivateKey) (signature : String)
    (token deviceId : List UInt16) : Prop :=
  ∀ bytes, Base64.decode signature = (crypto.rawSignature privateKey bytes).ieeeP1363 →
    bytes = bufferFrom (signedMessageOf token deviceId)

def Registers (crypto : NodeCrypto) (privateKey : crypto.PrivateKey) (publicKey : String) : Prop :=
  crypto.createPublicKey (Base64.decode publicKey) = some (crypto.publicKeyOf privateKey)

theorem verifySignatureOf_iff (registers : Registers crypto privateKey publicKey) (text : List UInt16) :
    verifySignatureOf crypto text signature publicKey = true ↔
      Base64.decode signature = (crypto.rawSignature privateKey (bufferFrom text)).ieeeP1363 := by
  unfold Registers at registers
  simp only [verifySignatureOf, registers]
  exact crypto.verify_iff privateKey (bufferFrom text) (Base64.decode signature)

theorem MadeFor.accepted (made : MadeFor crypto privateKey signature token deviceId)
    (registers : Registers crypto privateKey publicKey) (compact : Compact token)
    (compact' : Compact token')
    (accepted : verifySignatureOf crypto (signedMessageOf token' deviceId') signature publicKey = true) :
    bufferFrom token' = bufferFrom token ∧ bufferFrom deviceId' = bufferFrom deviceId :=
  bufferFrom_signedMessageOf compact' compact (made _ ((verifySignatureOf_iff registers _).mp accepted))

-- The strings of the model are those without lone surrogates.
theorem verifySignatureOf_encode (message : String) :
    verifySignatureOf crypto (Utf16.encode message.toList) signature publicKey =
      verifySignature crypto message signature publicKey := by
  simp only [verifySignatureOf, verifySignature, bufferFrom, Utf16.decode_encode, String.ofList_toList]

theorem encode_signedMessage (token deviceId : String) :
    Utf16.encode (signedMessage token deviceId).toList =
      signedMessageOf (Utf16.encode token.toList) (Utf16.encode deviceId.toList) := by
  simp [signedMessage, Utf16.encode, signedMessageOf]
  rfl

theorem accepted_scan_pair {platform : Platform} {w w' : World} {number : Nat} {context : RequestContext}
    {input : SecurityScanInput} {reply : ScanPayloadDTO} {tx : Option Tx} {row : Ticket}
    {token deviceId : String} (genuine : Genuine crypto w)
    (minted : ∀ m ∈ w.minted, Compact (Utf16.encode m.token.toList))
    (compact : Compact (Utf16.encode token.toList))
    (run : Executes platform (program platform number (.scan context input)) none w (.ok (.scan reply)) tx
      w') (present : w.ticket reply.ticket.id = some row) (ok : reply.verdict = .ok)
    (key : truthy row.devicePublicKey = some publicKey) (registers : Registers crypto privateKey publicKey)
    (made : MadeFor crypto privateKey input.signature (Utf16.encode token.toList)
      (Utf16.encode deviceId.toList)) : input.token = token ∧ input.deviceId = deviceId := by
  obtain ⟨payload, at_, rotatedAt, updatedAt, verified, checked, -⟩ := scan_accepted run present ok
  have presented : Compact (Utf16.encode input.token.toList) := by
    obtain ⟨m, mints, -⟩ := Option.bind_eq_some_iff.mp verified
    have same := List.find?_some mints
    exact of_decide_eq_true same ▸ minted m (List.mem_of_find?_eq_some mints)
  obtain ⟨publicKey', key', signed⟩ := checked.signed
  rw [key] at key'
  obtain rfl := Option.some.inj key'
  have accepted := genuine _ signed
  rw [← verifySignatureOf_encode, encode_signedMessage] at accepted
  obtain ⟨tokens, deviceIds⟩ := made.accepted registers compact presented accepted
  have decoded {text text' : String}
      (same : bufferFrom (Utf16.encode text.toList) = bufferFrom (Utf16.encode text'.toList)) :
      text = text' := by
    have chars := bufferFrom_eq_iff.mp same
    rw [Utf16.decode_encode, Utf16.decode_encode] at chars
    exact String.toList_inj.mp chars
  exact ⟨decoded tokens, decoded deviceIds⟩

end Signatures

namespace Sample

theorem one_range : 0 < 1 ∧ 1 < p256Order := by decide

def plainSignature : RawSignature := ⟨1, 1, one_range, one_range⟩

-- The key has signed these bytes; other bytes have some other signature.
def signing (signed : Bytes) : NodeCrypto :=
  { nodeCrypto with
    rawSignature := fun _ bytes => if bytes = signed then rawSignature else plainSignature
    verify := fun _ bytes signature =>
      signature = (if bytes = signed then rawSignature else plainSignature).ieeeP1363
    verify_iff := fun _ _ _ => decide_eq_true_iff }

def jwe : List UInt16 := Utf16.encode token.toList

def ecdsa : String := Base64.encode rawSignature.ieeeP1363

theorem rawSignature_ne :
    rawSignature.ieeeP1363 ≠ plainSignature.ieeeP1363 := by
  decide +kernel

theorem made_signing (token deviceId : List UInt16) :
    MadeFor (signing (bufferFrom (signedMessageOf token deviceId))) () ecdsa token deviceId := by
  intro bytes signed
  rw [ecdsa, Base64.decode_encode] at signed
  by_contra other
  have plain := signed.trans (congrArg RawSignature.ieeeP1363 (if_neg other))
  exact rawSignature_ne plain

theorem registers_signing (signed : Bytes) : Registers (signing signed) () (Base64.encode spki) := by
  unfold Registers
  rw [Base64.decode_encode]
  exact (signing signed).createPublicKey_spki ()

theorem accepts_signing {token deviceId token' deviceId' : List UInt16}
    (same : bufferFrom (signedMessageOf token' deviceId') = bufferFrom (signedMessageOf token deviceId)) :
    verifySignatureOf (signing (bufferFrom (signedMessageOf token deviceId)))
      (signedMessageOf token' deviceId') ecdsa (Base64.encode spki) = true := by
  rw [verifySignatureOf_iff (registers_signing _), ecdsa, Base64.decode_encode, same]
  exact (congrArg RawSignature.ieeeP1363 (if_pos rfl)).symm

end Sample

namespace Sample

def phoneUnits : List UInt16 := Utf16.encode "phone".toList

def phoneSigner : NodeCrypto := signing (bufferFrom (signedMessageOf jwe phoneUnits))

end Sample

example : signedMessage "a" "b.c" = signedMessage "a.b" "c" := by decide

end TicketService
