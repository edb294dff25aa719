import TicketService.Model.Scan
import TicketService.Shared.Base64
import TicketService.Shared.Der
import TicketService.Shared.Utf16

set_option autoImplicit false

namespace TicketService

abbrev Bytes := List UInt8

def p256Order : Nat := 0xFFFFFFFF00000000FFFFFFFFFFFFFFFFBCE6FAADA7179E84F3B9CAC2FC632551

structure RawSignature where
  r : Nat
  s : Nat
  r_range : 0 < r ∧ r < p256Order
  s_range : 0 < s ∧ s < p256Order

namespace RawSignature

-- What `sign` emits without a `dsaEncoding`.
def der (signature : RawSignature) : Bytes :=
  Der.sequence [Der.integer signature.r, Der.integer signature.s]

-- What `verify` reads with the `dsaEncoding` `ieee-p1363`.
def ieeeP1363 (signature : RawSignature) : Bytes :=
  Der.bigEndian 32 signature.r ++ Der.bigEndian 32 signature.s

end RawSignature

/-- The keys and signatures of `crypto`. A private key signs a message with one pair of integers, and
`verify` accepts its concatenation and nothing else. -/
structure NodeCrypto where
  PrivateKey : Type
  PublicKey : Type
  publicKeyOf : PrivateKey → PublicKey
  exportSpki : PublicKey → Bytes
  createPublicKey : Bytes → Option PublicKey
  createPublicKey_spki : ∀ key, createPublicKey (exportSpki key) = some key
  exportPkcs8 : PrivateKey → Bytes
  createPrivateKey : Bytes → Option PrivateKey
  createPrivateKey_pkcs8 : ∀ key, createPrivateKey (exportPkcs8 key) = some key
  rawSignature : PrivateKey → Bytes → RawSignature
  verify : PublicKey → Bytes → Bytes → Bool
  verify_iff : ∀ key message signature, verify (publicKeyOf key) message signature = true ↔
    signature = (rawSignature key message).ieeeP1363

def utf8 (text : String) : Bytes :=
  text.toUTF8.toList

-- `Buffer.from(text)` for any string of code units: a surrogate without a partner is written as U+FFFD.
def bufferFrom (text : List UInt16) : Bytes :=
  utf8 (String.ofList (Utf16.decode text))

namespace VerifyService

-- An error of `createPublicKey` or `verify` is caught.
def verifySignature (crypto : NodeCrypto) (payload signatureBase64 publicKeyBase64 : String) : Bool :=
  match crypto.createPublicKey (Base64.decode publicKeyBase64) with
  | none => false
  | some publicKey => crypto.verify publicKey (utf8 payload) (Base64.decode signatureBase64)

def verifySignatureOf (crypto : NodeCrypto) (payload : List UInt16)
    (signatureBase64 publicKeyBase64 : String) : Bool :=
  match crypto.createPublicKey (Base64.decode publicKeyBase64) with
  | none => false
  | some publicKey => crypto.verify publicKey (bufferFrom payload) (Base64.decode signatureBase64)

def fullStop : UInt16 := 0x2E

-- `${tokenStr}.${input.deviceId}`
def signedMessageOf (token deviceId : List UInt16) : List UInt16 :=
  token ++ fullStop :: deviceId

end VerifyService

namespace DevService

structure KeyPair where
  publicKey : String
  privateKey : String
deriving DecidableEq, Repr

structure SignedToken where
  message : String
  signature : String
deriving DecidableEq, Repr

variable (crypto : NodeCrypto)

def generateKeyPair (privateKey : crypto.PrivateKey) : KeyPair where
  publicKey := Base64.encode (crypto.exportSpki (crypto.publicKeyOf privateKey))
  privateKey := Base64.encode (crypto.exportPkcs8 privateKey)

-- `sign` throws if the private key cannot be read.
def signToken (token deviceId privateKeyBase64 : String) : Option SignedToken :=
  let message := token ++ "." ++ deviceId
  (crypto.createPrivateKey (Base64.decode privateKeyBase64)).map fun key =>
    { message, signature := Base64.encode (crypto.rawSignature key (utf8 message)).der }

end DevService

end TicketService
