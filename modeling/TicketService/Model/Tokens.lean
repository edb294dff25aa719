import TicketService.Model.Dev

set_option autoImplicit false

namespace TicketService

-- What `SignJWT` signs; `iat` and `exp` are in seconds.
structure Claims extends QrPayload where
  iat : Nat
  exp : Nat
deriving DecidableEq, Repr

-- HMAC hashes a key that is longer than a block of SHA-256 and fills up a shorter one with zeros.
def hmacBlock (sha256 : Bytes → Bytes) (key : Bytes) : Bytes :=
  let short := if 64 < key.length then sha256 key else key
  short ++ List.replicate (64 - short.length) 0

/-- HS256 signatures and direct encryption with A256GCM. A signature verifies under the keys that have the
same block as the one that made it, and a ciphertext is decrypted by the key that made it, and by no
other. -/
structure Jose where
  Jws : Type
  Jwe : Type
  sha256 : Bytes → Bytes
  -- `kid` is that of the protected header.
  signJwt : String → Claims → Bytes → Jws
  decodeProtectedHeader : Jws → Option String
  decodeProtectedHeader_signJwt : ∀ kid claims key,
    decodeProtectedHeader (signJwt kid claims key) = some kid
  -- `now` is in seconds; a token has expired when `exp` has come.
  jwtVerify : Jws → Bytes → Nat → Option Claims
  jwtVerify_iff : ∀ jws key now claims, jwtVerify jws key now = some claims ↔
    (∃ kid, jws = signJwt kid claims key) ∧ now < claims.exp
  signJwt_eq_iff : ∀ kid claims key kid' claims' key',
    signJwt kid claims key = signJwt kid' claims' key' ↔
      kid = kid' ∧ claims = claims' ∧ hmacBlock sha256 key = hmacBlock sha256 key'
  -- The number stands for the initialization vector.
  compactEncrypt : Nat → Jws → Bytes → Jwe
  compactDecrypt : Jwe → Bytes → Option Jws
  compactDecrypt_iff : ∀ jwe key jws, compactDecrypt jwe key = some jws ↔
    ∃ iv, jwe = compactEncrypt iv jws key
  compactEncrypt_injective : ∀ iv jws key iv' jws' key',
    compactEncrypt iv jws key = compactEncrypt iv' jws' key' → jws = jws' ∧ key = key'

inductive JsonValue where
  | string (value : String)
  | object (entries : List (String × JsonValue))
  | other

structure TokenEnv where
  QR_JWE_KEY : String
  QR_JWS_KEYS : String
  QR_ACTIVE_KID : String
  -- `JSON.parse`; `none` if it throws. The names of the entries of an object are distinct.
  parse : String → Option JsonValue

namespace TokenService

structure Keys where
  encKey : Bytes
  signKeys : List (String × Bytes)
  activeKid : String
  encKey_length : encKey.length = 32
  signKeys_length : ∀ entry ∈ signKeys, 32 ≤ entry.2.length
  active : (signKeys.lookup activeKid).isSome

def parseKey (value : String) : Bytes :=
  Base64.decode value

-- `isStringRecord`
def stringRecord : JsonValue → Option (List (String × String))
  | .object entries => entries.mapM fun
    | (kid, .string value) => some (kid, value)
    | _ => none
  | _ => none

def readKeys : List (String × String) →
    Except String { keys : List (String × Bytes) // ∀ entry ∈ keys, 32 ≤ entry.2.length }
  | [] => .ok ⟨[], fun _ member => absurd member List.not_mem_nil⟩
  | (kid, val) :: rest =>
    if long : 32 ≤ (parseKey val).length then
      match readKeys rest with
      | .ok keys => .ok ⟨(kid, parseKey val) :: keys.val, List.forall_mem_cons.mpr ⟨long, keys.property⟩⟩
      | .error message => .error message
    else .error ("Key " ++ kid ++ " too short")

def construct (env : TokenEnv) : Except String Keys :=
  if env.QR_JWE_KEY = "" then .error "QR_JWE_KEY not configured"
  else if length : (parseKey env.QR_JWE_KEY).length = 32 then
    if env.QR_JWS_KEYS = "" then .error "QR_JWS_KEYS not configured"
    else
      match (env.parse env.QR_JWS_KEYS).bind stringRecord with
      | none => .error "QR_JWS_KEYS must be valid JSON"
      | some parsed =>
        match readKeys parsed with
        | .error message => .error message
        | .ok keys =>
          -- `QR_ACTIVE_KID ?? 'v1'`; the variable is a string.
          if active : (keys.val.lookup env.QR_ACTIVE_KID).isSome then
            .ok
              { encKey := parseKey env.QR_JWE_KEY
                signKeys := keys.val
                activeKid := env.QR_ACTIVE_KID
                encKey_length := length
                signKeys_length := keys.property
                active := active }
          else .error ("Active KID " ++ env.QR_ACTIVE_KID ++ " not found")
  else .error "QR_JWE_KEY must be 32 bytes (base64)"

variable (jose : Jose)

def Keys.activeKey (keys : Keys) : Bytes :=
  (keys.signKeys.lookup keys.activeKid).get keys.active

def enriched (keys : Keys) (payload : QrPayload) (ts : Time) : QrPayload :=
  { payload with ts, kid := some keys.activeKid }

-- `Date.now()`, `setIssuedAt` and `setExpirationTime` read the clock one after another.
def generateUnder (keys : Keys) (payload : QrPayload) (ts issuedAt expiresFrom : Time) (iv : Nat) :
    jose.Jwe :=
  let claims : Claims :=
    { enriched keys payload ts with iat := issuedAt / 1000, exp := expiresFrom / 1000 + 60 }
  jose.compactEncrypt iv (jose.signJwt keys.activeKid claims keys.activeKey) keys.encKey

-- Whatever throws is caught.
def verifyUnder (keys : Keys) (token : jose.Jwe) (now : Time) : Except Exn QrPayload :=
  match jose.compactDecrypt token keys.encKey with
  | none => .error .ticketTokenInvalid
  | some jws =>
    match truthy (jose.decodeProtectedHeader jws) with
    | none => .error .ticketTokenInvalid
    | some kid =>
      match keys.signKeys.lookup kid with
      | none => .error .ticketTokenInvalid
      | some key =>
        match jose.jwtVerify jws key (now / 1000) with
        | none => .error .ticketTokenInvalid
        | some claims => .ok claims.toQrPayload

end TokenService

end TicketService
