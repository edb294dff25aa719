import TicketService.Model.Tokens

set_option autoImplicit false

namespace TicketService

namespace TokenService

section Construction

variable {env : TokenEnv} {entries : List (String × String)}

theorem readKeys_val {keys : { keys : List (String × Bytes) // ∀ entry ∈ keys, 32 ≤ entry.2.length }}
    (read : readKeys entries = .ok keys) :
    keys.val = entries.map fun entry => (entry.1, parseKey entry.2) := by
  induction entries generalizing keys with
  | nil =>
    cases read
    rfl
  | cons entry rest ih =>
    unfold readKeys at read
    split at read
    next long =>
      cases others : readKeys rest with
      | error message =>
        rw [others] at read
        cases read
      | ok keys' =>
        rw [others] at read
        cases read
        rw [List.map_cons, ← ih others]
    next => cases read

theorem readKeys_returns (long : ∀ entry ∈ entries, 32 ≤ (parseKey entry.2).length) :
    ∃ keys, readKeys entries = .ok keys := by
  induction entries with
  | nil => exact ⟨_, rfl⟩
  | cons entry rest ih =>
    obtain ⟨keys, others⟩ := ih fun other member => long other (List.mem_cons_of_mem _ member)
    unfold readKeys
    rw [dif_pos (long entry List.mem_cons_self), others]
    exact ⟨_, rfl⟩

theorem construct_ok_iff {keys : Keys} : construct env = .ok keys ↔
    keys.encKey = parseKey env.QR_JWE_KEY ∧ env.QR_JWS_KEYS ≠ "" ∧ keys.activeKid = env.QR_ACTIVE_KID ∧
      ∃ entries, (env.parse env.QR_JWS_KEYS).bind stringRecord = some entries ∧
        keys.signKeys = entries.map fun entry => (entry.1, parseKey entry.2) := by
  constructor
  · intro constructed
    unfold construct at constructed
    split at constructed
    · cases constructed
    split at constructed
    next length =>
      split at constructed
      · cases constructed
      next configured =>
      split at constructed
      · cases constructed
      next entries parsed =>
      split at constructed
      · cases constructed
      next read found =>
      split at constructed
      next active =>
        cases constructed
        exact ⟨rfl, configured, rfl, entries, parsed, readKeys_val found⟩
      next => cases constructed
    next => cases constructed
  · rintro ⟨encKey, configured, activeKid, entries, parsed, signKeys⟩
    have length : (parseKey env.QR_JWE_KEY).length = 32 := encKey ▸ keys.encKey_length
    have nonempty : env.QR_JWE_KEY ≠ "" := by
      intro empty
      rw [empty] at length
      exact absurd length (by decide)
    have long : ∀ entry ∈ entries, 32 ≤ (parseKey entry.2).length := by
      intro entry member
      refine keys.signKeys_length (entry.1, parseKey entry.2) ?_
      rw [signKeys]
      exact List.mem_map_of_mem member
    obtain ⟨read, found⟩ := readKeys_returns long
    have same : read.val = keys.signKeys := (readKeys_val found).trans signKeys.symm
    have active : (read.val.lookup env.QR_ACTIVE_KID).isSome := by
      rw [same, ← activeKid]
      exact keys.active
    unfold construct
    rw [if_neg nonempty, dif_pos length, if_neg configured]
    simp only [parsed, found, ← encKey, same, ← activeKid]
    rw [dif_pos keys.active]

end Construction

section Tokens

variable {jose : Jose} {keys issuer verifier : Keys} {token : jose.Jwe} {now : Time}

theorem verifyUnder_ok_iff {payload : QrPayload} :
    verifyUnder jose keys token now = .ok payload ↔
      ∃ iv kid key claims, token = jose.compactEncrypt iv (jose.signJwt kid claims key) keys.encKey ∧
        kid ≠ "" ∧ keys.signKeys.lookup kid = some key ∧ now / 1000 < claims.exp ∧
        payload = claims.toQrPayload := by
  constructor
  · intro accepted
    unfold verifyUnder at accepted
    split at accepted
    · cases accepted
    next jws decrypted =>
    split at accepted
    · cases accepted
    next kid header =>
    split at accepted
    · cases accepted
    next key held =>
    split at accepted
    · cases accepted
    next claims verified =>
    cases accepted
    obtain ⟨iv, rfl⟩ := (jose.compactDecrypt_iff _ _ _).mp decrypted
    obtain ⟨⟨kid', rfl⟩, fresh⟩ := (jose.jwtVerify_iff _ _ _ _).mp verified
    obtain ⟨named, nonempty⟩ := Option.filter_eq_some_iff.mp header
    rw [jose.decodeProtectedHeader_signJwt] at named
    cases named
    exact ⟨iv, kid, key, claims, rfl, by simpa using nonempty, held, fresh, rfl⟩
  · rintro ⟨iv, kid, key, claims, rfl, nonempty, held, fresh, rfl⟩
    have decrypted : jose.compactDecrypt (jose.compactEncrypt iv (jose.signJwt kid claims key) keys.encKey)
        keys.encKey = some (jose.signJwt kid claims key) :=
      (jose.compactDecrypt_iff _ _ _).mpr ⟨iv, rfl⟩
    have named : truthy (jose.decodeProtectedHeader (jose.signJwt kid claims key)) = some kid := by
      rw [jose.decodeProtectedHeader_signJwt]
      exact Option.filter_some_pos (by simpa using nonempty)
    have verified : jose.jwtVerify (jose.signJwt kid claims key) key (now / 1000) = some claims :=
      (jose.jwtVerify_iff _ _ _ _).mpr ⟨⟨kid, rfl⟩, fresh⟩
    simp only [verifyUnder, decrypted, named, held, verified]

-- The key that `issuer` signs with is known under its kid, up to the zeros that HMAC adds.
def Knows (jose : Jose) (issuer verifier : Keys) : Prop :=
  ∃ key, verifier.signKeys.lookup issuer.activeKid = some key ∧
    hmacBlock jose.sha256 key = hmacBlock jose.sha256 issuer.activeKey

/-- The keys with which a token of `issuer` is accepted. -/
structure SharesKeys (jose : Jose) (issuer verifier : Keys) : Prop where
  encKey : issuer.encKey = verifier.encKey
  kid : issuer.activeKid ≠ ""
  signKey : Knows jose issuer verifier

theorem verifyUnder_generateUnder {payload : QrPayload} {ts issuedAt expiresFrom : Time} {iv : Nat} :
    verifyUnder jose verifier (generateUnder jose issuer payload ts issuedAt expiresFrom iv) now =
        .ok (enriched issuer payload ts) ↔
      SharesKeys jose issuer verifier ∧ now / 1000 < expiresFrom / 1000 + 60 := by
  rw [verifyUnder_ok_iff]
  constructor
  · rintro ⟨iv', kid, key, claims, same, nonempty, held, fresh, -⟩
    obtain ⟨signed, encKey⟩ := jose.compactEncrypt_injective _ _ _ _ _ _ same
    obtain ⟨rfl, rfl, block⟩ := (jose.signJwt_eq_iff _ _ _ _ _ _).mp signed
    exact ⟨⟨encKey, nonempty, key, held, block.symm⟩, fresh⟩
  · rintro ⟨accepts, fresh⟩
    let claims : Claims :=
      { enriched issuer payload ts with iat := issuedAt / 1000, exp := expiresFrom / 1000 + 60 }
    obtain ⟨key, held, block⟩ := accepts.signKey
    have signed : jose.signJwt issuer.activeKid claims issuer.activeKey =
        jose.signJwt issuer.activeKid claims key :=
      (jose.signJwt_eq_iff _ _ _ _ _ _).mpr ⟨rfl, rfl, block.symm⟩
    refine ⟨iv, issuer.activeKid, key, claims, ?_, accepts.kid, held, fresh, rfl⟩
    rw [generateUnder, accepts.encKey, ← signed]

/-- Every token is accepted by every instance until it expires. Which instances run may change at any
time; `running` says which keys they have. -/
def LosesNoToken (jose : Jose) (running : Time → Keys → Prop) : Prop :=
  ∀ made read issuer verifier, running made issuer → running read verifier → made ≤ read →
    read / 1000 < made / 1000 + 60 →
    ∀ payload ts issuedAt iv, verifyUnder jose verifier
      (generateUnder jose issuer payload ts issuedAt made iv) read = .ok (enriched issuer payload ts)

/-- How keys may be rotated: the encryption key never changes, and a key that signs is known to every
instance that runs within its last minute. -/
structure Rotates (jose : Jose) (running : Time → Keys → Prop) : Prop where
  encKey : ∀ time time' keys keys', running time keys → running time' keys' → keys.encKey = keys'.encKey
  kid : ∀ time keys, running time keys → keys.activeKid ≠ ""
  signKey : ∀ made read issuer verifier, running made issuer → running read verifier → made ≤ read →
    read / 1000 < made / 1000 + 60 → Knows jose issuer verifier

section Rotation

variable {running : Time → Keys → Prop}

theorem LosesNoToken.shares (lossless : LosesNoToken jose running) {made read : Time}
    (issued : running made issuer) (reads : running read verifier) (ordered : made ≤ read)
    (fresh : read / 1000 < made / 1000 + 60) : SharesKeys jose issuer verifier := by
  have payload : QrPayload := ⟨⟨0, 0⟩, ⟨0, 0⟩, ⟨0, 0⟩, ⟨0, 0⟩, 0, 0, none, none⟩
  exact (verifyUnder_generateUnder.mp
    (lossless made read issuer verifier issued reads ordered fresh payload 0 0 0)).1

theorem fresh_at_once (time : Nat) : time / 1000 < time / 1000 + 60 := by omega

theorem fresh_next (time : Nat) : (time + 1) / 1000 < time / 1000 + 60 := by omega

theorem LosesNoToken.encKey_eq (lossless : LosesNoToken jose running)
    (live : ∀ time, ∃ keys, running time keys) {time : Time} (later : Nat) {keys keys' : Keys}
    (first : running time keys) (last : running (time + later) keys') : keys.encKey = keys'.encKey := by
  induction later generalizing keys' with
  | zero => exact (lossless.shares first last (Nat.le_refl _) (fresh_at_once _)).encKey
  | succ later ih =>
    obtain ⟨between, runs⟩ := live (time + later)
    have before := ih runs
    have after := (lossless.shares runs last (Nat.le_succ _) (fresh_next _)).encKey
    exact before.trans after

/-- No token is lost if and only if the keys are rotated so. -/
theorem rotation_loses_no_token_iff (live : ∀ time, ∃ keys, running time keys) :
    LosesNoToken jose running ↔ Rotates jose running := by
  constructor
  · intro lossless
    constructor
    · intro time time' keys keys' first last
      rcases Nat.le_total time time' with ordered | ordered
      · obtain ⟨later, rfl⟩ := Nat.exists_eq_add_of_le ordered
        exact lossless.encKey_eq live later first last
      · obtain ⟨later, rfl⟩ := Nat.exists_eq_add_of_le ordered
        exact (lossless.encKey_eq live later last first).symm
    · intro time keys runs
      exact (lossless.shares runs runs (Nat.le_refl _) (fresh_at_once _)).kid
    · intro made read issuer verifier issued reads ordered fresh
      exact (lossless.shares issued reads ordered fresh).signKey
  · intro rotates made read issuer verifier issued reads ordered fresh payload ts issuedAt iv
    refine verifyUnder_generateUnder.mpr ⟨⟨?_, ?_, ?_⟩, fresh⟩
    · exact rotates.encKey made read issuer verifier issued reads
    · exact rotates.kid made issuer issued
    · exact rotates.signKey made read issuer verifier issued reads ordered fresh

end Rotation

end Tokens

namespace Sample

-- Signatures and ciphertexts as the data that they are made from. No key is long enough to be hashed.
def idealJose : Jose where
  Jws := String × Claims × Bytes
  Jwe := Nat × (String × Claims × Bytes) × Bytes
  sha256 := List.take 32
  signJwt kid claims key := (kid, claims, hmacBlock (List.take 32) key)
  decodeProtectedHeader jws := some jws.1
  decodeProtectedHeader_signJwt _ _ _ := rfl
  jwtVerify jws key now :=
    if jws.2.2 = hmacBlock (List.take 32) key ∧ now < jws.2.1.exp then some jws.2.1 else none
  jwtVerify_iff := by
    rintro ⟨kid, claims, block⟩ key now claims'
    simp only [Option.ite_none_right_eq_some, Option.some.injEq, Prod.mk.injEq]
    constructor
    · rintro ⟨⟨rfl, fresh⟩, rfl⟩
      exact ⟨⟨kid, rfl, rfl, rfl⟩, fresh⟩
    · rintro ⟨⟨kid', rfl, rfl, rfl⟩, fresh⟩
      exact ⟨⟨rfl, fresh⟩, rfl⟩
  signJwt_eq_iff := by simp
  compactEncrypt iv jws key := (iv, jws, key)
  compactDecrypt jwe key := if jwe.2.2 = key then some jwe.2.1 else none
  compactDecrypt_iff := by
    rintro ⟨iv, jws, key⟩ key' jws'
    simp only [Option.ite_none_right_eq_some, Option.some.injEq, Prod.mk.injEq]
    constructor
    · rintro ⟨rfl, rfl⟩
      exact ⟨iv, rfl, rfl, rfl⟩
    · rintro ⟨iv', rfl, rfl, rfl⟩
      exact ⟨rfl, rfl⟩
  compactEncrypt_injective := by
    rintro iv jws key iv' jws' key' same
    cases same
    exact ⟨rfl, rfl⟩

def key (octet : UInt8) : Bytes := List.replicate 32 octet

def environment (activeKid : String) : TokenEnv where
  QR_JWE_KEY := Base64.encode (key 0)
  QR_JWS_KEYS := "keys"
  QR_ACTIVE_KID := activeKid
  parse _ := some (.object
    [("v1", .string (Base64.encode (key 1))), ("v2", .string (Base64.encode (key 2)))])

def activeKid (time : Time) : String := if time < 5000 then "v1" else "v2"

-- From five seconds on, the new key signs.
def running (time : Time) (keys : Keys) : Prop :=
  construct (environment (activeKid time)) = .ok keys

theorem running_iff {time : Time} {keys : Keys} : running time keys ↔
    keys.encKey = key 0 ∧ keys.activeKid = activeKid time ∧ keys.signKeys = [("v1", key 1), ("v2", key 2)] := by
  unfold running
  rw [construct_ok_iff]
  have entries : ((environment (activeKid time)).parse (environment (activeKid time)).QR_JWS_KEYS).bind
      stringRecord = some [("v1", Base64.encode (key 1)), ("v2", Base64.encode (key 2))] := rfl
  have configured : (environment (activeKid time)).QR_JWS_KEYS ≠ "" := show "keys" ≠ "" by decide
  have encKey : parseKey (environment (activeKid time)).QR_JWE_KEY = key 0 := Base64.decode_encode _
  have first : parseKey (Base64.encode (key 1)) = key 1 := Base64.decode_encode _
  have second : parseKey (Base64.encode (key 2)) = key 2 := Base64.decode_encode _
  simp only [entries, encKey, Option.some.injEq, exists_eq_left', List.map_cons, List.map_nil, first, second]
  exact ⟨fun ⟨encKey, _, kid, signKeys⟩ => ⟨encKey, kid, signKeys⟩,
    fun ⟨encKey, kid, signKeys⟩ => ⟨encKey, configured, kid, signKeys⟩⟩

theorem rotation_loses_no_token : LosesNoToken idealJose running := by
  have live : ∀ time, ∃ keys, running time keys := by
    intro time
    have active : (List.lookup (activeKid time) [("v1", key 1), ("v2", key 2)]).isSome := by
      unfold activeKid
      split <;> rfl
    let keys : Keys := ⟨key 0, [("v1", key 1), ("v2", key 2)], activeKid time, rfl, by decide, active⟩
    exact ⟨keys, running_iff.mpr ⟨rfl, rfl, rfl⟩⟩
  refine (rotation_loses_no_token_iff live).mpr ⟨?_, ?_, ?_⟩
  · intro time time' keys keys' first last
    exact (running_iff.mp first).1.trans (running_iff.mp last).1.symm
  · intro time keys runs
    rw [(running_iff.mp runs).2.1]
    unfold activeKid
    split <;> decide
  · intro made read issuer verifier issued reads _ _
    refine ⟨issuer.activeKey, ?_, rfl⟩
    rw [(running_iff.mp reads).2.2, ← (running_iff.mp issued).2.2]
    exact (Option.some_get issuer.active).symm

end Sample

end TokenService

end TicketService
