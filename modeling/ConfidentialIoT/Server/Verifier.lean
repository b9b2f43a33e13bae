import ConfidentialIoT.Server.State
import ConfidentialIoT.TrustedApp.Handshake
import ConfidentialIoT.TrustedApp.Identity

/-!
# `Server/Verifier.lean` — `AttestationVerifier`

`issue_challenge`, `verify_and_derive`, `session_key`, `check_and_advance_seq` and `is_attested`.
The labels and pre-images are the ones of the TA: `attestation.py` says they must be equal byte
for byte, and they are.

`verify_and_derive` is cut where it takes a step: what lies between two steps is pure, and each
piece has one lemma that says what it means that it did not raise.
-/

set_option autoImplicit false

namespace ConfidentialIoT

open Effects

variable {σ : Type}

/-! ## `issue_challenge` -/

/-- What `attest_challenge` carries. -/
structure ChallengeMessage where
  nonce : Text
  serverEcdhPub : Text
  serverIdentityPub : Text
deriving DecidableEq, Repr

def issueChallenge (identity : Point) (deviceId : Text) : Py σ ChallengeMessage := do
  if (← step (.lookup deviceId)).isNone then
    fails (.notRegistered deviceId)
  let nonce ← step (.randomBytes attestNonceLen)
  let (priv, pub) ← step .p256Generate
  let issuedAt ← step .time
  step (.setPending deviceId ⟨nonce.1, priv, pub, issuedAt⟩)
  return ⟨b64e nonce.1, b64e pub, b64e identity.sec1⟩

/-! ## `verify_and_derive` -/

/-- The fields of an `attest_response`, as they come out of the JSON. -/
structure AttestResponse where
  deviceEcdhPub : JsonValue
  quote : JsonValue
  signature : JsonValue
  pcrValues : JsonValue
  taSig : JsonValue

/-- What `attest_response` presents, decoded. -/
structure Presented where
  devicePub : Bytes
  taSig : Bytes
  attest : Attest
  r : Nat
  s : Nat
  /-- `recomputed_pcr_digest` -/
  pcrDigest : Bytes
deriving DecidableEq, Repr

/-- A base64 field; whatever is wrong with it is an `AttestationError`. -/
def decodeField (field : JsonValue) : Raises Bytes :=
  match b64d field with
  | .ok b => .ok b
  | .error exc => .error (.attestation (.malformedBase64 exc))

/-- `recompute_pcr_digest` of a field of the message. -/
def recomputeReported (C : Crypto) : JsonValue → Raises Bytes
  | .str text => recomputePcrDigest C text
  | _ => .error (.std .attributeError)

/-- Decode and parse the response, then check (a): its PCR values hash to the quoted digest. -/
def present (C : Crypto) (response : AttestResponse) : Raises Presented := do
  let devicePub ← decodeField response.deviceEcdhPub
  let quoteRaw ← decodeField response.quote
  let sigRaw ← decodeField response.signature
  let taSig ← decodeField response.taSig
  if devicePub.length ≠ deviceEcdhPubkeyLen then
    throw (.attestation .badEcdhPubLength)
  if taSig.length ≠ taIdentitySigLen then
    throw (.attestation .badTaSigLength)
  let attest ← parseTpmsAttest quoteRaw
  let (r, s) ← parseTpmtSignatureEcdsa sigRaw
  let recomputed ← recomputeReported C response.pcrValues
  if recomputed ≠ attest.pcrDigest then
    throw (.attestation .pcrNotSigned)
  return ⟨devicePub, taSig, attest, r, s, recomputed⟩

/-- The registered AK has to be an EC key. -/
def loadAk (C : CryptoLib) (record : DeviceRecord) : Raises Unit :=
  match C.loadPem record.akPubPem with
  | .invalid => .error (.std .valueError)
  | .notEc => .error (.attestation .akNotEc)
  | .ec => .ok ()

/-- `compute_transcript_hash` -/
def computeTranscriptHash (C : Crypto) (nonce serverPub devicePub : Bytes) : Bytes :=
  C.sha256 (transcript nonce serverPub devicePub)

/-- The registered TA identity key. -/
def loadTaPub (C : CryptoLib) (record : DeviceRecord) : Raises Point :=
  if record.taPubB64 = [] then .error (.attestation .noTaIdentity)
  else
    match (b64d (.str record.taPubB64)).toOption.bind C.fromEncodedPoint with
    | none => .error (.attestation .taKeyUnusable)
    | some q => .ok q

/-- Checks (c) and (d), and the key of check (e). -/
def matchRecord (C : CryptoLib) (record : DeviceRecord) (pending : PendingChallenge)
    (p : Presented) : Raises Point := do
  if p.attest.extraData ≠ computeTranscriptHash C.toCrypto pending.nonce pending.serverPub
      p.devicePub then
    throw (.attestation .transcriptMismatch)
  let expected ← recomputePcrDigest C.toCrypto record.expectedPcr
  if p.pcrDigest ≠ expected then
    throw (.attestation .baselineMismatch)
  loadTaPub C record

/-- `p256_shared`, then `hkdf`. -/
def deviceKey (C : CryptoLib) (pending : PendingChallenge) (devicePub : Bytes) : Raises Bytes :=
  match C.fromEncodedPoint devicePub with
  | none => .error (.std .valueError)
  | some peer =>
    .ok (C.hkdf (C.ecdh pending.serverPriv peer) pending.nonce hkdfInfo aeadKeyLen)

/-- `verify_and_derive`, from the consumed challenge on. -/
def verifyAnswer (C : CryptoLib) (deviceId : Text) (record : DeviceRecord)
    (pending : PendingChallenge) (response : AttestResponse) : Py σ Bytes := do
  let now ← step .time
  if now - pending.issuedAt > attestChallengeTtl then
    fails .challengeExpired
  let p ← raising (present C.toCrypto response)
  raising (loadAk C record)
  if ¬ (← step (.ecVerify (.pem record.akPubPem) p.attest.rawBody p.r p.s)) then
    fails .quoteSignature
  let taPub ← raising (matchRecord C record pending p)
  let preimage := taIdentityPreimage pending.nonce pending.serverPub p.devicePub deviceId.utf8
  if ¬ (← step (.ecVerify (.p256 taPub) preimage
      (Bytes.ofBE (p.taSig.slice 0 32)) (Bytes.ofBE (p.taSig.slice 32 32)))) then
    fails .taIdentity
  let key ← raising (deviceKey C pending p.devicePub)
  let _ ← step (.storeSession deviceId key)
  step (.signServerIdentity
    (serverIdentityPreimage pending.nonce pending.serverPub p.devicePub))

/-- The challenge is gone from here on, however the call ends. -/
def verifyAndDerive (C : CryptoLib) (deviceId : Text) (response : AttestResponse) :
    Py σ Bytes := do
  match ← step (.lookup deviceId) with
  | none => fails (.notRegistered deviceId)
  | some record =>
    match ← step (.popPending deviceId) with
    | none => fails (.noPendingChallenge deviceId)
    | some pending => verifyAnswer C deviceId record pending response

/-! ### The commit

The session is stored before the server's identity signs: up to the store, and with the key file
the server was started with. -/

/-- `verify_and_derive` up to the stored session, and the pre-image that is left to sign. -/
def commitAnswer (C : CryptoLib) (deviceId : Text) (record : DeviceRecord)
    (pending : PendingChallenge) (response : AttestResponse) : Py σ Bytes := do
  let now ← step .time
  if now - pending.issuedAt > attestChallengeTtl then
    fails .challengeExpired
  let p ← raising (present C.toCrypto response)
  raising (loadAk C record)
  if ¬ (← step (.ecVerify (.pem record.akPubPem) p.attest.rawBody p.r p.s)) then
    fails .quoteSignature
  let taPub ← raising (matchRecord C record pending p)
  let preimage := taIdentityPreimage pending.nonce pending.serverPub p.devicePub deviceId.utf8
  if ¬ (← step (.ecVerify (.p256 taPub) preimage
      (Bytes.ofBE (p.taSig.slice 0 32)) (Bytes.ofBE (p.taSig.slice 32 32)))) then
    fails .taIdentity
  let key ← raising (deviceKey C pending p.devicePub)
  let _ ← step (.storeSession deviceId key)
  return serverIdentityPreimage pending.nonce pending.serverPub p.devicePub

def commitSession (C : CryptoLib) (deviceId : Text) (response : AttestResponse) : Py σ Bytes := do
  match ← step (.lookup deviceId) with
  | none => fails (.notRegistered deviceId)
  | some record =>
    match ← step (.popPending deviceId) with
    | none => fails (.noPendingChallenge deviceId)
    | some pending => commitAnswer C deviceId record pending response

/-- What `load_pem_private_key` makes of the identity key's file: an EC key, of whatever curve.
`sign` is `decode_dss_signature(priv.sign(message, ECDSA(SHA256())))`. -/
structure IdentityKey where
  /-- the order of the curve's group -/
  order : Nat
  sign : Bytes → Except StdError (Nat × Nat)
  sign_lt : ∀ message r s, sign message = .ok (r, s) → r < order ∧ s < order

/-- `x.to_bytes(n, "big")` -/
def toBytes (n x : Nat) : Except StdError Bytes :=
  if x < 256 ^ n then .ok (Bytes.toBE n x) else .error .overflowError

def signServerIdentityRaw (key : IdentityKey) (message : Bytes) : Except StdError Bytes := do
  let (r, s) ← key.sign message
  return (← toBytes 32 r) ++ (← toBytes 32 s)

/-- `verify_and_derive` under an identity key of the file's curve. `verifyAndDerive` is the same
under one whose signatures are made and fit, as those of a P-256 key do. -/
def verifyAndDeriveWith (C : CryptoLib) (key : IdentityKey) (deviceId : Text)
    (response : AttestResponse) : Py σ Bytes := do
  let preimage ← commitSession C deviceId response
  raising (.std (signServerIdentityRaw key preimage))

/-! ## Sessions -/

def sessionKey (deviceId : Text) : Py σ (Option Bytes) := do
  return (← step (.sessionKey deviceId)).2

/-- What JSON gave as the sequence number, when it is one; a boolean is not. -/
def seqOf : JsonValue → Option Nat
  | .int n => if n ≤ 0 ∨ n > 0xFFFFFFFF then none else some n.toNat
  | _ => none

def checkAndAdvanceSeq (deviceId : Text) (seq : JsonValue) : Py σ Bool := do
  match seqOf seq with
  | none => return false
  | some n => return (← step (.advanceSeq deviceId n)).2

def isAttested (deviceId : Text) : Py σ Bool := do
  return (← sessionKey deviceId).isSome

/-! ## What the pure pieces mean -/

/-- The call is its commit, and then the signature. -/
theorem verifyAndDerive_eq (C : CryptoLib) (deviceId : Text) (response : AttestResponse) :
    (verifyAndDerive C deviceId response : Py σ Bytes) =
      commitSession C deviceId response >>= fun preimage => step (.signServerIdentity preimage) := by
  unfold verifyAndDerive commitSession
  rw [bind_assoc]
  refine congrArg (step (.lookup deviceId) >>= ·) (funext fun found => ?_)
  cases found with
  | none => rfl
  | some record =>
    simp only [bind_assoc]
    refine congrArg (step (.popPending deviceId) >>= ·) (funext fun popped => ?_)
    cases popped with
    | none => rfl
    | some pending =>
      simp only [verifyAnswer, commitAnswer, bind_assoc]
      refine congrArg (step .time >>= ·) (funext fun now => ?_)
      by_cases hstale : now - pending.issuedAt > attestChallengeTtl
      · simp only [if_pos hstale]
        rfl
      · simp only [if_neg hstale, bind_assoc]
        refine congrArg (raising (present C.toCrypto response) >>= ·) (funext fun p => ?_)
        refine congrArg (raising (loadAk C record) >>= ·) (funext fun _ => ?_)
        refine congrArg (step (.ecVerify (.pem record.akPubPem) p.attest.rawBody p.r p.s) >>= ·)
          (funext fun quoteOk => ?_)
        cases quoteOk with
        | false => rfl
        | true =>
          simp only [not_true_eq_false, if_false, bind_assoc]
          refine congrArg (raising (matchRecord C record pending p) >>= ·) (funext fun taPub => ?_)
          refine congrArg (step (.ecVerify (.p256 taPub) _ _ _) >>= ·) (funext fun taOk => ?_)
          cases taOk with
          | false => rfl
          | true => simp only [not_true_eq_false, if_false, bind_assoc, pure_bind]

theorem decodeField_eq_ok {field : JsonValue} {b : Bytes} :
    decodeField field = .ok b ↔ b64d field = .ok b := by
  unfold decodeField
  cases b64d field with
  | ok a => exact ⟨fun h => congrArg _ (Except.ok.inj h), fun h => congrArg _ (Except.ok.inj h)⟩
  | error e => exact ⟨nofun, nofun⟩

/-- What a response that presented `p` contains. -/
structure Presents (C : Crypto) (response : AttestResponse) (p : Presented) : Prop where
  devicePub : b64d response.deviceEcdhPub = .ok p.devicePub
  quote : ∃ raw, b64d response.quote = .ok raw ∧ parseTpmsAttest raw = .ok p.attest
  signature : ∃ raw, b64d response.signature = .ok raw ∧
    parseTpmtSignatureEcdsa raw = .ok (p.r, p.s)
  taSig : b64d response.taSig = .ok p.taSig
  length_devicePub : p.devicePub.length = deviceEcdhPubkeyLen
  length_taSig : p.taSig.length = taIdentitySigLen
  pcrValues : ∃ text, response.pcrValues = .str text ∧
    recomputePcrDigest C text = .ok p.pcrDigest
  signed : p.pcrDigest = p.attest.pcrDigest

theorem recomputeReported_eq_ok {C : Crypto} {field : JsonValue} {digest : Bytes} :
    recomputeReported C field = .ok digest ↔
      ∃ text, field = .str text ∧ recomputePcrDigest C text = .ok digest := by
  cases field with
  | str text => exact ⟨fun h => ⟨text, rfl, h⟩, fun ⟨_, ht, h⟩ => by cases ht; exact h⟩
  | _ => exact ⟨nofun, fun ⟨_, ht, _⟩ => nomatch ht⟩

theorem present_eq_ok {C : Crypto} {response : AttestResponse} {p : Presented} :
    present C response = .ok p ↔ Presents C response p := by
  unfold present
  simp only [bind_eq_ok, pure_eq_ok, ite_throw_eq_ok, decodeField_eq_ok, not_not, ne_eq]
  constructor
  · intro ⟨devicePub, hpub, quote, hquote, signature, hsignature, taSig, htaSig, hlen, hlen', attest,
      hattest, rs, hrs, digest, hdigest, hsigned, heq⟩
    cases heq
    exact ⟨hpub, ⟨quote, hquote, hattest⟩, ⟨signature, hsignature, hrs⟩, htaSig, hlen, hlen',
      recomputeReported_eq_ok.mp hdigest, hsigned⟩
  · intro h
    obtain ⟨quote, hquote, hattest⟩ := h.quote
    obtain ⟨signature, hsignature, hrs⟩ := h.signature
    exact ⟨p.devicePub, h.devicePub, quote, hquote, signature, hsignature, p.taSig, h.taSig,
      h.length_devicePub, h.length_taSig, p.attest, hattest, (p.r, p.s), hrs, p.pcrDigest,
      recomputeReported_eq_ok.mpr h.pcrValues, h.signed, rfl⟩

/-- What it means that a response matches the record and the challenge: checks (c) and (d), and
`q` is the registered TA identity key. -/
structure Matches (C : CryptoLib) (record : DeviceRecord) (pending : PendingChallenge)
    (p : Presented) (q : Point) : Prop where
  transcript : p.attest.extraData =
    computeTranscriptHash C.toCrypto pending.nonce pending.serverPub p.devicePub
  baseline : recomputePcrDigest C.toCrypto record.expectedPcr = .ok p.pcrDigest
  taPub_ne : record.taPubB64 ≠ []
  taPub : ∃ raw, b64d (.str record.taPubB64) = .ok raw ∧ C.fromEncodedPoint raw = some q

theorem loadTaPub_eq_ok {C : CryptoLib} {record : DeviceRecord} {q : Point} :
    loadTaPub C record = .ok q ↔ record.taPubB64 ≠ [] ∧
      ∃ raw, b64d (.str record.taPubB64) = .ok raw ∧ C.fromEncodedPoint raw = some q := by
  unfold loadTaPub
  by_cases hne : record.taPubB64 = []
  · rw [if_pos hne]
    exact ⟨nofun, fun h => absurd hne h.1⟩
  · rw [if_neg hne]
    cases hraw : b64d (.str record.taPubB64) with
    | error e => simp [Except.toOption]
    | ok raw =>
      cases hq : C.fromEncodedPoint raw with
      | none => simp [Except.toOption, hq]
      | some q' => simp [Except.toOption, hq, hne]

theorem matchRecord_eq_ok {C : CryptoLib} {record : DeviceRecord} {pending : PendingChallenge}
    {p : Presented} {q : Point} :
    matchRecord C record pending p = .ok q ↔ Matches C record pending p q := by
  unfold matchRecord
  simp only [bind_eq_ok, ite_throw_eq_ok, not_not, ne_eq, loadTaPub_eq_ok]
  constructor
  · rintro ⟨htranscript, digest, hdigest, rfl, hne, hpub⟩
    exact ⟨htranscript, hdigest, hne, hpub⟩
  · intro h
    exact ⟨h.transcript, _, h.baseline, rfl, h.taPub_ne, h.taPub⟩

theorem deviceKey_eq_ok {C : CryptoLib} {pending : PendingChallenge} {devicePub key : Bytes} :
    deviceKey C pending devicePub = .ok key ↔ ∃ peer, C.fromEncodedPoint devicePub = some peer ∧
      key = C.hkdf (C.ecdh pending.serverPriv peer) pending.nonce hkdfInfo aeadKeyLen := by
  unfold deviceKey
  cases C.fromEncodedPoint devicePub with
  | none => simp
  | some peer => simp [eq_comm]
end ConfidentialIoT
