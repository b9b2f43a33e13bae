import ConfidentialIoT.TrustedApp.Session

/-!
# `TrustedApp/Handshake.lean` — CMD 4: authenticate the server, then derive the session key

`authenticate_server` and `ta_handshake_complete`. Neither copies its inputs: the server's ECDH
point, the nonce, the identity key and the signature are read from the `params[]` buffers each
time they are needed, so each of those uses is its own `hostRead`.
-/

set_option autoImplicit false

namespace ConfidentialIoT

open Effects

/-! ## `authenticate_server` -/

/-- The bytes `authenticate_server` feeds to SHA-256. -/
def serverIdentityPreimage (nonce serverEcdhPub devicePub : Bytes) : Bytes :=
  serverIdentityLabel ++ (nonce ++ (serverEcdhPub ++ devicePub))

/-- With both points at their length, the hashed bytes determine every field. -/
theorem serverIdentityPreimage_inj {nonce peer devicePub nonce' peer' devicePub' : Bytes}
    (hp : peer.length = peer'.length) (hd : devicePub.length = devicePub'.length)
    (h : serverIdentityPreimage nonce peer devicePub =
      serverIdentityPreimage nonce' peer' devicePub') :
    nonce = nonce' ∧ peer = peer' ∧ devicePub = devicePub' := by
  have h' := List.append_cancel_left h
  obtain ⟨hn, h'⟩ := List.append_inj' h' (by simp [hp, hd])
  exact ⟨hn, List.append_inj h' hp⟩

/-- The labelled transcript digest, over the nonce and the point as they are now. -/
def serverIdentityDigest (nonceLen : Nat) (devicePub : Bytes) : TA Bytes := do
  tee (.allocateOperation .sha256Digest 0)
  let nonce ← hostRead 1 0 nonceLen
  let serverEcdhPub ← hostRead 0 0 ecdhPubkeySize
  tee (.digestDoFinal (serverIdentityPreimage nonce.1 serverEcdhPub.1 devicePub)
    transcriptHashSize)

/-- First use or later use: the pinned key after it was compared with the presented one, or
`none` when nothing is pinned yet (`need_pin`). -/
def pinnedServerKey : TA (Option Bytes) := do
  if ← openObject .serverPubkey then
    let pinned ← tee (.readObjectData .serverPubkey ecdhPubkeySize)
    if pinned.length ≠ ecdhPubkeySize then
      throw .badState
    let presented ← hostRead 2 0 ecdhPubkeySize
    if pinned ≠ presented.1 then
      throw .accessConflict
    return some pinned
  else
    return none

/-- The coordinates of the key to verify under: the pinned one, or the presented one read from
the shared buffer when the key object is populated. -/
def verifyKeyCoords : Option Bytes → TA (Bytes × Bytes)
  | some pinned => return (pinned.slice 1 32, pinned.slice 33 32)
  | none => do
    let x ← hostRead 2 1 32
    let y ← hostRead 2 33 32
    return (x.1, y.1)

/-- Verify the signature over `digest` under the applicable key. -/
def verifyServerSignature (pinned : Option Bytes) (sigLen : Nat) (digest : Bytes) : TA Unit := do
  tee (.allocateTransientObject .ecdsaPublicKey 256)
  let (x, y) ← verifyKeyCoords pinned
  tee (.populateTransientObject .ecdsaPublicKey [x, y])
  tee (.allocateOperation .ecdsaVerify 256)
  tee (.setOperationKey .ecdsaVerify)
  let sig ← hostRead 3 0 sigLen
  (tee (.asymmetricVerifyDigest x y digest sig.1)).failWith .signatureInvalid

/-- Pin the presented key. First write wins; a lost race counts as success. -/
def pinServerKey : TA Unit := do
  let key ← hostRead 2 0 ecdhPubkeySize
  let _ ← createObject .serverPubkey key.1

/-- From the key lookup on: verify first, then pin. -/
def checkServerKey (sigLen : Nat) (digest : Bytes) : TA Unit := do
  let pinned ← pinnedServerKey
  verifyServerSignature pinned sigLen digest
  if pinned.isNone then
    pinServerKey

def authenticateServer (nonceLen sigLen : Nat) (devicePub : Bytes) : TA Unit := do
  if sigLen ≠ serverSigSize then
    throw .badParameters
  let tag ← hostRead 2 0 1
  if tag.1 ≠ [0x04] then
    throw .badFormat
  let digest ← serverIdentityDigest nonceLen devicePub
  checkServerKey sigLen digest

/-! ## `ta_handshake_complete` -/

/-- ECDH with the peer point as it is now, then HKDF salted with the nonce as it is now. -/
def deriveSessionKey (keypair : EcKeyPair) (nonceLen : Nat) : TA Bytes := do
  tee (.allocateTransientObject .genericSecret 256)
  tee (.allocateOperation .ecdhDerive 256)
  tee (.setOperationKey .ecdhDerive)
  let x ← hostRead 0 1 32
  let y ← hostRead 0 33 32
  let shared ← teeAct (.deriveEcdh keypair x.1 y.1)
  let sharedBytes ← tee (.getSecretValue shared 32)
  tee (.allocateTransientObject .hkdfIkm (sharedBytes.length * 8))
  tee (.populateTransientObject .hkdfIkm [sharedBytes])
  tee (.allocateTransientObject .genericSecret (sessionKeySize * 8))
  tee (.allocateOperation .hkdfDerive (sharedBytes.length * 8))
  tee (.setOperationKey .hkdfDerive)
  let salt ← hostRead 1 0 nonceLen
  let okm ← teeAct (.deriveHkdf sharedBytes salt.1 hkdfInfo sessionKeySize)
  tee (.getSecretValue okm sessionKeySize)

/-- The parameter checks of CMD 4, in source order; the keypair check is among them. -/
def handshakeParamsOk (paramTypes : UInt32) (params : Params) :
    Option EcKeyPair → Except TeeError EcKeyPair
  | none =>
    if paramTypes ≠ teeParamTypes .memrefInput .memrefInput .memrefInput .memrefInput then
      .error .badParameters
    else .error .badState
  | some keypair =>
    if paramTypes ≠ teeParamTypes .memrefInput .memrefInput .memrefInput .memrefInput then
      .error .badParameters
    else if (params 0).size ≠ ecdhPubkeySize then .error .badParameters
    else if (params 2).size ≠ ecdhPubkeySize ∨ (params 3).size ≠ serverSigSize then
      .error .badParameters
    else .ok keypair

theorem handshakeParamsOk_eq_ok {paramTypes : UInt32} {params : Params}
    {live : Option EcKeyPair} {keypair : EcKeyPair} :
    handshakeParamsOk paramTypes params live = .ok keypair ↔
      paramTypes = teeParamTypes .memrefInput .memrefInput .memrefInput .memrefInput ∧
      live = some keypair ∧ (params 0).size = ecdhPubkeySize ∧
      (params 2).size = ecdhPubkeySize ∧ (params 3).size = serverSigSize := by
  cases live with
  | none =>
    simp only [handshakeParamsOk]
    split <;> simp
  | some kp =>
    simp only [handshakeParamsOk]
    split_ifs with hp h₀ h₂ <;> simp_all
    tauto

/-- From the reconstruction of the device's point on: everything before `out:`. -/
def handshakeOverKey (keypair : EcKeyPair) (params : Params) : TA Unit := do
  let devicePub ← readPublicPoint keypair
  authenticateServer (params 1).size (params 3).size devicePub
  let key ← deriveSessionKey keypair (params 1).size
  -- the TEE writes the secret over the front of `sess->session_key`
  modify (·.onSess fun sess => { sess with
    sessionKey := key ++ sess.sessionKey.drop key.length
    sessionKeyValid := true
    sendSeq := 0 })

def taHandshakeComplete (paramTypes : UInt32) : TA Unit := do
  let frame ← get
  let keypair ← .ofOutcome (handshakeParamsOk paramTypes frame.params frame.sess.ecdhKeypair)
  let tag ← hostRead 0 0 1
  if tag.1 ≠ [0x04] then
    throw .badFormat
  -- the ephemeral keypair is single-use: consumed either way
  (handshakeOverKey keypair frame.params).cleanup
    (·.onSess fun sess => { sess with ecdhKeypair := none })

/-! ## What the helpers leave alone -/

theorem authenticateServer_keeps (nonceLen sigLen : Nat) (devicePub : Bytes) :
    Keeps (fun _ _ => True) id (authenticateServer nonceLen sigLen devicePub) := by
  intro s tr
  simp [authenticateServer, serverIdentityDigest, checkServerKey, pinnedServerKey,
    verifyServerSignature, pinServerKey, verifyKeyCoords]

theorem deriveSessionKey_keeps (keypair : EcKeyPair) (nonceLen : Nat) :
    Keeps (fun _ _ => True) id (deriveSessionKey keypair nonceLen) := by
  intro s tr
  simp [deriveSessionKey]

end ConfidentialIoT
