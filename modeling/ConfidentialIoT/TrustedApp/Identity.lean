import ConfidentialIoT.TrustedApp.Session

/-!
# `TrustedApp/Identity.lean` — the sealed identity and the commands that use it

`read_ta_identity_blob`, `sign_ta_identity`, `ta_generate_ta_identity` (CMD 6) and
`ta_generate_attestation_evidence` (CMD 3).
-/

set_option autoImplicit false

namespace ConfidentialIoT

open Effects

/-! ## The sealed blob -/

abbrev taIdOffD : Nat := 0
abbrev taIdOffX : Nat := taIdOffD + ecScalarSize
abbrev taIdOffY : Nat := taIdOffX + ecScalarSize
abbrev taIdOffIdLen : Nat := taIdOffY + ecScalarSize
abbrev taIdOffId : Nat := taIdOffIdLen + 1

/-- The fields of a blob, by offset. -/
def blobD (blob : Bytes) : Bytes := blob.slice taIdOffD ecScalarSize
def blobX (blob : Bytes) : Bytes := blob.slice taIdOffX ecScalarSize
def blobY (blob : Bytes) : Bytes := blob.slice taIdOffY ecScalarSize
def blobIdLen (blob : Bytes) : Nat := (blob.getD taIdOffIdLen 0).toNat
/-- The sealed `device_id`. -/
def blobDeviceId (blob : Bytes) : Bytes := blob.slice taIdOffId (blobIdLen blob)

/-- `ta_identity_blob_to_sec1` -/
def taIdentityBlobToSec1 (blob : Bytes) : Bytes := 0x04 :: (blobX blob ++ blobY blob)

/-- `read_ta_identity_blob`: load the sealed blob and check its shape. -/
def readTaIdentityBlob : TA Bytes := do
  tee (.openPersistentObject .taIdentity)
  let blob ← tee (.readObjectData .taIdentity taIdentityBlobSize)
  if blob.length ≠ taIdentityBlobSize ∨ blobIdLen blob = 0 ∨ blobIdLen blob > deviceIdMax then
    throw .badState
  return blob

/-- The same for the callers that tell "not provisioned" from a real failure. -/
def sealedTaIdentity : TA (Option Bytes) :=
  Proc.errorAs (do return some (← readTaIdentityBlob)) .itemNotFound none

/-! ## `sign_ta_identity` -/

/-- The bytes `sign_ta_identity` feeds to SHA-256. -/
def taIdentityPreimage (nonce serverEcdhPub devicePub deviceId : Bytes) : Bytes :=
  taIdentityLabel ++ (nonce ++ (serverEcdhPub ++ (devicePub ++ deviceId)))

/-- Sign the labelled, device-bound digest with the sealed identity key. All inputs are
TA-local copies; the signature is the caller's to place. -/
def signTaIdentity (nonce serverEcdhPub devicePub : Bytes) : TA Bytes := do
  let some blob ← sealedTaIdentity | throw .badState
  -- the corruption guard: an all-zero scalar would make the TEE panic
  if (blobD blob).all (· == 0) then
    throw .badState
  tee (.allocateOperation .sha256Digest 0)
  let digest ← tee (.digestDoFinal
    (taIdentityPreimage nonce serverEcdhPub devicePub (blobDeviceId blob)) transcriptHashSize)
  tee (.allocateTransientObject .ecdsaKeypair 256)
  tee (.populateTransientObject .ecdsaKeypair [blobD blob, blobX blob, blobY blob])
  tee (.allocateOperation .ecdsaSign 256)
  tee (.setOperationKey .ecdsaSign)
  let sig ← tee (.asymmetricSignDigest (blobD blob) (blobX blob) (blobY blob) digest taSigSize)
  -- TEE_AsymmetricSignDigest writes straight into the evidence block, i.e. into shared memory
  hostWrite 3 transcriptHashSize sig
  if sig.length ≠ taSigSize then
    throw .badState
  return sig

/-! ## CMD 6: `ta_generate_ta_identity` -/

/-- `blob[IDLEN] != id_len || memcmp(blob + ID, device_id, id_len) != 0` -/
def blobBelongsTo (blob deviceId : Bytes) : Prop :=
  blobIdLen blob = deviceId.length ∧ blob.slice taIdOffId deviceId.length = deviceId

instance (blob deviceId : Bytes) : Decidable (blobBelongsTo blob deviceId) := by
  unfold blobBelongsTo
  infer_instance

/-- Lay out the 160-byte blob: the scalar, the point, the id length, the zero-padded id. -/
def packTaIdentityBlob (d x y deviceId : Bytes) : Bytes :=
  d ++ x ++ y ++ UInt8.ofNat deviceId.length ::
    (deviceId ++ List.replicate (deviceIdMax - deviceId.length) 0)

/-- Export the public half of a blob into `params[1]`. -/
def exportTaIdentity (blob : Bytes) : TA Unit := do
  hostWrite 1 0 (taIdentityBlobToSec1 blob)
  modify (·.setSize 1 ecdhPubkeySize)

/-- Mint a keypair and seal it under `deviceId`; on a lost race, the winner's blob. -/
def mintTaIdentity (deviceId : Bytes) : TA Bytes := do
  tee (.allocateTransientObject .ecdsaKeypair 256)
  let keypair ← tee (.generateKey .ecdsaKeypair 256)
  let d ← readEcCoordinate keypair .privateValue
  let x ← readEcCoordinate keypair .publicValueX
  let y ← readEcCoordinate keypair .publicValueY
  let blob := packTaIdentityBlob d x y deviceId
  if ← createObject .taIdentity blob then
    return blob
  -- raced by a concurrent provisioning call: the winner's key is the real one
  let blob ← readTaIdentityBlob
  if ¬ blobBelongsTo blob deviceId then
    throw .accessConflict
  return blob

def taGenerateTaIdentity (paramTypes : UInt32) : TA Unit := do
  let params := (← get).params
  if paramTypes ≠ teeParamTypes .memrefInput .memrefOutput .none .none then
    throw .badParameters
  let idLen := (params 0).size
  if idLen = 0 ∨ idLen > deviceIdMax then
    throw .badParameters
  if (params 1).size < ecdhPubkeySize then
    throw .shortBuffer
  let deviceId ← hostRead 0 0 idLen
  match ← sealedTaIdentity with
  | some blob =>
    if ¬ blobBelongsTo blob deviceId.1 then
      throw .accessConflict
    exportTaIdentity blob
  | none =>
    let blob ← mintTaIdentity deviceId.1
    exportTaIdentity blob

/-! ## CMD 3: `ta_generate_attestation_evidence` -/

/-- The parameter checks of CMD 3, in source order. -/
def evidenceParamsOk (paramTypes : UInt32) (params : Params) : Except TeeError Unit :=
  if paramTypes ≠ teeParamTypes .memrefOutput .memrefInput .memrefInput .memrefOutput then
    .error .badParameters
  else if (params 0).size < ecdhPubkeySize then .error .shortBuffer
  else if (params 1).size = 0 ∨ (params 1).size > nonceMax then .error .badParameters
  else if (params 2).size ≠ ecdhPubkeySize then .error .badParameters
  else if (params 3).size < evidenceBlockSize then .error .shortBuffer
  else .ok ()

/-- The bytes whose SHA-256 is the quote's qualifying data. -/
def transcript (nonce serverPub devicePub : Bytes) : Bytes := nonce ++ (serverPub ++ devicePub)

/-- From the reconstruction of the public point on: publish it, hash the transcript, sign. -/
def evidenceFor (keypair : EcKeyPair) (nonce serverPub : Bytes) : TA Unit := do
  let devicePub ← readPublicPoint keypair
  hostWrite 0 0 devicePub
  modify (·.setSize 0 ecdhPubkeySize)
  tee (.allocateOperation .sha256Digest 0)
  let hash ← tee (.digestDoFinal (transcript nonce serverPub devicePub) transcriptHashSize)
  hostWrite 3 0 hash
  if hash.length ≠ transcriptHashSize then
    throw .badState
  let _ ← signTaIdentity nonce serverPub devicePub
  modify (·.setSize 3 evidenceBlockSize)

/-- From the key generation on: everything that `goto err_free_keypair` covers. -/
def evidenceOverFreshKey (nonce serverPub : Bytes) : TA Unit := do
  let keypair ← tee (.generateKey .ecdhKeypair 256)
  modify (·.onSess fun sess => { sess with ecdhKeypair := some keypair })
  evidenceFor keypair nonce serverPub

def taGenerateAttestationEvidence (paramTypes : UInt32) : TA Unit := do
  let params := (← get).params
  .ofOutcome (evidenceParamsOk paramTypes params)
  -- TA-local copies: everything hashed below comes from these two reads
  let nonce ← hostRead 1 0 (params 1).size
  let serverPub ← hostRead 2 0 ecdhPubkeySize
  modify (·.onSess fun sess => { sess with ecdhKeypair := none, sessionKeyValid := false })
  tee (.allocateTransientObject .ecdhKeypair 256)
  (evidenceOverFreshKey nonce.1 serverPub.1).onError
    (·.onSess fun sess => { sess with ecdhKeypair := none })

/-! ## What the helpers leave alone -/

theorem evidenceFor_keeps (keypair : EcKeyPair) (nonce serverPub : Bytes) :
    Keeps (fun _ _ => True) Frame.sess (evidenceFor keypair nonce serverPub) := by
  intro s tr
  simp [evidenceFor, readPublicPoint, readEcCoordinate, signTaIdentity, sealedTaIdentity,
    readTaIdentityBlob]

theorem taGenerateTaIdentity_keeps (paramTypes : UInt32) :
    Keeps (fun _ _ => True) Frame.sess (taGenerateTaIdentity paramTypes) := by
  intro s tr
  simp [taGenerateTaIdentity, sealedTaIdentity, readTaIdentityBlob, exportTaIdentity,
    mintTaIdentity, readEcCoordinate]

end ConfidentialIoT
