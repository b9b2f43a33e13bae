import ConfidentialIoT.Host.Rehearsal
import ConfidentialIoT.Host.SealedMessage
import ConfidentialIoT.Lib.Sure
import ConfidentialIoT.Server.Attestable
import ConfidentialIoT.Server.Commit
import ConfidentialIoT.Server.Exchange
import ConfidentialIoT.TrustedApp.Evidence
import ConfidentialIoT.TrustedApp.Snapshot

/-!
# `Host/Agreement.lean` — a handshake, from the challenge to the two keys

Four programs in two languages take part in a handshake: the TA's commands 3 and 4, the Host between
them, and `verify_and_derive`. Each builds its own pre-images, salts and points. Here the output of
each is the input of the next, and nothing is assumed about a byte but that it is the one that was
handed over: the answer is accepted, the server's signature is accepted, and both sides have the
same key (`handshake_agrees`).
-/

set_option autoImplicit false

namespace ConfidentialIoT

open Effects

/-! ## Points -/

/-- A point's two coordinates, out of its encoding. -/
theorem Point.ofCoords_sec1 (q : Point) :
    Point.ofCoords (q.sec1.slice 1 32) (q.sec1.slice 33 32) = q := by
  have hx : q.sec1.slice 1 32 = Bytes.toBE 32 q.x.toNat :=
    Bytes.slice_eq_part (p := [0x04]) (q := Bytes.toBE 32 q.y.toNat) (by simp [Point.sec1]) rfl (by simp)
  have hy : q.sec1.slice 33 32 = Bytes.toBE 32 q.y.toNat :=
    Bytes.slice_eq_part (p := 0x04 :: Bytes.toBE 32 q.x.toNat) (q := []) (by simp [Point.sec1])
      (by simp) (by simp)
  rw [hx, hy, Point.ofCoords, Bytes.ofBE_toBE (Point.coord_lt _), Bytes.ofBE_toBE (Point.coord_lt _),
    BitVec.ofNat_toNat, BitVec.ofNat_toNat]
  simp

/-- Its first byte. -/
theorem Point.sec1_tag (q : Point) : q.sec1.slice 0 1 = [0x04] :=
  Bytes.slice_eq_part (p := [])
    (q := Bytes.toBE 32 q.x.toNat ++ Bytes.toBE 32 q.y.toNat) (by simp [Point.sec1]) rfl rfl

/-- Two coordinates of 32 bytes, put together. -/
theorem Point.sec1_ofCoords {x y : Bytes} (hx : x.length = 32) (hy : y.length = 32) :
    (Point.ofCoords x y).sec1 = 0x04 :: (x ++ y) := by
  have coord : ∀ b : Bytes, b.length = 32 →
      Bytes.toBE 32 (BitVec.ofNat 256 (Bytes.ofBE b)).toNat = b := by
    intro b hb
    have hlt := Bytes.ofBE_lt b
    rw [hb] at hlt
    rw [BitVec.toNat_ofNat, Nat.mod_eq_of_lt (Nat.lt_of_lt_of_eq hlt (by norm_num))]
    exact Bytes.toBE_ofBE_of_length hb
  rw [Point.sec1, Point.ofCoords, coord x hx, coord y hy]

/-! ## Command 3, and what the Host has of it -/

/-- What `ta_handshake_init` has when the command returns: the point and the evidence block, up to
the sizes that came back. -/
def evidenceAnswer (m : Memory (Fin 4)) (tr : List (Event Tee)) :
    Except TeeError Unit × Frame → Option (Bytes × Bytes)
  | (.ok (), s) => some ((hostMemory m tr).view 0 (s.params 0).size,
      (hostMemory m tr).view 3 (s.params 3).size)
  | (.error _, _) => none

/-- What is written decides what the Host has. -/
theorem hostMemory_essential (m : Memory (Fin 4)) (tr : List (Event Tee)) :
    hostMemory m (essential tr) = hostMemory m tr := by
  induction tr generalizing m with
  | nil => rfl
  | cons ev tr ih =>
    cases hkeep : housekeeping ev with
    | false =>
      rw [essential_cons, hkeep, cond_false, hostMemory_cons, hostMemory_cons, ih]
    | true =>
      rw [essential_cons, hkeep, cond_true, hostMemory_cons, ih]
      cases ev with
      | did a b => cases hkeep
      | ok r b => rfl
      | refused r e => rfl

/-- What a successful command 3 leaves, in sizes. -/
structure EvidenceSizes (tr : List (Event Tee)) (s : Frame) : Prop where
  pub : (s.params 0).size = ecdhPubkeySize
  block : (s.params 3).size = evidenceBlockSize
  hash : ∀ b, .did (.hostWrite 3 0 b) () ∈ tr → b.length = transcriptHashSize
  sig : ∀ b, .did (.hostWrite 3 transcriptHashSize b) () ∈ tr → b.length = taSigSize

section

variable {s : Frame} {tr : List (Event Tee)}

/-- Nothing was published yet. -/
def Unpublished (tr : List (Event Tee)) : Prop := ∀ off b, .did (.hostWrite 3 off b) () ∉ tr

theorem readPublicPoint_unpublished (obj : EcKeyPair) (h : Unpublished tr) :
    wpP (fun _ _ => True) (readPublicPoint obj) (fun tr' s' _ => s' = s ∧ Unpublished tr')
      (fun _ _ _ => True) s tr := by
  apply wpP_use (readPublicPoint_spec obj fun _ _ _ => trivial)
  · rintro tr' s' pub - ⟨rfl, hess, -⟩
    refine ⟨rfl, ?_⟩
    intro off b hmem
    have hessential : .did (.hostWrite 3 off b) () ∈ essential tr' :=
      List.mem_filter.mpr ⟨hmem, rfl⟩
    rw [hess] at hessential
    exact h off b (List.mem_filter.mp hessential).1
  · intro _ _ _ _ _
    trivial

theorem signTaIdentity_sizes (hash nonce serverPub devicePub : Bytes)
    (hhash : ∀ off b, .did (.hostWrite 3 off b) () ∈ tr → off = 0 ∧ b = hash) :
    wpP (fun _ _ => True) (signTaIdentity nonce serverPub devicePub)
      (fun tr' s' _ => s' = s ∧ (∀ b, .did (.hostWrite 3 0 b) () ∈ tr' → b = hash) ∧
        ∀ b, .did (.hostWrite 3 transcriptHashSize b) () ∈ tr' → b.length = taSigSize)
      (fun _ _ _ => True) s tr := by
  have hfirst : ∀ b, .did (.hostWrite 3 0 b) () ∈ tr → b = hash := fun b hmem => (hhash 0 b hmem).2
  have hsecond : ∀ b, .did (.hostWrite 3 32 b) () ∉ tr := by
    intro b hmem
    exact absurd (hhash 32 b hmem).1 (by decide)
  simp [signTaIdentity, sealedTaIdentity, readTaIdentityBlob]
  intros
  refine ⟨hfirst, ?_⟩
  rintro b (hmem | rfl)
  · exact absurd hmem (hsecond b)
  · assumption

theorem evidenceFor_sizes (keypair : EcKeyPair) (nonce serverPub : Bytes) (h : Unpublished tr) :
    wpP (fun _ _ => True) (evidenceFor keypair nonce serverPub)
      (fun tr' s' _ => EvidenceSizes tr' s') (fun _ _ _ => True) s tr := by
  rw [evidenceFor]
  apply wpP_seq (readPublicPoint_unpublished (s := s) keypair h)
  · rintro tr₁ s₁ devicePub - ⟨rfl, hnone⟩
    simp only [wpP_bind, wpP_hostWrite, wpP_modify, wpP_tee, wpP_ite, wpP_throw, implies_true,
      and_true, true_and]
    intro _ _ hash _ hlen
    apply wpP_use (signTaIdentity_sizes hash nonce serverPub devicePub ?_)
    · rintro tr' s' sig - ⟨rfl, hfirst, hsecond⟩
      refine ⟨?_, ?_, ?_, hsecond⟩
      · rfl
      · rfl
      · intro b hmem
        rw [hfirst b hmem]
        exact not_not.mp hlen
    · intro _ _ _ _ _
      trivial
    · intro off b hmem
      simp only [List.append_assoc, List.mem_append, List.mem_singleton] at hmem
      rcases hmem with hmem | hmem | hmem | hmem | hmem
      · exact absurd hmem (hnone off b)
      · cases hmem
      · cases hmem
      · cases hmem
      · cases hmem
        exact ⟨rfl, rfl⟩
  · intro _ _ _ _ _
    trivial

theorem taGenerateAttestationEvidence_sizes (paramTypes : UInt32) (sess : Session) (params : Params) :
    wpP (fun _ _ => True) (taGenerateAttestationEvidence paramTypes)
      (fun tr s _ => EvidenceSizes tr s) (fun _ _ _ => True) ⟨sess, params⟩ [] := by
  simp only [taGenerateAttestationEvidence, evidenceOverFreshKey, wpP_bind, wpP_get, wpP_ofOutcome,
    wpP_hostRead, wpP_modify, wpP_tee, wpP_onError, implies_true, and_true, true_and]
  intro _ _ nonce serverPub _ keypair
  apply wpP_use (evidenceFor_sizes keypair nonce.1 serverPub.1 ?_)
  · intro _ _ _ _ h
    exact h
  · intro _ _ _ _ _
    trivial
  · intro off b hmem
    simp at hmem

end

/-! ## A device that answers -/

theorem sure_orFail {F : Event Edge → Prop} {α β : Type} {f : α → EdgeM β} {g : EdgeGlobals}
    {Q : EdgeGlobals → β → Prop} {a : Option α} {x : α} (ha : a = some x) (h : Sure F (f x) g Q) :
    Sure F (orFail a >>= f) g Q := by
  rw [ha]
  exact h

/-- An enrolled device and a challenge: what its TA did in command 3, and what its TPM quoted. -/
structure HonestDevice (C : CryptoLib) (lib : HostLib) (deviceId : Text) (record : DeviceRecord)
    (challenge : PendingChallenge) where
  /-- the TA's session, and the command in it -/
  sess : Session
  inv : Invocation
  tr : List (Event Tee)
  frame : Frame
  /-- the Host's buffers before it -/
  memory : Memory (Fin 4)
  /-- the sealed identity -/
  blob : Bytes
  quote : TpmQuote
  signature : TpmSignature
  /-- what the TPM's tools leave -/
  files : QuoteFiles
  command : Command.ofId inv.cmdId = some .generateAttestationEvidence
  runs : Runs (inv.program sess) tr (.ok (), frame)
  correct : TeeCorrect C.toCrypto tr
  nonce : ∀ r ∈ readsOf 1 tr, r.2 = challenge.nonce
  serverPub : ∀ r ∈ readsOf 2 tr, r.2 = challenge.serverPub
  identity : ∀ b, .ok (.readObjectData .taIdentity taIdentityBlobSize) b ∈ tr → b = blob
  length_blob : blob.length = taIdentityBlobSize
  sealedId : blobDeviceId blob = deviceId.utf8
  message : files.message = quote.body ∧ quote.body.length ≤ rawMsgMax - 2
  signatureFile : files.signature = signature.raw ∧ signature.raw.length ≤ rawSigMax
  pcrs : recomputePcrDigest C.toCrypto (lib.text (readWholeFile files.pcrText
    (attestationPcrTextMax - 1))) = .ok quote.pcrDigest
  /-- what it was enrolled with -/
  baseline : recomputePcrDigest C.toCrypto record.expectedPcr = .ok quote.pcrDigest
  ak : C.loadPem record.akPubPem = .ec
  signed : C.pemVerify record.akPubPem quote.body (Bytes.ofBE signature.r)
    (Bytes.ofBE signature.s) = true
  taEnrolled : record.taPubB64 = b64e (taIdentityBlobToSec1 blob)

namespace HonestDevice

variable {C : CryptoLib} {lib : HostLib} {deviceId : Text} {record : DeviceRecord}
  {challenge : PendingChallenge} (d : HonestDevice C lib deviceId record challenge)

/-- The TA's identity. -/
def taPub : Point := Point.ofCoords (blobX d.blob) (blobY d.blob)

/-- `tpm2_pcrread`, as it is sent. -/
def pcrText : Text := lib.text (readWholeFile d.files.pcrText (attestationPcrTextMax - 1))

theorem taPub_sec1 : d.taPub.sec1 = taIdentityBlobToSec1 d.blob := by
  refine Point.sec1_ofCoords ?_ ?_
  · exact Bytes.length_slice _ _ _ (by rw [d.length_blob]; decide)
  · exact Bytes.length_slice _ _ _ (by rw [d.length_blob]; decide)

/-- What the TA gave out: its key, the transcript's hash and its signature. -/
structure Issued where
  keypair : EcKeyPair
  hash : Bytes
  sig : Bytes
  live : d.frame.sess.ecdhKeypair = some keypair
  pub : keypair.pub = C.pub keypair.d
  answer : evidenceAnswer d.memory d.tr (.ok (), d.frame) = some (keypair.pub.sec1, hash ++ sig)
  length_hash : hash.length = transcriptHashSize
  length_sig : sig.length = taSigSize
  hashed : hash = computeTranscriptHash C.toCrypto challenge.nonce challenge.serverPub
    keypair.pub.sec1
  signed : C.ecdsaVerify d.taPub (C.sha256 (taIdentityPreimage challenge.nonce challenge.serverPub
    keypair.pub.sec1 deviceId.utf8)) sig = true

/-- The Host finds both buffers as the TA left them. -/
theorem view_evidence (m : Memory (Fin 4)) (pub : Bytes) {hash : Bytes} (sig : Bytes)
    (hhash : hash.length = 32) :
    let m' := ((m.storeAll 0 0 pub).storeAll 3 0 hash).storeAll 3 32 sig
    m'.view 0 pub.length = pub ∧ m'.view 3 (hash ++ sig).length = hash ++ sig := by
  intro m'
  have hne : (0 : Fin 4) ≠ 3 := by decide
  have hblock : m' = (m.storeAll 0 0 pub).storeAll 3 0 (hash ++ sig) := by
    rw [Memory.storeAll_append, hhash]
  refine ⟨?_, ?_⟩
  · have hother : m'.bytes 0 = (m.storeAll 0 0 pub).bytes 0 := by
      rw [hblock]
      exact Memory.bytes_storeAll_other _ hne _ _
    rw [Memory.view_congr hother, Memory.view_storeAll]
  · rw [hblock, Memory.view_storeAll]

theorem issued : Nonempty d.Issued := by
  obtain ⟨keypair, hlive, e, sig, rfl, hess, hhash, hdigest⟩ :=
    wp_runs d.runs (taInvokeCommand_signsOwnKey (C := C.toCrypto) d.inv d.sess) d.command d.correct
  have hsizes : EvidenceSizes d.tr d.frame := by
    have hruns := d.runs
    simp only [Invocation.program, taInvokeCommand, d.command] at hruns
    have hpost := wp_runs hruns (taGenerateAttestationEvidence_sizes _ _ _)
    exact hpost
  have hmem : ∀ ev ∈ e.withSignature sig, ev ∈ d.tr := by
    intro ev hev
    rw [← hess] at hev
    exact (List.mem_filter.mp hev).1
  have hread : ∀ (i : Fin 4) (off n : Nat) (b : BytesN n), .did (.hostRead i off n) b ∈ d.tr →
      (off, b.1) ∈ readsOf i d.tr := by
    intro i off n b hev
    exact List.mem_filterMap.mpr ⟨_, hev, by simp⟩
  have hnonce : e.nonce.1 = challenge.nonce :=
    d.nonce (0, e.nonce.1) (hread 1 _ _ _ (hmem _ (by
      simp [EvidenceInputs.withSignature, EvidenceInputs.upToSignature, EvidenceInputs.upToKey])))
  have hserver : e.serverPub.1 = challenge.serverPub :=
    d.serverPub (0, e.serverPub.1) (hread 2 _ _ _ (hmem _ (by
      simp [EvidenceInputs.withSignature, EvidenceInputs.upToSignature, EvidenceInputs.upToKey])))
  have hblob : e.blob = d.blob := d.identity _ (hmem _ (by
    simp [EvidenceInputs.withSignature, EvidenceInputs.upToSignature]))
  have hlen : e.hash.length = transcriptHashSize := hsizes.hash _ (hmem _ (by
    simp [EvidenceInputs.withSignature, EvidenceInputs.upToSignature]))
  have hsig : sig.length = taSigSize := hsizes.sig _ (hmem _ (by
    simp [EvidenceInputs.withSignature]))
  have hkey : e.keypair.pub = C.pub e.keypair.d := d.correct (.ok (.generateKey .ecdhKeypair 256)
    e.keypair) (hmem _ (by
      simp [EvidenceInputs.withSignature, EvidenceInputs.upToSignature, EvidenceInputs.upToKey]))
  have hverify : C.ecdsaVerify (Point.ofCoords (blobX e.blob) (blobY e.blob)) e.digest sig = true :=
    d.correct (.ok (.asymmetricSignDigest (blobD e.blob) (blobX e.blob) (blobY e.blob) e.digest
      taSigSize) sig) (hmem _ (by simp [EvidenceInputs.withSignature]))
  have hmemory : hostMemory d.memory d.tr = ((d.memory.storeAll 0 0 e.keypair.pub.sec1).storeAll 3 0
      e.hash).storeAll 3 32 sig := by
    rw [← hostMemory_essential, hess]
    rfl
  obtain ⟨hpub, hblock⟩ := view_evidence d.memory e.keypair.pub.sec1 sig hlen
  refine ⟨⟨e.keypair, e.hash, sig, hlive, hkey, ?_, hlen, hsig, ?_, ?_⟩⟩
  · rw [evidenceAnswer, hmemory, hsizes.pub, hsizes.block]
    rw [Point.length_sec1] at hpub
    rw [List.length_append, hlen, hsig] at hblock
    rw [hpub, hblock]
  · rw [hhash, EvidenceInputs.transcriptBytes, hnonce, hserver]
    rfl
  · rw [taPub, ← hblob]
    rw [hdigest, EvidenceInputs.signedBytes, hnonce, hserver, hblob, d.sealedId] at hverify
    rw [hblob]
    exact hverify

/-- What the primitives promise about the keys of a handshake. -/
structure KeyLaws (i : d.Issued) : Prop where
  ta : C.fromEncodedPoint d.taPub.sec1 = some d.taPub
  decodes : C.fromEncodedPoint i.keypair.pub.sec1 = some i.keypair.pub
  ecdh : C.ecdh i.keypair.d (C.pub challenge.serverPriv) =
    C.ecdh challenge.serverPriv (C.pub i.keypair.d)
  hkdf : (C.hkdf (C.ecdh challenge.serverPriv i.keypair.pub) challenge.nonce hkdfInfo
    sessionKeySize).length = sessionKeySize

/-- The device's answer is a genuine one. -/
def genuine (i : d.Issued) (laws : d.KeyLaws i) (hquote : d.quote.extraData = i.hash) :
    GenuineAnswer C deviceId record challenge where
  point := i.keypair.pub
  quote := d.quote
  signature := d.signature
  pcrText := d.pcrText
  taPub := d.taPub
  taSig := i.sig
  onCurve := laws.decodes
  transcript := hquote.trans i.hashed
  quoted := d.pcrs
  baseline := d.baseline
  ak := d.ak
  signed := d.signed
  taEnrolled := d.taPub_sec1 ▸ d.taEnrolled
  taOnCurve := laws.ta
  length_taSig := i.length_sig
  taSigned := i.signed

/-! ## The Host in between -/

/-- The TA and the TPM answer the Host: the TA what it made of this challenge. -/
def Answers : Event Edge → Prop
  | .did (.generateEvidence nonce serverPub) b => nonce = challenge.nonce →
    serverPub = challenge.serverPub → b = evidenceAnswer d.memory d.tr (.ok (), d.frame)
  | .did (.attestationReport hash) b => d.quote.extraData = hash ∧ b = createAttestationReport d.files
  | _ => True

/-- The report is the TPM's, in base64. -/
theorem report_eq : createAttestationReport d.files =
    some ⟨b64e d.quote.raw, b64e d.signature.raw,
      readWholeFile d.files.pcrText (attestationPcrTextMax - 1)⟩ := by
  have hsig : readWholeFile d.files.signature rawSigMax = d.signature.raw := by
    rw [d.signatureFile.1]
    exact List.take_of_length_le d.signatureFile.2
  have hraw : rawMsg d.files.message = d.quote.raw := by
    rw [d.message.1, rawMsg_eq d.message.2]
    rfl
  rw [createAttestationReport_eq, hraw, hsig]

/-- `edge_attest_to_server` makes a message of the two answers. -/
theorem answerChallenge_sure (i : d.Issued) {g : EdgeGlobals} (hnonce : g.nonce = challenge.nonce)
    (hserver : g.serverEcdhPub = challenge.serverPub) :
    Sure d.Answers (answerChallenge lib deviceId) g fun g' msg => g' = g ∧
      d.quote.extraData = i.hash ∧
      msg = attestResponseMessage deviceId (b64e i.keypair.pub.sec1) (b64e d.quote.raw)
        (b64e d.signature.raw) d.pcrText (b64e i.sig) := by
  have hblock : (i.hash ++ i.sig).length = ciotEvidenceBlockSize := by
    rw [List.length_append, i.length_hash, i.length_sig]
    rfl
  have hhash : (i.hash ++ i.sig).take ciotTranscriptHashSize = i.hash :=
    List.take_left' i.length_hash
  have hsig : (i.hash ++ i.sig).drop ciotTranscriptHashSize = i.sig := List.drop_left' i.length_hash
  have hpub : mbedtlsBase64Encode 128 i.keypair.pub.sec1 = some (b64e i.keypair.pub.sec1) :=
    mbedtlsBase64Encode_fits (by rw [Point.length_sec1]; decide)
  have htaSig : mbedtlsBase64Encode 128 i.sig = some (b64e i.sig) :=
    mbedtlsBase64Encode_fits (by rw [i.length_sig]; decide)
  unfold answerChallenge
  refine .get (.act ?_)
  intro _ hanswer
  refine sure_orFail ((hanswer hnonce hserver).trans i.answer) ?_
  dsimp only
  rw [if_neg (by simp [hblock]), hhash, hsig]
  refine .act ?_
  rintro _ ⟨hquote, hreport⟩
  exact sure_orFail (hreport.trans d.report_eq) (sure_orFail hpub (sure_orFail htaSig
    (.ret ⟨rfl, hquote, rfl⟩)))

end HonestDevice

/-- `mbedtls_base64_decode` undoes the server's `b64encode`. -/
def HostLib.Decodes (lib : HostLib) : Prop := ∀ b, lib.base64Decode (b64e b) = some b

section

variable {lib : HostLib} {identity : Point} {challenge : PendingChallenge}

/-- The globals with a challenge in them. -/
def EdgeGlobals.holding (g : EdgeGlobals) (identity : Point) (challenge : PendingChallenge) :
    EdgeGlobals :=
  { g with
    nonce := challenge.nonce
    serverEcdhPub := challenge.serverPub
    serverIdentityPub := identity.sec1 }

theorem decodeInto_b64e (hlib : lib.Decodes) {size : Nat} {b : Bytes} (h : b.length ≤ size) :
    lib.decodeInto size (b64e b) = some b := by
  rw [HostLib.decodeInto, hlib b]
  exact (Option.filter_eq_some_iff.mpr ⟨rfl, decide_eq_true h⟩)

theorem decodeExact_b64e (hlib : lib.Decodes) {size : Nat} {msg : JsonValue} {name : Text} {b : Bytes}
    (hmsg : stringItem msg name = some (b64e b)) (h : b.length = size) :
    lib.decodeExact size msg name = some b := by
  rw [HostLib.decodeExact, hmsg, Option.bind_some, decodeInto_b64e hlib (Nat.le_of_eq h)]
  exact (Option.filter_eq_some_iff.mpr ⟨rfl, decide_eq_true h⟩)

/-- Every field fills its buffer. -/
theorem readChallenge_sure {F : Event Edge → Prop} (hlib : lib.Decodes)
    (hnonce : challenge.nonce.length ≤ ciotNonceMax)
    (hserver : challenge.serverPub.length = ciotEcdhPubSize) (g : EdgeGlobals) :
    Sure F (readChallenge lib (Reply.attestChallenge (challengeMessage identity challenge))) g fun g' _ =>
      g' = g.holding identity challenge := by
  unfold readChallenge
  have hname : ∀ m, stringItem (Reply.attestChallenge m) "nonce".toList = some m.nonce :=
    fun _ => rfl
  have hpub : ∀ m, stringItem (Reply.attestChallenge m) "server_ecdh_pub".toList =
    some m.serverEcdhPub := fun _ => rfl
  have hid : ∀ nonce pub id, stringItem (Reply.attestChallenge ⟨nonce, pub, id⟩)
    "server_identity_pub".toList = some id := fun _ _ _ => rfl
  rw [hname]
  refine sure_orFail (decodeInto_b64e hlib hnonce) (.modify ?_)
  refine sure_orFail (decodeExact_b64e hlib (hpub _) hserver) (.modify ?_)
  have hlen : identity.sec1.length = ciotEcdhPubSize := identity.length_sec1
  have hidentity : lib.decodeExact ciotEcdhPubSize (Reply.attestChallenge ⟨b64e challenge.nonce,
      b64e challenge.serverPub, b64e identity.sec1⟩) "server_identity_pub".toList =
        some identity.sec1 :=
    decodeExact_b64e hlib (hid _ _ _) hlen
  refine sure_orFail hidentity ?_
  refine .tail ?_
  exact .modify (.ret rfl)

/-- The Host hands the challenge and the server's answer over to the TA, and calls nobody else. -/
theorem readResult_handsOver (hlib : lib.Decodes) {sig : Bytes} (hsig : sig.length = ciotServerSigSize)
    (g : EdgeGlobals) :
    wpP (fun _ _ => True)
      (readResult lib (Reply.attestAccepted sig) >>= fun _ => edgeHandshake)
      (fun tr _ _ => ∃ now, tr = [.did .monoNow now, .did (.handshakeComplete challenge.serverPub
        challenge.nonce identity.sec1 sig) true])
      (fun tr _ _ => ∃ now, tr = [.did .monoNow now, .did (.handshakeComplete challenge.serverPub
        challenge.nonce identity.sec1 sig) false])
      (g.holding identity challenge) [] := by
  have hfield : lib.decodeExact ciotServerSigSize (Reply.attestAccepted sig) "server_sig".toList =
      some sig := decodeExact_b64e hlib rfl hsig
  have hok : isOk (Reply.attestAccepted sig) = true := rfl
  simp only [readResult, hok, if_true, hfield, edgeHandshake, wpP_bind, wpP_edge, wpP_modify,
    wpP_get, wpP_orFail, wpP_ite, wpP_throw, wpP_pure, EdgeGlobals.holding, List.nil_append,
    List.singleton_append, true_and]
  intro now
  refine ⟨?_, ?_⟩
  · intro sig' hsig'
    obtain rfl := Option.some.inj hsig'
    refine ⟨fun h => absurd trivial h, ?_⟩
    intro _ done
    cases done with
    | false => exact ⟨fun _ => ⟨now, rfl⟩, fun h => absurd Bool.false_ne_true h⟩
    | true => exact ⟨fun h => absurd rfl h, fun _ => ⟨now, rfl⟩⟩
  · intro h
    cases h

end

/-! ## The server -/

section

variable {C : CryptoLib} {identity : Point} {deviceId : Text} {record : DeviceRecord}
  {challenge : PendingChallenge}

/-- What the steps of a call say stays so. -/
theorem through_facts {s s' : ServerState} {tr : List (Event Server)}
    (h : Through (ServerStep C identity) s tr s') : ∀ ev ∈ tr, ServerFact C identity s' ev := by
  have kept : ∀ {s s' : ServerState} {tr : List (Event Server)} {ev : Event Server},
      Through (ServerStep C identity) s tr s' → ServerFact C identity s ev →
        ServerFact C identity s' ev := by
    intro s s' tr ev h hfact
    induction h with
    | nil _ => exact hfact
    | cons hstep _ ih => exact ih (hfact.kept hstep)
  induction h with
  | nil _ => exact fun _ hev => absurd hev List.not_mem_nil
  | cons hstep rest ih =>
    intro ev hev
    rcases List.mem_cons.mp hev with rfl | hev
    · exact kept rest (.of_step hstep)
    · exact ih ev hev

/-- The call takes a genuine answer in time, stores its key and signs. -/
theorem GenuineAnswer.verified (a : GenuineAnswer C deviceId record challenge) {s s' : ServerState}
    {tr : List (Event Server)} {r : Except PyError Bytes}
    (registered : s.registry deviceId = some record) (pending : s.pending deviceId = some challenge)
    (h : EvalsP (ServerStep C identity) (verifyAndDerive C deviceId a.response) () s tr r () s')
    (fresh : ∀ now, .did .time now ∈ tr → now - challenge.issuedAt ≤ attestChallengeTtl) :
    ∃ sig now, r = .ok sig ∧ sig.length = serverSigSize ∧
      C.ecdsaVerify identity (C.sha256 (serverIdentityPreimage challenge.nonce challenge.serverPub
        a.point.sec1)) sig = true ∧
      s'.sessions deviceId = some ⟨a.key, now + deviceSessionTtl, 0⟩ := by
  have hspec := h.sound verifyAndDerive_spec
  cases r with
  | error e =>
    exfalso
    obtain ⟨-, hfailure⟩ := hspec
    have hthrough := h.through
    cases hfailure with
    | notRegistered =>
      obtain ⟨_, ⟨hnone, -⟩, -⟩ := through_cons.mp hthrough
      cases hnone.trans registered
    | noPending found =>
      obtain ⟨_, ⟨-, rfl⟩, hrest⟩ := through_cons.mp hthrough
      obtain ⟨_, ⟨hnone, -⟩, -⟩ := through_cons.mp hrest
      cases hnone.trans pending
    | @answered found popped now tr e hanswer =>
      obtain ⟨_, ⟨hfound, rfl⟩, hpop⟩ := through_cons.mp hthrough
      obtain ⟨_, ⟨hpopped, rfl⟩, htime⟩ := through_cons.mp hpop
      obtain ⟨_, rfl, hchecks⟩ := through_cons.mp htime
      cases hfound.trans registered
      cases hpopped.trans pending
      exact a.no_failure (fresh now (by simp)) (through_facts hchecks) hanswer
  | ok sig =>
    obtain ⟨-, v, key, now, hresponse, hkey, rfl⟩ := hspec
    have hthrough := h.through
    rw [← List.singleton_append, ← List.append_assoc] at hthrough
    obtain ⟨s₁, hcommit, hsign⟩ := through_append.mp hthrough
    obtain ⟨⟨hrecord, hpending, -, -⟩, rfl⟩ := Vetting.through.mp hcommit
    obtain ⟨_, ⟨hlen, hverify, rfl⟩, hnil⟩ := through_cons.mp hsign
    obtain rfl := through_nil.mp hnil
    have hchallenge : v.pending = challenge := Option.some.inj (hpending.symm.trans pending)
    have hpresented : v.presented = a.presented :=
      Except.ok.inj ((present_eq_ok.mpr (hresponse ▸ v.presents)).symm.trans a.present_ok)
    rw [hchallenge, hpresented, a.deviceKey_ok] at hkey
    obtain rfl := Except.ok.inj hkey
    rw [hchallenge, hpresented] at hverify
    exact ⟨sig, now, rfl, hlen, hverify, Function.update_self ..⟩

end

/-! ## Command 4 -/

/-- What the Host passes to it: the server's point, the nonce, the server's identity and its
signature. -/
def handshakeBuffers (identity : Point) (challenge : PendingChallenge) (sig : Bytes) : Fin 4 → Bytes
  | 0 => challenge.serverPub
  | 1 => challenge.nonce
  | 2 => identity.sec1
  | 3 => sig

/-- The Host passes on what the server has sent, no other server is pinned, and nothing is refused
that could be done. -/
def Obliges (C : CryptoLib) (identity : Point) (challenge : PendingChallenge) (sig : Bytes) :
    Event Tee → Prop
  | .did (.hostRead i off len) b => b.1 = (handshakeBuffers identity challenge sig i).slice off len
  | .ok (.readObjectData _ _) b => b = identity.sec1
  | .refused (.openPersistentObject _) e => e = .itemNotFound
  | .refused (.createPersistentObject _ _) e => e = .accessConflict
  | .refused (.asymmetricVerifyDigest x y digest sig') _ =>
    C.ecdsaVerify (Point.ofCoords x y) digest sig' = false
  | .refused _ _ => False
  | _ => True

instance (C : CryptoLib) (identity : Point) (challenge : PendingChallenge) (sig : Bytes) :
    DecidablePred (Obliges C identity challenge sig) := by
  intro ev
  cases ev with
  | did a b => cases a <;> dsimp only [Obliges] <;> infer_instance
  | ok r b => cases r <;> dsimp only [Obliges] <;> infer_instance
  | refused r e => cases r <;> dsimp only [Obliges] <;> infer_instance

/-- And the TEE keeps its contract. -/
def Attends (C : CryptoLib) (identity : Point) (challenge : PendingChallenge) (sig : Bytes)
    (ev : Event Tee) : Prop :=
  TeeContract C.toCrypto ev ∧ Obliges C identity challenge sig ev

section

variable {C : CryptoLib} {identity : Point} {challenge : PendingChallenge} {sig : Bytes} {s : Frame}

theorem sure_openObject {id : ObjectId} :
    Sure (Attends C identity challenge sig) (openObject id) s fun s' _ => s' = s :=
  ⟨fun _ => wpP_openObject.mpr ⟨trivial, fun _ => rfl, fun _ => rfl, fun _ hne hfair =>
    hne (fair_snoc.mp hfair).2.2⟩⟩

theorem sure_createObject {id : ObjectId} {data : Bytes} :
    Sure (Attends C identity challenge sig) (createObject id data) s fun s' _ => s' = s :=
  ⟨fun _ => wpP_createObject.mpr ⟨trivial, fun _ => rfl, fun _ => rfl, fun _ hne hfair =>
    hne (fair_snoc.mp hfair).2.2⟩⟩

theorem readEcCoordinate_sure (obj : EcKeyPair) (attr : EcAttr) :
    Sure (Attends C identity challenge sig) (readEcCoordinate obj attr) s fun s' b =>
      b = Bytes.toBE 32 (obj.attr attr).toNat ∧ s' = s := by
  unfold readEcCoordinate
  refine .request (fun _ h => h.2) ?_
  rintro raw ⟨⟨hlen, hval⟩, -⟩
  rw [if_neg (Nat.not_lt.mpr hlen)]
  refine .ret ⟨?_, rfl⟩
  rw [Bytes.padLeft_eq_toBE hlen, hval]

theorem readPublicPoint_sure (obj : EcKeyPair) :
    Sure (Attends C identity challenge sig) (readPublicPoint obj) s fun s' b =>
      b = obj.pub.sec1 ∧ s' = s :=
  .step (readEcCoordinate_sure obj .publicValueX) (.step (readEcCoordinate_sure obj .publicValueY)
    (.ret ⟨rfl, rfl⟩))

/-- A buffer, read whole. -/
theorem slice_whole {b : Bytes} {n : Nat} (h : b.length = n) : b.slice 0 n = b := by
  rw [← h]
  exact Bytes.slice_zero_length b

theorem serverIdentityDigest_sure (hpub : challenge.serverPub.length = ecdhPubkeySize)
    (devicePub : Bytes) :
    Sure (Attends C identity challenge sig) (serverIdentityDigest challenge.nonce.length devicePub) s
      fun s' b => b = C.sha256 (serverIdentityPreimage challenge.nonce challenge.serverPub
        devicePub) ∧ s' = s := by
  unfold serverIdentityDigest
  refine .request (fun _ h => h.2) fun _ _ => .act ?_
  rintro nonce ⟨-, hnonce⟩
  refine .act ?_
  rintro peer ⟨-, hpeer⟩
  refine .tail (.request (fun _ h => h.2) ?_)
  rintro digest ⟨hdigest, -⟩
  refine .ret ⟨?_, rfl⟩
  have hnonce' : nonce.1 = challenge.nonce := hnonce.trans (slice_whole rfl)
  have hpeer' : peer.1 = challenge.serverPub := hpeer.trans (slice_whole hpub)
  rw [← hnonce', ← hpeer']
  exact hdigest

/-- Either way the key to verify under is the server's. -/
theorem pinnedServerKey_sure :
    Sure (Attends C identity challenge sig) pinnedServerKey s fun s' pinned =>
      (∀ key, pinned = some key → key = identity.sec1) ∧ s' = s := by
  unfold pinnedServerKey
  refine .bind sure_openObject ?_
  rintro _ found rfl
  cases found with
  | false =>
    refine .ret ⟨?_, rfl⟩
    rintro key ⟨⟩
  | true =>
    refine .request (fun _ h => h.2) ?_
    rintro _ ⟨-, rfl⟩
    rw [if_neg (by simp [Point.length_sec1])]
    refine .act ?_
    rintro presented ⟨-, hpresented⟩
    have hsame : identity.sec1 = presented.1 :=
      (hpresented.trans (slice_whole (Point.length_sec1 _))).symm
    rw [if_neg (not_not.mpr hsame)]
    refine .ret ⟨?_, rfl⟩
    rintro key ⟨⟩
    rfl

theorem verifyKeyCoords_sure {pinned : Option Bytes}
    (hpinned : ∀ key, pinned = some key → key = identity.sec1) :
    Sure (Attends C identity challenge sig) (verifyKeyCoords pinned) s fun s' xy =>
      Point.ofCoords xy.1 xy.2 = identity ∧ s' = s := by
  cases pinned with
  | some key =>
    rw [hpinned key rfl, verifyKeyCoords]
    refine .ret ⟨?_, rfl⟩
    dsimp only
    rw [Point.ofCoords_sec1]
  | none =>
    refine .act ?_
    rintro x ⟨-, hx⟩
    refine .act ?_
    rintro y ⟨-, hy⟩
    refine .ret ⟨?_, rfl⟩
    dsimp only
    rw [hx, hy]
    dsimp only [handshakeBuffers]
    rw [Point.ofCoords_sec1]

theorem verifyServerSignature_sure {pinned : Option Bytes} {digest : Bytes}
    (hlen : sig.length = serverSigSize) (hsig : C.ecdsaVerify identity digest sig = true)
    (hpinned : ∀ key, pinned = some key → key = identity.sec1) :
    Sure (Attends C identity challenge sig) (verifyServerSignature pinned serverSigSize digest) s
      fun s' _ => s' = s := by
  unfold verifyServerSignature
  refine .request (fun _ h => h.2) fun _ _ => .bind (verifyKeyCoords_sure hpinned) ?_
  rintro _ ⟨x, y⟩ ⟨hkey, rfl⟩
  refine .request (fun _ h => h.2) fun _ _ => .request (fun _ h => h.2) fun _ _ =>
    .request (fun _ h => h.2) fun _ _ => .act ?_
  rintro sig' ⟨-, hread⟩
  have hsame : sig'.1 = sig := hread.trans (slice_whole hlen)
  refine .failWith (.tail (.request ?_ fun _ _ => .ret rfl))
  rintro e ⟨-, hinvalid⟩
  have hfalse : C.ecdsaVerify (Point.ofCoords x y) digest sig'.1 = false := hinvalid
  rw [hkey, hsame, hsig] at hfalse
  cases hfalse

theorem authenticateServer_sure {devicePub : Bytes}
    (hpub : challenge.serverPub.length = ecdhPubkeySize) (hlen : sig.length = serverSigSize)
    (hsig : C.ecdsaVerify identity (C.sha256 (serverIdentityPreimage challenge.nonce
      challenge.serverPub devicePub)) sig = true) :
    Sure (Attends C identity challenge sig)
      (authenticateServer challenge.nonce.length serverSigSize devicePub) s fun s' _ => s' = s := by
  unfold authenticateServer
  rw [if_neg (not_not.mpr rfl)]
  refine .act ?_
  rintro tag ⟨-, htag⟩
  have htag' : tag.1 = [0x04] := htag.trans identity.sec1_tag
  rw [if_neg (not_not.mpr htag')]
  refine .step (serverIdentityDigest_sure hpub devicePub) ?_
  unfold checkServerKey
  refine .bind pinnedServerKey_sure ?_
  rintro _ pinned ⟨hpinned, rfl⟩
  refine .bind (verifyServerSignature_sure hlen hsig hpinned) ?_
  rintro _ _ rfl
  cases pinned with
  | some key => exact .ret rfl
  | none =>
    refine .act fun key _ => .bind sure_createObject ?_
    rintro _ _ rfl
    exact .ret rfl

theorem deriveSessionKey_sure (keypair : EcKeyPair)
    (hserver : challenge.serverPub = (C.pub challenge.serverPriv).sec1) :
    Sure (Attends C identity challenge sig) (deriveSessionKey keypair challenge.nonce.length) s
      fun s' key => key = C.hkdf (C.ecdh keypair.d (C.pub challenge.serverPriv)) challenge.nonce
        hkdfInfo sessionKeySize ∧ s' = s := by
  unfold deriveSessionKey
  refine .request (fun _ h => h.2) fun _ _ => .request (fun _ h => h.2) fun _ _ =>
    .request (fun _ h => h.2) fun _ _ => .act ?_
  rintro x ⟨-, hx⟩
  refine .act ?_
  rintro y ⟨-, hy⟩
  have hpeer : Point.ofCoords x.1 y.1 = C.pub challenge.serverPriv := by
    rw [hx, hy]
    show Point.ofCoords (challenge.serverPub.slice 1 32) (challenge.serverPub.slice 33 32) = _
    rw [hserver]
    exact Point.ofCoords_sec1 _
  refine .act ?_
  rintro shared ⟨hshared, -⟩
  refine .request (fun _ h => h.2) ?_
  rintro sharedBytes ⟨hbytes, -⟩
  refine .request (fun _ h => h.2) fun _ _ => .request (fun _ h => h.2) fun _ _ =>
    .request (fun _ h => h.2) fun _ _ => .request (fun _ h => h.2) fun _ _ =>
    .request (fun _ h => h.2) fun _ _ => .act ?_
  rintro salt ⟨-, hsalt⟩
  refine .act ?_
  rintro okm ⟨hokm, -⟩
  refine .tail (.request (fun _ h => h.2) ?_)
  rintro key ⟨hkey, -⟩
  refine .ret ⟨?_, rfl⟩
  have hsalt' : salt.1 = challenge.nonce := hsalt.trans (slice_whole rfl)
  calc key = okm := hkey
    _ = C.hkdf sharedBytes salt.1 hkdfInfo sessionKeySize := hokm
    _ = C.hkdf (C.ecdh keypair.d (Point.ofCoords x.1 y.1)) challenge.nonce hkdfInfo
        sessionKeySize := by rw [hbytes, hshared, hsalt']
    _ = _ := by rw [hpeer]

/-- How the Host calls command 4. -/
structure CompletesHandshake (challenge : PendingChallenge) (inv : Invocation) : Prop where
  command : Command.ofId inv.cmdId = some .handshakeComplete
  types : inv.paramTypes = teeParamTypes .memrefInput .memrefInput .memrefInput .memrefInput
  serverPub : (inv.params 0).size = ecdhPubkeySize
  nonce : (inv.params 1).size = challenge.nonce.length
  identity : (inv.params 2).size = ecdhPubkeySize
  sig : (inv.params 3).size = serverSigSize

theorem handshakeComplete_sure {inv : Invocation} {sess : Session} {keypair : EcKeyPair}
    (call : CompletesHandshake challenge inv) (live : sess.ecdhKeypair = some keypair)
    (hserver : challenge.serverPub = (C.pub challenge.serverPriv).sec1)
    (hlen : sig.length = serverSigSize)
    (hsig : C.ecdsaVerify identity (C.sha256 (serverIdentityPreimage challenge.nonce
      challenge.serverPub keypair.pub.sec1)) sig = true) :
    Sure (Attends C identity challenge sig) (taInvokeCommand inv.cmdId inv.paramTypes)
      ⟨sess, inv.params⟩ fun s' _ => s'.sess =
        let key := C.hkdf (C.ecdh keypair.d (C.pub challenge.serverPriv)) challenge.nonce hkdfInfo
          sessionKeySize
        { sess with
          ecdhKeypair := none
          sessionKey := key ++ sess.sessionKey.drop key.length
          sessionKeyValid := true
          sendSeq := 0 } := by
  have hpub : challenge.serverPub.length = ecdhPubkeySize := by
    rw [hserver, Point.length_sec1]
  have hok : handshakeParamsOk inv.paramTypes inv.params sess.ecdhKeypair = .ok keypair :=
    handshakeParamsOk_eq_ok.mpr ⟨call.types, live, call.serverPub, call.identity, call.sig⟩
  simp only [taInvokeCommand, call.command, taHandshakeComplete]
  refine .get (.bind (Q := fun s' a => a = keypair ∧ s' = ⟨sess, inv.params⟩) ?_ ?_)
  · rw [hok]
    exact .ret ⟨rfl, rfl⟩
  rintro _ _ ⟨rfl, rfl⟩
  refine .act ?_
  rintro tag ⟨-, htag⟩
  have htag' : tag.1 = [0x04] := by
    rw [htag]
    show challenge.serverPub.slice 0 1 = _
    rw [hserver, Point.sec1_tag]
  rw [if_neg (not_not.mpr htag')]
  refine .cleanup ?_
  unfold handshakeOverKey
  refine .step (readPublicPoint_sure _) ?_
  rw [call.nonce, call.sig]
  refine .bind (authenticateServer_sure hpub hlen hsig) ?_
  rintro _ _ rfl
  refine .step (deriveSessionKey_sure _ hserver) ?_
  exact .tail (.modify (.ret rfl))

end

/-! ## Both keys -/

theorem attestResponseOf_message (deviceId devicePub quote signature pcrValues taSig : Text) :
    attestResponseOf (attestResponseMessage deviceId devicePub quote signature pcrValues taSig) =
      .ok ⟨.str devicePub, .str quote, .str signature, .str pcrValues, .str taSig⟩ := rfl

section

variable {C : CryptoLib} {lib : HostLib} {identity : Point} {deviceId : Text}
  {record : DeviceRecord} {challenge : PendingChallenge}

/-- What `issue_challenge` draws. -/
structure PendingChallenge.OfServer (C : CryptoLib) (challenge : PendingChallenge) : Prop where
  nonce : challenge.nonce.length = attestNonceLen
  server : challenge.serverPub = (C.pub challenge.serverPriv).sec1

/-- The Host takes the challenge, and makes the answer of it. -/
theorem HonestDevice.takesChallenge (d : HonestDevice C lib deviceId record challenge)
    (i : d.Issued) (drawn : challenge.OfServer C) (hlib : lib.Decodes) (g : EdgeGlobals) :
    Sure d.Answers (readChallenge lib (Reply.attestChallenge (challengeMessage identity challenge)) >>=
      fun _ => answerChallenge lib deviceId) g fun g' msg => g' = g.holding identity challenge ∧
        d.quote.extraData = i.hash ∧
        msg = attestResponseMessage deviceId (b64e i.keypair.pub.sec1) (b64e d.quote.raw)
          (b64e d.signature.raw) d.pcrText (b64e i.sig) := by
  have hnonce : challenge.nonce.length ≤ ciotNonceMax := by
    rw [drawn.nonce]
    decide
  have hserver : challenge.serverPub.length = ciotEcdhPubSize := by
    rw [drawn.server]
    exact Point.length_sec1 _
  refine (readChallenge_sure hlib hnonce hserver g).bind ?_
  rintro _ _ rfl
  exact d.answerChallenge_sure i rfl rfl

/-- **The handshake agrees.** The Host of an honest device takes a challenge; its answer, whenever
it reaches the server in time, is accepted; the Host hands over what the server sent; and the TA
that is called with it is left with the key that the server has stored. -/
theorem handshake_agrees (d : HonestDevice C lib deviceId record challenge) (i : d.Issued)
    (laws : d.KeyLaws i) (drawn : challenge.OfServer C) (hlib : lib.Decodes)
    (array : d.frame.sess.sessionKey.length = sessionKeySize) {g g' : EdgeGlobals}
    {tr : List (Event Edge)} {r : Except EdgeError JsonValue}
    (host : Runs ((readChallenge lib (Reply.attestChallenge (challengeMessage identity challenge)) >>=
      fun _ => answerChallenge lib deviceId).go g) tr (r, g'))
    (answered : Fair d.Answers tr) :
    ∃ msg response key, r = .ok msg ∧ attestResponseOf msg = .ok response ∧
      ∀ {s s' : ServerState} {tr : List (Event Server)} {out : Except PyError Bytes},
        s.registry deviceId = some record → s.pending deviceId = some challenge →
        EvalsP (ServerStep C identity) (verifyAndDerive C deviceId response) () s tr out () s' →
        (∀ now, .did .time now ∈ tr → now - challenge.issuedAt ≤ attestChallengeTtl) →
        ∃ sig now, out = .ok sig ∧
          s'.sessions deviceId = some ⟨key, now + deviceSessionTtl, 0⟩ ∧
          (∀ {g'' : EdgeGlobals} {tr : List (Event Edge)} {r : Except EdgeError Unit},
            Runs ((readResult lib (Reply.attestAccepted sig) >>= fun _ => edgeHandshake).go g') tr
              (r, g'') →
            ∃ t done, tr = [.did .monoNow t, .did (.handshakeComplete challenge.serverPub
              challenge.nonce identity.sec1 sig) done]) ∧
          ∀ {inv : Invocation} {tr : List (Event Tee)} {r : Except TeeError Unit} {frame : Frame},
            CompletesHandshake challenge inv → Runs (inv.program d.frame.sess) tr (r, frame) →
            Fair (Attends C identity challenge sig) tr →
            r = .ok () ∧ frame.sess.sessionKey = key ∧ frame.sess.sessionKeyValid = true ∧
              frame.sess.sendSeq = 0 := by
  obtain ⟨msg, rfl, rfl, hquote, rfl⟩ := (d.takesChallenge i drawn hlib g).runs host answered
  let a := d.genuine i laws hquote
  refine ⟨_, a.response, a.key, rfl, attestResponseOf_message .., ?_⟩
  intro s s' tr out registered pending heval fresh
  obtain ⟨sig, now, rfl, hlen, hsig, hstored⟩ := a.verified registered pending heval fresh
  refine ⟨sig, now, rfl, hstored, ?_, ?_⟩
  · intro g'' tr r hruns
    have hpost := wp_runs hruns (readResult_handsOver hlib hlen g)
    cases r with
    | ok _ =>
      obtain ⟨t, rfl⟩ := hpost
      exact ⟨t, true, rfl⟩
    | error _ =>
      obtain ⟨t, rfl⟩ := hpost
      exact ⟨t, false, rfl⟩
  · intro inv tr r frame call hruns hfair
    obtain ⟨_, rfl, hsess⟩ :=
      (handshakeComplete_sure call i.live drawn.server hlen hsig).runs hruns hfair
    have hsame : C.hkdf (C.ecdh i.keypair.d (C.pub challenge.serverPriv)) challenge.nonce hkdfInfo
        sessionKeySize = a.key := by
      rw [laws.ecdh, ← i.pub]
      rfl
    have hkey : a.key.length = sessionKeySize := laws.hkdf
    refine ⟨rfl, ?_, ?_, ?_⟩
    · rw [hsess]
      dsimp only
      rw [hsame, hkey, ← array, List.drop_length, List.append_nil]
    · rw [hsess]
    · rw [hsess]

end

/-! ## The deployment of the runs -/

namespace Vectors

theorem deviceEphemeral_deployed : deviceEphemeral.pub = serverCrypto.pub deviceEphemeral.d := by
  decide +kernel

/-- The TEE with the server's primitives, and a Host that leaves every buffer alone. -/
def deployedBench (host : Nat → Fin 4 → Bytes) : Bench where
  crypto := serverCrypto
  sign _ _ := taSig
  keypair := deviceEphemeral
  keypair_pub := deviceEphemeral_deployed
  random := random
  store := bench.store
  host := host
  pta := bench.pta
  gcm := aesGcm

/-- Command 3 in a fresh session. -/
def evidenceRun : List (Event Tee) × Except TeeError Unit × Frame :=
  execution (deployedBench evidenceHost) generateEvidence Session.fresh

/-- Command 4 after it. -/
def handshakeRun : List (Event Tee) × Except TeeError Unit × Frame :=
  execution (deployedBench handshakeHost) completeHandshake evidenceRun.2.2.sess

/-- What the TPM's tools leave. -/
def quoteFiles : QuoteFiles where
  message := quoteBody pcr0 transcriptHash
  signature := tpmtSignature quoteSig
  pcrText := Bytes.ascii pcrText

/-- The identity, if it is what an event answers. -/
def identityRead : Event Tee → Option Bytes
  | .ok (.readObjectData .taIdentity _) b => some b
  | _ => none

/-- The two commands return, what they read is what the device is set up with, and its identity and
its files fit the record and the answer. -/
theorem deployed : (evidenceRun.2.1 = .ok () ∧ handshakeRun.2.1 = .ok ()) ∧
    ((readsOf 1 evidenceRun.1).all (fun r => r.2 = firstChallenge.nonce) = true ∧
      (readsOf 2 evidenceRun.1).all (fun r => r.2 = firstChallenge.serverPub) = true ∧
      (evidenceRun.1.filterMap identityRead).all (fun b => b = identityBlob) = true) ∧
    (identityBlob.length = taIdentityBlobSize ∧ blobDeviceId identityBlob = deviceName.utf8 ∧
      deviceRecord.taPubB64 = b64e (taIdentityBlobToSec1 identityBlob)) ∧
    (quoteFiles.message = genuine.quote.body ∧ genuine.quote.body.length ≤ rawMsgMax - 2) ∧
    (quoteFiles.signature = genuine.signature.raw ∧ genuine.signature.raw.length ≤ rawSigMax) ∧
    recomputePcrDigest lib.toCrypto (edgeLib.text (readWholeFile quoteFiles.pcrText
      (attestationPcrTextMax - 1))) = .ok genuine.quote.pcrDigest := by
  decide +kernel

theorem evidenceRun_runs :
    Runs (generateEvidence.program Session.fresh) evidenceRun.1 (.ok (), evidenceRun.2.2) := by
  have hok := deployed.1.1
  unfold evidenceRun at hok ⊢
  exact execution_runs hok

theorem handshakeRun_runs : Runs (completeHandshake.program evidenceRun.2.2.sess) handshakeRun.1
    (.ok (), handshakeRun.2.2) := by
  have hok := deployed.1.2
  unfold handshakeRun at hok ⊢
  exact execution_runs hok

theorem evidenceRun_nonce : ∀ r ∈ readsOf 1 evidenceRun.1, r.2 = firstChallenge.nonce := by
  intro r hr
  exact of_decide_eq_true (List.all_eq_true.mp deployed.2.1.1 r hr)

theorem evidenceRun_serverPub : ∀ r ∈ readsOf 2 evidenceRun.1, r.2 = firstChallenge.serverPub := by
  intro r hr
  exact of_decide_eq_true (List.all_eq_true.mp deployed.2.1.2.1 r hr)

theorem evidenceRun_identity :
    ∀ b, .ok (.readObjectData .taIdentity taIdentityBlobSize) b ∈ evidenceRun.1 → b = identityBlob := by
  intro b hev
  have hread : b ∈ evidenceRun.1.filterMap identityRead := List.mem_filterMap.mpr ⟨_, hev, rfl⟩
  exact of_decide_eq_true (List.all_eq_true.mp deployed.2.1.2.2 b hread)

theorem identityBlob_sealed : identityBlob.length = taIdentityBlobSize ∧
    blobDeviceId identityBlob = deviceName.utf8 ∧
    deviceRecord.taPubB64 = b64e (taIdentityBlobToSec1 identityBlob) :=
  deployed.2.2.1

theorem quoteFiles_fit : (quoteFiles.message = genuine.quote.body ∧
      genuine.quote.body.length ≤ rawMsgMax - 2) ∧
    (quoteFiles.signature = genuine.signature.raw ∧ genuine.signature.raw.length ≤ rawSigMax) ∧
    recomputePcrDigest lib.toCrypto (edgeLib.text (readWholeFile quoteFiles.pcrText
      (attestationPcrTextMax - 1))) = .ok genuine.quote.pcrDigest :=
  deployed.2.2.2

theorem generateEvidence_command :
    Command.ofId generateEvidence.cmdId = some .generateAttestationEvidence := rfl

/-- The device of the first challenge. -/
def honestDevice : HonestDevice lib edgeLib deviceName deviceRecord firstChallenge where
  sess := Session.fresh
  inv := generateEvidence
  tr := evidenceRun.1
  frame := evidenceRun.2.2
  memory := ⟨fun _ _ => 0, []⟩
  blob := identityBlob
  quote := genuine.quote
  signature := genuine.signature
  files := quoteFiles
  command := generateEvidence_command
  runs := evidenceRun_runs
  correct := execution_correct (deployedBench evidenceHost) generateEvidence Session.fresh
  nonce := evidenceRun_nonce
  serverPub := evidenceRun_serverPub
  identity := evidenceRun_identity
  length_blob := identityBlob_sealed.1
  sealedId := identityBlob_sealed.2.1
  message := quoteFiles_fit.1
  signatureFile := quoteFiles_fit.2.1
  pcrs := quoteFiles_fit.2.2
  baseline := genuine.baseline
  ak := genuine.ak
  signed := genuine.signed
  taEnrolled := identityBlob_sealed.2.2

theorem honestDevice_frame : honestDevice.frame = evidenceRun.2.2 := by
  dsimp only [honestDevice]

/-- The Host takes the challenge. -/
def hostRun : List (Event Edge) × (Except EdgeError JsonValue × EdgeGlobals) × UplinkState :=
  serve (fun s c => match c with | .req r => nomatch r | .act a => edgeAnswer 0 s a)
    ((readChallenge edgeLib (Reply.attestChallenge (challengeMessage serverIdentity.pub
      firstChallenge)) >>= fun _ => answerChallenge edgeLib deviceName).go .initial)
    (.start (.started enrolled) 0)

def reportFields (r : AttestationEvidence) : Text × Text × Bytes :=
  (r.quoteB64, r.signatureB64, r.pcrValuesText)

theorem reportFields_injective : Function.Injective reportFields := by
  rintro ⟨q, s, p⟩ ⟨q', s', p'⟩ h
  simp only [reportFields, Prod.mk.injEq] at h
  obtain ⟨rfl, rfl, rfl⟩ := h
  rfl

/-- It is answered by the device. -/
def byTheDevice : Event Edge → Bool
  | .did (.generateEvidence _ _) b => b = some (deviceEphemeral.pub.sec1, transcriptHash ++ taSig)
  | .did (.attestationReport hash) b => hash = transcriptHash ∧
    b.map reportFields = some (b64e (quoteOver pcr0 transcriptHash), b64e (tpmtSignature quoteSig),
      Bytes.ascii pcrText)
  | _ => true

/-- The server takes the answer. -/
def serverRun : List (Event Server) × (Except PyError Bytes × Unit) × ServerState :=
  serve (firstDesk.serve lib) ((verifyAndDerive lib deviceName genuineAnswer).go ()) challenged

/-- The Host gets the device's answers, and the server is served. -/
theorem answered : hostRun.1.all byTheDevice = true ∧
    (createAttestationReport honestDevice.files).map reportFields =
      some (b64e (quoteOver pcr0 transcriptHash), b64e (tpmtSignature quoteSig),
        Bytes.ascii pcrText) ∧
    evidenceAnswer honestDevice.memory honestDevice.tr (.ok (), honestDevice.frame) =
      some (deviceEphemeral.pub.sec1, transcriptHash ++ taSig) ∧
    serverRun.1.all (signsRight lib serverIdentity.pub) = true := by
  decide +kernel

theorem serverRun_evals : Evals (ServerStep lib serverIdentity.pub)
    ((verifyAndDerive lib deviceName genuineAnswer).go ()) challenged serverRun.1 serverRun.2.1
    serverRun.2.2 :=
  serve_evals firstDesk.serve_step answered.2.2.2

theorem serve_runs {S : Sig} {α τ : Type} (env : τ → (c : Call S) → c.Ans × τ) (p : Prog S α)
    (t : τ) : Runs p (serve env p t).1 (serve env p t).2.1 := by
  induction p generalizing t with
  | ret a => exact .refl _
  | call c k ih => exact .call _ (ih _ _)

theorem hostRun_runs : Runs ((readChallenge edgeLib (Reply.attestChallenge (challengeMessage
    serverIdentity.pub firstChallenge)) >>= fun _ => answerChallenge edgeLib deviceName).go .initial)
    hostRun.1 (hostRun.2.1.1, hostRun.2.1.2) := by
  rw [Prod.mk.eta]
  unfold hostRun
  exact serve_runs ..

theorem evidence_held : evidenceAnswer honestDevice.memory honestDevice.tr
    (.ok (), honestDevice.frame) = some (deviceEphemeral.pub.sec1, transcriptHash ++ taSig) :=
  answered.2.2.1

theorem hostRun_answers : Fair honestDevice.Answers hostRun.1 := by
  obtain ⟨hall, hreport, -, -⟩ := answered
  intro ev hev
  have hdone := List.all_eq_true.mp hall ev hev
  cases ev with
  | ok r b => trivial
  | refused r e => trivial
  | did a b =>
    cases a with
    | generateEvidence nonce serverPub =>
      intro _ _
      exact (of_decide_eq_true hdone).trans evidence_held.symm
    | attestationReport hash =>
      obtain ⟨rfl, hb⟩ := of_decide_eq_true hdone
      exact ⟨rfl, Option.map_injective reportFields_injective (hb.trans hreport.symm)⟩
    | connect | send conn msg | recv conn | close conn | monoNow | handshakeComplete _ _ _ _
    | readAndProtect => trivial

end Vectors

theorem handshake_agrees_played : ∃ s' sig now,
    EvalsP (ServerStep Vectors.lib Vectors.serverIdentity.pub)
      (verifyAndDerive Vectors.lib Vectors.deviceName Vectors.genuineAnswer) () Vectors.challenged
      Vectors.serverRun.1 (.ok sig) () s' ∧
    Runs (Vectors.completeHandshake.program Vectors.evidenceRun.2.2.sess) Vectors.handshakeRun.1
      (.ok (), Vectors.handshakeRun.2.2) ∧
    s'.sessions Vectors.deviceName =
      some ⟨Vectors.handshakeRun.2.2.sess.sessionKey, now + deviceSessionTtl, 0⟩ := by
  obtain ⟨i⟩ := Vectors.honestDevice.issued
  have hlive : i.keypair = Vectors.deviceEphemeral := by
    have hheld : Vectors.honestDevice.frame.sess.ecdhKeypair = some Vectors.deviceEphemeral := by
      decide +kernel
    exact Option.some.inj (i.live.symm.trans hheld)
  have hsig : i.sig = Vectors.taSig := by
    have hblock := congrArg Prod.snd (Option.some.inj (i.answer.symm.trans Vectors.evidence_held))
    exact (List.append_inj hblock (i.length_hash.trans (by decide +kernel))).2
  have hdecodes : Vectors.edgeLib.Decodes := by
    intro b
    show (b64d (.str (b64e b))).toOption = some b
    rw [b64d_b64e]
    rfl
  have drawn : Vectors.firstChallenge.OfServer Vectors.lib := ⟨by decide +kernel, by decide +kernel⟩
  have laws : Vectors.honestDevice.KeyLaws i := {
    ta := by decide +kernel
    decodes := by rw [hlive]; decide +kernel
    ecdh := by rw [hlive]; decide +kernel
    hkdf := by rw [hlive]; decide +kernel }
  obtain ⟨msg, response, key, hmsg, hresponse, hserver⟩ := handshake_agrees Vectors.honestDevice i
    laws drawn hdecodes (by decide +kernel) Vectors.hostRun_runs Vectors.hostRun_answers
  have hgenuine : response = Vectors.genuineAnswer := by
    obtain ⟨msg', hmsg', -, -, rfl⟩ := (Vectors.honestDevice.takesChallenge i drawn hdecodes
      .initial).runs Vectors.hostRun_runs Vectors.hostRun_answers
    obtain rfl := Except.ok.inj (hmsg.symm.trans hmsg')
    rw [hlive, hsig] at hresponse
    rw [← Vectors.genuine_response]
    exact Except.ok.inj (hresponse.symm.trans (attestResponseOf_message ..))
  subst hgenuine
  have hserved := Vectors.serverRun_evals
  have hready : Vectors.challenged.registry Vectors.deviceName = some Vectors.deviceRecord ∧
      Vectors.challenged.pending Vectors.deviceName = some Vectors.firstChallenge := by
    decide +kernel
  have hfresh : inTime Vectors.firstChallenge Vectors.serverRun.1 = true := by decide +kernel
  have hout : Vectors.serverRun.2.1.1.toOption = some Vectors.serverSig := by decide +kernel
  generalize Vectors.serverRun = run at hserved hfresh hout ⊢
  obtain ⟨tr, ⟨out, ⟨⟩⟩, s'⟩ := run
  obtain ⟨sig, now, rfl, hstored, -, hta⟩ :=
    hserver hready.1 hready.2 hserved (fresh_of hfresh)
  obtain rfl := Option.some.inj hout
  have call : CompletesHandshake Vectors.firstChallenge Vectors.completeHandshake := {
    command := by decide
    types := by decide
    serverPub := by decide
    nonce := by decide +kernel
    identity := by decide
    sig := by decide }
  have hfair : Fair (Attends Vectors.lib Vectors.serverIdentity.pub Vectors.firstChallenge
      Vectors.serverSig) Vectors.handshakeRun.1 := by
    have hobliges : ∀ ev ∈ Vectors.handshakeRun.1, Obliges Vectors.lib Vectors.serverIdentity.pub
        Vectors.firstChallenge Vectors.serverSig ev := by decide +kernel
    intro ev hev
    exact ⟨execution_correct (Vectors.deployedBench Vectors.handshakeHost)
      Vectors.completeHandshake _ ev hev, hobliges ev hev⟩
  rw [Vectors.honestDevice_frame] at hta
  obtain ⟨-, hkey, -⟩ := hta call Vectors.handshakeRun_runs hfair
  rw [← hkey] at hstored
  exact ⟨s', Vectors.serverSig, now, hserved, Vectors.handshakeRun_runs, hstored⟩

end ConfidentialIoT
