import ConfidentialIoT.TrustedApp.Scripted

/-!
# `TrustedApp/Evidence.lean` — what GENERATE_ATTESTATION_EVIDENCE signs

The buffers of the command are the Host's, before, during and after. The command is safe
because of an order of events, so that is what is proved: everything that matters in the
execution is one list, `upToSignature`, in which each input is read exactly once and both
digests are over what those reads gave.

One weakest precondition carries both halves of the result. Its assertion, `SignsOwnKey`, is
checked at every call of every execution, finished or not; its postcondition is about the
executions that return `TEE_SUCCESS`.
-/

set_option autoImplicit false

namespace ConfidentialIoT

open Effects

/-! ## The execution, entry by entry -/

/-- The answers GENERATE_ATTESTATION_EVIDENCE gets on its way to the signature. -/
structure EvidenceInputs where
  nonceLen : Nat
  nonce : BytesN nonceLen
  serverPub : BytesN ecdhPubkeySize
  keypair : EcKeyPair
  hash : Bytes
  /-- the sealed identity -/
  blob : Bytes
  digest : Bytes

namespace EvidenceInputs

variable (e : EvidenceInputs)

/-- The bytes of the transcript: what the quote's qualifying data is the hash of. -/
def transcriptBytes : Bytes := transcript e.nonce.1 e.serverPub.1 e.keypair.pub.sec1

/-- The bytes whose hash is signed. -/
def signedBytes : Bytes :=
  taIdentityPreimage e.nonce.1 e.serverPub.1 e.keypair.pub.sec1 (blobDeviceId e.blob)

/-- The reads of the two inputs and the fresh key. -/
def upToKey : List (Event Tee) := [
  .did (.hostRead 1 0 e.nonceLen) e.nonce,
  .did (.hostRead 2 0 ecdhPubkeySize) e.serverPub,
  .ok (.generateKey .ecdhKeypair 256) e.keypair]

/-- Everything that matters before the signature, in order. -/
def upToSignature : List (Event Tee) := e.upToKey ++ ([
  .did (.hostWrite 0 0 e.keypair.pub.sec1) (),
  .ok (.digestDoFinal e.transcriptBytes transcriptHashSize) e.hash,
  .did (.hostWrite 3 0 e.hash) (),
  .ok (.readObjectData .taIdentity taIdentityBlobSize) e.blob,
  .ok (.digestDoFinal e.signedBytes transcriptHashSize) e.digest] : List (Event Tee))

/-- The signature and its publication. -/
def withSignature (sig : Bytes) : List (Event Tee) := e.upToSignature ++ ([
  .ok (.asymmetricSignDigest (blobD e.blob) (blobX e.blob) (blobY e.blob) e.digest taSigSize) sig,
  .did (.hostWrite 3 transcriptHashSize sig) ()] : List (Event Tee))

end EvidenceInputs

/-! ## The assertion -/

/-- A signature is only ever asked for over the key generated in this call: by a correct TEE,
after exactly the events of `upToSignature`, with the sealed scalar. -/
def SignsOwnKey (C : Crypto) (tr : List (Event Tee)) : Call Tee → Prop
  | .req (.asymmetricSignDigest d x y digest _) => TeeCorrect C tr →
    ∃ e : EvidenceInputs, essential tr = e.upToSignature ∧
      digest = C.sha256 e.signedBytes ∧ d = blobD e.blob ∧ x = blobX e.blob ∧ y = blobY e.blob
  | _ => True

/-- What a successful call has done, with the keypair it generated. -/
def EvidenceIssued (C : Crypto) (tr : List (Event Tee)) (keypair : EcKeyPair) : Prop :=
  ∃ (e : EvidenceInputs) (sig : Bytes), e.keypair = keypair ∧ essential tr = e.withSignature sig ∧
    e.hash = C.sha256 e.transcriptBytes ∧ e.digest = C.sha256 e.signedBytes

section

variable {A : List (Event Tee) → Call Tee → Prop} {s : Frame} {tr : List (Event Tee)}

/-- Whether a call is a request for a signature. -/
def signs : Call Tee → Bool
  | .req (.asymmetricSignDigest _ _ _ _ _) => true
  | _ => false

@[simp] theorem signs_req (r : TeeReq) :
    signs (.req r) = match r with | .asymmetricSignDigest _ _ _ _ _ => true | _ => false := by
  cases r <;> rfl

@[simp] theorem signs_act (a : TeeAct) : signs (.act a) = false := by
  cases a <;> rfl

/-- `sign_ta_identity`, whatever is asserted of the signature request. -/
theorem signTaIdentity_spec (nonce serverPub devicePub : Bytes)
    (hA : ∀ tr c, signs c = false → A tr c)
    (hsign : ∀ tr' blob digest, tr <+: tr' → essential tr' = essential tr ++ [
        .ok (.readObjectData .taIdentity taIdentityBlobSize) blob,
        .ok (.digestDoFinal (taIdentityPreimage nonce serverPub devicePub (blobDeviceId blob))
          transcriptHashSize) digest] →
      A tr' (.req (.asymmetricSignDigest (blobD blob) (blobX blob) (blobY blob) digest taSigSize))) :
    wpP A (signTaIdentity nonce serverPub devicePub)
      (fun tr' s' sig => s' = s ∧ ∃ blob digest, essential tr' = essential tr ++ [
        .ok (.readObjectData .taIdentity taIdentityBlobSize) blob,
        .ok (.digestDoFinal (taIdentityPreimage nonce serverPub devicePub (blobDeviceId blob))
          transcriptHashSize) digest,
        .ok (.asymmetricSignDigest (blobD blob) (blobX blob) (blobY blob) digest taSigSize) sig,
        .did (.hostWrite 3 transcriptHashSize sig) ()])
      (fun _ _ _ => True) s tr := by
  simp [signTaIdentity, sealedTaIdentity, readTaIdentityBlob, hA, housekeeping]
  intro _ blob _ _ _ _ _ _ _ digest _
  apply hsign
  · exact List.prefix_append _ _
  · simp [housekeeping]

end

section

variable {C : Crypto}

theorem signsOwnKey_of_not_signs {tr : List (Event Tee)} {c : Call Tee} (h : signs c = false) :
    SignsOwnKey C tr c := by
  cases c with
  | act a => trivial
  | req r => cases r <;> trivial

/-- A correct TEE's digests are the hashes of what they were fed. -/
theorem digest_eq {tr : List (Event Tee)} (hC : TeeCorrect C tr) {msg digest : Bytes}
    (h : Event.ok (S := Tee) (.digestDoFinal msg transcriptHashSize) digest ∈ essential tr) :
    digest = C.sha256 msg := hC _ (List.mem_filter.mp h).1

/-- From the fresh key on, in a history that has read each input once and drawn the key. -/
theorem evidenceFor_spec (e : EvidenceInputs) (s : Frame) {tr : List (Event Tee)}
    (hpre : essential tr = e.upToKey) :
    wpP (SignsOwnKey C) (evidenceFor e.keypair e.nonce.1 e.serverPub.1)
      (fun tr' s' _ => s'.sess = s.sess ∧ (TeeCorrect C tr' → EvidenceIssued C tr' e.keypair))
      (fun _ _ _ => True) s tr := by
  rw [evidenceFor]
  apply wpP_seq (readPublicPoint_spec e.keypair fun _ _ _ => trivial)
  · rintro tr₁ s₁ devicePub h₁ ⟨rfl, hess₁, -, hpub⟩
    simp [signsOwnKey_of_not_signs]
    intro i hash _ _
    generalize htr₂ : tr₁ ++ _ = tr₂
    have h₂ : tr₁ <+: tr₂ := htr₂ ▸ List.prefix_append _ _
    have hess₂ : essential tr₂ = e.upToKey ++ ([
        .did (.hostWrite 0 0 devicePub) (),
        .ok (.digestDoFinal (transcript e.nonce.1 e.serverPub.1 devicePub) transcriptHashSize) hash,
        .did (.hostWrite 3 0 hash) ()] : List (Event Tee)) := by
      rw [← hpre, ← hess₁, ← htr₂]
      simp [housekeeping]
    -- by a correct TEE, a history that continues `tr₂` names the keypair's own point
    have hsnap : ∀ tr', tr₂ <+: tr' → TeeCorrect C tr' →
        devicePub = e.keypair.pub.sec1 ∧ hash = C.sha256 (e.transcriptBytes) := by
      intro tr' hpre' hC
      have hdev := hpub C (hC.of_prefix (h₂.trans hpre'))
      refine ⟨hdev, ?_⟩
      rw [EvidenceInputs.transcriptBytes, ← hdev]
      exact digest_eq (hC.of_prefix hpre') (by simp [hess₂])
    apply wpP_use (signTaIdentity_spec _ _ devicePub (fun _ _ => signsOwnKey_of_not_signs) ?_)
    · rintro tr' s' sig hpre' ⟨rfl, blob, digest, hess'⟩
      refine ⟨rfl, ?_⟩
      intro hC
      obtain ⟨rfl, hhash⟩ := hsnap tr' hpre' hC
      refine ⟨{ e with hash := hash, blob := blob, digest := digest }, sig, rfl, ?_, hhash, ?_⟩
      · simp [hess', hess₂, EvidenceInputs.withSignature, EvidenceInputs.upToSignature,
          EvidenceInputs.upToKey, EvidenceInputs.transcriptBytes, EvidenceInputs.signedBytes]
      · exact digest_eq hC (by simp [hess', EvidenceInputs.signedBytes])
    · intro _ _ _ _ _
      trivial
    · intro tr' blob digest hpre' hess' hC
      obtain ⟨rfl, hhash⟩ := hsnap tr' hpre' hC
      refine ⟨{ e with hash := hash, blob := blob, digest := digest }, ?_, ?_, rfl, rfl, rfl⟩
      · simp [hess', hess₂, EvidenceInputs.upToSignature,
          EvidenceInputs.upToKey, EvidenceInputs.transcriptBytes, EvidenceInputs.signedBytes]
      · exact digest_eq hC (by simp [hess', EvidenceInputs.signedBytes])
  · intro _ _ _ _ _
    trivial

/-- CMD 3 as a whole: the assertion at every call, the record of a successful one. -/
theorem taGenerateAttestationEvidence_spec (paramTypes : UInt32) (sess : Session)
    (params : Params) :
    wpP (SignsOwnKey C) (taGenerateAttestationEvidence paramTypes)
      (fun tr s _ => TeeCorrect C tr →
        ∃ keypair, s.sess.ecdhKeypair = some keypair ∧ EvidenceIssued C tr keypair)
      (fun _ _ _ => True) ⟨sess, params⟩ [] := by
  simp [taGenerateAttestationEvidence, evidenceOverFreshKey, signsOwnKey_of_not_signs]
  intro _ _ nonce hnonce serverPub hserverPub _ keypair
  have hspec := evidenceFor_spec (C := C)
    ⟨(params 1).size, ⟨nonce, hnonce⟩, ⟨serverPub, hserverPub⟩, keypair, [], [], []⟩
  refine wpP_use (hspec _ (by simp [housekeeping, EvidenceInputs.upToKey])) ?_ ?_
  · rintro tr' s' _ _ ⟨hsess, hissued⟩ hC
    exact ⟨keypair, by simp [hsess], hissued hC⟩
  · intro _ _ _ _ _
    trivial

/-- The other commands ask for no signature at all. -/
theorem taInvokeCommand_signsOwnKey (inv : Invocation) (sess : Session) :
    wpP (SignsOwnKey C) (taInvokeCommand inv.cmdId inv.paramTypes)
      (fun tr s _ => Command.ofId inv.cmdId = some .generateAttestationEvidence →
        TeeCorrect C tr → ∃ keypair, s.sess.ecdhKeypair = some keypair ∧
          EvidenceIssued C tr keypair)
      (fun _ _ _ => True) ⟨sess, inv.params⟩ [] := by
  have quiet : ∀ tr c, signs c = false → SignsOwnKey C tr c := fun _ _ => signsOwnKey_of_not_signs
  unfold taInvokeCommand
  cases hc : Command.ofId inv.cmdId with
  | none => trivial
  | some cmd =>
    cases cmd with
    | generateAttestationEvidence =>
      refine wpP_conseq (taGenerateAttestationEvidence_spec _ _ _) ?_ ?_
      · intro _ _ _ h _
        exact h
      · intro _ _ _ _
        trivial
    | authenticateSensor =>
      simp [taAuthenticateSensor, readSensorSecret, openSensorPta, quiet]
    | readAndProtect =>
      simp [taReadAndProtect, readAndProtectGates, readAndProtectOpen, readSensorReading,
        openSensorPta, sealReading, quiet]
    | handshakeComplete =>
      simp [taHandshakeComplete, handshakeOverKey, readPublicPoint, readEcCoordinate,
        authenticateServer, serverIdentityDigest, checkServerKey, pinnedServerKey,
        verifyServerSignature, verifyKeyCoords, pinServerKey, deriveSessionKey, quiet]
    | provisionSensorSecret =>
      simp [taProvisionSensorSecret, fetchSensorSecret, openSensorPta, quiet]
    | generateTaIdentity =>
      simp [taGenerateTaIdentity, sealedTaIdentity, readTaIdentityBlob, exportTaIdentity,
        mintTaIdentity, readEcCoordinate, quiet]

end

/-- The keypair is determined by what matters before the signature. -/
theorem keypair_eq_of_prefix (e e' : EvidenceInputs) (sig : Bytes) (rest : List (Event Tee))
    (h : e.upToSignature ++ rest = e'.withSignature sig) : e.keypair = e'.keypair := by
  simp only [EvidenceInputs.withSignature, EvidenceInputs.upToSignature, EvidenceInputs.upToKey,
    List.cons_append, List.nil_append, List.cons.injEq, Event.ok.injEq,
    heq_eq_eq, true_and] at h
  exact h.2.2.1

/-- **The evidence signature covers only this session's own key, whatever the Host writes.**
In any state of a session, against every choice of the Host's buffers and every sealed blob:

* a GENERATE_ATTESTATION_EVIDENCE that returns `TEE_SUCCESS` leaves in the session the keypair
  it generated in this call, and all that mattered in it is `withSignature`: one read of the
  nonce, one of the server key, the transcript digest and the signed digest both over those two
  reads and that keypair's SEC1 point, the latter ending in the sealed id;
* whenever any command asks for a signature, finished or not, it is over such a digest, and the
  only ephemeral keypair the session has been given in this call is the one inside it. -/
theorem evidence_signs_own_key (C : Crypto) (inv : Invocation) (sess : Session) :
    (∀ tr frame, Command.ofId inv.cmdId = some .generateAttestationEvidence →
      Runs (inv.program sess) tr (.ok (), frame) → TeeCorrect C tr →
      ∃ keypair, frame.sess.ecdhKeypair = some keypair ∧ EvidenceIssued C tr keypair) ∧
    (∀ pre ev post rest d x y digest size, Steps (inv.program sess) (pre ++ ev :: post) rest →
      ev.call = .req (.asymmetricSignDigest d x y digest size) → TeeCorrect C pre →
      ∃ e : EvidenceInputs, essential pre = e.upToSignature ∧ digest = C.sha256 e.signedBytes ∧
        d = blobD e.blob ∧ x = blobX e.blob ∧ y = blobY e.blob ∧
        ∀ tr' frame, Command.ofId inv.cmdId = some .generateAttestationEvidence →
          Steps rest tr' (.ret (.ok (), frame)) → TeeCorrect C (pre ++ ev :: post ++ tr') →
          frame.sess.ecdhKeypair = some e.keypair) := by
  have hspec := taInvokeCommand_signsOwnKey (C := C) inv sess
  have succeeds : ∀ tr frame, Command.ofId inv.cmdId = some .generateAttestationEvidence →
      Runs (inv.program sess) tr (.ok (), frame) → TeeCorrect C tr →
      ∃ keypair, frame.sess.ecdhKeypair = some keypair ∧ EvidenceIssued C tr keypair := by
    intro tr frame hc runs hC
    exact wp_runs runs hspec hc hC
  refine ⟨succeeds, ?_⟩
  intro pre ev post rest d x y digest size steps hcall hC
  have hasserted := wp_asserts_mem steps hspec
  rw [hcall] at hasserted
  obtain ⟨e, hess, hdigest, hd, hx, hy⟩ := hasserted hC
  refine ⟨e, hess, hdigest, hd, hx, hy, ?_⟩
  intro tr' frame hc steps' hC'
  obtain ⟨keypair, hkp, e', sig, rfl, hess', _⟩ := succeeds _ frame hc (steps.trans steps') hC'
  rw [hkp, keypair_eq_of_prefix e e' sig (essential (ev :: post ++ tr'))
    (by simp [← hess, ← hess'])]

/-- In a fresh session of the provisioned device: evidence is issued, and the history in front
of its signature is the asserted one. -/
theorem evidence_signs_own_key_played :
    ∃ (tr : List (Event Tee)) (frame : Frame) (keypair : EcKeyPair) (e : EvidenceInputs)
        (pre post : List (Event Tee)) (ev : Event Tee),
      Runs (Vectors.generateEvidence.program Session.fresh) tr (.ok (), frame) ∧
      frame.sess.ecdhKeypair = some keypair ∧ EvidenceIssued Vectors.crypto tr keypair ∧
      tr = pre ++ ev :: post ∧ signs ev.call = true ∧ essential pre = e.upToSignature := by
  have hruns := @execution_runs Vectors.evidenceBench Vectors.generateEvidence Session.fresh
    (by decide +kernel)
  have hC := execution_correct Vectors.evidenceBench Vectors.generateEvidence Session.fresh
  have hthm := evidence_signs_own_key Vectors.crypto Vectors.generateEvidence Session.fresh
  obtain ⟨keypair, hkp, hissued⟩ := hthm.1 _ _ (by decide) hruns hC
  obtain ⟨e, sig, _, hess, _, _⟩ := id hissued
  have hmem : Event.ok (S := Tee) (.asymmetricSignDigest (blobD e.blob) (blobX e.blob)
      (blobY e.blob) e.digest taSigSize) sig ∈ essential (execution Vectors.evidenceBench
        Vectors.generateEvidence Session.fresh).1 := by
    rw [hess]
    simp [EvidenceInputs.withSignature]
  obtain ⟨pre, post, hsplit⟩ := List.append_of_mem (List.mem_filter.mp hmem).1
  obtain ⟨e', hess', _⟩ := hthm.2 pre _ post _ _ _ _ _ _ (hsplit ▸ hruns) rfl
    (hC.of_prefix (hsplit ▸ List.prefix_append _ _))
  exact ⟨_, _, keypair, e', pre, post, _, hruns, hkp, hissued, hsplit, rfl, hess'⟩

end ConfidentialIoT
