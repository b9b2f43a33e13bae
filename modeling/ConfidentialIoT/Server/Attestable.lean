import ConfidentialIoT.Server.Commit
import ConfidentialIoT.Server.Endpoint
import ConfidentialIoT.Server.Genuine

/-!
# `Server/Attestable.lean` — what an enrolment is good for

`register_device` checks the TA's key and takes the AK and the baseline as they come;
`verify_and_derive` uses all three. A new record can attest exactly if the two that are not checked
happen to be usable (`enrolled_attestable_iff`), and nothing replaces it if they are not.
-/

set_option autoImplicit false

namespace ConfidentialIoT

open Effects

/-- The verifier can use a record. -/
structure Usable (C : CryptoLib) (record : DeviceRecord) : Prop where
  ak : C.loadPem record.akPubPem = .ec
  pcr : ∃ digest, recomputePcrDigest C.toCrypto record.expectedPcr = .ok digest
  ta : ∃ raw q, b64d (.str record.taPubB64) = .ok raw ∧ C.fromEncodedPoint raw = some q

/-- In some state some response makes `verify_and_derive` succeed under the record. -/
def Attestable (C : CryptoLib) (identity : Point) (record : DeviceRecord) : Prop :=
  ∃ response s tr sig s', s.registry record.deviceId = some record ∧
    EvalsP (ServerStep C identity) (verifyAndDerive C record.deviceId response) () s tr (.ok sig) () s'

/-- What the package promises of keys and digests: every key has a holder who can sign. -/
structure Signs (C : CryptoLib) (identity : Point) : Prop where
  length_sha256 : ∀ message, (C.sha256 message).length = 32
  ak : ∀ pem message, C.loadPem pem = .ec → ∃ r s : Bytes, r.length ≤ 66 ∧ s.length ≤ 66 ∧
    C.pemVerify pem message (Bytes.ofBE r) (Bytes.ofBE s) = true
  point : ∀ q digest, C.fromEncodedPoint q.sec1 = some q →
    ∃ sig : Bytes, sig.length = 64 ∧ C.ecdsaVerify q digest sig = true
  server : ∀ digest, ∃ sig : Bytes, sig.length = 64 ∧ C.ecdsaVerify identity digest sig = true

section

variable {C : CryptoLib} {identity : Point} {record : DeviceRecord}

/-! ## A genuine answer succeeds -/

/-- A genuine answer, as a call has vetted it. -/
def GenuineAnswer.vetting {deviceId : Text} {challenge : PendingChallenge}
    (a : GenuineAnswer C deviceId record challenge) : Vetting C deviceId where
  record := record
  pending := challenge
  now := challenge.issuedAt
  response := a.response
  presented := a.presented
  taPub := a.taPub
  fresh := by
    rw [Int.sub_self]
    decide
  presents := a.presents
  ak := a.loadAk_ok
  matched := a.matches_record

theorem GenuineAnswer.passes {deviceId : Text} {challenge : PendingChallenge}
    (a : GenuineAnswer C deviceId record challenge) {s : ServerState}
    (hrecord : s.registry deviceId = some record) (hpending : s.pending deviceId = some challenge) :
    a.vetting.Passes s a.response where
  registered := hrecord
  pending := hpending
  response := rfl
  quote := a.quote_verifies
  ta := a.ta_verifies
  key := ⟨a.key, a.deviceKey_ok⟩

/-- A call that passes every check returns the server's signature. -/
theorem Vetting.Passes.returns {deviceId : Text} {v : Vetting C deviceId} {response : AttestResponse}
    {s : ServerState} (h : v.Passes s response) (signs : Signs C identity) {key : Bytes}
    (hkey : deviceKey C v.pending v.presented.devicePub = .ok key) :
    ∃ tr sig s', EvalsP (ServerStep C identity) (verifyAndDerive C deviceId response) () s tr
      (.ok sig) () s' := by
  obtain ⟨sig, hlen, hsig⟩ := signs.server (C.sha256 v.serverPreimage)
  have hcommit : EvalsP (ServerStep C identity) _ () s _ _ () _ := h.commits hkey 0
  have hsign : ∀ t, EvalsP (ServerStep C identity)
      (step (.signServerIdentity v.serverPreimage) : Py Unit Bytes) () t _ (.ok sig) () t :=
    fun t => evalsP_act.mpr ⟨sig, rfl, rfl, rfl, hlen, hsig, rfl⟩
  have hwhole : EvalsP (ServerStep C identity) (commitSession C deviceId response >>=
      fun preimage => step (.signServerIdentity preimage)) () s _ (.ok sig) () _ :=
    evalsP_bind.mpr (Or.inr ⟨_, _, _, _, _, rfl, hcommit, hsign _⟩)
  rw [← verifyAndDerive_eq] at hwhole
  exact ⟨_, sig, _, hwhole⟩

/-- A server that has enrolled one device, and has challenged it. -/
def challenging (record : DeviceRecord) (challenge : PendingChallenge) : ServerState where
  registry := fun _ => some record
  pending := fun _ => some challenge
  sessions := fun _ => none
  buf := fun _ => []
  verdict := fun _ => none

/-- The device of a record answers a challenge, and the call returns the server's signature. -/
theorem GenuineAnswer.attests {challenge : PendingChallenge}
    (a : GenuineAnswer C record.deviceId record challenge) (signs : Signs C identity) :
    Attestable C identity record := by
  have hpasses : a.vetting.Passes (challenging record challenge) a.response := a.passes rfl rfl
  obtain ⟨tr, sig, s', hevals⟩ := hpasses.returns signs a.deviceKey_ok
  exact ⟨a.response, _, tr, sig, s', rfl, hevals⟩

/-! ## The iff -/

/-- A response is accepted only under a record that is usable. -/
theorem usable_of_accepted {deviceId : Text} {response : AttestResponse} {s s' : ServerState}
    {tr : List (Event Server)} {sig : Bytes} (hrecord : s.registry deviceId = some record)
    (hevals : EvalsP (ServerStep C identity) (verifyAndDerive C deviceId response) () s tr (.ok sig)
      () s') : Usable C record := by
  rw [verifyAndDerive_eq] at hevals
  rcases evalsP_bind.mp hevals with ⟨e, he, -⟩ | ⟨preimage, _, s₁, tr₁, tr₂, -, hcommit, -⟩
  · cases he
  · obtain ⟨v, key, now, hpasses, -, -⟩ := commitSession_evals hcommit
    have hv : v.record = record := Option.some.inj (hpasses.registered.symm.trans hrecord)
    have hak : C.loadPem record.akPubPem = .ec := by
      have hload := v.ak
      rw [hv, loadAk] at hload
      cases hpem : C.loadPem record.akPubPem with
      | ec => rfl
      | invalid =>
        rw [hpem] at hload
        cases hload
      | notEc =>
        rw [hpem] at hload
        cases hload
    obtain ⟨raw, hraw, hq⟩ := v.matched.taPub
    exact ⟨hak, ⟨_, hv ▸ v.matched.baseline⟩, raw, v.taPub, hv ▸ hraw, hq⟩

theorem Attestable.usable (h : Attestable C identity record) : Usable C record := by
  obtain ⟨response, s, tr, sig, s', hrecord, hevals⟩ := h
  exact usable_of_accepted hrecord hevals

/-- A quote over a transcript of 32 bytes, with a digest of 32 bytes. -/
def plainQuote (selections : List PcrSelection) (extraData digest : Bytes)
    (hselections : (selections.flatMap PcrSelection.marshal).length ≤ 1024)
    (h : extraData.length = 32) (h' : digest.length = 32) : TpmQuote where
  qualifiedSigner := []
  extraData := extraData
  clockInfo := ⟨List.replicate 17 0, rfl⟩
  firmwareVersion := ⟨List.replicate 8 0, rfl⟩
  selections := selections
  pcrDigest := digest
  fits := by
    simp only [QuoteFields.body, QuoteFields.head, tpm2b, List.length_append, Bytes.length_toBE,
      List.length_replicate, List.length_nil, h, h']
    omega

/-- A record with three usable keys has a genuine answer to every challenge, over whatever PCRs the
TPM was asked to quote and with whatever text has the baseline's digest. -/
theorem Usable.answers (signs : Signs C identity) (h : Usable C record) {q : Point}
    (henrolled : record.taPubB64 = b64e q.sec1) (hcurve : C.fromEncodedPoint q.sec1 = some q)
    (deviceId : Text) (challenge : PendingChallenge) {selections : List PcrSelection}
    (hselections : (selections.flatMap PcrSelection.marshal).length ≤ 1024) {text : Text}
    (htext : recomputePcrDigest C.toCrypto text =
      recomputePcrDigest C.toCrypto record.expectedPcr) :
    ∃ a : GenuineAnswer C deviceId record challenge,
      a.quote.selections = selections ∧ a.pcrText = text ∧ a.taPub = q := by
  obtain ⟨digest, hdigest⟩ := h.pcr
  have hdigestLen : digest.length = 32 := by
    have hhash := hdigest
    unfold recomputePcrDigest at hhash
    simp only [bind_eq_ok, pure_eq_ok] at hhash
    obtain ⟨values, -, rfl⟩ := hhash
    exact signs.length_sha256 _
  let quote := plainQuote selections
    (computeTranscriptHash C.toCrypto challenge.nonce challenge.serverPub q.sec1) digest hselections
    (signs.length_sha256 _) hdigestLen
  obtain ⟨r, s, hr, hs, hsigned⟩ := signs.ak record.akPubPem quote.body h.ak
  obtain ⟨taSig, htaLen, htaSig⟩ := signs.point q
    (C.sha256
    (taIdentityPreimage challenge.nonce challenge.serverPub q.sec1 deviceId.utf8)) hcurve
  exact ⟨{
    point := q
    quote := quote
    signature := ⟨0x000b, r, s, by omega, by omega⟩
    pcrText := text
    taPub := q
    taSig := taSig
    onCurve := hcurve
    transcript := rfl
    quoted := htext.trans hdigest
    baseline := hdigest
    ak := h.ak
    signed := hsigned
    taEnrolled := henrolled
    taOnCurve := hcurve
    length_taSig := htaLen
    taSigned := htaSig }, rfl, rfl, rfl⟩

theorem Usable.attestable (signs : Signs C identity) (h : Usable C record) {q : Point}
    (henrolled : record.taPubB64 = b64e q.sec1) (hcurve : C.fromEncodedPoint q.sec1 = some q) :
    Attestable C identity record := by
  obtain ⟨a, -, -, -⟩ := @Usable.answers C identity record signs h q henrolled hcurve record.deviceId
    ⟨[], 0, [], 0⟩ [] (Nat.zero_le _) record.expectedPcr rfl
  exact a.attests signs

end

/-- **A new enrolment can attest if and only if the AK that was submitted loads as an EC key and the
baseline that was submitted has a PCR value.** -/
theorem enrolled_attestable_iff (rt : Runtime) (C : CryptoLib) (identity : Point)
    (signs : Signs C identity) {body : JsonValue} {conn conn' : Connection} {s s' : ServerState}
    {tr : List (Event Server)} {record : DeviceRecord}
    (h : EvalsP (ServerStep C identity) (registerBody rt C body) conn s tr
      (.ok (.enrolled record true)) conn' s') :
    ∃ sub, submissionOf rt C body = .ok sub ∧ s'.registry record.deviceId = some record ∧
      (Usable C record ↔ C.loadPem sub.akPubPem = .ec ∧
        ∃ digest, recomputePcrDigest C.toCrypto sub.expectedPcr = .ok digest) ∧
      (Attestable C identity record ↔ C.loadPem sub.akPubPem = .ec ∧
        ∃ digest, recomputePcrDigest C.toCrypto sub.expectedPcr = .ok digest) := by
  cases hsub : submissionOf rt C body with
  | error e =>
    unfold registerBody at h
    rw [hsub] at h
    dsimp only at h
    split at h
    · obtain ⟨-, hr, -⟩ := evalsP_pure.mp h
      cases hr
    · obtain ⟨-, hr, -⟩ := evalsP_throw.mp h
      cases hr
  | ok sub =>
    have hsubmits := submissionOf_iff.mp hsub
    rcases hsubmits.evals h with ⟨field, hr, -⟩ | ⟨_, hr, -⟩ | ⟨_, hr, hid, hpins, -, rfl⟩
    · cases hr
    · cases hr
    · cases hr
      have hak : record.akPubPem = sub.akPubPem := congrArg Pins.akPubPem hpins
      have hta : record.taPubB64 = sub.taPubB64 := congrArg Pins.taPubB64 hpins
      have hpcr : record.expectedPcr = sub.expectedPcr := congrArg Pins.expectedPcr hpins
      obtain ⟨y, raw, -, -, hlen, -, hcurve, hraw⟩ := hsubmits.taPub
      obtain ⟨q, hq⟩ := Option.isSome_iff_exists.mp hcurve
      have hsec1 : q.sec1 = raw := C.fromEncodedPoint_sec1 raw q hlen hq
      have henrolled : record.taPubB64 = b64e q.sec1 := by rw [hta, hraw, hsec1]
      have husable : Usable C record ↔ C.loadPem sub.akPubPem = .ec ∧
          ∃ digest, recomputePcrDigest C.toCrypto sub.expectedPcr = .ok digest := by
        rw [← hak, ← hpcr]
        constructor
        · intro usable
          exact ⟨usable.ak, usable.pcr⟩
        · rintro ⟨ak, pcr⟩
          exact ⟨ak, pcr, raw, q, henrolled ▸ hsec1 ▸ b64d_b64e _, hq⟩
      refine ⟨sub, rfl, ?_, husable, ?_⟩
      · rw [hid]
        exact Function.update_self ..
      · rw [← husable]
        constructor
        · intro attestable
          exact attestable.usable
        · intro usable
          exact usable.attestable signs henrolled (hsec1 ▸ hq)

namespace Vectors

/-- The package on the device's inputs; for every other message a fixed pair stands for the signature
that the key's holder would make. -/
def signingLib : CryptoLib := { lib with
  toCrypto := { serverCrypto with
    sha256 := fun message => (fit 32 (serverCrypto.sha256 message)).1
    ecdsaVerify := fun q digest sig => serverCrypto.ecdsaVerify q digest sig ||
      sig = Bytes.toBE 32 1 ++ Bytes.toBE 32 1 }
  pemVerify := fun pem message r s => lib.pemVerify pem message r s || (r = 1 && s = 1) }

theorem signingLib_signs : Signs signingLib serverIdentity.pub where
  length_sha256 message := (fit 32 _).2
  ak pem message _ := by
    refine ⟨[1], [1], by decide, by decide, ?_⟩
    show (lib.pemVerify pem message _ _ || _) = true
    exact Bool.or_eq_true_iff.mpr (Or.inr (by decide))
  point q digest _ := by
    refine ⟨Bytes.toBE 32 1 ++ Bytes.toBE 32 1, by simp, ?_⟩
    exact Bool.or_eq_true_iff.mpr (Or.inr (decide_eq_true rfl))
  server digest := by
    refine ⟨Bytes.toBE 32 1 ++ Bytes.toBE 32 1, by simp, ?_⟩
    exact Bool.or_eq_true_iff.mpr (Or.inr (decide_eq_true rfl))

/-- What is posted, on its own in front of an empty registry. -/
def posted (body : JsonValue) :
    List (Event Server) × (Except PyError (EnrolReply DeviceRecord) × Connection) × ServerState :=
  serve (firstDesk.serve signingLib) ((registerBody enrolPython signingLib body).go .accepted)
    (.started fun _ => none)

theorem posted_evals {body : JsonValue} {reply : Except PyError (EnrolReply DeviceRecord)}
    (hok : (posted body).1.all (signsRight signingLib serverIdentity.pub) = true)
    (hreply : (posted body).2.1.1 = reply) :
    EvalsP (ServerStep signingLib serverIdentity.pub)
      (registerBody enrolPython signingLib body) .accepted (.started fun _ => none)
      (posted body).1 reply (posted body).2.1.2 (posted body).2.2 := by
  have h := serve_evals (R := ServerStep signingLib serverIdentity.pub)
    (firstDesk.serve_step (C := signingLib)) hok
  subst hreply
  exact h

/-- What the tests of the endpoint post: the first line of a PEM, and a value of three hex digits. -/
def testBody : JsonValue := .obj [
  ("device_id".toList, .str "iot-edge-01".toList),
  ("ak_pub_pem_b64".toList, .str (b64e (Bytes.ascii "-----BEGIN PUBLIC KEY-----\n".toList))),
  ("expected_pcr".toList, .str "sha256:\n  0 : 0xabc\n".toList),
  ("pcr_bank".toList, .str "sha256:0".toList),
  ("ta_pub_b64".toList, .str (b64e taIdentity.pub.sec1))]

end Vectors

/-- The device's own body: what is enrolled can attest. -/
theorem enrolled_attestable_played :
    Attestable Vectors.signingLib Vectors.serverIdentity.pub Vectors.deviceRecord := by
  obtain ⟨hsigned, hreply⟩ : (Vectors.posted Vectors.deviceBody).1.all
        (signsRight Vectors.signingLib Vectors.serverIdentity.pub) = true ∧
      (Vectors.posted Vectors.deviceBody).2.1.1 = .ok (.enrolled Vectors.deviceRecord true) := by
    decide +kernel
  have hposted := Vectors.posted_evals hsigned hreply
  obtain ⟨sub, hsub, -, -, hattestable⟩ := enrolled_attestable_iff Vectors.enrolPython
    Vectors.signingLib Vectors.serverIdentity.pub Vectors.signingLib_signs
    hposted
  have hread : submissionOf Vectors.enrolPython Vectors.signingLib Vectors.deviceBody = .ok
      ⟨Vectors.deviceName, Vectors.akPem, Vectors.pcrText, "sha256:0".toList,
        b64e Vectors.taIdentity.pub.sec1⟩ := by decide +kernel
  cases hread.symm.trans hsub
  exact hattestable.mpr ⟨by decide +kernel, Vectors.pcrDigest, by decide +kernel⟩

/-- The tests' own body is answered as a new enrolment, and no PEM is in it. -/
theorem test_body_is_locked_out : ¬ ∀ (rt : Runtime) (C : CryptoLib) (identity : Point) body conn s
    tr record conn' s', rt.Documented → Signs C identity →
    EvalsP (ServerStep C identity) (registerBody rt C body) conn s tr
      (.ok (.enrolled record true)) conn' s' → Usable C record ∧ Attestable C identity record := by
  intro attests
  have hposted : ∃ record, record.akPubPem = "-----BEGIN PUBLIC KEY-----\n".toList ∧
      (Vectors.posted Vectors.testBody).1.all
        (signsRight Vectors.signingLib Vectors.serverIdentity.pub) = true ∧
      (Vectors.posted Vectors.testBody).2.1.1 = .ok (.enrolled record true) :=
    ⟨⟨"iot-edge-01".toList, "-----BEGIN PUBLIC KEY-----\n".toList, "sha256:\n  0 : 0xabc\n".toList,
      "sha256:0".toList, 0, b64e Vectors.taIdentity.pub.sec1⟩, rfl, by decide +kernel⟩
  obtain ⟨record, hak, hsigned, hreply⟩ := hposted
  have husable := (attests _ _ _ _ _ _ _ _ _ _ Vectors.enrolPython_documented
    Vectors.signingLib_signs (Vectors.posted_evals hsigned hreply)).1
  have hpem : Vectors.signingLib.loadPem "-----BEGIN PUBLIC KEY-----\n".toList = .invalid := by
    decide +kernel
  cases (hak ▸ husable.ak).symm.trans hpem

end ConfidentialIoT
