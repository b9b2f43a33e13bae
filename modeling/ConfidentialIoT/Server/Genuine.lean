import ConfidentialIoT.Server.Challenges
import ConfidentialIoT.Server.Marshal

/-!
# `Server/Genuine.lean` — the answer of a genuine device

What a device that was enrolled with a record makes of a challenge: a quote of its TPM over the
transcript, signed by the enrolled AK, the PCR values it quotes, and the signature of the enrolled
TA identity. It passes every check of `verify_and_derive` (`GenuineAnswer.no_failure`): the quote
is built field by field and parsed by offset, and the two meet here.
-/

set_option autoImplicit false

namespace ConfidentialIoT

open Effects

/-- A genuine answer to a challenge, by the device of a record. -/
structure GenuineAnswer (C : CryptoLib) (deviceId : Text) (record : DeviceRecord)
    (challenge : PendingChallenge) where
  /-- the device's ephemeral point -/
  point : Point
  quote : TpmQuote
  signature : TpmSignature
  /-- what `tpm2_pcrread` prints -/
  pcrText : Text
  taPub : Point
  taSig : Bytes
  onCurve : C.fromEncodedPoint point.sec1 = some point
  transcript : quote.extraData =
    computeTranscriptHash C.toCrypto challenge.nonce challenge.serverPub point.sec1
  quoted : recomputePcrDigest C.toCrypto pcrText = .ok quote.pcrDigest
  baseline : recomputePcrDigest C.toCrypto record.expectedPcr = .ok quote.pcrDigest
  ak : C.loadPem record.akPubPem = .ec
  signed : C.pemVerify record.akPubPem quote.body (Bytes.ofBE signature.r)
    (Bytes.ofBE signature.s) = true
  taEnrolled : record.taPubB64 = b64e taPub.sec1
  taOnCurve : C.fromEncodedPoint taPub.sec1 = some taPub
  length_taSig : taSig.length = taIdentitySigLen
  taSigned : C.ecdsaVerify taPub (C.sha256 (taIdentityPreimage challenge.nonce challenge.serverPub
    point.sec1 deviceId.utf8)) taSig = true

namespace GenuineAnswer

variable {C : CryptoLib} {identity : Point} {deviceId : Text} {record : DeviceRecord}
  {challenge : PendingChallenge} (a : GenuineAnswer C deviceId record challenge)

/-- As it is sent. -/
def response : AttestResponse where
  deviceEcdhPub := .str (b64e a.point.sec1)
  quote := .str (b64e a.quote.raw)
  signature := .str (b64e a.signature.raw)
  pcrValues := .str a.pcrText
  taSig := .str (b64e a.taSig)

/-- As the server decodes it. -/
def presented : Presented where
  devicePub := a.point.sec1
  taSig := a.taSig
  attest := ⟨a.quote.body, a.quote.extraData, a.quote.pcrDigest⟩
  r := Bytes.ofBE a.signature.r
  s := Bytes.ofBE a.signature.s
  pcrDigest := a.quote.pcrDigest

theorem presents : Presents C.toCrypto a.response a.presented where
  devicePub := b64d_b64e _
  quote := ⟨a.quote.raw, b64d_b64e _, parseTpmsAttest_raw _⟩
  signature := ⟨a.signature.raw, b64d_b64e _, parseTpmtSignatureEcdsa_raw _⟩
  taSig := b64d_b64e _
  length_devicePub := Point.length_sec1 _
  length_taSig := a.length_taSig
  pcrValues := ⟨a.pcrText, rfl, a.quoted⟩
  signed := rfl

theorem matches_record : Matches C record challenge a.presented a.taPub where
  transcript := a.transcript
  baseline := a.baseline
  taPub_ne := by
    rw [a.taEnrolled]
    intro h
    have hdecoded := b64d_b64e a.taPub.sec1
    rw [h] at hdecoded
    have hlen := congrArg List.length (Except.ok.inj hdecoded)
    rw [Point.length_sec1] at hlen
    cases hlen
  taPub := ⟨a.taPub.sec1, a.taEnrolled ▸ b64d_b64e _, a.taOnCurve⟩

include a in
theorem loadAk_ok : loadAk C record = .ok () := by
  rw [loadAk, a.ak]

theorem present_ok : present C.toCrypto a.response = .ok a.presented := present_eq_ok.mpr a.presents

theorem matchRecord_ok : matchRecord C record challenge a.presented = .ok a.taPub :=
  matchRecord_eq_ok.mpr a.matches_record

/-- The key the server derives. -/
def key : Bytes :=
  C.hkdf (C.ecdh challenge.serverPriv a.point) challenge.nonce hkdfInfo aeadKeyLen

theorem deviceKey_ok : deviceKey C challenge a.presented.devicePub = .ok a.key :=
  deviceKey_eq_ok.mpr ⟨a.point, a.onCurve, rfl⟩

theorem quote_verifies : C.ecVerify (.pem record.akPubPem) a.presented.attest.rawBody a.presented.r
    a.presented.s = true := a.signed

/-- The signature, which the server takes apart, is put together again. -/
theorem ta_verifies : C.ecVerify (.p256 a.taPub) (taIdentityPreimage challenge.nonce
    challenge.serverPub a.presented.devicePub deviceId.utf8)
    (Bytes.ofBE (a.presented.taSig.slice 0 32)) (Bytes.ofBE (a.presented.taSig.slice 32 32)) =
      true := by
  have hlen : a.taSig.length = 64 := a.length_taSig
  have hr : (a.taSig.slice 0 32).length = 32 := Bytes.length_slice _ _ _ (by omega)
  have hs : (a.taSig.slice 32 32).length = 32 := Bytes.length_slice _ _ _ (by omega)
  have hwhole : a.taSig.slice 0 32 ++ a.taSig.slice 32 32 = a.taSig := by
    have happ : _ = a.taSig.slice 0 64 := Bytes.slice_append_slice a.taSig 0 32 32
    rw [← hlen] at happ
    exact happ.trans (Bytes.slice_zero_length _)
  have hr' := Bytes.ofBE_lt (a.taSig.slice 0 32)
  have hs' := Bytes.ofBE_lt (a.taSig.slice 32 32)
  rw [hr] at hr'
  rw [hs] at hs'
  show (decide (Bytes.ofBE (a.taSig.slice 0 32) < 256 ^ 32) &&
    decide (Bytes.ofBE (a.taSig.slice 32 32) < 256 ^ 32) && C.ecdsaVerify a.taPub _
      (Bytes.toBE 32 (Bytes.ofBE (a.taSig.slice 0 32)) ++
        Bytes.toBE 32 (Bytes.ofBE (a.taSig.slice 32 32)))) = true
  rw [decide_eq_true hr', decide_eq_true hs', Bytes.toBE_ofBE_of_length hr,
    Bytes.toBE_ofBE_of_length hs, hwhole]
  exact a.taSigned

/-- **A genuine answer in time does not fail**, when the signature checks tell the truth. -/
theorem no_failure {now : Time} {tr : List (Event Server)} {e : PyError} {s : ServerState}
    (fresh : now - challenge.issuedAt ≤ attestChallengeTtl)
    (facts : ∀ ev ∈ tr, ServerFact C identity s ev)
    (h : AnswerFailure C deviceId record challenge a.response now tr e) : False := by
  have same : ∀ {p : Presented}, Presents C.toCrypto a.response p → p = a.presented := by
    intro p hp
    exact Except.ok.inj ((present_eq_ok.mpr hp).symm.trans a.present_ok)
  cases h with
  | expired h => exact absurd h (Int.not_lt.mpr fresh)
  | presented _ h => cases a.present_ok.symm.trans h
  | ak _ _ h => cases a.loadAk_ok.symm.trans h
  | quote _ hp _ =>
    have hfact := facts _ (List.mem_cons_self ..)
    rw [same hp] at hfact
    cases hfact.trans a.quote_verifies
  | matched _ hp _ h =>
    rw [same hp] at h
    cases a.matchRecord_ok.symm.trans h
  | ta _ hp _ hq =>
    have hfact := facts _ (List.mem_cons_of_mem _ (List.mem_cons_self ..))
    rw [same hp] at hfact hq
    obtain rfl := Except.ok.inj ((matchRecord_eq_ok.mpr hq).symm.trans a.matchRecord_ok)
    cases hfact.trans a.ta_verifies
  | key _ hp _ _ h =>
    rw [same hp] at h
    cases a.deviceKey_ok.symm.trans h

end GenuineAnswer

namespace Vectors

/-- The quote of the first handshake, by its fields. -/
def deviceQuote (extraData : Bytes) (h : extraData.length = 32) : TpmQuote where
  qualifiedSigner :=
    Bytes.toBE 34 0x000bcf0744b3ff6904040e83ac934a8d530f1a500539d7ccfc0c06c914476ddbf142
  extraData := extraData
  clockInfo := ⟨Bytes.toBE 17 0x00000000000f4240000000030000000101, by simp⟩
  firmwareVersion := ⟨Bytes.toBE 8 0x2020031200120000, by simp⟩
  selections := [⟨0x000b, pcr0, by decide⟩]
  pcrDigest := pcrDigest
  fits := by
    simp [QuoteFields.body, QuoteFields.head, tpm2b, PcrSelection.marshal, h, pcr0, pcrDigest]

/-- A signature of the AK, by its halves. -/
def deviceSignature (sig : Bytes) (h : sig.length = 64) : TpmSignature where
  hashAlg := 0x000b
  r := sig.take 32
  s := sig.drop 32
  fits_r := by simp [h]
  fits_s := by simp [h]

def firstChallenge : PendingChallenge := ⟨nonce, serverEphemeral.d, serverEphemeral.pub.sec1, 0⟩

/-- The device's answer to the first challenge. -/
def genuine : GenuineAnswer lib deviceName deviceRecord firstChallenge where
  point := deviceEphemeral.pub
  quote := deviceQuote transcriptHash (by simp [transcriptHash])
  signature := deviceSignature quoteSig (by simp [quoteSig])
  pcrText := pcrText
  taPub := taIdentity.pub
  taSig := taSig
  onCurve := by decide +kernel
  transcript := by decide +kernel
  quoted := by decide +kernel
  baseline := by decide +kernel
  ak := by decide +kernel
  signed := by decide +kernel
  taEnrolled := rfl
  taOnCurve := by decide +kernel
  length_taSig := by simp [taSig, taIdentitySigLen]
  taSigned := by decide +kernel

theorem genuine_response : genuine.response = genuineAnswer := by
  have hquote : genuine.quote.raw = quoteOver pcr0 transcriptHash := by decide +kernel
  have hsig : genuine.signature.raw = tpmtSignature quoteSig := by decide +kernel
  rw [GenuineAnswer.response, hquote, hsig]
  rfl

end Vectors

end ConfidentialIoT
