import ConfidentialIoT.Server.Marshal

/-!
# `Host/Report.lean` — `create_attestation_report`

What the Host CA makes of the files `tpm2_quote` and `tpm2_pcrread` leave. `tpm2_quote -m` writes
the body of the quote without a size, and the server parses a `TPM2B_ATTEST`, so the Host puts the
two bytes of the size in front. With them the server reads back what the TPM has written
(`parsing_undoes_marshalling`).
-/

set_option autoImplicit false

namespace ConfidentialIoT

/-- `sizeof(raw_msg)` -/
def rawMsgMax : Nat := 1024

/-- `sizeof(raw_sig)` -/
def rawSigMax : Nat := 512

/-- `ATTESTATION_QUOTE_B64_MAX` -/
def attestationQuoteB64Max : Nat := 2048

/-- `ATTESTATION_SIG_B64_MAX` -/
def attestationSigB64Max : Nat := 1024

/-- `ATTESTATION_PCR_TEXT_MAX` -/
def attestationPcrTextMax : Nat := 4096

/-- `read_whole_file`, of a file that can be opened and read: one `fread`. -/
def readWholeFile (contents : Bytes) (cap : Nat) : Bytes := contents.take cap

/-- `mbedtls_base64_encode`: the text and its NUL have to fit. -/
def mbedtlsBase64Encode (size : Nat) (b : Bytes) : Option Text :=
  if size < (b64e b).length + 1 then none else some (b64e b)

/-- The files of one quote. -/
structure QuoteFiles where
  message : Bytes
  signature : Bytes
  pcrText : Bytes

/-- `struct attestation_evidence` -/
structure AttestationEvidence where
  quoteB64 : Text
  signatureB64 : Text
  pcrValuesText : Bytes

/-- `raw_msg`: the size of what was read, and what was read. -/
def rawMsg (message : Bytes) : Bytes :=
  let body := readWholeFile message (rawMsgMax - 2)
  UInt8.ofNat (body.length / 256) :: UInt8.ofNat (body.length % 256) :: body

/-- The end of `create_attestation_report`, once both commands have succeeded. -/
def createAttestationReport (files : QuoteFiles) : Option AttestationEvidence := do
  let quoteB64 ← mbedtlsBase64Encode attestationQuoteB64Max (rawMsg files.message)
  let signatureB64 ← mbedtlsBase64Encode attestationSigB64Max
    (readWholeFile files.signature rawSigMax)
  return ⟨quoteB64, signatureB64, readWholeFile files.pcrText (attestationPcrTextMax - 1)⟩

/-! ## What is sent -/

/-- The size is the one of the `TPM2B`. -/
theorem rawMsg_eq {message : Bytes} (h : message.length ≤ rawMsgMax - 2) :
    rawMsg message = tpm2b message := by
  have hall : readWholeFile message (rawMsgMax - 2) = message := List.take_of_length_le h
  have hbig : Bytes.toBE 2 message.length =
      [UInt8.ofNat (message.length / 256), UInt8.ofNat message.length] := by
    simp [Bytes.toBE]
  have hlow : UInt8.ofNat (message.length % 256) = UInt8.ofNat message.length := by
    apply UInt8.toNat_inj.mp
    simp
  unfold rawMsg tpm2b
  rw [hall, hbig]
  dsimp only
  rw [hlow]
  rfl

theorem length_encode (b : Bytes) : (b64e b).length = (b.length + 2) / 3 * 4 := by
  unfold b64e
  fun_induction Base64.encode b with
  | case1 => rfl
  | case2 a => simp
  | case3 a b => simp
  | case4 a b c rest ih =>
    simp only [List.length_cons, ih]
    omega

/-- The texts fit. -/
theorem createAttestationReport_eq (files : QuoteFiles) :
    createAttestationReport files = some ⟨b64e (rawMsg files.message),
      b64e (readWholeFile files.signature rawSigMax),
      readWholeFile files.pcrText (attestationPcrTextMax - 1)⟩ := by
  have hmsg : (rawMsg files.message).length ≤ rawMsgMax := by
    simp only [rawMsg, readWholeFile, List.length_cons, List.length_take, rawMsgMax]
    omega
  have hsig : (readWholeFile files.signature rawSigMax).length ≤ rawSigMax := by
    rw [readWholeFile, List.length_take]
    exact Nat.min_le_left ..
  have hquote : ¬ attestationQuoteB64Max < (b64e (rawMsg files.message)).length + 1 := by
    rw [length_encode]
    simp only [attestationQuoteB64Max, rawMsgMax] at hmsg ⊢
    omega
  have hsignature : ¬ attestationSigB64Max <
      (b64e (readWholeFile files.signature rawSigMax)).length + 1 := by
    rw [length_encode]
    simp only [attestationSigB64Max, rawSigMax] at hsig ⊢
    omega
  simp only [createAttestationReport, mbedtlsBase64Encode, if_neg hquote, if_neg hsignature]
  rfl

/-- **Parsing undoes marshalling.**

* Of the `TPM2B_ATTEST` of a quote the server reads the body, the extra data and the digest.
* Of a `TPMT_SIGNATURE` it reads the two integers, however their bytes are padded.
* What the Host sends of a body that fits its buffer is the base64 of its `TPM2B_ATTEST`. -/
theorem parsing_undoes_marshalling :
    (∀ q : TpmQuote, parseTpmsAttest q.raw = .ok ⟨q.body, q.extraData, q.pcrDigest⟩) ∧
    (∀ sig : TpmSignature,
      parseTpmtSignatureEcdsa sig.raw = .ok (Bytes.ofBE sig.r, Bytes.ofBE sig.s)) ∧
    (∀ files : QuoteFiles, files.message.length ≤ 1022 →
      rawMsg files.message = tpm2b files.message ∧
      ∃ ev, createAttestationReport files = some ev ∧
        b64d (.str ev.quoteB64) = .ok (tpm2b files.message)) := by
  refine ⟨parseTpmsAttest_raw, parseTpmtSignatureEcdsa_raw, ?_⟩
  intro files hfits
  have hraw : rawMsg files.message = tpm2b files.message := rawMsg_eq hfits
  refine ⟨hraw, _, createAttestationReport_eq files, ?_⟩
  show b64d (.str (b64e (rawMsg files.message))) = _
  rw [b64d_b64e, hraw]

/-- A quote of PCR 0 in one bank and of PCRs 0 and 7 in another. -/
def twoBanks : TpmQuote where
  qualifiedSigner := [0x00, 0x0b, 0xa5]
  extraData := List.replicate 32 0x11
  clockInfo := ⟨List.replicate 17 0x22, rfl⟩
  firmwareVersion := ⟨List.replicate 8 0x33, rfl⟩
  selections := [⟨0x000b, [0x01, 0x00, 0x00], by decide⟩, ⟨0x0004, [0x81], by decide⟩]
  pcrDigest := List.replicate 32 0x44
  fits := by decide +kernel

/-- A signature whose first half is padded and whose second half is stripped. -/
def unevenHalves : TpmSignature where
  hashAlg := 0x000b
  r := 0x00 :: List.replicate 32 0x55
  s := List.replicate 31 0x66
  fits_r := by decide
  fits_s := by decide

/-- They are read back, and so is what the Host sends of the quote. -/
theorem parsing_undoes_marshalling_played :
    parseTpmsAttest twoBanks.raw =
      .ok ⟨twoBanks.body, List.replicate 32 0x11, List.replicate 32 0x44⟩ ∧
    parseTpmtSignatureEcdsa unevenHalves.raw =
      .ok (Bytes.ofBE (List.replicate 32 0x55), Bytes.ofBE (List.replicate 31 0x66)) ∧
    ∃ ev, createAttestationReport ⟨twoBanks.body, unevenHalves.raw, []⟩ = some ev ∧
      b64d (.str ev.quoteB64) = .ok twoBanks.raw := by
  have hfits : twoBanks.body.length ≤ 1022 := by decide +kernel
  obtain ⟨hquote, hsignature, hreport⟩ := parsing_undoes_marshalling
  refine ⟨hquote twoBanks, ?_, (hreport ⟨twoBanks.body, unevenHalves.raw, []⟩ hfits).2⟩
  have hpadded : Bytes.ofBE unevenHalves.r = Bytes.ofBE (List.replicate 32 0x55) := by decide +kernel
  exact (hsignature unevenHalves).trans (by rw [hpadded]; rfl)

end ConfidentialIoT
