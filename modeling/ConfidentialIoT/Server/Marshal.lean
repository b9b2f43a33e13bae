import Mathlib.Tactic.IntervalCases
import ConfidentialIoT.Server.Quote

/-!
# `Server/Marshal.lean` — what a TPM writes, and that the parsers read it back

A quote and its signature as a TPM marshals them, and the base64 they travel in. The parsers of
`Server/Quote.lean` walk over offsets; a structure that was written is read back field by field
(`parseTpmsAttest_raw`, `parseTpmtSignatureEcdsa_raw`), whatever is in the fields they skip.
-/

set_option autoImplicit false

namespace ConfidentialIoT

/-! ## Base64 -/

namespace Base64

theorem digit_lt (v : Nat) (h : v < 64) : value? (digit v) = some v ∧ digit v ≠ '=' ∧
    (digit v).toNat < 128 := by
  interval_cases v <;> decide

theorem decodeFrom_digit {v : Nat} (h : v < 64) (cs : Text) (quad : List Nat) (pads : Nat) :
    decodeFrom (digit v :: cs) quad pads = match quad with
      | [] => decodeFrom cs [v] 0
      | [p] => (UInt8.ofNat (p * 4 + v / 16) :: ·) <$> decodeFrom cs [p, v] 0
      | [p, q] => (UInt8.ofNat (q % 16 * 16 + v / 4) :: ·) <$> decodeFrom cs [p, q, v] 0
      | _ :: _ :: q :: _ => (UInt8.ofNat (q % 4 * 64 + v) :: ·) <$> decodeFrom cs [] 0 := by
  obtain ⟨hvalue, hpad, -⟩ := digit_lt v h
  rw [decodeFrom.eq_3, if_neg hpad]
  generalize value? (digit v) = found at hvalue ⊢
  subst hvalue
  rfl

theorem byte_eq {a : UInt8} {n : Nat} (h : n % 256 = a.toNat) : UInt8.ofNat n = a := by
  apply UInt8.toNat_inj.mp
  rw [UInt8.toNat_ofNat']
  exact h

theorem decodeFrom_encode (b : Bytes) : decodeFrom (encode b) [] 0 = .ok b := by
  induction b using encode.induct with
  | case1 => rfl
  | case2 a =>
    have ha : a.toNat < 256 := a.toNat_lt
    rw [encode, decodeFrom_digit (by omega), decodeFrom_digit (by omega)]
    simp only [byte_eq (a := a) (n := a.toNat / 4 * 4 + a.toNat % 4 * 16 / 16) (by omega)]
    rfl
  | case3 a b =>
    have ha : a.toNat < 256 := a.toNat_lt
    have hb : b.toNat < 256 := b.toNat_lt
    rw [encode, decodeFrom_digit (by omega), decodeFrom_digit (by omega)]
    simp only [decodeFrom_digit (v := b.toNat % 16 * 4) (by omega),
      byte_eq (a := a) (n := a.toNat / 4 * 4 + (a.toNat % 4 * 16 + b.toNat / 16) / 16) (by omega),
      byte_eq (a := b) (n := (a.toNat % 4 * 16 + b.toNat / 16) % 16 * 16 + b.toNat % 16 * 4 / 4)
        (by omega)]
    rfl
  | case4 a b c rest ih =>
    have ha : a.toNat < 256 := a.toNat_lt
    have hb : b.toNat < 256 := b.toNat_lt
    have hc : c.toNat < 256 := c.toNat_lt
    rw [encode, decodeFrom_digit (by omega), decodeFrom_digit (by omega)]
    simp only [decodeFrom_digit (v := b.toNat % 16 * 4 + c.toNat / 64) (by omega),
      decodeFrom_digit (v := c.toNat % 64) (by omega), ih,
      byte_eq (a := a) (n := a.toNat / 4 * 4 + (a.toNat % 4 * 16 + b.toNat / 16) / 16) (by omega),
      byte_eq (a := b) (n := (a.toNat % 4 * 16 + b.toNat / 16) % 16 * 16 +
        (b.toNat % 16 * 4 + c.toNat / 64) / 4) (by omega),
      byte_eq (a := c) (n := (b.toNat % 16 * 4 + c.toNat / 64) % 4 * 64 + c.toNat % 64) (by omega)]
    rfl

theorem encode_ascii (b : Bytes) : ∀ c ∈ encode b, c.toNat < 128 := by
  have hdigit : ∀ v, v < 64 → (digit v).toNat < 128 := fun v h => (digit_lt v h).2.2
  induction b using encode.induct with
  | case1 => exact nofun
  | case2 a =>
    have ha : a.toNat < 256 := a.toNat_lt
    simp only [encode, List.forall_mem_cons]
    exact ⟨hdigit _ (by omega), hdigit _ (by omega), by decide, by decide, nofun⟩
  | case3 a b =>
    have ha : a.toNat < 256 := a.toNat_lt
    have hb : b.toNat < 256 := b.toNat_lt
    simp only [encode, List.forall_mem_cons]
    exact ⟨hdigit _ (by omega), hdigit _ (by omega), hdigit _ (by omega), by decide, nofun⟩
  | case4 a b c rest ih =>
    have ha : a.toNat < 256 := a.toNat_lt
    have hb : b.toNat < 256 := b.toNat_lt
    have hc : c.toNat < 256 := c.toNat_lt
    simp only [encode, List.forall_mem_cons]
    exact ⟨hdigit _ (by omega), hdigit _ (by omega), hdigit _ (by omega), hdigit _ (by omega), ih⟩

end Base64

/-- **What is encoded is decoded.** -/
theorem b64d_b64e (b : Bytes) : b64d (.str (b64e b)) = .ok b := by
  have hascii : (b64e b).all (fun c => decide (c.toNat < 128)) = true := by
    rw [List.all_eq_true]
    intro c hc
    exact decide_eq_true (Base64.encode_ascii b c hc)
  show (if _ then _ else _) = _
  rw [if_pos hascii]
  exact Base64.decodeFrom_encode b

/-! ## Fields -/

/-- A field that was written at an offset is read there. -/
theorem unpackFrom_part {width v off : Nat} {b p q : Bytes}
    (h : b = p ++ (Bytes.toBE width v ++ q)) (hoff : off = p.length) (hv : v < 256 ^ width) :
    unpackFrom width b off = .ok v := by
  have hfits : off + width ≤ b.length := by
    rw [h, hoff, List.length_append, List.length_append, Bytes.length_toBE]
    omega
  rw [unpackFrom, if_pos hfits, Bytes.slice_eq_part h hoff (Bytes.length_toBE ..).symm,
    Bytes.ofBE_toBE hv]

/-- `TPM2B`: a size and that many bytes. -/
def tpm2b (b : Bytes) : Bytes := Bytes.toBE 2 b.length ++ b

/-! ## `TPMS_ATTEST` -/

/-- A `TPMS_PCR_SELECTION`. -/
structure PcrSelection where
  hashAlg : Nat
  bitmap : Bytes
  fits : bitmap.length < 256

def PcrSelection.marshal (sel : PcrSelection) : Bytes :=
  Bytes.toBE 2 sel.hashAlg ++ (Bytes.toBE 1 sel.bitmap.length ++ sel.bitmap)

/-- What a `TPMS_ATTEST` of a quote contains. -/
structure QuoteFields where
  qualifiedSigner : Bytes
  extraData : Bytes
  clockInfo : BytesN 17
  firmwareVersion : BytesN 8
  selections : List PcrSelection
  pcrDigest : Bytes

namespace QuoteFields

variable (q : QuoteFields)

/-- Up to the PCR selections. -/
def head : Bytes :=
  Bytes.toBE 4 tpmGeneratedValue ++ (Bytes.toBE 2 tpmStAttestQuote ++ (tpm2b q.qualifiedSigner ++
    (tpm2b q.extraData ++ (q.clockInfo.1 ++ q.firmwareVersion.1))))

def body : Bytes :=
  q.head ++ (Bytes.toBE 4 q.selections.length ++ (q.selections.flatMap PcrSelection.marshal ++
    tpm2b q.pcrDigest))

end QuoteFields

/-- A quote whose body fits into a `TPM2B_ATTEST`. -/
structure TpmQuote extends QuoteFields where
  fits : toQuoteFields.body.length < 256 ^ 2

/-- The `TPM2B_ATTEST` that `tpm2_quote -m` writes. -/
def TpmQuote.raw (q : TpmQuote) : Bytes := tpm2b q.body

theorem skipPcrSelections_marshal (sels : List PcrSelection) {b p q : Bytes} {off : Nat}
    (h : b = p ++ (sels.flatMap PcrSelection.marshal ++ q)) (hoff : off = p.length) :
    skipPcrSelections b sels.length off =
      .ok (off + (sels.flatMap PcrSelection.marshal).length) := by
  induction sels generalizing p off with
  | nil => rfl
  | cons sel sels ih =>
    have hsize : unpackFrom 1 b (off + 2) = .ok sel.bitmap.length := by
      refine unpackFrom_part (p := p ++ Bytes.toBE 2 sel.hashAlg)
        (q := sel.bitmap ++ (sels.flatMap PcrSelection.marshal ++ q)) ?_ ?_ (by
          simpa using sel.fits)
      · simpa [PcrSelection.marshal] using h
      · simp [hoff]
    have hrest : skipPcrSelections b sels.length (off + 2 + (1 + sel.bitmap.length)) = _ :=
      ih (p := p ++ sel.marshal) (by simpa using h) (by
        simp [hoff, PcrSelection.marshal]
        omega)
    rw [List.length_cons, skipPcrSelections, hsize]
    show skipPcrSelections b sels.length (off + 2 + (1 + sel.bitmap.length)) = _
    rw [hrest, List.flatMap_cons, List.length_append]
    simp only [PcrSelection.marshal, List.length_append, Bytes.length_toBE]
    congr 1
    omega

/-- The field at an offset is there, or `struct` raises. -/
theorem unpackFrom_eq_ok {width off v : Nat} {b : Bytes} :
    unpackFrom width b off = .ok v ↔
      off + width ≤ b.length ∧ v = Bytes.ofBE (b.slice off width) := by
  unfold unpackFrom
  by_cases hfits : off + width ≤ b.length
  · rw [if_pos hfits]
    exact ⟨fun h => ⟨hfits, (Except.ok.inj h).symm⟩, fun h => h.2 ▸ rfl⟩
  · rw [if_neg hfits]
    exact ⟨nofun, fun h => absurd h.1 hfits⟩

theorem slice_tpm2b (body rest : Bytes) :
    (tpm2b body ++ rest).slice 0 2 = Bytes.toBE 2 body.length ∧
      (tpm2b body ++ rest).slice 2 body.length = body := by
  have hsplit : tpm2b body ++ rest = Bytes.toBE 2 body.length ++ (body ++ rest) :=
    List.append_assoc ..
  constructor
  · exact Bytes.slice_eq_part (p := []) hsplit rfl (Bytes.length_toBE ..).symm
  · exact Bytes.slice_eq_part hsplit (Bytes.length_toBE ..).symm rfl

/-- The parser behind the size, where it does not say too much. -/
theorem parseTpmsAttest_tpm2b {body rest : Bytes} (hlen : body.length < 256 ^ 2) :
    parseTpmsAttest (tpm2b body ++ rest) = (do
      let (extraData, off) ← parseAttestHead body
      let count ← .std (unpackFrom 4 body off)
      let off ← .std (skipPcrSelections body count (off + 4))
      let digestLen ← .std (unpackFrom 2 body off)
      return ⟨body, extraData, body.slice (off + 2) digestLen⟩) := by
  obtain ⟨hsize, hbody⟩ := slice_tpm2b body rest
  have hlong : 2 ≤ (tpm2b body ++ rest).length := by
    rw [tpm2b, List.length_append, List.length_append, Bytes.length_toBE]
    omega
  have hread : unpackFrom 2 (tpm2b body ++ rest) 0 = .ok body.length :=
    unpackFrom_eq_ok.mpr ⟨hlong, by rw [hsize, Bytes.ofBE_toBE hlen]⟩
  have hsame : ¬ body.length ≠ body.length := fun h => h rfl
  simp only [parseTpmsAttest, if_neg (Nat.not_lt.mpr hlong), hread, Raises.std, ok_bind, hbody,
    if_neg hsame]

namespace QuoteFields

variable {q : QuoteFields} {more : Bytes}

theorem parseAttestHead_body (hfits : (q.body ++ more).length < 256 ^ 2) :
    parseAttestHead (q.body ++ more) = .ok (q.extraData, q.head.length) := by
  have hlen := hfits
  simp only [body, head, tpm2b, List.length_append, Bytes.length_toBE] at hlen
  generalize htail : Bytes.toBE 4 q.selections.length ++
    (q.selections.flatMap PcrSelection.marshal ++ (tpm2b q.pcrDigest ++ more)) = tail
  have hbody : q.body ++ more = q.head ++ tail := by
    rw [← htail, body]
    simp only [List.append_assoc]
  rw [hbody]
  have hmagic : unpackFrom 4 (q.head ++ tail) 0 = .ok tpmGeneratedValue :=
    unpackFrom_part (p := []) (by rw [head, List.append_assoc]; rfl) rfl (by decide)
  have htype : unpackFrom 2 (q.head ++ tail) 4 = .ok tpmStAttestQuote :=
    unpackFrom_part (p := Bytes.toBE 4 tpmGeneratedValue)
      (by rw [head, List.append_assoc, List.append_assoc]) (by simp) (by decide)
  have hname : unpackFrom 2 (q.head ++ tail) 6 = .ok q.qualifiedSigner.length :=
    unpackFrom_part (p := Bytes.toBE 4 tpmGeneratedValue ++ Bytes.toBE 2 tpmStAttestQuote)
      (q := q.qualifiedSigner ++ (tpm2b q.extraData ++ (q.clockInfo.1 ++
        (q.firmwareVersion.1 ++ tail))))
      (by rw [head]; simp only [tpm2b, List.append_assoc]) (by simp) (by omega)
  have hextra : unpackFrom 2 (q.head ++ tail) (8 + q.qualifiedSigner.length) =
      .ok q.extraData.length :=
    unpackFrom_part (p := Bytes.toBE 4 tpmGeneratedValue ++ (Bytes.toBE 2 tpmStAttestQuote ++
        tpm2b q.qualifiedSigner))
      (q := q.extraData ++ (q.clockInfo.1 ++ (q.firmwareVersion.1 ++ tail)))
      (by rw [head]; simp only [tpm2b, List.append_assoc])
      (by simp [tpm2b]; omega) (by omega)
  have hslice : (q.head ++ tail).slice (8 + q.qualifiedSigner.length + 2) q.extraData.length =
      q.extraData :=
    Bytes.slice_eq_part (p := Bytes.toBE 4 tpmGeneratedValue ++ (Bytes.toBE 2 tpmStAttestQuote ++
        (tpm2b q.qualifiedSigner ++ Bytes.toBE 2 q.extraData.length)))
      (q := q.clockInfo.1 ++ (q.firmwareVersion.1 ++ tail))
      (by rw [head]; simp only [tpm2b, List.append_assoc])
      (by simp [tpm2b]; omega) rfl
  have hoff : 8 + q.qualifiedSigner.length + 2 + q.extraData.length + 17 + 8 = q.head.length := by
    simp only [head, tpm2b, List.length_append, Bytes.length_toBE, q.clockInfo.2,
      q.firmwareVersion.2]
    omega
  simp only [parseAttestHead, Raises.std, hmagic, ok_bind, htype, hname, hextra, hslice, hoff]
  rfl

/-- A marshalled selection takes at least three bytes. -/
theorem length_selections_le (sels : List PcrSelection) :
    sels.length ≤ (sels.flatMap PcrSelection.marshal).length := by
  induction sels with
  | nil => exact Nat.le_refl _
  | cons sel sels ih =>
    rw [List.flatMap_cons, List.length_append, List.length_cons]
    simp only [PcrSelection.marshal, List.length_append, Bytes.length_toBE]
    omega

end QuoteFields

/-- **A quote that was written is read**, with the extra data and the digest it has; what stands
behind it in the `TPM2B_ATTEST` belongs to the body, and what stands behind that is not looked
at. -/
theorem parseTpmsAttest_complete (q : QuoteFields) {more : Bytes} (rest : Bytes)
    (hfits : (q.body ++ more).length < 256 ^ 2) :
    parseTpmsAttest (tpm2b (q.body ++ more) ++ rest) =
      .ok ⟨q.body ++ more, q.extraData, q.pcrDigest⟩ := by
  have hlen := hfits
  simp only [QuoteFields.body, tpm2b, List.length_append, Bytes.length_toBE] at hlen
  have hsels := QuoteFields.length_selections_le q.selections
  have hbody : q.body ++ more = q.head ++ (Bytes.toBE 4 q.selections.length ++
      (q.selections.flatMap PcrSelection.marshal ++ (tpm2b q.pcrDigest ++ more))) := by
    rw [QuoteFields.body]
    simp only [List.append_assoc]
  have hcount : unpackFrom 4 (q.body ++ more) q.head.length = .ok q.selections.length :=
    unpackFrom_part hbody rfl (by omega)
  have hskip : skipPcrSelections (q.body ++ more) q.selections.length (q.head.length + 4) = _ :=
    skipPcrSelections_marshal q.selections
      (p := q.head ++ Bytes.toBE 4 q.selections.length) (q := tpm2b q.pcrDigest ++ more)
      (by rw [hbody, List.append_assoc]) (by simp)
  have hdigest : unpackFrom 2 (q.body ++ more) (q.head.length + 4 +
      (q.selections.flatMap PcrSelection.marshal).length) = .ok q.pcrDigest.length := by
    refine unpackFrom_part (p := q.head ++ (Bytes.toBE 4 q.selections.length ++
      q.selections.flatMap PcrSelection.marshal)) (q := q.pcrDigest ++ more) ?_ ?_ (by omega)
    · rw [hbody, tpm2b]
      simp only [List.append_assoc]
    · simp
      omega
  have hvalue : (q.body ++ more).slice (q.head.length + 4 +
      (q.selections.flatMap PcrSelection.marshal).length + 2) q.pcrDigest.length = q.pcrDigest := by
    refine Bytes.slice_eq_part (p := q.head ++ (Bytes.toBE 4 q.selections.length ++
      (q.selections.flatMap PcrSelection.marshal ++ Bytes.toBE 2 q.pcrDigest.length)))
      (q := more) ?_ ?_ rfl
    · rw [hbody, tpm2b]
      simp only [List.append_assoc]
    · simp
      omega
  rw [parseTpmsAttest_tpm2b hfits]
  simp only [Raises.std, ok_bind, QuoteFields.parseAttestHead_body hfits, hcount, hskip, hdigest,
    hvalue]
  rfl

theorem parseTpmsAttest_raw (q : TpmQuote) :
    parseTpmsAttest q.raw = .ok ⟨q.body, q.extraData, q.pcrDigest⟩ := by
  have hread := @parseTpmsAttest_complete q.toQuoteFields [] [] (by
    rw [List.append_nil]
    exact q.fits)
  rwa [List.append_nil, List.append_nil] at hread

/-! ## `TPMT_SIGNATURE` -/

/-- An ECDSA signature, its halves as the TPM pads or strips them. -/
structure TpmSignature where
  hashAlg : Nat
  r : Bytes
  s : Bytes
  fits_r : r.length < 256 ^ 2
  fits_s : s.length < 256 ^ 2

/-- The `TPMT_SIGNATURE` that `tpm2_quote -s` writes. -/
def TpmSignature.raw (sig : TpmSignature) : Bytes :=
  Bytes.toBE 2 tpmAlgEcdsa ++ (Bytes.toBE 2 sig.hashAlg ++ (tpm2b sig.r ++ tpm2b sig.s))

/-- **A signature that was written is read**, and what stands behind it is not looked at. -/
theorem parseTpmtSignatureEcdsa_complete (sig : TpmSignature) (rest : Bytes) :
    parseTpmtSignatureEcdsa (sig.raw ++ rest) = .ok (Bytes.ofBE sig.r, Bytes.ofBE sig.s) := by
  have hraw : sig.raw ++ rest = Bytes.toBE 2 tpmAlgEcdsa ++ (Bytes.toBE 2 sig.hashAlg ++
      (tpm2b sig.r ++ (tpm2b sig.s ++ rest))) := by
    rw [TpmSignature.raw]
    simp only [List.append_assoc]
  have halg : unpackFrom 2 (sig.raw ++ rest) 0 = .ok tpmAlgEcdsa :=
    unpackFrom_part (p := []) hraw rfl (by decide)
  have hrlen : unpackFrom 2 (sig.raw ++ rest) 4 = .ok sig.r.length :=
    unpackFrom_part (p := Bytes.toBE 2 tpmAlgEcdsa ++ Bytes.toBE 2 sig.hashAlg)
      (q := sig.r ++ (tpm2b sig.s ++ rest))
      (by rw [hraw]; simp only [tpm2b, List.append_assoc]) (by simp) sig.fits_r
  have hr : (sig.raw ++ rest).slice 6 sig.r.length = sig.r :=
    Bytes.slice_eq_part (p := Bytes.toBE 2 tpmAlgEcdsa ++ (Bytes.toBE 2 sig.hashAlg ++
        Bytes.toBE 2 sig.r.length)) (q := tpm2b sig.s ++ rest)
      (by rw [hraw]; simp only [tpm2b, List.append_assoc]) (by simp) rfl
  have hslen : unpackFrom 2 (sig.raw ++ rest) (6 + sig.r.length) = .ok sig.s.length :=
    unpackFrom_part (p := Bytes.toBE 2 tpmAlgEcdsa ++ (Bytes.toBE 2 sig.hashAlg ++ tpm2b sig.r))
      (q := sig.s ++ rest) (by rw [hraw]; simp only [tpm2b, List.append_assoc])
      (by simp [tpm2b]; omega) sig.fits_s
  have hs : (sig.raw ++ rest).slice (6 + sig.r.length + 2) sig.s.length = sig.s :=
    Bytes.slice_eq_part (p := Bytes.toBE 2 tpmAlgEcdsa ++ (Bytes.toBE 2 sig.hashAlg ++
        (tpm2b sig.r ++ Bytes.toBE 2 sig.s.length))) (q := rest)
      (by rw [hraw]; simp only [tpm2b, List.append_assoc])
      (by simp [tpm2b]; omega) rfl
  have hlong : ¬ (sig.raw ++ rest).length < 4 := by
    simp only [hraw, List.length_append, Bytes.length_toBE]
    omega
  have hecdsa : ¬ tpmAlgEcdsa ≠ tpmAlgEcdsa := fun h => h rfl
  simp only [parseTpmtSignatureEcdsa, Raises.std, if_neg hlong, halg, ok_bind, if_neg hecdsa, hrlen,
    hr, hslen, hs]
  rfl

theorem parseTpmtSignatureEcdsa_raw (sig : TpmSignature) :
    parseTpmtSignatureEcdsa sig.raw = .ok (Bytes.ofBE sig.r, Bytes.ofBE sig.s) := by
  have hread := parseTpmtSignatureEcdsa_complete sig []
  rwa [List.append_nil] at hread

end ConfidentialIoT
