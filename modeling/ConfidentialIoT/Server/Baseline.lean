import ConfidentialIoT.Server.Attestable
import ConfidentialIoT.Server.Truncation

/-!
# `Server/Baseline.lean` — what an accepted attestation says about the PCRs

`verify_and_derive` compares digests of joined values: the reported ones against the quote, and
against the registered baseline. It reads past the quote's PCR selection and never looks at
`pcr_bank`, and a joined string has forgotten which PCR each part is of and where it ends. So
whoever holds the enrolled keys can quote any PCRs that have the baseline's values and report them
under any indices: under every record that can be attested against, and to every challenge, such
an answer is accepted (`accepted_about_baseline_iff`).

Nothing in the repository says how `pcr_bank` is read, so its reading is a parameter.
-/

set_option autoImplicit false

namespace ConfidentialIoT

open Effects

/-! ## Selections -/

/-- The bits of a `pcrSelect` bitmap that are set. -/
def bitmapIndices (bitmap : Bytes) : List Nat :=
  (List.range (8 * bitmap.length)).filter fun i => (bitmap.getD (i / 8) 0).toNat.testBit (i % 8)

/-- The PCRs of a `TPML_PCR_SELECTION`, each with the hash algorithm of its bank. -/
def selectedPcrs (body : Bytes) : (count off : Nat) → List (Nat × Nat)
  | 0, _ => []
  | count + 1, off =>
    let sizeOfSelect := (body.getD (off + 2) 0).toNat
    (bitmapIndices (body.slice (off + 3) sizeOfSelect)).map
        (fun i => (Bytes.ofBE (body.slice off 2), i)) ++
      selectedPcrs body count (off + 3 + sizeOfSelect)

/-- The PCRs a quote is over. -/
def quotedPcrs (body : Bytes) : List (Nat × Nat) :=
  match parseAttestHead body with
  | .ok (_, off) => selectedPcrs body (Bytes.ofBE (body.slice off 4)) (off + 4)
  | .error _ => []

/-- What a selection says. -/
def PcrSelection.pcrs (sel : PcrSelection) : List (Nat × Nat) :=
  (bitmapIndices sel.bitmap).map fun i => (sel.hashAlg, i)

/-- The selections that were marshalled are the PCRs that are read. -/
theorem selectedPcrs_marshal (sels : List PcrSelection) (halg : ∀ sel ∈ sels, sel.hashAlg < 256 ^ 2)
    {b p q : Bytes} {off : Nat} (h : b = p ++ (sels.flatMap PcrSelection.marshal ++ q))
    (hoff : off = p.length) : selectedPcrs b sels.length off = sels.flatMap PcrSelection.pcrs := by
  induction sels generalizing p off with
  | nil => rfl
  | cons sel sels ih =>
    obtain ⟨hsel, hsels⟩ := List.forall_mem_cons.mp halg
    have hb : b = p ++ (Bytes.toBE 2 sel.hashAlg ++ (Bytes.toBE 1 sel.bitmap.length ++
        (sel.bitmap ++ (sels.flatMap PcrSelection.marshal ++ q)))) := by
      simpa [PcrSelection.marshal] using h
    have hb' : b = (p ++ Bytes.toBE 2 sel.hashAlg) ++ (Bytes.toBE 1 sel.bitmap.length ++
        (sel.bitmap ++ (sels.flatMap PcrSelection.marshal ++ q))) := by simpa using hb
    have halgRead : Bytes.ofBE (b.slice off 2) = sel.hashAlg := by
      rw [Bytes.slice_eq_part hb hoff (Bytes.length_toBE ..).symm, Bytes.ofBE_toBE hsel]
    have hsize : (b.getD (off + 2) 0).toNat = sel.bitmap.length := by
      have hlt : off + 2 = (p ++ Bytes.toBE 2 sel.hashAlg).length := by simp [hoff]
      rw [hb', hlt, List.getD_eq_getElem?_getD, List.getElem?_append_right (Nat.le_refl _),
        Nat.sub_self]
      have hone : Bytes.toBE 1 sel.bitmap.length = [UInt8.ofNat sel.bitmap.length] := by
        simp [Bytes.toBE]
      rw [hone]
      simpa using sel.fits
    have hbitmap : b.slice (off + 3) sel.bitmap.length = sel.bitmap :=
      Bytes.slice_eq_part (p := (p ++ Bytes.toBE 2 sel.hashAlg) ++ Bytes.toBE 1 sel.bitmap.length)
        (by simpa using hb) (by simp [hoff]) rfl
    have hrest : selectedPcrs b sels.length (off + 3 + sel.bitmap.length) = _ :=
      ih hsels (p := p ++ sel.marshal) (by simpa using h) (by
        simp [hoff, PcrSelection.marshal]
        omega)
    rw [List.length_cons, selectedPcrs, halgRead, hsize, hbitmap, hrest]
    rfl

theorem quotedPcrs_body (q : TpmQuote) (halg : ∀ sel ∈ q.selections, sel.hashAlg < 256 ^ 2) :
    quotedPcrs q.body = q.selections.flatMap PcrSelection.pcrs := by
  have hhead : parseAttestHead q.body = .ok (q.extraData, q.head.length) := by
    have hbody : q.body ++ [] = q.body := List.append_nil _
    rw [← hbody]
    exact QuoteFields.parseAttestHead_body (hbody.symm ▸ q.fits)
  have hfits := q.fits
  simp only [QuoteFields.body, tpm2b, List.length_append, Bytes.length_toBE] at hfits
  have hsels := QuoteFields.length_selections_le q.selections
  have hcount : Bytes.ofBE (q.body.slice q.head.length 4) = q.selections.length := by
    have hslice : q.body.slice q.head.length 4 = Bytes.toBE 4 q.selections.length :=
      Bytes.slice_eq_part (p := q.head) rfl rfl (Bytes.length_toBE ..).symm
    rw [hslice, Bytes.ofBE_toBE (by omega)]
  rw [quotedPcrs, hhead]
  dsimp only
  rw [hcount]
  refine selectedPcrs_marshal q.selections halg
    (p := q.head ++ Bytes.toBE 4 q.selections.length) (q := tpm2b q.pcrDigest) ?_ (by simp)
  rw [QuoteFields.body, List.append_assoc]

/-- The PCRs a text names, each with the hash algorithm of its bank: some reading of `pcr_bank`. -/
abbrev BankReading : Type := Text → List (Nat × Nat)

/-- The quote is over the PCRs the record names. -/
def SelectionNamed (named : BankReading) (record : DeviceRecord) (body : Bytes) : Prop :=
  ∀ pcr, pcr ∈ quotedPcrs body ↔ pcr ∈ named record.pcrBank

/-- What an accepted attestation should say: the quote is over the named PCRs, and what is
reported is the baseline, index by index and value by value. -/
def AboutBaseline (named : BankReading) (record : DeviceRecord) (body : Bytes)
    (reported : PcrValues) : Prop :=
  SelectionNamed named record body ∧ parsePcrText record.expectedPcr = .ok reported

/-- The indices of a PCR text, with the lengths of their values. -/
def PcrValues.shape (values : PcrValues) : List (Nat × Nat) := values.map fun v => (v.1, v.2.length)

/-! ## Joined values -/

/-- A joined string and its division determine the values. -/
theorem PcrValues.joined_inj {values values' : PcrValues} (hshape : values.shape = values'.shape)
    (hjoined : values.joined = values'.joined) : values = values' := by
  induction values generalizing values' with
  | nil =>
    cases values' with
    | nil => rfl
    | cons v' rest' => cases hshape
  | cons v rest ih =>
    cases values' with
    | nil => cases hshape
    | cons v' rest' =>
      obtain ⟨index, value⟩ := v
      obtain ⟨index', value'⟩ := v'
      obtain ⟨hhead, htail⟩ := List.cons.inj hshape
      obtain ⟨rfl, hlen⟩ := Prod.mk.inj hhead
      have hsplit : value ++ PcrValues.joined rest = value' ++ PcrValues.joined rest' := hjoined
      obtain ⟨rfl, hrest⟩ := List.append_inj hsplit hlen
      rw [ih htail hrest]

theorem recomputePcrDigest_eq_ok {C : Crypto} {text : Text} {digest : Bytes} :
    recomputePcrDigest C text = .ok digest ↔
      ∃ values, parsePcrText text = .ok values ∧ C.sha256 values.joined = digest := by
  simp only [recomputePcrDigest, bind_eq_ok, pure_eq_ok]

/-! ## One value, under another index -/

/-- `bytes.hex()` -/
def hexText (value : Bytes) : Text :=
  value.flatMap fun b => [Nat.digitChar (b.toNat / 16), Nat.digitChar (b.toNat % 16)]

/-- A line of `tpm2_pcrread`, without its spaces. -/
def pcrLine (index : Char) (value : Bytes) : Text := index :: ':' :: '0' :: 'x' :: hexText value

theorem hexDigit_read {n : Nat} (h : n < 16) : Text.hex? (Nat.digitChar n) = some n ∧
    Text.isLineBreak (Nat.digitChar n) = false := by
  interval_cases n <;> decide

theorem hexText_digits (value : Bytes) :
    ∀ c ∈ hexText value, (Text.hex? c).isSome = true ∧ Text.isLineBreak c = false := by
  intro c hc
  obtain ⟨b, -, hmem⟩ := List.mem_flatMap.mp hc
  have hb := b.toNat_lt
  have hdigit : ∀ n, n < 16 → (Text.hex? (Nat.digitChar n)).isSome = true ∧
      Text.isLineBreak (Nat.digitChar n) = false := by
    intro n hn
    rw [(hexDigit_read hn).1]
    exact ⟨rfl, (hexDigit_read hn).2⟩
  rcases List.mem_cons.mp hmem with rfl | hmem
  · exact hdigit _ (by omega)
  · obtain rfl := List.mem_singleton.mp hmem
    exact hdigit _ (by omega)

/-- What is written in hex is read back. -/
theorem fromHex_hexText (value : Bytes) :
    Text.fromHex ((hexText value).filterMap Text.hex?) = .ok value := by
  induction value with
  | nil => rfl
  | cons b value ih =>
    have hb := b.toNat_lt
    have hhigh := (hexDigit_read (n := b.toNat / 16) (by omega)).1
    have hlow := (hexDigit_read (n := b.toNat % 16) (by omega)).1
    have hbyte : UInt8.ofNat (b.toNat / 16 * 16 + b.toNat % 16) = b := Base64.byte_eq (by omega)
    show Text.fromHex (List.filterMap Text.hex? (_ :: _ :: hexText value)) = _
    rw [List.filterMap_cons_some hhigh, List.filterMap_cons_some hlow, Text.fromHex, ih, hbyte]
    rfl

/-- A text without a line break is one line. -/
theorem splitlinesFrom_unbroken {line t : Text} (hne : line ++ t ≠ [])
    (h : ∀ c ∈ t, Text.isLineBreak c = false) :
    Text.splitlinesFrom line t = [line.reverse ++ t] := by
  induction t generalizing line with
  | nil =>
    rw [List.append_nil] at hne
    simp [Text.splitlinesFrom, hne]
  | cons c t ih =>
    have hc : Text.isLineBreak c = false := h c List.mem_cons_self
    have ht : ∀ d ∈ t, Text.isLineBreak d = false := fun d hd => h d (List.mem_cons_of_mem _ hd)
    cases t with
    | nil => simp [Text.splitlinesFrom, hc]
    | cons d t =>
      have hcr : ¬ (c.toNat = 0xd ∧ d.toNat = 0xa) := by
        rintro ⟨hcr, -⟩
        simp [Text.isLineBreak, hcr] at hc
      rw [Text.splitlinesFrom, if_neg hcr, hc]
      have hrest : Text.splitlinesFrom (c :: line) (d :: t) = [(c :: line).reverse ++ d :: t] :=
        ih (by simp) ht
      simpa using hrest

theorem splitlines_pcrLine {index : Char} (hindex : Text.isLineBreak index = false) (value : Bytes) :
    (pcrLine index value).splitlines = [pcrLine index value] := by
  refine splitlinesFrom_unbroken (by simp [pcrLine]) ?_
  intro c hc
  simp only [pcrLine, List.mem_cons] at hc
  rcases hc with rfl | rfl | rfl | rfl | hc
  · exact hindex
  · decide
  · decide
  · decide
  · exact (hexText_digits value c hc).2

/-- The line of a PCR with a digit for its index is read. -/
theorem parsePcrText_line {index : Char} {i : Nat} (hi : Text.decimal? index = some i)
    (hspace : Text.isSpace index = false) (hbreak : Text.isLineBreak index = false) {value : Bytes}
    (hvalue : value ≠ []) : parsePcrText (pcrLine index value) = .ok [(i, value)] := by
  have hmatch : matchPcrLine (pcrLine index value) = some ([index], hexText value) := by
    have hcolon : Text.isSpace ':' = false ∧ Text.decimal? ':' = none := by decide
    have hzero : Text.isSpace '0' = false := by decide
    have hall : (hexText value).takeWhile (fun c => (Text.hex? c).isSome) = hexText value :=
      List.takeWhile_eq_self_iff.mpr fun c hc => (hexText_digits value c hc).1
    have hne : hexText value ≠ [] := by
      cases value with
      | nil => exact absurd rfl hvalue
      | cons b value => simp [hexText]
    simp [matchPcrLine, pcrLine, hspace, hi, hcolon, hzero, hall, hne]
  have hint : pyInt [index] = .ok i := by
    simp [pyInt, intMaxStrDigits, hi]
  rw [parsePcrText, splitlines_pcrLine hbreak]
  simp only [parsePcrLines, hmatch, hint, ok_bind, fromHex_hexText, PcrValues.set, Raises.std]
  rfl

/-- A value has at least one byte: a line that matches has a hex digit, and an even number of them. -/
theorem joined_ne {text : Text} {values : PcrValues} (h : parsePcrText text = .ok values) :
    values.joined ≠ [] := by
  have hlines : parsePcrLines text.splitlines [] = .ok values ∧ values ≠ [] := by
    simp only [parsePcrText, bind_eq_ok, std_eq_ok, ite_throw_eq_ok, pure_eq_ok] at h
    obtain ⟨values', hparse, hne, rfl⟩ := h
    exact ⟨hparse, hne⟩
  have hwhole := (handles_text_iff text).mpr (convertible_of_parsePcrLines hlines.1)
  rw [h] at hwhole
  obtain ⟨v, rest, rfl⟩ := List.exists_cons_of_ne_nil hlines.2
  obtain ⟨line, -, index, hex, hmatch, -, -, hlen⟩ := hwhole v List.mem_cons_self
  have hhex : hex ≠ [] := by
    unfold matchPcrLine at hmatch
    dsimp only at hmatch
    split at hmatch
    · split at hmatch
      · split at hmatch
        · rename_i hparts
          cases hmatch
          exact hparts.2.1
        · cases hmatch
      · cases hmatch
    · cases hmatch
  intro hnil
  have hvalue : v.2 = [] := (List.append_eq_nil_iff.mp hnil).1
  rw [hvalue] at hlen
  exact hhex (List.length_eq_zero_iff.mp hlen)

/-- The baseline's values, joined, under one index that is not all of the baseline's. -/
theorem exists_renumbered {text : Text} {baseline : PcrValues}
    (h : parsePcrText text = .ok baseline) : ∃ text' reported, parsePcrText text' = .ok reported ∧
      reported.joined = baseline.joined ∧ reported.map (·.1) ≠ baseline.map (·.1) := by
  have hjoined : ∀ i : Nat, PcrValues.joined [(i, baseline.joined)] = baseline.joined :=
    fun i => List.append_nil _
  have hzeroth : parsePcrText (pcrLine '0' baseline.joined) = .ok [(0, baseline.joined)] :=
    parsePcrText_line (by decide) (by decide) (by decide) (joined_ne h)
  have hfirst : parsePcrText (pcrLine '1' baseline.joined) = .ok [(1, baseline.joined)] :=
    parsePcrText_line (by decide) (by decide) (by decide) (joined_ne h)
  by_cases hzero : baseline.map (·.1) = [0]
  · refine ⟨_, _, hfirst, hjoined 1, ?_⟩
    rw [hzero]
    simp
  · exact ⟨_, _, hzeroth, hjoined 0, fun heq => hzero heq.symm⟩

/-! ## Accepted attestations -/

/-- What a response presents: a quote, by its body, and reported values. -/
structure Attests (response : AttestResponse) (body : Bytes) (reported : PcrValues) : Prop where
  quote : ∃ raw attest, b64d response.quote = .ok raw ∧ parseTpmsAttest raw = .ok attest ∧
    attest.rawBody = body
  values : ∃ text, response.pcrValues = .str text ∧ parsePcrText text = .ok reported

theorem Attests.unique {response : AttestResponse} {body body' : Bytes}
    {reported reported' : PcrValues} (h : Attests response body reported)
    (h' : Attests response body' reported') : body = body' ∧ reported = reported' := by
  obtain ⟨raw, attest, hraw, hattest, rfl⟩ := h.quote
  obtain ⟨raw', attest', hraw', hattest', rfl⟩ := h'.quote
  obtain ⟨text, htext, hparse⟩ := h.values
  obtain ⟨text', htext', hparse'⟩ := h'.values
  cases hraw.symm.trans hraw'
  cases hattest.symm.trans hattest'
  cases htext.symm.trans htext'
  cases hparse.symm.trans hparse'
  exact ⟨rfl, rfl⟩

/-- Whatever a server in this state accepts for a device, its quote and its reported values are
so. -/
def EveryAccepted (C : CryptoLib) (identity : Point) (s : ServerState) (deviceId : Text)
    (P : Bytes → PcrValues → Prop) : Prop :=
  ∀ response tr sig s', EvalsP (ServerStep C identity) (verifyAndDerive C deviceId response) () s tr
    (.ok sig) () s' → ∃ body reported, Attests response body reported ∧ P body reported

/-- What the package promises of `from_encoded_point`: no bytes are no point, and a point that was
read is one of the curve, which is read from its uncompressed encoding too. -/
structure ReadsPoints (C : CryptoLib) : Prop where
  empty : C.fromEncodedPoint [] = none
  sec1 : ∀ raw q, C.fromEncodedPoint raw = some q → C.fromEncodedPoint q.sec1 = some q

/-- SHA-256 has no collision between the joined values of two texts. -/
def NoCollision (C : Crypto) (text text' : Text) : Prop :=
  ∀ values values', parsePcrText text = .ok values → parsePcrText text' = .ok values' →
    C.sha256 values.joined = C.sha256 values'.joined → values.joined = values'.joined

section

variable {C : CryptoLib} {identity : Point} {deviceId : Text} {record : DeviceRecord}
  {challenge : PendingChallenge} {s : ServerState}

/-- What is accepted has presented a quote and values, with the baseline's digest. -/
theorem accepted_attests {response : AttestResponse} {tr : List (Event Server)} {sig : Bytes}
    {s' : ServerState} (hrecord : s.registry deviceId = some record)
    (h : EvalsP (ServerStep C identity) (verifyAndDerive C deviceId response) () s tr (.ok sig) ()
      s') : (∃ challenge, s.pending deviceId = some challenge) ∧
      ∃ body text reported baseline, Attests response body reported ∧ response.pcrValues = .str text ∧
        parsePcrText text = .ok reported ∧ parsePcrText record.expectedPcr = .ok baseline ∧
        C.sha256 reported.joined = C.sha256 baseline.joined := by
  rw [verifyAndDerive_eq] at h
  rcases evalsP_bind.mp h with ⟨e, he, -⟩ | ⟨preimage, _, s₁, tr₁, tr₂, -, hcommit, -⟩
  · cases he
  · obtain ⟨v, key, now, hpasses, -, -⟩ := commitSession_evals hcommit
    obtain rfl : v.record = record := Option.some.inj (hpasses.registered.symm.trans hrecord)
    obtain rfl := hpasses.response
    obtain ⟨raw, hraw, hattest⟩ := v.presents.quote
    obtain ⟨text, htext, hdigest⟩ := v.presents.pcrValues
    obtain ⟨reported, hreported, hhash⟩ := recomputePcrDigest_eq_ok.mp hdigest
    obtain ⟨baseline, hbaseline, hhash'⟩ := recomputePcrDigest_eq_ok.mp v.matched.baseline
    exact ⟨⟨_, hpasses.pending⟩, _, text, reported, baseline,
      ⟨⟨raw, _, hraw, hattest, rfl⟩, text, htext, hreported⟩, htext, hreported, hbaseline,
      hhash.trans hhash'.symm⟩

/-- What the digests do settle: reported values with the baseline's indices and lengths are the
baseline's values. -/
theorem accepted_values {response : AttestResponse} {tr : List (Event Server)} {sig : Bytes}
    {s' : ServerState} (hrecord : s.registry deviceId = some record)
    (h : EvalsP (ServerStep C identity) (verifyAndDerive C deviceId response) () s tr (.ok sig) ()
      s') (ideal : ∀ text, response.pcrValues = .str text →
        NoCollision C.toCrypto text record.expectedPcr) :
    ∃ body reported baseline, Attests response body reported ∧
      parsePcrText record.expectedPcr = .ok baseline ∧
      (reported.shape = baseline.shape → reported = baseline) := by
  obtain ⟨-, body, text, reported, baseline, hattests, htext, hreported, hbaseline, hhash⟩ :=
    accepted_attests hrecord h
  refine ⟨body, reported, baseline, hattests, hbaseline, fun hshape => ?_⟩
  exact PcrValues.joined_inj hshape
    (ideal text htext reported baseline hreported hbaseline hhash)

/-- A device's answer is accepted under every record with its keys and its baseline, however that one
spells the TA's key. -/
theorem GenuineAnswer.accepted {canonical : DeviceRecord}
    (a : GenuineAnswer C deviceId canonical challenge) (signs : Signs C identity)
    (hrecord : s.registry deviceId = some record) (hpending : s.pending deviceId = some challenge)
    (hak : canonical.akPubPem = record.akPubPem) (hpcr : canonical.expectedPcr = record.expectedPcr)
    (hne : record.taPubB64 ≠ [])
    (hta : ∃ raw, b64d (.str record.taPubB64) = .ok raw ∧ C.fromEncodedPoint raw = some a.taPub) :
    ∃ tr sig s', EvalsP (ServerStep C identity) (verifyAndDerive C deviceId a.response) () s tr
      (.ok sig) () s' := by
  have hload : loadAk C record = .ok () := by
    have h := a.loadAk_ok
    rwa [loadAk, hak] at h
  have hmatched : Matches C record challenge a.presented a.taPub :=
    ⟨a.transcript, hpcr ▸ a.baseline, hne, hta⟩
  let v : Vetting C deviceId := ⟨record, challenge, challenge.issuedAt, a.response, a.presented,
    a.taPub, a.vetting.fresh, a.presents, hload, hmatched⟩
  have hpasses : v.Passes s a.response :=
    ⟨hrecord, hpending, rfl, hak ▸ a.quote_verifies, a.ta_verifies, a.key, a.deviceKey_ok⟩
  exact hpasses.returns signs a.deviceKey_ok

/-- A record with another text for the TA's key. -/
theorem DeviceRecord.respelled (record : DeviceRecord) (taPubB64 : Text) :
    ∃ canonical : DeviceRecord, canonical.taPubB64 = taPubB64 ∧
      canonical.akPubPem = record.akPubPem ∧ canonical.expectedPcr = record.expectedPcr :=
  ⟨{ record with taPubB64 := taPubB64 }, rfl, rfl, rfl⟩

/-- **Any quote, any division.** Whoever holds the keys of a usable record can have accepted a quote
of whatever PCRs, with whatever text has the baseline's joined values. -/
theorem Usable.accepts (h : Usable C record) (signs : Signs C identity) (reads : ReadsPoints C)
    (hrecord : s.registry deviceId = some record) (hpending : s.pending deviceId = some challenge)
    {selections : List PcrSelection}
    (hselections : (selections.flatMap PcrSelection.marshal).length ≤ 1024)
    (halg : ∀ sel ∈ selections, sel.hashAlg < 256 ^ 2) {text : Text} {reported baseline : PcrValues}
    (hreported : parsePcrText text = .ok reported)
    (hbaseline : parsePcrText record.expectedPcr = .ok baseline)
    (hjoined : reported.joined = baseline.joined) :
    ∃ response body tr sig s', EvalsP (ServerStep C identity) (verifyAndDerive C deviceId response)
        () s tr (.ok sig) () s' ∧ Attests response body reported ∧
      quotedPcrs body = selections.flatMap PcrSelection.pcrs := by
  obtain ⟨raw, q, hraw, hq⟩ := h.ta
  have hcurve := reads.sec1 raw q hq
  have hne : record.taPubB64 ≠ [] := by
    intro hempty
    rw [hempty] at hraw
    cases hraw
    cases reads.empty.symm.trans hq
  obtain ⟨canonical, hspelled, hak, hpcr⟩ := record.respelled (b64e q.sec1)
  have husable : Usable C canonical :=
    ⟨hak ▸ h.ak, hpcr ▸ h.pcr, q.sec1, q, hspelled ▸ b64d_b64e q.sec1, hcurve⟩
  have htext : recomputePcrDigest C.toCrypto text =
      recomputePcrDigest C.toCrypto canonical.expectedPcr := by
    rw [hpcr, recomputePcrDigest_eq_ok.mpr ⟨reported, hreported, rfl⟩,
      recomputePcrDigest_eq_ok.mpr ⟨baseline, hbaseline, rfl⟩, hjoined]
  obtain ⟨a, hsel, rfl, rfl⟩ :=
    husable.answers signs hspelled hcurve deviceId challenge hselections htext
  obtain ⟨tr, sig, s', hevals⟩ := a.accepted signs hrecord hpending hak hpcr hne ⟨raw, hraw, hq⟩
  refine ⟨a.response, a.quote.body, tr, sig, s', hevals, ?_, ?_⟩
  · exact ⟨⟨_, _, b64d_b64e a.quote.raw, parseTpmsAttest_raw a.quote, rfl⟩, _, rfl, hreported⟩
  · rw [quotedPcrs_body a.quote (hsel ▸ halg), hsel]

/-- An attestation can be made: a challenge is pending, and the verifier can use the record. -/
def CanAttest (C : CryptoLib) (s : ServerState) (deviceId : Text) (record : DeviceRecord) : Prop :=
  (∃ challenge, s.pending deviceId = some challenge) ∧ Usable C record

/-- Where no attestation can be made, nothing is accepted. -/
theorem everyAccepted_of_not (hrecord : s.registry deviceId = some record)
    (h : ¬ CanAttest C s deviceId record) (P : Bytes → PcrValues → Prop) :
    EveryAccepted C identity s deviceId P := by
  intro response tr sig s' hevals
  exact absurd ⟨(accepted_attests hrecord hevals).1, usable_of_accepted hrecord hevals⟩ h

/-- PCR 0 of the SHA-256 bank. -/
def zeroOnly : PcrSelection := ⟨0x000b, [0x01, 0x00, 0x00], Nat.le_of_ble_eq_true rfl⟩

/-- Where one can, some accepted answer quotes other PCRs than the record names, and reports other
indices than the baseline has. -/
theorem CanAttest.other (h : CanAttest C s deviceId record) (signs : Signs C identity)
    (reads : ReadsPoints C) (hrecord : s.registry deviceId = some record) (named : BankReading) :
    ∃ response body reported tr sig s', EvalsP (ServerStep C identity)
        (verifyAndDerive C deviceId response) () s tr (.ok sig) () s' ∧
      Attests response body reported ∧ ¬ SelectionNamed named record body ∧
      parsePcrText record.expectedPcr ≠ .ok reported := by
  obtain ⟨⟨challenge, hpending⟩, husable⟩ := h
  obtain ⟨digest, hdigest⟩ := husable.pcr
  obtain ⟨baseline, hbaseline, -⟩ := recomputePcrDigest_eq_ok.mp hdigest
  obtain ⟨text, reported, hreported, hjoined, hindices⟩ := exists_renumbered hbaseline
  have hvalues : parsePcrText record.expectedPcr ≠ .ok reported := by
    intro hsame
    cases hbaseline.symm.trans hsame
    exact hindices rfl
  -- a quote of no PCR, or of one where none is named
  cases hnamed : named record.pcrBank with
  | nil =>
    obtain ⟨response, body, tr, sig, s', hevals, hattests, hquoted⟩ := husable.accepts signs reads
      hrecord hpending (show ([zeroOnly].flatMap PcrSelection.marshal).length ≤ 1024 by decide)
      (by simp [zeroOnly]) hreported hbaseline hjoined
    refine ⟨response, body, reported, tr, sig, s', hevals, hattests, ?_, hvalues⟩
    intro hselection
    have hzero : ((0x000b, 0) : Nat × Nat) ∈ quotedPcrs body := by
      rw [hquoted]
      decide
    have hmem := (hselection _).mp hzero
    rw [hnamed] at hmem
    cases hmem
  | cons pcr pcrs =>
    obtain ⟨response, body, tr, sig, s', hevals, hattests, hquoted⟩ := husable.accepts signs reads
      hrecord hpending (show ([].flatMap PcrSelection.marshal).length ≤ 1024 by decide) (by simp)
      hreported hbaseline hjoined
    refine ⟨response, body, reported, tr, sig, s', hevals, hattests, ?_, hvalues⟩
    intro hselection
    have hmem := (hselection pcr).mpr (by simp [hnamed])
    rw [hquoted] at hmem
    cases hmem

/-- **When accepted attestations are about the enrolled PCRs**: when there are none. Against a device
of the registry, in any state and under any reading of `pcr_bank`, everything that is accepted is
about the baseline exactly if nothing can be accepted; and so it is with each half of that, the
quote's selection and the reported values. -/
theorem accepted_about_baseline_iff (signs : Signs C identity) (reads : ReadsPoints C)
    (named : BankReading) (hrecord : s.registry deviceId = some record) :
    (EveryAccepted C identity s deviceId (AboutBaseline named record) ↔
      ¬ CanAttest C s deviceId record) ∧
    (EveryAccepted C identity s deviceId (fun body _ => SelectionNamed named record body) ↔
      ¬ CanAttest C s deviceId record) ∧
    (EveryAccepted C identity s deviceId (fun _ reported =>
        parsePcrText record.expectedPcr = .ok reported) ↔ ¬ CanAttest C s deviceId record) := by
  refine ⟨⟨?_, fun h => everyAccepted_of_not hrecord h _⟩,
    ⟨?_, fun h => everyAccepted_of_not hrecord h _⟩, ⟨?_, fun h => everyAccepted_of_not hrecord h _⟩⟩
  · intro hevery hcan
    obtain ⟨_, _, _, _, _, _, hevals, hattests, hother, -⟩ := hcan.other signs reads hrecord named
    obtain ⟨_, _, hattests', habout⟩ := hevery _ _ _ _ hevals
    obtain ⟨rfl, rfl⟩ := hattests.unique hattests'
    exact hother habout.1
  · intro hevery hcan
    obtain ⟨_, _, _, _, _, _, hevals, hattests, hother, -⟩ := hcan.other signs reads hrecord named
    obtain ⟨_, _, hattests', hselection⟩ := hevery _ _ _ _ hevals
    obtain ⟨rfl, rfl⟩ := hattests.unique hattests'
    exact hother hselection
  · intro hevery hcan
    obtain ⟨_, _, _, _, _, _, hevals, hattests, -, hother⟩ := hcan.other signs reads hrecord named
    obtain ⟨_, _, hattests', hvalues⟩ := hevery _ _ _ _ hevals
    obtain ⟨rfl, rfl⟩ := hattests.unique hattests'
    exact hother hvalues

end

namespace Vectors

theorem signingLib_reads : ReadsPoints signingLib where
  empty := by decide +kernel
  sec1 raw q h := by
    obtain ⟨key, hkey, rfl⟩ := Option.map_eq_some_iff.mp h
    have hraw : key.pub.sec1 = raw := by simpa using List.find?_some hkey
    rw [hraw]
    exact h

/-- The server behind the first challenge. -/
def atDesk : ServerState :=
  { ServerState.started enrolled with pending := fun _ => some firstChallenge }

/-- The call on its own: the challenge is pending, the device answers. -/
def attested (response : AttestResponse) :
    List (Event Server) × (Except PyError Bytes × Unit) × ServerState :=
  serve (firstDesk.serve lib) ((verifyAndDerive lib deviceName response).go ()) atDesk

theorem attested_evals {response : AttestResponse} {result : Except PyError Bytes}
    (hok : (attested response).1.all (signsRight lib serverIdentity.pub) = true)
    (hresult : (attested response).2.1.1 = result) :
    EvalsP (ServerStep lib serverIdentity.pub) (verifyAndDerive lib deviceName response) ()
      atDesk (attested response).1 result () (attested response).2.2 := by
  have h := serve_evals (R := ServerStep lib serverIdentity.pub)
    (firstDesk.serve_step (C := lib)) hok
  subst hresult
  exact h

/-- What `pcr_bank` is meant to say here. -/
def sha256Zero : BankReading := fun _ => [(0x000b, 0)]

/-- An AK that is no PEM. -/
def lockedOut : DeviceRecord := { deviceRecord with akPubPem := "-----BEGIN PUBLIC KEY-----\n".toList }

end Vectors

/-- The device's own answer is accepted, and is about the baseline; but not everything that is
accepted against it is. Of a record that nothing is accepted against, everything is. -/
theorem accepted_about_baseline_played :
    (∃ body reported tr s', EvalsP (ServerStep Vectors.lib Vectors.serverIdentity.pub)
        (verifyAndDerive Vectors.lib Vectors.deviceName Vectors.genuineAnswer) () Vectors.atDesk tr
        (.ok Vectors.serverSig) () s' ∧ Attests Vectors.genuineAnswer body reported ∧
      AboutBaseline Vectors.sha256Zero Vectors.deviceRecord body reported) ∧
    ¬ EveryAccepted Vectors.signingLib Vectors.serverIdentity.pub Vectors.atDesk
      Vectors.deviceName (AboutBaseline Vectors.sha256Zero Vectors.deviceRecord) ∧
    EveryAccepted Vectors.signingLib Vectors.serverIdentity.pub
      { Vectors.atDesk with registry := fun _ => some Vectors.lockedOut } Vectors.deviceName
      (AboutBaseline Vectors.sha256Zero Vectors.lockedOut) := by
  obtain ⟨hsigned, hok, hquote, hvalues, hselected, hak, hdigest, hta, hpem⟩ :
      (Vectors.attested Vectors.genuineAnswer).1.all
        (signsRight Vectors.lib Vectors.serverIdentity.pub) = true ∧
      (Vectors.attested Vectors.genuineAnswer).2.1.1 = .ok Vectors.serverSig ∧
      parseTpmsAttest (Vectors.quoteOver Vectors.pcr0 Vectors.transcriptHash) = .ok
        ⟨Vectors.quoteBody Vectors.pcr0 Vectors.transcriptHash, Vectors.transcriptHash,
          Vectors.pcrDigest⟩ ∧
      parsePcrText Vectors.pcrText = .ok [(0, Vectors.pcrValue)] ∧
      quotedPcrs (Vectors.quoteBody Vectors.pcr0 Vectors.transcriptHash) = [(0x000b, 0)] ∧
      Vectors.signingLib.loadPem Vectors.deviceRecord.akPubPem = .ec ∧
      recomputePcrDigest Vectors.signingLib.toCrypto Vectors.deviceRecord.expectedPcr =
        .ok Vectors.pcrDigest ∧
      Vectors.signingLib.fromEncodedPoint Vectors.taIdentity.pub.sec1 = some Vectors.taIdentity.pub ∧
      Vectors.signingLib.loadPem Vectors.lockedOut.akPubPem = .invalid := by
    decide +kernel
  have hspelled : b64d (.str Vectors.deviceRecord.taPubB64) = .ok Vectors.taIdentity.pub.sec1 := by
    rw [Vectors.genuine.taEnrolled]
    exact b64d_b64e _
  have husable : Usable Vectors.signingLib Vectors.deviceRecord :=
    ⟨hak, ⟨_, hdigest⟩, _, _, hspelled, hta⟩
  have hregistered : Vectors.atDesk.registry Vectors.deviceName = some Vectors.deviceRecord := rfl
  refine ⟨?_, ?_, ?_⟩
  · refine ⟨_, _, _, _, Vectors.attested_evals hsigned hok, ⟨⟨_, _, b64d_b64e _, hquote, rfl⟩, _, rfl,
      hvalues⟩, ?_, hvalues⟩
    intro pcr
    rw [hselected]
    exact Iff.rfl
  · intro hevery
    exact (accepted_about_baseline_iff Vectors.signingLib_signs Vectors.signingLib_reads
      Vectors.sha256Zero hregistered).1.mp hevery ⟨⟨_, rfl⟩, husable⟩
  · have hlocked : { Vectors.atDesk with registry := fun _ => some Vectors.lockedOut }.registry
        Vectors.deviceName = some Vectors.lockedOut := rfl
    refine (accepted_about_baseline_iff Vectors.signingLib_signs Vectors.signingLib_reads
      Vectors.sha256Zero hlocked).1.mpr ?_
    intro ⟨_, husable⟩
    cases husable.ak.symm.trans hpem

/-- The AK's quote over PCR 7, which has the enrolled value of PCR 0, reported as PCR 7: accepted. -/
theorem other_pcr_is_accepted :
    (∃ tr s', EvalsP (ServerStep Vectors.lib Vectors.serverIdentity.pub)
      (verifyAndDerive Vectors.lib Vectors.deviceName Vectors.otherPcrAnswer) () Vectors.atDesk tr
      (.ok Vectors.serverSig) () s') ∧
    Vectors.atDesk.registry Vectors.deviceName = some Vectors.deviceRecord ∧
    parsePcrText Vectors.deviceRecord.expectedPcr = .ok [(0, Vectors.pcrValue)] ∧
    ∃ body, Attests Vectors.otherPcrAnswer body [(7, Vectors.pcrValue)] ∧
      quotedPcrs body = [(0x000b, 7)] ∧ ∀ named,
        ¬ AboutBaseline named Vectors.deviceRecord body [(7, Vectors.pcrValue)] := by
  obtain ⟨hsigned, hok, hquote, hvalues, hselected, hbaseline⟩ :
      (Vectors.attested Vectors.otherPcrAnswer).1.all
        (signsRight Vectors.lib Vectors.serverIdentity.pub) = true ∧
      (Vectors.attested Vectors.otherPcrAnswer).2.1.1 = .ok Vectors.serverSig ∧
      parseTpmsAttest (Vectors.quoteOver Vectors.pcr7 Vectors.transcriptHash) = .ok
        ⟨Vectors.quoteBody Vectors.pcr7 Vectors.transcriptHash, Vectors.transcriptHash,
          Vectors.pcrDigest⟩ ∧
      parsePcrText Vectors.otherPcrText = .ok [(7, Vectors.pcrValue)] ∧
      quotedPcrs (Vectors.quoteBody Vectors.pcr7 Vectors.transcriptHash) = [(0x000b, 7)] ∧
      parsePcrText Vectors.deviceRecord.expectedPcr = .ok [(0, Vectors.pcrValue)] := by
    decide +kernel
  refine ⟨⟨_, _, Vectors.attested_evals hsigned hok⟩, rfl, hbaseline, _,
    ⟨⟨_, _, b64d_b64e _, hquote, rfl⟩, _, rfl, hvalues⟩, hselected, ?_⟩
  intro named ⟨_, hsame⟩
  cases hbaseline.symm.trans hsame

end ConfidentialIoT
