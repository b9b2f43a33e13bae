import ConfidentialIoT.Server.Marshal

/-!
# `Server/Truncation.lean` — what the parsers make of input that is cut off

The parsers of `Server/Quote.lean` check some of their input and leave the rest to `struct`, to
`int` and to `fromhex`. A field that is cut off before its size is a `struct.error`, which nobody
catches; one that is cut off behind its size is shorter than declared, and nobody notices. An
input is handled (`Handles`) when it is refused by one of the checks or complete; which inputs
these are is `parsers_handle_iff`.
-/

set_option autoImplicit false

namespace ConfidentialIoT

/-- A parser's result, as its caller expects it: an `AttestationError`, or all of the input. -/
def Handles {α : Type} (complete : α → Prop) : Raises α → Prop
  | .ok a => complete a
  | .error (.attestation _) => True
  | .error (.std _) => False

theorem bind_eq_error {ε α β : Type} {x : Except ε α} {f : α → Except ε β} {e : ε} :
    (x >>= f) = .error e ↔ x = .error e ∨ ∃ a, x = .ok a ∧ f a = .error e := by
  cases x with
  | ok a => exact ⟨fun h => Or.inr ⟨a, rfl, h⟩, fun h => h.elim nofun fun ⟨_, ha, h⟩ =>
      Except.ok.inj ha ▸ h⟩
  | error e' =>
    constructor
    · intro h
      cases h
      exact Or.inl rfl
    · rintro (h | ⟨_, h, _⟩)
      · cases h
        rfl
      · cases h

theorem std_eq_ok {α : Type} {x : Except StdError α} {a : α} :
    Raises.std x = .ok a ↔ x = .ok a := by
  cases x with
  | ok b => exact ⟨fun h => congrArg _ (Except.ok.inj h), fun h => congrArg _ (Except.ok.inj h)⟩
  | error e => exact ⟨nofun, nofun⟩

/-- The library raises no `AttestationError`. -/
theorem std_ne_attestation {α : Type} {x : Except StdError α} {why : AttestationFailure} :
    Raises.std x ≠ .error (.attestation why) := by
  cases x <;> nofun

/-! ## Quotes -/

/-- The body of a quote, maybe with more behind it, in a `TPM2B_ATTEST`, maybe with more behind
that. -/
def CompleteQuote (raw : Bytes) (attest : Attest) : Prop :=
  ∃ (q : QuoteFields) (more rest : Bytes), (q.body ++ more).length < 256 ^ 2 ∧
    raw = tpm2b (q.body ++ more) ++ rest ∧ attest = ⟨q.body ++ more, q.extraData, q.pcrDigest⟩

/-- The checks of `parse_tpms_attest` that an input can fail. -/
inductive QuoteRefused (raw : Bytes) : Prop where
  | short (h : raw.length < 2)
  | truncated (h : 2 ≤ raw.length) (hbody : raw.length < 2 + Bytes.ofBE (raw.slice 0 2))
  | magic {body rest : Bytes} (hlen : body.length < 256 ^ 2) (h : raw = tpm2b body ++ rest)
      (hfits : 4 ≤ body.length) (hmagic : Bytes.ofBE (body.slice 0 4) ≠ tpmGeneratedValue)
  | type {body rest : Bytes} (hlen : body.length < 256 ^ 2) (h : raw = tpm2b body ++ rest)
      (hfits : 6 ≤ body.length) (hmagic : Bytes.ofBE (body.slice 0 4) = tpmGeneratedValue)
      (htype : Bytes.ofBE (body.slice 4 2) ≠ tpmStAttestQuote)

/-- A size that does not say too much, and what it is about. -/
theorem eq_tpm2b {raw : Bytes} (h : 2 ≤ raw.length)
    (hbody : 2 + Bytes.ofBE (raw.slice 0 2) ≤ raw.length) :
    ∃ rest, raw = tpm2b (raw.slice 2 (Bytes.ofBE (raw.slice 0 2))) ++ rest := by
  have hlen : (raw.slice 2 (Bytes.ofBE (raw.slice 0 2))).length = Bytes.ofBE (raw.slice 0 2) :=
    Bytes.length_slice _ _ _ hbody
  have hsize : (raw.slice 0 2).length = 2 := Bytes.length_slice _ _ _ h
  refine ⟨raw.drop (2 + Bytes.ofBE (raw.slice 0 2)), ?_⟩
  rw [tpm2b, hlen, Bytes.toBE_ofBE_of_length hsize, Bytes.slice_append_slice]
  exact (List.take_append_drop ..).symm

theorem parseAttestHead_refuses {body : Bytes} {why : AttestationFailure}
    (h : parseAttestHead body = .error (.attestation why)) :
    (4 ≤ body.length ∧ Bytes.ofBE (body.slice 0 4) ≠ tpmGeneratedValue) ∨
      (6 ≤ body.length ∧ Bytes.ofBE (body.slice 0 4) = tpmGeneratedValue ∧
        Bytes.ofBE (body.slice 4 2) ≠ tpmStAttestQuote) := by
  simp only [parseAttestHead, bind_eq_error, std_ne_attestation, std_eq_ok, unpackFrom_eq_ok,
    false_or] at h
  obtain ⟨_, ⟨hfits, rfl⟩, h⟩ := h
  by_cases hmagic : Bytes.ofBE (body.slice 0 4) = tpmGeneratedValue
  · right
    rw [if_neg (not_not.mpr hmagic)] at h
    simp only [bind_eq_error, std_ne_attestation, std_eq_ok, unpackFrom_eq_ok, false_or] at h
    obtain ⟨_, ⟨hfits', rfl⟩, h⟩ := h
    refine ⟨hfits', hmagic, ?_⟩
    intro htype
    rw [if_neg (not_not.mpr htype)] at h
    simp only [bind_eq_error, std_ne_attestation, false_or] at h
    obtain ⟨_, -, _, -, h⟩ := h
    cases h
  · exact Or.inl ⟨hfits, hmagic⟩

theorem refused_of_parse {raw : Bytes} {why : AttestationFailure}
    (h : parseTpmsAttest raw = .error (.attestation why)) : QuoteRefused raw := by
  by_cases hshort : raw.length < 2
  · exact .short hshort
  · have hlong : 2 ≤ raw.length := Nat.not_lt.mp hshort
    by_cases hbody : raw.length < 2 + Bytes.ofBE (raw.slice 0 2)
    · exact .truncated hlong hbody
    · obtain ⟨rest, hraw⟩ := eq_tpm2b hlong (Nat.not_lt.mp hbody)
      have hlen : (raw.slice 2 (Bytes.ofBE (raw.slice 0 2))).length < 256 ^ 2 := by
        have hsize : (raw.slice 0 2).length = 2 := Bytes.length_slice _ _ _ hlong
        have hlt := Bytes.ofBE_lt (raw.slice 0 2)
        rw [hsize] at hlt
        rw [Bytes.length_slice _ _ _ (Nat.not_lt.mp hbody)]
        exact hlt
      generalize raw.slice 2 (Bytes.ofBE (raw.slice 0 2)) = body at hraw hlen
      rw [hraw, parseTpmsAttest_tpm2b hlen] at h
      -- behind the head only the library raises
      simp only [bind_eq_error, std_ne_attestation, false_or, Prod.exists] at h
      rcases h with h | ⟨_, _, -, _, -, _, -, _, -, h⟩
      · rcases parseAttestHead_refuses h with ⟨hfits, hmagic⟩ | ⟨hfits, hmagic, htype⟩
        · exact .magic hlen hraw hfits hmagic
        · exact .type hlen hraw hfits hmagic htype
      · cases h

theorem QuoteRefused.refused {raw : Bytes} (h : QuoteRefused raw) :
    ∃ why, parseTpmsAttest raw = .error (.attestation why) := by
  cases h with
  | short h => exact ⟨.quoteTooShort, by rw [parseTpmsAttest, if_pos h]; rfl⟩
  | truncated hlong hbody =>
    refine ⟨.truncatedQuote, ?_⟩
    have hread : unpackFrom 2 raw 0 = .ok (Bytes.ofBE (raw.slice 0 2)) :=
      unpackFrom_eq_ok.mpr ⟨hlong, rfl⟩
    have hcut : (raw.slice 2 (Bytes.ofBE (raw.slice 0 2))).length ≠
        Bytes.ofBE (raw.slice 0 2) := by
      rw [Bytes.slice, List.length_take, List.length_drop]
      omega
    simp only [parseTpmsAttest, if_neg (Nat.not_lt.mpr hlong), hread, Raises.std, ok_bind,
      if_pos hcut]
    rfl
  | @magic body rest hlen h hfits hmagic =>
    refine ⟨.badMagic, ?_⟩
    have hread : unpackFrom 4 body 0 = .ok (Bytes.ofBE (body.slice 0 4)) :=
      unpackFrom_eq_ok.mpr ⟨hfits, rfl⟩
    rw [h, parseTpmsAttest_tpm2b hlen]
    simp only [parseAttestHead, hread, Raises.std, ok_bind, if_pos hmagic]
    rfl
  | @type body rest hlen h hfits hmagic htype =>
    refine ⟨.notAQuote, ?_⟩
    have hread : unpackFrom 4 body 0 = .ok tpmGeneratedValue :=
      unpackFrom_eq_ok.mpr ⟨by omega, hmagic.symm⟩
    have hread' : unpackFrom 2 body 4 = .ok (Bytes.ofBE (body.slice 4 2)) :=
      unpackFrom_eq_ok.mpr ⟨hfits, rfl⟩
    have hsame : ¬ tpmGeneratedValue ≠ tpmGeneratedValue := fun h => h rfl
    rw [h, parseTpmsAttest_tpm2b hlen]
    simp only [parseAttestHead, hread, hread', Raises.std, ok_bind, if_neg hsame, if_pos htype]
    rfl

theorem handles_quote_iff (raw : Bytes) :
    Handles (CompleteQuote raw) (parseTpmsAttest raw) ↔
      QuoteRefused raw ∨ ∃ attest, CompleteQuote raw attest := by
  constructor
  · intro h
    cases hparse : parseTpmsAttest raw with
    | ok attest =>
      rw [hparse] at h
      exact Or.inr ⟨attest, h⟩
    | error e =>
      rw [hparse] at h
      cases e with
      | std _ => exact h.elim
      | attestation why => exact Or.inl (refused_of_parse hparse)
  · intro h
    rcases h with refused | ⟨attest, complete⟩
    · obtain ⟨why, hparse⟩ := refused.refused
      rw [hparse]
      trivial
    · obtain ⟨q, more, rest, hlen, rfl, rfl⟩ := complete
      rw [parseTpmsAttest_complete q rest hlen]
      exact ⟨q, more, rest, hlen, rfl, rfl⟩

/-! ## Signatures -/

/-- A `TPMT_SIGNATURE`, maybe with more behind it. -/
def CompleteSignature (raw : Bytes) (rs : Nat × Nat) : Prop :=
  ∃ (sig : TpmSignature) (rest : Bytes), raw = sig.raw ++ rest ∧
    rs = (Bytes.ofBE sig.r, Bytes.ofBE sig.s)

/-- The sizes in it are the sizes of its halves. -/
theorem CompleteSignature.lengths {raw : Bytes} {rs : Nat × Nat} (h : CompleteSignature raw rs) :
    ∃ m n, m = Bytes.ofBE (raw.slice 4 2) ∧ n = Bytes.ofBE (raw.slice (6 + m) 2) ∧
      8 + m + n ≤ raw.length := by
  obtain ⟨sig, rest, rfl, -⟩ := h
  have hraw : sig.raw ++ rest = Bytes.toBE 2 tpmAlgEcdsa ++ (Bytes.toBE 2 sig.hashAlg ++
      (Bytes.toBE 2 sig.r.length ++ (sig.r ++ (Bytes.toBE 2 sig.s.length ++ (sig.s ++ rest))))) := by
    rw [TpmSignature.raw]
    simp only [tpm2b, List.append_assoc]
  have hr : (sig.raw ++ rest).slice 4 2 = Bytes.toBE 2 sig.r.length :=
    Bytes.slice_eq_part (hraw.trans (List.append_assoc ..).symm) rfl rfl
  have hs : (sig.raw ++ rest).slice (6 + sig.r.length) 2 = Bytes.toBE 2 sig.s.length :=
    Bytes.slice_eq_part (p := Bytes.toBE 2 tpmAlgEcdsa ++ (Bytes.toBE 2 sig.hashAlg ++
        (Bytes.toBE 2 sig.r.length ++ sig.r))) (q := sig.s ++ rest)
      (by rw [hraw]; simp only [List.append_assoc]) (by simp; omega) (by simp)
  refine ⟨sig.r.length, sig.s.length, ?_, ?_, ?_⟩
  · rw [hr, Bytes.ofBE_toBE sig.fits_r]
  · rw [hs, Bytes.ofBE_toBE sig.fits_s]
  · simp only [hraw, List.length_append, Bytes.length_toBE]
    omega

/-- The checks of `parse_tpmt_signature_ecdsa` that an input can fail. -/
inductive SignatureRefused (raw : Bytes) : Prop where
  | short (h : raw.length < 4)
  | algorithm (h : 4 ≤ raw.length) (halg : Bytes.ofBE (raw.slice 0 2) ≠ tpmAlgEcdsa)

theorem handles_signature_iff (raw : Bytes) :
    Handles (CompleteSignature raw) (parseTpmtSignatureEcdsa raw) ↔
      SignatureRefused raw ∨ ∃ rs, CompleteSignature raw rs := by
  by_cases hshort : raw.length < 4
  · have hparse : parseTpmtSignatureEcdsa raw = .error (.attestation .signatureTooShort) := by
      rw [parseTpmtSignatureEcdsa, if_pos hshort]
      rfl
    rw [hparse]
    exact ⟨fun _ => Or.inl (.short hshort), fun _ => trivial⟩
  · have hlong : 4 ≤ raw.length := Nat.not_lt.mp hshort
    have hread : unpackFrom 2 raw 0 = .ok (Bytes.ofBE (raw.slice 0 2)) :=
      unpackFrom_eq_ok.mpr ⟨by omega, rfl⟩
    by_cases halg : Bytes.ofBE (raw.slice 0 2) = tpmAlgEcdsa
    · constructor
      · intro h
        cases hparse : parseTpmtSignatureEcdsa raw with
        | ok rs =>
          rw [hparse] at h
          exact Or.inr ⟨rs, h⟩
        | error e =>
          rw [hparse] at h
          cases e with
          | std _ => exact h.elim
          | attestation why =>
            simp only [parseTpmtSignatureEcdsa, if_neg hshort, bind_eq_error, std_ne_attestation,
              std_eq_ok, hread, Except.ok.injEq, false_or] at hparse
            obtain ⟨_, rfl, hparse⟩ := hparse
            rw [if_neg (not_not.mpr halg)] at hparse
            simp only [bind_eq_error, std_ne_attestation, false_or] at hparse
            obtain ⟨_, -, _, -, hparse⟩ := hparse
            cases hparse
      · intro h
        rcases h with refused | ⟨rs, sig, rest, rfl, rfl⟩
        · cases refused with
          | short h => exact absurd h hshort
          | algorithm _ h => exact absurd halg h
        · rw [parseTpmtSignatureEcdsa_complete]
          exact ⟨sig, rest, rfl, rfl⟩
    · have hparse : parseTpmtSignatureEcdsa raw = .error (.attestation .notEcdsa) := by
        simp only [parseTpmtSignatureEcdsa, if_neg hshort, hread, Raises.std, ok_bind, if_pos halg]
        rfl
      rw [hparse]
      exact ⟨fun _ => Or.inl (.algorithm hlong halg), fun _ => trivial⟩

/-! ## PCR texts -/

/-- Every value is all of the digits of some line. -/
def WholeValues (lines : List Text) (values : PcrValues) : Prop :=
  ∀ value ∈ values, ∃ line ∈ lines, ∃ index hex, matchPcrLine line = some (index, hex) ∧
    pyInt index = .ok value.1 ∧ Text.fromHex (hex.filterMap Text.hex?) = .ok value.2 ∧
    hex.length = 2 * value.2.length

/-- What `int` and `fromhex` ask of a line. -/
def Convertible (line : Text) : Prop :=
  ∀ index hex, matchPcrLine line = some (index, hex) →
    index.length ≤ intMaxStrDigits ∧ hex.length % 2 = 0

theorem length_fromHex {digits : List Nat} {b : Bytes} (h : Text.fromHex digits = .ok b) :
    digits.length = 2 * b.length := by
  fun_induction Text.fromHex digits generalizing b with
  | case1 =>
    cases h
    rfl
  | case2 _ => cases h
  | case3 x y rest ih =>
    cases hrest : Text.fromHex rest with
    | error e =>
      rw [hrest] at h
      cases h
    | ok b' =>
      rw [hrest] at h
      cases h
      rw [List.length_cons, List.length_cons, ih hrest, List.length_cons]
      omega

theorem fromHex_of_even {digits : List Nat} (h : digits.length % 2 = 0) :
    ∃ b, Text.fromHex digits = .ok b := by
  fun_induction Text.fromHex digits with
  | case1 => exact ⟨[], rfl⟩
  | case2 _ => cases h
  | case3 x y rest ih =>
    rw [List.length_cons, List.length_cons] at h
    obtain ⟨b, hb⟩ := ih (by omega)
    exact ⟨_, by rw [hb]; rfl⟩

/-- The hex digits of a line are hex digits. -/
theorem length_hexDigits {line index hex : Text} (h : matchPcrLine line = some (index, hex)) :
    (hex.filterMap Text.hex?).length = hex.length := by
  have hall : ∀ t : Text, ((t.takeWhile fun c => (Text.hex? c).isSome).filterMap Text.hex?).length =
      (t.takeWhile fun c => (Text.hex? c).isSome).length := by
    intro t
    induction t with
    | nil => rfl
    | cons c t ih =>
      by_cases hc : (Text.hex? c).isSome = true
      · obtain ⟨v, hv⟩ := Option.isSome_iff_exists.mp hc
        rw [List.takeWhile_cons, if_pos hc, List.filterMap_cons_some hv, List.length_cons,
          List.length_cons, ih]
      · rw [List.takeWhile_cons, if_neg hc]
        rfl
  unfold matchPcrLine at h
  dsimp only at h
  split at h
  · split at h
    · split at h
      · cases h
        exact hall _
      · cases h
    · cases h
  · cases h

theorem mem_set {index : Nat} {value : Bytes} {values : PcrValues} {entry : Nat × Bytes}
    (h : entry ∈ PcrValues.set index value values) : entry = (index, value) ∨ entry ∈ values := by
  fun_induction PcrValues.set index value values with
  | case1 => exact Or.inl (List.mem_singleton.mp h)
  | case2 i v rest _ => exact List.mem_cons.mp h
  | case3 v rest _ =>
    rcases List.mem_cons.mp h with rfl | h
    · exact Or.inl rfl
    · exact Or.inr (List.mem_cons_of_mem _ h)
  | case4 i v rest _ _ ih =>
    rcases List.mem_cons.mp h with rfl | h
    · exact Or.inr (List.mem_cons_self ..)
    · exact (ih h).imp_right (List.mem_cons_of_mem _)

/-- A line that can be converted adds its value. -/
theorem Convertible.value {line index hex : Text} (h : Convertible line)
    (hmatch : matchPcrLine line = some (index, hex)) : ∃ i b, pyInt index = .ok i ∧
      Text.fromHex (hex.filterMap Text.hex?) = .ok b ∧ hex.length = 2 * b.length := by
  obtain ⟨hindex, heven⟩ := h index hex hmatch
  have hlen := length_hexDigits hmatch
  obtain ⟨b, hb⟩ := fromHex_of_even (hlen ▸ heven)
  refine ⟨_, b, if_neg (Nat.not_lt.mpr hindex), hb, ?_⟩
  rw [← hlen, length_fromHex hb]

theorem parsePcrLines_of_convertible {lines : List Text} (h : ∀ line ∈ lines, Convertible line)
    (values : PcrValues) : ∃ values', parsePcrLines lines values = .ok values' ∧
      ∀ value ∈ values', value ∈ values ∨ WholeValues lines [value] := by
  induction lines generalizing values with
  | nil => exact ⟨values, rfl, fun value hvalue => Or.inl hvalue⟩
  | cons line lines ih =>
    have later : ∀ value, WholeValues lines [value] → WholeValues (line :: lines) [value] := by
      intro value hwhole v hv
      obtain ⟨l, hl, hrest⟩ := hwhole v hv
      exact ⟨l, List.mem_cons_of_mem _ hl, hrest⟩
    have hlines := fun l hl => h l (List.mem_cons_of_mem line hl)
    rw [parsePcrLines]
    cases hmatch : matchPcrLine line with
    | none =>
      obtain ⟨values', hparse, hfrom⟩ := ih hlines values
      exact ⟨values', hparse, fun value hvalue => (hfrom value hvalue).imp_right (later value)⟩
    | some parts =>
      obtain ⟨index, hex⟩ := parts
      obtain ⟨i, b, hi, hb, hlen⟩ := (h line (List.mem_cons_self ..)).value hmatch
      obtain ⟨values', hparse, hfrom⟩ := ih hlines (PcrValues.set i b values)
      refine ⟨values', ?_, ?_⟩
      · dsimp only
        rw [hi, ok_bind, hb, ok_bind, hparse]
      · intro value hvalue
        rcases hfrom value hvalue with hset | hwhole
        · rcases mem_set hset with rfl | hold
          · right
            intro v hv
            obtain rfl := List.mem_singleton.mp hv
            exact ⟨line, List.mem_cons_self .., index, hex, hmatch, hi, hb, hlen⟩
          · exact Or.inl hold
        · exact Or.inr (later value hwhole)

theorem convertible_of_parsePcrLines {lines : List Text} {values values' : PcrValues}
    (h : parsePcrLines lines values = .ok values') : ∀ line ∈ lines, Convertible line := by
  induction lines generalizing values with
  | nil => exact nofun
  | cons line lines ih =>
    rw [parsePcrLines] at h
    cases hmatch : matchPcrLine line with
    | none =>
      rw [hmatch] at h
      intro l hl
      rcases List.mem_cons.mp hl with rfl | hl
      · intro index hex hsome
        cases hmatch.symm.trans hsome
      · exact ih h l hl
    | some parts =>
      obtain ⟨index, hex⟩ := parts
      rw [hmatch] at h
      simp only [bind_eq_ok] at h
      obtain ⟨i, hi, b, hb, hparse⟩ := h
      intro l hl
      rcases List.mem_cons.mp hl with rfl | hl
      · intro index' hex' hsome
        cases hmatch.symm.trans hsome
        constructor
        · by_contra hlong
          rw [pyInt, if_pos (Nat.not_le.mp hlong)] at hi
          cases hi
        · have hlen := length_fromHex hb
          rw [length_hexDigits hmatch] at hlen
          omega
      · exact ih hparse l hl

theorem handles_text_iff (text : Text) :
    Handles (WholeValues text.splitlines) (parsePcrText text) ↔
      ∀ line ∈ text.splitlines, Convertible line := by
  constructor
  · intro h
    cases hlines : parsePcrLines text.splitlines [] with
    | ok values => exact convertible_of_parsePcrLines hlines
    | error e =>
      have hparse : parsePcrText text = .error (.std e) := by
        rw [parsePcrText, hlines]
        rfl
      rw [hparse] at h
      exact h.elim
  · intro h
    obtain ⟨values, hlines, hfrom⟩ := parsePcrLines_of_convertible h []
    have hread : parsePcrText text =
        if values = [] then .error (.attestation .noPcrValues) else .ok values := by
      rw [parsePcrText, hlines, Raises.std, ok_bind]
      by_cases hnone : values = []
      · rw [if_pos hnone, if_pos hnone]
        rfl
      · rw [if_neg hnone, if_neg hnone]
        rfl
    rw [hread]
    by_cases hnone : values = []
    · rw [if_pos hnone]
      trivial
    · rw [if_neg hnone]
      intro value hvalue
      rcases hfrom value hvalue with hnil | hwhole
      · cases hnil
      · exact hwhole value (List.mem_singleton_self _)

/-- **What the three parsers handle.** Their input is refused with an `AttestationError`, or it is
complete and what is returned is all of it, exactly

* for a quote, when a check refuses it or it is the `TPM2B_ATTEST` of a quote, whatever follows;
* for a signature, when a check refuses it or it is a `TPMT_SIGNATURE`, whatever follows;
* for a PCR text, when every line of values has an even number of hex digits and no more digits in
  its index than `int` takes. -/
theorem parsers_handle_iff (raw : Bytes) (text : Text) :
    (Handles (CompleteQuote raw) (parseTpmsAttest raw) ↔
      QuoteRefused raw ∨ ∃ attest, CompleteQuote raw attest) ∧
    (Handles (CompleteSignature raw) (parseTpmtSignatureEcdsa raw) ↔
      SignatureRefused raw ∨ ∃ rs, CompleteSignature raw rs) ∧
    (Handles (WholeValues text.splitlines) (parsePcrText text) ↔
      ∀ line ∈ text.splitlines, Convertible line) :=
  ⟨handles_quote_iff raw, handles_signature_iff raw, handles_text_iff text⟩

/-- An empty body; a signature whose second half is 32 bytes long and ends after one; three hex
digits. The first and the last raise what nobody catches, and of the second a number is
returned. -/
theorem truncation_goes_unhandled :
    ¬ Handles (CompleteQuote [0x00, 0x00]) (parseTpmsAttest [0x00, 0x00]) ∧
    (parseTpmtSignatureEcdsa [0x00, 0x18, 0x00, 0x0b, 0x00, 0x01, 0x07, 0x00, 0x20, 0x01] =
        .ok (7, 1) ∧
      ¬ CompleteSignature [0x00, 0x18, 0x00, 0x0b, 0x00, 0x01, 0x07, 0x00, 0x20, 0x01] (7, 1)) ∧
    ¬ Handles (WholeValues (Text.splitlines "0:0xabc".toList)) (parsePcrText "0:0xabc".toList) := by
  refine ⟨?_, ⟨by decide, ?_⟩, ?_⟩
  · have hparse : parseTpmsAttest [0x00, 0x00] = .error (.std .structError) := by decide
    rw [hparse]
    exact id
  · intro complete
    obtain ⟨m, n, hm, hn, hle⟩ := complete.lengths
    have hm' : m = 1 := hm.trans (by decide)
    subst hm'
    have hn' : n = 32 := hn.trans (by decide)
    subst hn'
    exact absurd hle (by decide)
  · have hparse : parsePcrText "0:0xabc".toList = .error (.std .valueError) := by decide
    rw [hparse]
    exact id

end ConfidentialIoT
