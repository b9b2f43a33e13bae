import ConfidentialIoT.Tee.Crypto
import ConfidentialIoT.Server.Text

/-!
# `Server/Quote.lean` — the quote, its signature, and the PCR text

`parse_tpms_attest`, `parse_tpmt_signature_ecdsa`, `parse_pcr_text` and `recompute_pcr_digest`.
The binary parser reads past what it does not need: the signer's name, the clock, the firmware
version, and the PCR selection. `struct` raises where a field does not fit; a slice that does not
fit is short.
-/

set_option autoImplicit false

namespace ConfidentialIoT

/-! ## Why an attestation fails -/

/-- The places that raise `AttestationError`. -/
inductive AttestationFailure where
  | notRegistered (deviceId : Text)
  | noPendingChallenge (deviceId : Text)
  | challengeExpired
  | malformedBase64 (exc : StdError)
  | badEcdhPubLength
  | badTaSigLength
  | quoteTooShort
  | truncatedQuote
  | badMagic
  | notAQuote
  | signatureTooShort
  | notEcdsa
  | noPcrValues
  | pcrNotSigned
  | akNotEc
  | quoteSignature
  | transcriptMismatch
  | baselineMismatch
  | noTaIdentity
  | taKeyUnusable
  | taIdentity
deriving DecidableEq, Repr

/-- An exception: of the library, or an `AttestationError`. -/
inductive PyError where
  | std (e : StdError)
  | attestation (why : AttestationFailure)
deriving DecidableEq, Repr

/-- Code that may raise. -/
abbrev Raises (α : Type) : Type := Except PyError α

/-- A call to the library. -/
def Raises.std {α : Type} : Except StdError α → Raises α
  | .ok a => .ok a
  | .error e => .error (.std e)

/-- What Python prints for the values inside a message: `repr` of a string, and the text of a
library exception. -/
structure Messages where
  repr : Text → Text
  exc : StdError → Text

/-- The messages of `attestation.py`. -/
def AttestationFailure.message (m : Messages) : AttestationFailure → Text
  | .notRegistered deviceId => "device ".toList ++ m.repr deviceId ++ " is not registered".toList
  | .noPendingChallenge deviceId => "no pending challenge for ".toList ++ m.repr deviceId
  | .challengeExpired => "attestation challenge expired".toList
  | .malformedBase64 exc => "malformed base64 in attest_response: ".toList ++ m.exc exc
  | .badEcdhPubLength => "bad device_ecdh_pub length".toList
  | .badTaSigLength => "bad ta_sig length".toList
  | .quoteTooShort => "quote too short".toList
  | .truncatedQuote => "truncated quote".toList
  | .badMagic => "not a TPM-generated structure (bad magic)".toList
  | .notAQuote => "not a QUOTE attestation structure".toList
  | .signatureTooShort => "signature too short".toList
  | .notEcdsa => "expected an ECDSA signature".toList
  | .noPcrValues => "could not parse any PCR values".toList
  | .pcrNotSigned => "reported PCR values don't match the signed quote".toList
  | .akNotEc => "registered AK is not an EC public key".toList
  | .quoteSignature => "quote signature verification failed".toList
  | .transcriptMismatch => "quote does not match this session's transcript".toList
  | .baselineMismatch => "PCR values do not match the registered baseline".toList
  | .noTaIdentity => ("device has no enrolled TA identity key — remove it with " ++
      "scripts/reset-device-registry.sh, restart the server, and let " ++
      "the device re-provision").toList
  | .taKeyUnusable => "registered TA identity key is unusable".toList
  | .taIdentity => "TA identity verification failed".toList

/-! ## `TPM2B_ATTEST` -/

def tpmGeneratedValue : Nat := 0xFF544347
def tpmStAttestQuote : Nat := 0x8018
def tpmAlgEcdsa : Nat := 0x0018

/-- What `parse_tpms_attest` returns. -/
structure Attest where
  rawBody : Bytes
  extraData : Bytes
  pcrDigest : Bytes
deriving DecidableEq, Repr

/-- The offset behind the entries of a `TPML_PCR_SELECTION`: each a hash algorithm, a size, and a
bitmap of that size. Only the size is read. -/
def skipPcrSelections (body : Bytes) : (count off : Nat) → Except StdError Nat
  | 0, off => .ok off
  | count + 1, off => do
    let sizeOfSelect ← unpackFrom 1 body (off + 2)
    skipPcrSelections body count (off + 2 + (1 + sizeOfSelect))

/-- The offset of the PCR selection in a quote's body, and its `extraData`. -/
def parseAttestHead (body : Bytes) : Raises (Bytes × Nat) := do
  let magic ← .std (unpackFrom 4 body 0)
  if magic ≠ tpmGeneratedValue then
    throw (.attestation .badMagic)
  let attestType ← .std (unpackFrom 2 body 4)
  if attestType ≠ tpmStAttestQuote then
    throw (.attestation .notAQuote)
  let nameLen ← .std (unpackFrom 2 body 6)
  let off := 8 + nameLen
  let extraLen ← .std (unpackFrom 2 body off)
  -- 17 bytes of clock info and 8 of firmware version follow the extra data
  return (body.slice (off + 2) extraLen, off + 2 + extraLen + 17 + 8)

def parseTpmsAttest (raw : Bytes) : Raises Attest := do
  if raw.length < 2 then
    throw (.attestation .quoteTooShort)
  let bodyLen ← .std (unpackFrom 2 raw 0)
  let body := raw.slice 2 bodyLen
  if body.length ≠ bodyLen then
    throw (.attestation .truncatedQuote)
  let (extraData, off) ← parseAttestHead body
  let count ← .std (unpackFrom 4 body off)
  let off ← .std (skipPcrSelections body count (off + 4))
  let digestLen ← .std (unpackFrom 2 body off)
  return ⟨body, extraData, body.slice (off + 2) digestLen⟩

/-! ## `TPMT_SIGNATURE` -/

/-- The integers `r` and `s` of an ECDSA signature. The hash algorithm is not looked at. -/
def parseTpmtSignatureEcdsa (raw : Bytes) : Raises (Nat × Nat) := do
  if raw.length < 4 then
    throw (.attestation .signatureTooShort)
  let sigAlg ← .std (unpackFrom 2 raw 0)
  if sigAlg ≠ tpmAlgEcdsa then
    throw (.attestation .notEcdsa)
  let rLen ← .std (unpackFrom 2 raw 4)
  let r := Bytes.ofBE (raw.slice 6 rLen)
  let sLen ← .std (unpackFrom 2 raw (6 + rLen))
  return (r, Bytes.ofBE (raw.slice (6 + rLen + 2) sLen))

/-! ## The PCR text -/

/-- The values `int` refuses: more decimal digits than `sys.int_info` allows. -/
def intMaxStrDigits : Nat := 4300

/-- The digits and the hex digits of a line that `_PCR_LINE_RE` matches:
`^\s*(\d+)\s*:\s*0x([0-9A-Fa-f]+)\s*$`. No class of it overlaps what follows it, so there is one
way to match. -/
def matchPcrLine (line : Text) : Option (Text × Text) :=
  let start := line.dropWhile Text.isSpace
  let index := start.takeWhile fun c => (Text.decimal? c).isSome
  match (start.drop index.length).dropWhile Text.isSpace with
  | ':' :: rest =>
    match rest.dropWhile Text.isSpace with
    | '0' :: 'x' :: rest =>
      let hex := rest.takeWhile fun c => (Text.hex? c).isSome
      if index ≠ [] ∧ hex ≠ [] ∧ ((rest.drop hex.length).all Text.isSpace) then
        some (index, hex)
      else none
    | _ => none
  | _ => none

/-- `int(digits)` -/
def pyInt (digits : Text) : Except StdError Nat :=
  if intMaxStrDigits < digits.length then .error .valueError
  else .ok (digits.foldl (fun n c => n * 10 + (Text.decimal? c).getD 0) 0)

/-- The `values` dict, in ascending order of its indices. -/
abbrev PcrValues : Type := List (Nat × Bytes)

/-- `values[index] = value` -/
def PcrValues.set (index : Nat) (value : Bytes) : PcrValues → PcrValues
  | [] => [(index, value)]
  | (i, v) :: rest =>
    if index < i then (index, value) :: (i, v) :: rest
    else if index = i then (index, value) :: rest
    else (i, v) :: PcrValues.set index value rest

/-- Read the lines into the dict. A line that does not match is skipped. -/
def parsePcrLines : List Text → PcrValues → Except StdError PcrValues
  | [], values => .ok values
  | line :: lines, values =>
    match matchPcrLine line with
    | none => parsePcrLines lines values
    | some (index, hex) => do
      let index ← pyInt index
      let value ← Text.fromHex (hex.filterMap Text.hex?)
      parsePcrLines lines (PcrValues.set index value values)

def parsePcrText (text : Text) : Raises PcrValues := do
  let values ← .std (parsePcrLines text.splitlines [])
  if values = [] then
    throw (.attestation .noPcrValues)
  return values

/-- The bytes `recompute_pcr_digest` hashes: the values, joined in the order of their indices. -/
def PcrValues.joined (values : PcrValues) : Bytes := values.flatMap (·.2)

def recomputePcrDigest (C : Crypto) (text : Text) : Raises Bytes := do
  let values ← parsePcrText text
  return C.sha256 values.joined

end ConfidentialIoT
