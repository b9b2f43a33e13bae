import Mathlib.Data.List.TakeWhile
import ConfidentialIoT.Server.FailedSave
import ConfidentialIoT.Server.Link
import ConfidentialIoT.Server.Marshal

/-!
# `Server/Endpoint.lean` — `POST /api/devices/register`

`register_device` from the posted bytes to its reply, with everything that escapes it: what
`request.json()` raises before the `try` block, what the `except` clause does not name, and what
`_save` raises after the record is in memory (`Server/FailedSave.lean`). `Server/Link.lean` has the
endpoint as one of the server's threads, where only the registration matters.
-/

set_option autoImplicit false

namespace ConfidentialIoT

open Effects

/-! ## The endpoint -/

/-- `base64.b64decode` of a value of the body: what is no string is a `TypeError`. -/
def b64decode : JsonValue → Except StdError Bytes
  | .str t => b64d (.str t)
  | _ => .error .typeError

/-- The `try` block. -/
def submissionOf (rt : Runtime) (C : CryptoLib) (body : JsonValue) : Except StdError Submission := do
  let deviceId ← validateDeviceId (← rt.toStr (← body.subscript "device_id".toList))
  let akPubPem ← rt.utf8 (← b64decode (← body.subscript "ak_pub_pem_b64".toList))
  let expectedPcr ← rt.toStr (← body.subscript "expected_pcr".toList)
  let pcrBank ← match ← body.get "pcr_bank".toList with
    | some v => rt.toStr v
    | none => .ok "sha256:0".toList
  let taPubRaw ← b64decode (← body.subscript "ta_pub_b64".toList)
  if taPubRaw.length ≠ 65 ∨ taPubRaw.head? ≠ some 0x04 then
    throw .valueError
  if (C.fromEncodedPoint taPubRaw).isNone then
    throw .valueError
  return ⟨deviceId, akPubPem, expectedPcr, pcrBank, b64e taPubRaw⟩

/-- `except (KeyError, ValueError, binascii.Error, UnicodeDecodeError)` -/
def enrolCatches : StdError → Bool
  | .keyError _ | .valueError => true
  | _ => false

/-- The replies of `register_device`, with its records as they are held. -/
inductive EnrolReply (R : Type) where
  | badRecord (exc : StdError)
  | idRequired
  | mismatch (deviceId : Text) (field : KeyMismatch)
  | enrolled (record : R) (newly : Bool)
deriving DecidableEq, Repr

namespace EnrolReply

variable {R R' : Type}

def status : EnrolReply R → Nat
  | .badRecord _ | .idRequired => 400
  | .mismatch _ _ => 409
  | .enrolled _ _ => 200

def map (f : R → R') : EnrolReply R → EnrolReply R'
  | .badRecord exc => .badRecord exc
  | .idRequired => .idRequired
  | .mismatch deviceId field => .mismatch deviceId field
  | .enrolled record newly => .enrolled (f record) newly

def fieldName : KeyMismatch → Text
  | .akPubPem => "ak_pub_pem".toList
  | .taPubB64 => "ta_pub_b64".toList

/-- `str(DeviceKeyMismatch(device_id, field))` -/
def mismatchText (m : Messages) (deviceId : Text) (field : KeyMismatch) : Text :=
  "device ".toList ++ m.repr deviceId ++ " is already registered with a different key (".toList ++
    fieldName field ++ ("); registration never overwrites a pinned identity — " ++
      "remove it with scripts/reset-device-registry.sh, then restart the server").toList

def body (rt : Runtime) : EnrolReply StoredRecord → JsonValue
  | .badRecord exc =>
    .obj [("error".toList, .str ("bad enrollment record: ".toList ++ rt.messages.exc exc))]
  | .idRequired => .obj [("error".toList, .str "device_id required".toList)]
  | .mismatch deviceId field => .obj [("ok".toList, .bool false),
      ("error".toList, .str (mismatchText rt.messages deviceId field))]
  | .enrolled record newly => .obj [("ok".toList, .bool true), ("device_id".toList, record.deviceId),
      ("created_at".toList, record.createdAt), ("already_registered".toList, .bool (!newly))]

theorem status_cases (reply : EnrolReply R) :
    reply.status = 200 ∨ reply.status = 400 ∨ reply.status = 409 := by
  cases reply <;> simp [status]

end EnrolReply

/-- `register_device`. `request.json()` stands before the `try` block, and the registration behind
it; the clock is read where a new record is made. -/
def registerEndpoint (rt : Runtime) (C : CryptoLib) (lib : JsonLib) (now : Time) (posted : Bytes) :
    RegistryMethod (EnrolReply StoredRecord) := do
  let body ← Proc.ofOutcome ((rt.loads posted).mapError .std)
  match submissionOf rt C body with
  | .error exc =>
    if enrolCatches exc then
      return .badRecord exc
    else
      throw (.std exc)
  | .ok s =>
    if s.deviceId = [] then
      return .idRequired
    match ← DeviceRegistry.register lib rt.ofTime now s with
    | .mismatch field => return .mismatch s.deviceId field
    | .registered record newly => return .enrolled record newly
    -- what `remove` and `clear` answer
    | .removed _ | .cleared => throw (.std .typeError)

/-- The endpoint on a body that was read, beside the server's other threads and as long as `_save`
raises nothing. -/
def registerBody (rt : Runtime) (C : CryptoLib) (body : JsonValue) :
    Py Connection (EnrolReply DeviceRecord) := do
  match submissionOf rt C body with
  | .error exc =>
    if enrolCatches exc then
      return .badRecord exc
    else
      throw (.std exc)
  | .ok s =>
    if s.deviceId = [] then
      return .idRequired
    match (← step (.register s.deviceId s.akPubPem s.expectedPcr s.pcrBank s.taPubB64)).2 with
    | .error field => return .mismatch s.deviceId field
    | .ok (record, newly) => return .enrolled record newly

/-! ## The same registration -/

theorem b64decode_eq_ok {v : JsonValue} {b : Bytes} : b64decode v = .ok b ↔ b64d v = .ok b := by
  cases v with
  | str t => exact Iff.rfl
  | _ => exact ⟨nofun, nofun⟩

/-- What a body that can be enrolled contains. -/
structure Submits (rt : Runtime) (C : CryptoLib) (body : JsonValue) (s : Submission) : Prop where
  deviceId : ∃ v t, body.subscript "device_id".toList = .ok v ∧ rt.toStr v = .ok t ∧
    validateDeviceId t = .ok s.deviceId
  akPubPem : ∃ v raw, body.subscript "ak_pub_pem_b64".toList = .ok v ∧ b64d v = .ok raw ∧
    rt.utf8 raw = .ok s.akPubPem
  expectedPcr : ∃ v, body.subscript "expected_pcr".toList = .ok v ∧ rt.toStr v = .ok s.expectedPcr
  pcrBank : ∃ o, body.get "pcr_bank".toList = .ok o ∧
    (match o with | some v => rt.toStr v | none => .ok "sha256:0".toList) = .ok s.pcrBank
  taPub : ∃ v raw, body.subscript "ta_pub_b64".toList = .ok v ∧ b64d v = .ok raw ∧
    raw.length = 65 ∧ raw.head? = some 0x04 ∧ (C.fromEncodedPoint raw).isSome = true ∧
    s.taPubB64 = b64e raw

/-- Reading a body, whatever a base64 field that is no string raises. -/
theorem reads_body_iff {rt : Runtime} {C : CryptoLib} {body : JsonValue} {s : Submission}
    {decode : JsonValue → Except StdError Bytes} (hdecode : ∀ v b, decode v = .ok b ↔ b64d v = .ok b) :
    (do
      let deviceId ← validateDeviceId (← rt.toStr (← body.subscript "device_id".toList))
      let akPubPem ← rt.utf8 (← decode (← body.subscript "ak_pub_pem_b64".toList))
      let expectedPcr ← rt.toStr (← body.subscript "expected_pcr".toList)
      let pcrBank ← match ← body.get "pcr_bank".toList with
        | some v => rt.toStr v
        | none => .ok "sha256:0".toList
      let taPubRaw ← decode (← body.subscript "ta_pub_b64".toList)
      if taPubRaw.length ≠ 65 ∨ taPubRaw.head? ≠ some 0x04 then
        throw .valueError
      if (C.fromEncodedPoint taPubRaw).isNone then
        throw .valueError
      return (⟨deviceId, akPubPem, expectedPcr, pcrBank, b64e taPubRaw⟩ : Submission)) =
        (.ok s : Except StdError Submission) ↔ Submits rt C body s := by
  have hpoint : ∀ raw, ¬ (C.fromEncodedPoint raw).isNone = true ↔
      (C.fromEncodedPoint raw).isSome = true := by
    intro raw
    cases C.fromEncodedPoint raw <;> simp
  simp only [bind_eq_ok, hdecode]
  constructor
  · rintro ⟨v, hv, t, ht, id, hid, w, hw, raw, hraw, pem, hpem, x, hx, pcr, hpcr, o, ho, h⟩
    have hrest : ∃ bank, (match o with | some v => rt.toStr v | none => .ok "sha256:0".toList) =
        .ok bank ∧ ∃ y, body.subscript "ta_pub_b64".toList = .ok y ∧ ∃ ta, b64d y = .ok ta ∧
          (ta.length = 65 ∧ ta.head? = some 0x04) ∧ (C.fromEncodedPoint ta).isSome = true ∧
          (⟨id, pem, pcr, bank, b64e ta⟩ : Submission) = s := by
      cases o with
      | some v' =>
        simp only [bind_eq_ok, hdecode, ite_throw_eq_ok, pure_eq_ok, hpoint, not_or, not_not,
          ne_eq] at h
        exact h
      | none =>
        simp only [bind_eq_ok, hdecode, ite_throw_eq_ok, pure_eq_ok, hpoint, not_or, not_not,
          ne_eq] at h
        exact h
    obtain ⟨bank, hbank, y, hy, ta, hta, ⟨hlen, hhead⟩, hcurve, rfl⟩ := hrest
    exact ⟨⟨v, t, hv, ht, hid⟩, ⟨w, raw, hw, hraw, hpem⟩, ⟨x, hx, hpcr⟩, ⟨o, ho, hbank⟩,
      ⟨y, ta, hy, hta, hlen, hhead, hcurve, rfl⟩⟩
  · rintro ⟨⟨v, t, hv, ht, hid⟩, ⟨w, raw, hw, hraw, hpem⟩, ⟨x, hx, hpcr⟩, ⟨o, ho, hbank⟩,
      ⟨y, ta, hy, hta, hlen, hhead, hcurve, hs⟩⟩
    refine ⟨v, hv, t, ht, _, hid, w, hw, raw, hraw, _, hpem, x, hx, _, hpcr, o, ho, ?_⟩
    have hrest : ∃ bank, (match o with | some v => rt.toStr v | none => .ok "sha256:0".toList) =
        .ok bank ∧ ∃ y, body.subscript "ta_pub_b64".toList = .ok y ∧ ∃ ta, b64d y = .ok ta ∧
          (ta.length = 65 ∧ ta.head? = some 0x04) ∧ (C.fromEncodedPoint ta).isSome = true ∧
          (⟨s.deviceId, s.akPubPem, s.expectedPcr, bank, b64e ta⟩ : Submission) = s :=
      ⟨_, hbank, y, hy, ta, hta, ⟨hlen, hhead⟩, hcurve, by rw [← hs]⟩
    cases o with
    | some v' =>
      simp only [bind_eq_ok, hdecode, ite_throw_eq_ok, pure_eq_ok, hpoint, not_or, not_not, ne_eq]
      exact hrest
    | none =>
      simp only [bind_eq_ok, hdecode, ite_throw_eq_ok, pure_eq_ok, hpoint, not_or, not_not, ne_eq]
      exact hrest

theorem submissionOf_iff {rt : Runtime} {C : CryptoLib} {body : JsonValue} {s : Submission} :
    submissionOf rt C body = .ok s ↔ Submits rt C body s :=
  reads_body_iff fun _ _ => b64decode_eq_ok

theorem enrolmentOf_iff {rt : Runtime} {C : CryptoLib} {body : JsonValue} {s : Submission} :
    enrolmentOf rt C body = .ok s ↔ Submits rt C body s :=
  reads_body_iff fun _ _ => Iff.rfl

theorem validateDeviceId_eq_ok {t id : Text} (h : validateDeviceId t = .ok id) :
    id = t ∧ matchDeviceId t = true := by
  unfold validateDeviceId at h
  by_cases hmatch : matchDeviceId t = true
  · rw [if_neg (not_not.mpr hmatch)] at h
    split at h
    · cases h
    · exact ⟨(Except.ok.inj h).symm, hmatch⟩
  · rw [if_pos hmatch] at h
    cases h

theorem Submits.matched {rt : Runtime} {C : CryptoLib} {body : JsonValue} {s : Submission}
    (h : Submits rt C body s) : matchDeviceId s.deviceId = true := by
  obtain ⟨v, t, -, -, hid⟩ := h.deviceId
  obtain ⟨heq, hmatch⟩ := validateDeviceId_eq_ok hid
  exact heq ▸ hmatch

theorem Submits.deviceId_ne {rt : Runtime} {C : CryptoLib} {body : JsonValue} {s : Submission}
    (h : Submits rt C body s) : s.deviceId ≠ [] := by
  intro hempty
  have hmatch := h.matched
  rw [hempty] at hmatch
  cases hmatch

/-- The thread that registers does what the endpoint does, and drops its reply. -/
theorem registerDevice_eq (rt : Runtime) (C : CryptoLib) (body : JsonValue) :
    registerDevice rt C body = (registerBody rt C body).outcome >>= fun _ => pure () := by
  unfold registerDevice registerBody
  cases hs : submissionOf rt C body with
  | error exc =>
    cases he : enrolmentOf rt C body with
    | ok s => cases (submissionOf_iff.mpr (enrolmentOf_iff.mp he)).symm.trans hs
    | error exc' =>
      simp only []
      split <;> rfl
  | ok s =>
    have hsubmits := submissionOf_iff.mp hs
    rw [enrolmentOf_iff.mpr hsubmits]
    simp only [if_neg hsubmits.deviceId_ne]
    refine funext fun conn => ?_
    refine congrArg (Prog.call (S := Server) (.act (.register _ _ _ _ _))) (funext fun r => ?_)
    obtain ⟨now, field | ⟨record, newly⟩⟩ := r <;> rfl

/-! ## Device ids -/

/-- What both sides make of an id that was accepted: its bytes are its characters, and no NUL cuts
them short. -/
structure AsciiId (id : Text) : Prop where
  length_pos : 0 < id.length
  length_le : id.length ≤ deviceIdMaxLen
  ascii : ∀ c ∈ id, 0 < c.toNat ∧ c.toNat < 128
  utf8 : id.utf8 = Bytes.ascii id
  cString : cString id.utf8 = id.utf8

theorem idChar_ascii {c : Char}
    (h : (isAsciiAlnum c || c = '.' || c = '_' || c = ':' || c = '-') = true) :
    0 < c.toNat ∧ c.toNat < 128 := by
  have hle : ∀ d : Char, d ≤ c ↔ d.toNat ≤ c.toNat := fun d => Iff.rfl
  have hge : ∀ d : Char, c ≤ d ↔ c.toNat ≤ d.toNat := fun d => Iff.rfl
  simp only [isAsciiAlnum, hle, hge, Bool.or_eq_true, decide_eq_true_eq] at h
  rcases h with (((h | rfl) | rfl) | rfl) | rfl
  · simp at h
    omega
  all_goals decide

theorem utf8EncodeChar_ascii {c : Char} (h : c.toNat < 128) :
    String.utf8EncodeChar c = [UInt8.ofNat c.toNat] :=
  if_pos (Nat.le_of_lt_succ h)

theorem asciiId_of_match {id : Text} (h : matchDeviceId id = true) : AsciiId id := by
  cases id with
  | nil => cases h
  | cons c cs =>
    simp only [matchDeviceId, Bool.and_eq_true, decide_eq_true_eq, List.all_eq_true] at h
    obtain ⟨⟨hc, hlen⟩, hcs⟩ := h
    have hascii : ∀ d ∈ c :: cs, 0 < d.toNat ∧ d.toNat < 128 := by
      intro d hd
      rcases List.mem_cons.mp hd with rfl | hd
      · exact idChar_ascii (by simp [hc])
      · exact idChar_ascii (hcs d hd)
    have hutf8 : Text.utf8 (c :: cs) = Bytes.ascii (c :: cs) := by
      unfold Text.utf8 Bytes.ascii
      rw [List.map_eq_flatMap]
      refine List.flatMap_congr fun d hd => ?_
      exact utf8EncodeChar_ascii (hascii d hd).2
    refine ⟨by simp, Nat.lt_succ_of_le hlen, hascii, hutf8, ?_⟩
    rw [hutf8]
    refine List.takeWhile_eq_self_iff.mpr ?_
    intro b hb
    obtain ⟨d, hd, rfl⟩ := List.mem_map.mp hb
    obtain ⟨hpos, hlt⟩ := hascii d hd
    have hne : UInt8.ofNat d.toNat ≠ 0 := by
      intro hzero
      have hnat := congrArg UInt8.toNat hzero
      rw [UInt8.toNat_ofNat', Nat.mod_eq_of_lt (show d.toNat < 2 ^ 8 by omega)] at hnat
      exact absurd hnat (Nat.ne_of_gt hpos)
    simpa using hne

/-! ## What escapes -/

/-- What Python documents of `bytes.decode`: a text that is no UTF-8 is a `UnicodeDecodeError`. -/
structure Runtime.Documented (rt : Runtime) : Prop where
  utf8 : ∀ b e, rt.utf8 b = .error e → e = .valueError

/-- What the `try` block raises, its `except` clause names. -/
def Caught {α : Type} (x : Except StdError α) : Prop := ∀ e, x = .error e → enrolCatches e = true

section

variable {α β : Type}

theorem caught_ok {a : α} : Caught (.ok a) := nofun

theorem caught_bind {x : Except StdError α} {f : α → Except StdError β} :
    Caught (x >>= f) ↔ Caught x ∧ ∀ a, x = .ok a → Caught (f a) := by
  cases x with
  | error e =>
    constructor
    · intro h
      exact ⟨fun e' he' => Except.error.inj he' ▸ h e rfl, nofun⟩
    · rintro ⟨h, -⟩ e' he'
      exact Except.error.inj he' ▸ h e rfl
  | ok a =>
    constructor
    · intro h
      exact ⟨caught_ok, fun b hb => Except.ok.inj hb ▸ h⟩
    · intro h
      exact h.2 a rfl

theorem caught_valueError {x : Except StdError α} (h : ∀ e, x = .error e → e = .valueError) :
    Caught x := by
  intro e he
  rw [h e he]
  rfl

theorem caught_ite_valueError {p : Prop} [Decidable p] {x : Except StdError α} :
    Caught (if p then throw .valueError >>= fun (_ : PUnit) => x else x) ↔ (¬ p → Caught x) := by
  by_cases hp : p
  · simp only [hp, if_true, not_true, false_imp_iff, iff_true]
    exact caught_valueError fun e he => (Except.error.inj he).symm
  · simp [hp]

end

theorem map_eq_error {α β : Type} {f : α → β} {x : Except StdError α} {e : StdError} :
    f <$> x = .error e ↔ x = .error e := by
  cases x with
  | ok a => exact ⟨nofun, nofun⟩
  | error e' => exact ⟨fun h => Except.error.inj h ▸ rfl, fun h => Except.error.inj h ▸ rfl⟩

theorem mapError_eq_ok {ε ε' α : Type} {f : ε → ε'} {x : Except ε α} {a : α} :
    x.mapError f = .ok a ↔ x = .ok a := by
  cases x with
  | ok a' => exact ⟨fun h => Except.ok.inj h ▸ rfl, fun h => Except.ok.inj h ▸ rfl⟩
  | error e => exact ⟨nofun, nofun⟩

/-- A wrong base64 text is a `ValueError`. -/
theorem decodeFrom_error {t : Text} {quad : List Nat} {pads : Nat} {e : StdError}
    (h : Base64.decodeFrom t quad pads = .error e) : e = .valueError := by
  fun_induction Base64.decodeFrom t quad pads <;> simp_all [map_eq_error]

theorem caught_b64d {t : Text} : Caught (b64d (.str t)) := by
  refine caught_valueError ?_
  intro e he
  by_cases hascii : (t.all fun c => c.toNat < 128) = true
  · rw [b64d, if_pos hascii] at he
    exact decodeFrom_error he
  · rw [b64d, if_neg hascii] at he
    exact (Except.error.inj he).symm

theorem caught_b64decode {v : JsonValue} : Caught (b64decode v) ↔ ∃ t, v = .str t := by
  cases v with
  | str t => exact ⟨fun _ => ⟨t, rfl⟩, fun _ => caught_b64d⟩
  | _ => exact ⟨fun h => absurd (h .typeError rfl) (by decide), nofun⟩

theorem caught_subscript {v : JsonValue} {key : Text} :
    Caught (v.subscript key) ↔ ∃ fields, v = .obj fields := by
  cases v with
  | obj fields =>
    refine ⟨fun _ => ⟨fields, rfl⟩, fun _ => ?_⟩
    unfold JsonValue.subscript
    dsimp only
    cases JsonValue.field? fields key with
    | some v => exact caught_ok
    | none =>
      intro e he
      cases he
      rfl
  | _ => exact ⟨fun h => absurd (h .typeError rfl) (by decide), nofun⟩

theorem caught_validate {t : Text} : Caught (validateDeviceId t) := by
  refine caught_valueError ?_
  intro e he
  unfold validateDeviceId at he
  split at he
  · exact (Except.error.inj he).symm
  · split at he
    · exact (Except.error.inj he).symm
    · cases he

/-- The `try` block has read the id. -/
def ReachesAk (rt : Runtime) (body : JsonValue) : Prop :=
  ∃ v t id, body.subscript "device_id".toList = .ok v ∧ rt.toStr v = .ok t ∧
    validateDeviceId t = .ok id

/-- It has read the AK. -/
def ReachesPcr (rt : Runtime) (body : JsonValue) : Prop :=
  ReachesAk rt body ∧ ∃ w raw pem, body.subscript "ak_pub_pem_b64".toList = .ok w ∧
    b64decode w = .ok raw ∧ rt.utf8 raw = .ok pem

/-- It has read the baseline. -/
def ReachesBank (rt : Runtime) (body : JsonValue) : Prop :=
  ReachesPcr rt body ∧ ∃ x pcr, body.subscript "expected_pcr".toList = .ok x ∧ rt.toStr x = .ok pcr

/-- `str(body.get("pcr_bank", "sha256:0"))` -/
def bankOf (rt : Runtime) : Option JsonValue → Except StdError Text
  | some v => rt.toStr v
  | none => .ok "sha256:0".toList

/-- It has read the bank. -/
def ReachesTa (rt : Runtime) (body : JsonValue) : Prop :=
  ReachesBank rt body ∧ ∃ o bank, body.get "pcr_bank".toList = .ok o ∧ bankOf rt o = .ok bank

/-- The body is an object; `b64decode` gets a string wherever it is reached; and `str` of a field
that is reached raises nothing that the `except` clause does not name. -/
structure Typed (rt : Runtime) (body : JsonValue) : Prop where
  object : ∃ fields, body = .obj fields
  deviceId : ∀ v, body.subscript "device_id".toList = .ok v → Caught (rt.toStr v)
  akPubPem : ReachesAk rt body → ∀ w, body.subscript "ak_pub_pem_b64".toList = .ok w →
    ∃ text, w = .str text
  expectedPcr : ReachesPcr rt body → ∀ x, body.subscript "expected_pcr".toList = .ok x →
    Caught (rt.toStr x)
  pcrBank : ReachesBank rt body → ∀ o, body.get "pcr_bank".toList = .ok o → Caught (bankOf rt o)
  taPub : ReachesTa rt body → ∀ y, body.subscript "ta_pub_b64".toList = .ok y → ∃ text, y = .str text

/-- The `try` block raises nothing else than what its `except` clause names if and only if the
body is typed. -/
theorem submissionOf_caught_iff {rt : Runtime} {C : CryptoLib} (hrt : rt.Documented)
    {body : JsonValue} : Caught (submissionOf rt C body) ↔ Typed rt body := by
  have hutf8 : ∀ b, Caught (rt.utf8 b) := fun b => caught_valueError (hrt.utf8 b)
  -- what follows the bank is the same with the submitted one and with the default
  have htail : ∀ (bank : Except StdError Text) (id pem pcr : Text),
      Caught (bank >>= fun pcrBank => do
        let taPubRaw ← b64decode (← body.subscript "ta_pub_b64".toList)
        if taPubRaw.length ≠ 65 ∨ taPubRaw.head? ≠ some 0x04 then
          throw .valueError
        if (C.fromEncodedPoint taPubRaw).isNone then
          throw .valueError
        return (⟨id, pem, pcr, pcrBank, b64e taPubRaw⟩ : Submission)) ↔
      Caught bank ∧ ∀ b, bank = .ok b → (∃ fields, body = .obj fields) ∧
        ∀ y, body.subscript "ta_pub_b64".toList = .ok y → ∃ text, y = .str text := by
    intro bank id pem pcr
    have hend : ∀ r : Submission, Caught (pure r : Except StdError Submission) := fun r => caught_ok
    simp only [caught_bind, caught_subscript, caught_b64decode, caught_ite_valueError, hend,
      implies_true, and_true]
  unfold submissionOf
  simp only [caught_bind, caught_subscript, caught_b64decode, caught_validate, hutf8, true_and]
  constructor
  · rintro ⟨hobject, h⟩
    have hbank : ReachesBank rt body → ∀ o, body.get "pcr_bank".toList = .ok o →
        Caught (bankOf rt o) ∧ ∀ b, bankOf rt o = .ok b → (∃ fields, body = .obj fields) ∧
          ∀ y, body.subscript "ta_pub_b64".toList = .ok y → ∃ text, y = .str text := by
      rintro ⟨⟨⟨v, t, id, hv, ht, hid⟩, w, raw, pem, hw, hraw, hpem⟩, x, pcr, hx, hpcr⟩ o ho
      have hrest := (((((h v hv).2 t ht id hid).2 w hw).2 raw hraw pem hpem).2 x hx).2 pcr hpcr
      cases o with
      | some v => exact (htail (rt.toStr v) id pem pcr).mp (hrest.2 _ ho)
      | none => exact (htail _ id pem pcr).mp (hrest.2 _ ho)
    refine ⟨hobject, fun v hv => (h v hv).1, ?_, ?_, fun hreach o ho => (hbank hreach o ho).1, ?_⟩
    · rintro ⟨v, t, id, hv, ht, hid⟩ w hw
      exact (((h v hv).2 t ht id hid).2 w hw).1
    · rintro ⟨⟨v, t, id, hv, ht, hid⟩, w, raw, pem, hw, hraw, hpem⟩ x hx
      exact (((((h v hv).2 t ht id hid).2 w hw).2 raw hraw pem hpem).2 x hx).1
    · rintro ⟨hreach, o, bank, ho, hb⟩ y hy
      exact ((hbank hreach o ho).2 bank hb).2 y hy
  · intro h
    refine ⟨h.object, fun v hv => ⟨h.deviceId v hv, fun t ht id hid => ⟨h.object, fun w hw => ?_⟩⟩⟩
    have reachesAk : ReachesAk rt body := ⟨v, t, id, hv, ht, hid⟩
    refine ⟨h.akPubPem reachesAk w hw, fun raw hraw pem hpem => ⟨h.object, fun x hx => ?_⟩⟩
    have reachesPcr : ReachesPcr rt body := ⟨reachesAk, w, raw, pem, hw, hraw, hpem⟩
    refine ⟨h.expectedPcr reachesPcr x hx, fun pcr hpcr => ⟨?_, fun o ho => ?_⟩⟩
    · obtain ⟨fields, rfl⟩ := h.object
      exact caught_ok
    · have reachesBank : ReachesBank rt body := ⟨reachesPcr, x, pcr, hx, hpcr⟩
      have hta : ∀ b, bankOf rt o = .ok b → (∃ fields, body = .obj fields) ∧
          ∀ y, body.subscript "ta_pub_b64".toList = .ok y → ∃ text, y = .str text :=
        fun b hb => ⟨h.object, h.taPub ⟨reachesBank, o, b, ho, hb⟩⟩
      have hcaught := h.pcrBank reachesBank o ho
      cases o with
      | some v => exact (htail (rt.toStr v) id pem pcr).mpr ⟨hcaught, hta⟩
      | none => exact (htail _ id pem pcr).mpr ⟨hcaught, hta⟩

/-! ## Every request -/

/-- What a request does: nothing, or it enrols one record under an id that was free, and says so. -/
inductive EnrolsOne (table table' : DeviceTable) : EnrolReply StoredRecord → Prop where
  | nothing {reply : EnrolReply StoredRecord} (h : ∀ record, reply ≠ .enrolled record true)
      (same : table' = table) : EnrolsOne table table' reply
  | record {id : Text} {record : StoredRecord} (named : record.deviceId = .str id)
      (free : table.get? id = none) (valid : validateDeviceId id = .ok id) (ascii : AsciiId id)
      (after : table' = table.set id record) : EnrolsOne table table' (.enrolled record true)

/-- A request is answered, and does what its answer says. -/
def RequestAnswered (table table' : DeviceTable)
    (r : Except SaveError (EnrolReply StoredRecord)) : Prop :=
  ∃ reply, r = .ok reply ∧ (reply.status = 200 ∨ reply.status = 400 ∨ reply.status = 409) ∧
    EnrolsOne table table' reply

/-- The endpoint can read the request: `json.loads` does, and the `try` block raises only what is
caught. -/
def Readable (rt : Runtime) (posted : Bytes) : Prop :=
  ∃ body, rt.loads posted = .ok body ∧ Typed rt body

section

variable {rt : Runtime} {C : CryptoLib} {lib : JsonLib} {now : Time} {posted : Bytes}
  {body : JsonValue} {table table' : DeviceTable} {d d' : Disk} {tr : List (Event SaveDisk)}
  {r : Except SaveError (EnrolReply StoredRecord)}

/-- The `register` of a record that was read: a reply, with every step of `_save` gone through, or
what a step has raised. -/
theorem register_evals {s : Submission} {r : Except SaveError StoredReply}
    (h : EvalsP SaveTurn (DeviceRegistry.register lib rt.ofTime now s) table d tr r table' d') :
    (∃ reply, r = .ok reply ∧ (reply, table') = table.call rt.ofTime (.register now s) ∧
      Unrefused tr) ∨ (∃ e, r = .error e) ∧ ¬ Unrefused tr := by
  have hends := EvalsP.sound (p := DeviceRegistry.call lib rt.ofTime (.register now s)) h call_stops
  cases r with
  | ok reply => exact Or.inl ⟨reply, rfl, hends⟩
  | error e =>
    refine Or.inr ⟨⟨e, rfl⟩, ?_⟩
    obtain ⟨-, -, before, step, rfl, -⟩ := hends
    intro hall
    obtain ⟨step', heq⟩ := hall (.refused step e) (by simp)
    cases heq

/-- The endpoint's reply to what `register` returned. -/
def StoredReply.answer (deviceId : Text) : StoredReply → Option (EnrolReply StoredRecord)
  | .mismatch field => some (.mismatch deviceId field)
  | .registered record newly => some (.enrolled record newly)
  | .removed _ | .cleared => none

/-- What a registration does that raised nothing. -/
theorem Submits.enrolsOne {s : Submission} (hs : Submits rt C body s) {reply : StoredReply}
    (h : (reply, table') = table.call rt.ofTime (.register now s)) :
    ∃ answer, reply.answer s.deviceId = some answer ∧ EnrolsOne table table' answer := by
  cases hid : table.get? s.deviceId with
  | none =>
    simp only [DeviceTable.call, hid] at h
    cases h
    obtain ⟨v, t, -, -, hvalid⟩ := hs.deviceId
    obtain ⟨heq, -⟩ := validateDeviceId_eq_ok hvalid
    exact ⟨_, rfl, .record rfl hid (heq ▸ hvalid) (asciiId_of_match hs.matched) rfl⟩
  | some existing =>
    simp only [DeviceTable.call, hid] at h
    split at h
    · cases h
      exact ⟨_, rfl, .nothing (by simp) rfl⟩
    · split at h
      · cases h
        exact ⟨_, rfl, .nothing (by simp) rfl⟩
      · cases h
        exact ⟨_, rfl, .nothing (by simp) rfl⟩

/-- What an execution of the endpoint comes to. -/
inductive Handling (rt : Runtime) (C : CryptoLib) (now : Time) (posted : Bytes) (table : DeviceTable) :
    List (Event SaveDisk) → Except SaveError (EnrolReply StoredRecord) → DeviceTable → Prop where
  /-- `request.json()` raises. -/
  | unread {e : StdError} (raised : rt.loads posted = .error e) :
      Handling rt C now posted table [] (.error (.std e)) table
  /-- The `try` block raises what is caught, -/
  | refused {body : JsonValue} {exc : StdError} (read : rt.loads posted = .ok body)
      (raised : submissionOf rt C body = .error exc) (caught : enrolCatches exc = true) :
      Handling rt C now posted table [] (.ok (.badRecord exc)) table
  /-- and what is not. -/
  | escaped {body : JsonValue} {exc : StdError} (read : rt.loads posted = .ok body)
      (raised : submissionOf rt C body = .error exc) (uncaught : ¬ enrolCatches exc = true) :
      Handling rt C now posted table [] (.error (.std exc)) table
  /-- `register` returns, -/
  | registered {body : JsonValue} {s : Submission} {tr : List (Event SaveDisk)} {reply : StoredReply}
      {answer : EnrolReply StoredRecord} {table' : DeviceTable} (read : rt.loads posted = .ok body)
      (submits : Submits rt C body s)
      (called : (reply, table') = table.call rt.ofTime (.register now s))
      (answers : reply.answer s.deviceId = some answer) (saved : Unrefused tr) :
      Handling rt C now posted table tr (.ok answer) table'
  /-- or a step of its `_save` fails. -/
  | failed {tr : List (Event SaveDisk)} {e : SaveError} {table' : DeviceTable} (unsaved : ¬ Unrefused tr) :
      Handling rt C now posted table tr (.error e) table'

theorem registerEndpoint_handles
    (h : EvalsP SaveTurn (registerEndpoint rt C lib now posted) table d tr r table' d') :
    Handling rt C now posted table tr r table' := by
  unfold registerEndpoint at h
  rcases evalsP_bind.mp h with ⟨e, rfl, hjson⟩ | ⟨body, _, _, tr₁, tr₂, rfl, hjson, hrest⟩
  · obtain ⟨rfl, hraised, rfl, -⟩ := evalsP_ofOutcome.mp hjson
    cases hloads : rt.loads posted with
    | ok body =>
      rw [hloads] at hraised
      cases hraised
    | error e' =>
      rw [hloads] at hraised
      cases hraised
      exact .unread hloads
  · obtain ⟨rfl, hreturned, rfl, rfl⟩ := evalsP_ofOutcome.mp hjson
    have hbody : rt.loads posted = .ok body := mapError_eq_ok.mp hreturned.symm
    cases hsub : submissionOf rt C body with
    | error exc =>
      rw [hsub] at hrest
      dsimp only at hrest
      by_cases hcaught : enrolCatches exc = true
      · rw [if_pos hcaught] at hrest
        obtain ⟨rfl, rfl, rfl, -⟩ := evalsP_pure.mp hrest
        exact .refused hbody hsub hcaught
      · rw [if_neg hcaught] at hrest
        obtain ⟨rfl, rfl, rfl, -⟩ := evalsP_throw.mp hrest
        exact .escaped hbody hsub hcaught
    | ok s =>
      have hsubmits := submissionOf_iff.mp hsub
      rw [hsub] at hrest
      simp only [if_neg hsubmits.deviceId_ne] at hrest
      rcases evalsP_bind.mp hrest with ⟨e, rfl, hregister⟩ |
        ⟨reply, _, _, tr₃, tr₄, rfl, hregister, hreply⟩
      · rcases register_evals hregister with ⟨_, hok, -⟩ | ⟨-, hraised⟩
        · cases hok
        · exact .failed hraised
      · rcases register_evals hregister with ⟨_, hok, hcall, hall⟩ | ⟨⟨e, he⟩, -⟩
        · cases hok
          obtain ⟨answer, hanswer, -⟩ := hsubmits.enrolsOne hcall
          cases reply with
          | mismatch field =>
            obtain ⟨rfl, rfl, rfl, -⟩ := evalsP_pure.mp hreply
            rw [List.nil_append, List.append_nil]
            exact .registered hbody hsubmits hcall rfl hall
          | registered record newly =>
            obtain ⟨rfl, rfl, rfl, -⟩ := evalsP_pure.mp hreply
            rw [List.nil_append, List.append_nil]
            exact .registered hbody hsubmits hcall rfl hall
          | removed _ => cases hanswer
          | cleared => cases hanswer
        · cases he

theorem readable_iff (hrt : rt.Documented) (hbody : rt.loads posted = .ok body) :
    Readable rt posted ↔ Caught (submissionOf rt C body) := by
  rw [submissionOf_caught_iff hrt]
  constructor
  · rintro ⟨body', hbody', typed⟩
    cases hbody.symm.trans hbody'
    exact typed
  · intro typed
    exact ⟨body, hbody, typed⟩

/-- **The endpoint answers a request**, with 200, 400 or 409, and enrols at most the one record it
says it does, if and only if it can read the request and no step of a `_save` fails. -/
theorem endpoint_total_iff (hrt : rt.Documented)
    (h : EvalsP SaveTurn (registerEndpoint rt C lib now posted) table d tr r table' d') :
    RequestAnswered table table' r ↔ Readable rt posted ∧ Unrefused tr := by
  have unanswered : ∀ e, ¬ RequestAnswered table table' (.error e) := by
    rintro e ⟨reply, hreply, -⟩
    cases hreply
  cases registerEndpoint_handles h with
  | unread raised =>
    refine iff_of_false (unanswered _) ?_
    rintro ⟨⟨body, hbody, -⟩, -⟩
    cases raised.symm.trans hbody
  | refused hbody hsub hcaught =>
    refine iff_of_true ⟨_, rfl, EnrolReply.status_cases _, .nothing (by simp) rfl⟩
      ⟨(readable_iff (C := C) hrt hbody).mpr ?_, ?_⟩
    · intro e he
      cases hsub.symm.trans he
      exact hcaught
    · intro ev hev
      cases hev
  | escaped hbody hsub huncaught =>
    refine iff_of_false (unanswered _) ?_
    intro hright
    exact huncaught ((readable_iff (C := C) hrt hbody).mp hright.1 _ hsub)
  | registered hbody hsubmits hcall hanswer hall =>
    obtain ⟨answer', hanswer', hone⟩ := hsubmits.enrolsOne hcall
    cases hanswer.symm.trans hanswer'
    refine iff_of_true ⟨_, rfl, EnrolReply.status_cases _, hone⟩
      ⟨(readable_iff (C := C) hrt hbody).mpr ?_, hall⟩
    rw [submissionOf_iff.mpr hsubmits]
    exact caught_ok
  | failed hraised => exact iff_of_false (unanswered _) fun hright => hraised hright.2

end

/-- The registration of a body that was read. -/
theorem Submits.evals {rt : Runtime} {C : CryptoLib} {identity : Point} {body : JsonValue}
    {sub : Submission} (hsub : Submits rt C body sub) {conn conn' : Connection} {s s' : ServerState}
    {tr : List (Event Server)} {r : Except PyError (EnrolReply DeviceRecord)}
    (h : EvalsP (ServerStep C identity) (registerBody rt C body) conn s tr r conn' s') :
    (∃ field, r = .ok (.mismatch sub.deviceId field) ∧ s' = s) ∨
    (∃ record, r = .ok (.enrolled record false) ∧ s' = s) ∨
    ∃ record : DeviceRecord, r = .ok (.enrolled record true) ∧ record.deviceId = sub.deviceId ∧
      record.pins = sub.pins ∧ s.registry sub.deviceId = none ∧ s' = { s with
        registry := Function.update s.registry sub.deviceId (some record) } := by
  unfold registerBody at h
  rw [submissionOf_iff.mpr hsub] at h
  simp only [if_neg hsub.deviceId_ne] at h
  rcases evalsP_bind.mp h with ⟨e, rfl, hstep⟩ | ⟨b, _, s₁, tr₁, tr₂, -, hstep, hrest⟩
  · obtain ⟨_, -, hr, -⟩ := evalsP_act.mp hstep
    cases hr
  · obtain ⟨⟨now, answer⟩, -, hb, rfl, hdid⟩ := evalsP_act.mp hstep
    cases hb
    have hregister : (answer, s₁) = _ := hdid
    simp only [ServerState.register, Registry.register] at hregister
    cases hfound : s.registry sub.deviceId with
    | some existing =>
      rw [hfound] at hregister
      by_cases hak : existing.akPubPem = sub.akPubPem
      · by_cases hta : existing.taPubB64 = sub.taPubB64
        · simp only [ne_eq, hak, hta, not_true_eq_false, if_false] at hregister
          obtain ⟨rfl, rfl⟩ := Prod.mk.inj hregister
          obtain ⟨-, rfl, -, rfl⟩ := evalsP_pure.mp hrest
          exact Or.inr (Or.inl ⟨existing, rfl, rfl⟩)
        · simp only [ne_eq, hak, hta, not_true_eq_false, if_false, not_false_eq_true, if_true]
            at hregister
          obtain ⟨rfl, rfl⟩ := Prod.mk.inj hregister
          obtain ⟨-, rfl, -, rfl⟩ := evalsP_pure.mp hrest
          exact Or.inl ⟨.taPubB64, rfl, rfl⟩
      · simp only [ne_eq, hak, not_false_eq_true, if_true] at hregister
        obtain ⟨rfl, rfl⟩ := Prod.mk.inj hregister
        obtain ⟨-, rfl, -, rfl⟩ := evalsP_pure.mp hrest
        exact Or.inl ⟨.akPubPem, rfl, rfl⟩
    | none =>
      rw [hfound] at hregister
      obtain ⟨rfl, rfl⟩ := Prod.mk.inj hregister
      obtain ⟨-, rfl, -, rfl⟩ := evalsP_pure.mp hrest
      exact Or.inr (Or.inr ⟨_, rfl, rfl, rfl, rfl, rfl⟩)

/-- The registration of a body that was read, next to the one of the registry. -/
theorem Submits.registers {rt : Runtime} {C : CryptoLib} {body : JsonValue} {sub : Submission}
    (hsub : Submits rt C body sub) (identity : Point) (now : Time) (conn : Connection)
    (s : ServerState) : ∃ tr reply, EvalsP (ServerStep C identity) (registerBody rt C body) conn s tr
        (.ok reply) conn { s with registry := (s.registry.call (.register now sub)).2 } ∧
      ((s.registry.call (.register now sub)).1.stored rt.ofTime).answer sub.deviceId =
        some (reply.map (·.stored rt.ofTime)) := by
  unfold registerBody
  rw [submissionOf_iff.mpr hsub]
  simp only [if_neg hsub.deviceId_ne]
  have hstep : ∀ answer s₁, (answer, s₁) = s.register sub.deviceId sub.akPubPem
      sub.expectedPcr sub.pcrBank sub.taPubB64 now →
      EvalsP (ServerStep C identity) (step (.register sub.deviceId sub.akPubPem
        sub.expectedPcr sub.pcrBank sub.taPubB64)) conn s _ (.ok (now, answer)) conn s₁ :=
    fun answer s₁ heq => evalsP_act.mpr ⟨(now, answer), rfl, rfl, rfl, heq⟩
  simp only [ServerState.register] at hstep
  simp only [Registry.call]
  cases hreg : s.registry.register now sub.deviceId sub.akPubPem sub.expectedPcr sub.pcrBank
      sub.taPubB64 with
  | error field =>
    rw [hreg] at hstep
    exact ⟨_, _, evalsP_bind.mpr (Or.inr ⟨_, _, _, _, _, rfl, hstep _ _ rfl,
      evalsP_pure.mpr ⟨rfl, rfl, rfl, rfl⟩⟩), rfl⟩
  | ok answer =>
    obtain ⟨record, newly, registry'⟩ := answer
    rw [hreg] at hstep
    exact ⟨_, _, evalsP_bind.mpr (Or.inr ⟨_, _, _, _, _, rfl, hstep _ _ rfl,
      evalsP_pure.mpr ⟨rfl, rfl, rfl, rfl⟩⟩), rfl⟩

/-- **A request that is answered is a registration of the server's state**, with the same reply: what
the link's threads do next to it. -/
theorem registerEndpoint_body {rt : Runtime} {C : CryptoLib} {identity : Point} {lib : JsonLib}
    {now : Time} {posted : Bytes} {body : JsonValue} {table table' : DeviceTable} {d d' : Disk}
    {tr : List (Event SaveDisk)} {reply : EnrolReply StoredRecord}
    (hbody : rt.loads posted = .ok body)
    (h : EvalsP SaveTurn (registerEndpoint rt C lib now posted) table d tr (.ok reply) table' d')
    {s : ServerState} (hs : Represents rt.ofTime table s.registry) (conn : Connection) :
    ∃ tr' reply' registry', EvalsP (ServerStep C identity) (registerBody rt C body) conn s tr'
        (.ok reply') conn { s with registry := registry' } ∧
      reply = reply'.map (·.stored rt.ofTime) ∧ Represents rt.ofTime table' registry' := by
  cases registerEndpoint_handles h with
  | refused read hsub hcaught =>
    cases hbody.symm.trans read
    refine ⟨[], .badRecord _, s.registry, ?_, rfl, hs⟩
    unfold registerBody
    rw [hsub]
    dsimp only
    rw [if_pos hcaught]
    exact evalsP_pure.mpr ⟨rfl, rfl, rfl, rfl⟩
  | registered read hsubmits hcall hanswer =>
    cases hbody.symm.trans read
    obtain ⟨hstored, hafter⟩ := hs.call (.register now _)
    rw [← hcall] at hstored hafter
    obtain ⟨tr', reply', hevals, hreply⟩ := hsubmits.registers identity now conn s
    rw [← hstored, hanswer] at hreply
    exact ⟨tr', reply', _, hevals, Option.some.inj hreply, hafter⟩

namespace Vectors

/-- What `provision-device.sh` posts for the device. -/
def deviceFields : List (Text × JsonValue) := [
  ("device_id".toList, .str deviceName),
  ("ak_pub_pem_b64".toList, .str (b64e (Bytes.ascii akPem))),
  ("expected_pcr".toList, .str pcrText),
  ("ta_pub_b64".toList, .str (b64e taIdentity.pub.sec1))]

def deviceBody : JsonValue := .obj deviceFields

/-- The same with a key that is `null`. -/
def nullKeyFields : List (Text × JsonValue) := [
  ("device_id".toList, .str deviceName), ("ak_pub_pem_b64".toList, .null)]

def nullKeyBody : JsonValue := .obj nullKeyFields

/-- Python on these bodies. -/
def enrolPython : Runtime where
  loads b :=
    match [deviceFields, nullKeyFields].find? fun fields => lineOf fields = b with
    | some fields => .ok (.obj fields)
    | none => .error .valueError
  utf8 b :=
    if b.all fun x => x.toNat < 128 then .ok (b.map fun x => Char.ofNat x.toNat)
    else .error .valueError
  str
    | .null => .ok "None".toList
    | .bool b => .ok (if b then "True".toList else "False".toList)
    | v => .ok (jsonScalar v)
  repr := python.repr
  float := python.float
  ofTime := python.ofTime
  messages := python.messages

theorem enrolPython_documented : enrolPython.Documented where
  utf8 b e h := by
    simp only [enrolPython] at h
    split at h
    · cases h
    · exact (Except.error.inj h).symm

theorem enrolPython_str (v : JsonValue) : Caught (enrolPython.toStr v) := by
  cases v <;> exact caught_ok

theorem deviceBody_typed : Typed enrolPython deviceBody where
  object := ⟨_, rfl⟩
  deviceId v _ := enrolPython_str v
  akPubPem _ w hw := by
    have hfield : deviceBody.subscript "ak_pub_pem_b64".toList =
        .ok (.str (b64e (Bytes.ascii akPem))) := rfl
    exact ⟨_, Except.ok.inj (hw.symm.trans hfield)⟩
  expectedPcr _ x _ := enrolPython_str x
  pcrBank _ o _ := by
    cases o with
    | some v => exact enrolPython_str v
    | none => exact caught_ok
  taPub _ y hy := by
    have hfield : deviceBody.subscript "ta_pub_b64".toList =
        .ok (.str (b64e taIdentity.pub.sec1)) := rfl
    exact ⟨_, Except.ok.inj (hy.symm.trans hfield)⟩

theorem deviceFields_loads : enrolPython.loads (lineOf deviceFields) = .ok deviceBody := by
  simp [enrolPython, deviceBody]

theorem nullKeyFields_loads : enrolPython.loads (lineOf nullKeyFields) = .ok nullKeyBody := by
  have hne : ¬ lineOf deviceFields = lineOf nullKeyFields := by decide +kernel
  simp [enrolPython, nullKeyBody, hne]

/-- The file of a registry with this device. -/
def deviceText : Text := "\x7b\n  ".toList ++ jsonString deviceName ++
  ": \x7b\n    \"device_id\": ".toList ++ jsonString deviceName ++
  ",\n    \"ak_pub_pem\": ".toList ++ jsonString akPem ++
  ",\n    \"expected_pcr\": ".toList ++ jsonString pcrText ++
  ",\n    \"pcr_bank\": \"sha256:0\",\n    \"created_at\": 0.0,\n    \"ta_pub_b64\": ".toList ++
  jsonString (b64e taIdentity.pub.sec1) ++ "\n  \x7d\n\x7d".toList

/-- `json` on the registry with this device, and on the empty one. -/
def deviceJson : JsonLib where
  dump
    | .obj [] => [0x7b, 0x7d]
    | _ => Bytes.ascii deviceText
  load text :=
    if text = [0x7b, 0x7d] then .ok (.obj [])
    else if text = Bytes.ascii deviceText then
      .ok (.obj [(deviceName, (deviceRecord.stored enrolPython.ofTime).toDict)])
    else .error .valueError

/-- What is posted to a server without devices, on a file system that refuses some steps. -/
def requested (refuses : SaveStep → Bool) (fields : List (Text × JsonValue)) :
    List (Event SaveDisk) × (Except SaveError (EnrolReply StoredRecord) × DeviceTable) × Disk :=
  serve (refusing refuses)
    ((registerEndpoint enrolPython lib deviceJson 0 (lineOf fields)).go Dict.empty) .missing

theorem requested_evals (refuses : SaveStep → Bool) (fields : List (Text × JsonValue)) :
    EvalsP SaveTurn (registerEndpoint enrolPython lib deviceJson 0 (lineOf fields)) Dict.empty .missing
      (requested refuses fields).1 (requested refuses fields).2.1.1 (requested refuses fields).2.1.2
      (requested refuses fields).2.2 := by
  have hall : (requested refuses fields).1.all (fun _ => true) = true :=
    List.all_eq_true.mpr fun _ _ => rfl
  exact serve_evals (fun d c _ => refusing_turn refuses d c) hall

theorem requested_unrefused (fields : List (Text × JsonValue)) :
    Unrefused (requested (fun _ => false) fields).1 := by
  refine serve_forall ?_
  intro d c
  cases c with
  | req step => exact ⟨step, rfl⟩
  | act a => exact a.elim

end Vectors

/-- The device's own body is answered, where the file can be written. -/
theorem endpoint_total_played : RequestAnswered Dict.empty
    (Vectors.requested (fun _ => false) Vectors.deviceFields).2.1.2
    (Vectors.requested (fun _ => false) Vectors.deviceFields).2.1.1 :=
  (endpoint_total_iff Vectors.enrolPython_documented (Vectors.requested_evals _ _)).mpr
    ⟨⟨_, Vectors.deviceFields_loads, Vectors.deviceBody_typed⟩, Vectors.requested_unrefused _⟩

/-- `b64decode(None)` is a `TypeError`, which the `except` clause does not name; the body is one that
`json.loads` reads, and no step of `_save` fails. -/
theorem null_key_escapes : ¬ ∀ (rt : Runtime) (C : CryptoLib) lib now posted body table d tr r table'
    d', rt.Documented → rt.loads posted = .ok body → Unrefused tr →
    EvalsP SaveTurn (registerEndpoint rt C lib now posted) table d tr r table' d' →
    RequestAnswered table table' r := by
  intro total
  have hraises : EvalsP SaveTurn (registerEndpoint Vectors.enrolPython Vectors.lib Vectors.deviceJson
      0 (lineOf Vectors.nullKeyFields)) Dict.empty .missing [] (.error (.std .typeError)) Dict.empty
      .missing := by
    unfold registerEndpoint
    rw [Vectors.nullKeyFields_loads]
    exact evalsP_throw.mpr ⟨rfl, rfl, rfl, rfl⟩
  obtain ⟨reply, hreply, -⟩ := total _ _ _ _ _ _ _ _ [] _ _ _ Vectors.enrolPython_documented
    Vectors.nullKeyFields_loads nofun hraises
  cases hreply

end ConfidentialIoT
