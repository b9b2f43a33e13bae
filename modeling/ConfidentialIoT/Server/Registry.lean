import Mathlib.Logic.Function.Basic
import ConfidentialIoT.Server.Quote

/-!
# `Server/Registry.lean` — enrolled devices

`DeviceRecord`, `validate_device_id`, `DeviceRegistry.register` and `lookup`. The registry is the
map it holds in memory; the file behind it is written from that map and read back only when the
server starts.
-/

set_option autoImplicit false

namespace ConfidentialIoT

/-- A time, as `time.time()` reads it, in nanoseconds. -/
abbrev Time : Type := Int

def seconds (n : Nat) : Time := n * 1000000000

structure DeviceRecord where
  deviceId : Text
  akPubPem : Text
  expectedPcr : Text
  pcrBank : Text
  createdAt : Time
  taPubB64 : Text
deriving DecidableEq, Repr

/-- `{device_id -> DeviceRecord}` -/
abbrev Registry : Type := Text → Option DeviceRecord

def deviceIdMaxLen : Nat := 63

def isAsciiAlnum (c : Char) : Bool :=
  ('A' ≤ c ∧ c ≤ 'Z') ∨ ('a' ≤ c ∧ c ≤ 'z') ∨ ('0' ≤ c ∧ c ≤ '9')

/-- `\A[A-Za-z0-9][A-Za-z0-9._:-]{0,62}\Z` -/
def matchDeviceId : Text → Bool
  | [] => false
  | c :: cs => isAsciiAlnum c && decide (cs.length ≤ 62) &&
    cs.all fun d => isAsciiAlnum d || d = '.' || d = '_' || d = ':' || d = '-'

/-- `validate_device_id`: the id, or `ValueError`. -/
def validateDeviceId (deviceId : Text) : Except StdError Text :=
  if ¬ matchDeviceId deviceId then .error .valueError
  else if deviceIdMaxLen < deviceId.utf8.length then .error .valueError
  else .ok deviceId

/-- `DeviceKeyMismatch`, with the field it names. -/
inductive KeyMismatch where
  | akPubPem | taPubB64
deriving DecidableEq, Repr

/-- `DeviceRegistry.register`: the record, whether it is new, and the registry after it. Every
pinned field is compared before the early return. -/
def Registry.register (registry : Registry) (now : Time)
    (deviceId akPubPem expectedPcr pcrBank taPubB64 : Text) :
    Except KeyMismatch (DeviceRecord × Bool × Registry) :=
  match registry deviceId with
  | some existing =>
    if existing.akPubPem ≠ akPubPem then .error .akPubPem
    else if existing.taPubB64 ≠ taPubB64 then .error .taPubB64
    else .ok (existing, false, registry)
  | none =>
    let record : DeviceRecord := ⟨deviceId, akPubPem, expectedPcr, pcrBank, now, taPubB64⟩
    .ok (record, true, Function.update registry deviceId (some record))

/-- An enrolled device's record is never replaced. -/
theorem Registry.register_kept {registry registry' : Registry} {now : Time}
    {deviceId ak pcr bank ta id : Text} {record r : DeviceRecord} {new : Bool}
    (h : registry.register now deviceId ak pcr bank ta = .ok (r, new, registry'))
    (hid : registry id = some record) : registry' id = some record := by
  unfold Registry.register at h
  cases hreg : registry deviceId with
  | some existing =>
    rw [hreg] at h
    simp only at h
    split_ifs at h
    cases h
    exact hid
  | none =>
    rw [hreg] at h
    cases h
    have hne : id ≠ deviceId := by
      rintro rfl
      rw [hid] at hreg
      cases hreg
    rw [Function.update_of_ne hne, hid]

end ConfidentialIoT
