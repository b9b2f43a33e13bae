import ConfidentialIoT.Server.Registry

/-!
# `Server/Enrolment.lean` — histories of a `DeviceRegistry`

`register`, `remove` and `clear`, in any order. A record leaves the registry only through
`remove` or `clear` of its id, and a refused registration changes nothing. But what a
registration that returns normally says is weaker than it looks: of the four pinned values
`register` compares two, so the other two, `expected_pcr` and `pcr_bank`, are the submitted ones
exactly if they were so before (`enrolled_in_force_iff`).
-/

set_option autoImplicit false

namespace ConfidentialIoT

/-- What a call of `register` submits. -/
structure Submission where
  deviceId : Text
  akPubPem : Text
  expectedPcr : Text
  pcrBank : Text
  taPubB64 : Text
deriving DecidableEq, Repr

inductive RegistryCall where
  /-- the clock is read where a new record is made -/
  | register (now : Time) (submitted : Submission)
  | remove (deviceId : Text)
  | clear

/-- What a call returned or raised. -/
inductive RegistryReply where
  | registered (record : DeviceRecord) (new : Bool)
  | mismatch (field : KeyMismatch)
  | removed (found : Bool)
  | cleared
deriving DecidableEq, Repr

/-- `DeviceRegistry.remove` -/
def Registry.remove (registry : Registry) (deviceId : Text) : Bool × Registry :=
  if (registry deviceId).isSome then (true, Function.update registry deviceId none)
  else (false, registry)

/-- One call. -/
def Registry.call (registry : Registry) : RegistryCall → RegistryReply × Registry
  | .register now s =>
    match registry.register now s.deviceId s.akPubPem s.expectedPcr s.pcrBank s.taPubB64 with
    | .error field => (.mismatch field, registry)
    | .ok (record, new, registry') => (.registered record new, registry')
  | .remove deviceId => (.removed (registry.remove deviceId).1, (registry.remove deviceId).2)
  | .clear => (.cleared, fun _ => none)

/-- The registry after a sequence of calls. -/
def Registry.after (registry : Registry) (calls : List RegistryCall) : Registry :=
  calls.foldl (fun registry call => (registry.call call).2) registry

/-- Whether a call may take an id's record away. -/
def RegistryCall.drops (id : Text) : RegistryCall → Prop
  | .register _ _ => False
  | .remove deviceId => deviceId = id
  | .clear => True

/-- The values an enrolment pins. -/
structure Pins where
  akPubPem : Text
  taPubB64 : Text
  expectedPcr : Text
  pcrBank : Text
deriving DecidableEq, Repr

def DeviceRecord.pins (r : DeviceRecord) : Pins := ⟨r.akPubPem, r.taPubB64, r.expectedPcr, r.pcrBank⟩
def Submission.pins (s : Submission) : Pins := ⟨s.akPubPem, s.taPubB64, s.expectedPcr, s.pcrBank⟩

/-- An id that is enrolled already is submitted with the baseline it is enrolled with. -/
def SameBaseline (registry : Registry) (s : Submission) : Prop :=
  ∀ existing, registry s.deviceId = some existing →
    existing.expectedPcr = s.expectedPcr ∧ existing.pcrBank = s.pcrBank

/-! ## One call -/

section

variable {registry registry' : Registry}

/-- What `register` can do: refuse, find the record with both keys as submitted, or make one. -/
theorem Registry.call_register_cases (registry : Registry) (now : Time) (s : Submission) :
    (∃ existing field, registry s.deviceId = some existing ∧
      registry.call (.register now s) = (.mismatch field, registry)) ∨
    (∃ existing, registry s.deviceId = some existing ∧ existing.akPubPem = s.akPubPem ∧
      existing.taPubB64 = s.taPubB64 ∧
      registry.call (.register now s) = (.registered existing false, registry)) ∨
    ∃ record : DeviceRecord, registry s.deviceId = none ∧ record.pins = s.pins ∧
      registry.call (.register now s) =
        (.registered record true, Function.update registry s.deviceId (some record)) := by
  cases hid : registry s.deviceId with
  | none =>
    refine Or.inr (Or.inr ⟨⟨s.deviceId, s.akPubPem, s.expectedPcr, s.pcrBank, now, s.taPubB64⟩,
      rfl, rfl, ?_⟩)
    simp only [Registry.call, Registry.register, hid]
  | some existing =>
    by_cases hak : existing.akPubPem = s.akPubPem
    · by_cases hta : existing.taPubB64 = s.taPubB64
      · refine Or.inr (Or.inl ⟨existing, rfl, hak, hta, ?_⟩)
        simp [Registry.call, Registry.register, hid, hak, hta]
      · refine Or.inl ⟨existing, .taPubB64, rfl, ?_⟩
        simp [Registry.call, Registry.register, hid, hak, hta]
    · refine Or.inl ⟨existing, .akPubPem, rfl, ?_⟩
      simp [Registry.call, Registry.register, hid, hak]

/-- A call that does not drop an id keeps its record. -/
theorem Registry.call_kept {c : RegistryCall} {id : Text} {record : DeviceRecord}
    (hid : registry id = some record) (hc : ¬ c.drops id) :
    (registry.call c).2 id = some record := by
  cases c with
  | clear => exact absurd trivial hc
  | remove deviceId =>
    have hne : id ≠ deviceId := fun h => hc h.symm
    show (registry.remove deviceId).2 id = some record
    unfold Registry.remove
    split
    · show Function.update registry deviceId none id = some record
      rw [Function.update_of_ne hne, hid]
    · exact hid
  | register now s =>
    rcases registry.call_register_cases now s with ⟨_, _, _, h⟩ | ⟨_, _, _, _, h⟩ | ⟨_, hnone, _, h⟩
    · rw [h]
      exact hid
    · rw [h]
      exact hid
    · have hne : id ≠ s.deviceId := by
        intro heq
        rw [← heq, hid] at hnone
        cases hnone
      rw [h]
      show Function.update registry s.deviceId _ id = some record
      rw [Function.update_of_ne hne, hid]

/-- A registration that returns normally leaves the submitted values in force if and only if
the baseline, where there is one already, is the submitted one. -/
theorem Registry.call_register_iff {now : Time} {s : Submission} {record : DeviceRecord}
    {new : Bool} (h : registry.call (.register now s) = (.registered record new, registry')) :
    (∃ stored, registry' s.deviceId = some stored ∧ stored.pins = s.pins) ↔
      SameBaseline registry s := by
  rcases registry.call_register_cases now s with ⟨_, _, _, hr⟩ | ⟨old, hid, hak, hta, hr⟩ |
    ⟨fresh, hid, hpins, hr⟩
  · rw [h] at hr
    cases hr
  · rw [h] at hr
    obtain ⟨-, rfl⟩ := Prod.mk.inj hr
    constructor
    · rintro ⟨stored, hstored, hpins⟩ existing hexisting
      rw [hstored] at hexisting
      cases hexisting
      exact ⟨congrArg Pins.expectedPcr hpins, congrArg Pins.pcrBank hpins⟩
    · intro hsame
      obtain ⟨hpcr, hbank⟩ := hsame old hid
      refine ⟨old, hid, ?_⟩
      rw [DeviceRecord.pins, Submission.pins, hak, hta, hpcr, hbank]
  · rw [h] at hr
    obtain ⟨-, rfl⟩ := Prod.mk.inj hr
    refine iff_of_true ⟨fresh, Function.update_self .., hpins⟩ ?_
    intro existing hexisting
    rw [hid] at hexisting
    cases hexisting

theorem Registry.call_mismatch {now : Time} {s : Submission} {field : KeyMismatch}
    (h : registry.call (.register now s) = (.mismatch field, registry')) : registry' = registry := by
  rcases registry.call_register_cases now s with ⟨_, _, _, hr⟩ | ⟨_, _, _, _, hr⟩ | ⟨_, _, _, hr⟩
  · rw [h] at hr
    exact (Prod.mk.inj hr).2
  · rw [h] at hr
    cases hr
  · rw [h] at hr
    cases hr

end

/-! ## Sequences of calls -/

/-- What nobody drops stays. -/
theorem Registry.after_kept {registry : Registry} {calls : List RegistryCall} {id : Text}
    {record : DeviceRecord} (hid : registry id = some record)
    (hkeep : ∀ c ∈ calls, ¬ c.drops id) : registry.after calls id = some record := by
  induction calls generalizing registry with
  | nil => exact hid
  | cons c calls ih =>
    have hc := Registry.call_kept hid (hkeep c (by simp))
    exact ih hc fun c' hc' => hkeep c' (by simp [hc'])

/-- **Enrolment, over every sequence of calls.** Between any two points of it:

* a record that no call in between removes or clears is still there, unchanged;
* at each registration that returns normally, the record stored afterwards has the submitted
  keys, baseline and bank if and only if an enrolment that was already there had the submitted
  baseline and bank;
* a registration that raises `DeviceKeyMismatch` leaves the registry as it was. -/
theorem enrolled_in_force_iff (registry₀ : Registry) (before : List RegistryCall) :
    (∀ calls id record, registry₀.after before id = some record →
      (∀ c ∈ calls, ¬ c.drops id) → registry₀.after (before ++ calls) id = some record) ∧
    (∀ now s record new registry',
      (registry₀.after before).call (.register now s) = (.registered record new, registry') →
      ((∃ stored, registry' s.deviceId = some stored ∧ stored.pins = s.pins) ↔
        SameBaseline (registry₀.after before) s)) ∧
    (∀ now s field registry',
      (registry₀.after before).call (.register now s) = (.mismatch field, registry') →
      registry' = registry₀.after before) := by
  refine ⟨?_, ?_, ?_⟩
  · intro calls id record hid hkeep
    rw [Registry.after, List.foldl_append]
    exact Registry.after_kept hid hkeep
  · intro now s record new registry' h
    exact Registry.call_register_iff h
  · intro now s field registry' h
    exact Registry.call_mismatch h

/-- A device, as the tests enrol it, with one baseline or another. -/
def edge01 (expectedPcr : Text) : Submission :=
  ⟨"iot-edge-01".toList, "pem-a".toList, expectedPcr, "sha256:0".toList, "ta-a".toList⟩

/-- Enrolled twice with the same values: they are in force. -/
theorem enrolled_in_force_played :
    ∃ record registry' stored,
      (Registry.after (fun _ => none) [.register 0 (edge01 "pcr-a".toList)]).call
        (.register 1 (edge01 "pcr-a".toList)) = (.registered record false, registry') ∧
      registry' (edge01 "pcr-a".toList).deviceId = some stored ∧
      stored.pins = (edge01 "pcr-a".toList).pins := by
  have hlaws := enrolled_in_force_iff (fun _ => none) [.register 0 (edge01 "pcr-a".toList)]
  have hreply : (Registry.after (fun _ => none) [.register 0 (edge01 "pcr-a".toList)]).call
      (.register 1 (edge01 "pcr-a".toList)) =
        (.registered _ false, Registry.after _ [.register 0 (edge01 "pcr-a".toList)]) := rfl
  obtain ⟨stored, hstored, hpins⟩ := (hlaws.2.1 _ _ _ _ _ hreply).mpr <| by
    intro existing hexisting
    cases hexisting
    exact ⟨rfl, rfl⟩
  exact ⟨_, _, stored, hreply, hstored, hpins⟩

/-- The same id with both keys as enrolled and another baseline: `register` returns normally,
and the baseline in force is not the submitted one. -/
theorem other_baseline_is_acknowledged :
    ∃ record registry',
      (Registry.after (fun _ => none) [.register 0 (edge01 "pcr-a".toList)]).call
        (.register 1 (edge01 "pcr-b".toList)) = (.registered record false, registry') ∧
      registry' (edge01 "pcr-b".toList).deviceId = some record ∧
      record.pins ≠ (edge01 "pcr-b".toList).pins := by
  refine ⟨_, _, rfl, rfl, ?_⟩
  decide

end ConfidentialIoT
