import ConfidentialIoT.Lib.Eval
import ConfidentialIoT.TrustedApp.Sensor

/-!
# `TrustedApp/Reading.lean` — the payload of a reading

`[4B big-endian int32 value][1B unit_len][unit_len ASCII unit]`. `decodeReading` is what
`read_sensor_reading` takes from the buffer that the PTA filled; it accepts the layouts of the
readings there are and nothing else (`decodeReading_iff`). The text it then prints always fits
`sess->reading`, so an accepted payload is stored.
-/

set_option autoImplicit false

namespace ConfidentialIoT

open Effects

/-- The payload of a reading. -/
def readingLayout (value : BitVec 32) (unit : Bytes) : Bytes :=
  Bytes.toBE sensorLinkReadingValueSize value.toNat ++ (UInt8.ofNat unit.length :: unit)

theorem length_readingLayout (value : BitVec 32) (unit : Bytes) :
    (readingLayout value unit).length = sensorLinkReadingValueSize + 1 + unit.length := by
  rw [readingLayout, List.length_append, Bytes.length_toBE, List.length_cons]
  omega

/-- The value and the unit in a buffer, if its size is what the unit's length asks for. -/
def decodeReading (answer : BytesN sensorLinkReadingMax × Nat) : Option (BitVec 32 × Bytes) :=
  if answer.2 < sensorLinkReadingValueSize + 1 then none
  else
    let unitLen := (answer.1.1.getD sensorLinkReadingValueSize 0).toNat
    if unitLen > sensorLinkReadingUnitMax ∨ answer.2 ≠ sensorLinkReadingValueSize + 1 + unitLen then
      none
    else
      some (BitVec.ofNat 32 (Bytes.ofBE (answer.1.1.slice 0 4)),
        answer.1.1.slice (sensorLinkReadingValueSize + 1) unitLen)

section

variable {answer : BytesN sensorLinkReadingMax × Nat} {value : BitVec 32} {unit : Bytes}

/-- A buffer that begins with a layout, field by field. -/
theorem layout_fields
    (hlayout : answer.1.1.take (readingLayout value unit).length = readingLayout value unit) :
    answer.1.1.slice 0 4 = Bytes.toBE 4 value.toNat ∧
      answer.1.1.getD sensorLinkReadingValueSize 0 = UInt8.ofNat unit.length ∧
      answer.1.1.slice (sensorLinkReadingValueSize + 1) unit.length = unit := by
  have hwhole : answer.1.1 = Bytes.toBE 4 value.toNat ++ (UInt8.ofNat unit.length :: unit) ++
      answer.1.1.drop (readingLayout value unit).length := by
    conv_lhs => rw [← List.take_append_drop (readingLayout value unit).length answer.1.1, hlayout]
    rfl
  generalize answer.1.1.drop (readingLayout value unit).length = rest at hwhole
  refine ⟨?_, ?_, ?_⟩
  · refine Bytes.slice_eq_part (p := [])
      (q := (UInt8.ofNat unit.length :: unit) ++ rest) ?_ rfl (by simp)
    rw [hwhole, List.nil_append, List.append_assoc]
  · rw [hwhole, List.getD_eq_getElem?_getD, List.append_assoc,
      List.getElem?_append_right (by simp)]
    simp
  · refine Bytes.slice_eq_part (p := Bytes.toBE 4 value.toNat ++ [UInt8.ofNat unit.length])
      (q := rest) ?_ (by simp) rfl
    rw [hwhole]
    simp

theorem length_unit (b : BytesN sensorLinkReadingMax) {unitLen : Nat}
    (h : unitLen ≤ sensorLinkReadingUnitMax) :
    (b.1.slice (sensorLinkReadingValueSize + 1) unitLen).length = unitLen := by
  have hmax : unitLen ≤ 32 := h
  apply Bytes.length_slice
  rw [b.2]
  show 4 + 1 + unitLen ≤ 256
  omega

/-- The other way round: the three fields of a buffer are a layout. -/
theorem layout_of_fields (b : BytesN sensorLinkReadingMax) {unitLen : Nat}
    (hlen : (b.1.getD sensorLinkReadingValueSize 0).toNat = unitLen)
    (hunit : unitLen ≤ sensorLinkReadingUnitMax) :
    b.1.take (sensorLinkReadingValueSize + 1 + unitLen) =
      readingLayout (BitVec.ofNat 32 (Bytes.ofBE (b.1.slice 0 4)))
        (b.1.slice (sensorLinkReadingValueSize + 1) unitLen) := by
  have hfour : (b.1.slice 0 4).length = 4 := Bytes.length_slice _ _ _ (by rw [b.2]; decide)
  have hbody := length_unit b hunit
  have hvalue : (BitVec.ofNat 32 (Bytes.ofBE (b.1.slice 0 4))).toNat = Bytes.ofBE (b.1.slice 0 4) := by
    have hlt := Bytes.ofBE_lt (b.1.slice 0 4)
    rw [hfour] at hlt
    rw [BitVec.toNat_ofNat]
    exact Nat.mod_eq_of_lt hlt
  have hbyte : b.1.slice 4 1 = [b.1.getD 4 0] := by
    have hin : 4 < b.1.length := by rw [b.2]; decide
    rw [Bytes.slice, List.drop_eq_getElem_cons hin, List.getD_eq_getElem?_getD,
      List.getElem?_eq_getElem hin]
    rfl
  rw [readingLayout, hvalue, Bytes.toBE_ofBE_of_length hfour, hbody, ← hlen, UInt8.ofNat_toNat, hlen]
  calc b.1.take (4 + 1 + unitLen) = b.1.slice 0 (4 + 1 + unitLen) := rfl
    _ = b.1.slice 0 4 ++ (b.1.slice 4 1 ++ b.1.slice (4 + 1) unitLen) := by
      rw [Bytes.slice_append_slice, Nat.add_assoc, ← Bytes.slice_append_slice, Nat.zero_add]
    _ = b.1.slice 0 4 ++ (b.1.getD 4 0 :: b.1.slice (4 + 1) unitLen) := by
      rw [hbyte]
      rfl

/-- **The decoder inverts the layout**, and accepts nothing else. -/
theorem decodeReading_iff : decodeReading answer = some (value, unit) ↔
    unit.length ≤ sensorLinkReadingUnitMax ∧ answer.2 = (readingLayout value unit).length ∧
      answer.1.1.take answer.2 = readingLayout value unit := by
  rw [length_readingLayout]
  constructor
  · intro h
    unfold decodeReading at h
    split at h
    · cases h
    · dsimp only at h
      split at h
      · cases h
      · rename_i hshort hok
        rw [not_or, Nat.not_lt, not_not] at hok
        obtain ⟨rfl, rfl⟩ := Prod.mk.inj (Option.some.inj h)
        have hlayout := layout_of_fields answer.1 rfl hok.1
        rw [length_unit answer.1 hok.1, hok.2]
        exact ⟨hok.1, rfl, hlayout⟩
  · rintro ⟨hunit, hsize, hlayout⟩
    rw [hsize, ← length_readingLayout value unit] at hlayout
    obtain ⟨hvalue, hlen, hbody⟩ := layout_fields hlayout
    have hlen' : (answer.1.1.getD sensorLinkReadingValueSize 0).toNat = unit.length := by
      have hmax : unit.length ≤ 32 := hunit
      rw [hlen, UInt8.toNat_ofNat']
      omega
    unfold decodeReading
    rw [if_neg (by omega)]
    dsimp only
    rw [hlen', if_neg (by rw [not_or, Nat.not_lt, not_not]; exact ⟨hunit, hsize⟩), hvalue, hbody,
      Bytes.ofBE_toBE value.isLt, BitVec.ofNat_toNat]
    rfl

/-- What is refused: every size but the one that the fifth byte announces. -/
theorem decodeReading_none : decodeReading answer = none ↔
    ¬ (sensorLinkReadingValueSize + 1 ≤ answer.2 ∧
      (answer.1.1.getD sensorLinkReadingValueSize 0).toNat ≤ sensorLinkReadingUnitMax ∧
      answer.2 = sensorLinkReadingValueSize + 1 +
        (answer.1.1.getD sensorLinkReadingValueSize 0).toNat) := by
  unfold decodeReading
  by_cases hshort : answer.2 < sensorLinkReadingValueSize + 1
  · rw [if_pos hshort]
    simp only [true_iff]
    exact fun h => absurd hshort (Nat.not_lt.mpr h.1)
  · rw [if_neg hshort]
    dsimp only
    split
    · rename_i hother
      simp only [true_iff]
      rintro ⟨-, hle, heq⟩
      rcases hother with hlong | hne
      · exact absurd hle (Nat.not_le.mpr hlong)
      · exact hne heq
    · rename_i hok
      rw [not_or, Nat.not_lt, not_not] at hok
      simp only [reduceCtorEq, false_iff, not_not]
      exact ⟨Nat.le_of_not_lt hshort, hok.1, hok.2⟩

/-! ## The text -/

theorem length_decimal (value : BitVec 32) : (decimal value.toInt).length ≤ 11 := by
  have habs : value.toInt.natAbs < 10 ^ 10 := by
    have hlow := BitVec.le_toInt value
    have hhigh := BitVec.toInt_lt (x := value)
    omega
  have hdigits := (Nat.length_toDigits_le_iff (by decide) (by decide)).mpr habs
  unfold decimal Bytes.ascii
  rw [List.length_map, List.length_append]
  split <;> simp <;> omega

/-- The text of a reading is far shorter than the buffer it is printed to. -/
theorem length_formatReading (value : BitVec 32) (h : unit.length ≤ sensorLinkReadingUnitMax) :
    (formatReading value.toInt unit).length ≤ 77 := by
  have hdecimal := length_decimal value
  have hunit : (cString unit).length ≤ 32 := (List.takeWhile_prefix _).length_le.trans h
  unfold formatReading
  simp only [List.length_append, Bytes.ascii, List.length_map, List.length_cons, List.length_nil]
  omega

/-- `read_sensor_reading`: it decodes, and what it decodes it stores. The overflow of `snprintf`
does not occur. -/
theorem readSensorReading_decodes : readSensorReading = (do
    openSensorPta
    let answer ← tee (.invokeTACommand .read [] sensorLinkReadingMax)
    match decodeReading answer with
    | none => throw .badFormat
    | some (value, unit) =>
      modify (·.onSess fun sess => { sess with reading := formatReading value.toInt unit })) := by
  unfold readSensorReading
  congr 1
  funext _
  congr 1
  funext ⟨payload, size⟩
  dsimp only
  unfold decodeReading
  by_cases hshort : size < sensorLinkReadingValueSize + 1
  · simp only [if_pos hshort]
    rfl
  · simp only [if_neg hshort]
    by_cases hother : (payload.1.getD sensorLinkReadingValueSize 0).toNat > sensorLinkReadingUnitMax ∨
        size ≠ sensorLinkReadingValueSize + 1 + (payload.1.getD sensorLinkReadingValueSize 0).toNat
    · simp only [if_pos hother]
      rfl
    · simp only [if_neg hother]
      rw [not_or, Nat.not_lt] at hother
      have hfits := length_formatReading (BitVec.ofNat 32 (Bytes.ofBE (payload.1.slice 0 4)))
        ((length_unit payload hother.1).trans_le hother.1)
      rw [if_neg (Nat.not_le.mpr (hfits.trans_lt (by decide)))]

/-- The event of the PTA's answer. -/
abbrev ptaAnswered (answer : BytesN sensorLinkReadingMax × Nat) : Event Tee :=
  .ok (.invokeTACommand .read [] sensorLinkReadingMax) answer

/-- The session to the PTA may be opened first; nothing is read before. -/
theorem openSensorPta_spec {s : Frame} :
    wpP (fun _ _ => True) openSensorPta
      (fun tr s' _ => s'.sess.reading = s.sess.reading ∧ ∀ answer, ptaAnswered answer ∉ tr)
      (fun tr s' _ => s'.sess.reading = s.sess.reading ∧ ∀ answer, ptaAnswered answer ∉ tr) s [] := by
  unfold openSensorPta
  simp [Frame.onSess]

/-- What becomes of the PTA's answer. -/
structure ReadingTaken (s : Frame) (answer : BytesN sensorLinkReadingMax × Nat)
    (r : Except TeeError Unit) (s' : Frame) : Prop where
  decoded : ∀ value unit, decodeReading answer = some (value, unit) →
    r = .ok () ∧ s'.sess.reading = formatReading value.toInt unit
  refused : decodeReading answer = none →
    r = .error .badFormat ∧ s'.sess.reading = s.sess.reading

theorem readSensorReading_taken {s s' : Frame} {tr : List (Event Tee)} {r : Except TeeError Unit}
    (h : Runs (readSensorReading.go s) tr (r, s')) (hanswer : ptaAnswered answer ∈ tr) :
    ReadingTaken s answer r s' := by
  have hspec : wpP (fun _ _ => True) readSensorReading
      (fun tr s' _ => ∀ answer, ptaAnswered answer ∈ tr → ReadingTaken s answer (.ok ()) s')
      (fun tr s' e => ∀ answer, ptaAnswered answer ∈ tr → ReadingTaken s answer (.error e) s')
      s [] := by
    rw [readSensorReading_decodes, wpP_bind]
    refine wpP_conseq openSensorPta_spec ?_ ?_
    · rintro tr₁ s₁ _ ⟨hreading, hnone⟩
      have hlast : ∀ ev answer, ptaAnswered answer ∈ tr₁ ++ [ev] → ptaAnswered answer = ev := by
        intro ev answer hmem
        rcases List.mem_append.mp hmem with hmem | hmem
        · exact absurd hmem (hnone answer)
        · exact List.mem_singleton.mp hmem
      rw [wpP_bind, wpP_tee]
      refine ⟨trivial, ?_, ?_⟩
      · intro got
        cases hgot : decodeReading got with
        | none =>
          intro answer hmem
          cases hlast _ _ hmem
          refine ⟨fun value unit h => ?_, fun _ => ⟨rfl, hreading⟩⟩
          cases hgot.symm.trans h
        | some reading =>
          intro answer hmem
          cases hlast _ _ hmem
          refine ⟨fun value unit h => ?_, fun h => ?_⟩
          · cases hgot.symm.trans h
            exact ⟨rfl, rfl⟩
          · cases hgot.symm.trans h
      · intro e answer hmem
        cases hlast _ _ hmem
    · rintro tr₁ s₁ e ⟨-, hnone⟩ answer hmem
      exact absurd hmem (hnone answer)
  have htaken := wp_runs h hspec
  cases r with
  | ok u => exact htaken answer hanswer
  | error e => exact htaken answer hanswer

end

end ConfidentialIoT
