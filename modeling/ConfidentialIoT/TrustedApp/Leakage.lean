import Mathlib.Data.Fintype.Pi
import ConfidentialIoT.Lib.Twin
import ConfidentialIoT.TrustedApp.Pinning

/-!
# `TrustedApp/Leakage.lean` — what the Host learns of a reading

Two runs of the TA whose environments differ in nothing but the values and units of the sensor's
readings, and these only so far that the formatted texts have the same length. Step by step the
sessions make the same calls, except that what is encrypted and what is written of it differ, so
the Host sees the same of every command up to the bytes of READ_AND_PROTECT's ciphertext and tag.

Five of the six commands do not look at the session's reading at all (`Blind`).
-/

set_option autoImplicit false

namespace ConfidentialIoT

open Effects

/-! ## The commands that do not look -/

/-- Another reading in the session. -/
def Frame.withReading (reading : Bytes) (s : Frame) : Frame :=
  s.onSess fun sess => { sess with reading := reading }

section

variable {reading : Bytes}

theorem tee_blind (r : TeeReq) : Blind (Frame.withReading reading) (tee r) := fun _ => rfl

theorem teeAct_blind (a : TeeAct) : Blind (Frame.withReading reading) (teeAct a) := fun _ => rfl

theorem hostRead_blind (i : Fin 4) (off len : Nat) :
    Blind (Frame.withReading reading) (hostRead i off len) := fun _ => rfl

theorem hostWrite_blind (i : Fin 4) (off : Nat) (data : Bytes) :
    Blind (Frame.withReading reading) (hostWrite i off data) := fun _ => rfl

theorem openObject_blind (id : ObjectId) : Blind (Frame.withReading reading) (openObject id) :=
  .errorAs _ _ (.seq (tee_blind _) fun _ => .ret _)

theorem createObject_blind (id : ObjectId) (data : Bytes) :
    Blind (Frame.withReading reading) (createObject id data) :=
  .errorAs _ _ (.seq (tee_blind _) fun _ => .ret _)

theorem readEcCoordinate_blind (obj : EcKeyPair) (attr : EcAttr) :
    Blind (Frame.withReading reading) (readEcCoordinate obj attr) :=
  .seq (tee_blind _) fun _ => .ite (.raise _) (.ret _)

theorem readPublicPoint_blind (obj : EcKeyPair) :
    Blind (Frame.withReading reading) (readPublicPoint obj) :=
  .seq (readEcCoordinate_blind _ _) fun _ => .seq (readEcCoordinate_blind _ _) fun _ => .ret _

theorem openSensorPta_blind : Blind (Frame.withReading reading) openSensorPta := by
  refine .read (fun _ => rfl) fun s => .ite ?_ (.ret _)
  exact .seq (tee_blind _) fun _ => .update fun _ => rfl

theorem taAuthenticateSensor_blind : Blind (Frame.withReading reading) taAuthenticateSensor := by
  have hsecret : Blind (Frame.withReading reading) readSensorSecret := by
    refine .seq ((tee_blind _).failWith _) fun _ => ?_
    exact .seq ((tee_blind _).failWith _) fun _ => .ite (.raise _) (.ret _)
  refine .seq (.update fun _ => rfl) fun _ => .seq hsecret fun secret => ?_
  refine .seq openSensorPta_blind fun _ => .seq (teeAct_blind _) fun challenge => ?_
  refine .seq (tee_blind _) fun response => .seq (tee_blind _) fun _ => ?_
  refine .seq (tee_blind _) fun _ => .seq (tee_blind _) fun _ => .seq (tee_blind _) fun _ => ?_
  exact .seq (tee_blind _) fun _ => .update fun _ => rfl

theorem taProvisionSensorSecret_blind (paramTypes : UInt32) :
    Blind (Frame.withReading reading) (taProvisionSensorSecret paramTypes) := by
  refine .ite (.raise _) (.seq (openObject_blind _) fun found => .ite (.ret _) ?_)
  refine .seq openSensorPta_blind fun _ => .seq (tee_blind _) fun secret => .ite (.raise _) ?_
  exact .seq (createObject_blind _ _) fun _ => .ret _

theorem readTaIdentityBlob_blind : Blind (Frame.withReading reading) readTaIdentityBlob :=
  .seq (tee_blind _) fun _ => .seq (tee_blind _) fun _ => .ite (.raise _) (.ret _)

theorem sealedTaIdentity_blind : Blind (Frame.withReading reading) sealedTaIdentity :=
  .errorAs _ _ (.seq readTaIdentityBlob_blind fun _ => .ret _)

theorem signTaIdentity_blind (nonce serverEcdhPub devicePub : Bytes) :
    Blind (Frame.withReading reading) (signTaIdentity nonce serverEcdhPub devicePub) := by
  refine .seq sealedTaIdentity_blind fun found => ?_
  cases found with
  | none => exact .raise _
  | some blob =>
    refine .ite (.raise _) (.seq (tee_blind _) fun _ => .seq (tee_blind _) fun digest => ?_)
    refine .seq (tee_blind _) fun _ => .seq (tee_blind _) fun _ => .seq (tee_blind _) fun _ => ?_
    refine .seq (tee_blind _) fun _ => .seq (tee_blind _) fun sig => ?_
    exact .seq (hostWrite_blind _ _ _) fun _ => .ite (.raise _) (.ret _)

theorem exportTaIdentity_blind (blob : Bytes) :
    Blind (Frame.withReading reading) (exportTaIdentity blob) :=
  .seq (hostWrite_blind _ _ _) fun _ => .update fun _ => rfl

theorem mintTaIdentity_blind (deviceId : Bytes) :
    Blind (Frame.withReading reading) (mintTaIdentity deviceId) := by
  refine .seq (tee_blind _) fun _ => .seq (tee_blind _) fun keypair => ?_
  refine .seq (readEcCoordinate_blind _ _) fun d => .seq (readEcCoordinate_blind _ _) fun x => ?_
  refine .seq (readEcCoordinate_blind _ _) fun y => .seq (createObject_blind _ _) fun created => ?_
  refine .ite (.ret _) (.seq readTaIdentityBlob_blind fun blob => ?_)
  exact .ite (.raise _) (.ret _)

theorem taGenerateTaIdentity_blind (paramTypes : UInt32) :
    Blind (Frame.withReading reading) (taGenerateTaIdentity paramTypes) := by
  refine .read (fun _ => rfl) fun s => .ite (.raise _) (.ite (.raise _) (.ite (.raise _) ?_))
  refine .seq (hostRead_blind _ _ _) fun deviceId => .seq sealedTaIdentity_blind fun found => ?_
  cases found with
  | none => exact .seq (mintTaIdentity_blind _) fun blob => exportTaIdentity_blind _
  | some blob => exact .ite (.raise _) (exportTaIdentity_blind _)

theorem evidenceFor_blind (keypair : EcKeyPair) (nonce serverPub : Bytes) :
    Blind (Frame.withReading reading) (evidenceFor keypair nonce serverPub) := by
  refine .seq (readPublicPoint_blind _) fun devicePub => .seq (hostWrite_blind _ _ _) fun _ => ?_
  refine .seq (.update fun _ => rfl) fun _ => .seq (tee_blind _) fun _ => ?_
  refine .seq (tee_blind _) fun hash => .seq (hostWrite_blind _ _ _) fun _ => .ite (.raise _) ?_
  exact .seq (signTaIdentity_blind _ _ _) fun _ => .update fun _ => rfl

theorem taGenerateAttestationEvidence_blind (paramTypes : UInt32) :
    Blind (Frame.withReading reading) (taGenerateAttestationEvidence paramTypes) := by
  refine .read (fun _ => rfl) fun s => .seq (.ofOutcome _) fun _ => ?_
  refine .seq (hostRead_blind _ _ _) fun nonce => .seq (hostRead_blind _ _ _) fun serverPub => ?_
  refine .seq (.update fun _ => rfl) fun _ => .seq (tee_blind _) fun _ => ?_
  refine .onError (fun _ => rfl) (.seq (tee_blind _) fun keypair => ?_)
  exact .seq (.update fun _ => rfl) fun _ => evidenceFor_blind _ _ _

theorem pinnedServerKey_blind : Blind (Frame.withReading reading) pinnedServerKey := by
  refine .seq (openObject_blind _) fun found => .ite ?_ (.ret _)
  refine .seq (tee_blind _) fun pinned => .ite (.raise _) ?_
  exact .seq (hostRead_blind _ _ _) fun presented => .ite (.raise _) (.ret _)

theorem verifyServerSignature_blind (pinned : Option Bytes) (sigLen : Nat) (digest : Bytes) :
    Blind (Frame.withReading reading) (verifyServerSignature pinned sigLen digest) := by
  have hcoords : Blind (Frame.withReading reading) (verifyKeyCoords pinned) := by
    cases pinned with
    | none => exact .seq (hostRead_blind _ _ _) fun _ => .seq (hostRead_blind _ _ _) fun _ => .ret _
    | some key => exact .ret _
  refine .seq (tee_blind _) fun _ => .seq hcoords fun coords => .seq (tee_blind _) fun _ => ?_
  refine .seq (tee_blind _) fun _ => .seq (tee_blind _) fun _ => ?_
  exact .seq (hostRead_blind _ _ _) fun sig => (tee_blind _).failWith _

theorem authenticateServer_blind (nonceLen sigLen : Nat) (devicePub : Bytes) :
    Blind (Frame.withReading reading) (authenticateServer nonceLen sigLen devicePub) := by
  have hdigest : Blind (Frame.withReading reading) (serverIdentityDigest nonceLen devicePub) := by
    refine .seq (tee_blind _) fun _ => .seq (hostRead_blind _ _ _) fun _ => ?_
    exact .seq (hostRead_blind _ _ _) fun _ => tee_blind _
  have hpin : Blind (Frame.withReading reading) pinServerKey :=
    .seq (hostRead_blind _ _ _) fun _ => .seq (createObject_blind _ _) fun _ => .ret _
  refine .ite (.raise _) (.seq (hostRead_blind _ _ _) fun tag => .ite (.raise _) ?_)
  refine .seq hdigest fun digest => .seq pinnedServerKey_blind fun pinned => ?_
  exact .seq (verifyServerSignature_blind _ _ _) fun _ => .ite hpin (.ret _)

theorem deriveSessionKey_blind (keypair : EcKeyPair) (nonceLen : Nat) :
    Blind (Frame.withReading reading) (deriveSessionKey keypair nonceLen) := by
  refine .seq (tee_blind _) fun _ => .seq (tee_blind _) fun _ => .seq (tee_blind _) fun _ => ?_
  refine .seq (hostRead_blind _ _ _) fun x => .seq (hostRead_blind _ _ _) fun y => ?_
  refine .seq (teeAct_blind _) fun shared => .seq (tee_blind _) fun sharedBytes => ?_
  refine .seq (tee_blind _) fun _ => .seq (tee_blind _) fun _ => .seq (tee_blind _) fun _ => ?_
  refine .seq (tee_blind _) fun _ => .seq (tee_blind _) fun _ => .seq (hostRead_blind _ _ _) fun salt => ?_
  exact .seq (teeAct_blind _) fun okm => tee_blind _

theorem taHandshakeComplete_blind (paramTypes : UInt32) :
    Blind (Frame.withReading reading) (taHandshakeComplete paramTypes) := by
  refine .read (fun _ => rfl) fun s => .seq (.ofOutcome _) fun keypair => ?_
  refine .seq (hostRead_blind _ _ _) fun tag => .ite (.raise _) (.cleanup (fun _ => rfl) ?_)
  refine .seq (readPublicPoint_blind _) fun devicePub => .seq (authenticateServer_blind _ _ _) fun _ => ?_
  exact .seq (deriveSessionKey_blind _ _) fun key => .update fun _ => rfl

/-- READ_AND_PROTECT is the one command that looks at the reading. -/
theorem taInvokeCommand_blind {cmdId : UInt32} (paramTypes : UInt32)
    (hc : Command.ofId cmdId ≠ some .readAndProtect) :
    Blind (Frame.withReading reading) (taInvokeCommand cmdId paramTypes) := by
  unfold taInvokeCommand
  cases hcmd : Command.ofId cmdId with
  | none => exact .raise _
  | some cmd =>
    cases cmd with
    | readAndProtect => exact absurd hcmd hc
    | authenticateSensor => exact taAuthenticateSensor_blind
    | generateAttestationEvidence => exact taGenerateAttestationEvidence_blind _
    | handshakeComplete => exact taHandshakeComplete_blind _
    | provisionSensorSecret => exact taProvisionSensorSecret_blind _
    | generateTaIdentity => exact taGenerateTaIdentity_blind _

end

/-! ## What may differ -/

/-- What `read_sensor_reading` makes of the PTA's answer, when it accepts it. -/
def acceptedReading (answer : BytesN sensorLinkReadingMax × Nat) : Option Bytes :=
  let unitLen := (answer.1.1.getD sensorLinkReadingValueSize 0).toNat
  let text := formatReading (BitVec.ofNat 32 (Bytes.ofBE (answer.1.1.slice 0 4))).toInt
    (answer.1.1.slice (sensorLinkReadingValueSize + 1) unitLen)
  if sensorLinkReadingValueSize + 1 ≤ answer.2 ∧ unitLen ≤ sensorLinkReadingUnitMax ∧
      answer.2 = sensorLinkReadingValueSize + 1 + unitLen ∧ text.length < readingMax
  then some text else none

/-- Two calls the TA makes in the same place of READ_AND_PROTECT. -/
inductive AlikeCall : Call Tee → Call Tee → Prop where
  | same (c : Call Tee) : AlikeCall c c
  | encrypting (key nonce aad : Bytes) {plain plain' : Bytes} (size : Nat)
      (h : plain.length = plain'.length) :
      AlikeCall (.req (.aeEncryptFinal key nonce aad plain size))
        (.req (.aeEncryptFinal key nonce aad plain' size))
  | writing (off : Nat) {data data' : Bytes} (h : data.length = data'.length) :
      AlikeCall (.act (.hostWrite 1 off data)) (.act (.hostWrite 1 off data'))

/-- Two of their answers: the same, two accepted readings whose texts are of one length, or what
AES-GCM makes of two plaintexts of one length. -/
inductive AlikeEvent : Event Tee → Event Tee → Prop where
  | same (ev : Event Tee) : AlikeEvent ev ev
  | reading {answer answer' : BytesN sensorLinkReadingMax × Nat} {text text' : Bytes}
      (h : acceptedReading answer = some text) (h' : acceptedReading answer' = some text')
      (hlen : text.length = text'.length) :
      AlikeEvent (.ok (.invokeTACommand .read [] sensorLinkReadingMax) answer)
        (.ok (.invokeTACommand .read [] sensorLinkReadingMax) answer')
  | encrypted (key nonce aad plain plain' : Bytes) (size : Nat) {out out' : Bytes × Bytes}
      (hct : out.1.length = out'.1.length) (htag : out.2.length = out'.2.length) :
      AlikeEvent (.ok (.aeEncryptFinal key nonce aad plain size) out)
        (.ok (.aeEncryptFinal key nonce aad plain' size) out')
  | unencrypted (key nonce aad plain plain' : Bytes) (size : Nat) (e : TeeError) :
      AlikeEvent (.refused (.aeEncryptFinal key nonce aad plain size) e)
        (.refused (.aeEncryptFinal key nonce aad plain' size) e)
  | written (off : Nat) (data data' : Bytes) :
      AlikeEvent (.did (.hostWrite 1 off data) ()) (.did (.hostWrite 1 off data') ())

/-- The calls of a command that correspond. -/
def AlikeIn (inv : Invocation) (c c' : Call Tee) : Prop :=
  c' = c ∨ (Command.ofId inv.cmdId = some .readAndProtect ∧ AlikeCall c c')

/-- A call whose answer may not differ. -/
def steady : Call Tee → Bool
  | .req (.invokeTACommand .read _ _) => false
  | .req (.aeEncryptFinal _ _ _ _ _) => false
  | _ => true

@[simp] theorem steady_req (r : TeeReq) : steady (.req r) = match r with
    | .invokeTACommand .read _ _ => false
    | .aeEncryptFinal _ _ _ _ _ => false
    | _ => true := by
  cases r with
  | invokeTACommand cmd input size => cases cmd <;> rfl
  | _ => rfl

@[simp] theorem steady_act (a : TeeAct) : steady (.act a) = true := rfl

theorem AlikeEvent.eq_of_steady {ev ev' : Event Tee} (h : AlikeEvent ev ev')
    (hcall : ev'.call = ev.call) (hsteady : steady ev.call = true) : ev' = ev := by
  cases h with
  | same => rfl
  | reading _ _ _ => cases hsteady
  | encrypted _ _ _ _ _ _ _ _ => cases hsteady
  | unencrypted _ _ _ _ _ _ _ => cases hsteady
  | written off data data' =>
    cases hcall
    rfl

theorem definite_of_steady {inv : Invocation} {c : Call Tee} (h : steady c = true) :
    Definite (AlikeIn inv) AlikeEvent c := by
  refine ⟨Or.inl rfl, ?_⟩
  intro r r' he
  refine Event.of_inj (he.eq_of_steady ?_ ?_)
  · rw [Event.call_of, Event.call_of]
  · rw [Event.call_of]
    exact h

/-- The other commands' calls are steady. -/
theorem taInvokeCommand_steady {cmdId : UInt32} (paramTypes : UInt32)
    (hc : Command.ofId cmdId ≠ some .readAndProtect) (s : Frame) :
    wpP (fun _ c => steady c = true) (taInvokeCommand cmdId paramTypes) (fun _ _ _ => True)
      (fun _ _ _ => True) s [] := by
  unfold taInvokeCommand
  cases hcmd : Command.ofId cmdId with
  | none => trivial
  | some cmd =>
    cases cmd with
    | readAndProtect => exact absurd hcmd hc
    | authenticateSensor => simp [taAuthenticateSensor, readSensorSecret, openSensorPta]
    | generateAttestationEvidence =>
      simp [taGenerateAttestationEvidence, evidenceOverFreshKey, evidenceFor, readPublicPoint,
        readEcCoordinate, signTaIdentity, sealedTaIdentity, readTaIdentityBlob]
    | handshakeComplete =>
      simp [taHandshakeComplete, handshakeOverKey, readPublicPoint, readEcCoordinate,
        authenticateServer, serverIdentityDigest, checkServerKey, pinnedServerKey,
        verifyServerSignature, verifyKeyCoords, pinServerKey, deriveSessionKey]
    | provisionSensorSecret => simp [taProvisionSensorSecret, fetchSensorSecret, openSensorPta]
    | generateTaIdentity =>
      simp [taGenerateTaIdentity, sealedTaIdentity, readTaIdentityBlob, exportTaIdentity,
        mintTaIdentity, readEcCoordinate]

/-! ## READ_AND_PROTECT -/

/-- Two sessions with the same of everything but the reading. -/
def OtherReading (s t : Frame) : Prop := ∃ reading, t = s.withReading reading

/-- And readings of one length. -/
def LikeReading (s t : Frame) : Prop :=
  ∃ reading, t = s.withReading reading ∧ reading.length = s.sess.reading.length

/-- An error, and the same error. -/
def SameError (s : Frame) (e : TeeError) (t : Frame) (e' : TeeError) : Prop :=
  e' = e ∧ OtherReading s t

/-- What `read_sensor_reading` does with the PTA's answer. -/
def storeReading (answer : BytesN sensorLinkReadingMax × Nat) : TA Unit := do
  if answer.2 < sensorLinkReadingValueSize + 1 then
    throw .badFormat
  let value := (BitVec.ofNat 32 (Bytes.ofBE (answer.1.1.slice 0 4))).toInt
  let unitLen := (answer.1.1.getD sensorLinkReadingValueSize 0).toNat
  if unitLen > sensorLinkReadingUnitMax ∨ answer.2 ≠ sensorLinkReadingValueSize + 1 + unitLen then
    throw .badFormat
  let unit := answer.1.1.slice (sensorLinkReadingValueSize + 1) unitLen
  let reading := formatReading value unit
  if reading.length ≥ readingMax then
    modify (·.onSess fun sess => { sess with reading := [] })
    throw .overflow
  modify (·.onSess fun sess => { sess with reading := reading })

theorem readSensorReading_eq : readSensorReading = (do
    openSensorPta
    let answer ← tee (.invokeTACommand .read [] sensorLinkReadingMax)
    storeReading answer) := rfl

/-- An accepted reading is stored; anything else is an error, which depends on the answer alone. -/
theorem storeReading_cases (answer : BytesN sensorLinkReadingMax × Nat) :
    (∃ text, acceptedReading answer = some text ∧
      ∀ s, (storeReading answer).go s = .ret (.ok (), s.withReading text)) ∨
    acceptedReading answer = none ∧ ∃ e, ∀ s reading, ∃ s' t', OtherReading s' t' ∧
      (storeReading answer).go s = .ret (.error e, s') ∧
      (storeReading answer).go (s.withReading reading) = .ret (.error e, t') := by
  by_cases hshort : answer.2 < sensorLinkReadingValueSize + 1
  · refine Or.inr ⟨if_neg fun h => absurd hshort (Nat.not_lt.mpr h.1), .badFormat, ?_⟩
    intro s reading
    refine ⟨s, s.withReading reading, ⟨reading, rfl⟩, ?_, ?_⟩
    · unfold storeReading
      rw [if_pos hshort]
      rfl
    · unfold storeReading
      rw [if_pos hshort]
      rfl
  by_cases hunit : (answer.1.1.getD sensorLinkReadingValueSize 0).toNat > sensorLinkReadingUnitMax ∨
      answer.2 ≠ sensorLinkReadingValueSize + 1 + (answer.1.1.getD sensorLinkReadingValueSize 0).toNat
  · refine Or.inr ⟨if_neg ?_, .badFormat, ?_⟩
    · rintro ⟨-, hle, heq, -⟩
      rcases hunit with hlong | hne
      · exact absurd hlong (Nat.not_lt.mpr hle)
      · exact hne heq
    · intro s reading
      refine ⟨s, s.withReading reading, ⟨reading, rfl⟩, ?_, ?_⟩
      · unfold storeReading
        simp only [if_neg hshort, if_pos hunit]
        rfl
      · unfold storeReading
        simp only [if_neg hshort, if_pos hunit]
        rfl
  have hunitLen : (answer.1.1.getD sensorLinkReadingValueSize 0).toNat ≤ sensorLinkReadingUnitMax ∧
      answer.2 = sensorLinkReadingValueSize + 1 +
        (answer.1.1.getD sensorLinkReadingValueSize 0).toNat := by
    obtain ⟨hle, heq⟩ := not_or.mp hunit
    exact ⟨Nat.not_lt.mp hle, not_not.mp heq⟩
  by_cases hlong : readingMax ≤ (formatReading (BitVec.ofNat 32 (Bytes.ofBE (answer.1.1.slice 0 4))).toInt
      (answer.1.1.slice (sensorLinkReadingValueSize + 1)
        (answer.1.1.getD sensorLinkReadingValueSize 0).toNat)).length
  · refine Or.inr ⟨if_neg fun h => absurd hlong (Nat.not_le.mpr h.2.2.2), .overflow, ?_⟩
    intro s reading
    refine ⟨s.withReading [], s.withReading [], ⟨[], rfl⟩, ?_, ?_⟩
    · unfold storeReading
      simp only [if_neg hshort, if_neg hunit, if_pos (show _ ≥ readingMax from hlong)]
      rfl
    · unfold storeReading
      simp only [if_neg hshort, if_neg hunit, if_pos (show _ ≥ readingMax from hlong)]
      rfl
  · refine Or.inl ⟨_, if_pos ⟨Nat.not_lt.mp hshort, hunitLen.1, hunitLen.2, Nat.not_le.mp hlong⟩, ?_⟩
    intro s
    unfold storeReading
    simp only [if_neg hshort, if_neg hunit, if_neg (show ¬ _ ≥ readingMax from hlong)]
    rfl

/-- What `sealReading` does with the key and the reading of its session. -/
def sealText (key text : Bytes) (outSize : Nat) (seq : UInt64) : TA Unit := do
  tee (.allocateTransientObject .aes 256)
  tee (.populateTransientObject .aes [key])
  tee (.allocateOperation .aesGcmEncrypt 256)
  tee (.setOperationKey .aesGcmEncrypt)
  let drawn ← teeAct (.generateRandom 12)
  hostWrite 0 0 drawn.1
  modify (·.setSize 0 12)
  let nonce ← hostRead 0 0 12
  tee (.aeInit key nonce.1 128 seqAadSize text.length)
  let (ct, tag) ← tee (.aeEncryptFinal key nonce.1 (seqAad seq) text outSize)
  hostWrite 1 0 ct
  hostWrite 1 ct.length tag
  modify (·.setSize 1 (ct.length + tag.length))
  modify (·.onSess fun sess => { sess with sendSeq := seq })
  modify (·.setValue 2 seq.toUInt32 0)

theorem sealReading_eq (outSize : Nat) (seq : UInt64) : sealReading outSize seq = (do
    let frame ← get
    sealText frame.sess.sessionKey frame.sess.reading outSize seq) := rfl

section

variable {inv : Invocation} {α β : Type} {Q : Frame → α → Frame → β → Prop} {s : Frame}
  {reading : Bytes}

/-- Two results of AES-GCM. -/
theorem AlikeEvent.sealed {key nonce aad plain plain' : Bytes} {size : Nat} {out out' : Bytes × Bytes}
    (h : AlikeEvent (.ok (.aeEncryptFinal key nonce aad plain size) out)
      (.ok (.aeEncryptFinal key nonce aad plain' size) out')) :
    out.1.length = out'.1.length ∧ out.2.length = out'.2.length := by
  cases h with
  | same => exact ⟨rfl, rfl⟩
  | encrypted _ _ _ _ _ _ hct htag => exact ⟨hct, htag⟩

/-- The two error exits of one call that both sessions make. -/
theorem sameError (s : Frame) (e : TeeError) : SameError s e (s.withReading reading) e :=
  ⟨rfl, reading, rfl⟩

/-- The end of a seal: what was encrypted goes to the Host. -/
theorem sealed_twin (hc : Command.ofId inv.cmdId = some .readAndProtect) {key nonce aad plain plain' : Bytes}
    {outSize : Nat} (hlen : plain.length = plain'.length) {f f' : Bytes × Bytes → TA Unit}
    (ok : ∀ out out' : Bytes × Bytes, out.1.length = out'.1.length → out.2.length = out'.2.length →
      TwinP (AlikeIn inv) AlikeEvent (fun s' _ t' _ => OtherReading s' t') SameError (f out) (f' out') s
        (s.withReading reading)) :
    TwinP (AlikeIn inv) AlikeEvent (fun s' _ t' _ => OtherReading s' t') SameError
      (tee (.aeEncryptFinal key nonce aad plain outSize) >>= f)
      (tee (.aeEncryptFinal key nonce aad plain' outSize) >>= f') s (s.withReading reading) := by
  refine TwinP.seq ⟨Or.inr ⟨hc, .encrypting key nonce aad outSize hlen⟩, ?_⟩
  intro r r' he
  cases r with
  | ok out =>
    cases r' with
    | ok out' => exact ok out out' (AlikeEvent.sealed he).1 (AlikeEvent.sealed he).2
    | error e => cases he
  | error e =>
    cases r' with
    | ok out' => cases he
    | error e' =>
      refine ⟨?_, reading, rfl⟩
      cases he with
      | same => rfl
      | unencrypted _ _ _ _ _ _ _ => rfl

theorem hostWrite_twin (hc : Command.ofId inv.cmdId = some .readAndProtect) (off : Nat) {data data' : Bytes}
    (hlen : data.length = data'.length) {f f' : Unit → TA Unit}
    (ok : TwinP (AlikeIn inv) AlikeEvent (fun s' _ t' _ => OtherReading s' t') SameError (f ()) (f' ()) s
      (s.withReading reading)) :
    TwinP (AlikeIn inv) AlikeEvent (fun s' _ t' _ => OtherReading s' t') SameError
      (hostWrite 1 off data >>= f) (hostWrite 1 off data' >>= f') s (s.withReading reading) :=
  TwinP.seq ⟨Or.inr ⟨hc, .writing off hlen⟩, fun _ _ _ => ok⟩

theorem sealText_twin (hc : Command.ofId inv.cmdId = some .readAndProtect) (key : Bytes)
    {text text' : Bytes} (hlen : text.length = text'.length) (outSize : Nat) (seq : UInt64) :
    TwinP (AlikeIn inv) AlikeEvent (fun s' _ t' _ => OtherReading s' t') SameError
      (sealText key text outSize seq) (sealText key text' outSize seq) s (s.withReading reading) := by
  unfold sealText
  rw [← hlen]
  refine (tee_blind _).twin ⟨definite_of_steady rfl, fun _ => trivial⟩ (fun _ _ => ?_) sameError
  refine (tee_blind _).twin ⟨definite_of_steady rfl, fun _ => trivial⟩ (fun _ _ => ?_) sameError
  refine (tee_blind _).twin ⟨definite_of_steady rfl, fun _ => trivial⟩ (fun _ _ => ?_) sameError
  refine (tee_blind _).twin ⟨definite_of_steady rfl, fun _ => trivial⟩ (fun _ _ => ?_) sameError
  refine (teeAct_blind _).twin ⟨definite_of_steady rfl, fun _ => trivial⟩ (fun _ drawn => ?_) sameError
  refine (hostWrite_blind _ _ _).twin ⟨definite_of_steady rfl, fun _ => trivial⟩ (fun _ _ => ?_) sameError
  refine Blind.twin (.update fun _ => rfl) trivial (fun _ _ => ?_) sameError
  refine (hostRead_blind _ _ _).twin ⟨definite_of_steady rfl, fun _ => trivial⟩ (fun _ nonce => ?_) sameError
  refine (tee_blind _).twin ⟨definite_of_steady rfl, fun _ => trivial⟩ (fun _ _ => ?_) sameError
  refine sealed_twin hc hlen ?_
  rintro ⟨ct, tag⟩ ⟨ct', tag'⟩ hct htag
  refine hostWrite_twin hc 0 hct ?_
  have hct : ct.length = ct'.length := hct
  have htag : tag.length = tag'.length := htag
  rw [← hct, ← htag]
  refine hostWrite_twin hc ct.length htag ?_
  exact ⟨reading, rfl⟩

/-- `read_sensor_reading` in two sessions: the same error, or readings of one length. -/
theorem readSensorReading_twin :
    TwinP (AlikeIn inv) AlikeEvent (fun s' _ t' _ => LikeReading s' t') SameError
      readSensorReading readSensorReading s (s.withReading reading) := by
  rw [readSensorReading_eq]
  have hopen : wpP (fun _ c => Definite (AlikeIn inv) AlikeEvent c) openSensorPta
      (fun _ _ _ => True) (fun _ _ _ => True) s [] := by
    refine wpP_weaken (A := fun _ c => steady c = true) (by simp [openSensorPta]) ?_
    exact fun _ _ => definite_of_steady
  refine openSensorPta_blind.twin (wp_conseq hopen fun _ _ _ => trivial) (fun s' _ => ?_) sameError
  refine TwinP.seq ⟨Or.inl rfl, ?_⟩
  intro r r' he
  cases r with
  | error e =>
    cases r' with
    | ok answer' => cases he
    | error e' =>
      refine ⟨?_, reading, rfl⟩
      cases he
      rfl
  | ok answer =>
    cases r' with
    | error e => cases he
    | ok answer' =>
      show Twin _ _ _ ((storeReading answer).go s') ((storeReading answer').go (s'.withReading reading))
      rcases storeReading_cases answer with ⟨text, hacc, hgo⟩ | ⟨hacc, e, hgo⟩
      · obtain ⟨text', hacc', hlen⟩ : ∃ text', acceptedReading answer' = some text' ∧
            text'.length = text.length := by
          cases he with
          | same => exact ⟨text, hacc, rfl⟩
          | reading h h' hlen =>
            obtain rfl := Option.some.inj (hacc.symm.trans h)
            exact ⟨_, h', hlen.symm⟩
        rcases storeReading_cases answer' with ⟨text₁, hacc₁, hgo'⟩ | ⟨hnone, -⟩
        · obtain rfl := Option.some.inj (hacc'.symm.trans hacc₁)
          rw [hgo, hgo']
          exact ⟨text', rfl, hlen⟩
        · cases hacc'.symm.trans hnone
      · have hsame : answer' = answer := by
          cases he with
          | same => rfl
          | reading h _ _ => cases hacc.symm.trans h
        subst hsame
        obtain ⟨s₁, t₁, hother, hs, ht⟩ := hgo s' reading
        rw [hs, ht]
        exact ⟨rfl, hother⟩

theorem taReadAndProtect_twin (hc : Command.ofId inv.cmdId = some .readAndProtect)
    (paramTypes : UInt32) :
    TwinP (AlikeIn inv) AlikeEvent (fun s' _ t' _ => OtherReading s' t') SameError
      (taReadAndProtect paramTypes) (taReadAndProtect paramTypes) s (s.withReading reading) := by
  have hgates : Blind (Frame.withReading reading) readAndProtectGates := by
    refine .read (fun _ => rfl) fun _ => .ite (.raise _) (.read (fun _ => rfl) fun _ => ?_)
    exact .ite (.raise _) (.ret _)
  have hpure : ∀ s, wpP (fun _ c => Definite (AlikeIn inv) AlikeEvent c) readAndProtectGates
      (fun _ _ _ => True) (fun _ _ _ => True) s [] := by
    intro s
    simp [readAndProtectGates]
  refine TwinP.read ?_
  by_cases htypes : paramTypes ≠ readAndProtectTypes
  · simp only [if_pos htypes]
    exact sameError s _
  simp only [if_neg htypes]
  refine hgates.twin (wp_conseq (hpure s) fun _ _ _ => trivial) (fun s' _ => ?_) sameError
  show TwinP _ _ _ _ (readAndProtectOpen s.params) (readAndProtectOpen s.params) s' _
  unfold readAndProtectOpen
  by_cases hnonce : (s.params 0).size < 12
  · simp only [if_pos hnonce]
    exact sameError s' _
  simp only [if_neg hnonce]
  refine TwinP.seq (readSensorReading_twin.mono ?_)
  rintro s₁ _ _ _ ⟨text, rfl, hlen⟩
  refine TwinP.read ?_
  have hlen' : (s₁.withReading text).sess.reading.length = s₁.sess.reading.length := hlen
  by_cases hroom : (s.params 1).size < s₁.sess.reading.length + 16
  · simp only [hlen', if_pos hroom]
    exact sameError s₁ _
  simp only [hlen', if_neg hroom]
  by_cases hseq : s₁.sess.sendSeq ≥ 0xffffffff
  · simp only [if_pos hseq, if_pos (show (s₁.withReading text).sess.sendSeq ≥ 0xffffffff from hseq)]
    exact sameError s₁ _
  simp only [if_neg hseq, if_neg (show ¬ (s₁.withReading text).sess.sendSeq ≥ 0xffffffff from hseq)]
  show TwinP _ _ _ _ (sealReading _ (s₁.sess.sendSeq + 1)) (sealReading _ (s₁.sess.sendSeq + 1)) _ _
  rw [sealReading_eq]
  refine TwinP.read ?_
  exact sealText_twin hc _ hlen.symm _ _

end

/-! ## Two runs -/

/-- The same result, and the same of everything but the reading. -/
def OutAlike (out out' : Except TeeError Unit × Frame) : Prop :=
  out'.1 = out.1 ∧ OtherReading out.2 out'.2

theorem invocation_twin (inv : Invocation) (sess : Session) (reading : Bytes) :
    Twin (AlikeIn inv) AlikeEvent OutAlike (inv.program sess)
      (inv.program { sess with reading := reading }) := by
  show Twin _ _ _ ((taInvokeCommand inv.cmdId inv.paramTypes).go ⟨sess, inv.params⟩)
    ((taInvokeCommand inv.cmdId inv.paramTypes).go (Frame.withReading reading ⟨sess, inv.params⟩))
  by_cases hc : Command.ofId inv.cmdId = some .readAndProtect
  · have htwin : TwinP (AlikeIn inv) AlikeEvent (fun s' _ t' _ => OtherReading s' t') SameError
        (taInvokeCommand inv.cmdId inv.paramTypes) (taInvokeCommand inv.cmdId inv.paramTypes)
        ⟨sess, inv.params⟩ (Frame.withReading reading ⟨sess, inv.params⟩) := by
      unfold taInvokeCommand
      rw [hc]
      exact taReadAndProtect_twin hc inv.paramTypes
    refine Twin.mono htwin (fun _ _ h => h) ?_
    rintro ⟨r, s⟩ ⟨r', t⟩ h
    cases r with
    | ok u =>
      cases r' with
      | ok u' => exact ⟨rfl, h⟩
      | error e => exact h.elim
    | error e =>
      cases r' with
      | ok u => exact h.elim
      | error e' => exact ⟨congrArg Except.error h.1, h.2⟩
  · rw [taInvokeCommand_blind inv.paramTypes hc ⟨sess, inv.params⟩]
    have hcalls : wp (fun _ c => Definite (AlikeIn inv) AlikeEvent c)
        ((taInvokeCommand inv.cmdId inv.paramTypes).go ⟨sess, inv.params⟩) (fun _ _ => True) [] :=
      wp_mono (fun _ _ => definite_of_steady) (fun _ _ _ => trivial)
        (taInvokeCommand_steady inv.paramTypes hc ⟨sess, inv.params⟩)
    refine (Twin.of_definite hcalls).mono (fun _ _ h => h) ?_
    rintro ⟨r, s⟩ _ rfl
    exact ⟨rfl, reading, rfl⟩

/-- What keeps two sessions in step. -/
def twinSessions : Pool.Coupling taMachine where
  call := AlikeIn
  event := AlikeEvent
  mem sess sess' := ∃ reading, sess' = { sess with reading := reading }
  out := OutAlike
  code := by
    rintro inv sess _ ⟨reading, rfl⟩
    exact invocation_twin inv sess reading
  kept := by
    rintro out out' ⟨-, reading, h⟩
    exact ⟨reading, congrArg Frame.sess h⟩

/-- The two runs have the same commands on the same schedule, and as long as everything was alike
corresponding calls get alike answers: the same random draws, the same buffers, the same storage and
the same link, except for the readings. -/
structure SameWorld {ι : Type} (ls ls' : List (Pool.Label taMachine ι)) : Prop where
  schedule : ls.map Pool.Label.turn = ls'.map Pool.Label.turn
  answers : twinSessions.Answered ls ls'

/-! ## What the Host sees -/

/-- A write to a buffer of the Host's. -/
inductive HostWrite where
  | bytes (i : Fin 4) (off : Nat) (data : Bytes)
  /-- the ciphertext or the tag of READ_AND_PROTECT: how many bytes -/
  | sealed (off len : Nat)
deriving DecidableEq, Repr

def seenWrite (inv : Invocation) : Event Tee → Option HostWrite
  | .did (.hostWrite i off data) _ =>
    if Command.ofId inv.cmdId = some .readAndProtect ∧ i = 1 then some (.sealed off data.length)
    else some (.bytes i off data)
  | _ => none

/-- A finished command: what was asked, what was written, the result code, and the sizes and
values the parameters come back with. -/
def seenReturn {ι : Type} : Pool.Label taMachine ι →
    Option (ι × Invocation × List HostWrite × Except TeeError Unit × Params)
  | .returned i inv _ log (result, frame) =>
    some (i, inv, log.filterMap (seenWrite inv), result, frame.params)
  | _ => none

/-- A command under way. -/
def seenUnderWay : Pool.Agent taMachine → Option (Invocation × List HostWrite)
  | .busy inv _ log _ => some (inv, log.filterMap (seenWrite inv))
  | .idle _ => none

theorem seenWrite_eq {inv : Invocation} {ev ev' : Event Tee} (h : twinSessions.Alike inv ev ev') :
    seenWrite inv ev = seenWrite inv ev' := by
  obtain ⟨hcall, hevent⟩ := h
  cases hevent with
  | same => rfl
  | reading _ _ _ => rfl
  | encrypted _ _ _ _ _ _ _ _ => rfl
  | unencrypted _ _ _ _ _ _ _ => rfl
  | written off data data' =>
    rcases hcall with hsame | ⟨hc, halike⟩
    · cases hsame
      rfl
    · have hlen : data.length = data'.length := by
        cases halike with
        | same => rfl
        | writing _ h => exact h
      simp only [seenWrite, hc, and_self, if_true, hlen]

theorem seenWrites_eq {inv : Invocation} {log log' : List (Event Tee)}
    (h : List.Forall₂ (twinSessions.Alike inv) log log') :
    log.filterMap (seenWrite inv) = log'.filterMap (seenWrite inv) := by
  induction h with
  | nil => rfl
  | cons hev _ ih => rw [List.filterMap_cons, List.filterMap_cons, seenWrite_eq hev, ih]

theorem seenReturn_eq {ι : Type} {l l' : Pool.Label taMachine ι} (h : twinSessions.Labels l l') :
    seenReturn l = seenReturn l' := by
  cases h with
  | started i inv => rfl
  | did i inv h => rfl
  | @returned i inv sess sess' log log' out out' hlog h =>
    obtain ⟨result, frame⟩ := out
    obtain ⟨result', frame'⟩ := out'
    obtain ⟨hresult, reading, hframe⟩ := h
    obtain rfl : result' = result := hresult
    obtain rfl : frame' = frame.withReading reading := hframe
    show some _ = some _
    rw [seenWrites_eq hlog]
    rfl

section

variable {ι σ σ' : Type} [DecidableEq ι] {R : ι → σ → Event Tee → σ → Prop}
  {R' : ι → σ' → Event Tee → σ' → Prop} {c₀ c : Pool.Config taMachine ι σ}
  {c₀' c' : Pool.Config taMachine ι σ'} {ls ls' : List (Pool.Label taMachine ι)}

/-- **Readings do not leak.** In two runs from freshly opened sessions whose worlds differ in the
readings alone, the Host sees the same of every command, finished or under way. -/
theorem readings_do_not_leak (opened : ∀ i, c₀.agents i = .idle Session.fresh)
    (opened' : ∀ i, c₀'.agents i = .idle Session.fresh) (run : Pool.Run R Pool.Any c₀ ls c)
    (run' : Pool.Run R' Pool.Any c₀' ls' c') (same : SameWorld ls ls') :
    ls.filterMap seenReturn = ls'.filterMap seenReturn ∧
      ∀ i, seenUnderWay (c.agents i) = seenUnderWay (c'.agents i) := by
  have start : ∀ i, twinSessions.Agents (c₀.agents i) (c₀'.agents i) := by
    intro i
    rw [opened i, opened' i]
    exact .idle ⟨[], rfl⟩
  obtain ⟨hlabels, hagents⟩ := run.twins twinSessions run' start same.schedule same.answers
  refine ⟨?_, ?_⟩
  · clear same run run'
    induction hlabels with
    | nil => rfl
    | cons hl _ ih => rw [List.filterMap_cons, List.filterMap_cons, seenReturn_eq hl, ih]
  · intro i
    have hi := hagents i
    generalize c.agents i = a at hi
    generalize c'.agents i = a' at hi
    cases hi with
    | idle h => rfl
    | busy hlog _ =>
      show some _ = some _
      rw [seenWrites_eq hlog]

end

/-! ## Two worlds -/

namespace Vectors

/-- What the Host's buffers hold. -/
def hostMemory : Fin 4 → Nat → Nat → Bytes
  | 0, off, len => if len = 12 then firstDraw else serverEphemeral.pub.sec1.drop off
  | 1, off, _ => nonce.drop off
  | 2, off, len =>
    if len = ecdhPubkeySize then serverEphemeral.pub.sec1 else serverIdentity.pub.sec1.drop off
  | 3, off, _ => serverSig.drop off

/-- AES-256-GCM of the other reading, in the first message too. -/
def otherGcm (key iv aad plain : Bytes) : Bytes × Bytes :=
  if (key, iv, aad, plain) = (sessionKey, firstDraw, seqAad 1, formatReading 24 (Bytes.ascii ['C'])) then
    (Bytes.toBE 37 0x7249fd3a50e6f7fe0350dc0ce36361a7330b272e32d74ff22c9b548be6afb51020a1e45ed6,
      Bytes.toBE 16 0x8ff138f3948a537a0aa4279dbeeeab14)
  else aesGcm key iv aad plain

/-- A world whose sensor has one reading. -/
def worldAnswer (reading : Bytes) : (q : Call Tee) → q.Ans
  | .req (.invokeTACommand .read input size) =>
    if input = [] ∧ size = sensorLinkReadingMax then .ok (fit size reading, reading.length)
    else .error .badParameters
  | .req (.aeEncryptFinal key iv aad plain _) =>
    .ok ((fit plain.length (otherGcm key iv aad plain).1).1, (fit 16 (otherGcm key iv aad plain).2).1)
  | .req r => bench.request r
  | .act (.hostRead i off len) => fit len (hostMemory i off len)
  | .act (.generateRandom len) => if len = 12 then fit len firstDraw else fit len random
  | .act a => bench.action 0 a

/-- The answers of such a world. -/
def WorldStep (reading : Bytes) (_ : Fin 2) (_ : Unit) (ev : Event Tee) (_ : Unit) : Prop :=
  ev = Event.of ev.call (worldAnswer reading ev.call)

/-- One session goes all the way to a sealed reading, another one asks for one at once. -/
def worldTurns : List (Pool.Turn taMachine (Fin 2)) :=
  [Pool.Turn.start 1 protect, Pool.Turn.finish 1, Pool.Turn.start 0 authenticateSensor] ++
  List.replicate 12 (Pool.Turn.call 0) ++
  [Pool.Turn.finish 0, Pool.Turn.start 0 generateEvidence] ++
  List.replicate 24 (Pool.Turn.call 0) ++
  [Pool.Turn.finish 0, Pool.Turn.start 0 completeHandshake] ++
  List.replicate 36 (Pool.Turn.call 0) ++
  [Pool.Turn.finish 0, Pool.Turn.start 0 protect] ++ List.replicate 12 (Pool.Turn.call 0) ++
  [Pool.Turn.finish 0]

def worldRun (reading : Bytes) :
    List (Pool.Label taMachine (Fin 2)) × Pool.Config taMachine (Fin 2) Unit :=
  Pool.play (fun _ _ _ s q => (worldAnswer reading q, s)) (fun _ _ => true)
    ⟨(), fun _ => .idle Session.fresh⟩ worldTurns

theorem worldRun_run (reading : Bytes) : Pool.Run (WorldStep reading) Pool.Any
    ⟨(), fun _ => .idle Session.fresh⟩ (worldRun reading).1 (worldRun reading).2 := by
  refine (Pool.play_run _ _ ?_).mono fun _ _ _ => trivial
  intro c i inv n q _
  show Event.of q _ = Event.of (Event.of q _).call _
  rw [Event.call_of]

/-- Two worlds answer corresponding calls alike. -/
theorem worldAnswer_alike {reading reading' : Bytes} {text text' : Bytes}
    (h : acceptedReading (fit sensorLinkReadingMax reading, reading.length) = some text)
    (h' : acceptedReading (fit sensorLinkReadingMax reading', reading'.length) = some text')
    (hlen : text.length = text'.length) {inv : Invocation} {q q' : Call Tee} (halike : AlikeIn inv q q') :
    AlikeEvent (Event.of q (worldAnswer reading q)) (Event.of q' (worldAnswer reading' q')) := by
  have hsame : AlikeEvent (Event.of q (worldAnswer reading q)) (Event.of q (worldAnswer reading' q)) := by
    cases q with
    | act a =>
      cases a with
      | _ => exact .same _
    | req r =>
      cases r with
      | invokeTACommand cmd input size =>
        cases cmd with
        | read =>
          by_cases hread : input = [] ∧ size = sensorLinkReadingMax
          · obtain ⟨rfl, rfl⟩ := hread
            exact .reading h h' hlen
          · simp only [worldAnswer, if_neg hread]
            exact .same _
        | challenge => exact .same _
        | fetchSecret => exact .same _
      | _ => exact .same _
  rcases halike with rfl | ⟨-, halike⟩
  · exact hsame
  · cases halike with
    | same => exact hsame
    | encrypting key iv aad size hplain =>
      refine .encrypted _ _ _ _ _ _ ?_ ?_
      · exact ((fit _ _).2.trans hplain).trans (fit _ _).2.symm
      · exact (fit 16 _).2.trans (fit 16 _).2.symm
    | writing off _ => exact .written off _ _

/-- Two such worlds are the same but for their readings. -/
theorem sameWorld {reading reading' : Bytes} {text text' : Bytes}
    (h : acceptedReading (fit sensorLinkReadingMax reading, reading.length) = some text)
    (h' : acceptedReading (fit sensorLinkReadingMax reading', reading'.length) = some text')
    (hlen : text.length = text'.length)
    (schedule : (worldRun reading).1.map Pool.Label.turn = (worldRun reading').1.map Pool.Label.turn) :
    SameWorld (worldRun reading).1 (worldRun reading').1 := by
  refine ⟨schedule, ?_⟩
  intro pre pre' post post' i inv ev ev' hsplit hsplit' _ hcall
  have hstep : ∀ {r : Bytes} {l r' : List (Pool.Label taMachine (Fin 2))} {e : Event Tee},
      (worldRun r).1 = l ++ .did i e :: r' → e = Event.of e.call (worldAnswer r e.call) := by
    intro r l r' e hr
    have hmem : .did i e ∈ (worldRun r).1 := by
      rw [hr]
      simp
    obtain ⟨_, _, _, _, hR, _⟩ := (worldRun_run r).happened hmem
    exact hR
  rw [hstep hsplit, hstep hsplit']
  exact worldAnswer_alike h h' hlen hcall

deriving instance DecidableEq for Invocation

end Vectors

/-- 23 C in one world, 24 C in the other, sealed under one nonce in the first message. -/
theorem readings_do_not_leak_played :
    (Vectors.worldRun Vectors.firstReading).1.filterMap seenReturn =
      (Vectors.worldRun Vectors.secondReading).1.filterMap seenReturn := by
  have schedule : (Vectors.worldRun Vectors.firstReading).1.map Pool.Label.turn =
      (Vectors.worldRun Vectors.secondReading).1.map Pool.Label.turn := by
    decide +kernel
  have haccepted : acceptedReading (fit sensorLinkReadingMax Vectors.firstReading, 6) =
      some (formatReading 23 (Bytes.ascii ['C'])) := by decide +kernel
  have haccepted' : acceptedReading (fit sensorLinkReadingMax Vectors.secondReading, 6) =
      some (formatReading 24 (Bytes.ascii ['C'])) := by decide +kernel
  have same := Vectors.sameWorld haccepted haccepted' rfl schedule
  exact (readings_do_not_leak (fun _ => rfl) (fun _ => rfl) (Vectors.worldRun_run _)
    (Vectors.worldRun_run _) same).1

end ConfidentialIoT
