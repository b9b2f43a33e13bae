import ConfidentialIoT.Host.Rehearsal
import ConfidentialIoT.Lib.Embed
import ConfidentialIoT.Lib.Memory
import ConfidentialIoT.TrustedApp.Reading
import ConfidentialIoT.TrustedApp.Sequence

/-!
# `Host/SealedMessage.lean` — a sealed message on its way through the Host

The TA writes nonce and ciphertext into two buffers of `ta_read_and_protect_encode`, which joins
them and hands their base64 to `main`; `edge_send_sensor_data_to_server` decodes it, splits it
and encodes the two parts again. Everything on the way has a fixed size. `HostBuffers` has the
sizes, and `sealed_message_carried` is that each of them is large enough, from the TA's own
checks to the last base64, and that the message is the one that was sealed.
-/

set_option autoImplicit false

namespace ConfidentialIoT

open Effects

/-! ## `ta_read_and_protect_encode` -/

/-- `sizeof(nonce)` -/
abbrev nonceSize : Nat := 12

/-- `sizeof(ciphertext)` -/
abbrev ciphertextMax : Nat := 512

/-- `sizeof(protected_data)`, in `main` -/
abbrev protectedDataMax : Nat := 512

/-- `sizeof(tag)`, in the TA -/
abbrev gcmTagSize : Nat := 16

/-- What `ta_read_and_protect_encode` makes of the TA's answer. -/
def encodeProtected (outputSize : Nat) (answer : EdgeAct.readAndProtect.Res) : EdgeM Text := do
  let (nonce, ciphertext, seq) ← orFail answer
  if nonce.length ≠ nonceSize then
    throw .failed
  modify fun g => { g with lastSeq := seq }
  if nonce.length + ciphertext.length > nonceSize + ciphertextMax then
    throw .failed
  orFail (mbedtlsBase64Encode outputSize (nonce ++ ciphertext))

/-- `ta_read_and_protect_encode`, into a buffer of `outputSize` bytes. -/
def taReadAndProtectEncode (outputSize : Nat) : EdgeM Text := do
  encodeProtected outputSize (← edge .readAndProtect)

/-- What is too long for `combined` is too long for `protected_data`. -/
theorem edgeCallTa_eq : edgeCallTa = taReadAndProtectEncode protectedDataMax := by
  have hcombined : ∀ nonce ciphertext : Bytes,
      (orFail (mbedtlsBase64Encode protectedDataMax (nonce ++ ciphertext)) : EdgeM Text) = (do
        if nonce.length + ciphertext.length > nonceSize + ciphertextMax then
          throw .failed
        orFail (mbedtlsBase64Encode protectedDataMax (nonce ++ ciphertext))) := by
    intro nonce ciphertext
    by_cases hlong : nonce.length + ciphertext.length > nonceSize + ciphertextMax
    · have hnone : mbedtlsBase64Encode protectedDataMax (nonce ++ ciphertext) = none := by
        have hlt : 12 + 512 < nonce.length + ciphertext.length := hlong
        refine if_pos ?_
        rw [length_encode, List.length_append]
        show 512 < _
        omega
      rw [if_pos hlong, hnone]
      rfl
    · rw [if_neg hlong]
  unfold edgeCallTa taReadAndProtectEncode
  congr 1
  funext answer
  unfold encodeProtected
  congr 1
  funext ⟨nonce, ciphertext, seq⟩
  dsimp only
  conv_lhs => rw [hcombined nonce ciphertext]

/-- The part of `main`'s loop that carries one message. -/
def pushSealed (lib : HostLib) (deviceId : Text) : EdgeM Unit := do
  edgeSendSensorData lib deviceId (← taReadAndProtectEncode protectedDataMax)

/-! ## The memory between the two worlds -/

/-- The Host's buffers behind `params[]`, after what the TA wrote to them. -/
def hostMemory (m : Memory (Fin 4)) (tr : List (Event Tee)) : Memory (Fin 4) :=
  tr.foldl (fun m ev => match ev with
    | .did (.hostWrite i off data) _ => m.storeAll i off data
    | _ => m) m

/-- The parameters of the Host's operation: `nonce`, `ciphertext` and a value. -/
def readAndProtectParams : Params
  | 0 => ⟨nonceSize, 0, 0⟩
  | 1 => ⟨ciphertextMax, 0, 0⟩
  | _ => ⟨0, 0, 0⟩

/-- `TEEC_InvokeCommand(… READ_AND_PROTECT …)` -/
def readAndProtectCall : Invocation := ⟨1, readAndProtectTypes, readAndProtectParams⟩

/-- What the Host has when it returns: both buffers up to the sizes that came back, and
`value.a`. -/
def readAndProtectAnswer (m : Memory (Fin 4)) (tr : List (Event Tee)) :
    Except TeeError Unit × Frame → EdgeAct.readAndProtect.Res
  | (.ok (), s) => some ((hostMemory m tr).view 0 (s.params 0).size,
      (hostMemory m tr).view 1 (s.params 1).size, (s.params 2).a.toNat)
  | (.error _, _) => none

section

variable {m : Memory (Fin 4)} {tr tr' : List (Event Tee)}

@[simp] theorem hostMemory_nil : hostMemory m [] = m := rfl

@[simp] theorem hostMemory_append : hostMemory m (tr ++ tr') = hostMemory (hostMemory m tr) tr' :=
  List.foldl_append

@[simp] theorem hostMemory_cons (ev : Event Tee) : hostMemory m (ev :: tr) = hostMemory (match ev with
    | .did (.hostWrite i off data) _ => m.storeAll i off data
    | _ => m) tr := rfl

end

/-! ## The Host -/

/-- Base64 decodes what it encoded. -/
def HostLib.Codec (lib : HostLib) : Prop := ∀ b, lib.base64Decode (b64e b) = some b

/-- An encoding that fits, with its NUL. -/
theorem mbedtlsBase64Encode_fits {size : Nat} {b : Bytes} (h : (b.length + 2) / 3 * 4 < size) :
    mbedtlsBase64Encode size b = some (b64e b) := by
  apply if_neg
  rw [length_encode]
  omega

theorem HostLib.Codec.decodeInto {lib : HostLib} (h : lib.Codec) {size : Nat} {b : Bytes}
    (hfits : b.length ≤ size) : lib.decodeInto size (b64e b) = some b := by
  unfold HostLib.decodeInto
  rw [h b, Option.filter_some]
  simp [hfits]

section

variable {lib : HostLib} {deviceId : Text} {conn : Nat} {g : EdgeGlobals} {nonce ciphertext : Bytes}
  {seq : Nat}

/-- The event of the TA's answer. -/
abbrev taAnswered (nonce ciphertext : Bytes) (seq : Nat) : Event Edge :=
  .did .readAndProtect (some (nonce, ciphertext, seq))

/-- The event of the message going out. -/
abbrev messageSent (conn : Nat) (deviceId : Text) (nonce ciphertext : Bytes) (seq : Nat)
    (ok : Bool) : Event Edge :=
  .did (.send conn (sensorDataMessage deviceId seq (b64e nonce) (b64e ciphertext))) ok

/-- The second half: everything fits, and the nonce is where the text is split. -/
theorem edgeSendSensorData_carries (codec : lib.Codec) (hconn : g.conn = some conn)
    (hattested : g.attested = true) (hnonce : nonce.length = nonceSize)
    (hct : ciphertext.length ≤ readingMax + gcmTagSize) (tr : List (Event Edge)) :
    wpP (fun _ _ => True) (edgeSendSensorData lib deviceId (b64e (nonce ++ ciphertext)))
      (fun tr' _ _ => tr' = tr ++ [messageSent conn deviceId nonce ciphertext g.lastSeq true])
      (fun tr' _ e => tr' = tr ++ [messageSent conn deviceId nonce ciphertext g.lastSeq false] ∧
        e = .failed) g tr := by
  have hn : nonce.length = 12 := hnonce
  have hc : ciphertext.length ≤ 256 + 16 := hct
  have hraw : lib.decodeInto 600 (b64e (nonce ++ ciphertext)) = some (nonce ++ ciphertext) := by
    apply codec.decodeInto
    rw [List.length_append]
    omega
  have hnonceB64 : mbedtlsBase64Encode 32 nonce = some (b64e nonce) := by
    apply mbedtlsBase64Encode_fits
    omega
  have hctB64 : mbedtlsBase64Encode 900 ciphertext = some (b64e ciphertext) := by
    apply mbedtlsBase64Encode_fits
    omega
  have hlong : 12 ≤ nonce.length + ciphertext.length := by omega
  unfold edgeSendSensorData
  rw [wpP_bind, wpP_get]
  simp [hconn, hattested, hraw, List.take_left' hn, List.drop_left' hn, hnonceB64, hctB64, hlong,
    sendLine]

/-- The first half: the joined bytes fit, and so does their text. -/
theorem encodeProtected_carries (hnonce : nonce.length = nonceSize)
    (hct : ciphertext.length ≤ readingMax + gcmTagSize) (g : EdgeGlobals) :
    wpP (fun _ _ => True) (encodeProtected protectedDataMax (some (nonce, ciphertext, seq)))
      (fun tr g' protectedData => tr = [] ∧ g' = { g with lastSeq := seq } ∧
        protectedData = b64e (nonce ++ ciphertext)) (fun _ _ _ => False) g [] := by
  have hn : nonce.length = 12 := hnonce
  have hc : ciphertext.length ≤ 256 + 16 := hct
  have hjoined : mbedtlsBase64Encode protectedDataMax (nonce ++ ciphertext) =
      some (b64e (nonce ++ ciphertext)) := by
    apply mbedtlsBase64Encode_fits
    rw [List.length_append]
    show _ < 512
    omega
  have hcombined : ¬ nonce.length + ciphertext.length > nonceSize + ciphertextMax := by
    show ¬ _ > 12 + 512
    omega
  unfold encodeProtected
  simp [hnonce, hjoined]
  exact hc.trans (by decide)

/-- Both halves, for whatever the TA answered. -/
theorem pushSealed_carries (codec : lib.Codec) (hconn : g.conn = some conn)
    (hattested : g.attested = true) (hnonce : nonce.length = nonceSize)
    (hct : ciphertext.length ≤ readingMax + gcmTagSize) {tr : List (Event Edge)}
    {r : Except EdgeError Unit} {g' : EdgeGlobals}
    (h : Runs ((pushSealed lib deviceId).go g) (taAnswered nonce ciphertext seq :: tr) (r, g')) :
    ∃ ok, tr = [messageSent conn deviceId nonce ciphertext seq ok] ∧
      r = if ok then .ok () else .error .failed := by
  have hprogram : (pushSealed lib deviceId).go g = (Proc.act (S := Edge) .readAndProtect >>=
      fun answer => encodeProtected protectedDataMax answer >>=
        edgeSendSensorData lib deviceId).go g := rfl
  rw [hprogram] at h
  have hspec : wpP (fun _ _ => True)
      (encodeProtected protectedDataMax (some (nonce, ciphertext, seq)) >>=
        edgeSendSensorData lib deviceId)
      (fun tr' _ _ => tr' = [messageSent conn deviceId nonce ciphertext seq true])
      (fun tr' _ e => tr' = [messageSent conn deviceId nonce ciphertext seq false] ∧ e = .failed)
      g [] := by
    rw [wpP_bind]
    refine wpP_conseq (encodeProtected_carries hnonce hct g) ?_ ?_
    · rintro _ _ _ ⟨rfl, rfl, rfl⟩
      exact edgeSendSensorData_carries (g := { g with lastSeq := seq }) codec hconn hattested
        hnonce hct []
    · intro _ _ _ hfalse
      exact hfalse.elim
  have hpost := wp_runs (runs_of_act h) hspec
  cases r with
  | ok u => exact ⟨true, hpost, rfl⟩
  | error e =>
    obtain ⟨htr, rfl⟩ := hpost
    exact ⟨false, htr, rfl⟩

end

/-! ## The TA -/

/-- AES-GCM: a ciphertext is as long as its plaintext, and a tag as long as was asked for. -/
def gcmLength : Event Tee → Bool
  | .ok (.aeEncryptFinal _ _ _ plain _) b => b.1.length = plain.length ∧ b.2.length = gcmTagSize
  | _ => true

/-- It is so at every seal of a history. -/
def GcmLengths (tr : List (Event Tee)) : Prop := ∀ ev ∈ tr, gcmLength ev = true

/-- The one seal of a call: its nonce was drawn, its number is the AAD, and what came out is the
ciphertext. -/
structure SealedAs (tr : List (Event Tee)) (nonce ciphertext : Bytes) (seq : Nat) : Prop where
  drawn : ∃ b : BytesN 12, .did (.generateRandom 12) b ∈ tr ∧ b.1 = nonce
  sealed : ∃ key held reading out tag,
    .ok (.aeEncryptFinal key held (Bytes.toBE seqAadSize seq) reading ciphertextMax) (out, tag) ∈ tr ∧
      out ++ tag = ciphertext ∧ (NonceLeftAlone tr → held = nonce)
  once : sealedAads tr = [Bytes.toBE seqAadSize seq]

/-- What a successful call has written, and the sizes it returns. -/
structure SealWrote (m : Memory (Fin 4)) (tr : List (Event Tee)) (s : Frame) : Prop where
  intro ::
  wrote : ∃ (drawn held : BytesN 12) (key aad reading out tag : Bytes),
    .did (.generateRandom 12) drawn ∈ tr ∧ .did (.hostRead 0 0 12) held ∈ tr ∧
    .ok (.aeEncryptFinal key held.1 aad reading ciphertextMax) (out, tag) ∈ tr ∧
    reading.length ≤ readingMax ∧ (s.params 0).size = 12 ∧
    (s.params 1).size = out.length + tag.length ∧
    hostMemory m tr = (m.storeAll 0 0 drawn.1).storeAll 1 0 (out ++ tag)

theorem sealReading_writes {m : Memory (Fin 4)} {tr : List (Event Tee)} {s : Frame}
    (hquiet : hostMemory m tr = m) (hreading : s.sess.reading.length ≤ readingMax) (seq : UInt64) :
    wpP (fun _ _ => True) (sealReading ciphertextMax seq) (fun tr' s' _ => SealWrote m tr' s')
      (fun _ _ _ => True) s tr := by
  unfold sealReading
  simp only [wpP_bind, wpP_get, wpP_tee, wpP_teeAct, wpP_hostWrite, wpP_hostRead, wpP_modify,
    true_and, implies_true, and_true]
  intro _ _ _ _ drawn _ held _ out _ _
  refine ⟨drawn, held, s.sess.sessionKey, seqAad seq, s.sess.reading, out.1, out.2, ?_, ?_, ?_,
    hreading, ?_, ?_, ?_⟩
  · simp
  · simp
  · simp
  · simp [Frame.setValue, Frame.setSize, Frame.onSess]
  · simp [Frame.setValue, Frame.setSize, Frame.onSess]
  · simp only [hostMemory_append, hostMemory_cons, hostMemory_nil, hquiet]
    rw [Memory.storeAll_append, Nat.zero_add]

/-- Nothing is written while the reading is fetched. -/
theorem readSensorReading_quiet (m : Memory (Fin 4)) (s : Frame) :
    wpP (fun _ _ => True) readSensorReading
      (fun tr' s' _ => hostMemory m tr' = m ∧ s'.sess.reading.length ≤ readingMax)
      (fun _ _ _ => True) s [] := by
  have hopen : wpP (fun _ _ => True) openSensorPta (fun tr _ _ => hostMemory m tr = m)
      (fun _ _ _ => True) s [] := by
    unfold openSensorPta
    simp
  rw [readSensorReading_decodes, wpP_bind]
  refine wpP_conseq hopen ?_ fun _ _ _ _ => trivial
  intro tr _ _ hquiet
  rw [wpP_bind, wpP_tee]
  refine ⟨trivial, ?_, fun _ => trivial⟩
  intro answer
  cases hdecoded : decodeReading answer with
  | none => trivial
  | some reading =>
    have hshort := length_formatReading reading.1 (decodeReading_iff.mp hdecoded).1
    refine ⟨?_, hshort.trans (by decide)⟩
    rw [hostMemory_append, hquiet]
    rfl

theorem taReadAndProtect_writes (m : Memory (Fin 4)) (sess : Session) :
    wpP (fun _ _ => True) (taReadAndProtect readAndProtectTypes)
      (fun tr s _ => SealWrote m tr s) (fun _ _ _ => True) ⟨sess, readAndProtectParams⟩ [] := by
  simp only [taReadAndProtect, readAndProtectGates, readAndProtectOpen, wpP_bind, wpP_get,
    wpP_ite, wpP_throw, wpP_pure, implies_true, true_and]
  intro _ _ _ _
  refine wpP_conseq (readSensorReading_quiet m _) ?_ fun _ _ _ _ => trivial
  rintro tr s _ ⟨hquiet, hreading⟩ _ _
  exact sealReading_writes hquiet hreading _

/-- Both buffers, as the Host finds them. -/
theorem SealWrote.answer {m : Memory (Fin 4)} {tr : List (Event Tee)} {s : Frame}
    (h : SealWrote m tr s) (gcm : GcmLengths tr) :
    ∃ nonce ciphertext, readAndProtectAnswer m tr (.ok (), s) =
        some (nonce, ciphertext, (s.params 2).a.toNat) ∧ nonce.length = nonceSize ∧
      ciphertext.length ≤ readingMax + gcmTagSize ∧
      ∀ seq, sealedAads tr = [Bytes.toBE seqAadSize seq] → SealedAs tr nonce ciphertext seq := by
  obtain ⟨drawn, held, key, aad, reading, out, tag, hdraw, hheld, hseal, hreading, hzero, hone,
    hmem⟩ := h.wrote
  obtain ⟨hout, htag⟩ := of_decide_eq_true (gcm _ hseal)
  have hfirst : (hostMemory m tr).view 0 12 = drawn.1 := by
    have hother := Memory.bytes_storeAll_other (m.storeAll 0 0 drawn.1)
      (show (0 : Fin 4) ≠ 1 by decide) 0 (out ++ tag)
    rw [hmem, Memory.view_congr hother]
    have hview := Memory.view_storeAll m 0 drawn.1
    rwa [drawn.2] at hview
  have hsecond : (hostMemory m tr).view 1 (out.length + tag.length) = out ++ tag := by
    rw [hmem, ← List.length_append]
    exact Memory.view_storeAll _ 1 _
  refine ⟨drawn.1, out ++ tag, ?_, drawn.2, ?_, ?_⟩
  · simp only [readAndProtectAnswer, hzero, hone, hfirst, hsecond]
  · rw [List.length_append, hout, htag]
    exact Nat.add_le_add_right hreading _
  · intro seq honce
    have haad : aad = Bytes.toBE seqAadSize seq := by
      have hmem : aad ∈ sealedAads tr := List.mem_filterMap.mpr ⟨_, hseal, rfl⟩
      rw [honce] at hmem
      exact List.mem_singleton.mp hmem
    rw [haad] at hseal
    refine ⟨⟨drawn, hdraw, rfl⟩, ⟨key, held.1, reading, out, tag, hseal, rfl, ?_⟩, honce⟩
    intro kept
    apply kept
    · exact List.mem_filterMap.mpr ⟨_, hdraw, rfl⟩
    · exact List.mem_filterMap.mpr ⟨_, hheld, rfl⟩

/-- READ_AND_PROTECT, as the Host calls it. -/
theorem readAndProtect_sealed {sess : Session} {m : Memory (Fin 4)} {tr : List (Event Tee)}
    {s : Frame} (runs : Runs (readAndProtectCall.program sess) tr (.ok (), s))
    (gcm : GcmLengths tr) :
    ∃ nonce ciphertext seq, readAndProtectAnswer m tr (.ok (), s) = some (nonce, ciphertext, seq) ∧
      nonce.length = nonceSize ∧ ciphertext.length ≤ readingMax + gcmTagSize ∧
      SealedAs tr nonce ciphertext seq := by
  have hspec := taReadAndProtect_writes m sess
  have hwrote := wp_runs runs hspec
  obtain ⟨nonce, ciphertext, hanswer, hnonce, hct, hseal⟩ := hwrote.answer gcm
  have heffect := Performed.seqEffect (p := ⟨readAndProtectCall, tr, .ok ()⟩) runs
  exact ⟨nonce, ciphertext, _, hanswer, hnonce, hct, hseal _ (heffect.returned_seq ⟨rfl, rfl⟩).2⟩

/-! ## No check of a size fails -/

/-- `ta_read_and_protect`, called so, without its checks of a size. -/
def readAndProtectUnchecked : TA Unit := do
  readAndProtectGates
  openSensorPta
  let answer ← tee (.invokeTACommand .read [] sensorLinkReadingMax)
  match decodeReading answer with
  | none => throw .badFormat
  | some (value, unit) =>
    modify (·.onSess fun sess => { sess with reading := formatReading value.toInt unit })
    let sess := (← get).sess
    if sess.sendSeq ≥ 0xffffffff then
      throw .overflow
    sealReading ciphertextMax (sess.sendSeq + 1)

theorem readAndProtectOpen_unchecked : readAndProtectOpen readAndProtectParams = (do
    openSensorPta
    let answer ← tee (.invokeTACommand .read [] sensorLinkReadingMax)
    match decodeReading answer with
    | none => throw .badFormat
    | some (value, unit) =>
      modify (·.onSess fun sess => { sess with reading := formatReading value.toInt unit })
      let sess := (← get).sess
      if sess.sendSeq ≥ 0xffffffff then
        throw .overflow
      sealReading ciphertextMax (sess.sendSeq + 1)) := by
  unfold readAndProtectOpen
  rw [if_neg (by decide), readSensorReading_decodes]
  simp only [bind_assoc]
  congr 1
  funext _
  congr 1
  funext answer
  cases hdecoded : decodeReading answer with
  | none => rfl
  | some reading =>
    obtain ⟨value, unit⟩ := reading
    funext s
    have hshort := length_formatReading value (decodeReading_iff.mp hdecoded).1
    have hgo : ∀ (f : Frame → Frame) (k : Unit → TA Unit), (modify f >>= k) s = k () (f s) :=
      fun _ _ => rfl
    have hget : ∀ (k : Frame → TA Unit) (s : Frame), (get >>= k) s = k s s := fun _ _ => rfl
    simp only [hgo, hget]
    rw [if_neg (Nat.not_lt.mpr ?_)]
    · rfl
    · show (formatReading value.toInt unit).length + 16 ≤ 512
      omega

theorem taReadAndProtect_unchecked (sess : Session) :
    (taReadAndProtect readAndProtectTypes).go ⟨sess, readAndProtectParams⟩ =
      readAndProtectUnchecked.go ⟨sess, readAndProtectParams⟩ := by
  unfold taReadAndProtect readAndProtectUnchecked
  rw [← readAndProtectOpen_unchecked, Proc.go_bind, Proc.go_get]
  simp only [ne_eq, not_true, if_false, Prog.ret_bind]

/-- What `sealed_message_carried` says. -/
structure SealedMessageCarried : Prop where
  /-- Of a reading of any admissible length, with whatever nonce, ciphertext and number the TA
  returns: the two functions fail only where the socket does, and what they send is the base64
  of exactly these bytes with exactly this number. -/
  carried : ∀ (lib : HostLib) (deviceId : Text) (conn : Nat) (g g' : EdgeGlobals)
    (readingLen : Nat) (nonce ciphertext : Bytes) (seq : Nat) (tr : List (Event Edge))
    (r : Except EdgeError Unit), lib.Codec → g.conn = some conn → g.attested = true →
    readingLen ≤ readingMax → nonce.length = nonceSize →
    ciphertext.length = readingLen + gcmTagSize →
    Runs ((pushSealed lib deviceId).go g) (taAnswered nonce ciphertext seq :: tr) (r, g') →
      ∃ ok, tr = [messageSent conn deviceId nonce ciphertext seq ok] ∧
        r = if ok then .ok () else .error .failed
  /-- Where the TA has sealed a reading into the Host's buffers, this is that seal: the number is
  the one in its AAD. -/
  authenticated : ∀ (lib : HostLib) (deviceId : Text) (conn : Nat) (g g' : EdgeGlobals)
    (sess : Session) (m : Memory (Fin 4)) (sealing : List (Event Tee)) (s : Frame)
    (tr : List (Event Edge)) (r : Except EdgeError Unit), lib.Codec → g.conn = some conn →
    g.attested = true → Runs (readAndProtectCall.program sess) sealing (.ok (), s) →
    GcmLengths sealing →
    Runs ((pushSealed lib deviceId).go g)
      (.did .readAndProtect (readAndProtectAnswer m sealing (.ok (), s)) :: tr) (r, g') →
      ∃ nonce ciphertext seq ok, SealedAs sealing nonce ciphertext seq ∧
        tr = [messageSent conn deviceId nonce ciphertext seq ok] ∧
        r = if ok then .ok () else .error .failed
  /-- The TA's own checks of a size are idle when it is called so. -/
  unchecked : ∀ sess : Session,
    (taReadAndProtect readAndProtectTypes).go ⟨sess, readAndProtectParams⟩ =
      readAndProtectUnchecked.go ⟨sess, readAndProtectParams⟩
  /-- The text of an accepted payload fits `sess->reading`. -/
  printed : ∀ answer value unit, decodeReading answer = some (value, unit) →
    (formatReading value.toInt unit).length < readingMax

/-- **The Host carries a sealed message unchanged, and no buffer is too small.** -/
theorem sealed_message_carried : SealedMessageCarried where
  carried lib deviceId conn g g' readingLen nonce ciphertext seq tr r codec hconn hattested hlen
      hnonce hct hruns := by
    apply pushSealed_carries codec hconn hattested hnonce _ hruns
    rw [hct]
    exact Nat.add_le_add_right hlen _
  authenticated lib deviceId conn g g' sess m sealing s tr r codec hconn hattested hsealing gcm
      hruns := by
    obtain ⟨nonce, ciphertext, seq, hanswer, hnonce, hct, hseal⟩ :=
      readAndProtect_sealed (m := m) hsealing gcm
    rw [hanswer] at hruns
    obtain ⟨ok, htr, hr⟩ := pushSealed_carries codec hconn hattested hnonce hct hruns
    exact ⟨nonce, ciphertext, seq, ok, hseal, htr, hr⟩
  unchecked := taReadAndProtect_unchecked
  printed answer value unit hdecoded := by
    have hshort := length_formatReading value (decodeReading_iff.mp hdecoded).1
    exact hshort.trans_lt (by decide)

namespace Vectors

/-- The device with its first reading to seal for the Host. -/
def hostSeal : Bench := protectBench firstReading firstDraw firstDraw

/-- The Host's buffers, before anything is in them. -/
def blankMemory : Memory (Fin 4) := ⟨fun _ _ => 0, []⟩

/-- A Host whose TA answers so, and whose socket works. -/
def hostAnswer (answer : EdgeAct.readAndProtect.Res) (_ : Nat) : (c : Call Edge) → c.Ans
  | .req r => nomatch r
  | .act .readAndProtect => answer
  | .act (.send _ _) => true
  | .act (.connect) => (none : Option Nat)
  | .act (.recv _) => (none : Option JsonValue)
  | .act (.close _) => ()
  | .act .monoNow => (0 : Int)
  | .act (.generateEvidence _ _) => (none : Option (Bytes × Bytes))
  | .act (.attestationReport _) => (none : Option AttestationEvidence)
  | .act (.handshakeComplete _ _ _ _) => false

/-- Its globals, connected and attested. -/
def attestedEdge : EdgeGlobals := { EdgeGlobals.initial with conn := some 0, attested := true }

end Vectors

/-- The first reading of a played session goes out under the number it was sealed with. -/
theorem sealed_message_carried_played : ∃ sealing s nonce ciphertext seq ok tr g',
    Runs (readAndProtectCall.program (play Vectors.provisionedSession).2) sealing (.ok (), s) ∧
    SealedAs sealing nonce ciphertext seq ∧
    Runs ((pushSealed Vectors.edgeLib Vectors.deviceName).go Vectors.attestedEdge) tr
      (if ok then .ok () else .error .failed, g') ∧
    messageSent 0 Vectors.deviceName nonce ciphertext seq ok ∈ tr := by
  have codec : Vectors.edgeLib.Codec := by
    intro b
    show (b64d (.str (b64e b))).toOption = some b
    rw [b64d_b64e]
    rfl
  have hok : (execution Vectors.hostSeal readAndProtectCall
      (play Vectors.provisionedSession).2).2.1 = .ok () := by decide +kernel
  have gcm : GcmLengths (execution Vectors.hostSeal readAndProtectCall
      (play Vectors.provisionedSession).2).1 := by
    unfold GcmLengths
    decide +kernel
  have hsealing := execution_runs hok
  generalize (execution _ _ _).1 = sealing, (execution _ _ _).2.2 = s at gcm hsealing
  -- the first call is the TA's, whatever it answers
  have hstarts : ∀ answer, ∃ tr r g', Runs ((pushSealed Vectors.edgeLib Vectors.deviceName).go
      Vectors.attestedEdge) (.did .readAndProtect answer :: tr) (r, g') :=
    fun answer => ⟨_, _, _, exec_runs (Vectors.hostAnswer answer) 0 _⟩
  obtain ⟨tr, r, g', hruns⟩ := hstarts (readAndProtectAnswer Vectors.blankMemory sealing (.ok (), s))
  obtain ⟨nonce, ciphertext, seq, ok, hseal, rfl, rfl⟩ := sealed_message_carried.authenticated _ _ 0
    _ _ _ _ _ _ _ _ codec rfl rfl hsealing gcm hruns
  exact ⟨sealing, s, nonce, ciphertext, seq, ok, _, g', hsealing, hseal, hruns, by simp⟩

end ConfidentialIoT
