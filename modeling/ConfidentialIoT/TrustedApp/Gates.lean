import ConfidentialIoT.TrustedApp.Scripted

/-!
# `TrustedApp/Gates.lean` — the two gates of the data path, as questions about the history

`READ_AND_PROTECT` looks at two booleans of the session. What they *mean* is a statement about
the commands the session has performed, and this module is the proof that the booleans say
exactly that, over every command order and every outcome of the calls underneath.

Six commands write the same few fields, each with many ways out. `Effect` says once what a
finished invocation can have done to them: deliver a sensor verdict, rearm the handshake,
consume the ephemeral keypair, or nothing. `invoke_effect` is that for every command; the
invariant is then four cases of arithmetic on histories, and never unfolds a command.
-/

set_option autoImplicit false

namespace ConfidentialIoT

open Effects History

/-! ## What a finished invocation was -/

namespace Performed

variable (p : Performed)

/-- It was AUTHENTICATE_SENSOR. -/
def IsAuthenticate : Prop := Command.ofId p.cmdId = some .authenticateSensor

/-- It was GENERATE_ATTESTATION_EVIDENCE and it passed its parameter checks. -/
def Rearms : Prop :=
  Command.ofId p.cmdId = some .generateAttestationEvidence ∧
    evidenceParamsOk p.paramTypes p.params = .ok ()

/-- It was HANDSHAKE_COMPLETE and it returned `TEE_SUCCESS`. -/
def Completes : Prop := Command.ofId p.cmdId = some .handshakeComplete ∧ p.result = .ok ()

/-- It generated the ephemeral keypair `kp` and left it in the session. -/
def Mints (kp : EcKeyPair) : Prop :=
  p.Rearms ∧ p.result = .ok () ∧ Event.ok (S := Tee) (.generateKey .ecdhKeypair 256) kp ∈ p.trace

end Performed

/-- A HANDSHAKE_COMPLETE got as far as `authenticate_server`, whose first access to the Host's
memory is the prefix byte of the presented identity key. -/
def ReachedAuth (cmdId : UInt32) (tr : List (Event Tee)) : Prop :=
  Command.ofId cmdId = some .handshakeComplete ∧
    ∃ b, Event.did (S := Tee) (.hostRead 2 0 1) b ∈ tr

/-! ## What a finished invocation can have done -/

/-- The fields the gates and the handshake live on. -/
def Session.gateFields (s : Session) : Option EcKeyPair × Bool × Bool :=
  (s.ecdhKeypair, s.sessionKeyValid, s.sensorAuthenticated)

inductive Effect (p : Performed) (s s' : Session) : Prop where
  | verdict (cmd : p.IsAuthenticate) (keypair : s'.ecdhKeypair = s.ecdhKeypair)
      (keyValid : s'.sessionKeyValid = s.sessionKeyValid)
      (sensor : s'.sensorAuthenticated = true ↔ p.result = .ok ())
  | rearmed (cmd : p.Rearms) (keyValid : s'.sessionKeyValid = false)
      (sensor : s'.sensorAuthenticated = s.sensorAuthenticated)
      (keypair : ∀ kp, s'.ecdhKeypair = some kp → p.Mints kp)
  | consumed (cmd : Command.ofId p.cmdId = some .handshakeComplete)
      (live : s.ecdhKeypair.isSome) (keypair : s'.ecdhKeypair = none)
      (sensor : s'.sensorAuthenticated = s.sensorAuthenticated)
      (keyValid : s'.sessionKeyValid = true ↔ p.result = .ok () ∨ s.sessionKeyValid = true)
  | nothing (same : s'.gateFields = s.gateFields) (notSensor : ¬ p.IsAuthenticate) (notRearm : ¬ p.Rearms)
      (notComplete : ¬ p.Completes) (notAuth : ¬ ReachedAuth p.cmdId p.trace)

/-- A command that is neither of the three that matter, and leaves the fields alone. -/
theorem Effect.of_other {p : Performed} {s s' : Session} (h : s'.gateFields = s.gateFields)
    (h₀ : Command.ofId p.cmdId ≠ some .authenticateSensor)
    (h₃ : Command.ofId p.cmdId ≠ some .generateAttestationEvidence)
    (h₄ : Command.ofId p.cmdId ≠ some .handshakeComplete) : Effect p s s' :=
  .nothing h h₀ (fun hr => h₃ hr.1) (fun hc => h₄ hc.1) (fun ha => h₄ ha.1)

/-! ## One command at a time -/

section

variable (inv : Invocation) (sess : Session)

/-- The claim `invoke_effect` makes about the code of one command. -/
def HasEffect (code : TA Unit) : Prop :=
  wpP (fun _ _ => True) code
    (fun tr s' _ => Effect ⟨inv, tr, .ok ()⟩ sess s'.sess)
    (fun tr s' e => Effect ⟨inv, tr, .error e⟩ sess s'.sess) ⟨sess, inv.params⟩ []

variable {inv sess}

/-- The flag says whether it succeeded; the two fields of the handshake stay. -/
theorem taAuthenticateSensor_spec (s : Frame) (tr : List (Event Tee)) :
    wpP (fun _ _ => True) taAuthenticateSensor
      (fun _ s' _ => s'.sess.ecdhKeypair = s.sess.ecdhKeypair ∧
        s'.sess.sessionKeyValid = s.sess.sessionKeyValid ∧ s'.sess.sensorAuthenticated = true)
      (fun _ s' _ => s'.sess.ecdhKeypair = s.sess.ecdhKeypair ∧
        s'.sess.sessionKeyValid = s.sess.sessionKeyValid ∧ s'.sess.sensorAuthenticated = false)
      s tr := by
  simp [taAuthenticateSensor, readSensorSecret, openSensorPta]

theorem taAuthenticateSensor_effect (hc : Command.ofId inv.cmdId = some .authenticateSensor) :
    HasEffect inv sess taAuthenticateSensor := by
  refine wpP_conseq (taAuthenticateSensor_spec _ _) ?_ ?_
  · rintro tr s' _ ⟨hkeypair, hvalid, hsensor⟩
    exact .verdict hc hkeypair hvalid (by simp [hsensor])
  · rintro tr s' e ⟨hkeypair, hvalid, hsensor⟩
    exact .verdict hc hkeypair hvalid (by simp [hsensor])

/-- A command that keeps the three fields and is none of the three commands that matter. -/
theorem hasEffect_of_keeps {code : TA Unit}
    (hk : Keeps (fun _ _ => True) (fun s => s.sess.gateFields) code)
    (h₀ : Command.ofId inv.cmdId ≠ some .authenticateSensor)
    (h₃ : Command.ofId inv.cmdId ≠ some .generateAttestationEvidence)
    (h₄ : Command.ofId inv.cmdId ≠ some .handshakeComplete) : HasEffect inv sess code := by
  apply hk.wpP
  · intro tr s' _ _ heq
    exact .of_other heq h₀ h₃ h₄
  · intro tr s' e _ heq
    exact .of_other heq h₀ h₃ h₄

theorem taReadAndProtect_keeps (paramTypes : UInt32) :
    Keeps (fun _ _ => True) (fun s => s.sess.gateFields) (taReadAndProtect paramTypes) := by
  intro s tr
  simp [taReadAndProtect, readAndProtectGates, readAndProtectOpen, readSensorReading,
    openSensorPta, sealReading, Session.gateFields]

theorem taProvisionSensorSecret_keeps (paramTypes : UInt32) :
    Keeps (fun _ _ => True) (fun s => s.sess.gateFields) (taProvisionSensorSecret paramTypes) := by
  intro s tr
  simp [taProvisionSensorSecret, fetchSensorSecret, openSensorPta, Session.gateFields]

/-- From the key generation on: success leaves the generated keypair in the session, and on
every way out nothing but the keypair has changed. -/
theorem evidenceOverFreshKey_spec (nonce serverPub : Bytes) (s : Frame) (tr : List (Event Tee)) :
    wpP (fun _ _ => True) (evidenceOverFreshKey nonce serverPub)
      (fun tr' s' _ => ∃ kp, s'.sess = { s.sess with ecdhKeypair := some kp } ∧
        Event.ok (S := Tee) (.generateKey .ecdhKeypair 256) kp ∈ tr')
      (fun _ s' _ => ∃ kp, s'.sess = { s.sess with ecdhKeypair := kp }) s tr := by
  simp only [evidenceOverFreshKey, wpP_bind, wpP_tee, wpP_modify, true_and]
  constructor
  · intro kp
    apply (evidenceFor_keeps kp nonce serverPub).wpP
    · intro tr' s' _ hpre heq
      exact ⟨kp, heq, hpre.subset (by simp)⟩
    · intro tr' s' e _ heq
      exact ⟨some kp, heq⟩
  · intro e
    exact ⟨s.sess.ecdhKeypair, rfl⟩

theorem taGenerateAttestationEvidence_effect
    (hc : Command.ofId inv.cmdId = some .generateAttestationEvidence) :
    HasEffect inv sess (taGenerateAttestationEvidence inv.paramTypes) := by
  simp only [HasEffect, taGenerateAttestationEvidence, wpP_bind, wpP_get, wpP_ofOutcome,
    wpP_hostRead, wpP_modify, wpP_tee, wpP_onError, true_and]
  constructor
  · intro _ hok nonce serverPub
    have hr : ∀ tr r, Performed.Rearms ⟨inv, tr, r⟩ := fun _ _ => ⟨hc, hok⟩
    constructor
    · intro _
      refine wpP_conseq (evidenceOverFreshKey_spec _ _ _ _) ?_ ?_
      · rintro tr s' _ ⟨kp, heq, hmem⟩
        refine .rearmed (hr _ _) (by simp [heq]) (by simp [heq]) ?_
        intro kp' hkp'
        obtain rfl : kp = kp' := by simpa [heq] using hkp'
        exact ⟨hr _ _, rfl, hmem⟩
      · rintro tr s' e ⟨kp, heq⟩
        exact .rearmed (hr _ _) (by simp [heq]) (by simp [heq]) (by simp)
    · intro e
      exact .rearmed (hr _ _) (by simp) (by simp) (by simp)
  · intro e herr
    exact .nothing rfl (by simp [Performed.IsAuthenticate, hc]) (by simp [Performed.Rearms, herr])
      (by simp [Performed.Completes]) (by simp [ReachedAuth, hc])

theorem handshakeOverKey_spec (keypair : EcKeyPair) (params : Params) (s : Frame)
    (tr : List (Event Tee)) :
    wpP (fun _ _ => True) (handshakeOverKey keypair params)
      (fun _ s' _ => s'.sess.sessionKeyValid = true ∧
        s'.sess.sensorAuthenticated = s.sess.sensorAuthenticated)
      (fun _ s' _ => s'.sess = s.sess) s tr := by
  have fails : ∀ (tr' : List (Event Tee)) (s' : Frame) (_ : TeeError), tr <+: tr' → id s' = id s →
      s'.sess = s.sess := by
    intro _ s' _ _ heq
    exact congrArg Frame.sess heq
  simp only [handshakeOverKey]
  apply (readPublicPoint_keeps keypair).bind _ fails
  intro tr₁ s₁ devicePub h₁ heq₁
  cases heq₁
  apply (authenticateServer_keeps _ _ devicePub).bind
  · intro tr₂ s₂ _ h₂ heq₂
    cases heq₂
    apply (deriveSessionKey_keeps keypair _).bind
    · intro tr₃ s₃ key h₃ heq₃
      cases heq₃
      exact ⟨rfl, rfl⟩
    · intro tr₃ s₃ e h₃ heq₃
      exact congrArg Frame.sess heq₃
  · intro tr₂ s₂ e h₂ heq₂
    exact congrArg Frame.sess heq₂

theorem taHandshakeComplete_effect (hc : Command.ofId inv.cmdId = some .handshakeComplete) :
    HasEffect inv sess (taHandshakeComplete inv.paramTypes) := by
  have refused : ∀ (tr : List (Event Tee)) (e : TeeError),
      (∀ b, Event.did (S := Tee) (.hostRead 2 0 1) b ∉ tr) → Effect ⟨inv, tr, .error e⟩ sess sess := by
    intro tr e hno
    refine .nothing rfl (by simp [Performed.IsAuthenticate, hc]) (by simp [Performed.Rearms, hc])
      (by simp [Performed.Completes]) ?_
    rintro ⟨_, b, hb⟩
    exact hno b hb
  simp only [HasEffect, taHandshakeComplete, wpP_bind, wpP_get, wpP_ofOutcome, wpP_hostRead,
    wpP_ite, wpP_throw, wpP_cleanup, true_and]
  constructor
  · intro keypair hok tag
    have hlive : sess.ecdhKeypair = some keypair := (handshakeParamsOk_eq_ok.mp hok).2.1
    constructor
    · intro _
      exact refused _ _ (by simp)
    · intro _
      refine wpP_conseq (handshakeOverKey_spec keypair inv.params _ _) ?_ ?_
      · rintro tr s' _ ⟨hv, hs⟩
        exact .consumed hc (by simp [hlive]) (by simp) (by simp [hs]) (by simp [hv])
      · intro tr s' e heq
        exact .consumed hc (by simp [hlive]) (by simp) (by simp [heq]) (by simp [heq])
  · intro e _
    exact refused [] e (by simp)

variable (inv sess) in
/-- **What a finished invocation can have done**, whatever the command and however it ended. -/
theorem invoke_effect : HasEffect inv sess (taInvokeCommand inv.cmdId inv.paramTypes) := by
  unfold taInvokeCommand
  cases hc : Command.ofId inv.cmdId with
  | none => exact .of_other rfl (by simp [hc]) (by simp [hc]) (by simp [hc])
  | some cmd =>
    cases cmd with
    | authenticateSensor => exact taAuthenticateSensor_effect hc
    | readAndProtect =>
      exact hasEffect_of_keeps (taReadAndProtect_keeps _) (by simp [hc]) (by simp [hc])
        (by simp [hc])
    | generateAttestationEvidence => exact taGenerateAttestationEvidence_effect hc
    | handshakeComplete => exact taHandshakeComplete_effect hc
    | provisionSensorSecret =>
      exact hasEffect_of_keeps (taProvisionSensorSecret_keeps _) (by simp [hc]) (by simp [hc])
        (by simp [hc])
    | generateTaIdentity =>
      exact hasEffect_of_keeps ((taGenerateTaIdentity_keeps _).comp Session.gateFields)
        (by simp [hc]) (by simp [hc]) (by simp [hc])

end

theorem Performed.effect {p : Performed} {sess : Session} {frame : Frame}
    (runs : Runs (p.toInvocation.program sess) p.trace (p.result, frame)) :
    Effect p sess frame.sess := by
  have h := wp_runs runs (invoke_effect p.toInvocation sess)
  obtain ⟨inv, tr, result⟩ := p
  cases result with
  | ok u => exact h
  | error e => exact h

/-! ## The invariant -/

/-- The most recent AUTHENTICATE_SENSOR returned `TEE_SUCCESS`. -/
def SensorVouched (hist : List Performed) : Prop :=
  LastWith Performed.IsAuthenticate (fun p _ => p.result = .ok ()) hist

/-- Some HANDSHAKE_COMPLETE returned `TEE_SUCCESS` after the most recent
GENERATE_ATTESTATION_EVIDENCE that passed its parameter checks. -/
def Keyed (hist : List Performed) : Prop :=
  LastWith Performed.Rearms (fun _ post => ∃ p ∈ post, p.Completes) hist

/-- The most recent GENERATE_ATTESTATION_EVIDENCE that passed its parameter checks generated
`kp`, and no HANDSHAKE_COMPLETE has reached server authentication since. -/
def Armed (kp : EcKeyPair) (hist : List Performed) : Prop :=
  LastWith Performed.Rearms
    (fun p post => p.Mints kp ∧ ∀ q ∈ post, ¬ ReachedAuth q.cmdId q.trace) hist

theorem sensorVouched_snoc {hist : List Performed} {p : Performed} :
    SensorVouched (hist ++ [p]) ↔
      (p.IsAuthenticate ∧ p.result = .ok ()) ∨ (¬ p.IsAuthenticate ∧ SensorVouched hist) :=
  lastWith_snoc

theorem keyed_snoc {hist : List Performed} {p : Performed} :
    Keyed (hist ++ [p]) ↔ ¬ p.Rearms ∧ (Keyed hist ∨
      (p.Completes ∧ LastWith Performed.Rearms (fun _ _ => True) hist)) :=
  lastWith_snoc_exists

/-- A keypair minted now is armed; one minted earlier stays armed until it is minted over or
spent. -/
theorem armed_of_mints {hist : List Performed} {p : Performed} {kp : EcKeyPair}
    (h : p.Mints kp) : Armed kp (hist ++ [p]) :=
  lastWith_snoc.mpr (Or.inl ⟨h.1, h, by simp⟩)

theorem Armed.snoc {hist : List Performed} {p : Performed} {kp : EcKeyPair} (h : Armed kp hist)
    (hr : ¬ p.Rearms) (ha : ¬ ReachedAuth p.cmdId p.trace) : Armed kp (hist ++ [p]) := by
  refine lastWith_snoc.mpr (Or.inr ⟨hr, LastWith.mono h ?_⟩)
  intro x post ⟨hmints, hpost⟩
  refine ⟨hmints, ?_⟩
  intro q hq
  rcases List.mem_append.mp hq with hq | hq
  · exact hpost q hq
  · obtain rfl := List.mem_singleton.mp hq
    exact ha

structure GateInv (hist : List Performed) (sess : Session) : Prop where
  sensor : sess.sensorAuthenticated = true ↔ SensorVouched hist
  keyed : sess.sessionKeyValid = true ↔ Keyed hist
  armed : ∀ kp, sess.ecdhKeypair = some kp → Armed kp hist
  exclusive : sess.ecdhKeypair.isSome → sess.sessionKeyValid = false

theorem gateInv_opened : GateInv [] Session.fresh where
  sensor := by simp [Session.fresh, SensorVouched, not_lastWith_nil]
  keyed := by simp [Session.fresh, Keyed, not_lastWith_nil]
  armed := by simp [Session.fresh]
  exclusive := by simp [Session.fresh]

/-- One finished invocation keeps the invariant; the cases are the four effects. -/
theorem GateInv.step {hist : List Performed} {sess sess' : Session} {p : Performed}
    (hi : GateInv hist sess) (he : Effect p sess sess') : GateInv (hist ++ [p]) sess' := by
  cases he with
  | verdict cmd keypair keyValid sensor =>
    have hr : ¬ p.Rearms := by
      intro hr
      simp [Performed.IsAuthenticate, hr.1] at cmd
    have hc : ¬ p.Completes := by
      intro hc
      simp [Performed.IsAuthenticate, hc.1] at cmd
    have ha : ¬ ReachedAuth p.cmdId p.trace := by
      intro ha
      simp [Performed.IsAuthenticate, ha.1] at cmd
    refine ⟨?_, ?_, ?_, ?_⟩
    · simp [sensorVouched_snoc, cmd, sensor]
    · rw [keyValid, hi.keyed]
      simp [keyed_snoc, hr, hc]
    · intro kp hkp
      exact (hi.armed kp (keypair ▸ hkp)).snoc hr ha
    · rw [keypair, keyValid]
      exact hi.exclusive
  | rearmed cmd keyValid sensor keypair =>
    have hs : ¬ p.IsAuthenticate := by
      simp [Performed.IsAuthenticate, cmd.1]
    refine ⟨?_, ?_, ?_, ?_⟩
    · rw [sensor, hi.sensor]
      simp [sensorVouched_snoc, hs]
    · simp [keyValid, keyed_snoc, cmd]
    · intro kp hkp
      exact armed_of_mints (keypair kp hkp)
    · intro _
      exact keyValid
  | consumed cmd live keypair sensor keyValid =>
    have hs : ¬ p.IsAuthenticate := by
      simp [Performed.IsAuthenticate, cmd]
    have hr : ¬ p.Rearms := by
      intro hr
      simp [hr.1] at cmd
    -- the keypair it consumed was minted by some earlier evidence
    have hminted : LastWith Performed.Rearms (fun _ _ => True) hist := by
      obtain ⟨kp, hkp⟩ := Option.isSome_iff_exists.mp live
      exact (hi.armed kp hkp).mono fun _ _ _ => trivial
    refine ⟨?_, ?_, ?_, ?_⟩
    · rw [sensor, hi.sensor]
      simp [sensorVouched_snoc, hs]
    · rw [keyValid, hi.keyed]
      simp [keyed_snoc, hr, hminted, Performed.Completes, cmd, or_comm]
    · simp [keypair]
    · simp [keypair]
  | nothing same notSensor notRearm notComplete notAuth =>
    simp only [Session.gateFields, Prod.mk.injEq] at same
    obtain ⟨keypair, keyValid, sensor⟩ := same
    refine ⟨?_, ?_, ?_, ?_⟩
    · rw [sensor, hi.sensor]
      simp [sensorVouched_snoc, notSensor]
    · rw [keyValid, hi.keyed]
      simp [keyed_snoc, notRearm, notComplete]
    · intro kp hkp
      exact (hi.armed kp (keypair ▸ hkp)).snoc notRearm notAuth
    · rw [keypair, keyValid]
      exact hi.exclusive

/-- The invariant holds after every run of a session. -/
theorem SessionRun.gateInv {hist : List Performed} {sess : Session} (run : SessionRun hist sess) :
    GateInv hist sess :=
  run.invariant gateInv_opened fun _ _ _ _ _ hi runs => hi.step (Performed.effect runs)

/-! ## The gates -/

/-- READ_AND_PROTECT, called with the right parameter types, gets past its two state checks:
what it does is what follows them. -/
def PassesGates (sess : Session) : Prop :=
  ∀ params, (taReadAndProtect readAndProtectTypes).go ⟨sess, params⟩ =
    (readAndProtectOpen params).go ⟨sess, params⟩

/-- Where the gates are closed the command makes no call at all. -/
theorem taReadAndProtect_refused {sess : Session}
    (h : ¬ (sess.sensorAuthenticated = true ∧ sess.sessionKeyValid = true)) (params : Params) :
    (taReadAndProtect readAndProtectTypes).go ⟨sess, params⟩ =
      .ret (.error .badState, ⟨sess, params⟩) := by
  obtain ⟨keypair, key, keyValid, sensor, seq, reading, pta⟩ := sess
  cases sensor with
  | false => rfl
  | true =>
    cases keyValid with
    | false => rfl
    | true => exact absurd ⟨rfl, rfl⟩ h

theorem passesGates_iff (sess : Session) :
    PassesGates sess ↔ sess.sensorAuthenticated = true ∧ sess.sessionKeyValid = true := by
  constructor
  · intro h
    by_contra hclosed
    -- with a nonce buffer too small, the code behind the gates has its own, different error
    have hret := taReadAndProtect_refused hclosed fun _ => ⟨0, 0, 0⟩
    rw [h] at hret
    cases hret
  · intro ⟨hs, hv⟩ params
    obtain ⟨keypair, key, keyValid, sensor, seq, reading, pta⟩ := sess
    cases hs
    cases hv
    rfl

/-- A HANDSHAKE_COMPLETE that has reached server authentication, finished or not, is working
with the session's live keypair. -/
theorem live_of_reachedAuth {inv : Invocation} {sess : Session} {tr : List (Event Tee)}
    {rest : Prog Tee (Except TeeError Unit × Frame)} (steps : Steps (inv.program sess) tr rest)
    (ha : ReachedAuth inv.cmdId tr) : ∃ kp, sess.ecdhKeypair = some kp := by
  obtain ⟨hc, b, hmem⟩ := ha
  cases hok : handshakeParamsOk inv.paramTypes inv.params sess.ecdhKeypair with
  | ok kp => exact ⟨kp, (handshakeParamsOk_eq_ok.mp hok).2.1⟩
  | error e =>
    have silent : wpP (fun _ _ => False) (taInvokeCommand inv.cmdId inv.paramTypes)
        (fun _ _ _ => True) (fun _ _ _ => True) ⟨sess, inv.params⟩ [] := by
      simp [taInvokeCommand, hc, taHandshakeComplete, hok]
    obtain ⟨pre, post, rfl⟩ := List.append_of_mem hmem
    exact (wp_asserts_mem steps silent).elim

/-- **The data-path gates are decided by the command history alone.** After every run of a
session: READ_AND_PROTECT gets past its state checks exactly when the last sensor
authentication succeeded and a handshake has completed since the last rearming; a live
ephemeral keypair means no valid session key; and a HANDSHAKE_COMPLETE that reaches server
authentication, finished or not, is the first to do so with the keypair it holds. -/
theorem gates_decided_by_history {hist : List Performed} {sess : Session}
    (run : SessionRun hist sess) :
    (PassesGates sess ↔ SensorVouched hist ∧ Keyed hist) ∧
    (∀ kp, sess.ecdhKeypair = some kp → sess.sessionKeyValid = false) ∧
    (∀ (inv : Invocation) tr rest, Steps (inv.program sess) tr rest → ReachedAuth inv.cmdId tr →
      ∃ kp, sess.ecdhKeypair = some kp ∧ Armed kp hist) := by
  have hi := run.gateInv
  refine ⟨?_, ?_, ?_⟩
  · rw [passesGates_iff, hi.sensor, hi.keyed]
  · intro kp hkp
    exact hi.exclusive (by simp [hkp])
  · intro inv tr rest steps ha
    obtain ⟨kp, hkp⟩ := live_of_reachedAuth steps ha
    exact ⟨kp, hkp, hi.armed kp hkp⟩

/-- At the end of a played session with all three commands. -/
theorem gates_decided_by_history_played :
    SensorVouched (play Vectors.provisionedSession).1 ∧
      Keyed (play Vectors.provisionedSession).1 := by
  have hopen : PassesGates (play Vectors.provisionedSession).2 :=
    (passesGates_iff _).mpr (by decide +kernel)
  exact (gates_decided_by_history (session_play Vectors.provisionedSession)).1.mp hopen

end ConfidentialIoT
