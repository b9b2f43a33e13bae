import ConfidentialIoT.TrustedApp.Gates
import ConfidentialIoT.TrustedApp.SealNonce

/-!
# `TrustedApp/Sequence.lean` — sequence numbers are gapless and unique per key

`sess->send_seq` is written by two commands: a successful HANDSHAKE_COMPLETE sets it to 0, and a
successful READ_AND_PROTECT commits one more. `SeqEffect` says that of every finished invocation,
with what a successful READ_AND_PROTECT returns and authenticates; the counter is then the number
of successful READ_AND_PROTECTs since the last successful HANDSHAKE_COMPLETE, and everything the
protocol needs of it is read off that.
-/

set_option autoImplicit false

namespace ConfidentialIoT

open Effects

/-- The largest number a session seals under. -/
abbrev maxSendSeq : Nat := 0xffffffff

/-- The AAD a call hands to `TEE_AEUpdateAAD`. -/
def sealAad : Call Tee → Option Bytes
  | .req (.aeEncryptFinal _ _ aad _ _) => some aad
  | _ => none

@[simp] theorem sealAad_req (r : TeeReq) : sealAad (.req r) =
    match r with | .aeEncryptFinal _ _ aad _ _ => some aad | _ => none := by
  cases r <;> rfl

@[simp] theorem sealAad_act (a : TeeAct) : sealAad (.act a) = none := by
  cases a <;> rfl

/-- The AADs of a call's seals, refused ones included. -/
def sealedAads (tr : List (Event Tee)) : List Bytes := tr.filterMap fun ev => sealAad ev.call

@[simp] theorem sealedAads_nil : sealedAads [] = [] := rfl

@[simp] theorem sealedAads_append (tr tr' : List (Event Tee)) :
    sealedAads (tr ++ tr') = sealedAads tr ++ sealedAads tr' := List.filterMap_append ..

@[simp] theorem sealedAads_cons (ev : Event Tee) (tr : List (Event Tee)) :
    sealedAads (ev :: tr) = (sealAad ev.call).toList ++ sealedAads tr := by
  unfold sealedAads
  cases h : sealAad ev.call <;> simp [h]

/-! ## One invocation -/

section

variable {sess : Session} {params : Params} {s : Frame} {tr : List (Event Tee)}

theorem readSensorReading_seq (s : Frame) (h : sealedAads tr = []) :
    wpP (fun _ _ => True) readSensorReading
      (fun tr' s' _ => sealedAads tr' = [] ∧ s'.sess.sendSeq = s.sess.sendSeq)
      (fun tr' s' _ => sealedAads tr' = [] ∧ s'.sess.sendSeq = s.sess.sendSeq) s tr := by
  simp [readSensorReading, openSensorPta, h, Event.call]

/-- The seal: the counter and the returned value are committed together, at the very end. -/
theorem sealReading_seq (outSize : Nat) (seq : UInt64) (s : Frame) (h : sealedAads tr = []) :
    wpP (fun _ _ => True) (sealReading outSize seq)
      (fun tr' s' _ => sealedAads tr' = [seqAad seq] ∧ s'.sess.sendSeq = seq ∧
        (s'.params 2).a = seq.toUInt32)
      (fun _ s' _ => s'.sess.sendSeq = s.sess.sendSeq) s tr := by
  simp [sealReading, h, Event.call, Frame.setValue]

/-- What READ_AND_PROTECT does to the counter. -/
theorem taReadAndProtect_seq (paramTypes : UInt32) (sess : Session) (params : Params) :
    wpP (fun _ _ => True) (taReadAndProtect paramTypes)
      (fun tr' s' _ => sess.sessionKeyValid = true ∧ sess.sendSeq < 0xffffffff ∧
        s'.sess.sendSeq = sess.sendSeq + 1 ∧ (s'.params 2).a = (sess.sendSeq + 1).toUInt32 ∧
        sealedAads tr' = [seqAad (sess.sendSeq + 1)])
      (fun tr' s' _ => s'.sess.sendSeq = sess.sendSeq ∧
        (sess.sendSeq ≥ 0xffffffff → sealedAads tr' = [])) ⟨sess, params⟩ [] := by
  simp only [taReadAndProtect, readAndProtectGates, readAndProtectOpen, wpP_bind, wpP_get,
    wpP_ite, wpP_throw, wpP_pure, sealedAads_nil, implies_true, and_true, true_and]
  intro _ _ hvalid _
  refine wpP_conseq (readSensorReading_seq _ rfl) ?_ ?_
  · rintro tr₁ s₁ _ ⟨hnone, hseq⟩
    refine ⟨fun _ => ⟨hseq, fun _ => hnone⟩, ?_⟩
    intro _
    refine ⟨fun _ => ⟨hseq, fun _ => hnone⟩, ?_⟩
    intro hlt
    rw [hseq] at hlt ⊢
    have hlt' : sess.sendSeq < 0xffffffff := UInt64.not_le.mp hlt
    refine wpP_conseq (sealReading_seq _ _ s₁ hnone) ?_ ?_
    · rintro tr₂ s₂ _ ⟨haads, hseq₂, ha⟩
      exact ⟨by simpa using hvalid, hlt', hseq₂, ha, haads⟩
    · intro tr₂ s₂ _ hseq₂
      exact ⟨hseq₂.trans hseq, fun hge => absurd hge hlt⟩
  · rintro tr₁ s₁ _ ⟨hnone, hseq⟩
    exact ⟨hseq, fun _ => hnone⟩

/-- What HANDSHAKE_COMPLETE does to it. -/
theorem taHandshakeComplete_seq (paramTypes : UInt32) (sess : Session) (params : Params) :
    wpP (fun _ _ => True) (taHandshakeComplete paramTypes)
      (fun _ s' _ => s'.sess.sendSeq = 0)
      (fun _ s' _ => s'.sess.sendSeq = sess.sendSeq) ⟨sess, params⟩ [] := by
  have fails : ∀ (keypair : EcKeyPair) (s : Frame) (tr : List (Event Tee)),
      wpP (fun _ _ => True) (handshakeOverKey keypair params)
        (fun _ s' _ => s'.sess.sendSeq = 0) (fun _ s' _ => s'.sess = s.sess) s tr := by
    intro keypair s tr
    have hkeep : ∀ (tr' : List (Event Tee)) (s' : Frame) (_ : TeeError), tr <+: tr' → id s' = id s →
        s'.sess = s.sess := by
      intro _ s' _ _ heq
      exact congrArg Frame.sess heq
    simp only [handshakeOverKey]
    apply (readPublicPoint_keeps keypair).bind _ hkeep
    intro tr₁ s₁ devicePub h₁ heq₁
    cases heq₁
    apply (authenticateServer_keeps _ _ devicePub).bind
    · intro tr₂ s₂ _ h₂ heq₂
      cases heq₂
      apply (deriveSessionKey_keeps keypair _).bind
      · intro tr₃ s₃ key h₃ heq₃
        rfl
      · intro tr₃ s₃ e h₃ heq₃
        exact congrArg Frame.sess heq₃
    · intro tr₂ s₂ e h₂ heq₂
      exact congrArg Frame.sess heq₂
  simp only [taHandshakeComplete, wpP_bind, wpP_get, wpP_ofOutcome, wpP_hostRead, wpP_ite,
    wpP_throw, wpP_cleanup, implies_true, true_and, and_true]
  intro keypair _ tag _
  refine wpP_conseq (fails keypair _ _) ?_ ?_
  · intro _ s' _ hzero
    exact hzero
  · intro _ s' _ heq
    show s'.sess.sendSeq = sess.sendSeq
    rw [heq]

/-- The other commands do not touch the counter. -/
theorem taInvokeCommand_seq_kept {cmdId : UInt32} (paramTypes : UInt32)
    (h₁ : Command.ofId cmdId ≠ some .readAndProtect)
    (h₄ : Command.ofId cmdId ≠ some .handshakeComplete) (s : Frame) :
    wpP (fun _ _ => True) (taInvokeCommand cmdId paramTypes)
      (fun _ s' _ => s'.sess.sendSeq = s.sess.sendSeq)
      (fun _ s' _ => s'.sess.sendSeq = s.sess.sendSeq) s [] := by
  unfold taInvokeCommand
  cases hcmd : Command.ofId cmdId with
  | none => exact rfl
  | some cmd =>
    cases cmd with
    | readAndProtect => exact absurd hcmd h₁
    | handshakeComplete => exact absurd hcmd h₄
    | authenticateSensor =>
      simp [taAuthenticateSensor, readSensorSecret, openSensorPta]
    | provisionSensorSecret =>
      simp [taProvisionSensorSecret, fetchSensorSecret, openSensorPta]
    | generateTaIdentity =>
      exact (taGenerateTaIdentity_keeps paramTypes).comp Session.sendSeq s []
    | generateAttestationEvidence =>
      simp only [taGenerateAttestationEvidence, evidenceOverFreshKey, wpP_bind, wpP_get,
        wpP_ofOutcome, wpP_hostRead, wpP_modify, wpP_tee, wpP_onError, true_and,
        Frame.onSess_sess, implies_true, and_true]
      intro _ _ _ _ _ keypair
      exact (evidenceFor_keeps keypair _ _).comp Session.sendSeq _ _

end

/-- What a finished invocation did to the counter. -/
inductive SeqEffect (p : Performed) (s : Session) (f : Frame) : Prop where
  | sealed (cmd : p.Protects) (valid : s.sessionKeyValid = true) (below : s.sendSeq < 0xffffffff)
      (advanced : f.sess.sendSeq = s.sendSeq + 1)
      (returned : (f.params 2).a = (s.sendSeq + 1).toUInt32)
      (aad : sealedAads p.trace = [seqAad (s.sendSeq + 1)])
  | rekeyed (cmd : p.Completes) (reset : f.sess.sendSeq = 0)
  | kept (notSealed : ¬ p.Protects) (notRekeyed : ¬ p.Completes)
      (same : f.sess.sendSeq = s.sendSeq)
      (spent : Command.ofId p.cmdId = some .readAndProtect → s.sendSeq ≥ 0xffffffff →
        sealedAads p.trace = [])

theorem Performed.seqEffect {p : Performed} {sess : Session} {frame : Frame}
    (runs : Runs (p.toInvocation.program sess) p.trace (p.result, frame)) :
    SeqEffect p sess frame := by
  obtain ⟨inv, tr, result⟩ := p
  by_cases h₁ : Command.ofId inv.cmdId = some .readAndProtect
  · have hspec := taReadAndProtect_seq inv.paramTypes sess inv.params
    simp only [Invocation.program, taInvokeCommand, h₁] at runs
    have hpost := wp_runs runs hspec
    cases result with
    | ok u =>
      obtain ⟨hvalid, hlt, hseq, hret, haad⟩ := hpost
      exact .sealed ⟨h₁, rfl⟩ hvalid hlt hseq hret haad
    | error e =>
      obtain ⟨hsame, hspent⟩ := hpost
      exact .kept (by rintro ⟨_, ⟨⟩⟩) (by rintro ⟨_, ⟨⟩⟩) hsame fun _ => hspent
  · by_cases h₄ : Command.ofId inv.cmdId = some .handshakeComplete
    · have hspec := taHandshakeComplete_seq inv.paramTypes sess inv.params
      simp only [Invocation.program, taInvokeCommand, h₄] at runs
      have hpost := wp_runs runs hspec
      cases result with
      | ok u => exact .rekeyed ⟨h₄, rfl⟩ hpost
      | error e =>
        exact .kept (by rintro ⟨_, ⟨⟩⟩) (by rintro ⟨_, ⟨⟩⟩) hpost fun h => absurd h h₁
    · have hspec := taInvokeCommand_seq_kept inv.paramTypes h₁ h₄ ⟨sess, inv.params⟩
      have hpost := wp_runs runs hspec
      have hsame : frame.sess.sendSeq = sess.sendSeq := by
        cases result with
        | ok u => exact hpost
        | error e => exact hpost
      exact .kept (fun h => h₁ h.1) (fun h => h₄ h.1) hsame fun h => absurd h h₁

/-! ## Runs -/

instance (p : Performed) : Decidable p.Protects :=
  inferInstanceAs (Decidable (Command.ofId p.cmdId = some .readAndProtect ∧ p.result = .ok ()))

instance (p : Performed) : Decidable p.Completes :=
  inferInstanceAs (Decidable (Command.ofId p.cmdId = some .handshakeComplete ∧ p.result = .ok ()))

/-- The successful READ_AND_PROTECTs since the last successful HANDSHAKE_COMPLETE. -/
def sealsUnderKey (hist : List Performed) : Nat :=
  hist.foldl (fun n p => if p.Completes then 0 else if p.Protects then n + 1 else n) 0

theorem sealsUnderKey_snoc (hist : List Performed) (p : Performed) :
    sealsUnderKey (hist ++ [p]) = if p.Completes then 0
      else if p.Protects then sealsUnderKey hist + 1 else sealsUnderKey hist := by
  rw [sealsUnderKey, List.foldl_append]
  rfl

/-- Below the maximum, one more is one more. -/
theorem toNat_succ_seq {seq : UInt64} (h : seq < 0xffffffff) : (seq + 1).toNat = seq.toNat + 1 := by
  have hlt : seq.toNat < 0xffffffff := UInt64.lt_iff_toNat_lt.mp h
  rw [UInt64.toNat_add]
  show (seq.toNat + 1) % 18446744073709551616 = seq.toNat + 1
  omega

/-- The counter counts, and stays within 32 bits. -/
def SeqInv (hist : List Performed) (sess : Session) : Prop :=
  sess.sendSeq.toNat = sealsUnderKey hist ∧ sealsUnderKey hist ≤ maxSendSeq

theorem SeqInv.step {hist : List Performed} {sess : Session} {p : Performed} {frame : Frame}
    (hi : SeqInv hist sess) (he : SeqEffect p sess frame) : SeqInv (hist ++ [p]) frame.sess := by
  obtain ⟨hcount, hle⟩ := hi
  unfold SeqInv
  rw [sealsUnderKey_snoc]
  cases he with
  | sealed cmd _ below advanced _ _ =>
    have hc : ¬ p.Completes := by
      intro hc
      have := hc.1.symm.trans cmd.1
      cases this
    have hlt : sess.sendSeq.toNat < maxSendSeq := UInt64.lt_iff_toNat_lt.mp below
    rw [if_neg hc, if_pos cmd, advanced, toNat_succ_seq below]
    omega
  | rekeyed cmd reset =>
    rw [if_pos cmd, reset]
    exact ⟨rfl, Nat.zero_le _⟩
  | kept notSealed notRekeyed same _ =>
    rw [if_neg notRekeyed, if_neg notSealed, same]
    exact ⟨hcount, hle⟩

theorem SessionRun.seqInv {hist : List Performed} {sess : Session} (run : SessionRun hist sess) :
    SeqInv hist sess :=
  run.invariant (I := SeqInv) ⟨rfl, Nat.zero_le _⟩ fun _ _ _ _ _ hi runs =>
    hi.step (Performed.seqEffect runs)

/-- A valid session key was derived by some HANDSHAKE_COMPLETE of the history. -/
theorem Keyed.completed {hist : List Performed} (h : Keyed hist) : ∃ p ∈ hist, p.Completes := by
  obtain ⟨pre, x, post, rfl, _, _, p, hp, hc⟩ := h
  exact ⟨p, by simp [hp], hc⟩

/-- The number a seal returns is its counter's, and the one in its AAD. -/
theorem SeqEffect.returned_seq {p : Performed} {sess : Session} {frame : Frame}
    (h : SeqEffect p sess frame) (hp : p.Protects) :
    (frame.params 2).a.toNat = sess.sendSeq.toNat + 1 ∧
      sealedAads p.trace = [Bytes.toBE seqAadSize (frame.params 2).a.toNat] := by
  cases h with
  | kept notSealed _ _ _ => exact absurd hp notSealed
  | rekeyed cmd _ => exact nomatch cmd.1.symm.trans hp.1
  | sealed _ _ below _ returned aad =>
    have hlt : sess.sendSeq.toNat < 0xffffffff := UInt64.lt_iff_toNat_lt.mp below
    have hsucc := toNat_succ_seq below
    have hret : (frame.params 2).a.toNat = sess.sendSeq.toNat + 1 := by
      rw [returned, UInt64.toNat_toUInt32, hsucc]
      omega
    refine ⟨hret, ?_⟩
    rw [aad, seqAad, hsucc, hret]

/-- **Sequence numbers are gapless and unique per key.** In every run of a session, whatever the
TEE refuses, and for whatever is invoked next:

* the counter is the number of successful READ_AND_PROTECTs since the last successful
  HANDSHAKE_COMPLETE, and at most `2^32 - 1`;
* a READ_AND_PROTECT that succeeds does so after some HANDSHAKE_COMPLETE has, returns that number
  plus one, and seals once, with the eight big-endian bytes of the returned number as AAD: so
  since the last HANDSHAKE_COMPLETE the returned values are 1, 2, 3, …;
* an invocation that fails leaves the counter as it was;
* at `2^32 - 1` a READ_AND_PROTECT fails and seals nothing. -/
theorem sequence_gapless {hist : List Performed} {sess : Session} (run : SessionRun hist sess) :
    sess.sendSeq.toNat = sealsUnderKey hist ∧ sealsUnderKey hist ≤ maxSendSeq ∧
    ∀ (p : Performed) frame, Runs (p.toInvocation.program sess) p.trace (p.result, frame) →
      (p.Protects → (∃ q ∈ hist, q.Completes) ∧
        (frame.params 2).a.toNat = sealsUnderKey hist + 1 ∧
        sealedAads p.trace = [Bytes.toBE 8 (frame.params 2).a.toNat]) ∧
      (p.result ≠ .ok () → frame.sess.sendSeq = sess.sendSeq) ∧
      (Command.ofId p.cmdId = some .readAndProtect → sealsUnderKey hist = maxSendSeq →
        p.result ≠ .ok () ∧ sealedAads p.trace = []) := by
  obtain ⟨hcount, hle⟩ := run.seqInv
  refine ⟨hcount, hle, ?_⟩
  intro p frame runs
  have he := Performed.seqEffect runs
  refine ⟨?_, ?_, ?_⟩
  · intro hp
    obtain ⟨hret, haad⟩ := he.returned_seq hp
    rw [hcount] at hret
    cases he with
    | kept notSealed _ _ _ => exact absurd hp notSealed
    | rekeyed cmd _ => exact nomatch cmd.1.symm.trans hp.1
    | sealed _ valid _ _ _ _ => exact ⟨(run.gateInv.keyed.mp valid).completed, hret, haad⟩
  · intro hfail
    cases he with
    | kept _ _ same _ => exact same
    | rekeyed cmd _ => exact absurd cmd.2 hfail
    | sealed cmd _ _ _ _ _ => exact absurd cmd.2 hfail
  · intro hc hmax
    have hge : sess.sendSeq ≥ 0xffffffff := by
      apply UInt64.le_iff_toNat_le.mpr
      rw [hcount, hmax]
      exact Nat.le_refl _
    cases he with
    | kept notSealed _ _ spent => exact ⟨fun hok => notSealed ⟨hc, hok⟩, spent hc hge⟩
    | rekeyed cmd _ => exact nomatch cmd.1.symm.trans hc
    | sealed _ _ below _ _ _ => exact absurd hge (UInt64.not_le.mpr below)

namespace Vectors

/-- One reading sealed, and the next one about to be. -/
def oneSealed : List (Invocation × Bench) :=
  provisionedSession ++ [(protect, protectBench firstReading firstDraw firstDraw)]

/-- The next one. -/
def nextSeal : Bench := protectBench secondReading secondDraw secondDraw

end Vectors

/-- The second reading of a played session is number 2, and its AAD says so. -/
theorem sequence_gapless_played :
    ∃ tr frame, Runs (Vectors.protect.program (play Vectors.oneSealed).2) tr (.ok (), frame) ∧
      (frame.params 2).a.toNat = 2 ∧ sealedAads tr = [[0, 0, 0, 0, 0, 0, 0, 2]] := by
  have hok : (execution Vectors.nextSeal Vectors.protect (play Vectors.oneSealed).2).2.1 = .ok () := by
    decide +kernel
  have hcount : sealsUnderKey (play Vectors.oneSealed).1 = 1 := by decide +kernel
  have hruns := execution_runs hok
  have hlaws := (sequence_gapless (session_play Vectors.oneSealed)).2.2
    ⟨Vectors.protect, _, .ok ()⟩ _ hruns
  obtain ⟨-, hret, haad⟩ := hlaws.1 ⟨rfl, rfl⟩
  rw [hcount] at hret
  rw [hret] at haad
  exact ⟨_, _, hruns, hret, haad⟩

end ConfidentialIoT
