import Mathlib.Data.List.Nodup
import ConfidentialIoT.TrustedApp.Scripted

/-!
# `TrustedApp/SealNonce.lean` — the nonce of a seal passes through the Host's memory

`ta_read_and_protect` draws the GCM nonce straight into `params[0]` and hands `TEE_AEInit` that
same buffer. The comment above it counts on "the random 96-bit nonce"; what the seal starts with
is whatever the buffer holds by then.

So a seal starts with the drawn nonce exactly when the buffer was left alone in between, and a
run in which every call's was never seals twice with one nonce (`nonce_is_drawn_iff`). A Host
that writes the same twelve bytes over every draw gets two readings sealed under one key and one
nonce (`nonce_is_reused`).
-/

set_option autoImplicit false

namespace ConfidentialIoT

open Effects

/-! ## Draws, reads and seals -/

/-- The nonces drawn: random values of a nonce's length. -/
def drawnNonces (tr : List (Event Tee)) : List Bytes := tr.filterMap fun
  | .did (.generateRandom len) b => if len = 12 then some b.1 else none
  | _ => none

/-- What the nonce's buffer held each time it was read as one. -/
def heldNonces (tr : List (Event Tee)) : List Bytes := tr.filterMap fun
  | .did (.hostRead i off len) b => if i = 0 ∧ off = 0 ∧ len = 12 then some b.1 else none
  | _ => none

/-- The keys and nonces `TEE_AEInit` was called with. -/
def startedSeals (tr : List (Event Tee)) : List (Bytes × Bytes) := tr.filterMap fun ev =>
  match ev.call with
  | .req (.aeInit key nonce _ _ _) => some (key, nonce)
  | _ => none

/-- Every seal starts with the one nonce drawn in the same call. -/
def SealsWithDrawn (tr : List (Event Tee)) : Prop :=
  ∀ key nonce, (key, nonce) ∈ startedSeals tr → drawnNonces tr = [nonce]

/-- The Host leaves the nonce's buffer alone: what is read from it is what was drawn into it. -/
def NonceLeftAlone (tr : List (Event Tee)) : Prop :=
  ∀ drawn ∈ drawnNonces tr, ∀ held ∈ heldNonces tr, held = drawn

/-- It was READ_AND_PROTECT and it returned `TEE_SUCCESS`. -/
def Performed.Protects (p : Performed) : Prop :=
  Command.ofId p.cmdId = some .readAndProtect ∧ p.result = .ok ()

/-! ## One call seals at most once -/

/-- No nonce was drawn and no seal was started. -/
def Idle (tr : List (Event Tee)) : Prop := drawnNonces tr = [] ∧ startedSeals tr = []

/-- One nonce was drawn, one was read, and the seal under `key` started with the latter. -/
def OneSeal (key : Bytes) (tr : List (Event Tee)) : Prop :=
  ∃ drawn held, drawnNonces tr = [drawn] ∧ heldNonces tr = [held] ∧
    startedSeals tr = [(key, held)]

/-- What holds all along a call: a seal that has started is the only one. -/
def SealsOnce (key : Bytes) (tr : List (Event Tee)) : Prop :=
  startedSeals tr = [] ∨ OneSeal key tr

theorem OneSeal.withDrawn_iff {key : Bytes} {tr : List (Event Tee)} (h : OneSeal key tr) :
    SealsWithDrawn tr ↔ NonceLeftAlone tr := by
  obtain ⟨drawn, held, hdrawn, hheld, hstarted⟩ := h
  simp only [SealsWithDrawn, NonceLeftAlone, hdrawn, hheld, hstarted, List.mem_singleton,
    Prod.mk.injEq, List.cons.injEq, and_true, forall_eq]
  constructor
  · intro hall
    exact (hall key held ⟨rfl, rfl⟩).symm
  · intro heq key' nonce ⟨_, hnonce⟩
    rw [hnonce, heq]

theorem Idle.withDrawn_iff {tr : List (Event Tee)} (h : Idle tr) :
    SealsWithDrawn tr ↔ NonceLeftAlone tr := by
  simp [SealsWithDrawn, NonceLeftAlone, h.1, h.2]

theorem SealsOnce.withDrawn {key : Bytes} {tr : List (Event Tee)} (h : SealsOnce key tr)
    (kept : NonceLeftAlone tr) : SealsWithDrawn tr := by
  rcases h with hnone | hone
  · intro key' nonce hmem
    rw [hnone] at hmem
    cases hmem
  · exact hone.withDrawn_iff.mpr kept

section

variable {key : Bytes} {tr tr' : List (Event Tee)} {c : Call Tee}

@[simp] theorem drawnNonces_append :
    drawnNonces (tr ++ tr') = drawnNonces tr ++ drawnNonces tr' := List.filterMap_append ..

@[simp] theorem heldNonces_append :
    heldNonces (tr ++ tr') = heldNonces tr ++ heldNonces tr' := List.filterMap_append ..

@[simp] theorem startedSeals_append :
    startedSeals (tr ++ tr') = startedSeals tr ++ startedSeals tr' := List.filterMap_append ..

@[simp] theorem drawnNonces_nil : drawnNonces [] = [] := rfl
@[simp] theorem heldNonces_nil : heldNonces [] = [] := rfl
@[simp] theorem startedSeals_nil : startedSeals [] = [] := rfl

@[simp] theorem drawnNonces_cons (ev : Event Tee) : drawnNonces (ev :: tr) = (match ev with
    | .did (.generateRandom len) b => if len = 12 then [b.1] else []
    | _ => []) ++ drawnNonces tr := by
  cases ev with
  | did a b =>
    cases a with
    | generateRandom len => by_cases h : len = 12 <;> simp [drawnNonces, h]
    | _ => rfl
  | _ => rfl

@[simp] theorem heldNonces_cons (ev : Event Tee) : heldNonces (ev :: tr) = (match ev with
    | .did (.hostRead i off len) b => if i = 0 ∧ off = 0 ∧ len = 12 then [b.1] else []
    | _ => []) ++ heldNonces tr := by
  cases ev with
  | did a b =>
    cases a with
    | hostRead i off len => by_cases h : i = 0 ∧ off = 0 ∧ len = 12 <;> simp [heldNonces, h]
    | _ => rfl
  | _ => rfl

@[simp] theorem startedSeals_cons (ev : Event Tee) :
    startedSeals (ev :: tr) = (match ev.call with
      | .req (.aeInit key nonce _ _ _) => [(key, nonce)]
      | _ => []) ++ startedSeals tr := by
  cases ev with
  | did a b => rfl
  | ok r b => cases r <;> rfl
  | refused r e => cases r <;> rfl

/-! ### Calls that are neither a draw nor a start -/

def drawsOrSeals : Call Tee → Bool
  | .req (.aeInit _ _ _ _ _) => true
  | .act (.generateRandom len) => len = 12
  | _ => false

@[simp] theorem drawsOrSeals_req (r : TeeReq) :
    drawsOrSeals (.req r) = match r with | .aeInit _ _ _ _ _ => true | _ => false := by
  cases r <;> rfl

@[simp] theorem drawsOrSeals_act (a : TeeAct) :
    drawsOrSeals (.act a) = match a with | .generateRandom len => decide (len = 12) | _ => false := by
  cases a <;> rfl

theorem idle_of_silent (h : drawsOrSeals c = false) (r : c.Ans) : Idle [Event.of c r] := by
  cases c with
  | req q =>
    cases q with
    | aeInit _ _ _ _ _ => cases h
    | _ => cases r <;> exact ⟨rfl, rfl⟩
  | act a =>
    cases a with
    | generateRandom len =>
      have hlen : len ≠ 12 := by simpa using h
      exact ⟨by simp [Event.of, hlen], rfl⟩
    | _ => exact ⟨rfl, rfl⟩

/-- The assertion of a program that makes only such calls. -/
abbrev Silent (_ : List (Event Tee)) (c : Call Tee) : Prop := drawsOrSeals c = false

theorem idle_preserved (tr : List (Event Tee)) (c : Call Tee) (h : Silent tr c) :
    Preserves Idle tr c := by
  intro hidle r
  have hev := idle_of_silent h r
  exact ⟨by simp only [drawnNonces_append, hidle.1, hev.1, List.append_nil],
    by simp only [startedSeals_append, hidle.2, hev.2, List.append_nil]⟩

/-! ### `ta_read_and_protect`

It makes calls of three kinds: the draw, the read and the start of `sealReading`, and calls on
the TEE alone, which change none of the three lists. -/

/-- A request other than the start of a seal, or a write. -/
def plain : Call Tee → Bool
  | .req (.aeInit _ _ _ _ _) => false
  | .req _ => true
  | .act (.hostWrite _ _ _) => true
  | _ => false

@[simp] theorem plain_req (r : TeeReq) :
    plain (.req r) = match r with | .aeInit _ _ _ _ _ => false | _ => true := by
  cases r <;> rfl

@[simp] theorem plain_act (a : TeeAct) :
    plain (.act a) = match a with | .hostWrite _ _ _ => true | _ => false := by
  cases a <;> rfl

/-- Nothing was drawn, read or started. -/
def Unsealed (tr : List (Event Tee)) : Prop := Idle tr ∧ heldNonces tr = []

theorem unsealed_of_plain (h : plain c = true) (r : c.Ans) : Unsealed [Event.of c r] := by
  cases c with
  | req q =>
    cases q with
    | aeInit _ _ _ _ _ => cases h
    | _ => cases r <;> exact ⟨⟨rfl, rfl⟩, rfl⟩
  | act a =>
    cases a with
    | hostWrite i off data => exact ⟨⟨rfl, rfl⟩, rfl⟩
    | _ => cases h

theorem unsealed_preserved (tr : List (Event Tee)) (c : Call Tee) (h : plain c = true) :
    Preserves Unsealed tr c := by
  intro ⟨⟨hd, hs⟩, hh⟩ r
  obtain ⟨⟨hd', hs'⟩, hh'⟩ := unsealed_of_plain h r
  simp [Unsealed, Idle, hd, hs, hh, hd', hs', hh']

/-- Such a call changes nothing about a seal, before it or after it. -/
theorem sealsOnce_preserved (h : plain c = true) : Preserves (SealsOnce key) tr c := by
  intro hI r
  obtain ⟨⟨hd, hs⟩, hh⟩ := unsealed_of_plain h r
  rcases hI with hnone | ⟨drawn, held, hdrawn, hheld, hstarted⟩
  · left
    rw [startedSeals_append, hnone, hs]
    rfl
  · right
    exact ⟨drawn, held, by simp [hd, hdrawn], by simp [hh, hheld], by simp [hs, hstarted]⟩

/-- `read_sensor_reading` talks to the PTA alone. -/
theorem readSensorReading_unsealed (s : Frame) (h : Unsealed tr) :
    wpP (Preserves (SealsOnce key)) readSensorReading
      (fun tr' s' _ => Unsealed tr' ∧ s'.sess.sessionKey = s.sess.sessionKey)
      (fun tr' _ _ => Unsealed tr' ∧ True) s tr := by
  have hplain : wpP (fun _ c => plain c = true) readSensorReading
      (fun _ s' _ => s'.sess.sessionKey = s.sess.sessionKey) (fun _ _ _ => True) s tr := by
    simp [readSensorReading, openSensorPta]
  refine wp_mono ?_ (fun _ _ h => h) (wpP_invariant unsealed_preserved h hplain)
  intro tr c hc
  exact sealsOnce_preserved hc

theorem sealReading_seals (outSize : Nat) (seq : UInt64) (s : Frame) (h : Unsealed tr) :
    wpP (Preserves (SealsOnce s.sess.sessionKey)) (sealReading outSize seq)
      (fun tr' _ _ => OneSeal s.sess.sessionKey tr')
      (fun tr' _ _ => Idle tr' ∨ OneSeal s.sess.sessionKey tr') s tr := by
  obtain ⟨⟨hd, hs⟩, hh⟩ := h
  simp [sealReading, sealsOnce_preserved, Idle, OneSeal, hd, hh, hs, Event.call]
  intro _
  refine ⟨?_, ?_⟩
  · -- the draw starts nothing yet
    intro _ drawn
    exact Or.inl (by simp [Event.of, Event.call, hs])
  · intro drawn hdrawn _
    refine ⟨?_, ?_⟩
    · intro _ held
      exact Or.inl (by simp [Event.of, Event.call, hs])
    · -- the start itself, granted or refused
      intro held hheld _ r
      refine Or.inr ⟨drawn, held, ?_, ?_, ?_⟩
      · cases r <;> simp [Event.of, hd]
      · cases r <;> simp [Event.of, hh]
      · cases r <;> simp [Event.of, Event.call, hs]

/-- `ta_read_and_protect` seals once if it succeeds, and whatever happens at most once. -/
theorem taReadAndProtect_seals (paramTypes : UInt32) (sess : Session) (params : Params) :
    wpP (Preserves (SealsOnce sess.sessionKey)) (taReadAndProtect paramTypes)
      (fun tr' _ _ => OneSeal sess.sessionKey tr')
      (fun tr' _ _ => Idle tr' ∨ OneSeal sess.sessionKey tr') ⟨sess, params⟩ [] := by
  have hidle : Idle [] := ⟨rfl, rfl⟩
  simp only [taReadAndProtect, readAndProtectGates, readAndProtectOpen, wpP_bind, wpP_get,
    wpP_ite, wpP_throw, wpP_pure, hidle, true_or, implies_true, true_and]
  intro _ _ _ _
  apply wpP_use (readSensorReading_unsealed ⟨sess, params⟩ ⟨hidle, rfl⟩)
  · rintro tr₁ s₁ _ _ ⟨hun, hkey⟩
    have hkey : s₁.sess.sessionKey = sess.sessionKey := hkey
    simp only [hun.1, true_or, implies_true, true_and]
    intro _ _
    rw [← hkey]
    exact sealReading_seals _ _ s₁ hun
  · intro _ _ _ _ h
    exact Or.inl h.1.1

end

/-! ## Runs -/

/-- The other commands draw no nonce and start no seal. -/
theorem taInvokeCommand_silent {cmdId : UInt32} (paramTypes : UInt32)
    (hc : Command.ofId cmdId ≠ some .readAndProtect) (s : Frame) :
    wpP Silent (taInvokeCommand cmdId paramTypes) (fun _ _ _ => True) (fun _ _ _ => True) s [] := by
  unfold taInvokeCommand
  cases hcmd : Command.ofId cmdId with
  | none => trivial
  | some cmd =>
    cases cmd with
    | readAndProtect => exact absurd hcmd hc
    | authenticateSensor => simp [taAuthenticateSensor, readSensorSecret, openSensorPta, Silent]
    | generateAttestationEvidence =>
      simp [taGenerateAttestationEvidence, evidenceOverFreshKey, evidenceFor, readPublicPoint,
        readEcCoordinate, signTaIdentity, sealedTaIdentity, readTaIdentityBlob, Silent]
    | handshakeComplete =>
      simp [taHandshakeComplete, handshakeOverKey, readPublicPoint, readEcCoordinate,
        authenticateServer, serverIdentityDigest, checkServerKey, pinnedServerKey,
        verifyServerSignature, verifyKeyCoords, pinServerKey, deriveSessionKey, Silent]
    | provisionSensorSecret =>
      simp [taProvisionSensorSecret, fetchSensorSecret, openSensorPta, Silent]
    | generateTaIdentity =>
      simp [taGenerateTaIdentity, sealedTaIdentity, readTaIdentityBlob, exportTaIdentity,
        mintTaIdentity, readEcCoordinate, Silent]

section

variable {inv : Invocation} {sess : Session} {tr : List (Event Tee)}

theorem idle_of_other {rest : Prog Tee (Except TeeError Unit × Frame)}
    (hc : Command.ofId inv.cmdId ≠ some .readAndProtect)
    (steps : Steps (inv.program sess) tr rest) : Idle tr := by
  have hsilent := taInvokeCommand_silent inv.paramTypes hc ⟨sess, inv.params⟩
  simpa using steps_invariant steps (wp_mono idle_preserved (fun _ _ h => h) hsilent) ⟨rfl, rfl⟩

/-- At every moment of an invocation, finished or not, at most one seal has started. -/
theorem invoke_sealsOnce {rest : Prog Tee (Except TeeError Unit × Frame)}
    (steps : Steps (inv.program sess) tr rest) : SealsOnce sess.sessionKey tr := by
  by_cases hc : Command.ofId inv.cmdId = some .readAndProtect
  · have hspec := taReadAndProtect_seals inv.paramTypes sess inv.params
    simp only [Invocation.program, taInvokeCommand, hc] at steps
    simpa using steps_invariant steps hspec (Or.inl rfl)
  · exact Or.inl (idle_of_other hc steps).2

/-- A finished one has sealed once or not at all. -/
theorem invoke_seals {result : Except TeeError Unit} {frame : Frame}
    (runs : Runs (inv.program sess) tr (result, frame)) :
    Idle tr ∨ OneSeal sess.sessionKey tr := by
  by_cases hc : Command.ofId inv.cmdId = some .readAndProtect
  · have hspec := taReadAndProtect_seals inv.paramTypes sess inv.params
    simp only [Invocation.program, taInvokeCommand, hc] at runs
    have hpost := wp_runs runs hspec
    cases result with
    | ok _ => exact Or.inr hpost
    | error e => exact hpost
  · exact Or.inl (idle_of_other hc runs)

/-- A READ_AND_PROTECT that succeeded has sealed once, under the session's key. -/
theorem protect_seals {frame : Frame} (hc : Command.ofId inv.cmdId = some .readAndProtect)
    (runs : Runs (inv.program sess) tr (.ok (), frame)) : OneSeal sess.sessionKey tr := by
  have hspec := taReadAndProtect_seals inv.paramTypes sess inv.params
  simp only [Invocation.program, taInvokeCommand, hc] at runs
  exact wp_runs runs hspec

end

/-- **A seal starts with the drawn nonce exactly when the nonce's buffer is left alone.** In
every run of a session:

* every finished call seals with the nonce it drew if and only if the Host left the buffer
  alone in every one of them, and a call that is still going does under the same condition;
* a READ_AND_PROTECT that succeeded has started one seal, under the key the session had;
* and if it did, and the drawn values are pairwise distinct, then no two calls have started
  seals with one key and one nonce. -/
theorem seals_with_drawn_iff {hist : List Performed} {sess : Session}
    (run : SessionRun hist sess) :
    ((∀ p ∈ hist, SealsWithDrawn p.trace) ↔ ∀ p ∈ hist, NonceLeftAlone p.trace) ∧
    (∀ (inv : Invocation) tr rest, Steps (inv.program sess) tr rest → NonceLeftAlone tr →
      SealsWithDrawn tr) ∧
    (∀ pre p post, hist = pre ++ p :: post → p.Protects → ∃ sess₀ nonce,
      SessionRun pre sess₀ ∧ startedSeals p.trace = [(sess₀.sessionKey, nonce)]) ∧
    ((∀ p ∈ hist, NonceLeftAlone p.trace) →
      (hist.flatMap fun p => drawnNonces p.trace).Nodup →
      ∀ p q, [p, q].Sublist hist → ∀ key nonce, (key, nonce) ∈ startedSeals p.trace →
        (key, nonce) ∉ startedSeals q.trace) := by
  have hiff : ∀ p ∈ hist, SealsWithDrawn p.trace ↔ NonceLeftAlone p.trace := by
    intro p hp
    obtain ⟨pre, post, rfl⟩ := List.append_of_mem hp
    obtain ⟨sess₀, frame, _, runs, _⟩ := run.split
    rcases invoke_seals runs with hidle | hone
    · exact hidle.withDrawn_iff
    · exact hone.withDrawn_iff
  refine ⟨forall₂_congr hiff, ?_, ?_, ?_⟩
  · intro inv tr rest steps kept
    exact (invoke_sealsOnce steps).withDrawn kept
  · rintro pre p post rfl ⟨hc, hok⟩
    obtain ⟨sess₀, frame, before, runs, _⟩ := run.split
    rw [hok] at runs
    obtain ⟨_, held, _, _, hstarted⟩ := protect_seals hc runs
    exact ⟨sess₀, held, before, hstarted⟩
  · intro kept distinct p q hsub key nonce hp hq
    have hdisj := List.pairwise_iff_forall_sublist.mp (List.nodup_flatMap.mp distinct).2 hsub
    have hdrawn : ∀ r ∈ [p, q], (key, nonce) ∈ startedSeals r.trace →
        drawnNonces r.trace = [nonce] := by
      intro r hr hmem
      exact (hiff r (hsub.subset hr)).mpr (kept r (hsub.subset hr)) key nonce hmem
    have hpn := hdrawn p (by simp) hp
    have hqn := hdrawn q (by simp) hq
    exact hdisj (a := nonce) (by simp [hpn]) (by simp [hqn])

instance (tr : List (Event Tee)) : Decidable (NonceLeftAlone tr) :=
  inferInstanceAs (Decidable (∀ drawn ∈ drawnNonces tr, ∀ held ∈ heldNonces tr, held = drawn))

namespace Vectors

/-- Two readings sealed in one session by a Host that leaves the nonces alone. -/
def honestSeals : List (Invocation × Bench) := provisionedSession ++ [
  (protect, protectBench firstReading firstDraw firstDraw),
  (protect, protectBench secondReading secondDraw secondDraw)]

/-- Two readings sealed in one session by a Host that puts the same twelve bytes over each. -/
def staleSeals : List (Invocation × Bench) := provisionedSession ++
  [(protect, protectBench firstReading firstDraw staleNonce)] ++
  [(protect, protectBench secondReading secondDraw staleNonce)]

end Vectors

/-- With a Host that keeps still, both seals start with what was drawn for them. -/
theorem seals_with_drawn_iff_played :
    (∀ p ∈ (play Vectors.honestSeals).1, SealsWithDrawn p.trace) ∧
      (play Vectors.honestSeals).1.flatMap (fun p => startedSeals p.trace) =
        [(Vectors.sessionKey, Vectors.firstDraw), (Vectors.sessionKey, Vectors.secondDraw)] :=
  ⟨(seals_with_drawn_iff (session_play Vectors.honestSeals)).1.mpr (by decide +kernel),
    (by decide +kernel)⟩

/-- The attack: one session, correct TEE services, distinct draws; both calls succeed, and both
have sealed under the session key with the Host's nonce. -/
theorem nonce_is_reused :
    ∃ pre p q sess, SessionRun (pre ++ [p] ++ [q]) sess ∧
      (∀ r ∈ pre ++ [p] ++ [q], TeeCorrect Vectors.crypto r.trace) ∧
      ((pre ++ [p] ++ [q]).flatMap fun r => drawnNonces r.trace).Nodup ∧
      p.Protects ∧ q.Protects ∧
      startedSeals p.trace = [(Vectors.sessionKey, Vectors.staleNonce)] ∧
      startedSeals q.trace = [(Vectors.sessionKey, Vectors.staleNonce)] := by
  have hrun := session_play Vectors.staleSeals
  have hcorrect := play_correct (C := Vectors.crypto) Vectors.staleSeals (by
    intro step hstep
    simp only [Vectors.staleSeals, Vectors.provisionedSession, List.cons_append, List.nil_append,
      List.mem_cons, List.not_mem_nil, or_false] at hstep
    rcases hstep with rfl | rfl | rfl | rfl | rfl <;> rfl)
  have hdistinct : ((play Vectors.staleSeals).1.flatMap fun r => drawnNonces r.trace).Nodup := by
    decide +kernel
  simp only [Vectors.staleSeals, play_snoc, playOne] at hrun hcorrect hdistinct
  refine ⟨_, _, _, _, hrun, hcorrect, hdistinct, ?_, ?_, ?_, ?_⟩
  · exact ⟨rfl, by decide +kernel⟩
  · exact ⟨rfl, by decide +kernel⟩
  · decide +kernel
  · decide +kernel

end ConfidentialIoT
