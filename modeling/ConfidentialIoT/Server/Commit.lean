import ConfidentialIoT.Lib.Eval
import ConfidentialIoT.Server.Challenges

/-!
# `Server/Commit.lean` — what a failed verification leaves behind

`verify_and_derive` on its own, from any state. Every exit before the store keeps the sessions and
takes at most the device's challenge. After the store one step is left, the server's own signature,
and nothing undoes the store when that step raises (`failed_verification_frames_iff`).
-/

set_option autoImplicit false

namespace ConfidentialIoT

open Effects

/-- What a call may change: a failed one takes the device's challenge at most; one that returns
takes it, and replaces the device's session. -/
def Framed (deviceId : Text) (s s' : ServerState) : Except PyError Bytes → Prop
  | .error _ => s'.sessions = s.sessions ∧
    (s'.pending = s.pending ∨ s'.pending = Function.update s.pending deviceId none)
  | .ok _ => (∃ sess, s'.sessions = Function.update s.sessions deviceId (some sess)) ∧
    s'.pending = Function.update s.pending deviceId none

/-- A call under way would pass every check in this state. -/
structure Vetting.Passes {C : CryptoLib} {deviceId : Text} (v : Vetting C deviceId)
    (s : ServerState) (response : AttestResponse) : Prop where
  registered : s.registry deviceId = some v.record
  pending : s.pending deviceId = some v.pending
  response : v.response = response
  quote : C.ecVerify (.pem v.record.akPubPem) v.presented.attest.rawBody v.presented.r
    v.presented.s = true
  ta : C.ecVerify (.p256 v.taPub) v.taPreimage (Bytes.ofBE (v.presented.taSig.slice 0 32))
    (Bytes.ofBE (v.presented.taSig.slice 32 32)) = true
  key : ∃ key, deviceKey C v.pending v.presented.devicePub = .ok key

/-- The device's challenge is taken. -/
def ServerState.taken (s : ServerState) (deviceId : Text) : ServerState :=
  { s with pending := Function.update s.pending deviceId none }

section

variable {C : CryptoLib} {identity : Point} {deviceId : Text} {response : AttestResponse}
  {s s' : ServerState} {tr : List (Event Server)}

/-! ## The exits before the store -/

/-- What follows the taken challenge, when it fails, are readings and checks: they change nothing. -/
theorem AnswerFailure.through {record : DeviceRecord} {pending : PendingChallenge} {now : Time}
    {e : PyError} (h : AnswerFailure C deviceId record pending response now tr e)
    (hthrough : Through (ServerStep C identity) s tr s') : s' = s := by
  refine hthrough.keeps (f := id) ?_
  intro ev hev t t' hstep
  cases h with
  | expired _ | presented _ _ | ak _ _ _ => cases hev
  | quote _ _ _ =>
    obtain rfl := List.mem_singleton.mp hev
    exact hstep.2
  | matched _ _ _ _ =>
    obtain rfl := List.mem_singleton.mp hev
    exact hstep.2
  | ta _ _ _ _ =>
    simp only [List.mem_cons, List.not_mem_nil, or_false] at hev
    rcases hev with rfl | rfl <;> exact hstep.2
  | key _ _ _ _ _ =>
    simp only [List.mem_cons, List.not_mem_nil, or_false] at hev
    rcases hev with rfl | rfl <;> exact hstep.2

/-- A call that fails before the store takes the device's challenge at most. -/
theorem VerifyFailure.through {e : PyError} (h : VerifyFailure C deviceId response tr e)
    (hthrough : Through (ServerStep C identity) s tr s') : s' = s ∨ s' = s.taken deviceId := by
  cases h with
  | notRegistered =>
    obtain ⟨s₁, ⟨-, rfl⟩, hrest⟩ := through_cons.mp hthrough
    exact Or.inl (through_nil.mp hrest)
  | noPending record =>
    obtain ⟨s₁, ⟨-, rfl⟩, hrest⟩ := through_cons.mp hthrough
    obtain ⟨s₂, ⟨-, rfl⟩, hrest⟩ := through_cons.mp hrest
    exact Or.inr (through_nil.mp hrest)
  | answered h =>
    obtain ⟨s₁, ⟨-, rfl⟩, hrest⟩ := through_cons.mp hthrough
    obtain ⟨s₂, ⟨-, rfl⟩, hrest⟩ := through_cons.mp hrest
    obtain ⟨s₃, rfl, hrest⟩ := through_cons.mp hrest
    exact Or.inr (h.through hrest)

/-! ## The store -/

/-- The steps of a call that stores a session. -/
theorem Vetting.through {v : Vetting C deviceId} {key : Bytes} {now : Time} :
    Through (ServerStep C identity) s
        (v.events ++ [.did (.storeSession deviceId key) now]) s' ↔
      (s.registry deviceId = some v.record ∧ s.pending deviceId = some v.pending ∧
        C.ecVerify (.pem v.record.akPubPem) v.presented.attest.rawBody v.presented.r
          v.presented.s = true ∧
        C.ecVerify (.p256 v.taPub) v.taPreimage (Bytes.ofBE (v.presented.taSig.slice 0 32))
          (Bytes.ofBE (v.presented.taSig.slice 32 32)) = true) ∧
      s' = (s.taken deviceId).storeSession deviceId key now := by
  simp only [Vetting.events, Vetting.checks, List.cons_append, List.nil_append, through_cons,
    through_nil, ServerStep]
  constructor
  · rintro ⟨s₁, ⟨hrecord, rfl⟩, s₂, ⟨hpending, rfl⟩, s₃, rfl, s₄, ⟨hquote, rfl⟩, s₅, ⟨hta, rfl⟩, s₆,
      rfl, rfl⟩
    exact ⟨⟨hrecord.symm, hpending.symm, hquote.symm, hta.symm⟩, rfl⟩
  · rintro ⟨⟨hrecord, hpending, hquote, hta⟩, rfl⟩
    exact ⟨_, ⟨hrecord.symm, rfl⟩, _, ⟨hpending.symm, rfl⟩, _, rfl, _, ⟨hquote.symm, rfl⟩, _,
      ⟨hta.symm, rfl⟩, _, rfl, rfl⟩

/-- A call that would pass every check runs up to the store, at whatever time that is. -/
theorem Vetting.Passes.commits {v : Vetting C deviceId} (h : v.Passes s response) {key : Bytes}
    (hkey : deviceKey C v.pending v.presented.devicePub = .ok key) (now : Time) :
    EvalsP (ServerStep C identity) (commitSession C deviceId response) () s
      (v.events ++ [.did (.storeSession deviceId key) now]) (.ok v.serverPreimage) ()
      ((s.taken deviceId).storeSession deviceId key now) := by
  refine ⟨?_, Vetting.through.mpr ⟨⟨h.registered, h.pending, h.quote, h.ta⟩, rfl⟩⟩
  have hfresh : ¬ v.now - v.pending.issuedAt > attestChallengeTtl := Int.not_lt.mpr v.fresh
  have hpresent : present C.toCrypto response = .ok v.presented :=
    h.response ▸ present_eq_ok.mpr v.presents
  have hmatch : matchRecord C v.record v.pending v.presented = .ok v.taPub :=
    matchRecord_eq_ok.mpr v.matched
  refine runs_act (runs_act ?_)
  change Runs ((commitAnswer C deviceId v.record v.pending response).go ()) _ _
  unfold commitAnswer
  rw [hpresent, v.ak]
  simp only [raising, Proc.ofOutcome, pure_bind, hmatch, hkey]
  refine runs_act ?_
  rw [if_neg hfresh]
  exact runs_act (runs_act (runs_act (.refl _)))

/-- The call up to the store: it fails and takes the device's challenge at most, or it has passed
every check. -/
theorem commitSession_evals {r : Except PyError Bytes}
    (h : EvalsP (ServerStep C identity) (commitSession C deviceId response) () s tr r () s') :
    match r with
    | .error _ => s' = s ∨ s' = s.taken deviceId
    | .ok preimage => ∃ (v : Vetting C deviceId) (key : Bytes) (now : Time),
      v.Passes s response ∧ preimage = v.serverPreimage ∧
      s' = (s.taken deviceId).storeSession deviceId key now := by
  have hspec := h.sound commitSession_spec
  cases r with
  | error e => exact hspec.2.through h.through
  | ok preimage =>
    obtain ⟨-, v, key, now, hresponse, hkey, hpreimage, rfl⟩ := hspec
    obtain ⟨⟨hrecord, hpending, hquote, hta⟩, hs'⟩ := Vetting.through.mp h.through
    exact ⟨v, key, now, ⟨hrecord, hpending, hresponse, hquote, hta, key, hkey⟩, hpreimage, hs'⟩

/-! ## The signature -/

/-- A signature under a curve of at most 256 bits that is made comes out as 64 bytes. -/
theorem signServerIdentityRaw_of_order (key : IdentityKey) (horder : key.order ≤ 256 ^ 32)
    {message : Bytes} {rs : Nat × Nat} (hsign : key.sign message = .ok rs) :
    ∃ sig, signServerIdentityRaw key message = .ok sig := by
  obtain ⟨hr, hs⟩ := key.sign_lt message rs.1 rs.2 hsign
  have hr' : toBytes 32 rs.1 = .ok (Bytes.toBE 32 rs.1) := if_pos (hr.trans_le horder)
  have hs' : toBytes 32 rs.2 = .ok (Bytes.toBE 32 rs.2) := if_pos (hs.trans_le horder)
  refine ⟨Bytes.toBE 32 rs.1 ++ Bytes.toBE 32 rs.2, ?_⟩
  unfold signServerIdentityRaw
  simp only [hsign, ok_bind, hr', hs']
  rfl

/-- Where the signature cannot fail, a call changes what it may. -/
theorem framed_of_signs {key : IdentityKey}
    (signs : ∀ v : Vetting C deviceId, v.Passes s response →
      ∃ sig, signServerIdentityRaw key v.serverPreimage = .ok sig) {r : Except PyError Bytes}
    (h : EvalsP (ServerStep C identity) (verifyAndDeriveWith C key deviceId response) () s tr r ()
      s') : Framed deviceId s s' r := by
  rcases evalsP_bind.mp h with ⟨e, rfl, hcommit⟩ | ⟨preimage, _, s₁, tr₁, tr₂, -, hcommit, hsign⟩
  · rcases commitSession_evals hcommit with rfl | rfl
    · exact ⟨rfl, Or.inl rfl⟩
    · exact ⟨rfl, Or.inr rfl⟩
  · obtain ⟨v, sessionKey, now, hpasses, rfl, rfl⟩ := commitSession_evals hcommit
    obtain ⟨sig, hsig⟩ := signs v hpasses
    rw [hsig] at hsign
    obtain ⟨-, rfl, -, rfl⟩ := evalsP_ofOutcome.mp hsign
    exact ⟨⟨_, rfl⟩, rfl⟩

/-- A P-256 key is one under which it cannot. -/
theorem p256_framed {key : IdentityKey} (horder : key.order ≤ 256 ^ 32)
    (hsigns : ∀ message, ∃ rs, key.sign message = .ok rs) {r : Except PyError Bytes}
    (h : EvalsP (ServerStep C identity) (verifyAndDeriveWith C key deviceId response) () s tr r ()
      s') : Framed deviceId s s' r := by
  refine framed_of_signs ?_ h
  intro v _
  obtain ⟨rs, hrs⟩ := hsigns v.serverPreimage
  exact signServerIdentityRaw_of_order key horder hrs

end

/-- **A failed verification leaves every session untouched** exactly where the signature that
follows the store cannot fail: whatever response would pass every check in this state, the identity
key's signature over its transcript is made, and each of its numbers fits 32 bytes. -/
theorem failed_verification_frames_iff (C : CryptoLib) (identity : Point) (key : IdentityKey)
    (deviceId : Text) (response : AttestResponse) (s : ServerState) :
    (∀ tr r s', EvalsP (ServerStep C identity) (verifyAndDeriveWith C key deviceId response) () s
      tr r () s' → Framed deviceId s s' r) ↔
    ∀ v : Vetting C deviceId, v.Passes s response →
      ∃ sig, signServerIdentityRaw key v.serverPreimage = .ok sig := by
  constructor
  · intro framed v hpasses
    obtain ⟨sessionKey, hkey⟩ := hpasses.key
    cases hsign : signServerIdentityRaw key v.serverPreimage with
    | ok sig => exact ⟨sig, rfl⟩
    | error e =>
      -- the store at two different times cannot both leave the session as it was
      have unchanged : ∀ now, s.sessions deviceId =
          some ⟨sessionKey, now + deviceSessionTtl, 0⟩ := by
        intro now
        have hraises : EvalsP (ServerStep C identity)
            (raising (.std (signServerIdentityRaw key v.serverPreimage)) : Py Unit Bytes) ()
            ((s.taken deviceId).storeSession deviceId sessionKey now) [] (.error (.std e)) ()
            ((s.taken deviceId).storeSession deviceId sessionKey now) := by
          rw [hsign]
          exact evalsP_ofOutcome.mpr ⟨rfl, rfl, rfl, rfl⟩
        have hsame := (framed _ _ _ (evalsP_bind.mpr (Or.inr
          ⟨_, _, _, _, _, rfl, hpasses.commits hkey now, hraises⟩))).1
        rw [← hsame]
        exact Function.update_self ..
      have htimes := (unchanged 0).symm.trans (unchanged 1)
      simp at htimes
  · intro signs tr r s' h
    exact framed_of_signs signs h

namespace Vectors

/-- An identity key on P-384, and its signature in the device's first handshake. -/
def p384Key : IdentityKey where
  order := 0xffffffffffffffffffffffffffffffffffffffffffffffffc7634d81f4372ddf581a0db248b0a77aecec196accc52973
  sign _ := .ok (
    0xc92c9e7fbc0d9414ca1c15aac7efe99a5276c033b63d116ef7b7bc10c431d619ebd30d49f3906a9fe1461afb5aa7eabe,
    0x2cde29ad21391772dda3c3c2275f73ce556a7d5b2d81198ce05843f0f34fd61ca1f23d0bbd12037c6c69a360d4f6862e)
  sign_lt _ r s h := by
    obtain ⟨rfl, rfl⟩ := Prod.mk.inj (Except.ok.inj h)
    exact ⟨by norm_num, by norm_num⟩

/-- The device has its first challenge. -/
def challenged : ServerState where
  registry := enrolled
  pending id :=
    if id = deviceName then some ⟨nonce, serverEphemeral.d, serverEphemeral.pub.sec1, 0⟩ else none
  sessions _ := none
  buf _ := []
  verdict _ := none

/-- The device's genuine answer, on its own at the first desk. -/
def answerUnderP384 : List (Event Server) × (Except PyError Bytes × Unit) × ServerState :=
  serve (firstDesk.serve lib)
    ((verifyAndDeriveWith lib p384Key deviceName genuineAnswer).go ()) challenged

theorem answerUnderP384_evals : Evals (ServerStep lib serverIdentity.pub)
    ((verifyAndDeriveWith lib p384Key deviceName genuineAnswer).go ()) challenged
    answerUnderP384.1 answerUnderP384.2.1 answerUnderP384.2.2 :=
  serve_evals firstDesk.serve_step (by decide +kernel)

end Vectors

/-- The server was started with an identity key on P-384. The genuine answer passes every check,
the session is stored, and then `r.to_bytes(32, "big")` raises. -/
theorem raised_after_store : ¬ ∀ (C : CryptoLib) (identity : Point) (key : IdentityKey) deviceId
    response s tr r s', EvalsP (ServerStep C identity)
      (verifyAndDeriveWith C key deviceId response) () s tr r () s' → Framed deviceId s s' r := by
  intro framed
  obtain ⟨hraised, hstored⟩ : Vectors.answerUnderP384.2.1.1 = .error (.std .overflowError) ∧
      (Vectors.answerUnderP384.2.2.sessions Vectors.deviceName).isSome = true := by decide +kernel
  have hevals := Vectors.answerUnderP384_evals
  generalize Vectors.answerUnderP384 = run at hraised hstored hevals
  obtain ⟨tr, ⟨r, ⟨⟩⟩, s'⟩ := run
  obtain rfl : r = _ := hraised
  have hframed := framed _ _ _ _ _ _ _ _ _ hevals
  rw [show s'.sessions = _ from hframed.1] at hstored
  cases hstored

end ConfidentialIoT
