import ConfidentialIoT.Lib.Pool
import ConfidentialIoT.Server.Desk

/-!
# `Server/Challenges.lean` — every session comes from one challenge

The calls of `AttestationVerifier` come from any number of threads, and their steps interleave.
What a call has seen when it stores a session is asserted where it stores (`Vetted`); what the two
dicts hold is what the last step that touched them put there. Together these say, of every stored
session, which issued challenge it answers — and that the challenge answers nothing else.
-/

set_option autoImplicit false

namespace ConfidentialIoT

open Effects

/-! ## What a call has seen -/

/-- Everything `verify_and_derive` has looked at and checked when it stores a session. -/
structure Vetting (C : CryptoLib) (deviceId : Text) where
  record : DeviceRecord
  pending : PendingChallenge
  now : Time
  response : AttestResponse
  presented : Presented
  taPub : Point
  fresh : now - pending.issuedAt ≤ attestChallengeTtl
  presents : Presents C.toCrypto response presented
  ak : loadAk C record = .ok ()
  matched : Matches C record pending presented taPub

namespace Vetting

variable {C : CryptoLib} {deviceId : Text} (v : Vetting C deviceId)

def taPreimage : Bytes :=
  taIdentityPreimage v.pending.nonce v.pending.serverPub v.presented.devicePub deviceId.utf8

/-- What is left to sign. -/
def serverPreimage : Bytes :=
  serverIdentityPreimage v.pending.nonce v.pending.serverPub v.presented.devicePub

/-- What follows the consumed challenge. -/
def checks : List (Event Server) := [
  .did .time v.now,
  .did (.ecVerify (.pem v.record.akPubPem) v.presented.attest.rawBody v.presented.r v.presented.s)
    true,
  .did (.ecVerify (.p256 v.taPub) v.taPreimage (Bytes.ofBE (v.presented.taSig.slice 0 32))
    (Bytes.ofBE (v.presented.taSig.slice 32 32))) true]

/-- The whole call, up to the store. -/
def events : List (Event Server) :=
  .did (.lookup deviceId) (some v.record) :: .did (.popPending deviceId) (some v.pending) ::
    v.checks

end Vetting

/-- What `issue_challenge` has done when it files the challenge. -/
def Drawn (deviceId : Text) (challenge : PendingChallenge) (tr : List (Event Server)) : Prop :=
  ∃ record, ∃ nonce : BytesN attestNonceLen, nonce.1 = challenge.nonce ∧ tr = [
    .did (.lookup deviceId) (some record),
    .did (.randomBytes attestNonceLen) nonce,
    .did .p256Generate (challenge.serverPriv, challenge.serverPub),
    .did .time challenge.issuedAt]

/-- The calls `verify_and_derive` makes, and what it has seen when it stores. -/
def VerifyCall (C : CryptoLib) (deviceId : Text) (response : AttestResponse)
    (tr : List (Event Server)) : Call Server → Prop
  | .act (.lookup id) => id = deviceId
  | .act (.popPending id) => id = deviceId
  | .act .time => True
  | .act (.ecVerify _ _ _ _) => True
  | .act (.storeSession id key) => id = deviceId ∧ ∃ v : Vetting C deviceId,
    v.response = response ∧ tr = v.events ∧ deviceKey C v.pending v.presented.devicePub = .ok key
  | .act (.signServerIdentity _) => True
  | _ => False

/-- The calls `issue_challenge` makes, and what it has done when it files the challenge. -/
def IssueCall (deviceId : Text) (tr : List (Event Server)) : Call Server → Prop
  | .act (.lookup id) => id = deviceId
  | .act (.randomBytes _) => True
  | .act .p256Generate => True
  | .act .time => True
  | .act (.setPending id challenge) => id = deviceId ∧ Drawn deviceId challenge tr
  | _ => False

/-- What a call has seen when it changes one of the two dicts. `asked` is the call's argument. -/
def Vetted (C : CryptoLib) (asked : Text → AttestResponse → Prop) (tr : List (Event Server)) :
    Call Server → Prop
  | .act (.storeSession deviceId key) => ∃ v : Vetting C deviceId, asked deviceId v.response ∧
    tr = v.events ∧ deviceKey C v.pending v.presented.devicePub = .ok key
  | .act (.setPending deviceId challenge) => Drawn deviceId challenge tr
  | _ => True

theorem VerifyCall.vetted {C : CryptoLib} {asked : Text → AttestResponse → Prop} {deviceId : Text}
    {response : AttestResponse} {tr : List (Event Server)} {c : Call Server}
    (hasked : asked deviceId response) (h : VerifyCall C deviceId response tr c) :
    Vetted C asked tr c := by
  cases c with
  | req r => cases r
  | act a =>
    cases a with
    | storeSession id key =>
      obtain ⟨rfl, v, rfl, hrest⟩ := h
      exact ⟨v, hasked, hrest⟩
    | setPending _ _ => exact h.elim
    | _ => trivial

theorem IssueCall.vetted {C : CryptoLib} {asked : Text → AttestResponse → Prop} {deviceId : Text}
    {tr : List (Event Server)} {c : Call Server} (h : IssueCall deviceId tr c) :
    Vetted C asked tr c := by
  cases c with
  | req r => cases r
  | act a =>
    cases a with
    | setPending id challenge =>
      obtain ⟨rfl, hdrawn⟩ := h
      exact hdrawn
    | storeSession _ _ => exact h.elim
    | _ => trivial

/-- The ways a call fails on the challenge it took, each with the steps it took first. -/
inductive AnswerFailure (C : CryptoLib) (deviceId : Text) (record : DeviceRecord)
    (pending : PendingChallenge) (response : AttestResponse) (now : Time) :
    List (Event Server) → PyError → Prop where
  | expired (h : attestChallengeTtl < now - pending.issuedAt) :
      AnswerFailure C deviceId record pending response now [] (.attestation .challengeExpired)
  | presented (fresh : now - pending.issuedAt ≤ attestChallengeTtl) {e : PyError}
      (h : present C.toCrypto response = .error e) :
      AnswerFailure C deviceId record pending response now [] e
  | ak (fresh : now - pending.issuedAt ≤ attestChallengeTtl) {p : Presented} {e : PyError}
      (hp : Presents C.toCrypto response p) (h : loadAk C record = .error e) :
      AnswerFailure C deviceId record pending response now [] e
  | quote (fresh : now - pending.issuedAt ≤ attestChallengeTtl) {p : Presented}
      (hp : Presents C.toCrypto response p) (hak : loadAk C record = .ok ()) :
      AnswerFailure C deviceId record pending response now
        [.did (.ecVerify (.pem record.akPubPem) p.attest.rawBody p.r p.s) false]
        (.attestation .quoteSignature)
  | matched (fresh : now - pending.issuedAt ≤ attestChallengeTtl) {p : Presented} {e : PyError}
      (hp : Presents C.toCrypto response p) (hak : loadAk C record = .ok ())
      (h : matchRecord C record pending p = .error e) :
      AnswerFailure C deviceId record pending response now
        [.did (.ecVerify (.pem record.akPubPem) p.attest.rawBody p.r p.s) true] e
  | ta (fresh : now - pending.issuedAt ≤ attestChallengeTtl) {p : Presented} {q : Point}
      (hp : Presents C.toCrypto response p) (hak : loadAk C record = .ok ())
      (hq : Matches C record pending p q) :
      AnswerFailure C deviceId record pending response now
        [.did (.ecVerify (.pem record.akPubPem) p.attest.rawBody p.r p.s) true,
          .did (.ecVerify (.p256 q)
            (taIdentityPreimage pending.nonce pending.serverPub p.devicePub deviceId.utf8)
            (Bytes.ofBE (p.taSig.slice 0 32)) (Bytes.ofBE (p.taSig.slice 32 32))) false]
        (.attestation .taIdentity)
  | key (fresh : now - pending.issuedAt ≤ attestChallengeTtl) {p : Presented} {q : Point}
      {e : PyError} (hp : Presents C.toCrypto response p) (hak : loadAk C record = .ok ())
      (hq : Matches C record pending p q) (h : deviceKey C pending p.devicePub = .error e) :
      AnswerFailure C deviceId record pending response now
        [.did (.ecVerify (.pem record.akPubPem) p.attest.rawBody p.r p.s) true,
          .did (.ecVerify (.p256 q)
            (taIdentityPreimage pending.nonce pending.serverPub p.devicePub deviceId.utf8)
            (Bytes.ofBE (p.taSig.slice 0 32)) (Bytes.ofBE (p.taSig.slice 32 32))) true] e

/-- The ways a call fails. -/
inductive VerifyFailure (C : CryptoLib) (deviceId : Text) (response : AttestResponse) :
    List (Event Server) → PyError → Prop where
  | notRegistered : VerifyFailure C deviceId response [.did (.lookup deviceId) none]
      (.attestation (.notRegistered deviceId))
  | noPending (record : DeviceRecord) : VerifyFailure C deviceId response
      [.did (.lookup deviceId) (some record), .did (.popPending deviceId) none]
      (.attestation (.noPendingChallenge deviceId))
  | answered {record : DeviceRecord} {pending : PendingChallenge} {now : Time}
      {tr : List (Event Server)} {e : PyError}
      (h : AnswerFailure C deviceId record pending response now tr e) :
      VerifyFailure C deviceId response (.did (.lookup deviceId) (some record) ::
        .did (.popPending deviceId) (some pending) :: .did .time now :: tr) e

section

variable {C : CryptoLib} {σ : Type} {s : σ}

/-- What `verify_and_derive` does up to the signature: vet and store, or fail in one of the ways
above. -/
theorem commitSession_spec {deviceId : Text} {response : AttestResponse} :
    wpP (VerifyCall C deviceId response) (commitSession C deviceId response)
      (fun tr' s' preimage => s' = s ∧ ∃ (v : Vetting C deviceId) (key : Bytes) (now : Time),
        v.response = response ∧ deviceKey C v.pending v.presented.devicePub = .ok key ∧
        preimage = v.serverPreimage ∧ tr' = v.events ++ [.did (.storeSession deviceId key) now])
      (fun tr' s' e => s' = s ∧ VerifyFailure C deviceId response tr' e) s [] := by
  simp only [commitSession, wpP_bind, wpP_step, List.nil_append, VerifyCall, true_and]
  intro found
  cases found with
  | none => exact ⟨rfl, .notRegistered⟩
  | some record =>
    simp only [wpP_bind, wpP_step, true_and, VerifyCall]
    intro popped
    cases popped with
    | none => exact ⟨rfl, .noPending record⟩
    | some pending =>
      simp only [commitAnswer, wpP_bind, wpP_step, wpP_ite, wpP_fails, wpP_raising, VerifyCall,
        true_and]
      intro now
      refine ⟨fun h => .answered (.expired h), ?_⟩
      intro hstale
      have hfresh : now - pending.issuedAt ≤ attestChallengeTtl := Int.not_lt.mp hstale
      refine ⟨?_, fun _ h => .answered (.presented hfresh h)⟩
      intro p hp
      have hpresents := present_eq_ok.mp hp
      refine ⟨?_, fun _ h => .answered (.ak hfresh hpresents h)⟩
      intro _ hak quoteOk
      cases quoteOk with
      | false =>
        exact ⟨fun _ => .answered (.quote hfresh hpresents hak), fun h => absurd h (by simp)⟩
      | true =>
        refine ⟨fun h => absurd rfl h, ?_⟩
        intro _
        refine ⟨?_, fun _ h => .answered (.matched hfresh hpresents hak h)⟩
        intro taPub hmatch taOk
        have hmatches := matchRecord_eq_ok.mp hmatch
        cases taOk with
        | false =>
          exact ⟨fun _ => .answered (.ta hfresh hpresents hak hmatches), fun h => absurd h (by simp)⟩
        | true =>
          refine ⟨fun h => absurd rfl h, ?_⟩
          intro _
          refine ⟨?_, fun _ h => .answered (.key hfresh hpresents hak hmatches h)⟩
          intro key hkey
          let v : Vetting C deviceId := {
            record := record
            pending := pending
            now := now
            response := response
            presented := p
            taPub := taPub
            fresh := hfresh
            presents := hpresents
            ak := hak
            matched := hmatches }
          refine ⟨⟨v, rfl, rfl, hkey⟩, ?_⟩
          intro now'
          exact ⟨rfl, v, key, now', rfl, hkey, rfl, rfl⟩

/-- What `verify_and_derive` does: vet, store and sign, or fail in one of the ways above. -/
theorem verifyAndDerive_spec {deviceId : Text} {response : AttestResponse} :
    wpP (VerifyCall C deviceId response) (verifyAndDerive C deviceId response)
      (fun tr' s' sig => s' = s ∧ ∃ (v : Vetting C deviceId) (key : Bytes) (now : Time),
        v.response = response ∧ deviceKey C v.pending v.presented.devicePub = .ok key ∧
        tr' = v.events ++ [.did (.storeSession deviceId key) now, .did (.signServerIdentity
          (serverIdentityPreimage v.pending.nonce v.pending.serverPub v.presented.devicePub)) sig])
      (fun tr' s' e => s' = s ∧ VerifyFailure C deviceId response tr' e) s [] := by
  rw [verifyAndDerive_eq, wpP_bind]
  refine wpP_conseq commitSession_spec ?_ fun _ _ _ h => h
  rintro tr s' preimage ⟨rfl, v, key, now, hresponse, hkey, rfl, rfl⟩
  refine wpP_step.mpr ⟨trivial, fun sig => ⟨rfl, v, key, now, hresponse, hkey, ?_⟩⟩
  rw [List.append_assoc]
  rfl

theorem issueChallenge_spec {identity : Point} {deviceId : Text} :
    wpP (IssueCall deviceId) (issueChallenge identity deviceId)
      (fun tr' s' message => s' = s ∧ ∃ challenge tr, Drawn deviceId challenge tr ∧
        tr' = tr ++ [.did (.setPending deviceId challenge) ()] ∧ message =
          ⟨b64e challenge.nonce, b64e challenge.serverPub, b64e identity.sec1⟩)
      (fun tr' s' e => s' = s ∧ tr' = [.did (.lookup deviceId) none] ∧
        e = .attestation (.notRegistered deviceId)) s [] := by
  simp only [issueChallenge, wpP_bind, wpP_step, wpP_ite, wpP_fails, wpP_pure, List.nil_append,
    IssueCall, true_and]
  intro found
  cases found with
  | none => simp
  | some record =>
    refine ⟨by simp, ?_⟩
    intro _ nonce drawn issuedAt
    have hdrawn : Drawn deviceId ⟨nonce.1, drawn.1, drawn.2, issuedAt⟩ [
        .did (.lookup deviceId) (some record), .did (.randomBytes attestNonceLen) nonce,
        .did .p256Generate drawn, .did .time issuedAt] := ⟨record, nonce, rfl, rfl⟩
    refine ⟨hdrawn, ?_⟩
    intro _
    exact ⟨_, _, hdrawn, rfl, rfl⟩

end

/-! ## What the dicts hold -/

section

variable {M : Machine Server} {ι : Type} [DecidableEq ι] {C : CryptoLib} {identity : Point}
  {P : Pool.Config M ι ServerState → Pool.Label M ι → Prop} {registry : Registry} {mem : ι → M.Mem}
  {ls : List (Pool.Label M ι)} {c : Pool.Config M ι ServerState}

/-- A server that has just started, with every thread idle. -/
def serving (M : Machine Server) (registry : Registry) (mem : ι → M.Mem) :
    Pool.Config M ι ServerState :=
  ⟨.started registry, fun i => .idle (mem i)⟩

omit [DecidableEq ι] in
theorem serving_quiet : (serving M registry mem).Quiet := fun i => ⟨mem i, rfl⟩

/-- A pending challenge is what was filed for the device last, and nothing has taken it since. -/
theorem pending_filed
    (run : Pool.Run (fun _ => ServerStep C identity) P (serving M registry mem) ls c)
    {deviceId : Text} {challenge : PendingChallenge}
    (h : c.shared.pending deviceId = some challenge) :
    History.LastWith (Pool.Label.Did (TouchesPending deviceId))
      (fun l _ => ∃ i, l = .did i (.did (.setPending deviceId challenge) ())) ls := by
  refine run.invariant (I := fun ls c => ∀ challenge, c.shared.pending deviceId = some challenge →
    History.LastWith (Pool.Label.Did (TouchesPending deviceId))
      (fun l _ => ∃ i, l = .did i (.did (.setPending deviceId challenge) ())) ls) ?_ ?_ challenge h
  · exact nofun
  · intro ls c l c' _ ih step _ challenge h
    rw [History.lastWith_snoc]
    cases step with
    | start job _ => exact Or.inr ⟨not_false, ih challenge h⟩
    | finish _ => exact Or.inr ⟨not_false, ih challenge h⟩
    | @call i job m log q k s' r hbusy hR =>
      rcases ServerStep.pending_cases hR deviceId with ⟨hother, hsame⟩ | ⟨filed, hev, hset⟩ | ⟨-, hnone⟩
      · exact Or.inr ⟨hother, ih challenge (hsame ▸ h)⟩
      · obtain rfl : filed = challenge := Option.some.inj (hset.symm.trans h)
        rw [hev]
        exact Or.inl ⟨rfl, i, rfl⟩
      · cases hnone.symm.trans h

/-- A session has the key that was stored for the device last, and expires its lifetime after. -/
theorem session_stored
    (run : Pool.Run (fun _ => ServerStep C identity) P (serving M registry mem) ls c)
    {deviceId : Text} {sess : DeviceSession} (h : c.shared.sessions deviceId = some sess) :
    History.LastWith (Pool.Label.Did (StoresSession deviceId))
      (fun l _ => ∃ i now, l = .did i (.did (.storeSession deviceId sess.key) now) ∧
        sess.expires = now + deviceSessionTtl) ls := by
  refine run.invariant (I := fun ls c => ∀ sess, c.shared.sessions deviceId = some sess →
    History.LastWith (Pool.Label.Did (StoresSession deviceId))
      (fun l _ => ∃ i now, l = .did i (.did (.storeSession deviceId sess.key) now) ∧
        sess.expires = now + deviceSessionTtl) ls) ?_ ?_ sess h
  · exact nofun
  · intro ls c l c' _ ih step _ sess h
    rw [History.lastWith_snoc]
    cases step with
    | start job _ => exact Or.inr ⟨not_false, ih sess h⟩
    | finish _ => exact Or.inr ⟨not_false, ih sess h⟩
    | @call i job m log q k s' r hbusy hR =>
      rcases ServerStep.session_cases hR deviceId with ⟨hother, hsame⟩ | hchange
      · exact Or.inr ⟨hother, ih sess (hsame ▸ h)⟩
      · change s'.sessions deviceId = some sess at h
        generalize Event.of q r = ev at hchange ⊢
        rw [h] at hchange
        cases hchange with
        | stored key now => exact Or.inl ⟨rfl, i, now, rfl, rfl⟩
        | advanced seq now old hold live higher => exact Or.inr ⟨not_false, ih old hold⟩

/-- Between a challenge's filing and its use nothing touches the device's entry. `issue` and `use`
are what had happened when the two steps were taken, `i` is the thread that uses it. -/
structure Consumed (ls issue use : List (Pool.Label M ι)) (deviceId : Text)
    (challenge : PendingChallenge) (i : ι) : Prop where
  untouched : ∃ j between,
    use = issue ++ .did j (.did (.setPending deviceId challenge) ()) :: between ∧
    ∀ l ∈ between, ¬ l.Did (TouchesPending deviceId)
  used : use ++ [.did i (.did (.popPending deviceId) (some challenge))] <+: ls

/-- Every challenge a call takes was filed, and was the device's last. -/
theorem consumed_of_popped
    (run : Pool.Run (fun _ => ServerStep C identity) P (serving M registry mem) ls c)
    {deviceId : Text} {challenge : PendingChallenge} {i : ι} {use : List (Pool.Label M ι)}
    (h : use ++ [.did i (.did (.popPending deviceId) (some challenge))] <+: ls) :
    ∃ issue, Consumed ls issue use deviceId challenge i := by
  obtain ⟨c₁, c₂, post, -, before, step, -, -⟩ := run.cut h
  have hpending : c₁.shared.pending deviceId = some challenge := step.answered.1.symm
  obtain ⟨issue, x, between, hsplit, -, huntouched, j, rfl⟩ := pending_filed before hpending
  exact ⟨issue, ⟨j, between, hsplit, huntouched⟩, h⟩

omit [DecidableEq ι] in
/-- And it is taken once. -/
theorem Consumed.unique {issue use use' : List (Pool.Label M ι)} {deviceId deviceId' : Text}
    {challenge challenge' : PendingChallenge} {i i' : ι}
    (h : Consumed ls issue use deviceId challenge i)
    (h' : Consumed ls issue use' deviceId' challenge' i') :
    use = use' ∧ i = i' ∧ deviceId = deviceId' ∧ challenge = challenge' := by
  obtain ⟨⟨j, between, rfl, hbetween⟩, post, hls⟩ := h
  obtain ⟨⟨j', between', rfl, hbetween'⟩, post', hls'⟩ := h'
  have heq := hls.trans hls'.symm
  simp only [List.append_assoc, List.cons_append, List.append_cancel_left_eq, List.nil_append] at heq
  obtain ⟨hfiled, hrest⟩ := List.cons.inj heq
  cases hfiled
  have htouch : ∀ i challenge, (Pool.Label.did i (.did (.popPending deviceId) challenge) :
      Pool.Label M ι).Did (TouchesPending deviceId) := fun _ _ => rfl
  obtain ⟨rfl, hpop, -⟩ := History.first_unique (p := Pool.Label.Did (TouchesPending deviceId))
    hrest (htouch _ _) (htouch _ _) hbetween hbetween'
  cases hpop
  exact ⟨rfl, rfl, rfl, rfl⟩

/-- The call that took a challenge stores a session for it. -/
structure StoredBy (ls use store : List (Pool.Label M ι)) {deviceId : Text}
    (v : Vetting C deviceId) (key : Bytes) (now : Time) (i : ι) : Prop where
  call : ∃ call, store = use ++ .did i (.did (.popPending deviceId) (some v.pending)) :: call ∧
    Pool.NoStart i call ∧ Pool.eventsOf i call = v.checks
  stored : store ++ [.did i (.did (.storeSession deviceId key) now)] <+: ls

/-- One session at most. -/
theorem StoredBy.unique {use store store' : List (Pool.Label M ι)} {deviceId : Text}
    {v v' : Vetting C deviceId} {key key' : Bytes} {now now' : Time} {i : ι}
    (h : StoredBy ls use store v key now i) (h' : StoredBy ls use store' v' key' now' i) :
    store = store' := by
  have quiet : ∀ {v : Vetting C deviceId} {call : List (Pool.Label M ι)},
      Pool.eventsOf i call = v.checks → ∀ l ∈ call,
      ¬ ∃ key now, l = .did i (.did (.storeSession deviceId key) now) := by
    rintro v call hchecks _ hl ⟨key, now, rfl⟩
    have hev := Pool.mem_eventsOf.mpr hl
    rw [hchecks] at hev
    simp [Vetting.checks] at hev
  obtain ⟨⟨call, rfl, -, hchecks⟩, post, hls⟩ := h
  obtain ⟨⟨call', rfl, -, hchecks'⟩, post', hls'⟩ := h'
  have heq := hls.trans hls'.symm
  simp only [List.append_assoc, List.cons_append, List.append_cancel_left_eq, List.nil_append] at heq
  obtain ⟨hpop, hrest⟩ := List.cons.inj heq
  obtain ⟨rfl, -, -⟩ := History.first_unique
    (p := fun l => ∃ key now, l = .did i (.did (.storeSession deviceId key) now)) hrest
    ⟨key, now, rfl⟩ ⟨key', now', rfl⟩ (quiet hchecks) (quiet hchecks')
  rw [hpop]

/-- What a vetting establishes, once every step of the call has been answered. -/
structure Vetting.Sound {deviceId : Text} (v : Vetting C deviceId) (registry : Registry)
    (key : Bytes) : Prop where
  registered : registry deviceId = some v.record
  quote : C.pemVerify v.record.akPubPem v.presented.attest.rawBody v.presented.r v.presented.s = true
  extraData : v.presented.attest.extraData =
    C.sha256 (v.pending.nonce ++ (v.pending.serverPub ++ v.presented.devicePub))
  pcrDigest : recomputePcrDigest C.toCrypto v.record.expectedPcr = .ok v.presented.attest.pcrDigest
  taPub_ne : v.record.taPubB64 ≠ []
  taPub : ∃ raw, b64d (.str v.record.taPubB64) = .ok raw ∧ C.fromEncodedPoint raw = some v.taPub
  taSig : C.ecdsaVerify v.taPub (C.sha256 (taIdentityLabel ++ (v.pending.nonce ++
    (v.pending.serverPub ++ (v.presented.devicePub ++ deviceId.utf8))))) v.presented.taSig = true
  key : ∃ peer, C.fromEncodedPoint v.presented.devicePub = some peer ∧
    key = C.hkdf (C.ecdh v.pending.serverPriv peer) v.pending.nonce hkdfInfo aeadKeyLen

omit [DecidableEq ι] in
theorem Vetting.sound {deviceId : Text} {v : Vetting C deviceId} {key : Bytes} {s : ServerState}
    (facts : ∀ ev ∈ v.events, ServerFact C identity s ev)
    (hkey : deviceKey C v.pending v.presented.devicePub = .ok key) : v.Sound s.registry key := by
  have hquote := facts _ (List.mem_cons_of_mem _ (List.mem_cons_of_mem _
    (List.mem_cons_of_mem _ (List.mem_cons_self ..))))
  have hta := facts _ (List.mem_cons_of_mem _ (List.mem_cons_of_mem _ (List.mem_cons_of_mem _
    (List.mem_cons_of_mem _ (List.mem_cons_self ..)))))
  have hlen : v.presented.taSig.length = 64 := v.presents.length_taSig
  have hhalf : (v.presented.taSig.slice 0 32).length = 32 := by
    simp [Bytes.slice, hlen]
  have hhalf' : (v.presented.taSig.slice 32 32).length = 32 := by
    simp [Bytes.slice, hlen]
  have hparts : v.presented.taSig.slice 0 32 ++ v.presented.taSig.slice 32 32 =
      v.presented.taSig := by
    rw [Bytes.slice_append_slice]
    have hwhole := Bytes.slice_zero_length v.presented.taSig
    rwa [hlen] at hwhole
  have hverified := hta.symm
  simp only [CryptoLib.ecVerify, Bool.and_eq_true] at hverified
  have htaSig := hverified.2
  rw [Bytes.toBE_ofBE_of_length hhalf, Bytes.toBE_ofBE_of_length hhalf', hparts] at htaSig
  exact {
    registered := facts _ (List.mem_cons_self ..)
    quote := hquote.symm
    extraData := v.matched.transcript
    pcrDigest := v.presents.signed ▸ v.matched.baseline
    taPub_ne := v.matched.taPub_ne
    taPub := v.matched.taPub
    taSig := htaSig
    key := deviceKey_eq_ok.mp hkey }

section

variable {asked : M.Job → Text → AttestResponse → Prop}
  (code : ∀ job m, wp (Vetted C (asked job)) (M.code job m) (fun _ _ => True) [])
  (run : Pool.Run (fun _ => ServerStep C identity) P (serving M registry mem) ls c)

include code run

/-- **Where a session comes from**: one call, the challenge it took, and what it had checked. -/
theorem session_provenance {i : ι} {deviceId : Text} {key : Bytes} {now : Time}
    {store : List (Pool.Label M ι)}
    (h : store ++ [.did i (.did (.storeSession deviceId key) now)] <+: ls) :
    ∃ (v : Vetting C deviceId) (issue use pre mid : List (Pool.Label M ι)) (job : M.Job),
      asked job deviceId v.response ∧ store = pre ++ .started i job :: mid ∧ Pool.NoStart i mid ∧
      Consumed ls issue use deviceId v.pending i ∧ StoredBy ls use store v key now i ∧
      v.Sound c.shared.registry key := by
  obtain ⟨c₁, c₂, post, -, before, step, -, rest⟩ := run.cut h
  obtain ⟨job, m, pre, mid, rest', rfl, hmid, hbusy, v, hasked, hevents, hkey⟩ :=
    before.asserted_at serving_quiet step code
  have facts : ∀ ev ∈ v.events, ServerFact C identity c.shared ev := by
    intro ev hev
    have hthen := before.facts (F := fun _ ev s => ServerFact C identity s ev) serving_quiet
      (fun _ _ _ _ _ h => .of_step h) (fun _ _ _ _ _ _ h => ServerFact.kept h)
      (Or.inl ⟨job, m, rest', hbusy⟩) ev (hevents ▸ hev)
    exact rest.shared (T := fun s => ServerFact C identity s ev)
      (fun _ _ _ _ h => ServerFact.kept h) (hthen.kept step.answered)
  obtain ⟨mid₁, call, rfl, -, hcall⟩ := Pool.eventsOf_eq_append [_] hevents
  have hpop : pre ++ .started i job :: mid₁ ++
      [.did i (.did (.popPending deviceId) (some v.pending))] <+: ls := by
    refine List.IsPrefix.trans ⟨call ++ [.did i (.did (.storeSession deviceId key) now)], ?_⟩ h
    simp
  obtain ⟨issue, hconsumed⟩ := consumed_of_popped run hpop
  have hnostart : Pool.NoStart i call := fun l hl => hmid l (by simp [hl])
  exact ⟨v, issue, _, pre, _, job, hasked, rfl, hmid, hconsumed,
    ⟨⟨call, by simp, hnostart, hcall⟩, h⟩, Vetting.sound facts hkey⟩

/-- Where a challenge comes from: one call of `issue_challenge`, which drew it. -/
theorem challenge_provenance {i : ι} {deviceId : Text} {challenge : PendingChallenge}
    {issue : List (Pool.Label M ι)}
    (h : issue ++ [.did i (.did (.setPending deviceId challenge) ())] <+: ls) :
    ∃ job pre mid, issue = pre ++ .started i job :: mid ∧ Pool.NoStart i mid ∧
      Drawn deviceId challenge (Pool.eventsOf i mid) := by
  obtain ⟨c₁, c₂, post, -, before, step, -, rest⟩ := run.cut h
  obtain ⟨job, m, pre, mid, rest', hsplit, hmid, hbusy, hdrawn⟩ :=
    before.asserted_at serving_quiet step code
  exact ⟨job, pre, mid, hsplit, hmid, hdrawn⟩

end

end

/-! ## The verifier on its own -/

/-- The calls of `AttestationVerifier`, with their arguments. -/
inductive VerifierCall where
  | issueChallenge (deviceId : Text)
  | verifyAndDerive (deviceId : Text) (response : AttestResponse)
  | sessionKey (deviceId : Text)
  | checkAndAdvanceSeq (deviceId : Text) (seq : JsonValue)
  | isAttested (deviceId : Text)

/-- What they return. -/
inductive VerifierReply where
  | challenge (message : ChallengeMessage)
  | serverSig (sig : Bytes)
  | key (key : Option Bytes)
  | accepted (ok : Bool)
  | attested (ok : Bool)

def verifierCall (C : CryptoLib) (identity : Point) : VerifierCall → Py Unit VerifierReply
  | .issueChallenge deviceId => .challenge <$> issueChallenge identity deviceId
  | .verifyAndDerive deviceId response => .serverSig <$> verifyAndDerive C deviceId response
  | .sessionKey deviceId => .key <$> sessionKey deviceId
  | .checkAndAdvanceSeq deviceId seq => .accepted <$> checkAndAdvanceSeq deviceId seq
  | .isAttested deviceId => .attested <$> isAttested deviceId

/-- Threads that call the verifier. -/
@[reducible] def verifierMachine (C : CryptoLib) (identity : Point) : Machine Server where
  Job := VerifierCall
  Mem := Unit
  Out := Except PyError VerifierReply × Unit
  code call _ := (verifierCall C identity call).go ()
  mem _ := ()

/-- The response a call is given. -/
def VerifierCall.asked (call : VerifierCall) (deviceId : Text) (response : AttestResponse) : Prop :=
  call = .verifyAndDerive deviceId response

theorem verifierMachine_vets (C : CryptoLib) (identity : Point) (call : VerifierCall) (m : Unit) :
    wp (Vetted C call.asked) ((verifierMachine C identity).code call m) (fun _ _ => True) [] := by
  suffices h : wpP (Vetted C call.asked) (verifierCall C identity call) (fun _ _ _ => True)
      (fun _ _ _ => True) () [] by
    refine wp_conseq h ?_
    intros
    trivial
  cases call with
  | issueChallenge deviceId =>
    have hvets : ∀ tr c, IssueCall deviceId tr c →
        Vetted C (VerifierCall.asked (.issueChallenge deviceId)) tr c := fun _ _ => IssueCall.vetted
    have h := wpP_weaken (@issueChallenge_spec Unit () identity deviceId) hvets
    refine wpP_map.mpr (wpP_conseq h ?_ ?_) <;> intros <;> trivial
  | verifyAndDerive deviceId response =>
    have hasked : VerifierCall.asked (.verifyAndDerive deviceId response) deviceId response := rfl
    have h := wpP_weaken (verifyAndDerive_spec (C := C) (s := ())) fun tr c => VerifyCall.vetted hasked
    refine wpP_map.mpr (wpP_conseq h ?_ ?_) <;> intros <;> trivial
  | sessionKey deviceId => simp [verifierCall, sessionKey, Vetted]
  | checkAndAdvanceSeq deviceId seq =>
    cases hseq : seqOf seq <;> simp [verifierCall, checkAndAdvanceSeq, hseq, Vetted]
  | isAttested deviceId => simp [verifierCall, isAttested, sessionKey, Vetted]

section

variable {ι : Type} [DecidableEq ι]

/-- **Soundness of the verifier over whole runs**, of any number of threads, from the server's
start on.

* A stored session comes from one `verify_and_derive` call, which took one challenge that was
  drawn for the device, was its latest, and was at most its lifetime old; everything the call
  checked is so (`Vetting.Sound`); the session is the call's, with `last_seq` 0.
* A challenge is taken by one call at most, and yields one session at most.
* A key that is handed out, and a sequence number that is accepted, belong to the session stored
  last, within its lifetime. -/
theorem verifier_soundness (C : CryptoLib) (identity : Point) (registry : Registry)
    {ls : List (Pool.Label (verifierMachine C identity) ι)}
    {c : Pool.Config (verifierMachine C identity) ι ServerState}
    (run : Pool.Run (fun _ => ServerStep C identity) Pool.Any
      (serving (verifierMachine C identity) registry fun _ => ()) ls c) :
    (∀ store i deviceId key now,
      store ++ [.did i (.did (.storeSession deviceId key) now)] <+: ls →
      ∃ (v : Vetting C deviceId) (issue use : List (Pool.Label (verifierMachine C identity) ι)),
        (∃ pre mid, store = pre ++ .started i (VerifierCall.verifyAndDerive deviceId v.response) :: mid ∧
          Pool.NoStart i mid) ∧
        (∃ j job pre mid, issue = pre ++ .started j job :: mid ∧ Pool.NoStart j mid ∧
          issue ++ [.did j (.did (.setPending deviceId v.pending) ())] <+: ls ∧
          Drawn deviceId v.pending (Pool.eventsOf j mid)) ∧
        Consumed ls issue use deviceId v.pending i ∧ StoredBy ls use store v key now i ∧
        v.now - v.pending.issuedAt ≤ attestChallengeTtl ∧ v.Sound c.shared.registry key) ∧
    (∀ store (i : ι) deviceId key now c₁, Pool.Run (fun _ => ServerStep C identity) Pool.Any
      (serving (verifierMachine C identity) registry fun _ => ())
      (store ++ [.did i (.did (.storeSession deviceId key) now)]) c₁ →
      c₁.shared.sessions deviceId = some ⟨key, now + deviceSessionTtl, 0⟩) ∧
    (∀ issue use use' deviceId deviceId' challenge challenge' i i',
      Consumed ls issue use deviceId challenge i → Consumed ls issue use' deviceId' challenge' i' →
      use = use' ∧ i = i') ∧
    (∀ use store store' deviceId (v v' : Vetting C deviceId) key key' now now' i,
      StoredBy ls use store v key now i → StoredBy ls use store' v' key' now' i → store = store') ∧
    (∀ pre i deviceId now key, pre ++ [.did i (.did (.sessionKey deviceId) (now, some key))] <+: ls →
      History.LastWith (Pool.Label.Did (StoresSession deviceId)) (fun l _ => ∃ j stored,
        l = .did j (.did (.storeSession deviceId key) stored) ∧
        now ≤ stored + deviceSessionTtl) pre) ∧
    (∀ pre i deviceId seq now, pre ++ [.did i (.did (.advanceSeq deviceId seq) (now, true))] <+: ls →
      History.LastWith (Pool.Label.Did (StoresSession deviceId)) (fun l _ => ∃ j key stored,
        l = .did j (.did (.storeSession deviceId key) stored) ∧
        now ≤ stored + deviceSessionTtl) pre) := by
  have code := verifierMachine_vets C identity
  refine ⟨?_, ?_, ?_, ?_, ?_, ?_⟩
  · intro store i deviceId key now hstore
    obtain ⟨v, issue, use, pre, mid, job, rfl, hsplit, hmid, hconsumed, hstored, hsound⟩ :=
      session_provenance code run hstore
    obtain ⟨j, between, huse, -⟩ := hconsumed.untouched
    have hissue : issue ++ [.did j (.did (.setPending deviceId v.pending) ())] <+: ls := by
      refine List.IsPrefix.trans ⟨between ++
        [.did i (.did (.popPending deviceId) (some v.pending))], ?_⟩ hconsumed.used
      rw [huse]
      simp
    obtain ⟨job, pre', mid', hissued, hmid', hdrawn⟩ := challenge_provenance code run hissue
    exact ⟨v, issue, use, ⟨pre, mid, hsplit, hmid⟩, ⟨j, job, pre', mid', hissued, hmid', hissue,
      hdrawn⟩, hconsumed, hstored, v.fresh, hsound⟩
  · intro store i deviceId key now c₁ hrun
    obtain ⟨c₀, -, step, -⟩ := hrun.last
    have hstored : c₁.shared = c₀.shared.storeSession deviceId key now := step.answered
    rw [hstored]
    exact Function.update_self ..
  · intro issue use use' deviceId deviceId' challenge challenge' i i' h h'
    obtain ⟨huse, hi, -, -⟩ := h.unique h'
    exact ⟨huse, hi⟩
  · intro use store store' deviceId v v' key key' now now' i h h'
    exact h.unique h'
  · intro pre i deviceId now key hmem
    obtain ⟨c₁, c₂, post, -, before, step, -, -⟩ := run.cut hmem
    obtain ⟨sess, hsess, rfl, hlive⟩ := ServerStep.handed_out step.answered
    refine (session_stored before hsess).mono ?_
    intro l _ ⟨j, stored, hl, hexpires⟩
    exact ⟨j, stored, hl, hexpires ▸ hlive⟩
  · intro pre i deviceId seq now hmem
    obtain ⟨c₁, c₂, post, -, before, step, -, -⟩ := run.cut hmem
    obtain ⟨sess, hsess, hlive, -, -⟩ := ServerStep.accepted step.answered
    refine (session_stored before hsess).mono ?_
    intro l _ ⟨j, stored, hl, hexpires⟩
    exact ⟨j, sess.key, stored, hl, hexpires ▸ hlive⟩

end

namespace Vectors

/-- One thread: a challenge, the device's answer to it, and a first sequence number. -/
def oneHandshake : List (Pool.Label (verifierMachine lib serverIdentity.pub) (Fin 1)) ×
    Pool.Config (verifierMachine lib serverIdentity.pub) (Fin 1) ServerState :=
  playServer lib serverIdentity.pub (fun _ _ => firstDesk) (serving _ enrolled fun _ => ()) (
    byItself 0 (VerifierCall.issueChallenge deviceName) ++
    byItself 0 (VerifierCall.verifyAndDerive deviceName genuineAnswer) ++
    byItself 0 (VerifierCall.checkAndAdvanceSeq deviceName (.int 1)))

theorem oneHandshake_run : Pool.Run (fun _ => ServerStep lib serverIdentity.pub) Pool.Any
    (serving _ enrolled fun _ => ()) oneHandshake.1 oneHandshake.2 := playServer_run ..

end Vectors

/-- The keys a run stores. -/
def storedKeys {M : Machine Server} {ι : Type} (ls : List (Pool.Label M ι)) : List (Text × Bytes) :=
  ls.filterMap fun
    | .did _ (.did (.storeSession deviceId key) _) => some (deviceId, key)
    | _ => none

theorem mem_storedKeys {M : Machine Server} {ι : Type} {ls : List (Pool.Label M ι)}
    {keys : List (Text × Bytes)} {deviceId : Text} {key : Bytes} (hkeys : storedKeys ls = keys)
    (h : (deviceId, key) ∈ keys) :
    ∃ store i now, store ++ [.did i (.did (.storeSession deviceId key) now)] <+: ls := by
  rw [← hkeys] at h
  obtain ⟨l, hl, hkey⟩ := List.mem_filterMap.mp h
  split at hkey
  · rename_i i id key' now
    cases hkey
    obtain ⟨store, post, rfl⟩ := List.append_of_mem hl
    exact ⟨store, i, now, post, by simp⟩
  · cases hkey

/-- The device's handshake, played: one session, vetted, and its first sequence number accepted. -/
theorem verifier_soundness_played :
    storedKeys Vectors.oneHandshake.1 = [(Vectors.deviceName, Vectors.sessionKey)] ∧
      (Vectors.oneHandshake.2.shared.sessions Vectors.deviceName).map (·.lastSeq) = some 1 ∧
      ∃ v : Vetting Vectors.lib Vectors.deviceName,
        v.Sound Vectors.oneHandshake.2.shared.registry Vectors.sessionKey := by
  obtain ⟨hkeys, hseq⟩ :
      storedKeys Vectors.oneHandshake.1 = [(Vectors.deviceName, Vectors.sessionKey)] ∧
        (Vectors.oneHandshake.2.shared.sessions Vectors.deviceName).map (·.lastSeq) = some 1 := by
    decide +kernel
  refine ⟨hkeys, hseq, ?_⟩
  obtain ⟨store, i, now, hstore⟩ := mem_storedKeys hkeys (List.mem_singleton_self _)
  obtain ⟨v, -, -, -, -, -, -, -, hsound⟩ :=
    (verifier_soundness Vectors.lib Vectors.serverIdentity.pub Vectors.enrolled
      Vectors.oneHandshake_run).1 store i _ _ now hstore
  exact ⟨v, hsound⟩

end ConfidentialIoT
