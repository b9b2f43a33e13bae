import ConfidentialIoT.Lib.Keeps
import ConfidentialIoT.Server.Registry
import ConfidentialIoT.TrustedApp.Session

/-!
# `Server/State.lean` — what the server's threads share, and the steps they take on it

Connection threads share the registry, the verifier's two dicts, and the link's buffers. A step
is what happens at once: one dict operation, the body of one `with self._lock` block, a reading
of the clock, a draw, a check or a signature of the `cryptography` package. `ServerStep` says
what each step answers and does; everything between two steps is pure and stays a Lean function.

A locked block that reads the clock answers with the time it read, next to its result.
-/

set_option autoImplicit false

namespace ConfidentialIoT

open Effects

/-! ## Constants -/

def attestNonceLen : Nat := 32
def attestChallengeTtl : Time := seconds 30
def deviceSessionTtl : Time := seconds 3600
def deviceEcdhPubkeyLen : Nat := 65
def taIdentitySigLen : Nat := 64
def aeadKeyLen : Nat := 32
/-- `_MAX_BUFFER` -/
def maxBuffer : Nat := 100000

/-! ## `cryptography` -/

/-- A public key of an elliptic curve: a point of P-256, or a PEM of any curve. -/
inductive EcPublicKey where
  | p256 (q : Point)
  | pem (text : Text)
deriving DecidableEq, Repr

/-- `load_pem_public_key`: a `ValueError`, a key of another kind, or an EC key. -/
inductive PemKey where
  | invalid | notEc | ec
deriving DecidableEq, Repr

/-- The package: the primitives, and its parsers of keys and points. -/
structure CryptoLib extends Crypto where
  loadPem : Text → PemKey
  /-- ECDSA with SHA-256 under a PEM's key, over a message -/
  pemVerify : Text → (message : Bytes) → (r s : Nat) → Bool
  /-- `EllipticCurvePublicKey.from_encoded_point(SECP256R1(), …)`; `none` is its `ValueError` -/
  fromEncodedPoint : Bytes → Option Point
  /-- a point of 65 bytes is the uncompressed encoding of what it decodes to -/
  fromEncodedPoint_sec1 : ∀ b q, b.length = 65 → fromEncodedPoint b = some q → q.sec1 = b
  /-- `AESGCM(key).decrypt(nonce, data, aad)`: the plaintext, `InvalidTag`, or `ValueError` -/
  aeadDecrypt : (key nonce data aad : Bytes) → Except StdError Bytes

/-- `key.verify(encode_dss_signature(r, s), message, ECDSA(SHA256()))`, without its
`InvalidSignature`. -/
def CryptoLib.ecVerify (C : CryptoLib) : EcPublicKey → (message : Bytes) → (r s : Nat) → Bool
  | .p256 q, message, r, s =>
    decide (r < 256 ^ 32) && decide (s < 256 ^ 32) &&
      C.ecdsaVerify q (C.sha256 message) (Bytes.toBE 32 r ++ Bytes.toBE 32 s)
  | .pem text, message, r, s => C.pemVerify text message r s

/-! ## The state -/

structure PendingChallenge where
  nonce : Bytes
  serverPriv : Scalar
  serverPub : Bytes
  issuedAt : Time
deriving DecidableEq, Repr

structure DeviceSession where
  key : Bytes
  expires : Time
  /-- the highest sequence number accepted so far -/
  lastSeq : Nat
deriving DecidableEq, Repr

/-- A verdict of the dashboard. -/
structure Verdict where
  attested : Bool
  integrity : Text
  note : Text
  lastSeen : Time
deriving DecidableEq, Repr

/-- One sample; its numbers are doubles, by their bits. -/
structure Sample where
  ts : UInt64
  value : UInt64
  sensorId : Text
  unit : Text
deriving DecidableEq, Repr

structure ServerState where
  registry : Registry
  pending : Text → Option PendingChallenge
  sessions : Text → Option DeviceSession
  buf : Text → List Sample
  verdict : Text → Option Verdict

/-- A server that has just started on a registry. -/
def ServerState.started (registry : Registry) : ServerState where
  registry := registry
  pending := fun _ => none
  sessions := fun _ => none
  buf := fun _ => []
  verdict := fun _ => none

/-! ## Steps -/

inductive ServerAct where
  /-- `DeviceRegistry.lookup` -/
  | lookup (deviceId : Text)
  /-- `DeviceRegistry.register` -/
  | register (deviceId akPubPem expectedPcr pcrBank taPubB64 : Text)
  /-- `time.time()` -/
  | time
  /-- `crypto.random_bytes` -/
  | randomBytes (n : Nat)
  /-- `crypto.p256_generate` -/
  | p256Generate
  /-- `self._pending[device_id] = …` -/
  | setPending (deviceId : Text) (challenge : PendingChallenge)
  /-- `self._pending.pop(device_id, None)` -/
  | popPending (deviceId : Text)
  | ecVerify (key : EcPublicKey) (message : Bytes) (r s : Nat)
  /-- the locked store of `verify_and_derive` -/
  | storeSession (deviceId : Text) (key : Bytes)
  /-- `crypto.sign_server_identity_raw` -/
  | signServerIdentity (preimage : Bytes)
  /-- the locked body of `session_key` -/
  | sessionKey (deviceId : Text)
  /-- the locked body of `check_and_advance_seq` -/
  | advanceSeq (deviceId : Text) (seq : Nat)
  /-- a locked update of `_verdict` -/
  | setVerdict (deviceId : Text) (verdict : Verdict)
  /-- the locked update of `_buf` and `_verdict` -/
  | extendBuffer (deviceId : Text) (samples : List Sample) (verdict : Verdict)
  | writeline (reply : JsonValue)

@[reducible] def ServerAct.Res : ServerAct → Type
  | .lookup _ => Option DeviceRecord
  | .register _ _ _ _ _ => Time × Except KeyMismatch (DeviceRecord × Bool)
  | .time => Time
  | .randomBytes n => BytesN n
  | .p256Generate => Scalar × Bytes
  | .setPending _ _ => Unit
  | .popPending _ => Option PendingChallenge
  | .ecVerify _ _ _ _ => Bool
  | .storeSession _ _ => Time
  | .signServerIdentity _ => Bytes
  | .sessionKey _ => Time × Option Bytes
  | .advanceSeq _ _ => Time × Bool
  | .setVerdict _ _ => Unit
  | .extendBuffer _ _ _ => Unit
  | .writeline _ => Unit

@[reducible] def Server : Sig where
  Err := Empty
  Req := Empty
  Out := nofun
  Act := ServerAct
  Res := ServerAct.Res

/-! ## The locked blocks -/

namespace ServerState

variable (s : ServerState)

/-- `self._sessions[device_id] = DeviceSession(key, now + TTL)` -/
def storeSession (deviceId : Text) (key : Bytes) (now : Time) : ServerState :=
  let sess : DeviceSession := ⟨key, now + deviceSessionTtl, 0⟩
  { s with sessions := Function.update s.sessions deviceId (some sess) }

/-- The locked body of `session_key`: an expired session is removed. -/
def sessionKey (deviceId : Text) (now : Time) : Option Bytes × ServerState :=
  match s.sessions deviceId with
  | none => (none, s)
  | some sess =>
    if sess.expires < now then
      (none, { s with sessions := Function.update s.sessions deviceId none })
    else (some sess.key, s)

/-- The locked body of `check_and_advance_seq`. -/
def advanceSeq (deviceId : Text) (seq : Nat) (now : Time) : Bool × ServerState :=
  match s.sessions deviceId with
  | none => (false, s)
  | some sess =>
    if sess.expires < now then (false, s)
    else if seq ≤ sess.lastSeq then (false, s)
    else
      let sess := { sess with lastSeq := seq }
      (true, { s with sessions := Function.update s.sessions deviceId (some sess) })

/-- `deque(maxlen=_MAX_BUFFER).extend`: the oldest samples drop out. -/
def extendBuffer (deviceId : Text) (samples : List Sample) (verdict : Verdict) : ServerState :=
  let all := s.buf deviceId ++ samples
  { s with
    buf := Function.update s.buf deviceId (all.drop (all.length - maxBuffer))
    verdict := Function.update s.verdict deviceId (some verdict) }

/-- `DeviceRegistry.register`. -/
def register (deviceId akPubPem expectedPcr pcrBank taPubB64 : Text) (now : Time) :
    Except KeyMismatch (DeviceRecord × Bool) × ServerState :=
  match s.registry.register now deviceId akPubPem expectedPcr pcrBank taPubB64 with
  | .error e => (.error e, s)
  | .ok (record, new, registry) => (.ok (record, new), { s with registry := registry })

end ServerState

/-- What a step answers and does. `identity` is the public half of the server's identity key. -/
def ServerStep (C : CryptoLib) (identity : Point) (s : ServerState) :
    Event Server → ServerState → Prop
  | .did (.lookup deviceId) record, s' => record = s.registry deviceId ∧ s' = s
  | .did (.register deviceId ak pcr bank ta) r, s' =>
    (r.2, s') = s.register deviceId ak pcr bank ta r.1
  | .did .time _, s' => s' = s
  | .did (.randomBytes _) _, s' => s' = s
  | .did .p256Generate r, s' => r.2 = (C.pub r.1).sec1 ∧ s' = s
  | .did (.setPending deviceId challenge) _, s' =>
    s' = { s with pending := Function.update s.pending deviceId (some challenge) }
  | .did (.popPending deviceId) challenge, s' => challenge = s.pending deviceId ∧
    s' = { s with pending := Function.update s.pending deviceId none }
  | .did (.ecVerify key message r t) ok, s' => ok = C.ecVerify key message r t ∧ s' = s
  | .did (.storeSession deviceId key) now, s' => s' = s.storeSession deviceId key now
  | .did (.signServerIdentity preimage) sig, s' => sig.length = 64 ∧
    C.ecdsaVerify identity (C.sha256 preimage) sig = true ∧ s' = s
  | .did (.sessionKey deviceId) r, s' => (r.2, s') = s.sessionKey deviceId r.1
  | .did (.advanceSeq deviceId seq) r, s' => (r.2, s') = s.advanceSeq deviceId seq r.1
  | .did (.setVerdict deviceId verdict) _, s' =>
    s' = { s with verdict := Function.update s.verdict deviceId (some verdict) }
  | .did (.extendBuffer deviceId samples verdict) _, s' =>
    s' = s.extendBuffer deviceId samples verdict
  | .did (.writeline _) _, s' => s' = s
  | .ok r _, _ => nomatch r
  | .refused r _, _ => nomatch r

/-! ## What a step can do -/

section

variable {C : CryptoLib} {identity : Point} {s s' : ServerState} {ev : Event Server}

/-- The events that touch a device's pending challenge. -/
def TouchesPending (deviceId : Text) : Event Server → Prop
  | .did (.setPending id _) _ => id = deviceId
  | .did (.popPending id) _ => id = deviceId
  | _ => False

theorem ServerStep.pending_cases (h : ServerStep C identity s ev s') (deviceId : Text) :
    (¬ TouchesPending deviceId ev ∧ s'.pending deviceId = s.pending deviceId) ∨
    (∃ challenge, ev = .did (.setPending deviceId challenge) () ∧
      s'.pending deviceId = some challenge) ∨
    (ev = .did (.popPending deviceId) (s.pending deviceId) ∧ s'.pending deviceId = none) := by
  cases ev with
  | ok r b => cases r
  | refused r e => cases r
  | did a b =>
    cases a with
    | setPending id challenge =>
      obtain rfl := h
      by_cases hid : id = deviceId
      · subst hid
        exact Or.inr (Or.inl ⟨challenge, rfl, Function.update_self ..⟩)
      · exact Or.inl ⟨hid, Function.update_of_ne (Ne.symm hid) ..⟩
    | popPending id =>
      obtain ⟨rfl, rfl⟩ := h
      by_cases hid : id = deviceId
      · subst hid
        exact Or.inr (Or.inr ⟨rfl, Function.update_self ..⟩)
      · exact Or.inl ⟨hid, Function.update_of_ne (Ne.symm hid) ..⟩
    | storeSession id key =>
      obtain rfl := h
      exact Or.inl ⟨not_false, rfl⟩
    | register id ak pcr bank ta =>
      have hs' := congrArg Prod.snd h
      refine Or.inl ⟨not_false, ?_⟩
      rw [show s' = _ from hs', ServerState.register]
      split <;> rfl
    | sessionKey id =>
      have hs' := congrArg Prod.snd h
      refine Or.inl ⟨not_false, ?_⟩
      rw [show s' = _ from hs', ServerState.sessionKey]
      split
      · rfl
      · split <;> rfl
    | advanceSeq id seq =>
      have hs' := congrArg Prod.snd h
      refine Or.inl ⟨not_false, ?_⟩
      rw [show s' = _ from hs', ServerState.advanceSeq]
      split
      · rfl
      · split
        · rfl
        · split <;> rfl
    | setVerdict id verdict =>
      obtain rfl := h
      exact Or.inl ⟨not_false, rfl⟩
    | extendBuffer id samples verdict =>
      obtain rfl := h
      exact Or.inl ⟨not_false, rfl⟩
    | lookup _ | p256Generate | ecVerify _ _ _ _ =>
      obtain ⟨-, rfl⟩ := h
      exact Or.inl ⟨not_false, rfl⟩
    | signServerIdentity _ =>
      obtain ⟨-, -, rfl⟩ := h
      exact Or.inl ⟨not_false, rfl⟩
    | time | randomBytes _ | writeline _ =>
      obtain rfl := h
      exact Or.inl ⟨not_false, rfl⟩

/-- The ways a step changes a device's session. -/
inductive SessionChange (deviceId : Text) (before : Option DeviceSession) :
    Event Server → Option DeviceSession → Prop where
  | stored (key : Bytes) (now : Time) : SessionChange deviceId before
      (.did (.storeSession deviceId key) now) (some ⟨key, now + deviceSessionTtl, 0⟩)
  | removed (now : Time) (sess : DeviceSession) (h : before = some sess)
      (expired : sess.expires < now) :
      SessionChange deviceId before (.did (.sessionKey deviceId) (now, none)) none
  | advanced (seq : Nat) (now : Time) (sess : DeviceSession) (h : before = some sess)
      (live : now ≤ sess.expires) (higher : sess.lastSeq < seq) :
      SessionChange deviceId before (.did (.advanceSeq deviceId seq) (now, true))
        (some { sess with lastSeq := seq })

/-- The events that store a session. -/
def StoresSession (deviceId : Text) : Event Server → Prop
  | .did (.storeSession id _) _ => id = deviceId
  | _ => False

theorem ServerStep.session_cases (h : ServerStep C identity s ev s') (deviceId : Text) :
    (¬ StoresSession deviceId ev ∧ s'.sessions deviceId = s.sessions deviceId) ∨
      SessionChange deviceId (s.sessions deviceId) ev (s'.sessions deviceId) := by
  cases ev with
  | ok r b => cases r
  | refused r e => cases r
  | did a b =>
    cases a with
    | storeSession id key =>
      obtain rfl := h
      by_cases hid : id = deviceId
      · subst hid
        refine Or.inr ?_
        simp only [ServerState.storeSession, Function.update_self]
        exact .stored key b
      · exact Or.inl ⟨hid, Function.update_of_ne (Ne.symm hid) ..⟩
    | sessionKey id =>
      obtain ⟨now, key⟩ := b
      have hs := h
      simp only [ServerStep, ServerState.sessionKey] at hs
      cases hsess : s.sessions id with
      | none =>
        rw [hsess] at hs
        cases hs
        exact Or.inl ⟨not_false, rfl⟩
      | some sess =>
        rw [hsess] at hs
        simp only at hs
        split at hs
        · cases hs
          by_cases hid : id = deviceId
          · subst hid
            refine Or.inr ?_
            simp only [Function.update_self]
            exact .removed now sess hsess ‹_›
          · exact Or.inl ⟨not_false, Function.update_of_ne (Ne.symm hid) ..⟩
        · cases hs
          exact Or.inl ⟨not_false, rfl⟩
    | advanceSeq id seq =>
      obtain ⟨now, ok⟩ := b
      have hs := h
      simp only [ServerStep, ServerState.advanceSeq] at hs
      cases hsess : s.sessions id with
      | none =>
        rw [hsess] at hs
        cases hs
        exact Or.inl ⟨not_false, rfl⟩
      | some sess =>
        rw [hsess] at hs
        simp only at hs
        split at hs
        · cases hs
          exact Or.inl ⟨not_false, rfl⟩
        · split at hs
          · cases hs
            exact Or.inl ⟨not_false, rfl⟩
          · rename_i hlive hseq
            cases hs
            by_cases hid : id = deviceId
            · subst hid
              refine Or.inr ?_
              simp only [Function.update_self]
              exact .advanced seq now sess hsess (Int.not_lt.mp hlive) (Nat.not_le.mp hseq)
            · exact Or.inl ⟨not_false, Function.update_of_ne (Ne.symm hid) ..⟩
    | register id ak pcr bank ta =>
      have hs' := congrArg Prod.snd h
      refine Or.inl ⟨not_false, ?_⟩
      rw [show s' = _ from hs', ServerState.register]
      split <;> rfl
    | setPending id challenge =>
      obtain rfl := h
      exact Or.inl ⟨not_false, rfl⟩
    | popPending id =>
      obtain ⟨-, rfl⟩ := h
      exact Or.inl ⟨not_false, rfl⟩
    | setVerdict id verdict =>
      obtain rfl := h
      exact Or.inl ⟨not_false, rfl⟩
    | extendBuffer id samples verdict =>
      obtain rfl := h
      exact Or.inl ⟨not_false, rfl⟩
    | lookup _ | p256Generate | ecVerify _ _ _ _ =>
      obtain ⟨-, rfl⟩ := h
      exact Or.inl ⟨not_false, rfl⟩
    | signServerIdentity _ =>
      obtain ⟨-, -, rfl⟩ := h
      exact Or.inl ⟨not_false, rfl⟩
    | time | randomBytes _ | writeline _ =>
      obtain rfl := h
      exact Or.inl ⟨not_false, rfl⟩

/-- The verdict an event gives a device. -/
def verdictOf (deviceId : Text) : Event Server → Option Verdict
  | .did (.setVerdict id verdict) _ => if id = deviceId then some verdict else none
  | .did (.extendBuffer id _ verdict) _ => if id = deviceId then some verdict else none
  | _ => none

/-- A device's verdict is what it was given last. -/
theorem ServerStep.verdict_eq (h : ServerStep C identity s ev s') (deviceId : Text) :
    s'.verdict deviceId = (verdictOf deviceId ev).or (s.verdict deviceId) := by
  cases ev with
  | ok r b => cases r
  | refused r e => cases r
  | did a b =>
    cases a with
    | setVerdict id verdict =>
      obtain rfl := h
      by_cases hid : id = deviceId
      · subst hid
        simp [verdictOf]
      · simp only [verdictOf, if_neg hid, Option.none_or]
        exact Function.update_of_ne (Ne.symm hid) ..
    | extendBuffer id samples verdict =>
      obtain rfl := h
      by_cases hid : id = deviceId
      · subst hid
        simp [verdictOf, ServerState.extendBuffer]
      · simp only [verdictOf, if_neg hid, Option.none_or]
        exact Function.update_of_ne (Ne.symm hid) ..
    | register id ak pcr bank ta =>
      have hs' := congrArg Prod.snd h
      rw [show s' = _ from hs', ServerState.register]
      split <;> rfl
    | sessionKey id =>
      have hs' := congrArg Prod.snd h
      rw [show s' = _ from hs', ServerState.sessionKey]
      split
      · rfl
      · split <;> rfl
    | advanceSeq id seq =>
      have hs' := congrArg Prod.snd h
      rw [show s' = _ from hs', ServerState.advanceSeq]
      split
      · rfl
      · split
        · rfl
        · split <;> rfl
    | storeSession _ _ | setPending _ _ | time | randomBytes _ | writeline _ =>
      obtain rfl := h
      rfl
    | lookup _ | p256Generate | ecVerify _ _ _ _ | popPending _ =>
      obtain ⟨-, rfl⟩ := h
      rfl
    | signServerIdentity _ =>
      obtain ⟨-, -, rfl⟩ := h
      rfl

/-- A key that is handed out is the one of a session that has not expired. -/
theorem ServerStep.handed_out {deviceId : Text} {now : Time} {key : Bytes}
    (h : ServerStep C identity s (.did (.sessionKey deviceId) (now, some key)) s') :
    ∃ sess, s.sessions deviceId = some sess ∧ sess.key = key ∧ now ≤ sess.expires := by
  have hs : some key = _ := congrArg Prod.fst h
  rw [ServerState.sessionKey] at hs
  cases hsess : s.sessions deviceId with
  | none =>
    rw [hsess] at hs
    cases hs
  | some sess =>
    rw [hsess] at hs
    simp only at hs
    split at hs
    · cases hs
    · rename_i hlive
      cases hs
      exact ⟨sess, rfl, rfl, Int.not_lt.mp hlive⟩

/-- A sequence number that is accepted advances a session that has not expired. -/
theorem ServerStep.accepted {deviceId : Text} {now : Time} {seq : Nat}
    (h : ServerStep C identity s (.did (.advanceSeq deviceId seq) (now, true)) s') :
    ∃ sess, s.sessions deviceId = some sess ∧ now ≤ sess.expires ∧ sess.lastSeq < seq ∧
      s'.sessions deviceId = some { sess with lastSeq := seq } := by
  rcases h.session_cases deviceId with ⟨-, hsame⟩ | hchange
  · have hs := h
    simp only [ServerStep, ServerState.advanceSeq] at hs
    cases hsess : s.sessions deviceId with
    | none =>
      rw [hsess] at hs
      cases hs
    | some sess =>
      rw [hsess] at hs
      simp only at hs
      split at hs
      · cases hs
      · split at hs
        · cases hs
        · rename_i hlive hseq
          cases hs
          exact ⟨sess, rfl, Int.not_lt.mp hlive, Nat.not_le.mp hseq, Function.update_self ..⟩
  · generalize hs' : s'.sessions deviceId = after at hchange
    cases hchange with
    | advanced _ _ sess hsess live higher => exact ⟨sess, hsess, live, higher, rfl⟩

end

/-! ## What an event says -/

section

variable {C : CryptoLib} {identity : Point} {s s' : ServerState} {ev ev' : Event Server}

/-- A registered device stays what it is. -/
theorem ServerStep.registered_kept {deviceId : Text} {record : DeviceRecord}
    (h : ServerStep C identity s ev s') (hreg : s.registry deviceId = some record) :
    s'.registry deviceId = some record := by
  cases ev with
  | ok r b => cases r
  | refused r e => cases r
  | did a b =>
    cases a with
    | register id ak pcr bank ta =>
      have hs' := congrArg Prod.snd h
      rw [show s' = _ from hs', ServerState.register]
      split
      · exact hreg
      · exact Registry.register_kept ‹_› hreg
    | sessionKey id =>
      have hs' := congrArg Prod.snd h
      rw [show s' = _ from hs', ServerState.sessionKey]
      split
      · exact hreg
      · split <;> exact hreg
    | advanceSeq id seq =>
      have hs' := congrArg Prod.snd h
      rw [show s' = _ from hs', ServerState.advanceSeq]
      split
      · exact hreg
      · split
        · exact hreg
        · split <;> exact hreg
    | storeSession _ _ | setPending _ _ | setVerdict _ _ | extendBuffer _ _ _ =>
      obtain rfl := h
      exact hreg
    | time | randomBytes _ | writeline _ =>
      obtain rfl := h
      exact hreg
    | lookup _ | p256Generate | ecVerify _ _ _ _ | popPending _ =>
      obtain ⟨-, rfl⟩ := h
      exact hreg
    | signServerIdentity _ =>
      obtain ⟨-, -, rfl⟩ := h
      exact hreg

/-- What an answered step says about the state from then on, and about itself. -/
def ServerFact (C : CryptoLib) (identity : Point) (s : ServerState) : Event Server → Prop
  | .did (.lookup deviceId) (some record) => s.registry deviceId = some record
  | .did .p256Generate drawn => drawn.2 = (C.pub drawn.1).sec1
  | .did (.ecVerify key message r t) ok => ok = C.ecVerify key message r t
  | .did (.signServerIdentity preimage) sig => sig.length = 64 ∧
    C.ecdsaVerify identity (C.sha256 preimage) sig = true
  | _ => True

theorem ServerFact.of_step (h : ServerStep C identity s ev s') :
    ServerFact C identity s' ev := by
  unfold ServerFact
  split
  · obtain ⟨hrecord, rfl⟩ := h
    exact hrecord.symm
  · exact h.1
  · exact h.1
  · exact ⟨h.1, h.2.1⟩
  · trivial

theorem ServerFact.kept (h : ServerStep C identity s ev' s') (hfact : ServerFact C identity s ev) :
    ServerFact C identity s' ev := by
  unfold ServerFact at hfact ⊢
  split
  · exact h.registered_kept hfact
  · exact hfact
  · exact hfact
  · exact hfact
  · trivial

end

/-! ## The monad of the server's methods -/

/-- A method or a handler: it may raise, and it runs in a thread whose local state is `σ`. -/
abbrev Py (σ α : Type) : Type := Proc Server PyError σ α

section

variable {σ α : Type}

/-- Take a step. -/
def step (a : ServerAct) : Py σ a.Res := Proc.act (S := Server) a

/-- Pure code that may raise. -/
def raising (r : Raises α) : Py σ α := .ofOutcome r

/-- `raise AttestationError(…)` -/
def fails (why : AttestationFailure) : Py σ α := throw (.attestation why)

variable {A : List (Event Server) → Call Server → Prop}
  {E : List (Event Server) → σ → PyError → Prop} {s : σ} {tr : List (Event Server)}

@[simp] theorem wpP_step {a : ServerAct} {Q : List (Event Server) → σ → a.Res → Prop} :
    wpP (α := no_index a.Res) A (step a) Q E s tr ↔
      A tr (.act a) ∧ ∀ b : a.Res, Q (tr ++ [.did a b]) s b := Iff.rfl

@[simp] theorem wpP_raising {r : Raises α} {Q : List (Event Server) → σ → α → Prop} :
    wpP A (raising r) Q E s tr ↔ (∀ a, r = .ok a → Q tr s a) ∧ ∀ e, r = .error e → E tr s e :=
  wpP_ofOutcome

@[simp] theorem wpP_fails {why : AttestationFailure} {Q : List (Event Server) → σ → α → Prop} :
    wpP A (fails why : Py σ α) Q E s tr ↔ E tr s (.attestation why) := Iff.rfl

end

end ConfidentialIoT
