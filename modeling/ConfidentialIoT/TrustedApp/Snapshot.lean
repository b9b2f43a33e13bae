import ConfidentialIoT.TrustedApp.Scripted

/-!
# `TrustedApp/Snapshot.lean` — HANDSHAKE_COMPLETE does not act on one snapshot

GENERATE_ATTESTATION_EVIDENCE copies its inputs before it hashes them, and its comment says why,
and that `authenticate_server` already works this way. It does not: the point, the nonce and
the presented identity key are read from the Host's buffers where the digest is computed, and
read *again* for the ECDH attributes, the HKDF salt and the pin.

So what the command acts on is what it verified exactly when the Host left those buffers alone
in between (`acts_on_snapshot_iff`), and the Host that does not is `swap_is_accepted`.
-/

set_option autoImplicit false

namespace ConfidentialIoT

open Effects

/-! ## A successful handshake, entry by entry -/

/-- Which key the signature was verified under, and what became of the pin. -/
inductive KeyUse where
  /-- the pinned key, equal to the presented one -/
  | pinned (key : BytesN ecdhPubkeySize)
  /-- the presented coordinates, and the presented key as it was pinned, if the create won -/
  | firstUse (x y : BytesN 32) (key : BytesN ecdhPubkeySize) (created : Bool)

namespace KeyUse

/-- The coordinates the signature was verified under. -/
def x : KeyUse → Bytes
  | .pinned key => key.1.slice 1 32
  | .firstUse x _ _ _ => x.1

def y : KeyUse → Bytes
  | .pinned key => key.1.slice 33 32
  | .firstUse _ y _ _ => y.1

theorem length_x (key : KeyUse) : key.x.length = 32 := by
  cases key with
  | pinned key => exact Bytes.length_slice _ _ _ (by simp [key.2, ecdhPubkeySize])
  | firstUse x y key created => exact x.2

/-- What happens before the signature is read. -/
def lookup : KeyUse → List (Event Tee)
  | .pinned key => [.ok (.readObjectData .serverPubkey ecdhPubkeySize) key.1,
      .did (.hostRead 2 0 ecdhPubkeySize) key]
  | .firstUse x y _ _ => [.did (.hostRead 2 1 32) x, .did (.hostRead 2 33 32) y]

/-- What happens after it was verified. -/
def pin : KeyUse → List (Event Tee)
  | .pinned _ => []
  | .firstUse _ _ key true => [.did (.hostRead 2 0 ecdhPubkeySize) key,
      .ok (.createPersistentObject .serverPubkey key.1) ()]
  | .firstUse _ _ key false => [.did (.hostRead 2 0 ecdhPubkeySize) key]

/-- A create that did not win was refused because the object existed. -/
def Lost (tr : List (Event Tee)) : KeyUse → Prop
  | .firstUse _ _ key false =>
    Event.refused (S := Tee) (.createPersistentObject .serverPubkey key.1) .accessConflict ∈ tr
  | _ => True

theorem Lost.mono {tr tr' : List (Event Tee)} (h : tr <+: tr') {key : KeyUse}
    (hl : key.Lost tr) : key.Lost tr' := by
  cases key with
  | pinned key => trivial
  | firstUse x y key created =>
    cases created with
    | true => trivial
    | false => exact h.subset hl

end KeyUse

/-- The server's signature was verified over `digest`, and the key dealt with. -/
def KeyChecked (digest : Bytes) (key : KeyUse) (evs : List (Event Tee)) : Prop :=
  ∃ sig : BytesN serverSigSize, evs = key.lookup ++ [
    .did (.hostRead 3 0 serverSigSize) sig,
    .ok (.asymmetricVerifyDigest key.x key.y digest sig.1) ()] ++ key.pin

/-- The nonce and the point were hashed. -/
def Hashed {n : Nat} (devicePub : Bytes) (nonce : BytesN n) (peer : BytesN ecdhPubkeySize)
    (digest : Bytes) (evs : List (Event Tee)) : Prop :=
  evs = [
    .did (.hostRead 1 0 n) nonce,
    .did (.hostRead 0 0 ecdhPubkeySize) peer,
    .ok (.digestDoFinal (serverIdentityPreimage nonce.1 peer.1 devicePub) transcriptHashSize)
      digest]

/-- The session key was derived from the point `x`, `y` with the salt `salt`. -/
def Derived {n : Nat} (keypair : EcKeyPair) (x y : BytesN 32) (salt : BytesN n)
    (evs : List (Event Tee)) : Prop :=
  ∃ shared ikm okm : Bytes, evs = [
    .did (.hostRead 0 1 32) x,
    .did (.hostRead 0 33 32) y,
    .did (.deriveEcdh keypair x.1 y.1) shared,
    .did (.hostRead 1 0 n) salt,
    .did (.deriveHkdf ikm salt.1 hkdfInfo sessionKeySize) okm]

section

variable {s : Frame} {tr : List (Event Tee)}

theorem serverIdentityDigest_spec (nonceLen : Nat) (devicePub : Bytes) :
    wpP (fun _ _ => True) (serverIdentityDigest nonceLen devicePub)
      (fun tr' s' digest => s' = s ∧ ∃ evs peer, ∃ nonce : BytesN nonceLen,
        essential tr' = essential tr ++ evs ∧ Hashed devicePub nonce peer digest evs)
      (fun _ _ _ => True) s tr := by
  simp [serverIdentityDigest, housekeeping]
  intro nonce hn peer hp digest
  exact ⟨peer, hp, nonce, hn, rfl⟩

theorem checkServerKey_spec (digest : Bytes) :
    wpP (fun _ _ => True) (checkServerKey serverSigSize digest)
      (fun tr' s' _ => s' = s ∧ ∃ evs key, essential tr' = essential tr ++ evs ∧
        KeyChecked digest key evs ∧ key.Lost tr')
      (fun _ _ _ => True) s tr := by
  simp only [checkServerKey, pinnedServerKey, verifyServerSignature, verifyKeyCoords, pinServerKey,
    wpP_bind, wpP_ite, wpP_openObject, wpP_createObject, wpP_tee, wpP_failWith, wpP_hostRead,
    wpP_pure, wpP_throw, implies_true, and_true, true_and, Option.isNone_some, Option.isNone_none,
    Bool.false_eq_true, IsEmpty.forall_iff, not_true_eq_false, not_false_eq_true, forall_const,
    ne_eq, not_not]
  constructor
  · rintro _ - presented rfl _ _ _ _ sig _
    refine ⟨_, .pinned presented, ?_, ⟨sig, rfl⟩, trivial⟩
    simp [housekeeping, KeyUse.lookup, KeyUse.x, KeyUse.y, KeyUse.pin]
  · intro _ x y _ _ _ sig _ key
    -- the create wins, or it is refused
    constructor
    · refine ⟨_, .firstUse x y key true, ?_, ⟨sig, rfl⟩, trivial⟩
      simp [housekeeping, KeyUse.lookup, KeyUse.x, KeyUse.y, KeyUse.pin]
    · refine ⟨_, .firstUse x y key false, ?_, ⟨sig, rfl⟩, by simp [KeyUse.Lost]⟩
      simp [housekeeping, KeyUse.lookup, KeyUse.x, KeyUse.y, KeyUse.pin]

/-- `authenticate_server` reads the prefix byte, hashes, checks the key and the signature. -/
theorem authenticateServer_spec (nonceLen : Nat) (devicePub : Bytes) :
    wpP (fun _ _ => True) (authenticateServer nonceLen serverSigSize devicePub)
      (fun tr' s' _ => s' = s ∧ ∃ keyTag hashedEvs keyEvs, ∃ nonce : BytesN nonceLen,
        ∃ peer digest key,
        essential tr' = essential tr ++ (.did (.hostRead 2 0 1) keyTag :: (hashedEvs ++ keyEvs)) ∧
        keyTag.1 = [0x04] ∧ Hashed devicePub nonce peer digest hashedEvs ∧
        KeyChecked digest key keyEvs ∧ key.Lost tr')
      (fun _ _ _ => True) s tr := by
  simp only [authenticateServer, wpP_bind, wpP_ite, ne_eq, not_true_eq_false, IsEmpty.forall_iff,
    wpP_hostRead, wpP_throw, implies_true, true_and, not_false_eq_true, forall_const]
  intro keyTag htag
  apply wpP_use (serverIdentityDigest_spec nonceLen devicePub)
  · rintro tr₁ s₁ digest - ⟨rfl, hashedEvs, peer, nonce, hess₁, hhashed⟩
    apply wpP_use (checkServerKey_spec digest)
    · rintro tr₂ s₂ _ - ⟨rfl, keyEvs, key, hess₂, hkey, hlost⟩
      refine ⟨rfl, keyTag, hashedEvs, keyEvs, nonce, peer, digest, key, ?_, not_not.mp htag,
        hhashed, hkey, hlost⟩
      simp [hess₂, hess₁, housekeeping]
    · intro _ _ _ _ _
      trivial
  · intro _ _ _ _ _
    trivial

theorem deriveSessionKey_spec (keypair : EcKeyPair) (nonceLen : Nat) :
    wpP (fun _ _ => True) (deriveSessionKey keypair nonceLen)
      (fun tr' s' _ => s' = s ∧ ∃ evs x y, ∃ salt : BytesN nonceLen,
        essential tr' = essential tr ++ evs ∧ Derived keypair x y salt evs)
      (fun _ _ _ => True) s tr := by
  simp only [deriveSessionKey, wpP_bind, wpP_tee, wpP_teeAct, wpP_hostRead, implies_true,
    and_true, true_and]
  intro _ _ _ x y shared ikm _ _ _ _ _ salt okm _
  refine ⟨_, x, y, salt, ?_, shared, ikm, okm, rfl⟩
  simp [housekeeping]

end

/-- The answers that matter in a HANDSHAKE_COMPLETE that returned `TEE_SUCCESS`. -/
structure HandshakeAnswers where
  peerTag : BytesN 1
  keyTag : BytesN 1
  devicePub : BytesN ecdhPubkeySize
  nonceLen : Nat
  /-- the nonce and the point that are hashed -/
  nonce : BytesN nonceLen
  peer : BytesN ecdhPubkeySize
  digest : Bytes
  sig : BytesN serverSigSize
  keypair : EcKeyPair
  /-- the point and the nonce that go into the derivation -/
  x : BytesN 32
  y : BytesN 32
  salt : BytesN nonceLen
  shared : Bytes
  ikm : Bytes
  okm : Bytes

/-- Everything that matters in it, in order. -/
def HandshakeAnswers.events (h : HandshakeAnswers) (key : KeyUse) : List (Event Tee) := ([
  .did (.hostRead 0 0 1) h.peerTag,
  .did (.hostRead 2 0 1) h.keyTag,
  .did (.hostRead 1 0 h.nonceLen) h.nonce,
  .did (.hostRead 0 0 ecdhPubkeySize) h.peer,
  .ok (.digestDoFinal (serverIdentityPreimage h.nonce.1 h.peer.1 h.devicePub.1)
    transcriptHashSize) h.digest] : List (Event Tee)) ++ key.lookup ++ ([
  .did (.hostRead 3 0 serverSigSize) h.sig,
  .ok (.asymmetricVerifyDigest key.x key.y h.digest h.sig.1) ()] : List (Event Tee)) ++ key.pin ++ ([
  .did (.hostRead 0 1 32) h.x,
  .did (.hostRead 0 33 32) h.y,
  .did (.deriveEcdh h.keypair h.x.1 h.y.1) h.shared,
  .did (.hostRead 1 0 h.nonceLen) h.salt,
  .did (.deriveHkdf h.ikm h.salt.1 hkdfInfo sessionKeySize) h.okm] : List (Event Tee))

/-- The record of a successful HANDSHAKE_COMPLETE: what mattered in it are the events of its
answers, both prefix bytes were checked, and a create that did not win lost. -/
structure HandshakeRecord (tr : List (Event Tee)) extends HandshakeAnswers where
  key : KeyUse
  peerTag_eq : peerTag.1 = [0x04]
  keyTag_eq : keyTag.1 = [0x04]
  lost : key.Lost tr
  essential_eq : essential tr = toHandshakeAnswers.events key

/-- Every successful HANDSHAKE_COMPLETE has one. -/
theorem taHandshakeComplete_record (paramTypes : UInt32) (sess : Session) (params : Params) :
    wpP (fun _ _ => True) (taHandshakeComplete paramTypes)
      (fun tr _ _ => Nonempty (HandshakeRecord tr)) (fun _ _ _ => True) ⟨sess, params⟩ [] := by
  simp only [taHandshakeComplete, wpP_bind, wpP_get, wpP_ofOutcome, wpP_hostRead, wpP_ite,
    wpP_throw, wpP_cleanup, implies_true, true_and, and_true]
  intro keypair hok tag htag
  obtain ⟨-, -, hsig⟩ := (handshakeParamsOk_eq_ok.mp hok).2.2
  simp only [handshakeOverKey, wpP_bind, hsig]
  apply wpP_use (readPublicPoint_spec keypair fun _ _ _ => trivial)
  · rintro tr₁ s₁ devicePub - ⟨-, hess₁, hdev, -⟩
    apply wpP_use (authenticateServer_spec (params 1).size devicePub)
    · rintro tr₂ s₂ _ - ⟨-, keyTag, hashedEvs, keyEvs, nonce, peer, digest, key, hess₂, hkeyTag,
        hhashed, hkey, hlost⟩
      apply wpP_use (deriveSessionKey_spec keypair (params 1).size)
      · rintro tr₃ s₃ _ hpre₃ ⟨-, derivedEvs, x, y, salt, hess₃, hderived⟩
        obtain rfl := hhashed
        obtain ⟨sig, rfl⟩ := hkey
        obtain ⟨shared, ikm, okm, rfl⟩ := hderived
        exact ⟨{
          peerTag := tag
          keyTag := keyTag
          devicePub := ⟨devicePub, hdev⟩
          nonceLen := (params 1).size
          nonce := nonce
          peer := peer
          digest := digest
          key := key
          sig := sig
          keypair := keypair
          x := x
          y := y
          salt := salt
          shared := shared
          ikm := ikm
          okm := okm
          peerTag_eq := not_not.mp htag
          keyTag_eq := hkeyTag
          lost := hlost.mono hpre₃
          essential_eq := by simp [hess₃, hess₂, hess₁, housekeeping, HandshakeAnswers.events] }⟩
      · intro _ _ _ _ _
        trivial
    · intro _ _ _ _ _
      trivial
  · intro _ _ _ _ _
    trivial

/-! ## What was read, verified and used -/

/-- The reads of `params[i]`: where, and what they gave. -/
def readsOf (i : Fin 4) (tr : List (Event Tee)) : List (Nat × Bytes) := tr.filterMap fun
  | .did (.hostRead j off _) b => if j = i then some (off, b.1) else none
  | _ => none

/-- The messages hashed, with their digests. -/
def hashedMessages (tr : List (Event Tee)) : List (Bytes × Bytes) := tr.filterMap fun
  | .ok (.digestDoFinal msg _) digest => some (msg, digest)
  | _ => none

/-- The keys signatures were verified under, with the digests they were over. -/
def verifiedKeys (tr : List (Event Tee)) : List (Bytes × Bytes × Bytes) := tr.filterMap fun
  | .ok (.asymmetricVerifyDigest x y digest _) _ => some (x, y, digest)
  | _ => none

/-- The peer points given to the ECDH derivation. -/
def ecdhPoints (tr : List (Event Tee)) : List (Bytes × Bytes) := tr.filterMap fun
  | .did (.deriveEcdh _ x y) _ => some (x, y)
  | _ => none

/-- The salts given to HKDF. -/
def hkdfSalts (tr : List (Event Tee)) : List Bytes := tr.filterMap fun
  | .did (.deriveHkdf _ salt _ _) _ => some salt
  | _ => none

/-- The server keys pinned. -/
def pinnedKeys (tr : List (Event Tee)) : List Bytes := tr.filterMap fun
  | .ok (.createPersistentObject .serverPubkey key) _ => some key
  | _ => none

/-- A call acts on one snapshot of its inputs: there are a nonce and a point inside a digest, and
a key a signature over that digest verified under, such that the derivation takes that very
point and that very nonce, and what is pinned is that very key. -/
def ActsOnSnapshot (tr : List (Event Tee)) : Prop :=
  ∃ nonce peer devicePub digest x y : Bytes,
    peer.length = ecdhPubkeySize ∧ devicePub.length = ecdhPubkeySize ∧
    (serverIdentityPreimage nonce peer devicePub, digest) ∈ hashedMessages tr ∧
    (x, y, digest) ∈ verifiedKeys tr ∧
    (∀ p ∈ ecdhPoints tr, p = (peer.slice 1 32, peer.slice 33 32)) ∧
    (∀ salt ∈ hkdfSalts tr, salt = nonce) ∧
    (∀ key ∈ pinnedKeys tr, key = 0x04 :: (x ++ y))

/-- The Host leaves `params[i]` alone from offset `lo` on: one content explains every read. -/
def Unchanged (i : Fin 4) (lo : Nat) (tr : List (Event Tee)) : Prop :=
  ∃ content : Bytes, ∀ r ∈ readsOf i tr, ∀ k, lo ≤ r.1 + k → k < r.2.length →
    r.2[k]? = content[r.1 + k]?

/-- What is read off the calls that matter is read off `essential`. -/
theorem filterMap_essential {β : Type} {f : Event Tee → Option β}
    (hf : ∀ ev, housekeeping ev = true → f ev = none) (tr : List (Event Tee)) :
    (essential tr).filterMap f = tr.filterMap f := by
  induction tr with
  | nil => rfl
  | cons ev tr ih =>
    cases h : housekeeping ev with
    | true => simp [h, hf ev h, ih]
    | false => simp [h, ih, List.filterMap_cons]

namespace HandshakeRecord

variable {tr : List (Event Tee)} (r : HandshakeRecord tr)

/-- To read something off a record it is enough to read it off its events. -/
theorem collect_eq {β : Type} {f : Event Tee → Option β} {l : List β}
    (hok : ∀ q b, housekeeping (.ok q b) = true → f (.ok q b) = none)
    (herr : ∀ q e, f (.refused q e) = none)
    (hl : ∀ key, r.key = key → (r.events key).filterMap f = l) : tr.filterMap f = l := by
  rw [← hl r.key rfl, ← r.essential_eq, filterMap_essential]
  intro ev h
  cases ev with
  | did a b => cases h
  | ok q b => exact hok q b h
  | refused q e => exact herr q e

theorem ecdhPoints_eq : ecdhPoints tr = [(r.x.1, r.y.1)] := by
  apply r.collect_eq (fun _ _ _ => rfl) (fun _ _ => rfl)
  rintro (key | ⟨x, y, key, _ | _⟩) _ <;> rfl

theorem hkdfSalts_eq : hkdfSalts tr = [r.salt.1] := by
  apply r.collect_eq (fun _ _ _ => rfl) (fun _ _ => rfl)
  rintro (key | ⟨x, y, key, _ | _⟩) _ <;> rfl

theorem hashedMessages_eq : hashedMessages tr =
    [(serverIdentityPreimage r.nonce.1 r.peer.1 r.devicePub.1, r.digest)] := by
  apply r.collect_eq (fun q _ h => by cases q <;> first | rfl | cases h) (fun _ _ => rfl)
  rintro (key | ⟨x, y, key, _ | _⟩) _ <;> rfl

theorem verifiedKeys_eq : verifiedKeys tr = [(r.key.x, r.key.y, r.digest)] := by
  apply r.collect_eq (fun q _ h => by cases q <;> first | rfl | cases h) (fun _ _ => rfl)
  rintro (key | ⟨x, y, key, _ | _⟩) hkey <;> rw [hkey] <;> rfl

/-- The key a call pinned: the presented one, on first use, when the create won. -/
theorem pinnedKeys_eq : pinnedKeys tr = match r.key with
    | .firstUse _ _ key true => [key.1]
    | _ => [] := by
  apply r.collect_eq (fun q _ h => by cases q <;> first | rfl | cases h) (fun _ _ => rfl)
  rintro (key | ⟨x, y, key, _ | _⟩) hkey <;> rw [hkey] <;> rfl

theorem readsOf_zero : readsOf 0 tr =
    [(0, r.peerTag.1), (0, r.peer.1), (1, r.x.1), (33, r.y.1)] := by
  apply r.collect_eq (fun _ _ _ => rfl) (fun _ _ => rfl)
  rintro (key | ⟨x, y, key, _ | _⟩) _ <;> rfl

theorem readsOf_one : readsOf 1 tr = [(0, r.nonce.1), (0, r.salt.1)] := by
  apply r.collect_eq (fun _ _ _ => rfl) (fun _ _ => rfl)
  rintro (key | ⟨x, y, key, _ | _⟩) _ <;> rfl

theorem readsOf_two {x y : BytesN 32} {key : BytesN ecdhPubkeySize} {created : Bool}
    (hkey : r.key = .firstUse x y key created) :
    readsOf 2 tr = [(0, r.keyTag.1), (1, x.1), (33, y.1), (0, key.1)] := by
  apply r.collect_eq (fun _ _ _ => rfl) (fun _ _ => rfl)
  rintro _ rfl
  rw [hkey]
  cases created <;> rfl

end HandshakeRecord

/-! ## Unchanged buffers -/

/-- A public key is its prefix byte and its two coordinates. -/
theorem pubkey_split (key : BytesN ecdhPubkeySize) :
    key.1 = key.1.slice 0 1 ++ (key.1.slice 1 32 ++ key.1.slice 33 32) := by
  rw [Bytes.slice_append_slice key.1 1 32 32, Bytes.slice_append_slice key.1 0 1 64]
  have h := Bytes.slice_zero_length key.1
  rw [key.2] at h
  exact h.symm

/-- A content that explains every read, given. -/
theorem unchanged_of_content {i : Fin 4} {lo : Nat} {tr : List (Event Tee)} {content : Bytes}
    (h : ∀ r ∈ readsOf i tr, r.2 = content.slice r.1 r.2.length) : Unchanged i lo tr := by
  refine ⟨content, ?_⟩
  intro r hr k _ hk
  rw [h r hr, Bytes.getElem?_slice hk]

/-- When one read covers the others, "some content explains every read" is "that read does". -/
theorem unchanged_iff {i : Fin 4} {lo : Nat} {tr : List (Event Tee)} (full : Bytes)
    (hfull : (0, full) ∈ readsOf i tr)
    (hfit : ∀ r ∈ readsOf i tr, r.1 + r.2.length ≤ full.length) :
    Unchanged i lo tr ↔
      ∀ r ∈ readsOf i tr, ∀ k, lo ≤ r.1 + k → k < r.2.length → r.2[k]? = full[r.1 + k]? := by
  constructor
  · intro ⟨content, hcontent⟩ r hr k hlo hk
    have hcover := hcontent (0, full) hfull (r.1 + k) (by omega) (by
      have := hfit r hr
      show r.1 + k < full.length
      omega)
    rw [hcontent r hr k hlo hk, hcover, Nat.zero_add]
  · intro hall
    exact ⟨full, hall⟩

namespace HandshakeRecord

variable {tr : List (Event Tee)} (r : HandshakeRecord tr)

/-- The point's buffer: what is derived from is what was hashed. -/
theorem unchanged_point : Unchanged 0 1 tr ↔
    r.x.1 = r.peer.1.slice 1 32 ∧ r.y.1 = r.peer.1.slice 33 32 := by
  have hx := Bytes.eq_slice_iff 1 r.x.2 (b := r.peer.1) (by simp [r.peer.2, ecdhPubkeySize])
  have hy := Bytes.eq_slice_iff 33 r.y.2 (b := r.peer.1) (by simp [r.peer.2, ecdhPubkeySize])
  rw [unchanged_iff r.peer.1, hx, hy]
  · constructor
    · intro hall
      refine ⟨?_, ?_⟩
      · intro k hk
        exact hall (1, r.x.1) (by simp [r.readsOf_zero]) k (by simp) (by simpa [r.x.2] using hk)
      · intro k hk
        exact hall (33, r.y.1) (by simp [r.readsOf_zero]) k (by simp; omega)
          (by simpa [r.y.2] using hk)
    · intro ⟨hallx, hally⟩ rd hrd k hlo hk
      simp only [r.readsOf_zero, List.mem_cons, List.not_mem_nil, or_false] at hrd
      rcases hrd with rfl | rfl | rfl | rfl
      · -- the prefix byte lies in front of the part that is looked at
        simp only [r.peerTag.2] at hlo hk
        omega
      · simp
      · exact hallx k (by simpa [r.x.2] using hk)
      · exact hally k (by simpa [r.y.2] using hk)
  · simp [r.readsOf_zero]
  · simp [r.readsOf_zero, r.peerTag.2, r.peer.2, r.x.2, r.y.2, ecdhPubkeySize]

/-- The nonce's buffer. -/
theorem unchanged_nonce : Unchanged 1 0 tr ↔ r.salt.1 = r.nonce.1 := by
  have hsalt := Bytes.eq_slice_iff 0 r.salt.2 (b := r.nonce.1) (by simp [r.nonce.2])
  have hfull : r.nonce.1.slice 0 r.nonceLen = r.nonce.1 := by
    have h := Bytes.slice_zero_length r.nonce.1
    rwa [r.nonce.2] at h
  rw [hfull] at hsalt
  rw [unchanged_iff r.nonce.1, hsalt]
  · constructor
    · intro hall k hk
      exact hall (0, r.salt.1) (by simp [r.readsOf_one]) k (by simp) (by simpa [r.salt.2] using hk)
    · intro hall rd hrd k _ hk
      simp only [r.readsOf_one, List.mem_cons, List.not_mem_nil, or_false] at hrd
      rcases hrd with rfl | rfl
      · simp
      · exact hall k (by simpa [r.salt.2] using hk)
  · simp [r.readsOf_one]
  · simp [r.readsOf_one, r.nonce.2, r.salt.2]

/-- The presented key's buffer, when it is compared with the pinned key. -/
theorem unchanged_pinned {key : BytesN ecdhPubkeySize} (hkey : r.key = .pinned key)
    (h : Unchanged 2 0 tr) : key.1 = 0x04 :: (key.1.slice 1 32 ++ key.1.slice 33 32) := by
  have ht := Bytes.eq_slice_iff 0 r.keyTag.2 (b := key.1) (by simp [key.2, ecdhPubkeySize])
  have hreads : readsOf 2 tr = [(0, r.keyTag.1), (0, key.1)] := by
    apply r.collect_eq (fun _ _ _ => rfl) (fun _ _ => rfl)
    rintro _ rfl
    rw [hkey]
    rfl
  rw [unchanged_iff key.1] at h
  · have ht' := ht.mpr fun k hk => h (0, r.keyTag.1) (by simp [hreads]) k (by simp)
      (by simpa [r.keyTag.2] using hk)
    calc key.1 = key.1.slice 0 1 ++ (key.1.slice 1 32 ++ key.1.slice 33 32) := pubkey_split key
      _ = 0x04 :: (key.1.slice 1 32 ++ key.1.slice 33 32) := by rw [← ht', r.keyTag_eq]; rfl
  · simp [hreads]
  · simp [hreads, r.keyTag.2, key.2, ecdhPubkeySize]

/-- The presented key's buffer, on first use. -/
theorem unchanged_key {x y : BytesN 32} {key : BytesN ecdhPubkeySize} {created : Bool}
    (hkey : r.key = .firstUse x y key created) :
    Unchanged 2 0 tr ↔ key.1 = 0x04 :: (x.1 ++ y.1) := by
  have ht := Bytes.eq_slice_iff 0 r.keyTag.2 (b := key.1) (by simp [key.2, ecdhPubkeySize])
  have hx := Bytes.eq_slice_iff 1 x.2 (b := key.1) (by simp [key.2, ecdhPubkeySize])
  have hy := Bytes.eq_slice_iff 33 y.2 (b := key.1) (by simp [key.2, ecdhPubkeySize])
  have hreads := r.readsOf_two hkey
  rw [unchanged_iff key.1]
  · constructor
    · intro hall
      have ht' := ht.mpr fun k hk => hall (0, r.keyTag.1) (by simp [hreads]) k (by simp)
        (by simpa [r.keyTag.2] using hk)
      have hx' := hx.mpr fun k hk => hall (1, x.1) (by simp [hreads]) k (by simp)
        (by simpa [x.2] using hk)
      have hy' := hy.mpr fun k hk => hall (33, y.1) (by simp [hreads]) k (by simp)
        (by simpa [y.2] using hk)
      rw [pubkey_split key, ← ht', ← hx', ← hy', r.keyTag_eq]
      rfl
    · intro heq rd hrd k _ hk
      simp only [hreads, List.mem_cons, List.not_mem_nil, or_false] at hrd
      rcases hrd with rfl | rfl | rfl | rfl
      · have heq' : r.keyTag.1 = key.1.slice 0 1 := by
          rw [heq, r.keyTag_eq]
          rfl
        exact ht.mp heq' k (by simpa [r.keyTag.2] using hk)
      · have heq' : x.1 = key.1.slice 1 32 := by
          rw [heq]
          exact (List.take_left' x.2).symm
        exact hx.mp heq' k (by simpa [x.2] using hk)
      · have heq' : y.1 = key.1.slice 33 32 := by
          rw [heq]
          have hdrop : (0x04 :: (x.1 ++ y.1)).drop 33 = y.1 := List.drop_left' x.2
          rw [Bytes.slice, hdrop, List.take_of_length_le (by rw [y.2])]
        exact hy.mp heq' k (by simpa [y.2] using hk)
      · simp
  · simp [hreads]
  · simp [hreads, r.keyTag.2, x.2, y.2, key.2, ecdhPubkeySize]

/-- The property, in the terms of a record. -/
theorem actsOnSnapshot_iff : ActsOnSnapshot tr ↔
    (r.x.1 = r.peer.1.slice 1 32 ∧ r.y.1 = r.peer.1.slice 33 32) ∧ r.salt.1 = r.nonce.1 ∧
      ∀ key ∈ pinnedKeys tr, key = 0x04 :: (r.key.x ++ r.key.y) := by
  constructor
  · intro ⟨nonce, peer, devicePub, digest, x, y, hpeer, hdev, hhashed, hverified, hpoint, hsalt,
      hpin⟩
    simp only [r.hashedMessages_eq, r.verifiedKeys_eq, r.ecdhPoints_eq, r.hkdfSalts_eq,
      List.mem_singleton, Prod.mk.injEq, forall_eq] at hhashed hverified hpoint hsalt
    obtain ⟨rfl, rfl, -⟩ := serverIdentityPreimage_inj (hpeer.trans r.peer.2.symm)
      (hdev.trans r.devicePub.2.symm) hhashed.1
    obtain ⟨rfl, rfl, -⟩ := hverified
    exact ⟨hpoint, hsalt, hpin⟩
  · intro ⟨⟨hx, hy⟩, hsalt, hpin⟩
    refine ⟨r.nonce.1, r.peer.1, r.devicePub.1, r.digest, r.key.x, r.key.y, r.peer.2,
      r.devicePub.2, ?_, ?_, ?_, ?_, hpin⟩
    · simp [r.hashedMessages_eq]
    · simp [r.verifiedKeys_eq]
    · simp [r.ecdhPoints_eq, hx, hy]
    · simp [r.hkdfSalts_eq, hsalt]

/-- The pin, in the terms of a record. -/
theorem unchanged_pin : (pinnedKeys tr ≠ [] → Unchanged 2 0 tr) ↔
    ∀ key ∈ pinnedKeys tr, key = 0x04 :: (r.key.x ++ r.key.y) := by
  rw [r.pinnedKeys_eq]
  cases hkey : r.key with
  | pinned key => simp
  | firstUse x y key created =>
    cases created with
    | false => simp
    | true => simp [r.unchanged_key hkey, KeyUse.x, KeyUse.y]

end HandshakeRecord

/-- **A handshake acts on one snapshot exactly when the Host keeps still.** For a successful
HANDSHAKE_COMPLETE in any state of a session: the point and the nonce it derives from are those
of the verified digest, and the key it pins is the one the signature verified under, if and only
if no byte of the point's coordinates or of the nonce changed between its reads, nor, when the
call finds nothing pinned and pins, of the presented key. -/
theorem acts_on_snapshot_iff (inv : Invocation) (sess : Session) (tr : List (Event Tee))
    (frame : Frame) (hc : Command.ofId inv.cmdId = some .handshakeComplete)
    (runs : Runs (inv.program sess) tr (.ok (), frame)) :
    ActsOnSnapshot tr ↔
      Unchanged 0 1 tr ∧ Unchanged 1 0 tr ∧ (pinnedKeys tr ≠ [] → Unchanged 2 0 tr) := by
  have hspec := taHandshakeComplete_record inv.paramTypes sess inv.params
  simp only [Invocation.program, taInvokeCommand, hc] at runs
  obtain ⟨r⟩ := wp_runs runs hspec
  rw [r.actsOnSnapshot_iff, r.unchanged_point, r.unchanged_nonce, r.unchanged_pin]

/-- Against a Host that keeps still. -/
theorem acts_on_snapshot_iff_played :
    ActsOnSnapshot (execution Vectors.handshakeBench Vectors.completeHandshake
        Vectors.armedSession).1 ∧
      Unchanged 0 1 (execution Vectors.handshakeBench Vectors.completeHandshake
        Vectors.armedSession).1 := by
  have hacts : ActsOnSnapshot (execution Vectors.handshakeBench Vectors.completeHandshake
      Vectors.armedSession).1 :=
    ⟨Vectors.nonce, Vectors.serverEphemeral.pub.sec1, Vectors.deviceEphemeral.pub.sec1,
      Vectors.serverMsgHash, Bytes.toBE 32 Vectors.serverIdentity.pub.x.toNat,
      Bytes.toBE 32 Vectors.serverIdentity.pub.y.toNat, by simp, by simp, by decide +kernel⟩
  have hruns := @execution_runs Vectors.handshakeBench Vectors.completeHandshake
    Vectors.armedSession (by decide +kernel)
  exact ⟨hacts, ((acts_on_snapshot_iff _ _ _ _ (by decide) hruns).mp hacts).1⟩

namespace Vectors

/-- A Host that swaps the point and the presented identity key for its own once the signature
has been read, which is the 16th call. -/
def swapHost (n : Nat) : Fin 4 → Bytes :=
  if n < 16 then handshakeHost n
  else buffers rogueEphemeral.pub.sec1 nonce rogueIdentity.pub.sec1 serverSig n

def swapBench : Bench := { bench with host := swapHost }

end Vectors

/-- The attack: a reachable session, correct TEE services, a signature by the genuine server;
the command succeeds with a session key shared with the Host and with the Host's identity key
pinned. -/
theorem swap_is_accepted :
    ∃ hist sess tr frame, SessionRun hist sess ∧
      Runs (Vectors.completeHandshake.program sess) tr (.ok (), frame) ∧
      TeeCorrect Vectors.crypto tr ∧ ¬ ActsOnSnapshot tr ∧
      frame.sess.sessionKey = Vectors.rogueKey ∧
      pinnedKeys tr = [Vectors.rogueIdentity.pub.sec1] := by
  refine ⟨_, Vectors.armedSession, _, _, session_play _,
    @execution_runs Vectors.swapBench Vectors.completeHandshake Vectors.armedSession
      (by decide +kernel), execution_correct Vectors.swapBench _ _, ?_, (by decide +kernel),
    (by decide +kernel)⟩
  rintro ⟨nonce, peer, devicePub, digest, x, y, hpeer, hdev, hhashed, -, hpoint, -⟩
  have hmsgs : hashedMessages (execution Vectors.swapBench Vectors.completeHandshake
      Vectors.armedSession).1 = [(serverIdentityPreimage Vectors.nonce
        Vectors.serverEphemeral.pub.sec1 Vectors.deviceEphemeral.pub.sec1,
        Vectors.serverMsgHash)] := by decide +kernel
  have hpoints : ecdhPoints (execution Vectors.swapBench Vectors.completeHandshake
      Vectors.armedSession).1 = [(Bytes.toBE 32 Vectors.rogueEphemeral.pub.x.toNat,
        Bytes.toBE 32 Vectors.rogueEphemeral.pub.y.toNat)] := by decide +kernel
  rw [hmsgs, List.mem_singleton, Prod.mk.injEq] at hhashed
  obtain ⟨-, rfl, -⟩ := serverIdentityPreimage_inj (hpeer.trans (Point.length_sec1 _).symm)
    (hdev.trans (Point.length_sec1 _).symm) hhashed.1
  rw [hpoints] at hpoint
  revert hpoint
  decide +kernel

end ConfidentialIoT
