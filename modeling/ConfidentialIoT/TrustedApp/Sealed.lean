import ConfidentialIoT.TrustedApp.Pinning
import ConfidentialIoT.TrustedApp.Preimages

/-!
# `TrustedApp/Sealed.lean` — the TA's two provisioned objects, under any interleaving

`ciot.ta.identity` and `ciot.sensor.psk` are created by commands that first look, then make or
fetch their material, and only then create. Any number of sessions may be between these steps
at once. What they create is asserted where the create is asked for (`CreatesSealed`), so the
stored objects have it in every run; what a command learnt about storage stays true
(`SealedFact`); and a command that finds nothing to do before it fetches does not touch the link.
-/

set_option autoImplicit false

namespace ConfidentialIoT

open Effects

/-! ## The blob -/

theorem length_packTaIdentityBlob {d x y deviceId : Bytes} (hd : d.length = 32)
    (hx : x.length = 32) (hy : y.length = 32) (hid : deviceId.length ≤ 63) :
    (packTaIdentityBlob d x y deviceId).length = taIdentityBlobSize := by
  simp only [packTaIdentityBlob, List.length_append, List.length_cons, List.length_replicate]
  show d.length + x.length + y.length + (deviceId.length + (63 - deviceId.length) + 1) = 160
  omega

/-- A part of a concatenation, by its offset. -/
theorem slice_append {a b c : Bytes} {off len : Nat} (ha : a.length = off) (hb : b.length = len) :
    (a ++ (b ++ c)).slice off len = b := by
  rw [Bytes.slice, List.drop_left' ha, List.take_left' hb]

section

variable {d x y deviceId : Bytes} (hd : d.length = 32) (hx : x.length = 32) (hy : y.length = 32)

theorem blobD_pack (hd : d.length = 32) : blobD (packTaIdentityBlob d x y deviceId) = d := by
  simp only [blobD, packTaIdentityBlob, List.append_assoc]
  exact slice_append (a := []) rfl hd

theorem blobX_pack (hd : d.length = 32) (hx : x.length = 32) : blobX (packTaIdentityBlob d x y deviceId) = x := by
  simp only [blobX, packTaIdentityBlob, List.append_assoc]
  exact slice_append hd hx

include hd hx hy

theorem blobY_pack : blobY (packTaIdentityBlob d x y deviceId) = y := by
  have hdx : (d ++ x).length = 64 := by rw [List.length_append, hd, hx]
  rw [blobY, packTaIdentityBlob, List.append_assoc (d ++ x)]
  exact slice_append hdx hy

theorem blobIdLen_pack (hid : deviceId.length ≤ 63) :
    blobIdLen (packTaIdentityBlob d x y deviceId) = deviceId.length := by
  have hdxy : (d ++ x ++ y).length = 96 := by
    rw [List.length_append, List.length_append, hd, hx, hy]
  have hat : (packTaIdentityBlob d x y deviceId)[96]? = some (UInt8.ofNat deviceId.length) := by
    rw [packTaIdentityBlob, List.getElem?_append_right (by omega), hdxy]
    rfl
  show ((packTaIdentityBlob d x y deviceId).getD 96 0).toNat = deviceId.length
  rw [List.getD_eq_getElem?_getD, hat, Option.getD_some, UInt8.toNat_ofNat']
  omega

theorem blobId_pack {len : Nat} (hlen : deviceId.length = len) :
    (packTaIdentityBlob d x y deviceId).slice taIdOffId len = deviceId := by
  have hdxy : (d ++ x ++ y ++ [UInt8.ofNat deviceId.length]).length = 97 := by
    simp only [List.length_append, hd, hx, hy, List.length_singleton]
  rw [packTaIdentityBlob, ← List.singleton_append, ← List.append_assoc (d ++ x ++ y)]
  exact slice_append hdxy hlen

/-- A fresh blob belongs to the id it was made for. -/
theorem blobBelongsTo_pack (hid : deviceId.length ≤ 63) :
    blobBelongsTo (packTaIdentityBlob d x y deviceId) deviceId :=
  ⟨blobIdLen_pack hd hx hy hid, blobId_pack hd hx hy rfl⟩

end

theorem blobBelongsTo.deviceId_eq {blob deviceId : Bytes} (h : blobBelongsTo blob deviceId) :
    blobDeviceId blob = deviceId := by
  unfold blobDeviceId
  rw [h.1, h.2]

/-- The blob of a keypair and an id. -/
def identityBlobOf (keypair : EcKeyPair) (deviceId : Bytes) : Bytes :=
  packTaIdentityBlob (Bytes.toBE 32 keypair.d.toNat) (Bytes.toBE 32 keypair.pub.x.toNat)
    (Bytes.toBE 32 keypair.pub.y.toNat) deviceId

/-! ## What is created -/

/-- A blob made of a keypair that was generated, among the events `evs`. -/
def MintedFrom (evs : Event Tee → Prop) (blob : Bytes) : Prop :=
  ∃ keypair deviceId, evs (.ok (.generateKey .ecdsaKeypair 256) keypair) ∧
    0 < deviceId.length ∧ deviceId.length ≤ deviceIdMax ∧ blob = identityBlobOf keypair deviceId

/-- The 32-byte payload of a SECRET frame the link answered with. -/
def ReceivedFrom (evs : Event Tee → Prop) (secret : Bytes) : Prop :=
  ∃ payload : BytesN sensorSecretSize,
    evs (.ok (.invokeTACommand .fetchSecret [] sensorSecretSize) (payload, sensorSecretSize)) ∧
    secret = payload.1

/-- What is asserted where an object is created. -/
def CreatesSealed (C : Crypto) (tr : List (Event Tee)) : Call Tee → Prop
  | .req (.createPersistentObject .taIdentity blob) => TeeCorrect C tr → MintedFrom (· ∈ tr) blob
  | .req (.createPersistentObject .sensorPsk secret) => ReceivedFrom (· ∈ tr) secret
  | _ => True

/-- Whether a call creates one of the two objects. -/
def createsSealed : Call Tee → Bool
  | .req (.createPersistentObject .taIdentity _) => true
  | .req (.createPersistentObject .sensorPsk _) => true
  | _ => false

@[simp] theorem createsSealed_req (r : TeeReq) : createsSealed (.req r) =
    match r with
    | .createPersistentObject .taIdentity _ => true
    | .createPersistentObject .sensorPsk _ => true
    | _ => false := by
  cases r with
  | createPersistentObject id data => cases id <;> rfl
  | _ => rfl

@[simp] theorem createsSealed_act (a : TeeAct) : createsSealed (.act a) = false := by
  cases a <;> rfl

theorem createsSealed_of_other {C : Crypto} {tr : List (Event Tee)} {c : Call Tee}
    (h : createsSealed c = false) : CreatesSealed C tr c := by
  cases c with
  | act a => trivial
  | req r =>
    cases r with
    | createPersistentObject id data =>
      cases id with
      | serverPubkey => trivial
      | taIdentity => cases h
      | sensorPsk => cases h
    | _ => trivial

/-! ## GENERATE_TA_IDENTITY -/

/-- The events by which a command knows the stored blob. -/
def SeesBlob (ev : Event Tee) (blob : Bytes) : Prop :=
  ev = .ok (.readObjectData .taIdentity taIdentityBlobSize) blob ∨
    ev = .ok (.createPersistentObject .taIdentity blob) ()

section

variable {C : Crypto} {s : Frame} {tr : List (Event Tee)}

theorem sealedTaIdentity_spec {A : List (Event Tee) → Call Tee → Prop}
    (hA : ∀ tr c, createsSealed c = false → A tr c) (s : Frame) (tr : List (Event Tee)) :
    wpP A sealedTaIdentity
      (fun tr' s' found => s' = s ∧ match found with
        | none => essential tr' = essential tr
        | some blob => blob.length = taIdentityBlobSize ∧ essential tr' =
            essential tr ++ [.ok (.readObjectData .taIdentity taIdentityBlobSize) blob])
      (fun _ _ _ => True) s tr := by
  simp [sealedTaIdentity, readTaIdentityBlob, hA, housekeeping]
  intro _ hlen _ _
  exact hlen

theorem mintTaIdentity_spec {deviceId : Bytes} (hpos : 0 < deviceId.length)
    (hle : deviceId.length ≤ deviceIdMax) (s : Frame) (tr : List (Event Tee)) :
    wpP (CreatesSealed C) (mintTaIdentity deviceId)
      (fun tr' s' blob => s' = s ∧ blob.length = taIdentityBlobSize ∧ blobBelongsTo blob deviceId ∧
        ∃ keypair ev, SeesBlob ev blob ∧ essential tr' =
          essential tr ++ [.ok (.generateKey .ecdsaKeypair 256) keypair, ev])
      (fun _ _ _ => True) s tr := by
  have quiet : ∀ tr c, createsSealed c = false → CreatesSealed C tr c :=
    fun _ _ => createsSealed_of_other
  have attr : ∀ tr obj attr, CreatesSealed C tr (.req (.getEcAttribute obj attr 32)) :=
    fun _ _ _ => trivial
  unfold mintTaIdentity
  simp only [wpP_bind, wpP_tee, quiet, createsSealed_req, implies_true, true_and, and_true]
  intro _ keypair
  generalize htr₀ : tr ++ _ ++ _ = tr₀
  have hess₀ : essential tr₀ = essential tr ++ [.ok (.generateKey .ecdsaKeypair 256) keypair] := by
    rw [← htr₀]
    simp [housekeeping]
  have hgen : Event.ok (S := Tee) (.generateKey .ecdsaKeypair 256) keypair ∈ tr₀ := by
    rw [← htr₀]
    simp
  refine wpP_use (readEcCoordinate_spec keypair .privateValue attr) ?_ (fun _ _ _ _ _ => trivial)
  rintro tr₁ s₁ d hpre₁ ⟨rfl, hess₁, hlenD, hd⟩
  refine wpP_use (readEcCoordinate_spec keypair .publicValueX attr) ?_ (fun _ _ _ _ _ => trivial)
  rintro tr₂ s₂ x hpre₂ ⟨rfl, hess₂, hlenX, hx⟩
  refine wpP_use (readEcCoordinate_spec keypair .publicValueY attr) ?_ (fun _ _ _ _ _ => trivial)
  rintro tr₃ s₃ y hpre₃ ⟨rfl, hess₃, hlenY, hy⟩
  have hess : essential tr₃ =
      essential tr ++ [.ok (.generateKey .ecdsaKeypair 256) keypair] := by
    rw [hess₃, hess₂, hess₁, hess₀]
  simp only [wpP_createObject, wpP_ite, wpP_pure, reduceCtorEq, implies_true, and_true,
    true_implies, not_true, not_false_iff, false_implies, true_and]
  refine ⟨?_, ?_, ?_⟩
  · intro hC
    refine ⟨keypair, deviceId, (hpre₁.trans (hpre₂.trans hpre₃)).subset hgen, hpos, hle, ?_⟩
    rw [hy C hC, hx C (hC.of_prefix hpre₃), hd C (hC.of_prefix (hpre₂.trans hpre₃))]
    rfl
  · refine ⟨length_packTaIdentityBlob hlenD hlenX hlenY hle,
      blobBelongsTo_pack hlenD hlenX hlenY hle, keypair, _, Or.inr rfl, ?_⟩
    simp [hess, housekeeping]
  · simp [readTaIdentityBlob, quiet, hess, housekeeping]
    intro blob hlen _ _ hbelongs
    exact ⟨hlen, hbelongs, Or.inl rfl⟩

/-- Every byte that crosses into or out of the Host's buffers. -/
def hostAccess : Event Tee → Bool
  | .did (.hostRead _ _ _) _ => true
  | .did (.hostWrite _ _ _) _ => true
  | _ => false

def hostAccesses (tr : List (Event Tee)) : List (Event Tee) := tr.filter hostAccess

theorem hostAccesses_essential (tr : List (Event Tee)) :
    hostAccesses (essential tr) = hostAccesses tr := by
  rw [hostAccesses, essential, List.filter_filter, hostAccesses]
  congr 1
  funext ev
  cases ev with
  | did a b => cases a <;> rfl
  | ok r b => cases r <;> rfl
  | refused r e => rfl

/-- A GENERATE_TA_IDENTITY that succeeds: all it read is one id, all it wrote is one point, and
both belong to a blob it saw in storage. -/
structure IdentityExported (tr : List (Event Tee)) (deviceId blob : Bytes) : Prop where
  accesses : ∃ id : BytesN deviceId.length, id.1 = deviceId ∧ hostAccesses tr = [
    .did (.hostRead 0 0 deviceId.length) id,
    .did (.hostWrite 1 0 (taIdentityBlobToSec1 blob)) ()]
  length_blob : blob.length = taIdentityBlobSize
  belongs : blobBelongsTo blob deviceId
  sees : ∃ ev ∈ tr, SeesBlob ev blob

/-- The end of the command, once the blob has been seen. -/
theorem exportTaIdentity_spec {n : Nat} (id : BytesN n) {blob : Bytes} {ev : Event Tee}
    (mid : List (Event Tee)) (hmid : hostAccesses mid = []) (hev : ev ∈ essential tr)
    (hess : essential tr = .did (.hostRead 0 0 n) id :: mid)
    (hlen : blob.length = taIdentityBlobSize) (hbelongs : blobBelongsTo blob id.1)
    (hsees : SeesBlob ev blob) (s : Frame) :
    wpP (CreatesSealed C) (exportTaIdentity blob)
      (fun tr' _ _ => IdentityExported tr' id.1 blob) (fun _ _ _ => True) s tr := by
  obtain ⟨id, rfl⟩ := id
  simp only [exportTaIdentity, wpP_bind, wpP_hostWrite, wpP_modify]
  refine ⟨trivial, ?_⟩
  intro _
  refine ⟨⟨⟨id, rfl⟩, rfl, ?_⟩, hlen, hbelongs, ev, ?_, hsees⟩
  · have hmid' : mid.filter hostAccess = [] := hmid
    rw [← hostAccesses_essential, essential_append, hess, hostAccesses, List.filter_append,
      List.filter_cons_of_pos (by rfl), hmid']
    rfl
  · exact List.mem_append_left _ (List.mem_filter.mp hev).1

theorem taGenerateTaIdentity_spec (paramTypes : UInt32) (sess : Session) (params : Params) :
    wpP (CreatesSealed C) (taGenerateTaIdentity paramTypes)
      (fun tr' _ _ => ∃ deviceId blob, IdentityExported tr' deviceId blob) (fun _ _ _ => True)
      ⟨sess, params⟩ [] := by
  have quiet : ∀ tr c, createsSealed c = false → CreatesSealed C tr c :=
    fun _ _ => createsSealed_of_other
  simp only [taGenerateTaIdentity, wpP_bind, wpP_get, wpP_ite, wpP_throw, wpP_hostRead, quiet,
    createsSealed_act, implies_true, true_and, List.nil_append, not_or]
  rintro _ ⟨hpos, hle⟩ _ id
  have hlen := id.2
  refine wpP_use (sealedTaIdentity_spec quiet _ _) ?_ (fun _ _ _ _ _ => trivial)
  rintro tr₁ s₁ found hpre₁ ⟨rfl, hfound⟩
  cases found with
  | some blob =>
    obtain ⟨hblob, hess⟩ := hfound
    simp only [wpP_bind, wpP_ite, wpP_throw, implies_true, true_and, not_not]
    intro hbelongs
    refine wpP_conseq (exportTaIdentity_spec id [_] ?_ ?_ hess hblob hbelongs
      (Or.inl rfl) _) ?_ (fun _ _ _ _ => trivial)
    · rfl
    · rw [hess]
      simp [essential, housekeeping]
    · intro _ _ _ h
      exact ⟨_, _, h⟩
  | none =>
    simp only [wpP_bind]
    have hmint := mintTaIdentity_spec (C := C) (by omega : 0 < id.1.length) (by omega)
      ⟨sess, params⟩ tr₁
    refine wpP_use hmint ?_ (fun _ _ _ _ _ => trivial)
    rintro tr₂ s₂ blob hpre₂ ⟨rfl, hblob, hbelongs, keypair, ev, hsees, hess⟩
    rw [hfound] at hess
    refine wpP_conseq (exportTaIdentity_spec id [_, _] ?_ ?_ hess hblob hbelongs hsees _)
      ?_ (fun _ _ _ _ => trivial)
    · rcases hsees with rfl | rfl <;> rfl
    · rw [hess]
      simp
    · intro _ _ _ h
      exact ⟨_, _, h⟩

/-! ## PROVISION_SENSOR_SECRET -/

/-- The events by which a command knows that the secret is stored. -/
def SeesSecret : Event Tee → Prop
  | .ok (.openPersistentObject .sensorPsk) _ => True
  | .ok (.createPersistentObject .sensorPsk _) _ => True
  | .refused (.createPersistentObject .sensorPsk _) .accessConflict => True
  | _ => False

theorem taProvisionSensorSecret_spec (paramTypes : UInt32) (sess : Session) (params : Params) :
    wpP (CreatesSealed C) (taProvisionSensorSecret paramTypes)
      (fun tr' _ _ => ∃ ev ∈ tr', SeesSecret ev) (fun _ _ _ => True) ⟨sess, params⟩ [] := by
  have quiet : ∀ tr c, createsSealed c = false → CreatesSealed C tr c :=
    fun _ _ => createsSealed_of_other
  simp [taProvisionSensorSecret, fetchSensorSecret, openSensorPta, quiet, SeesSecret]
  intro _
  refine ⟨?_, ?_⟩
  · intro _ _ secret hlen
    exact ⟨⟨secret, hlen⟩, by simp, rfl⟩
  · intro _ secret hlen
    exact ⟨⟨secret, hlen⟩, by simp, rfl⟩

/-- A call that puts bytes on the link. -/
def onLink : Call Tee → Bool
  | .req (.invokeTACommand _ _ _) => true
  | _ => false

@[simp] theorem onLink_req (r : TeeReq) : onLink (.req r) =
    match r with | .invokeTACommand _ _ _ => true | _ => false := by
  cases r <;> rfl

@[simp] theorem onLink_act (a : TeeAct) : onLink (.act a) = false := by
  cases a <;> rfl

/-- The link is only used after a look that did not find the secret. -/
def LinksUnprovisioned (tr : List (Event Tee)) (c : Call Tee) : Prop :=
  onLink c = true →
    Event.refused (S := Tee) (.openPersistentObject .sensorPsk) .itemNotFound ∈ tr

theorem taProvisionSensorSecret_links (paramTypes : UInt32) (sess : Session) (params : Params) :
    wpP LinksUnprovisioned (taProvisionSensorSecret paramTypes)
      (fun _ _ _ => True) (fun _ _ _ => True) ⟨sess, params⟩ [] := by
  simp [taProvisionSensorSecret, fetchSensorSecret, openSensorPta, LinksUnprovisioned]

/-! ## Every command -/

theorem taInvokeCommand_creates (inv : Invocation) (sess : Session) :
    wpP (CreatesSealed C) (taInvokeCommand inv.cmdId inv.paramTypes)
      (fun tr' _ _ =>
        (Command.ofId inv.cmdId = some .generateTaIdentity →
          ∃ deviceId blob, IdentityExported tr' deviceId blob) ∧
        (Command.ofId inv.cmdId = some .provisionSensorSecret → ∃ ev ∈ tr', SeesSecret ev))
      (fun _ _ _ => True) ⟨sess, inv.params⟩ [] := by
  have quiet : ∀ tr c, createsSealed c = false → CreatesSealed C tr c :=
    fun _ _ => createsSealed_of_other
  unfold taInvokeCommand
  cases hc : Command.ofId inv.cmdId with
  | none => trivial
  | some cmd =>
    cases cmd with
    | generateTaIdentity =>
      refine wpP_conseq (taGenerateTaIdentity_spec _ _ _) ?_ (fun _ _ _ _ => trivial)
      intro _ _ _ h
      exact ⟨fun _ => h, nofun⟩
    | provisionSensorSecret =>
      refine wpP_conseq (taProvisionSensorSecret_spec _ _ _) ?_ (fun _ _ _ _ => trivial)
      intro _ _ _ h
      exact ⟨nofun, fun _ => h⟩
    | authenticateSensor =>
      simp [taAuthenticateSensor, readSensorSecret, openSensorPta, quiet]
    | readAndProtect =>
      simp [taReadAndProtect, readAndProtectGates, readAndProtectOpen, readSensorReading,
        openSensorPta, sealReading, quiet]
    | handshakeComplete =>
      simp [taHandshakeComplete, handshakeOverKey, readPublicPoint, readEcCoordinate,
        authenticateServer, serverIdentityDigest, checkServerKey, pinnedServerKey,
        verifyServerSignature, verifyKeyCoords, pinServerKey, deriveSessionKey, quiet]
    | generateAttestationEvidence =>
      simp [taGenerateAttestationEvidence, evidenceOverFreshKey, evidenceFor, readPublicPoint,
        readEcCoordinate, signTaIdentity, sealedTaIdentity, readTaIdentityBlob, quiet]

end

/-! ## Runs -/

section

variable {ι : Type}

/-- Generated keys have a non-zero scalar. -/
def NonzeroKeys (_ : Pool.Config taMachine ι Storage) : Pool.Label taMachine ι → Prop
  | .did _ (.ok (.generateKey _ _) keypair) => keypair.d ≠ 0
  | _ => True

/-- Some session's call was answered so. -/
def Did (ls : List (Pool.Label taMachine ι)) (ev : Event Tee) : Prop := ∃ i, .did i ev ∈ ls

/-- Where the two stored objects of a run come from. -/
structure Sealed (ls : List (Pool.Label taMachine ι)) (store : Storage) : Prop where
  minted : ∀ blob, store .taIdentity = some blob → MintedFrom (Did ls) blob
  received : ∀ secret, store .sensorPsk = some secret → ReceivedFrom (Did ls) secret

theorem MintedFrom.mono {evs evs' : Event Tee → Prop} {blob : Bytes} (h : MintedFrom evs blob)
    (hsub : ∀ ev, evs ev → evs' ev) : MintedFrom evs' blob := by
  obtain ⟨keypair, deviceId, hgen, hrest⟩ := h
  exact ⟨keypair, deviceId, hsub _ hgen, hrest⟩

theorem ReceivedFrom.mono {evs evs' : Event Tee → Prop} {secret : Bytes}
    (h : ReceivedFrom evs secret) (hsub : ∀ ev, evs ev → evs' ev) : ReceivedFrom evs' secret := by
  obtain ⟨payload, hev, rfl⟩ := h
  exact ⟨payload, hsub _ hev, rfl⟩

theorem Sealed.snoc {ls : List (Pool.Label taMachine ι)} {store : Storage} (h : Sealed ls store)
    (l : Pool.Label taMachine ι) : Sealed (ls ++ [l]) store := by
  have more : ∀ ev, Did ls ev → Did (ls ++ [l]) ev := by
    intro ev ⟨i, hi⟩
    exact ⟨i, List.mem_append_left _ hi⟩
  exact ⟨fun blob hb => (h.minted blob hb).mono more, fun b hb => (h.received b hb).mono more⟩

variable [DecidableEq ι] {C : Crypto} {store : Storage}
  {P : Pool.Config taMachine ι Storage → Pool.Label taMachine ι → Prop}
  {ls : List (Pool.Label taMachine ι)} {c : Pool.Config taMachine ι Storage}

/-- **Both objects of every run are what a command of that run made or fetched.** -/
theorem sealed_of_run (run : Pool.Run (fun _ => TeeStep C) P (justOpened ι store) ls c)
    (hid : store .taIdentity = none) (hpsk : store .sensorPsk = none) : Sealed ls c.shared := by
  refine run.invariant (I := fun ls c => Sealed ls c.shared) ?_ ?_
  · refine ⟨?_, ?_⟩
    · intro blob hb
      exact absurd hb (by simp [justOpened, hid])
    · intro secret hb
      exact absurd hb (by simp [justOpened, hpsk])
  · intro ls c l c' run ih step _
    cases step with
    | start job _ => exact ih.snoc _
    | finish _ => exact ih.snoc _
    | @call i inv sess log q k store' r hbusy hR =>
      rcases hR.2.cases with heq | ⟨id, data, hev, -, heq⟩
      · rw [Pool.Config.set_shared]
        exact heq ▸ ih.snoc _
      · -- the create was asserted to be of material this job made or fetched
        have hq : q = .req (.createPersistentObject id data) := by
          rw [← Event.call_of q r, hev]
          rfl
        subst hq
        have hasserted : CreatesSealed C log (.req (.createPersistentObject id data)) :=
          run.asserted (A := fun _ _ => CreatesSealed C) (justOpened_quiet ι store)
            taInvokeCommand_creates hbusy
        have hlog : ∀ ev ∈ log, .did i ev ∈ ls :=
          run.remembered (justOpened_quiet ι store) (Or.inl ⟨inv, sess, _, hbusy⟩)
        have correct : TeeCorrect C log := by
          intro ev hmem
          obtain ⟨_, _, _, -, hstep, -⟩ := run.happened (hlog ev hmem)
          exact hstep.1
        have here : ∀ ev, ev ∈ log → Did ls ev := fun ev hmem => ⟨i, hlog ev hmem⟩
        have hnew : Sealed ls store' := by
          rw [heq]
          cases id with
          | serverPubkey =>
            refine ⟨?_, ?_⟩
            · intro blob hb
              rw [Function.update_of_ne (by decide)] at hb
              exact ih.minted blob hb
            · intro secret hb
              rw [Function.update_of_ne (by decide)] at hb
              exact ih.received secret hb
          | taIdentity =>
            refine ⟨?_, ?_⟩
            · intro blob hb
              rw [Function.update_self] at hb
              obtain rfl := Option.some.inj hb
              exact (hasserted correct).mono here
            · intro secret hb
              rw [Function.update_of_ne (by decide)] at hb
              exact ih.received secret hb
          | sensorPsk =>
            refine ⟨?_, ?_⟩
            · intro blob hb
              rw [Function.update_of_ne (by decide)] at hb
              exact ih.minted blob hb
            · intro secret hb
              rw [Function.update_self] at hb
              obtain rfl := Option.some.inj hb
              exact hasserted.mono here
        exact hnew.snoc _

/-- What a session remembers of storage is so. -/
theorem storage_facts (run : Pool.Run (fun _ => TeeStep C) P (justOpened ι store) ls c) {i : ι}
    {log : List (Event Tee)} (hlog : Pool.Remembers ls c i log) :
    ∀ ev ∈ log, StorageFact c.shared ev :=
  run.facts (F := fun _ ev store => StorageFact store ev) (justOpened_quiet ι store)
    (fun _ _ _ _ _ h => .of_step h.2) (fun _ _ _ _ _ _ h => StorageFact.kept h.2) hlog

/-- What a returned command says about its own log. -/
theorem returned_spec (run : Pool.Run (fun _ => TeeStep C) P (justOpened ι store) ls c) {i : ι}
    {inv : Invocation} {sess : Session} {log : List (Event Tee)} {frame : Frame}
    (hmem : .returned i inv sess log (.ok (), frame) ∈ ls) :
    (Command.ofId inv.cmdId = some .generateTaIdentity →
      ∃ deviceId blob, IdentityExported log deviceId blob) ∧
    (Command.ofId inv.cmdId = some .provisionSensorSecret → ∃ ev ∈ log, SeesSecret ev) :=
  wp_runs ((run.logs (justOpened_quiet ι store)).2 i inv sess log _ hmem)
    (taInvokeCommand_creates (C := C) inv sess)

/-- The documented shape of an identity blob. -/
structure IdentityShape (C : Crypto) (keypair : EcKeyPair) (deviceId blob : Bytes) : Prop where
  length : blob.length = taIdentityBlobSize
  scalar : blobD blob = Bytes.toBE 32 keypair.d.toNat
  pointX : blobX blob = Bytes.toBE 32 keypair.pub.x.toNat
  pointY : blobY blob = Bytes.toBE 32 keypair.pub.y.toNat
  nonzero : keypair.d ≠ 0
  matching : keypair.pub = C.pub keypair.d
  idLen : blobIdLen blob = deviceId.length ∧ 1 ≤ deviceId.length ∧ deviceId.length ≤ deviceIdMax
  id : blobDeviceId blob = deviceId

theorem identityBlobOf_shape {keypair : EcKeyPair} {deviceId : Bytes} (hpos : 0 < deviceId.length)
    (hle : deviceId.length ≤ deviceIdMax) (hd : keypair.d ≠ 0) (hpub : keypair.pub = C.pub keypair.d) :
    IdentityShape C keypair deviceId (identityBlobOf keypair deviceId) := by
  have hlen : ∀ v : BitVec 256, (Bytes.toBE 32 v.toNat).length = 32 := fun _ => Bytes.length_toBE ..
  have hbelongs : blobBelongsTo (identityBlobOf keypair deviceId) deviceId :=
    blobBelongsTo_pack (hlen _) (hlen _) (hlen _) hle
  exact {
    length := length_packTaIdentityBlob (hlen _) (hlen _) (hlen _) hle
    scalar := blobD_pack (hlen _)
    pointX := blobX_pack (hlen _) (hlen _)
    pointY := blobY_pack (hlen _) (hlen _) (hlen _)
    nonzero := hd
    matching := hpub
    idLen := ⟨hbelongs.1, hpos, hle⟩
    id := hbelongs.deviceId_eq }

/-- Every stored identity is one generated keypair, laid out. -/
theorem stored_identity_shape
    (run : Pool.Run (fun _ => TeeStep C) NonzeroKeys (justOpened ι store) ls c)
    (hid : store .taIdentity = none) (hpsk : store .sensorPsk = none) {blob : Bytes}
    (hblob : c.shared .taIdentity = some blob) :
    ∃ keypair deviceId, Did ls (.ok (.generateKey .ecdsaKeypair 256) keypair) ∧
      IdentityShape C keypair deviceId blob := by
  obtain ⟨keypair, deviceId, hdid, hpos, hle, hlayout⟩ :=
    (sealed_of_run run hid hpsk).minted blob hblob
  obtain ⟨i, hgen⟩ := hdid
  obtain ⟨_, c₁, _, -, hstep, hnonzero⟩ := run.happened hgen
  rw [hlayout]
  exact ⟨keypair, deviceId, ⟨i, hgen⟩, identityBlobOf_shape hpos hle hnonzero hstep.1⟩

/-- A GENERATE_TA_IDENTITY that succeeded exported the blob that is stored. -/
theorem exported_is_stored
    (run : Pool.Run (fun _ => TeeStep C) NonzeroKeys (justOpened ι store) ls c)
    (hid : store .taIdentity = none) (hpsk : store .sensorPsk = none) {i : ι} {inv : Invocation}
    {sess : Session} {log : List (Event Tee)} {frame : Frame}
    (hmem : .returned i inv sess log (.ok (), frame) ∈ ls)
    (hc : Command.ofId inv.cmdId = some .generateTaIdentity) :
    ∃ deviceId blob, c.shared .taIdentity = some blob ∧ IdentityExported log deviceId blob := by
  obtain ⟨deviceId, blob, hexp⟩ := (returned_spec run hmem).1 hc
  obtain ⟨ev, hev, hsees⟩ := hexp.sees
  have hfact := storage_facts run (Or.inr ⟨inv, sess, _, hmem⟩) ev hev
  refine ⟨deviceId, blob, ?_, hexp⟩
  rcases hsees with rfl | rfl
  · obtain ⟨content, hcontent, hread⟩ := hfact
    obtain ⟨_, _, -, hshape⟩ := stored_identity_shape run hid hpsk hcontent
    rw [hread, List.take_of_length_le (Nat.le_of_eq hshape.length)]
    exact hcontent
  · exact hfact

/-- A PROVISION_SENSOR_SECRET that succeeded left a secret behind. -/
theorem provisioned_is_stored
    (run : Pool.Run (fun _ => TeeStep C) P (justOpened ι store) ls c) {i : ι} {inv : Invocation}
    {sess : Session} {log : List (Event Tee)} {frame : Frame}
    (hmem : .returned i inv sess log (.ok (), frame) ∈ ls)
    (hc : Command.ofId inv.cmdId = some .provisionSensorSecret) :
    (c.shared .sensorPsk).isSome := by
  obtain ⟨ev, hev, hsees⟩ := (returned_spec run hmem).2 hc
  have hfact := storage_facts run (Or.inr ⟨inv, sess, _, hmem⟩) ev hev
  unfold SeesSecret at hsees
  split at hsees
  · exact hfact
  · rw [hfact]
    rfl
  · exact hfact
  · exact hsees.elim

/-- A PROVISION_SENSOR_SECRET that starts when the secret exists leaves the link alone. -/
theorem provisioned_is_silent {c' : Pool.Config taMachine ι Storage} {i : ι} {inv : Invocation}
    {mid : List (Pool.Label taMachine ι)} {ev : Event Tee}
    (run : Pool.Run (fun _ => TeeStep C) P (justOpened ι store) ls c)
    (hc : Command.ofId inv.cmdId = some .provisionSensorSecret)
    (hstored : (c.shared .sensorPsk).isSome)
    (rest : Pool.Run (fun _ => TeeStep C) P c (.started i inv :: mid ++ [.did i ev]) c')
    (hmid : Pool.NoStart i mid) : onLink ev.call = false := by
  obtain ⟨c₁, rest, step, -⟩ := rest.last
  obtain ⟨inv', sess, log, k, hbusy⟩ := step.of_did
  have whole := run.trans rest
  obtain ⟨pre, mid', hsplit, hmid', hlog⟩ := whole.since_started (justOpened_quiet ι store) hbusy
  -- the job that makes the call is the one that was started last
  obtain ⟨-, hjob, rfl⟩ := History.last_unique (p := Pool.Label.Starts i) hsplit rfl rfl hmid hmid'
  cases hjob
  have hsteps : Steps (inv.program sess) log (.call ev.call k) :=
    (whole.logs (justOpened_quiet ι store)).1 _ _ _ _ _ hbusy
  have hlinks : LinksUnprovisioned log ev.call := by
    have hprog : inv.program sess = (taProvisionSensorSecret inv.paramTypes).go ⟨sess, inv.params⟩ := by
      simp only [Invocation.program, taInvokeCommand, hc]
    rw [hprog] at hsteps
    exact wp_asserts hsteps (taProvisionSensorSecret_links _ _ _)
  cases hlink : onLink ev.call with
  | false => rfl
  | true =>
    have hlook := hlinks hlink
    rw [hlog, Pool.mem_eventsOf] at hlook
    obtain ⟨_, c₂, _, before, hstep, -⟩ := rest.happened (List.mem_cons_of_mem _ hlook)
    have hnone : c₂.shared .sensorPsk = none := hstep.2.1 rfl
    obtain ⟨secret, hsecret⟩ := Option.isSome_iff_exists.mp hstored
    have hkept := before.shared (T := fun s => s .sensorPsk = some secret)
      (fun _ _ _ _ h => h.2.kept) hsecret
    rw [hnone] at hkept
    cases hkept

/-- **Sealed objects are write-once and consistent**, in any interleaving of any number of
sessions of a device that starts unprovisioned.

* Whatever happens from there on, a stored object keeps its bytes.
* A stored identity has the documented shape, from one keypair generated in the run.
* A GENERATE_TA_IDENTITY that succeeded read one id and wrote one point: the id is the stored
  one, and the point is the stored one.
* A PROVISION_SENSOR_SECRET that succeeded leaves a secret stored, and a stored secret is the
  payload of a SECRET frame the link answered with.
* A PROVISION_SENSOR_SECRET that starts after that puts nothing on the link. -/
theorem sealed_objects_consistent {ι : Type} [DecidableEq ι] (C : Crypto) {store : Storage}
    (hid : store .taIdentity = none) (hpsk : store .sensorPsk = none)
    {ls : List (Pool.Label taMachine ι)} {c : Pool.Config taMachine ι Storage}
    (run : Pool.Run (fun _ => TeeStep C) NonzeroKeys (justOpened ι store) ls c) :
    (∀ ls' c', Pool.Run (fun _ => TeeStep C) NonzeroKeys c ls' c' →
      ∀ id b, c.shared id = some b → c'.shared id = some b) ∧
    (∀ blob, c.shared .taIdentity = some blob →
      ∃ keypair deviceId, Did ls (.ok (.generateKey .ecdsaKeypair 256) keypair) ∧
        IdentityShape C keypair deviceId blob) ∧
    (∀ i inv sess log frame, .returned i inv sess log (.ok (), frame) ∈ ls →
      Command.ofId inv.cmdId = some .generateTaIdentity →
      ∃ blob, c.shared .taIdentity = some blob ∧
        ∃ id : BytesN (blobDeviceId blob).length, id.1 = blobDeviceId blob ∧
          hostAccesses log = [.did (.hostRead 0 0 (blobDeviceId blob).length) id,
            .did (.hostWrite 1 0 (0x04 :: (blobX blob ++ blobY blob))) ()]) ∧
    (∀ i inv sess log frame, .returned i inv sess log (.ok (), frame) ∈ ls →
      Command.ofId inv.cmdId = some .provisionSensorSecret → (c.shared .sensorPsk).isSome) ∧
    (∀ secret, c.shared .sensorPsk = some secret → ReceivedFrom (Did ls) secret) ∧
    (∀ i (inv : Invocation) mid ev c', Command.ofId inv.cmdId = some .provisionSensorSecret →
      (c.shared .sensorPsk).isSome →
      Pool.Run (fun _ => TeeStep C) NonzeroKeys c (.started i inv :: mid ++ [.did i ev]) c' →
      Pool.NoStart i mid → onLink ev.call = false) := by
  refine ⟨?_, ?_, ?_, ?_, ?_, ?_⟩
  · intro ls' c' rest id b hb
    exact rest.shared (T := fun s => s id = some b) (fun _ _ _ _ h => h.2.kept) hb
  · intro blob hblob
    exact stored_identity_shape run hid hpsk hblob
  · intro i inv sess log frame hmem hc
    obtain ⟨deviceId, blob, hblob, hexp⟩ := exported_is_stored run hid hpsk hmem hc
    obtain rfl := hexp.belongs.deviceId_eq
    exact ⟨blob, hblob, hexp.accesses⟩
  · intro i inv sess log frame hmem hc
    exact provisioned_is_stored run hmem hc
  · exact (sealed_of_run run hid hpsk).received
  · intro i inv mid ev c' hc hstored rest hmid
    exact provisioned_is_silent run hc hstored rest hmid

end

namespace Vectors

def generateIdentity : Invocation where
  cmdId := 6
  paramTypes := teeParamTypes .memrefInput .memrefOutput .none .none
  params := sizes 6 65 0 0

def provisionSecret : Invocation where
  cmdId := 5
  paramTypes := teeParamTypes .none .none .none .none
  params := sizes 0 0 0 0

/-- Two sessions of a new device, which draw two keypairs; the Host asks for one id. -/
def twoProvisioners (session : Fin 2) : Bench :=
  { (if session = 0 then bench else secondBench) with host := buffers deviceId [] [] [] }

/-- Session 1 provisions the whole device while session 0 is about to create its identity. -/
def provisioning : List (Pool.Turn taMachine (Fin 2)) :=
  Pool.Turn.start 0 generateIdentity :: List.replicate 7 (Pool.Turn.call 0) ++
  alone 1 generateIdentity ++
  alone 1 provisionSecret ++ List.replicate 40 (Pool.Turn.call 0) ++ [Pool.Turn.finish 0]

/-- The steps `NonzeroKeys` admits. -/
def nonzeroKeys (_ : Pool.Config taMachine (Fin 2) Storage) : Pool.Label taMachine (Fin 2) → Bool
  | .did _ (.ok (.generateKey _ _) keypair) => keypair.d ≠ 0
  | _ => true

theorem nonzeroKeys_admits {c : Pool.Config taMachine (Fin 2) Storage}
    {l : Pool.Label taMachine (Fin 2)} (h : nonzeroKeys c l = true) : NonzeroKeys c l := by
  unfold NonzeroKeys
  split
  · exact of_decide_eq_true h
  · trivial

/-- The race, played. -/
def provisioned : List (Pool.Label taMachine (Fin 2)) × Pool.Config taMachine (Fin 2) Storage :=
  Pool.play (fun session _ n => (twoProvisioners session).serve n) nonzeroKeys
    (justOpened (Fin 2) fun _ => none) provisioning

theorem provisioned_run : Pool.Run (fun _ => TeeStep crypto) NonzeroKeys
    (justOpened (Fin 2) fun _ => none) provisioned.1 provisioned.2 := by
  refine Pool.Run.mono (Pool.play_run _ _ ?_) (fun _ _ => nonzeroKeys_admits)
  intro c session inv n q _
  have hcrypto : (twoProvisioners session).crypto = crypto := by
    unfold twoProvisioners
    split <;> rfl
  have hstep := (twoProvisioners session).serve_step n c.shared q
  rwa [hcrypto] at hstep

end Vectors

/-- Two sessions provision a new device at once: the loser exports the winner's key. -/
theorem sealed_objects_consistent_played :
    ∃ blob secret, Vectors.provisioned.2.shared .taIdentity = some blob ∧
      Vectors.provisioned.2.shared .sensorPsk = some secret ∧
      (∃ keypair deviceId,
        Did Vectors.provisioned.1 (.ok (.generateKey .ecdsaKeypair 256) keypair) ∧
        IdentityShape Vectors.crypto keypair deviceId blob) ∧
      ReceivedFrom (Did Vectors.provisioned.1) secret := by
  have hblob : Vectors.provisioned.2.shared .taIdentity =
      some (identityBlobOf Vectors.secondEphemeral Vectors.deviceId) := by decide +kernel
  have hsecret : Vectors.provisioned.2.shared .sensorPsk = some Vectors.sensorPsk := by
    decide +kernel
  obtain ⟨-, hshape, -, -, hreceived, -⟩ :=
    sealed_objects_consistent Vectors.crypto rfl rfl Vectors.provisioned_run
  exact ⟨_, _, hblob, hsecret, hshape _ hblob, hreceived _ hsecret⟩

end ConfidentialIoT
