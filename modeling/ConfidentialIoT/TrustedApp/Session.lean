import ConfidentialIoT.Lib.Keeps
import ConfidentialIoT.Tee.Api

/-!
# `TrustedApp/Session.lean` — the TA's constants, its session struct, and the monad of its code

`confidential_iot_ta.h`, `trusted_app.h` and the part of `pta_sensor_link.h` the TA reads.

A command runs over a `Frame`: the session struct and the TA's own copy of the four
`TEE_Param`s. Both survive an error return, as in C, so the frame is the local state of a
`Proc`. `sess->reading` with `sess->reading_len` is the list of the first `reading_len` bytes:
nothing ever reads past them.
-/

set_option autoImplicit false

namespace ConfidentialIoT

open Effects

/-! ## Constants -/

abbrev ecdhPubkeySize : Nat := 65
abbrev sessionKeySize : Nat := 32
abbrev transcriptHashSize : Nat := 32
abbrev serverSigSize : Nat := 64
abbrev seqAadSize : Nat := 8
abbrev taSigSize : Nat := 64
abbrev evidenceBlockSize : Nat := transcriptHashSize + taSigSize
abbrev ecScalarSize : Nat := 32
abbrev deviceIdMax : Nat := 63
abbrev taIdentityBlobSize : Nat := 160
abbrev nonceMax : Nat := 64
abbrev readingMax : Nat := 256
abbrev sensorSecretSize : Nat := 32

abbrev sensorLinkChallengeSize : Nat := 32
abbrev sensorLinkHmacSize : Nat := 32
abbrev sensorLinkReadingMax : Nat := 256
abbrev sensorLinkReadingValueSize : Nat := 4
abbrev sensorLinkReadingUnitMax : Nat := 32

/-- `TA_CONFIDENTIAL_IOT_SERVER_IDENTITY_LABEL`, without its NUL. -/
def serverIdentityLabel : Bytes := Bytes.ascii
  ['C', 'C', '-', 'I', 'O', 'T', '-', '1', ' ', 's', 'e', 'r', 'v', 'e', 'r', '-',
   'i', 'd', 'e', 'n', 't', 'i', 't', 'y']

/-- `TA_CONFIDENTIAL_IOT_TA_IDENTITY_LABEL`, without its NUL. -/
def taIdentityLabel : Bytes := Bytes.ascii
  ['C', 'C', '-', 'I', 'O', 'T', '-', '1', ' ', 't', 'a', '-', 'i', 'd', 'e', 'n', 't', 'i',
   't', 'y']

/-- `TA_CONFIDENTIAL_IOT_HKDF_INFO`, without its NUL. -/
def hkdfInfo : Bytes := Bytes.ascii
  ['C', 'C', '-', 'I', 'O', 'T', '-', '1', ' ', 'd', 'e', 'v', 'i', 'c', 'e', '-', 'a', 'e',
   'a', 'd']

/-- `TA_CONFIDENTIAL_IOT_CMD_…`; 2 is retired. -/
inductive Command where
  | authenticateSensor | readAndProtect | generateAttestationEvidence | handshakeComplete
  | provisionSensorSecret | generateTaIdentity
deriving DecidableEq, Repr

def Command.ofId : UInt32 → Option Command
  | 0 => some .authenticateSensor
  | 1 => some .readAndProtect
  | 3 => some .generateAttestationEvidence
  | 4 => some .handshakeComplete
  | 5 => some .provisionSensorSecret
  | 6 => some .generateTaIdentity
  | _ => none

/-! ## The session -/

/-- `struct confidential_iot_session` -/
structure Session where
  ecdhKeypair : Option EcKeyPair
  sessionKey : Bytes
  sessionKeyValid : Bool
  sensorAuthenticated : Bool
  sendSeq : UInt64
  reading : Bytes
  sensorPtaOpen : Bool
deriving DecidableEq, Repr

/-- What `TA_OpenSessionEntryPoint` allocates. -/
def Session.fresh : Session where
  ecdhKeypair := none
  sessionKey := List.replicate sessionKeySize 0
  sessionKeyValid := false
  sensorAuthenticated := false
  sendSeq := 0
  reading := []
  sensorPtaOpen := false

/-- What a command sees of its caller: the session and the TA's copy of `params[]`. -/
structure Frame where
  sess : Session
  params : Params

/-- The monad of the TA's C functions. -/
abbrev TA (α : Type) : Type := Proc Tee TeeError Frame α

namespace Frame

/-- Update the session. -/
def onSess (f : Session → Session) (s : Frame) : Frame := { s with sess := f s.sess }

/-- Set the size a memref parameter is returned with. -/
def setSize (i : Fin 4) (n : Nat) (s : Frame) : Frame :=
  { s with params := Function.update s.params i { s.params i with size := n } }

/-- Set a value parameter's words. -/
def setValue (i : Fin 4) (a b : UInt32) (s : Frame) : Frame :=
  { s with params := Function.update s.params i { s.params i with a := a, b := b } }

variable (s : Frame) (f : Session → Session) (i : Fin 4)

@[simp] theorem onSess_sess : (s.onSess f).sess = f s.sess := rfl
@[simp] theorem onSess_params : (s.onSess f).params = s.params := rfl
@[simp] theorem setSize_sess (n : Nat) : (s.setSize i n).sess = s.sess := rfl
@[simp] theorem setValue_sess (a b : UInt32) : (s.setValue i a b).sess = s.sess := rfl

end Frame

/-- Make a `TEE_…` call; an error code is the function's error. -/
def tee (r : TeeReq) : TA r.Out := Proc.attempt (S := Tee) r

/-- Make a call that cannot return an error. -/
def teeAct (a : TeeAct) : TA a.Res := Proc.act (S := Tee) a

/-- Read `len` bytes at `off` of the memory behind `params[i]`. -/
def hostRead (i : Fin 4) (off len : Nat) : TA (BytesN len) := teeAct (.hostRead i off len)

/-- Write bytes at `off` of the memory behind `params[i]`. -/
def hostWrite (i : Fin 4) (off : Nat) (data : Bytes) : TA Unit :=
  teeAct (.hostWrite i off data)

section

variable {A : List (Event Tee) → Call Tee → Prop} {E : List (Event Tee) → Frame → TeeError → Prop}
  {s : Frame} {tr : List (Event Tee)}

@[simp] theorem wpP_tee {r : TeeReq} {Q : List (Event Tee) → Frame → r.Out → Prop} :
    wpP (α := no_index r.Out) A (tee r) Q E s tr ↔ A tr (.req r) ∧
      (∀ b : r.Out, Q (tr ++ [.ok r b]) s b) ∧ ∀ e, E (tr ++ [.refused r e]) s e :=
  wpP_attempt

@[simp] theorem wpP_teeAct {a : TeeAct} {Q : List (Event Tee) → Frame → a.Res → Prop} :
    wpP (α := no_index a.Res) A (teeAct a) Q E s tr ↔ A tr (.act a) ∧ ∀ b : a.Res, Q (tr ++ [.did a b]) s b :=
  Iff.rfl

@[simp] theorem wpP_hostRead {i : Fin 4} {off len : Nat}
    {Q : List (Event Tee) → Frame → BytesN len → Prop} :
    wpP A (hostRead i off len) Q E s tr ↔ A tr (.act (.hostRead i off len)) ∧
      ∀ b : BytesN len, Q (tr ++ [.did (.hostRead i off len) b]) s b :=
  Iff.rfl

@[simp] theorem wpP_hostWrite {i : Fin 4} {off : Nat} {data : Bytes}
    {Q : List (Event Tee) → Frame → Unit → Prop} :
    wpP A (hostWrite i off data) Q E s tr ↔ A tr (.act (.hostWrite i off data)) ∧
      ∀ b : Unit, Q (tr ++ [.did (.hostWrite i off data) b]) s b :=
  Iff.rfl

end

/-! ## Helpers of several commands -/

/-- `TEE_OpenPersistentObject` for reading: whether the object exists. -/
def openObject (id : ObjectId) : TA Bool :=
  Proc.errorAs (do tee (.openPersistentObject id); return true) .itemNotFound false

/-- `TEE_CreatePersistentObject` without `TEE_DATA_FLAG_OVERWRITE`: whether it was this call
that created the object. -/
def createObject (id : ObjectId) (data : Bytes) : TA Bool :=
  Proc.errorAs (do tee (.createPersistentObject id data); return true) .accessConflict false

section

variable {A : List (Event Tee) → Call Tee → Prop} {E : List (Event Tee) → Frame → TeeError → Prop}
  {Q : List (Event Tee) → Frame → Bool → Prop} {s : Frame} {tr : List (Event Tee)}

@[simp] theorem wpP_openObject {id : ObjectId} :
    wpP A (openObject id) Q E s tr ↔ A tr (.req (.openPersistentObject id)) ∧
      Q (tr ++ [.ok (.openPersistentObject id) ()]) s true ∧
      Q (tr ++ [.refused (.openPersistentObject id) .itemNotFound]) s false ∧
      ∀ e, e ≠ .itemNotFound → E (tr ++ [.refused (.openPersistentObject id) e]) s e := by
  simp only [openObject, wpP_errorAs, wpP_bind, wpP_tee, wpP_pure, forall_and, forall_eq]
  exact ⟨fun h => ⟨h.1, h.2.1 (), h.2.2.1, h.2.2.2⟩, fun h => ⟨h.1, fun _ => h.2.1, h.2.2⟩⟩

@[simp] theorem wpP_createObject {id : ObjectId} {data : Bytes} :
    wpP A (createObject id data) Q E s tr ↔ A tr (.req (.createPersistentObject id data)) ∧
      Q (tr ++ [.ok (.createPersistentObject id data) ()]) s true ∧
      Q (tr ++ [.refused (.createPersistentObject id data) .accessConflict]) s false ∧
      ∀ e, e ≠ .accessConflict → E (tr ++ [.refused (.createPersistentObject id data) e]) s e := by
  simp only [createObject, wpP_errorAs, wpP_bind, wpP_tee, wpP_pure, forall_and, forall_eq]
  exact ⟨fun h => ⟨h.1, h.2.1 (), h.2.2.1, h.2.2.2⟩, fun h => ⟨h.1, fun _ => h.2.1, h.2.2⟩⟩

end

/-- Read a coordinate or the private scalar into a 32-byte left-zero-padded buffer. -/
def readEcCoordinate (obj : EcKeyPair) (attr : EcAttr) : TA Bytes := do
  let tmp ← tee (.getEcAttribute obj attr 32)
  if tmp.length > 32 then
    throw .badFormat
  return List.replicate (32 - tmp.length) 0 ++ tmp

/-- `device_pub`: the point `0x04 || X || Y` of a keypair, read attribute by attribute. -/
def readPublicPoint (obj : EcKeyPair) : TA Bytes := do
  let x ← readEcCoordinate obj .publicValueX
  let y ← readEcCoordinate obj .publicValueY
  return 0x04 :: (x ++ y)

theorem readPublicPoint_keeps (obj : EcKeyPair) :
    Keeps (fun _ _ => True) id (readPublicPoint obj) := by
  intro s tr
  simp [readPublicPoint, readEcCoordinate]

/-- The padded buffer is the coordinate's 32-byte encoding, however many leading zeros the TEE
dropped. -/
theorem readEcCoordinate_spec (obj : EcKeyPair) (attr : EcAttr)
    {A : List (Event Tee) → Call Tee → Prop} {s : Frame} {tr : List (Event Tee)}
    (hA : ∀ tr obj attr, A tr (.req (.getEcAttribute obj attr 32))) :
    wpP A (readEcCoordinate obj attr)
      (fun tr' s' b => s' = s ∧ essential tr' = essential tr ∧ b.length = 32 ∧
        ∀ C, TeeCorrect C tr' → b = Bytes.toBE 32 (obj.attr attr).toNat)
      (fun _ s' _ => s' = s) s tr := by
  simp only [readEcCoordinate, wpP_bind, wpP_tee, hA, true_and]
  constructor
  · intro raw
    simp only [wpP_ite, wpP_bind, wpP_throw, wpP_pure, implies_true, true_and]
    intro hle
    have hlen : (List.replicate (32 - raw.length) 0 ++ raw).length = 32 := by
      rw [List.length_append, List.length_replicate]
      omega
    refine ⟨by simp [housekeeping], hlen, ?_⟩
    intro C hC
    obtain ⟨hlen, hval⟩ : raw.length ≤ 32 ∧ Bytes.ofBE raw = (obj.attr attr).toNat :=
      hC _ (List.mem_append_right _ (List.mem_singleton_self _))
    rw [Bytes.padLeft_eq_toBE hlen, hval]
  · intro e
    trivial

/-- The point read attribute by attribute is the keypair's public point. -/
theorem readPublicPoint_spec (obj : EcKeyPair) {A : List (Event Tee) → Call Tee → Prop}
    {s : Frame} {tr : List (Event Tee)}
    (hA : ∀ tr obj attr, A tr (.req (.getEcAttribute obj attr 32))) :
    wpP A (readPublicPoint obj)
      (fun tr' s' pub => s' = s ∧ essential tr' = essential tr ∧ pub.length = ecdhPubkeySize ∧
        ∀ C, TeeCorrect C tr' → pub = obj.pub.sec1)
      (fun _ s' _ => s' = s) s tr := by
  rw [readPublicPoint]
  apply wpP_seq (readEcCoordinate_spec obj .publicValueX hA)
  · rintro tr₁ s₁ x h₁ ⟨rfl, hess₁, hlx, hx⟩
    apply wpP_seq (readEcCoordinate_spec obj .publicValueY hA)
    · rintro tr₂ s₂ y h₂ ⟨rfl, hess₂, hly, hy⟩
      refine ⟨rfl, hess₂.trans hess₁, by simp [hlx, hly], ?_⟩
      intro C hC
      rw [hx C (hC.of_prefix h₂), hy C hC]
      rfl
    · intro _ _ _ _ heq
      exact heq
  · intro _ _ _ _ heq
    exact heq

end ConfidentialIoT
