import ConfidentialIoT.Lib.Prog
import ConfidentialIoT.Tee.Crypto

/-!
# `Tee/Api.lean` — the GlobalPlatform Internal Core API, as the TA calls it

The signature of the TA's programs. A request is a `TEE_…` call that can return an error code;
an action is one that cannot (it answers or panics, and a panic is an execution that stops
there). Two of the actions are not `TEE_…` calls at all: `hostRead` and `hostWrite` are the
TA's accesses to the memory behind a `params[]` memref. That memory is shared with Normal
World, so every access is a call of its own and its answer is the Host's choice.

Handles do not appear: an object is what it holds (a keypair, a secret's bytes), an operation
is the bytes already fed to it. `TEE_Close…`, `TEE_Free…`, `TEE_MACInit` and the local
`TEE_MemMove`/`TEE_MemFill`/`TEE_MemCompare` on TA memory return nothing the TA inspects and are
plain Lean.
-/

set_option autoImplicit false

namespace ConfidentialIoT

open Effects

/-- `TEE_Result` other than `TEE_SUCCESS`. A command returns `Except TeeError Unit`, so success
is `.ok ()` and an error is never success. -/
inductive TeeError where
  | itemNotFound | accessConflict | accessDenied | badParameters | badState | badFormat
  | shortBuffer | overflow | notSupported | outOfMemory | communication | signatureInvalid
  | macInvalid
  | other (code : UInt32)
deriving DecidableEq, Repr

/-- The TA's persistent objects in `TEE_STORAGE_PRIVATE`. -/
inductive ObjectId where
  /-- `ciot.server.pubkey` -/
  | serverPubkey
  /-- `ciot.ta.identity` -/
  | taIdentity
  /-- `ciot.sensor.psk` -/
  | sensorPsk
deriving DecidableEq, Repr

/-- `TEE_TYPE_…` of a transient object. -/
inductive ObjectType where
  | ecdhKeypair | ecdsaKeypair | ecdsaPublicKey | genericSecret | hkdfIkm | aes | hmacSha256
deriving DecidableEq, Repr

/-- `TEE_ALG_…` with the mode it is allocated in. -/
inductive Algorithm where
  | sha256Digest | ecdsaSign | ecdsaVerify | ecdhDerive | hkdfDerive | aesGcmEncrypt | hmacMac
deriving DecidableEq, Repr

/-- The attributes of an EC keypair object. -/
inductive EcAttr where
  | privateValue | publicValueX | publicValueY
deriving DecidableEq, Repr

/-- The commands of the sensor_link PTA. -/
inductive PtaCommand where
  | challenge | read | fetchSecret
deriving DecidableEq, Repr

/-- The calls that return a `TEE_Result`. -/
inductive TeeReq where
  | openPersistentObject (id : ObjectId)
  | readObjectData (id : ObjectId) (size : Nat)
  | createPersistentObject (id : ObjectId) (data : Bytes)
  | allocateTransientObject (type : ObjectType) (maxKeySize : Nat)
  | populateTransientObject (type : ObjectType) (attrs : List Bytes)
  | generateKey (type : ObjectType) (keySize : Nat)
  | getEcAttribute (obj : EcKeyPair) (attr : EcAttr) (size : Nat)
  | getSecretValue (obj : Bytes) (size : Nat)
  | allocateOperation (alg : Algorithm) (maxKeySize : Nat)
  | setOperationKey (alg : Algorithm)
  | digestDoFinal (msg : Bytes) (size : Nat)
  | asymmetricSignDigest (d x y digest : Bytes) (size : Nat)
  | asymmetricVerifyDigest (x y digest sig : Bytes)
  | macCompareFinal (key msg mac : Bytes)
  | aeInit (key nonce : Bytes) (tagLen aadLen payloadLen : Nat)
  | aeEncryptFinal (key nonce aad plain : Bytes) (size : Nat)
  | openTASession
  | invokeTACommand (cmd : PtaCommand) (input : Bytes) (size : Nat)
deriving DecidableEq, Repr

/-- What each returns with `TEE_SUCCESS`. An output buffer comes back at its final size; the PTA's
is the whole buffer as the TA finds it, with the size the PTA reported. -/
@[reducible] def TeeReq.Out : TeeReq → Type
  | .openPersistentObject _ => Unit
  | .readObjectData _ _ => Bytes
  | .createPersistentObject _ _ => Unit
  | .allocateTransientObject _ _ => Unit
  | .populateTransientObject _ _ => Unit
  | .generateKey _ _ => EcKeyPair
  | .getEcAttribute _ _ _ => Bytes
  | .getSecretValue _ _ => Bytes
  | .allocateOperation _ _ => Unit
  | .setOperationKey _ => Unit
  | .digestDoFinal _ _ => Bytes
  | .asymmetricSignDigest _ _ _ _ _ => Bytes
  | .asymmetricVerifyDigest _ _ _ _ => Unit
  | .macCompareFinal _ _ _ => Unit
  | .aeInit _ _ _ _ _ => Unit
  | .aeEncryptFinal _ _ _ _ _ => Bytes × Bytes
  | .openTASession => Unit
  | .invokeTACommand _ _ size => BytesN size × Nat

/-- A command has four parameters, and their numbers name them. -/
instance fourParams : NeZero 4 := ⟨Nat.succ_ne_zero _⟩

/-- The calls that answer or panic, and the accesses to Host-shared memory. -/
inductive TeeAct where
  /-- read `len` bytes at offset `off` of the buffer of `params[i]` -/
  | hostRead (i : Fin 4) (off len : Nat)
  /-- write bytes at offset `off` of the buffer of `params[i]` -/
  | hostWrite (i : Fin 4) (off : Nat) (data : Bytes)
  | deriveEcdh (key : EcKeyPair) (x y : Bytes)
  | deriveHkdf (ikm salt info : Bytes) (okmLen : Nat)
  | generateRandom (len : Nat)
deriving DecidableEq, Repr

@[reducible] def TeeAct.Res : TeeAct → Type
  | .hostRead _ _ len => BytesN len
  | .hostWrite _ _ _ => Unit
  | .deriveEcdh _ _ _ => Bytes
  | .deriveHkdf _ _ _ _ => Bytes
  | .generateRandom len => BytesN len

/-- The signature of the TA's programs. -/
@[reducible] def Tee : Sig where
  Err := TeeError
  Req := TeeReq
  Out := TeeReq.Out
  Act := TeeAct
  Res := TeeAct.Res

instance instNonemptyOut : ∀ r : TeeReq, Nonempty r.Out := by
  intro r
  cases r with
  | invokeTACommand cmd input size =>
    exact ⟨⟨List.replicate size 0, List.length_replicate⟩, 0⟩
  | _ => exact ⟨default⟩

/-- Every call of the API has an answer. -/
theorem tee_answers : ∀ c : Call Tee, Nonempty c.Ans := by
  rintro (r | a)
  · exact ⟨.error .badState⟩
  · cases a with
    | hostRead i off len => exact ⟨⟨List.replicate len 0, List.length_replicate⟩⟩
    | generateRandom len => exact ⟨⟨List.replicate len 0, List.length_replicate⟩⟩
    | hostWrite i off data => exact ⟨()⟩
    | deriveEcdh key x y => exact ⟨[]⟩
    | deriveHkdf ikm salt info okmLen => exact ⟨[]⟩

/-! ## `TEE_Param` -/

/-- The TA's own copy of one `TEE_Param`: a memref's size, or a value's two words. The memory
behind the memref is not here; it is reached by `hostRead` and `hostWrite`. -/
structure TeeParam where
  size : Nat
  a : UInt32
  b : UInt32
deriving DecidableEq, Repr

abbrev Params : Type := Fin 4 → TeeParam

/-- `TEE_PARAM_TYPE_…` -/
inductive ParamType where
  | none | valueInput | valueOutput | valueInout | memrefInput | memrefOutput | memrefInout
deriving DecidableEq, Repr

/-- The code GlobalPlatform gives each parameter type. -/
def ParamType.code : ParamType → UInt32
  | .none => 0
  | .valueInput => 1
  | .valueOutput => 2
  | .valueInout => 3
  | .memrefInput => 5
  | .memrefOutput => 6
  | .memrefInout => 7

/-- `TEE_PARAM_TYPES(t0, t1, t2, t3)` -/
def teeParamTypes (t₀ t₁ t₂ t₃ : ParamType) : UInt32 :=
  t₀.code ||| (t₁.code <<< 4) ||| (t₂.code <<< 8) ||| (t₃.code <<< 12)

/-! ## What the API promises

`TeeContract C ev` is the part of the API's documented behaviour the proofs use: an EC attribute
is the big-endian value of the keypair's field in at most the buffer's size (leading zero bytes
may be dropped), a digest is the hash of what was fed, a signature check succeeds only on a
valid signature, a derived secret is the primitive's value. -/

/-- The field an EC attribute names. -/
def EcKeyPair.attr (kp : EcKeyPair) : EcAttr → BitVec 256
  | .privateValue => kp.d
  | .publicValueX => kp.pub.x
  | .publicValueY => kp.pub.y

def TeeContract (C : Crypto) : Event Tee → Prop
  | .ok (.generateKey _ _) kp => kp.pub = C.pub kp.d
  | .ok (.getEcAttribute kp attr size) b => b.length ≤ size ∧ Bytes.ofBE b = (kp.attr attr).toNat
  | .ok (.getSecretValue obj _) b => b = obj
  | .ok (.digestDoFinal msg _) b => b = C.sha256 msg
  | .ok (.asymmetricSignDigest _ x y digest _) b =>
      C.ecdsaVerify (Point.ofCoords x y) digest b = true
  | .ok (.asymmetricVerifyDigest x y digest sig) _ =>
      C.ecdsaVerify (Point.ofCoords x y) digest sig = true
  | .ok (.macCompareFinal key msg mac) _ => mac = C.hmac key msg
  | .did (.deriveEcdh kp x y) b => b = C.ecdh kp.d (Point.ofCoords x y)
  | .did (.deriveHkdf ikm salt info okmLen) b => b = C.hkdf ikm salt info okmLen
  | _ => True

/-- Every answer of a history keeps the contract. -/
def TeeCorrect (C : Crypto) (tr : List (Event Tee)) : Prop := ∀ ev ∈ tr, TeeContract C ev

@[simp] theorem teeCorrect_append {C : Crypto} {tr tr' : List (Event Tee)} :
    TeeCorrect C (tr ++ tr') ↔ TeeCorrect C tr ∧ TeeCorrect C tr' := List.forall_mem_append

@[simp] theorem teeCorrect_cons {C : Crypto} {ev : Event Tee} {tr : List (Event Tee)} :
    TeeCorrect C (ev :: tr) ↔ TeeContract C ev ∧ TeeCorrect C tr := List.forall_mem_cons

theorem TeeCorrect.of_prefix {C : Crypto} {tr tr' : List (Event Tee)} (h : TeeCorrect C tr')
    (hpre : tr <+: tr') : TeeCorrect C tr := fun ev hev => h ev (hpre.subset hev)

/-! ## What matters in a history

Most calls set a handle up, look at one, or are refused. `essential` drops those, so that the
rest of an execution can be written down entry by entry. -/

def housekeeping : Event Tee → Bool
  | .ok (.openPersistentObject _) _ => true
  | .ok (.allocateTransientObject _ _) _ => true
  | .ok (.populateTransientObject _ _) _ => true
  | .ok (.getEcAttribute _ _ _) _ => true
  | .ok (.getSecretValue _ _) _ => true
  | .ok (.allocateOperation _ _) _ => true
  | .ok (.setOperationKey _) _ => true
  | .ok .openTASession _ => true
  | .refused _ _ => true
  | _ => false

def essential (tr : List (Event Tee)) : List (Event Tee) := tr.filter fun ev => !housekeeping ev

@[simp] theorem essential_append (tr tr' : List (Event Tee)) :
    essential (tr ++ tr') = essential tr ++ essential tr' := List.filter_append ..

@[simp] theorem essential_nil : essential [] = [] := rfl

/-- `essential` computes, entry by entry. -/
@[simp] theorem essential_cons (ev : Event Tee) (tr : List (Event Tee)) :
    essential (ev :: tr) = bif housekeeping ev then essential tr else ev :: essential tr := by
  cases h : housekeeping ev <;> simp [essential, h]

end ConfidentialIoT
