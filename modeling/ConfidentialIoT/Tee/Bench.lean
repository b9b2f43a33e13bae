import ConfidentialIoT.Tee.Api

/-!
# `Tee/Bench.lean` — a TEE that keeps the contract

An environment for concrete executions: it answers every call of the API, from a handful of
things one can choose (what storage holds, what the Host's buffers contain at each access, what
the generators return). `Bench.contract` says that whatever is chosen, `TeeContract` holds of
every answer; so an execution against a bench is one that correct TEE services can produce.
-/

set_option autoImplicit false

namespace ConfidentialIoT

open Effects

/-- Cut or zero-pad to a length. -/
def fit (len : Nat) (b : Bytes) : BytesN len :=
  ⟨(b ++ List.replicate len 0).take len, by simp⟩

structure Bench where
  crypto : Crypto
  /-- the signature the scalar `d` makes over a digest -/
  sign : (d digest : Bytes) → Bytes
  /-- what key generation returns -/
  keypair : EcKeyPair
  keypair_pub : keypair.pub = crypto.pub keypair.d
  /-- what the random generator returns -/
  random : Bytes
  store : ObjectId → Option Bytes
  /-- the buffer behind `params[i]` when the `n`-th call of the command reads it -/
  host : Nat → Fin 4 → Bytes
  /-- the sensor_link PTA -/
  pta : PtaCommand → Bytes → Bytes
  /-- AES-256-GCM: ciphertext and tag -/
  gcm : (key nonce aad plain : Bytes) → Bytes × Bytes

namespace Bench

variable (b : Bench)

/-- The answer to a request. -/
def request : (r : TeeReq) → Except TeeError r.Out
  | .openPersistentObject id => if (b.store id).isSome then .ok () else .error .itemNotFound
  | .readObjectData id size =>
    match b.store id with | some data => .ok (data.take size) | none => .error .itemNotFound
  | .createPersistentObject id _ => if (b.store id).isSome then .error .accessConflict else .ok ()
  | .generateKey _ _ => .ok b.keypair
  | .getEcAttribute obj attr size =>
    if size < 32 then .error .shortBuffer else .ok (Bytes.toBE 32 (obj.attr attr).toNat)
  | .getSecretValue obj _ => .ok obj
  | .digestDoFinal msg _ => .ok (b.crypto.sha256 msg)
  | .asymmetricSignDigest d x y digest _ =>
    if b.crypto.ecdsaVerify (Point.ofCoords x y) digest (b.sign d digest) then
      .ok (b.sign d digest)
    else .error .badState
  | .asymmetricVerifyDigest x y digest sig =>
    if b.crypto.ecdsaVerify (Point.ofCoords x y) digest sig then .ok ()
    else .error .signatureInvalid
  | .macCompareFinal key msg mac =>
    if mac = b.crypto.hmac key msg then .ok () else .error .macInvalid
  | .aeEncryptFinal key nonce aad plain _ => .ok (b.gcm key nonce aad plain)
  | .invokeTACommand cmd input size => .ok (fit size (b.pta cmd input), (b.pta cmd input).length)
  | .allocateTransientObject _ _ => .ok ()
  | .populateTransientObject _ _ => .ok ()
  | .allocateOperation _ _ => .ok ()
  | .setOperationKey _ => .ok ()
  | .aeInit _ _ _ _ _ => .ok ()
  | .openTASession => .ok ()

/-- The answer to an action, the `n`-th call of the command. -/
def action (n : Nat) : (a : TeeAct) → a.Res
  | .hostRead i off len => fit len ((b.host n i).drop off)
  | .hostWrite _ _ _ => ()
  | .deriveEcdh key x y => b.crypto.ecdh key.d (Point.ofCoords x y)
  | .deriveHkdf ikm salt info okmLen => b.crypto.hkdf ikm salt info okmLen
  | .generateRandom len => fit len b.random

def answer (n : Nat) : (c : Call Tee) → c.Ans
  | .req r => b.request r
  | .act a => b.action n a

/-- A coordinate survives its 32-byte encoding. -/
theorem ofBE_attr (obj : EcKeyPair) (attr : EcAttr) :
    Bytes.ofBE (Bytes.toBE 32 (obj.attr attr).toNat) = (obj.attr attr).toNat :=
  Bytes.ofBE_toBE (Point.coord_lt _)

/-- **Every answer of a bench keeps the contract.** -/
theorem contract (n : Nat) (c : Call Tee) : TeeContract b.crypto (Event.of c (b.answer n c)) := by
  cases c with
  | act a => cases a <;> first | exact rfl | trivial
  | req r =>
    cases r <;> simp only [answer, request]
    case generateKey => exact b.keypair_pub
    case getEcAttribute obj attr size =>
      split
      · trivial
      · refine ⟨?_, ofBE_attr obj attr⟩
        simp only [Bytes.length_toBE]
        omega
    case asymmetricSignDigest =>
      split
      · assumption
      · trivial
    case asymmetricVerifyDigest =>
      split
      · assumption
      · trivial
    case macCompareFinal =>
      split
      · assumption
      · trivial
    case getSecretValue => exact rfl
    case digestDoFinal => exact rfl
    all_goals first | trivial | (split <;> trivial)

end Bench

end ConfidentialIoT
