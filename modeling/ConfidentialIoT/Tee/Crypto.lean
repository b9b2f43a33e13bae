import Mathlib.Tactic.NormNum
import ConfidentialIoT.Lib.Bytes

/-!
# `Tee/Crypto.lean` — the primitives both sides of the protocol call

The TEE's crypto operations and the server's `cryptography` package are outside the
repository, so they are one record of functions here, and every assumption about them is a
named hypothesis where it is used. What *is* concrete is the byte layout around them: a P-256
point is its two 256-bit coordinates, and `Point.sec1` is the 65-byte uncompressed encoding
both languages build by hand.
-/

set_option autoImplicit false

namespace ConfidentialIoT

/-- A P-256 private scalar. -/
abbrev Scalar : Type := BitVec 256

/-- A P-256 point, by its affine coordinates. -/
structure Point where
  x : BitVec 256
  y : BitVec 256
deriving DecidableEq, Repr, Inhabited

namespace Point

/-- `0x04 || X || Y`, both coordinates left-zero-padded to 32 bytes. -/
def sec1 (p : Point) : Bytes :=
  0x04 :: (Bytes.toBE 32 p.x.toNat ++ Bytes.toBE 32 p.y.toNat)

/-- The point two coordinate strings denote. -/
def ofCoords (x y : Bytes) : Point :=
  ⟨BitVec.ofNat 256 (Bytes.ofBE x), BitVec.ofNat 256 (Bytes.ofBE y)⟩

@[simp] theorem length_sec1 (p : Point) : p.sec1.length = 65 := by
  simp [sec1]

theorem coord_lt (v : BitVec 256) : v.toNat < 256 ^ 32 :=
  Nat.lt_of_lt_of_eq v.isLt (by norm_num)

theorem toBE_coord_inj {v w : BitVec 256}
    (h : Bytes.toBE 32 v.toNat = Bytes.toBE 32 w.toNat) : v = w :=
  BitVec.eq_of_toNat_eq (Bytes.toBE_inj (coord_lt v) (coord_lt w) h)

/-- The encoding determines the point. -/
theorem sec1_inj {p q : Point} (h : p.sec1 = q.sec1) : p = q := by
  obtain ⟨px, py⟩ := p
  obtain ⟨qx, qy⟩ := q
  simp only [sec1, List.cons.injEq, true_and] at h
  obtain ⟨hx, hy⟩ := List.append_inj h (by rw [Bytes.length_toBE, Bytes.length_toBE])
  rw [toBE_coord_inj hx, toBE_coord_inj hy]

end Point

/-- A P-256 keypair as the TEE's key generation returns it. -/
structure EcKeyPair where
  d : Scalar
  pub : Point
deriving DecidableEq, Repr, Inhabited

/-- The primitives. `ecdsaVerify` takes a digest, `ecdh` returns the shared x-coordinate. -/
structure Crypto where
  sha256 : Bytes → Bytes
  pub : Scalar → Point
  ecdh : Scalar → Point → Bytes
  hkdf : (ikm salt info : Bytes) → Nat → Bytes
  ecdsaVerify : Point → (digest sig : Bytes) → Bool
  hmac : (key msg : Bytes) → Bytes

end ConfidentialIoT
