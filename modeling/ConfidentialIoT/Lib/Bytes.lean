import Mathlib.Data.List.Induction
import Mathlib.Tactic.Common
import Mathlib.Tactic.Ring

/-!
# `Lib/Bytes.lean` — byte strings, big-endian numbers, and concatenation without prefixes

Two things every byte-level protocol argument needs and neither of which is about a protocol:

* a fixed-width big-endian encoding `toBE n` with its value `ofBE`, inverse to each other on
  the numbers that fit (`ofBE_toBE`) and on the strings of that width (`toBE_ofBE`), and
  insensitive to how many leading zeros the input carried (`padLeft_eq_toBE`);
* when an *unprefixed* concatenation can be taken apart again: two splits of one string agree
  as soon as the lengths of the leading parts do (`append_inj_left`, `append3_inj`).
-/

set_option autoImplicit false

/-- A string of bytes. -/
abbrev Bytes : Type := List UInt8

/-- A string of exactly `n` bytes. -/
abbrev BytesN (n : Nat) : Type := { b : Bytes // b.length = n }

namespace Bytes

/-- The bytes of an ASCII text. -/
def ascii (cs : List Char) : Bytes := cs.map fun c => UInt8.ofNat c.toNat

/-- `len` bytes of `b` from offset `off`. -/
def slice (b : Bytes) (off len : Nat) : Bytes := (b.drop off).take len

theorem length_slice (b : Bytes) (off len : Nat) (h : off + len ≤ b.length) :
    (slice b off len).length = len := by
  simp only [slice, List.length_take, List.length_drop]
  omega

theorem getElem?_slice {b : Bytes} {off len k : Nat} (hk : k < len) :
    (b.slice off len)[k]? = b[off + k]? := by
  rw [slice, List.getElem?_take_of_lt hk, List.getElem?_drop]

/-- A string is a slice when it agrees with it byte by byte. -/
theorem eq_slice_iff {a b : Bytes} (off : Nat) {len : Nat} (ha : a.length = len)
    (h : off + len ≤ b.length) : a = b.slice off len ↔ ∀ k, k < len → a[k]? = b[off + k]? := by
  subst ha
  constructor
  · intro heq k hk
    rw [← getElem?_slice hk, ← heq]
  · intro hall
    apply List.ext_getElem?
    intro k
    by_cases hk : k < a.length
    · rw [getElem?_slice hk, hall k hk]
    · rw [List.getElem?_eq_none (by omega), List.getElem?_eq_none]
      rw [length_slice b off a.length h]
      omega

/-- Adjacent slices concatenate. -/
theorem slice_append_slice (b : Bytes) (off m n : Nat) :
    b.slice off m ++ b.slice (off + m) n = b.slice off (m + n) := by
  simp only [slice]
  rw [List.take_add, List.drop_drop]

theorem slice_zero_length (b : Bytes) : b.slice 0 b.length = b := by
  simp [slice]

/-- A part of a concatenation is the slice at the length of what stands before it. -/
theorem slice_eq_part {b p part q : Bytes} {off len : Nat} (h : b = p ++ (part ++ q))
    (hoff : off = p.length) (hlen : len = part.length) : b.slice off len = part := by
  subst h hoff hlen
  rw [slice, List.drop_left, List.take_left]

/-! ## Big-endian numbers -/

/-- The number a string denotes, most significant byte first. -/
def ofBE (b : Bytes) : Nat := b.foldl (fun acc x => acc * 256 + x.toNat) 0

/-- The last `n` big-endian bytes of a number. -/
def toBE : Nat → Nat → Bytes
  | 0, _ => []
  | n + 1, v => toBE n (v / 256) ++ [UInt8.ofNat v]

@[simp] theorem length_toBE (n v : Nat) : (toBE n v).length = n := by
  induction n generalizing v with
  | zero => rfl
  | succ n ih => simp [toBE, ih]

@[simp] theorem ofBE_nil : ofBE [] = 0 := rfl

@[simp] theorem ofBE_append_singleton (b : Bytes) (x : UInt8) :
    ofBE (b ++ [x]) = ofBE b * 256 + x.toNat := by
  simp [ofBE, List.foldl_append]

theorem ofBE_lt (b : Bytes) : ofBE b < 256 ^ b.length := by
  induction b using List.reverseRecOn with
  | nil => simp
  | append_singleton b x ih =>
    have hx : x.toNat < 256 := x.toNat_lt
    rw [ofBE_append_singleton, List.length_append, List.length_singleton, pow_succ]
    calc ofBE b * 256 + x.toNat < ofBE b * 256 + 256 := by omega
      _ = (ofBE b + 1) * 256 := by ring
      _ ≤ 256 ^ b.length * 256 := Nat.mul_le_mul_right _ ih

/-- Decoding an encoding gives the number back, when it fits. -/
theorem ofBE_toBE {n v : Nat} (h : v < 256 ^ n) : ofBE (toBE n v) = v := by
  induction n generalizing v with
  | zero => rw [pow_zero] at h; rw [toBE, ofBE_nil]; omega
  | succ n ih =>
    have hv : v / 256 < 256 ^ n := by
      rw [pow_succ] at h
      exact Nat.div_lt_of_lt_mul (by rwa [Nat.mul_comm] at h)
    rw [toBE, ofBE_append_singleton, ih hv]
    have hx : (UInt8.ofNat v).toNat = v % 256 := by simp
    omega

/-- Encoding a string's number in the string's own width gives the string back. -/
theorem toBE_ofBE (b : Bytes) : toBE b.length (ofBE b) = b := by
  induction b using List.reverseRecOn with
  | nil => rfl
  | append_singleton b x ih =>
    have hx : x.toNat < 256 := x.toNat_lt
    have hdiv : (ofBE b * 256 + x.toNat) / 256 = ofBE b := by omega
    rw [List.length_append, List.length_singleton, toBE, ofBE_append_singleton, hdiv, ih]
    congr 2
    apply UInt8.toNat_inj.mp
    simp only [UInt8.toNat_ofNat']
    omega

theorem toBE_ofBE_of_length {n : Nat} {b : Bytes} (h : b.length = n) : toBE n (ofBE b) = b :=
  h ▸ toBE_ofBE b

theorem ofBE_replicate_zero_append (k : Nat) (b : Bytes) :
    ofBE (List.replicate k 0 ++ b) = ofBE b := by
  induction b using List.reverseRecOn with
  | nil =>
    rw [List.append_nil]
    induction k with
    | zero => rfl
    | succ k ih => rw [List.replicate_succ', ofBE_append_singleton, ih]; rfl
  | append_singleton b x ih => rw [← List.append_assoc, ofBE_append_singleton, ih,
      ofBE_append_singleton]

/-- Left-zero-padding to a width is the encoding of the same number in that width: a minimal
encoding and a padded one meet here. -/
theorem padLeft_eq_toBE {n : Nat} {b : Bytes} (h : b.length ≤ n) :
    List.replicate (n - b.length) 0 ++ b = toBE n (ofBE b) := by
  have hl : (List.replicate (n - b.length) (0 : UInt8) ++ b).length = n := by
    rw [List.length_append, List.length_replicate]
    omega
  calc List.replicate (n - b.length) 0 ++ b
      = toBE (List.replicate (n - b.length) (0 : UInt8) ++ b).length
          (ofBE (List.replicate (n - b.length) 0 ++ b)) := (toBE_ofBE _).symm
    _ = toBE n (ofBE b) := by rw [hl, ofBE_replicate_zero_append]

theorem toBE_inj {n v w : Nat} (hv : v < 256 ^ n) (hw : w < 256 ^ n)
    (h : toBE n v = toBE n w) : v = w := by
  rw [← ofBE_toBE hv, h, ofBE_toBE hw]

/-! ## Unprefixed concatenation -/

variable {a a' b b' c c' d d' : Bytes}

/-- Two splits of one string into parts whose leading ones have the same length are the same
split. -/
theorem append3_inj (h : a ++ (b ++ c) = a' ++ (b' ++ c')) (ha : a.length = a'.length)
    (hb : b.length = b'.length) : a = a' ∧ b = b' ∧ c = c' := by
  obtain ⟨h₁, h⟩ := List.append_inj h ha
  exact ⟨h₁, List.append_inj h hb⟩

/-- The same with one more part. -/
theorem append4_inj (h : a ++ (b ++ (c ++ d)) = a' ++ (b' ++ (c' ++ d')))
    (ha : a.length = a'.length) (hb : b.length = b'.length) (hc : c.length = c'.length) :
    a = a' ∧ b = b' ∧ c = c' ∧ d = d' := by
  obtain ⟨h₁, h⟩ := List.append_inj h ha
  exact ⟨h₁, append3_inj h hb hc⟩

end Bytes
