import ConfidentialIoT.Lib.Bytes

/-!
# `Lib/Memory.lean` — buffers without ends

A C function that is handed a pointer writes where it likes. So a buffer here has no length: it
is a byte for every offset, and what a bound on a buffer says is said of the stores, all of which
a memory remembers. `NewWithin` is that bound, and it composes along the stores of a program.
-/

set_option autoImplicit false

/-- The bytes of some buffers, and where has been stored to so far. -/
structure Memory (ρ : Type) where
  bytes : ρ → Nat → UInt8
  stores : List (ρ × Nat)

namespace Memory

variable {ρ : Type}

/-- The first `len` bytes of a buffer. -/
def view (m : Memory ρ) (r : ρ) (len : Nat) : Bytes := (List.range len).map (m.bytes r)

@[simp] theorem length_view (m : Memory ρ) (r : ρ) (len : Nat) : (m.view r len).length = len := by
  rw [view, List.length_map, List.length_range]

/-- Every store since `m` has been below its buffer's bound. -/
def NewWithin (cap : ρ → Nat) (m m' : Memory ρ) : Prop :=
  ∀ s ∈ m'.stores, s ∈ m.stores ∨ s.2 < cap s.1

theorem NewWithin.refl (cap : ρ → Nat) (m : Memory ρ) : NewWithin cap m m := fun _ h => Or.inl h

theorem NewWithin.trans {cap : ρ → Nat} {m m' m'' : Memory ρ} (h : NewWithin cap m m')
    (h' : NewWithin cap m' m'') : NewWithin cap m m'' := by
  intro s hs
  rcases h' s hs with hs | hs
  · exact h s hs
  · exact Or.inr hs

theorem view_congr {m m' : Memory ρ} {r : ρ} (h : m'.bytes r = m.bytes r) (len : Nat) :
    m'.view r len = m.view r len := by
  rw [view, h, view]

variable [DecidableEq ρ]

/-- `buf[off] = b` -/
def store (m : Memory ρ) (r : ρ) (off : Nat) (b : UInt8) : Memory ρ where
  bytes r' off' := if r' = r ∧ off' = off then b else m.bytes r' off'
  stores := m.stores ++ [(r, off)]

/-- Byte after byte from an offset on. -/
def storeAll (m : Memory ρ) (r : ρ) (off : Nat) : Bytes → Memory ρ
  | [] => m
  | b :: bs => (m.store r off b).storeAll r (off + 1) bs

@[simp] theorem storeAll_nil (m : Memory ρ) (r : ρ) (off : Nat) : m.storeAll r off [] = m := rfl

theorem storeAll_append (m : Memory ρ) (r : ρ) (off : Nat) (as bs : Bytes) :
    m.storeAll r off (as ++ bs) = (m.storeAll r off as).storeAll r (off + as.length) bs := by
  induction as generalizing m off with
  | nil => rfl
  | cons a as ih =>
    rw [List.cons_append, storeAll, ih, storeAll, List.length_cons]
    congr 1
    omega

theorem bytes_storeAll_other (m : Memory ρ) {r r' : ρ} (h : r' ≠ r) (off : Nat) (bs : Bytes) :
    (m.storeAll r off bs).bytes r' = m.bytes r' := by
  induction bs generalizing m off with
  | nil => rfl
  | cons b bs ih =>
    rw [storeAll, ih]
    funext off'
    exact if_neg fun heq => h heq.1

theorem bytes_storeAll_below (m : Memory ρ) (r : ρ) {off off' : Nat} (h : off' < off) (bs : Bytes) :
    (m.storeAll r off bs).bytes r off' = m.bytes r off' := by
  induction bs generalizing m off with
  | nil => rfl
  | cons b bs ih =>
    rw [storeAll, ih _ (Nat.lt_succ_of_lt h)]
    exact if_neg fun heq => Nat.ne_of_lt h heq.2

theorem bytes_storeAll (m : Memory ρ) (r : ρ) (off : Nat) {bs : Bytes} {k : Nat}
    (hk : k < bs.length) : (m.storeAll r off bs).bytes r (off + k) = bs[k] := by
  induction bs generalizing m off k with
  | nil => exact absurd hk (Nat.not_lt_zero k)
  | cons b bs ih =>
    rw [storeAll]
    cases k with
    | zero =>
      have hfirst := bytes_storeAll_below (m.store r off b) r (Nat.lt_succ_self off) bs
      exact hfirst.trans (if_pos ⟨rfl, rfl⟩)
    | succ k =>
      have hnext := ih (m.store r off b) (off + 1) (Nat.lt_of_succ_lt_succ hk)
      rw [Nat.add_assoc, Nat.add_comm 1 k] at hnext
      exact hnext

/-- What was stored from the start of a buffer is its content. -/
theorem view_storeAll (m : Memory ρ) (r : ρ) (bs : Bytes) :
    (m.storeAll r 0 bs).view r bs.length = bs := by
  apply List.ext_getElem
  · rw [length_view]
  · intro k _ hk
    simp only [view, List.getElem_map, List.getElem_range]
    have hbyte := bytes_storeAll m r 0 hk
    rwa [Nat.zero_add] at hbyte

theorem mem_stores_storeAll {m : Memory ρ} {r : ρ} {off : Nat} {bs : Bytes} {s : ρ × Nat}
    (h : s ∈ (m.storeAll r off bs).stores) : s ∈ m.stores ∨ s.1 = r := by
  induction bs generalizing m off with
  | nil => exact Or.inl h
  | cons b bs ih =>
    rcases ih h with h | h
    · rcases List.mem_append.mp h with h | h
      · exact Or.inl h
      · rw [List.mem_singleton.mp h]
        exact Or.inr rfl
    · exact Or.inr h

theorem NewWithin.storeAll {cap : ρ → Nat} (m : Memory ρ) (r : ρ) {off : Nat} {bs : Bytes}
    (h : off + bs.length ≤ cap r) : NewWithin cap m (m.storeAll r off bs) := by
  induction bs generalizing m off with
  | nil => exact .refl _ _
  | cons b bs ih =>
    rw [List.length_cons] at h
    refine NewWithin.trans ?_ (ih (m.store r off b) (by omega))
    intro s hs
    rcases List.mem_append.mp hs with hs | hs
    · exact Or.inl hs
    · rw [List.mem_singleton.mp hs]
      right
      show off < cap r
      omega

end Memory
