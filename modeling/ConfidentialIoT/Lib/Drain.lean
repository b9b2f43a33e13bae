import Mathlib.Data.List.DropRight
import ConfidentialIoT.Lib.History

/-!
# `Lib/Drain.lean` — bounded buffers that are drained

Things are put under keys, and what is under a key is taken all at once. A history says what was
put, and what each taker kept of what it found. If that is always the newest one, then what the
takers kept is a subsequence of what was put: nothing twice, nothing out of order, nothing from
under another key (`Newest.sublist`). A buffer that drops its oldest things when it is full keeps
the newest, so its bound does not matter to that (`rtake_rtake`).
-/

set_option autoImplicit false

/-! ## The newest of a list -/

section

variable {α : Type}

theorem rtake_of_length_le {l : List α} {n : Nat} (h : l.length ≤ n) : l.rtake n = l := by
  rw [List.rtake, Nat.sub_eq_zero_of_le h, List.drop_zero]

/-- Trimming before an append does not matter to a buffer that is trimmed after it. -/
theorem rtake_append_rtake (l l' : List α) (n : Nat) :
    (l.rtake n ++ l').rtake n = (l ++ l').rtake n := by
  unfold List.rtake
  rw [List.drop_append, List.drop_append, List.drop_drop]
  simp only [List.length_append, List.length_drop]
  congr 2 <;> omega

theorem length_rtake_le (l : List α) (n : Nat) : (l.rtake n).length ≤ n := by
  rw [List.rtake, List.length_drop]
  omega

theorem rtake_sublist (l : List α) (n : Nat) : (l.rtake n).Sublist l := List.drop_sublist ..

/-- The newest of a trimmed buffer are the newest. -/
theorem rtake_rtake (l : List α) {m n : Nat} (h : m ≤ n) : (l.rtake n).rtake m = l.rtake m := by
  unfold List.rtake
  rw [List.drop_drop, List.length_drop]
  congr 1
  omega

end

namespace Drain

variable {κ α : Type}

/-- Something was put under a key, or a taker emptied it and kept some of it. -/
inductive Op (κ α : Type) where
  | put (k : κ) (xs : List α)
  | took (k : κ) (xs : List α)

variable [DecidableEq κ]

/-- What was put under a key. -/
def put (k : κ) (ops : List (Op κ α)) : List α := ops.flatMap fun
  | .put k' xs => if k' = k then xs else []
  | .took _ _ => []

/-- What the takers of a key kept. -/
def took (k : κ) (ops : List (Op κ α)) : List α := ops.flatMap fun
  | .took k' xs => if k' = k then xs else []
  | .put _ _ => []

/-- What happened since a key was last emptied. -/
def since (k : κ) (ops : List (Op κ α)) : List (Op κ α) := ops.rtakeWhile fun
  | .took k' _ => k' ≠ k
  | .put _ _ => true

/-- What was put under a key since. -/
def pending (k : κ) (ops : List (Op κ α)) : List α := put k (since k ops)

section

variable (k k' : κ) (xs : List α) (ops ops' : List (Op κ α))

@[simp] theorem put_append : put k (ops ++ ops') = put k ops ++ put k ops' := List.flatMap_append

@[simp] theorem took_append : took k (ops ++ ops') = took k ops ++ took k ops' :=
  List.flatMap_append

@[simp] theorem put_put : put k [.put k' xs] = if k' = k then xs else [] := List.append_nil _
@[simp] theorem put_took : put k [Op.took k' xs] = [] := rfl
@[simp] theorem took_put : took k [Op.put k' xs] = [] := rfl
@[simp] theorem took_took : took k [.took k' xs] = if k' = k then xs else [] := List.append_nil _

theorem pending_put :
    pending k (ops ++ [.put k' xs]) = pending k ops ++ if k' = k then xs else [] := by
  unfold pending since
  rw [List.rtakeWhile_concat_pos _ _ _ rfl, put_append, put_put]

theorem pending_took :
    pending k (ops ++ [.took k' xs]) = if k' = k then [] else pending k ops := by
  unfold pending since
  by_cases h : k' = k
  · rw [List.rtakeWhile_concat_neg _ _ _ (by simp [h]), if_pos h]
    rfl
  · rw [List.rtakeWhile_concat_pos _ _ _ (by simp [h]), if_neg h, put_append, put_took,
      List.append_nil]

end

/-- Every taker kept the newest of what it found. -/
def Newest (ops : List (Op κ α)) : Prop :=
  ∀ pre k xs post, ops = pre ++ .took k xs :: post → xs = (pending k pre).rtake 1

theorem Newest.of_append {ops ops' : List (Op κ α)} (h : Newest (ops ++ ops')) : Newest ops := by
  intro pre k xs post hops
  apply h pre k xs (post ++ ops')
  rw [hops, List.append_assoc, List.cons_append]

theorem newest_nil : Newest ([] : List (Op κ α)) := by
  intro pre k xs post hops
  simp at hops

theorem newest_put {ops : List (Op κ α)} (h : Newest ops) (k : κ) (xs : List α) :
    Newest (ops ++ [.put k xs]) := by
  intro pre k' xs' post hops
  rcases History.snoc_eq_split.mp hops with ⟨-, hop, -⟩ | ⟨post', -, hops⟩
  · cases hop
  · exact h pre k' xs' post' hops

theorem newest_took {ops : List (Op κ α)} (h : Newest ops) {k : κ} {xs : List α}
    (hnew : xs = (pending k ops).rtake 1) : Newest (ops ++ [.took k xs]) := by
  intro pre k' xs' post hops
  rcases History.snoc_eq_split.mp hops with ⟨rfl, hop, -⟩ | ⟨post', -, hops⟩
  · cases hop
    exact hnew
  · exact h pre k' xs' post' hops

/-- **Nothing is kept twice**, or out of order; and what is pending is still to come. -/
theorem Newest.sublist {ops : List (Op κ α)} (h : Newest ops) (k : κ) :
    (took k ops ++ pending k ops).Sublist (put k ops) := by
  induction ops using List.reverseRecOn with
  | nil => exact .slnil
  | append_singleton ops op ih =>
    have hbefore := ih h.of_append
    cases op with
    | put k' xs =>
      rw [took_append, took_put, List.append_nil, pending_put, put_append, put_put,
        ← List.append_assoc]
      exact hbefore.append_right _
    | took k' xs =>
      rw [took_append, took_took, pending_took, put_append, put_took, List.append_nil]
      by_cases hk : k' = k
      · subst hk
        rw [if_pos rfl, if_pos rfl, List.append_nil, h ops k' xs [] rfl]
        exact ((rtake_sublist _ _).append_left _).trans hbefore
      · rw [if_neg hk, if_neg hk, List.append_nil]
        exact hbefore

end Drain
