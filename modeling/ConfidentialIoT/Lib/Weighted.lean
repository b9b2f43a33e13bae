import Mathlib.Algebra.BigOperators.Ring.List
import Mathlib.Algebra.Order.BigOperators.Group.List
import Mathlib.Algebra.Order.Field.Basic
import Mathlib.Tactic.Linarith
import Mathlib.Tactic.Ring

/-!
# `Lib/Weighted.lean` — weighted averages of lists

A list of weights with their values, in any ordered field: the average is the sum of the products
over the sum of the weights. With positive weights it lies between any bounds of the values
(`le_average`, `average_le`), with equal ones it is the mean (`average_const`), and the order of
the list does not matter (`average_perm`).
-/

set_option autoImplicit false

namespace Weighted

variable {K : Type} [Field K] {l l' : List (K × K)}

/-- The sum of the weights. -/
def total (l : List (K × K)) : K := (l.map Prod.fst).sum

/-- The sum of the values, each as often as it weighs. -/
def dot (l : List (K × K)) : K := (l.map fun x => x.1 * x.2).sum

def average (l : List (K × K)) : K := dot l / total l

@[simp] theorem total_cons (x : K × K) (l : List (K × K)) : total (x :: l) = x.1 + total l := by
  simp [total]

@[simp] theorem dot_cons (x : K × K) (l : List (K × K)) : dot (x :: l) = x.1 * x.2 + dot l := by
  simp [dot]

theorem total_perm (h : l.Perm l') : total l = total l' := (h.map _).sum_eq

theorem dot_perm (h : l.Perm l') : dot l = dot l' := (h.map _).sum_eq

theorem average_perm (h : l.Perm l') : average l = average l' := by
  rw [average, average, dot_perm h, total_perm h]

/-- Equal weights are counts. -/
theorem total_const {c : K} (h : ∀ x ∈ l, x.1 = c) : total l = l.length * c := by
  induction l with
  | nil => simp [total]
  | cons x l ih =>
    rw [total_cons, ih fun y hy => h y (List.mem_cons_of_mem _ hy), h x List.mem_cons_self,
      List.length_cons]
    push_cast
    ring

theorem dot_const {c : K} (h : ∀ x ∈ l, x.1 = c) : dot l = c * (l.map Prod.snd).sum := by
  induction l with
  | nil => simp [dot]
  | cons x l ih =>
    rw [dot_cons, ih fun y hy => h y (List.mem_cons_of_mem _ hy), h x List.mem_cons_self,
      List.map_cons, List.sum_cons]
    ring

/-- With equal weights the average is the mean. -/
theorem average_const {c : K} (hc : c ≠ 0) (h : ∀ x ∈ l, x.1 = c) :
    average l = (l.map Prod.snd).sum / l.length := by
  rw [average, dot_const h, total_const h, mul_comm _ c]
  exact mul_div_mul_left _ _ hc

variable [LinearOrder K] [IsStrictOrderedRing K]

theorem total_pos (hne : l ≠ []) (h : ∀ x ∈ l, 0 < x.1) : 0 < total l := by
  apply List.sum_pos
  · intro w hw
    obtain ⟨x, hx, rfl⟩ := List.mem_map.mp hw
    exact h x hx
  · simpa using hne

theorem mul_total_le {b : K} (hw : ∀ x ∈ l, 0 < x.1) (h : ∀ x ∈ l, b ≤ x.2) :
    b * total l ≤ dot l := by
  induction l with
  | nil => simp [total, dot]
  | cons x l ih =>
    have hrest := ih (fun y hy => hw y (List.mem_cons_of_mem _ hy))
      (fun y hy => h y (List.mem_cons_of_mem _ hy))
    have hfirst := mul_le_mul_of_nonneg_left (h x List.mem_cons_self) (hw x List.mem_cons_self).le
    rw [total_cons, dot_cons]
    linarith

theorem dot_le_mul_total {b : K} (hw : ∀ x ∈ l, 0 < x.1) (h : ∀ x ∈ l, x.2 ≤ b) :
    dot l ≤ b * total l := by
  induction l with
  | nil => simp [total, dot]
  | cons x l ih =>
    have hrest := ih (fun y hy => hw y (List.mem_cons_of_mem _ hy))
      (fun y hy => h y (List.mem_cons_of_mem _ hy))
    have hfirst := mul_le_mul_of_nonneg_left (h x List.mem_cons_self) (hw x List.mem_cons_self).le
    rw [total_cons, dot_cons]
    linarith

theorem le_average {b : K} (hne : l ≠ []) (hw : ∀ x ∈ l, 0 < x.1) (h : ∀ x ∈ l, b ≤ x.2) :
    b ≤ average l := (le_div_iff₀ (total_pos hne hw)).mpr (mul_total_le hw h)

theorem average_le {b : K} (hne : l ≠ []) (hw : ∀ x ∈ l, 0 < x.1) (h : ∀ x ∈ l, x.2 ≤ b) :
    average l ≤ b := (div_le_iff₀ (total_pos hne hw)).mpr (dot_le_mul_total hw h)

end Weighted
