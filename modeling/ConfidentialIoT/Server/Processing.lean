import Mathlib.Algebra.Order.Field.Rat
import Mathlib.Data.Rat.Floor
import ConfidentialIoT.Lib.Weighted
import ConfidentialIoT.Server.Collect

/-!
# `Server/Processing.lean` — aggregation

`aggregate` and `_weighted_avg`, with the numbers of a sample taken as exact rationals: `round` is
that of `fractions.Fraction`, half to even. A sample's other two fields are not read here.
-/

set_option autoImplicit false

namespace ConfidentialIoT

/-- What `aggregate` raises. -/
inductive ProcessingError where
  | valueError | zeroDivisionError
deriving DecidableEq, Repr

/-- A `Sample` whose numbers are exact. -/
structure ExactSample where
  ts : ℚ
  value : ℚ
deriving DecidableEq

/-! ## `_weighted_avg` -/

/-- `min` -/
def pyMin (xs : List ℚ) : Except ProcessingError ℚ :=
  match xs.min? with
  | some x => .ok x
  | none => .error .valueError

/-- `max` -/
def pyMax (xs : List ℚ) : Except ProcessingError ℚ :=
  match xs.max? with
  | some x => .ok x
  | none => .error .valueError

/-- `x / y` -/
def pyDiv (x y : ℚ) : Except ProcessingError ℚ :=
  if y = 0 then .error .zeroDivisionError else .ok (x / y)

/-- What the loop of `_weighted_avg` weighs a sample with. -/
structure Scale where
  tsMin : ℚ
  step : ℚ

/-- `w` -/
def Scale.weight (sc : Scale) (s : ExactSample) : ℚ := (s.ts - sc.tsMin) + sc.step

def scaleOf (samples : List ExactSample) : Except ProcessingError Scale := do
  let tsMin ← pyMin (samples.map (·.ts))
  let tsMax ← pyMax (samples.map (·.ts))
  let span := if tsMax - tsMin ≠ 0 then tsMax - tsMin else 1
  let step ← pyDiv span (max 1 (samples.length - 1) : Nat)
  return ⟨tsMin, step⟩

/-- One pass of the loop: `num` and `den`. -/
def Scale.add (sc : Scale) (acc : ℚ × ℚ) (s : ExactSample) : ℚ × ℚ :=
  (acc.1 + sc.weight s * s.value, acc.2 + sc.weight s)

/-- `_weighted_avg` -/
def weightedAvg (samples : List ExactSample) : Except ProcessingError ℚ :=
  match samples with
  | [s] => .ok s.value
  | samples => do
    let sc ← scaleOf samples
    let (num, den) := samples.foldl sc.add (0, 0)
    pyDiv num den

/-! ## `aggregate` -/

/-- `Fraction.__round__()` -/
def roundHalfEven (x : ℚ) : Int :=
  if x - ⌊x⌋ < 1 / 2 then ⌊x⌋
  else if 1 / 2 < x - ⌊x⌋ then ⌊x⌋ + 1
  else if ⌊x⌋ % 2 = 0 then ⌊x⌋
  else ⌊x⌋ + 1

/-- `round(value, 4)` -/
def round4 (x : ℚ) : ℚ := roundHalfEven (x * 10 ^ 4) / 10 ^ 4

/-- The dictionary of a result. -/
inductive Aggregated where
  | raw (n : Nat) (series : List ExactSample)
  | empty (kind : Text)
  | value (kind : Text) (n : Nat) (value : ℚ)
deriving DecidableEq

/-- The one number of a kind. -/
def reduceTo (samples : List ExactSample) (kind : Text) : Except ProcessingError ℚ :=
  let values := samples.map (·.value)
  if kind = "mean".toList then pyDiv values.sum values.length
  else if kind = "min".toList then pyMin values
  else if kind = "max".toList then pyMax values
  else if kind = "weighted_avg".toList then weightedAvg samples
  else .error .valueError

def aggregate (samples : List ExactSample) (kind : Text) : Except ProcessingError Aggregated :=
  if kind = "raw".toList then .ok (.raw samples.length samples)
  else if samples.length = 0 then .ok (.empty kind)
  else do
    let value ← reduceTo samples kind
    return .value kind samples.length (round4 value)

/-! ## Least, greatest, quotient -/

theorem pyMin_eq_ok {xs : List ℚ} {a : ℚ} : pyMin xs = .ok a ↔ a ∈ xs ∧ ∀ b ∈ xs, a ≤ b := by
  rw [← List.min?_eq_some_iff, pyMin]
  cases xs.min? with
  | none => exact ⟨nofun, nofun⟩
  | some x => simp

theorem pyMax_eq_ok {xs : List ℚ} {a : ℚ} : pyMax xs = .ok a ↔ a ∈ xs ∧ ∀ b ∈ xs, b ≤ a := by
  rw [← List.max?_eq_some_iff, pyMax]
  cases xs.max? with
  | none => exact ⟨nofun, nofun⟩
  | some x => simp

theorem exists_pyMin {xs : List ℚ} (h : xs ≠ []) : ∃ a, pyMin xs = .ok a := by
  obtain ⟨a, ha⟩ := Option.isSome_iff_exists.mp (List.isSome_min?_of_ne_nil h)
  exact ⟨a, by rw [pyMin, ha]⟩

theorem exists_pyMax {xs : List ℚ} (h : xs ≠ []) : ∃ a, pyMax xs = .ok a := by
  obtain ⟨a, ha⟩ := Option.isSome_iff_exists.mp (List.isSome_max?_of_ne_nil h)
  exact ⟨a, by rw [pyMax, ha]⟩

theorem pyDiv_ok {x y : ℚ} (h : 0 < y) : pyDiv x y = .ok (x / y) := if_neg h.ne'

/-! ## The loop -/

section

variable {samples samples' : List ExactSample} {sc : Scale} {lo hi c : ℚ}

/-- The weights of a list, with its values. -/
def Scale.pairs (sc : Scale) (samples : List ExactSample) : List (ℚ × ℚ) :=
  samples.map fun s => (sc.weight s, s.value)

theorem Scale.total_pairs : Weighted.total (sc.pairs samples) = (samples.map sc.weight).sum := by
  rw [Weighted.total, pairs, List.map_map]
  rfl

theorem Scale.dot_pairs :
    Weighted.dot (sc.pairs samples) = (samples.map fun s => sc.weight s * s.value).sum := by
  rw [Weighted.dot, pairs, List.map_map]
  rfl

theorem Scale.values_pairs : (sc.pairs samples).map Prod.snd = samples.map (·.value) := by
  rw [pairs, List.map_map]
  rfl

/-- What the accumulators hold after the loop. -/
theorem Scale.foldl_add (num den : ℚ) : samples.foldl sc.add (num, den) =
    (num + Weighted.dot (sc.pairs samples), den + Weighted.total (sc.pairs samples)) := by
  induction samples generalizing num den with
  | nil => simp [pairs, Weighted.dot, Weighted.total]
  | cons s samples ih =>
    rw [List.foldl_cons, add, ih]
    simp only [pairs, List.map_cons, Weighted.dot_cons, Weighted.total_cons]
    rw [add_assoc, add_assoc]

/-- The span of a list of timestamps, never 0. -/
theorem span_pos (hle : lo ≤ hi) : 0 < (if hi - lo ≠ 0 then hi - lo else 1) := by
  split_ifs with hne
  · exact lt_of_le_of_ne (sub_nonneg.mpr hle) hne.symm
  · exact one_pos

/-- The number of gaps between `n` samples, never 0. -/
theorem gaps_pos (n : Nat) : (0 : ℚ) < (max 1 (n - 1) : Nat) :=
  Nat.cast_pos.mpr (lt_max_of_lt_left one_pos)

/-- The scale of timestamps between `lo` and `hi`. -/
theorem scaleOf_eq (hlo : pyMin (samples.map (·.ts)) = .ok lo) (hhi : pyMax (samples.map (·.ts)) = .ok hi) :
    scaleOf samples =
      .ok ⟨lo, (if hi - lo ≠ 0 then hi - lo else 1) / (max 1 (samples.length - 1) : Nat)⟩ := by
  rw [scaleOf, hlo, hhi]
  show (do
    let step ← pyDiv (if hi - lo ≠ 0 then hi - lo else 1) (max 1 (samples.length - 1) : Nat)
    return (⟨lo, step⟩ : Scale)) = _
  rw [pyDiv_ok (gaps_pos _)]
  rfl

theorem exists_bounds (f : ExactSample → ℚ) (hne : samples ≠ []) :
    ∃ lo hi, pyMin (samples.map f) = .ok lo ∧ pyMax (samples.map f) = .ok hi := by
  have hmap : samples.map f ≠ [] := by simpa using hne
  obtain ⟨lo, hlo⟩ := exists_pyMin hmap
  obtain ⟨hi, hhi⟩ := exists_pyMax hmap
  exact ⟨lo, hi, hlo, hhi⟩

/-- Every list has a scale, and on it every sample of the list weighs something. -/
theorem exists_scale (hne : samples ≠ []) :
    ∃ sc, scaleOf samples = .ok sc ∧ ∀ s ∈ samples, 0 < sc.weight s := by
  obtain ⟨lo, hi, hlo, hhi⟩ := exists_bounds (·.ts) hne
  refine ⟨_, scaleOf_eq hlo hhi, ?_⟩
  intro s hs
  obtain ⟨hmem, hleast⟩ := pyMin_eq_ok.mp hlo
  have hspan : 0 < (if hi - lo ≠ 0 then hi - lo else 1) := span_pos ((pyMax_eq_ok.mp hhi).2 lo hmem)
  have hstep := div_pos hspan (gaps_pos samples.length)
  have hold := hleast s.ts (List.mem_map_of_mem hs)
  exact add_pos_of_nonneg_of_pos (sub_nonneg.mpr hold) hstep

theorem pairs_pos (h : ∀ s ∈ samples, 0 < sc.weight s) : ∀ x ∈ sc.pairs samples, 0 < x.1 := by
  intro x hx
  obtain ⟨s, hs, rfl⟩ := List.mem_map.mp hx
  exact h s hs

theorem pairs_ne_nil (h : samples ≠ []) : sc.pairs samples ≠ [] := by simpa [Scale.pairs] using h

/-- `_weighted_avg` is a weighted average, for one sample too. -/
theorem weightedAvg_eq (hne : samples ≠ []) (hscale : scaleOf samples = .ok sc)
    (hpos : ∀ s ∈ samples, 0 < sc.weight s) :
    weightedAvg samples = .ok (Weighted.average (sc.pairs samples)) := by
  have htotal : 0 < Weighted.total (sc.pairs samples) :=
    Weighted.total_pos (pairs_ne_nil hne) (pairs_pos hpos)
  match samples with
  | [] => exact absurd rfl hne
  | [s] =>
    have hw := (hpos s List.mem_cons_self).ne'
    have hone : Weighted.average (sc.pairs [s]) = s.value := by
      simp [Weighted.average, Scale.pairs, Weighted.dot, Weighted.total, hw]
    rw [hone]
    rfl
  | s :: s' :: rest =>
    show (do
      let sc ← scaleOf (s :: s' :: rest)
      let (num, den) := (s :: s' :: rest).foldl sc.add (0, 0)
      pyDiv num den) = _
    rw [hscale]
    show pyDiv ((s :: s' :: rest).foldl sc.add (0, 0)).1 ((s :: s' :: rest).foldl sc.add (0, 0)).2 = _
    rw [Scale.foldl_add, zero_add, zero_add]
    exact pyDiv_ok htotal

/-! ## What the average depends on -/

/-- Samples with later timestamps weigh no less. -/
theorem Scale.weight_mono {s s' : ExactSample} (h : s.ts ≤ s'.ts) : sc.weight s ≤ sc.weight s' :=
  add_le_add_left (sub_le_sub_right h _) _

/-- The scale does not depend on the order. -/
theorem scaleOf_perm (h : samples.Perm samples') : scaleOf samples' = scaleOf samples := by
  by_cases hne : samples = []
  · subst hne
    rw [h.nil_eq]
  obtain ⟨lo, hi, hlo, hhi⟩ := exists_bounds (·.ts) hne
  have hmem : ∀ t, t ∈ samples'.map (·.ts) ↔ t ∈ samples.map (·.ts) :=
    fun t => (h.map (·.ts)).mem_iff.symm
  have hlo' : pyMin (samples'.map (·.ts)) = .ok lo := by
    obtain ⟨hin, hleast⟩ := pyMin_eq_ok.mp hlo
    exact pyMin_eq_ok.mpr ⟨(hmem lo).mpr hin, fun t ht => hleast t ((hmem t).mp ht)⟩
  have hhi' : pyMax (samples'.map (·.ts)) = .ok hi := by
    obtain ⟨hin, hgreatest⟩ := pyMax_eq_ok.mp hhi
    exact pyMax_eq_ok.mpr ⟨(hmem hi).mpr hin, fun t ht => hgreatest t ((hmem t).mp ht)⟩
  rw [scaleOf_eq hlo hhi, scaleOf_eq hlo' hhi', h.length_eq]

/-- A sample, `c` seconds later. -/
def ExactSample.shift (c : ℚ) (s : ExactSample) : ExactSample := { s with ts := s.ts + c }

def Scale.shift (c : ℚ) (sc : Scale) : Scale := { sc with tsMin := sc.tsMin + c }

@[simp] theorem Scale.weight_shift (s : ExactSample) : (sc.shift c).weight (s.shift c) = sc.weight s := by
  show s.ts + c - (sc.tsMin + c) + sc.step = s.ts - sc.tsMin + sc.step
  rw [add_sub_add_right_eq_sub]

theorem Scale.pairs_shift : (sc.shift c).pairs (samples.map (·.shift c)) = sc.pairs samples := by
  rw [pairs, pairs, List.map_map]
  apply List.map_congr_left
  intro s _
  exact congrArg (·, s.value) (weight_shift s)

/-- The scale moves with the timestamps. -/
theorem scaleOf_shift (hlo : pyMin (samples.map (·.ts)) = .ok lo) (hhi : pyMax (samples.map (·.ts)) = .ok hi) :
    scaleOf (samples.map (·.shift c)) = (scaleOf samples).map (·.shift c) := by
  have hts : (samples.map (·.shift c)).map (·.ts) = (samples.map (·.ts)).map (· + c) := by
    rw [List.map_map, List.map_map]
    rfl
  have hlo' : pyMin ((samples.map (·.shift c)).map (·.ts)) = .ok (lo + c) := by
    obtain ⟨hin, hleast⟩ := pyMin_eq_ok.mp hlo
    rw [hts]
    refine pyMin_eq_ok.mpr ⟨List.mem_map_of_mem hin, ?_⟩
    intro b hb
    obtain ⟨t, ht, rfl⟩ := List.mem_map.mp hb
    exact add_le_add_left (hleast t ht) c
  have hhi' : pyMax ((samples.map (·.shift c)).map (·.ts)) = .ok (hi + c) := by
    obtain ⟨hin, hgreatest⟩ := pyMax_eq_ok.mp hhi
    rw [hts]
    refine pyMax_eq_ok.mpr ⟨List.mem_map_of_mem hin, ?_⟩
    intro b hb
    obtain ⟨t, ht, rfl⟩ := List.mem_map.mp hb
    exact add_le_add_left (hgreatest t ht) c
  rw [scaleOf_eq hlo hhi, scaleOf_eq hlo' hhi', List.length_map, add_sub_add_right_eq_sub]
  rfl

/-- What is divided by what. -/
theorem weightedAvg_divides (hne : samples ≠ []) : ∃ sc, scaleOf samples = .ok sc ∧
    (∀ s ∈ samples, 0 < sc.weight s) ∧ 0 < (samples.map sc.weight).sum ∧ weightedAvg samples =
      .ok ((samples.map fun s => sc.weight s * s.value).sum / (samples.map sc.weight).sum) := by
  obtain ⟨sc, hscale, hpos⟩ := exists_scale hne
  refine ⟨sc, hscale, hpos, ?_, ?_⟩
  · rw [← Scale.total_pairs]
    exact Weighted.total_pos (pairs_ne_nil hne) (pairs_pos hpos)
  · rw [weightedAvg_eq hne hscale hpos, Weighted.average, Scale.total_pairs, Scale.dot_pairs]

/-- It lies between the least and the greatest value. -/
theorem weightedAvg_between (hne : samples ≠ []) : ∃ avg lo hi, weightedAvg samples = .ok avg ∧
    pyMin (samples.map (·.value)) = .ok lo ∧ pyMax (samples.map (·.value)) = .ok hi ∧
    lo ≤ avg ∧ avg ≤ hi := by
  obtain ⟨sc, hscale, hpos⟩ := exists_scale hne
  obtain ⟨lo, hi, hlo, hhi⟩ := exists_bounds (·.value) hne
  refine ⟨_, lo, hi, weightedAvg_eq hne hscale hpos, hlo, hhi, ?_, ?_⟩
  · apply Weighted.le_average (pairs_ne_nil hne) (pairs_pos hpos)
    intro x hx
    obtain ⟨s, hs, rfl⟩ := List.mem_map.mp hx
    exact (pyMin_eq_ok.mp hlo).2 s.value (List.mem_map_of_mem hs)
  · apply Weighted.average_le (pairs_ne_nil hne) (pairs_pos hpos)
    intro x hx
    obtain ⟨s, hs, rfl⟩ := List.mem_map.mp hx
    exact (pyMax_eq_ok.mp hhi).2 s.value (List.mem_map_of_mem hs)

/-- Where all timestamps are equal, so are the weights. -/
theorem weightedAvg_mean (hne : samples ≠ []) (hsame : ∀ s ∈ samples, ∀ s' ∈ samples, s.ts = s'.ts) :
    weightedAvg samples = .ok ((samples.map (·.value)).sum / samples.length) := by
  obtain ⟨sc, hscale, hpos⟩ := exists_scale hne
  obtain ⟨s₀, hs₀⟩ := List.exists_mem_of_ne_nil _ hne
  have hconst : ∀ x ∈ sc.pairs samples, x.1 = sc.weight s₀ := by
    intro x hx
    obtain ⟨s, hs, rfl⟩ := List.mem_map.mp hx
    show s.ts - sc.tsMin + sc.step = s₀.ts - sc.tsMin + sc.step
    rw [hsame s hs s₀ hs₀]
  rw [weightedAvg_eq hne hscale hpos, Weighted.average_const (hpos s₀ hs₀).ne' hconst,
    Scale.values_pairs, Scale.pairs, List.length_map]

theorem weightedAvg_perm (hne : samples ≠ []) (hperm : samples.Perm samples') :
    weightedAvg samples' = weightedAvg samples := by
  obtain ⟨sc, hscale, hpos⟩ := exists_scale hne
  have hne' : samples' ≠ [] := fun hnil => hne (hperm.trans (hnil ▸ .refl _)).eq_nil
  have hscale' : scaleOf samples' = .ok sc := (scaleOf_perm hperm).trans hscale
  have hpos' : ∀ s ∈ samples', 0 < sc.weight s := fun s hs => hpos s (hperm.mem_iff.mpr hs)
  rw [weightedAvg_eq hne hscale hpos, weightedAvg_eq hne' hscale' hpos']
  exact congrArg Except.ok (Weighted.average_perm (hperm.map _)).symm

theorem weightedAvg_shift (hne : samples ≠ []) (c : ℚ) :
    weightedAvg (samples.map (·.shift c)) = weightedAvg samples := by
  obtain ⟨sc, hscale, hpos⟩ := exists_scale hne
  obtain ⟨lo, hi, hlo, hhi⟩ := exists_bounds (·.ts) hne
  have hne' : samples.map (·.shift c) ≠ [] := by simpa using hne
  have hscale' : scaleOf (samples.map (·.shift c)) = .ok (sc.shift c) := by
    rw [scaleOf_shift hlo hhi, hscale]
    rfl
  have hpos' : ∀ s ∈ samples.map (·.shift c), 0 < (sc.shift c).weight s := by
    intro s' hs'
    obtain ⟨s, hs, rfl⟩ := List.mem_map.mp hs'
    rw [Scale.weight_shift]
    exact hpos s hs
  rw [weightedAvg_eq hne hscale hpos, weightedAvg_eq hne' hscale' hpos', Scale.pairs_shift]

/-- What `_weighted_avg` makes of a list that is not empty. -/
structure RecencyWeighted (samples : List ExactSample) : Prop where
  /-- it divides by a positive sum of positive weights -/
  divides : ∃ sc, scaleOf samples = .ok sc ∧ (∀ s ∈ samples, 0 < sc.weight s) ∧
    0 < (samples.map sc.weight).sum ∧ weightedAvg samples =
      .ok ((samples.map fun s => sc.weight s * s.value).sum / (samples.map sc.weight).sum)
  between : ∃ avg lo hi, weightedAvg samples = .ok avg ∧ pyMin (samples.map (·.value)) = .ok lo ∧
    pyMax (samples.map (·.value)) = .ok hi ∧ lo ≤ avg ∧ avg ≤ hi
  mean : (∀ s ∈ samples, ∀ s' ∈ samples, s.ts = s'.ts) →
    weightedAvg samples = .ok ((samples.map (·.value)).sum / samples.length)
  perm : ∀ samples', samples.Perm samples' → weightedAvg samples' = weightedAvg samples
  shift : ∀ c, weightedAvg (samples.map (·.shift c)) = weightedAvg samples
  later : ∀ sc, scaleOf samples = .ok sc → ∀ s ∈ samples, ∀ s' ∈ samples, s.ts ≤ s'.ts →
    sc.weight s ≤ sc.weight s'

/-- **`_weighted_avg` is a recency-weighted convex combination.** -/
theorem weighted_avg_recency (samples : List ExactSample) (hne : samples ≠ []) :
    RecencyWeighted samples where
  divides := weightedAvg_divides hne
  between := weightedAvg_between hne
  mean hsame := weightedAvg_mean hne hsame
  perm _ hperm := weightedAvg_perm hne hperm
  shift c := weightedAvg_shift hne c
  later _ _ _ _ _ _ hle := Scale.weight_mono hle

/-- The two samples of `test_weighted_avg_favours_recent`. -/
theorem weighted_avg_recency_two : RecencyWeighted [⟨0, 10⟩, ⟨100, 20⟩] ∧
    weightedAvg [⟨0, 10⟩, ⟨100, 20⟩] = .ok (50 / 3) :=
  ⟨weighted_avg_recency [⟨0, 10⟩, ⟨100, 20⟩] (List.cons_ne_nil _ _), by decide +kernel⟩

/-! ## What `aggregate` adds -/

theorem roundHalfEven_near (x : ℚ) : |(roundHalfEven x : ℚ) - x| ≤ 1 / 2 := by
  have hle := Int.floor_le x
  have hlt := Int.lt_floor_add_one x
  rw [abs_le, roundHalfEven]
  split_ifs with hdown hup <;> push_cast <;> constructor <;> linarith

/-- What the user sees is the value to four decimals. -/
theorem round4_near (x : ℚ) : |round4 x - x| ≤ 1 / 20000 := by
  have hnear := roundHalfEven_near (x * 10 ^ 4)
  have hscale : round4 x - x = ((roundHalfEven (x * 10 ^ 4) : ℚ) - x * 10 ^ 4) / 10 ^ 4 := by
    rw [round4]
    field_simp
  rw [hscale, abs_div, abs_of_pos (by norm_num : (0 : ℚ) < 10 ^ 4), div_le_iff₀ (by norm_num)]
  linarith

theorem aggregate_weighted (hne : samples ≠ []) : ∃ avg, weightedAvg samples = .ok avg ∧
    aggregate samples "weighted_avg".toList =
      .ok (.value "weighted_avg".toList samples.length (round4 avg)) := by
  obtain ⟨avg, -, -, havg, -⟩ := weightedAvg_between hne
  refine ⟨avg, havg, ?_⟩
  have hreduce : reduceTo samples "weighted_avg".toList = weightedAvg samples := rfl
  have hlen : samples.length ≠ 0 := fun hzero => hne (List.length_eq_zero_iff.mp hzero)
  rw [aggregate, if_neg (by decide), if_neg hlen, hreduce, havg]
  rfl

theorem reduceTo_raises_iff (hne : samples ≠ []) {kind : Text} (hraw : kind ≠ "raw".toList) :
    (∃ e, reduceTo samples kind = .error e) ↔ kind ∉ aggregations := by
  obtain ⟨lo, hi, hlo, hhi⟩ := exists_bounds (·.value) hne
  obtain ⟨avg, -, -, havg, -⟩ := weightedAvg_between hne
  have hlen : (0 : ℚ) < (samples.map (·.value)).length := by
    rw [List.length_map]
    exact Nat.cast_pos.mpr (List.length_pos_iff.mpr hne)
  unfold reduceTo
  split_ifs with hmean hmin hmax hweighted
  · rw [pyDiv_ok hlen, hmean]
    exact ⟨nofun, fun hnot => absurd (by decide) hnot⟩
  · rw [hlo, hmin]
    exact ⟨nofun, fun hnot => absurd (by decide) hnot⟩
  · rw [hhi, hmax]
    exact ⟨nofun, fun hnot => absurd (by decide) hnot⟩
  · rw [havg, hweighted]
    exact ⟨nofun, fun hnot => absurd (by decide) hnot⟩
  · refine ⟨fun _ hmem => ?_, fun _ => ⟨_, rfl⟩⟩
    simp only [aggregations, List.mem_cons, List.not_mem_nil, or_false] at hmem
    rcases hmem with h | h | h | h | h
    exacts [hraw h, hmean h, hmin h, hmax h, hweighted h]

/-- It raises for a kind that no route lets through, and then only if there is a sample. -/
theorem aggregate_raises_iff {kind : Text} :
    (∃ e, aggregate samples kind = .error e) ↔ samples ≠ [] ∧ kind ∉ aggregations := by
  unfold aggregate
  split_ifs with hraw hempty
  · rw [hraw]
    exact ⟨nofun, fun h => absurd (by decide) h.2⟩
  · exact ⟨nofun, fun h => absurd (List.length_eq_zero_iff.mp hempty) h.1⟩
  · have hne : samples ≠ [] := fun hnil => hempty (List.length_eq_zero_iff.mpr hnil)
    refine Iff.trans ?_ ((reduceTo_raises_iff hne hraw).trans ⟨fun h => ⟨hne, h⟩, fun h => h.2⟩)
    cases reduceTo samples kind with
    | error e => exact ⟨fun _ => ⟨e, rfl⟩, fun _ => ⟨e, rfl⟩⟩
    | ok v => exact ⟨nofun, nofun⟩

end

end ConfidentialIoT
