import Mathlib.Logic.Relation
import Mathlib.Tactic.Linarith
import Mathlib.Tactic.Ring

/-!
# `Lib/Pace.lean` — a queue between two clocks

One party puts something into a queue every `p` seconds, another comes for one thing every `c`
seconds; neither looks at the other. The queue stays short if and only if the taker is not the
slower one: with `c ≤ p` there are never more than two things in it (`Run.length_le`), and with
`p < c` every run that is long enough has more than any given number (`Run.length_grows`).

A taker that finds nothing may wait for something, so its next visit is counted from when it left.
-/

set_option autoImplicit false

/-- The two clocks, and when each thing in the queue was put there, oldest first. -/
structure Pace where
  now : Int
  lastPut : Int
  /-- when the taker comes, or is there -/
  due : Int
  queue : List Int

namespace Pace

variable {p c : Int} {s s' s₀ : Pace}

def put (s : Pace) : Pace := { s with lastPut := s.now, queue := s.queue ++ [s.now] }

def take (c : Int) (s : Pace) : Pace := { s with due := s.now + c, queue := s.queue.tail }

def second (s : Pace) : Pace := { s with now := s.now + 1 }

def wait (s : Pace) : Pace := { s with now := s.now + 1, due := s.due + 1 }

/-- No second passes while something is due. -/
inductive Step (p c : Int) : Pace → Pace → Prop where
  | put {s : Pace} (h : p ≤ s.now - s.lastPut) : Step p c s s.put
  | take {s : Pace} (h : s.now = s.due) : Step p c s (s.take c)
  | second {s : Pace} (h : s.now - s.lastPut < p) (hdue : s.now < s.due) : Step p c s s.second
  | wait {s : Pace} (h : s.now - s.lastPut < p) (hdue : s.now = s.due) (hempty : s.queue = []) :
      Step p c s s.wait

/-- Any number of steps. -/
abbrev Run (p c : Int) : Pace → Pace → Prop := Relation.ReflTransGen (Step p c)

/-- Nothing is in the queue, the putter has just begun, and the taker comes within its time. -/
structure Fresh (c : Int) (s : Pace) : Prop where
  queue : s.queue = []
  lastPut : s.lastPut = s.now
  notLate : s.now ≤ s.due
  soon : s.due ≤ s.now + c

/-! ## What every run keeps -/

/-- The last `n` times of something that happens every `p` seconds, up to `last`. -/
def timesUpTo (p last : Int) : Nat → List Int
  | 0 => []
  | n + 1 => timesUpTo p (last - p) n ++ [last]

@[simp] theorem length_timesUpTo (last : Int) (n : Nat) : (timesUpTo p last n).length = n := by
  induction n generalizing last with
  | zero => rfl
  | succ n ih => rw [timesUpTo, List.length_append, ih, List.length_singleton]

theorem timesUpTo_succ (last : Int) (n : Nat) :
    timesUpTo p last (n + 1) = (last - p * n) :: timesUpTo p last n := by
  induction n generalizing last with
  | zero => simp [timesUpTo]
  | succ n ih =>
    rw [timesUpTo, ih (last - p), timesUpTo, List.cons_append]
    congr 1
    push_cast
    ring

/-- Nobody is late, and what is in the queue was put there at the putter's pace. -/
structure Kept (p c : Int) (s : Pace) : Prop where
  past : s.lastPut ≤ s.now
  putter : s.now - s.lastPut ≤ p
  taker : s.now ≤ s.due
  soon : s.due ≤ s.now + c
  times : s.queue = timesUpTo p s.lastPut s.queue.length

theorem Fresh.kept (hp : 0 < p) (h : Fresh c s) : Kept p c s where
  past := h.lastPut.le
  putter := by
    rw [h.lastPut]
    omega
  taker := h.notLate
  soon := h.soon
  times := by
    rw [h.queue]
    rfl

theorem Kept.step (hc : 0 < c) (hp : 0 < p) (h : Kept p c s) (hstep : Step p c s s') : Kept p c s' := by
  obtain ⟨hpast, hputter, htaker, hsoon, htimes⟩ := h
  cases hstep with
  | put hdue =>
    refine ⟨le_rfl, ?_, htaker, hsoon, ?_⟩
    · show s.now - s.now ≤ p
      omega
    · show s.queue ++ [s.now] = timesUpTo p s.now (s.queue ++ [s.now]).length
      -- the putter was not late, so its last time was exactly `p` seconds ago
      have hlast : s.now - p = s.lastPut := by omega
      rw [List.length_append, List.length_singleton, timesUpTo, hlast, ← htimes]
  | take hdue =>
    refine ⟨hpast, hputter, ?_, le_rfl, ?_⟩
    · show s.now ≤ s.now + c
      omega
    · show s.queue.tail = timesUpTo p s.lastPut s.queue.tail.length
      cases hqueue : s.queue with
      | nil => rfl
      | cons t ts =>
        rw [hqueue, List.length_cons, timesUpTo_succ] at htimes
        exact (List.cons.inj htimes).2
  | second hput hdue =>
    refine ⟨?_, ?_, ?_, ?_, htimes⟩
    · show s.lastPut ≤ s.now + 1
      omega
    · show s.now + 1 - s.lastPut ≤ p
      omega
    · show s.now + 1 ≤ s.due
      omega
    · show s.due ≤ s.now + 1 + c
      omega
  | wait hput hdue _ =>
    refine ⟨?_, ?_, ?_, ?_, htimes⟩
    · show s.lastPut ≤ s.now + 1
      omega
    · show s.now + 1 - s.lastPut ≤ p
      omega
    · show s.now + 1 ≤ s.due + 1
      omega
    · show s.due + 1 ≤ s.now + 1 + c
      omega

theorem Run.kept (hp : 0 < p) (hc : 0 < c) (hstart : Fresh c s) (h : Run p c s s') : Kept p c s' := by
  induction h with
  | refl => exact hstart.kept hp
  | tail _ hstep ih => exact ih.step hc hp hstep

/-- How long the oldest thing has been in the queue. -/
theorem Kept.oldest (h : Kept p c s) {t : Int} {ts : List Int} (hqueue : s.queue = t :: ts) :
    t = s.lastPut - p * ts.length := by
  have htimes := h.times
  rw [hqueue, List.length_cons, timesUpTo_succ] at htimes
  exact (List.cons.inj htimes).1

/-! ## A taker that is quick enough -/

/-- One thing may be in the queue from the taker's last visit on, two only once it is due. -/
structure Short (c : Int) (s : Pace) : Prop where
  two : s.queue.length ≤ 2
  one : s.queue ≠ [] → s.due - c ≤ s.lastPut
  full : s.queue.length = 2 → s.due ≤ s.lastPut

theorem Short.step (hp : 0 < p) (hcp : c ≤ p) (hkept : Kept p c s) (h : Short c s)
    (hstep : Step p c s s') : Short c s' := by
  obtain ⟨htwo, hone, hfull⟩ := h
  have htaker := hkept.taker
  cases hstep with
  | put hdue =>
    have hnotFull : s.queue.length ≠ 2 := by
      intro htwo
      have hlast := hfull htwo
      omega
    refine ⟨?_, ?_, ?_⟩
    · show (s.queue ++ [s.now]).length ≤ 2
      rw [List.length_append, List.length_singleton]
      omega
    · intro _
      show s.due - c ≤ s.now
      have hsoon := hkept.soon
      omega
    · intro hlen
      show s.due ≤ s.now
      have hlen' : (s.queue ++ [s.now]).length = 2 := hlen
      rw [List.length_append, List.length_singleton] at hlen'
      have hlast := hone (List.ne_nil_of_length_pos (by omega))
      omega
  | take hdue =>
    have htail : (s.take c).queue.length = s.queue.length - 1 := List.length_tail
    refine ⟨by omega, ?_, ?_⟩
    · intro hne
      have hpos := List.length_pos_iff.mpr hne
      have hlast := hfull (by omega)
      show s.now + c - c ≤ s.lastPut
      omega
    · intro hlen
      omega
  | second _ _ => exact ⟨htwo, hone, hfull⟩
  | wait _ _ hempty =>
    refine ⟨htwo, fun hne => absurd hempty hne, ?_⟩
    intro hlen
    have hlen' : s.queue.length = 2 := hlen
    rw [hempty] at hlen'
    exact absurd hlen' (by decide)

theorem Run.short (hp : 0 < p) (hc : 0 < c) (hcp : c ≤ p) (hstart : Fresh c s) (h : Run p c s s') :
    Short c s' := by
  induction h with
  | refl =>
    refine ⟨?_, fun hne => absurd hstart.queue hne, ?_⟩
    · rw [hstart.queue]
      exact Nat.zero_le _
    · intro hlen
      rw [hstart.queue] at hlen
      exact absurd hlen (by decide)
  | tail hrun hstep ih => exact ih.step hp hcp (Run.kept hp hc hstart hrun) hstep

/-- **A taker that is not slower keeps the queue short.** -/
theorem Run.length_le (hp : 0 < p) (hc : 0 < c) (hcp : c ≤ p) (hstart : Fresh c s)
    (h : Run p c s s') : s'.queue.length ≤ 2 :=
  (h.short hp hc hcp hstart).two

/-- What it takes is then at most two rounds old. -/
theorem Run.age_le (hp : 0 < p) (hc : 0 < c) (hcp : c ≤ p) (hstart : Fresh c s)
    (h : Run p c s s') {t : Int} (ht : t ∈ s'.queue.head?) : s'.now - t ≤ 2 * p := by
  have hkept := h.kept hp hc hstart
  have htwo := h.length_le hp hc hcp hstart
  obtain ⟨ts, hqueue⟩ := List.head?_eq_some_iff.mp ht
  have holdest := hkept.oldest hqueue
  have hputter := hkept.putter
  rw [hqueue, List.length_cons] at htwo
  have hlen : (ts.length : Int) ≤ 1 := by omega
  have hmul : p * ts.length ≤ p * 1 := mul_le_mul_of_nonneg_left hlen hp.le
  linarith

/-! ## A taker that is too slow -/

/-- All that was put was taken or is still there, and every visit took at most one. -/
def Balanced (p c : Int) (s₀ s : Pace) : Prop :=
  ∃ taken : Nat, s.lastPut = s₀.lastPut + p * (taken + s.queue.length) ∧ s₀.due + c * taken ≤ s.due

theorem Balanced.step (hc : 0 < c) (hkept : Kept p c s) (h : Balanced p c s₀ s)
    (hstep : Step p c s s') : Balanced p c s₀ s' := by
  obtain ⟨taken, hput, htaken⟩ := h
  cases hstep with
  | put hdue =>
    refine ⟨taken, ?_, htaken⟩
    show s.now = s₀.lastPut + p * (taken + (s.queue ++ [s.now]).length)
    have hputter := hkept.putter
    have hnow : s.now = s.lastPut + p := by omega
    rw [List.length_append, List.length_singleton, hnow, hput]
    push_cast
    ring
  | take hdue =>
    cases hqueue : s.queue with
    | nil =>
      refine ⟨taken, ?_, ?_⟩
      · show s.lastPut = s₀.lastPut + p * (taken + s.queue.tail.length)
        rw [hput, hqueue, List.tail_nil]
      · show s₀.due + c * taken ≤ s.now + c
        omega
    | cons t ts =>
      refine ⟨taken + 1, ?_, ?_⟩
      · show s.lastPut = s₀.lastPut + p * ((taken + 1 : Nat) + s.queue.tail.length)
        rw [hput, hqueue, List.tail_cons, List.length_cons]
        push_cast
        ring
      · show s₀.due + c * (taken + 1 : Nat) ≤ s.now + c
        push_cast
        linarith
  | second _ _ => exact ⟨taken, hput, htaken⟩
  | wait _ _ _ =>
    refine ⟨taken, hput, ?_⟩
    show s₀.due + c * taken ≤ s.due + 1
    omega

theorem Run.balanced (hp : 0 < p) (hc : 0 < c) (hstart : Fresh c s) (h : Run p c s s') :
    Balanced p c s s' := by
  induction h with
  | refl =>
    refine ⟨0, ?_, ?_⟩
    · rw [hstart.queue]
      simp
    · simp
  | tail hrun hstep ih => exact ih.step hc (Run.kept hp hc hstart hrun) hstep

/-- **A taker that is slower lets the queue grow**, by `c - p` things every `c * p` seconds. -/
theorem Run.length_grows (hp : 0 < p) (hc : 0 < c) (hstart : Fresh c s) (h : Run p c s s') :
    (c - p) * (s'.now - s.now) ≤ c * p * (s'.queue.length + 2) := by
  have hkept := h.kept hp hc hstart
  obtain ⟨taken, hput, htaken⟩ := h.balanced hp hc hstart
  have hputter := hkept.putter
  have hsoon := hkept.soon
  have hfirst := hstart.notLate
  have hlast := hstart.lastPut
  -- what was put since the start, and how often the taker came
  have hputs : s'.now - s.now ≤ p * (taken + s'.queue.length + 1) := by linarith
  have hvisits : c * taken ≤ s'.now - s.now + c := by linarith
  have hscaled := mul_le_mul_of_nonneg_left hputs hc.le
  have hscaled' := mul_le_mul_of_nonneg_left hvisits hp.le
  linarith

/-- Whatever the paces, a run can go on. -/
theorem Kept.goesOn (hc : 0 < c) (hp : 0 < p) (h : Kept p c s) :
    ∃ s', Run p c s s' ∧ s'.now = s.now + 1 := by
  -- once the putter is not due, the taker comes if it must, and then a second passes
  have hnext : ∀ s : Pace, Kept p c s → s.now - s.lastPut < p →
      ∃ s', Run p c s s' ∧ s'.now = s.now + 1 := by
    intro s hkept hput
    by_cases hdue : s.now < s.due
    · exact ⟨_, .single (.second hput hdue), rfl⟩
    · have hnow : s.now = s.due := le_antisymm hkept.taker (not_lt.mp hdue)
      refine ⟨_, .tail (.single (.take hnow)) (.second hput ?_), rfl⟩
      show s.now < s.now + c
      omega
  by_cases hput : s.now - s.lastPut < p
  · exact hnext s h hput
  · have hstep : Step p c s s.put := .put (not_lt.mp hput)
    have hsoon : s.put.now - s.put.lastPut < p := by
      show s.now - s.now < p
      omega
    obtain ⟨s', hrun, hnow⟩ := hnext s.put (h.step hc hp hstep) hsoon
    exact ⟨s', hrun.head hstep, hnow⟩

theorem Fresh.runs (hp : 0 < p) (hc : 0 < c) (hstart : Fresh c s) (n : Nat) :
    ∃ s', Run p c s s' ∧ s'.now = s.now + n := by
  induction n with
  | zero => exact ⟨s, .refl, (Int.add_zero _).symm⟩
  | succ n ih =>
    obtain ⟨s₁, hrun, hnow⟩ := ih
    obtain ⟨s₂, hrun', hnow'⟩ := (Run.kept hp hc hstart hrun).goesOn hc hp
    refine ⟨s₂, hrun.trans hrun', ?_⟩
    rw [hnow', hnow]
    push_cast
    ring

/-- The taker's next visit comes. -/
theorem Kept.visit (hc : 0 < c) (hp : 0 < p) (h : Kept p c s) :
    ∃ s', Run p c s s' ∧ s.now ≤ s'.now ∧ s'.now = s'.due := by
  have htaker := h.taker
  obtain ⟨n, hn⟩ : ∃ n : Nat, s.due = s.now + n := ⟨(s.due - s.now).toNat, by omega⟩
  induction n generalizing s with
  | zero => exact ⟨s, .refl, le_rfl, by omega⟩
  | succ n ih =>
    have hnow : s.now < s.due := by omega
    have hlater : ∀ s : Pace, Kept p c s → s.now < s.due → s.due = s.now + (n + 1 : Nat) →
        s.now - s.lastPut < p → ∃ s', Run p c s s' ∧ s.now ≤ s'.now ∧ s'.now = s'.due := by
      intro s hkept hdue hn hput
      have hstep : Step p c s s.second := .second hput hdue
      have hkept' := hkept.step hc hp hstep
      have hn' : s.second.due = s.second.now + n := by
        show s.due = s.now + 1 + n
        omega
      obtain ⟨s', hrun, hle, hvisit⟩ := ih hkept' hkept'.taker hn'
      have hle' : s.now + 1 ≤ s'.now := hle
      exact ⟨s', hrun.head hstep, by omega, hvisit⟩
    by_cases hput : s.now - s.lastPut < p
    · exact hlater s h hnow hn hput
    · have hstep : Step p c s s.put := .put (not_lt.mp hput)
      have hsoon : s.put.now - s.put.lastPut < p := by
        show s.now - s.now < p
        omega
      obtain ⟨s', hrun, hle, hvisit⟩ := hlater s.put (h.step hc hp hstep) hnow hn hsoon
      exact ⟨s', hrun.head hstep, hle, hvisit⟩

/-- So any number of things are there when it comes, sooner or later. -/
theorem Fresh.piles (hp : 0 < p) (hpc : p < c) (hstart : Fresh c s) (K : Nat) :
    ∃ s', Run p c s s' ∧ s'.now = s'.due ∧ K < s'.queue.length := by
  have hc : 0 < c := hp.trans hpc
  obtain ⟨n, hn⟩ : ∃ n : Nat, c * p * (K + 3) = n := Int.eq_ofNat_of_zero_le (by positivity)
  obtain ⟨s₁, hrun, hnow⟩ := hstart.runs hp hc n
  obtain ⟨s₂, hrun', hlater, hvisit⟩ := (Run.kept hp hc hstart hrun).visit hc hp
  refine ⟨s₂, hrun.trans hrun', hvisit, ?_⟩
  have hgrows : (c - p) * (s₂.now - s.now) ≤ c * p * (s₂.queue.length + 2) :=
    Run.length_grows hp hc hstart (hrun.trans hrun')
  have hseconds : c * p * (K + 3) ≤ s₂.now - s.now := by omega
  have hpos : 0 < c * p := mul_pos hc hp
  have hslow : 1 * (c * p * (K + 3)) ≤ (c - p) * (s₂.now - s.now) :=
    mul_le_mul (by omega) hseconds (by positivity) (by omega)
  have hlen : (K + 3 : Int) ≤ s₂.queue.length + 2 := by
    refine le_of_mul_le_mul_left ?_ hpos
    linarith
  omega

/-- And the oldest of `n` things is at least `n - 1` rounds old. -/
theorem Kept.age_ge (h : Kept p c s) {t : Int} (ht : t ∈ s.queue.head?) :
    p * (s.queue.length - 1) ≤ s.now - t := by
  obtain ⟨ts, hqueue⟩ := List.head?_eq_some_iff.mp ht
  have holdest := h.oldest hqueue
  have hpast := h.past
  rw [hqueue, List.length_cons]
  push_cast
  linarith

end Pace
