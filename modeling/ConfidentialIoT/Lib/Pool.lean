import Mathlib.Algebra.GroupWithZero.Nat
import Mathlib.Data.List.Induction
import Mathlib.Logic.Function.Basic
import ConfidentialIoT.Lib.History
import ConfidentialIoT.Lib.Keeps

/-!
# `Lib/Pool.lean` — agents that interleave their calls over a shared state

Any number of agents run programs of one signature. An agent starts a job, makes its calls one
at a time, and returns; between any two of its calls every other agent may move. What a call
answers and does to the shared state is one relation, `R`; everything else about an agent (where
it stands, what it has been answered so far) is its own.

A run records its labels, and is told which steps to admit: `Run M R P` is a run all of whose
steps satisfy `P` in the state they start from, and `P` is where the hypothesis of a theorem
about a defect goes.

* `Run.logs` — an agent's log is an execution of its job's program, so whatever `wp` says about
  the program holds of it;
* `Run.facts` — what an event says about the shared state, if every other step preserves it,
  stays true as long as anybody remembers the event: the rely–guarantee rule of this library;
* `play` — a schedule, played: concrete runs are computed.
-/

set_option autoImplicit false

namespace Effects

variable {S : Sig} {ι σ : Type}

/-- What an agent can be asked to do, and what it keeps between two jobs. -/
structure Machine (S : Sig) where
  Job : Type
  Mem : Type
  Out : Type
  code : Job → Mem → Prog S Out
  mem : Out → Mem

namespace Pool

/-- An agent: between two jobs, or in the middle of one. -/
inductive Agent (M : Machine S) where
  | idle (mem : M.Mem)
  | busy (job : M.Job) (mem : M.Mem) (log : List (Event S)) (rest : Prog S M.Out)

structure Config (M : Machine S) (ι σ : Type) where
  shared : σ
  agents : ι → Agent M

/-- What happened in a step: a job was started, a call was answered, a job returned. -/
inductive Label (M : Machine S) (ι : Type) where
  | started (i : ι) (job : M.Job)
  | did (i : ι) (ev : Event S)
  | returned (i : ι) (job : M.Job) (mem : M.Mem) (log : List (Event S)) (out : M.Out)

variable {M : Machine S} [DecidableEq ι] {R : ι → σ → Event S → σ → Prop}

/-- Put one agent somewhere else. -/
def Config.set (c : Config M ι σ) (i : ι) (a : Agent M) : Config M ι σ :=
  { c with agents := Function.update c.agents i a }

@[simp] theorem Config.set_shared (c : Config M ι σ) (i : ι) (a : Agent M) :
    (c.set i a).shared = c.shared := rfl

theorem Config.set_agents (c : Config M ι σ) (i : ι) (a : Agent M) (j : ι) :
    (c.set i a).agents j = if j = i then a else c.agents j := Function.update_apply ..

inductive Step (R : ι → σ → Event S → σ → Prop) :
    Config M ι σ → Label M ι → Config M ι σ → Prop where
  | start {c : Config M ι σ} {i : ι} {m : M.Mem} (job : M.Job) (h : c.agents i = .idle m) :
      Step R c (.started i job) (c.set i (.busy job m [] (M.code job m)))
  | call {c : Config M ι σ} {i : ι} {job : M.Job} {m : M.Mem} {log : List (Event S)}
      {q : Call S} {k : q.Ans → Prog S M.Out} {σ' : σ} (r : q.Ans)
      (h : c.agents i = .busy job m log (.call q k)) (hR : R i c.shared (Event.of q r) σ') :
      Step R c (.did i (Event.of q r))
        ({ c with shared := σ' }.set i (.busy job m (log ++ [Event.of q r]) (k r)))
  | finish {c : Config M ι σ} {i : ι} {job : M.Job} {m : M.Mem} {log : List (Event S)}
      {out : M.Out} (h : c.agents i = .busy job m log (.ret out)) :
      Step R c (.returned i job m log out) (c.set i (.idle (M.mem out)))

/-- A run from `c₀` whose every step satisfies `P` where it starts. -/
inductive Run (R : ι → σ → Event S → σ → Prop) (P : Config M ι σ → Label M ι → Prop)
    (c₀ : Config M ι σ) : List (Label M ι) → Config M ι σ → Prop where
  | nil : Run R P c₀ [] c₀
  | snoc {ls : List (Label M ι)} {c c' : Config M ι σ} {l : Label M ι} (run : Run R P c₀ ls c)
      (step : Step R c l c') (admitted : P c l) : Run R P c₀ (ls ++ [l]) c'

/-- Every step is admitted. -/
abbrev Any (_ : Config M ι σ) (_ : Label M ι) : Prop := True

variable {P P' : Config M ι σ → Label M ι → Prop} {c₀ c c' : Config M ι σ}
  {ls : List (Label M ι)}

theorem Run.mono (h : Run R P c₀ ls c) (hP : ∀ c l, P c l → P' c l) : Run R P' c₀ ls c := by
  induction h with
  | nil => exact .nil
  | snoc _ step admitted ih => exact .snoc ih step (hP _ _ admitted)

/-- Induction over runs, once. -/
theorem Run.invariant {I : List (Label M ι) → Config M ι σ → Prop} (h : Run R P c₀ ls c)
    (init : I [] c₀)
    (next : ∀ ls c l c', Run R P c₀ ls c → I ls c → Step R c l c' → P c l → I (ls ++ [l]) c') :
    I ls c := by
  induction h with
  | nil => exact init
  | snoc run step admitted ih => exact next _ _ _ _ run ih step admitted

/-- What every call preserves about the shared state, a run does. -/
theorem Run.shared {T : σ → Prop} (h : Run R P c₀ ls c)
    (stable : ∀ i s ev s', R i s ev s' → T s → T s') (init : T c₀.shared) : T c.shared := by
  refine h.invariant (I := fun _ c => T c.shared) init ?_
  intro ls c l c' _ hT step _
  cases step with
  | start job _ => exact hT
  | call r _ hR => exact stable _ _ _ _ hR hT
  | finish _ => exact hT

/-- Every step of a run was admitted. -/
theorem Run.admitted (h : Run R P c₀ ls c) : ∀ l ∈ ls, ∃ c₁, P c₁ l := by
  induction h with
  | nil => exact nofun
  | snoc _ _ admitted ih =>
    intro l hl
    rcases List.mem_append.mp hl with hl | hl
    · exact ih l hl
    · obtain rfl := List.mem_singleton.mp hl
      exact ⟨_, admitted⟩

/-- Runs compose. -/
theorem Run.trans {ls' : List (Label M ι)} (h : Run R P c₀ ls c) (h' : Run R P c ls' c') :
    Run R P c₀ (ls ++ ls') c' := by
  induction h' with
  | nil =>
    rw [List.append_nil]
    exact h
  | snoc _ step admitted ih =>
    rw [← List.append_assoc]
    exact ih.snoc step admitted

/-- Runs can be cut anywhere. -/
theorem Run.split {pre post : List (Label M ι)} (h : Run R P c₀ (pre ++ post) c) :
    ∃ c₁, Run R P c₀ pre c₁ ∧ Run R P c₁ post c := by
  induction post using List.reverseRecOn generalizing c with
  | nil =>
    rw [List.append_nil] at h
    exact ⟨c, h, .nil⟩
  | append_singleton post l ih =>
    rw [← List.append_assoc] at h
    generalize hl : (pre ++ post) ++ [l] = ls at h
    cases h with
    | nil => simp at hl
    | snoc run step admitted =>
      obtain ⟨rfl, hlast⟩ := List.append_inj' hl rfl
      obtain rfl := List.singleton_inj.mp hlast
      obtain ⟨c₁, hpre, hpost⟩ := ih run
      exact ⟨c₁, hpre, hpost.snoc step admitted⟩

/-- The step a run ends with. -/
theorem Run.last {l : Label M ι} (h : Run R P c₀ (ls ++ [l]) c) :
    ∃ c₁, Run R P c₀ ls c₁ ∧ Step R c₁ l c ∧ P c₁ l := by
  generalize hl : ls ++ [l] = ls' at h
  cases h with
  | nil => simp at hl
  | snoc run step admitted =>
    obtain ⟨rfl, hlast⟩ := List.append_inj' hl rfl
    obtain rfl := List.singleton_inj.mp hlast
    exact ⟨_, run, step, admitted⟩

/-- The step a run begins with. -/
theorem Run.first {l : Label M ι} (h : Run R P c (l :: ls) c') :
    ∃ c₁, Step R c l c₁ ∧ P c l ∧ Run R P c₁ ls c' := by
  rw [← List.singleton_append] at h
  obtain ⟨c₁, hfirst, hrest⟩ := h.split
  rw [← List.nil_append [l]] at hfirst
  obtain ⟨c₂, hnil, step, admitted⟩ := hfirst.last
  generalize hls : ([] : List (Label M ι)) = ls₀ at hnil
  cases hnil with
  | nil => exact ⟨c₁, step, admitted, hrest⟩
  | snoc _ _ _ => simp at hls

theorem Step.answered {i : ι} {ev : Event S} (h : Step R c (.did i ev) c') :
    R i c.shared ev c'.shared := by
  generalize hl : Label.did i ev = l at h
  cases h with
  | start _ _ => cases hl
  | finish _ => cases hl
  | call r _ hR =>
    cases hl
    exact hR

/-- Every call of a run was answered by its relation, in a configuration the run came through. -/
theorem Run.happened (h : Run R P c₀ ls c) {i : ι} {ev : Event S} (hmem : .did i ev ∈ ls) :
    ∃ pre c₁ s', Run R P c₀ pre c₁ ∧ R i c₁.shared ev s' ∧ P c₁ (.did i ev) := by
  obtain ⟨pre, post, rfl⟩ := List.append_of_mem hmem
  rw [← List.singleton_append, ← List.append_assoc] at h
  obtain ⟨c₂, hpre, -⟩ := h.split
  obtain ⟨c₁, run, step, admitted⟩ := hpre.last
  exact ⟨pre, c₁, _, run, step.answered, admitted⟩

/-- The step an agent's call is made in. -/
theorem Step.of_did {i : ι} {ev : Event S} (h : Step R c (.did i ev) c') :
    ∃ job m log k, c.agents i = .busy job m log (.call ev.call k) := by
  generalize hl : Label.did i ev = l at h
  cases h with
  | start _ _ => cases hl
  | finish _ => cases hl
  | @call i' job m log q k σ' r hbusy hR =>
    cases hl
    have : ∀ q' : Call S, q' = q → ∃ k', c.agents i = .busy job m log (.call q' k') := by
      rintro _ rfl
      exact ⟨k, hbusy⟩
    obtain ⟨k', hk'⟩ := this _ (Event.call_of q r)
    exact ⟨job, m, log, k', hk'⟩

/-- The agent of an answered call remembers it. -/
theorem Step.did_agent {i : ι} {ev : Event S} (h : Step R c (.did i ev) c') {job : M.Job}
    {m : M.Mem} {log : List (Event S)} {rest : Prog S M.Out}
    (hbusy : c.agents i = .busy job m log rest) :
    ∃ rest', c'.agents i = .busy job m (log ++ [ev]) rest' := by
  generalize hl : Label.did i ev = l at h
  cases h with
  | start _ _ => cases hl
  | finish _ => cases hl
  | call r hcall _ =>
    cases hl
    cases hbusy.symm.trans hcall
    exact ⟨_, by rw [Config.set_agents, if_pos rfl]⟩

/-- A call moves one agent. -/
theorem Step.others {i j : ι} {ev : Event S} (h : Step R c (.did i ev) c') (hne : j ≠ i) :
    c'.agents j = c.agents j := by
  generalize hl : Label.did i ev = l at h
  cases h with
  | start _ _ => cases hl
  | finish _ => cases hl
  | call r hcall _ =>
    cases hl
    rw [Config.set_agents, if_neg hne]

theorem Step.of_started {i : ι} {job : M.Job} (h : Step R c (.started i job) c') :
    ∃ m, c.agents i = .idle m ∧ c'.agents i = .busy job m [] (M.code job m) := by
  generalize hl : Label.started i job = l at h
  cases h with
  | call _ _ _ => cases hl
  | finish _ => cases hl
  | start _ hidle =>
    cases hl
    exact ⟨_, hidle, by rw [Config.set_agents, if_pos rfl]⟩

theorem Step.of_returned {i : ι} {job : M.Job} {m : M.Mem} {log : List (Event S)} {out : M.Out}
    (h : Step R c (.returned i job m log out) c') :
    c.agents i = .busy job m log (.ret out) ∧ c'.agents i = .idle (M.mem out) := by
  generalize hl : Label.returned i job m log out = l at h
  cases h with
  | call _ _ _ => cases hl
  | start _ _ => cases hl
  | finish hbusy =>
    cases hl
    exact ⟨hbusy, by rw [Config.set_agents, if_pos rfl]⟩

/-! ## Logs -/

/-- Nobody is in the middle of anything. -/
def Config.Quiet (c : Config M ι σ) : Prop := ∀ i, ∃ m, c.agents i = .idle m

/-- The logs of a configuration and of the jobs that returned. -/
def Remembers (ls : List (Label M ι)) (c : Config M ι σ) (i : ι) (log : List (Event S)) : Prop :=
  (∃ job m rest, c.agents i = .busy job m log rest) ∨
    ∃ job m out, .returned i job m log out ∈ ls

/-- Everybody's log is an execution of the job's program. -/
def LogsOk (ls : List (Label M ι)) (c : Config M ι σ) : Prop :=
  (∀ i job m log rest, c.agents i = .busy job m log rest → Steps (M.code job m) log rest) ∧
    ∀ i job m log out, .returned i job m log out ∈ ls → Runs (M.code job m) log out

/-- An agent of an updated configuration is the updated one or was there before. -/
theorem Config.set_busy {i j : ι} {a : Agent M} {job : M.Job} {m : M.Mem}
    {log : List (Event S)} {rest : Prog S M.Out}
    (h : (c.set i a).agents j = .busy job m log rest) :
    (j = i ∧ a = .busy job m log rest) ∨ (j ≠ i ∧ c.agents j = .busy job m log rest) := by
  rw [Config.set_agents] at h
  by_cases hj : j = i
  · rw [if_pos hj] at h
    exact Or.inl ⟨hj, h⟩
  · rw [if_neg hj] at h
    exact Or.inr ⟨hj, h⟩

theorem Run.logs (h : Run R P c₀ ls c) (quiet : c₀.Quiet) : LogsOk ls c := by
  refine h.invariant (I := LogsOk) ?_ ?_
  · refine ⟨?_, nofun⟩
    intro i job m log rest hbusy
    obtain ⟨m', hidle⟩ := quiet i
    rw [hidle] at hbusy
    cases hbusy
  · intro ls c l c' _ ⟨hbusy, hret⟩ step _
    cases step with
    | @start i m job hidle =>
      refine ⟨?_, ?_⟩
      · intro j job' m' log rest hj
        rcases Config.set_busy hj with ⟨-, heq⟩ | ⟨-, hj⟩
        · cases heq
          exact .refl _
        · exact hbusy j job' m' log rest hj
      · intro j job' m' log out hmem
        exact hret j job' m' log out (by simpa using hmem)
    | @call i job m log q k σ' r hb hR =>
      refine ⟨?_, ?_⟩
      · intro j job' m' log' rest hj
        rcases Config.set_busy hj with ⟨-, heq⟩ | ⟨-, hj⟩
        · cases heq
          exact (hbusy i job m log _ hb).snoc r
        · exact hbusy j job' m' log' rest hj
      · intro j job' m' log' out hmem
        exact hret j job' m' log' out (by simpa using hmem)
    | @finish i job m log out hb =>
      refine ⟨?_, ?_⟩
      · intro j job' m' log' rest hj
        rcases Config.set_busy hj with ⟨-, heq⟩ | ⟨-, hj⟩
        · cases heq
        · exact hbusy j job' m' log' rest hj
      · intro j job' m' log' out' hmem
        rcases List.mem_append.mp hmem with hmem | hmem
        · exact hret j job' m' log' out' hmem
        · rw [List.mem_singleton] at hmem
          cases hmem
          exact hbusy i job m log _ hb

/-! ## Jobs -/

/-- The events of one agent. -/
def eventsOf (i : ι) (ls : List (Label M ι)) : List (Event S) := ls.filterMap fun
  | .did j ev => if j = i then some ev else none
  | _ => none

theorem eventsOf_append (i : ι) (ls ls' : List (Label M ι)) :
    eventsOf i (ls ++ ls') = eventsOf i ls ++ eventsOf i ls' := List.filterMap_append

theorem eventsOf_did (i : ι) (ev : Event S) (ls : List (Label M ι)) :
    eventsOf i (.did i ev :: ls) = ev :: eventsOf i ls := by simp [eventsOf]

/-- Some agent's call was answered so. -/
def Label.Did (p : Event S → Prop) : Label M ι → Prop
  | .did _ ev => p ev
  | _ => False

/-- An agent starts a job. -/
def Label.Starts (i : ι) : Label M ι → Prop
  | .started j _ => j = i
  | _ => False

/-- Nothing was started. -/
def NoStart (i : ι) (ls : List (Label M ι)) : Prop := ∀ l ∈ ls, ¬ l.Starts i

omit [DecidableEq ι] in
theorem NoStart.snoc {i : ι} {ls : List (Label M ι)} {l : Label M ι} (h : NoStart i ls)
    (hl : ¬ l.Starts i) : NoStart i (ls ++ [l]) := by
  intro l' hmem
  rcases List.mem_append.mp hmem with hmem | hmem
  · exact h l' hmem
  · obtain rfl := List.mem_singleton.mp hmem
    exact hl

/-- **A log is what the agent did since it started the job.** -/
theorem Run.since_started (h : Run R P c₀ ls c) (quiet : c₀.Quiet) {i : ι} {job : M.Job}
    {m : M.Mem} {log : List (Event S)} {rest : Prog S M.Out}
    (hbusy : c.agents i = .busy job m log rest) :
    ∃ pre mid, ls = pre ++ .started i job :: mid ∧ NoStart i mid ∧ log = eventsOf i mid := by
  refine h.invariant (I := fun ls c => ∀ job m log rest, c.agents i = .busy job m log rest →
    ∃ pre mid, ls = pre ++ .started i job :: mid ∧ NoStart i mid ∧ log = eventsOf i mid) ?_ ?_ job m log rest hbusy
  · intro job m log rest hbusy
    obtain ⟨m', hidle⟩ := quiet i
    rw [hidle] at hbusy
    cases hbusy
  · intro ls c l c' _ ih step _ job m log rest hbusy
    cases step with
    | @start j m' job' hidle =>
      rcases Config.set_busy hbusy with ⟨rfl, heq⟩ | ⟨hne, hbusy'⟩
      · cases heq
        exact ⟨ls, [], rfl, nofun, rfl⟩
      · obtain ⟨pre, mid, rfl, hmid, rfl⟩ := ih _ _ _ _ hbusy'
        have hother : ¬ (Label.started j job' : Label M ι).Starts i := fun h => hne h.symm
        exact ⟨pre, mid ++ [Label.started j job'], by simp, hmid.snoc hother, by simp [eventsOf]⟩
    | @call j job' m' log' q k σ' r hb hR =>
      rcases Config.set_busy hbusy with ⟨rfl, heq⟩ | ⟨hne, hbusy'⟩
      · cases heq
        obtain ⟨pre, mid, rfl, hmid, rfl⟩ := ih _ _ _ _ hb
        exact ⟨pre, mid ++ [Label.did i (Event.of q r)], by simp, hmid.snoc id, by simp [eventsOf]⟩
      · obtain ⟨pre, mid, rfl, hmid, rfl⟩ := ih _ _ _ _ hbusy'
        exact ⟨pre, mid ++ [Label.did j (Event.of q r)], by simp, hmid.snoc id, by simp [eventsOf, hne.symm]⟩
    | @finish j job' m' log' out hb =>
      rcases Config.set_busy hbusy with ⟨-, heq⟩ | ⟨hne, hbusy'⟩
      · cases heq
      · obtain ⟨pre, mid, rfl, hmid, rfl⟩ := ih _ _ _ _ hbusy'
        exact ⟨pre, mid ++ [Label.returned j job' m' log' out], by simp, hmid.snoc id, by simp [eventsOf]⟩

theorem mem_eventsOf {i : ι} {ls : List (Label M ι)} {ev : Event S} :
    ev ∈ eventsOf i ls ↔ .did i ev ∈ ls := by
  unfold eventsOf
  rw [List.mem_filterMap]
  constructor
  · intro ⟨l, hl, heq⟩
    cases l with
    | did j ev' =>
      by_cases hj : j = i
      · obtain rfl : ev' = ev := by simpa [hj] using heq
        exact hj ▸ hl
      · simp [hj] at heq
    | started j job => cases heq
    | returned j job m log out => cases heq
  · intro h
    exact ⟨_, h, by simp⟩

/-- What an agent remembers has happened. -/
theorem Run.remembered (h : Run R P c₀ ls c) (quiet : c₀.Quiet) {i : ι} {log : List (Event S)}
    (hlog : Remembers ls c i log) : ∀ ev ∈ log, .did i ev ∈ ls := by
  intro ev hev
  rcases hlog with ⟨job, m, rest, hbusy⟩ | ⟨job, m, out, hmem⟩
  · obtain ⟨pre, mid, rfl, -, rfl⟩ := h.since_started quiet hbusy
    simp [mem_eventsOf.mp hev]
  · obtain ⟨pre, post, rfl⟩ := List.append_of_mem hmem
    rw [← List.singleton_append, ← List.append_assoc] at h
    obtain ⟨c₂, hpre, -⟩ := h.split
    obtain ⟨c₁, run, step, -⟩ := hpre.last
    generalize hl : Label.returned i job m log out = l at step
    cases step with
    | start _ _ => cases hl
    | call _ _ _ => cases hl
    | finish hbusy =>
      cases hl
      obtain ⟨pre', mid, rfl, -, rfl⟩ := run.since_started quiet hbusy
      simp [mem_eventsOf.mp hev]

/-- What every job asserts of its calls held when a call was made. -/
theorem Run.asserted {A : M.Job → M.Mem → List (Event S) → Call S → Prop}
    {Q : M.Job → M.Mem → List (Event S) → M.Out → Prop} (h : Run R P c₀ ls c) (quiet : c₀.Quiet)
    (code : ∀ job m, wp (A job m) (M.code job m) (Q job m) []) {i : ι} {job : M.Job} {m : M.Mem}
    {log : List (Event S)} {q : Call S} {k : q.Ans → Prog S M.Out}
    (hbusy : c.agents i = .busy job m log (.call q k)) : A job m log q :=
  wp_asserts ((h.logs quiet).1 _ _ _ _ _ hbusy) (code job m)

/-- The same, read off the labels: when a call was made, the job that makes it was the last one
its agent had started, and its log were the agent's events since. -/
theorem Run.asserted_at {A : M.Job → M.Mem → List (Event S) → Call S → Prop}
    {Q : M.Job → M.Mem → List (Event S) → M.Out → Prop} {i : ι} {ev : Event S}
    (h : Run R P c₀ ls c) (quiet : c₀.Quiet) (step : Step R c (.did i ev) c')
    (code : ∀ job m, wp (A job m) (M.code job m) (Q job m) []) :
    ∃ job m pre mid rest, ls = pre ++ .started i job :: mid ∧ NoStart i mid ∧
      c.agents i = .busy job m (eventsOf i mid) rest ∧ A job m (eventsOf i mid) ev.call := by
  obtain ⟨job, m, log, k, hbusy⟩ := step.of_did
  obtain ⟨pre, mid, hls, hmid, rfl⟩ := h.since_started quiet hbusy
  exact ⟨job, m, pre, mid, _, hls, hmid, hbusy, h.asserted quiet code hbusy⟩

/-- A run, cut at one of its steps. -/
theorem Run.cut {l : Label M ι} {pre : List (Label M ι)} (h : Run R P c₀ ls c)
    (hpre : pre ++ [l] <+: ls) : ∃ c₁ c₂ post, ls = pre ++ l :: post ∧ Run R P c₀ pre c₁ ∧
      Step R c₁ l c₂ ∧ P c₁ l ∧ Run R P c₂ post c := by
  obtain ⟨post, rfl⟩ := hpre
  obtain ⟨c₂, before, rest⟩ := h.split
  obtain ⟨c₁, before, step, admitted⟩ := before.last
  exact ⟨c₁, c₂, post, by simp, before, step, admitted, rest⟩

/-- The labels of some events of an agent. -/
theorem eventsOf_eq_append {i : ι} {ls : List (Label M ι)} (xs : List (Event S))
    {ys : List (Event S)} {ev : Event S} (h : eventsOf i ls = xs ++ ev :: ys) :
    ∃ pre post, ls = pre ++ .did i ev :: post ∧ eventsOf i pre = xs ∧ eventsOf i post = ys := by
  obtain ⟨pre, rest, rfl, hpre, hrest⟩ := List.filterMap_eq_append_iff.mp h
  obtain ⟨skip, l, post, rfl, hskip, hl, hpost⟩ := List.filterMap_eq_cons_iff.mp hrest
  have hskip' : eventsOf i skip = [] := List.filterMap_eq_nil_iff.mpr hskip
  cases l with
  | started j job => cases hl
  | returned j job m log out => cases hl
  | did j ev' =>
    by_cases hj : j = i
    · obtain rfl : ev' = ev := by simpa [hj] using hl
      subst hj
      refine ⟨pre ++ skip, post, by simp, ?_, hpost⟩
      rw [eventsOf_append, hskip', List.append_nil]
      exact hpre
    · simp [hj] at hl

/-- Where an agent that was busy is, once the run has gone on and it has started nothing else: at
the same job, or back from it. -/
theorem Run.continues (h : Run R P c ls c') {i : ι} {job : M.Job} {m : M.Mem}
    {log : List (Event S)} {rest : Prog S M.Out} (hbusy : c.agents i = .busy job m log rest)
    (same : NoStart i ls) :
    (∃ rest', c'.agents i = .busy job m (log ++ eventsOf i ls) rest') ∨
      ∃ out, .returned i job m (log ++ eventsOf i ls) out ∈ ls ∧ c'.agents i = .idle (M.mem out) := by
  refine h.invariant (I := fun ls c' => NoStart i ls →
    (∃ rest', c'.agents i = .busy job m (log ++ eventsOf i ls) rest') ∨
      ∃ out, .returned i job m (log ++ eventsOf i ls) out ∈ ls ∧
        c'.agents i = .idle (M.mem out)) ?_ ?_ same
  · intro _
    exact Or.inl ⟨rest, by simpa [eventsOf] using hbusy⟩
  · intro ls c₁ l c₂ _ ih step _ same
    have hsame : NoStart i ls := fun l' hl' => same l' (List.mem_append_left _ hl')
    have hl : ¬ l.Starts i := same l (by simp)
    cases step with
    | @start j m' job' hidle =>
      have hne : i ≠ j := fun h => hl h.symm
      have hevents : eventsOf i (ls ++ [Label.started j job']) = eventsOf i ls := by simp [eventsOf]
      rw [hevents, Config.set_agents, if_neg hne]
      rcases ih hsame with hbusy | ⟨out, hret, hidle⟩
      · exact Or.inl hbusy
      · exact Or.inr ⟨out, List.mem_append_left _ hret, hidle⟩
    | @call j job' m' log' q k σ' r hb hR =>
      rw [Config.set_agents]
      by_cases hij : i = j
      · subst hij
        have hevents : eventsOf i (ls ++ [Label.did i (Event.of q r)]) =
            eventsOf i ls ++ [Event.of q r] := by simp [eventsOf]
        rw [hevents, if_pos rfl, ← List.append_assoc]
        change c₁.agents i = _ at hb
        rcases ih hsame with ⟨rest', hbusy⟩ | ⟨out, -, hidle⟩
        · rw [hb] at hbusy
          cases hbusy
          exact Or.inl ⟨k r, rfl⟩
        · cases hb.symm.trans hidle
      · have hevents : eventsOf i (ls ++ [Label.did j (Event.of q r)]) = eventsOf i ls := by
          simp [eventsOf, Ne.symm hij]
        rw [hevents, if_neg hij]
        rcases ih hsame with hbusy | ⟨out, hret, hidle⟩
        · exact Or.inl hbusy
        · exact Or.inr ⟨out, List.mem_append_left _ hret, hidle⟩
    | @finish j job' m' log' out hb =>
      have hevents : eventsOf i (ls ++ [Label.returned j job' m' log' out]) = eventsOf i ls := by
        simp [eventsOf]
      rw [hevents, Config.set_agents]
      by_cases hij : i = j
      · subst hij
        rw [if_pos rfl]
        rcases ih hsame with ⟨rest', hbusy⟩ | ⟨out', -, hidle⟩
        · rw [hb] at hbusy
          cases hbusy
          exact Or.inr ⟨out, by simp, rfl⟩
        · cases hb.symm.trans hidle
      · rw [if_neg hij]
        rcases ih hsame with hbusy | ⟨out', hret, hidle⟩
        · exact Or.inl hbusy
        · exact Or.inr ⟨out', List.mem_append_left _ hret, hidle⟩

/-- The logs of the jobs an agent has returned from, in order. -/
def returnedLogs (i : ι) (ls : List (Label M ι)) : List (List (Event S)) := ls.filterMap fun
  | .returned j _ _ log _ => if j = i then some log else none
  | _ => none

/-- What an agent has done so far in the job it is at. -/
def Agent.log : Agent M → List (Event S)
  | .idle _ => []
  | .busy _ _ log _ => log

/-- **An agent does one job after the other.** -/
theorem Run.eventsOf_eq (h : Run R P c₀ ls c) (quiet : c₀.Quiet) (i : ι) :
    eventsOf i ls = (returnedLogs i ls).flatten ++ (c.agents i).log := by
  refine h.invariant (I := fun ls c => eventsOf i ls =
    (returnedLogs i ls).flatten ++ (c.agents i).log) ?_ ?_
  · obtain ⟨m, hm⟩ := quiet i
    rw [hm]
    rfl
  · intro ls c l c' _ ih step _
    cases step with
    | @start j m job hidle =>
      have hevents : eventsOf i (ls ++ [Label.started j job]) = eventsOf i ls := by simp [eventsOf]
      have hlogs : returnedLogs i (ls ++ [Label.started j job]) = returnedLogs i ls := by
        simp [returnedLogs]
      rw [hevents, hlogs, ih, Config.set_agents]
      by_cases hij : i = j
      · subst hij
        rw [if_pos rfl, hidle]
        rfl
      · rw [if_neg hij]
    | @call j job m log q k σ' r hbusy hR =>
      have hlogs : returnedLogs i (ls ++ [Label.did j (Event.of q r)]) = returnedLogs i ls := by
        simp [returnedLogs]
      rw [hlogs, Config.set_agents]
      by_cases hij : i = j
      · subst hij
        have hevents : eventsOf i (ls ++ [Label.did i (Event.of q r)]) =
            eventsOf i ls ++ [Event.of q r] := by simp [eventsOf]
        rw [hevents, ih, if_pos rfl, hbusy, List.append_assoc]
        rfl
      · have hevents : eventsOf i (ls ++ [Label.did j (Event.of q r)]) = eventsOf i ls := by
          simp [eventsOf, Ne.symm hij]
        rw [hevents, ih, if_neg hij]
    | @finish j job m log out hbusy =>
      have hevents : eventsOf i (ls ++ [Label.returned j job m log out]) = eventsOf i ls := by
        simp [eventsOf]
      rw [hevents, ih, Config.set_agents]
      by_cases hij : i = j
      · subst hij
        have hlogs : returnedLogs i (ls ++ [Label.returned i job m log out]) =
            returnedLogs i ls ++ [log] := by simp [returnedLogs]
        rw [hlogs, if_pos rfl, hbusy, List.flatten_append, List.flatten_singleton]
        exact (List.append_nil _).symm
      · have hlogs : returnedLogs i (ls ++ [Label.returned j job m log out]) = returnedLogs i ls := by
          simp [returnedLogs, Ne.symm hij]
        rw [hlogs, if_neg hij]

/-- Where such an agent is busy later on, it is at the same job. -/
theorem Run.same_job (h : Run R P c ls c') {i : ι} {job job' : M.Job} {m m' : M.Mem}
    {log log' : List (Event S)} {rest rest' : Prog S M.Out}
    (hbusy : c.agents i = .busy job m log rest) (same : NoStart i ls)
    (hbusy' : c'.agents i = .busy job' m' log' rest') :
    job' = job ∧ m' = m ∧ log' = log ++ eventsOf i ls := by
  rcases h.continues hbusy same with ⟨rest'', hstill⟩ | ⟨_, -, hidle⟩
  · cases hbusy'.symm.trans hstill
    exact ⟨rfl, rfl, rfl⟩
  · cases hbusy'.symm.trans hidle

/-- What an agent keeps. -/
def Agent.mem : Agent M → M.Mem
  | .idle m => m
  | .busy _ m _ _ => m

/-- What an agent keeps only changes when a job of its own returns. -/
theorem Step.mem_cases {l : Label M ι} (h : Step R c l c') (i : ι) :
    (c'.agents i).mem = (c.agents i).mem ∨ ∃ job m log out, l = .returned i job m log out ∧
      c.agents i = .busy job m log (.ret out) ∧ (c'.agents i).mem = M.mem out := by
  cases h with
  | @start j m job hidle =>
    rw [Config.set_agents]
    by_cases hij : i = j
    · subst hij
      rw [if_pos rfl, hidle]
      exact Or.inl rfl
    · rw [if_neg hij]
      exact Or.inl rfl
  | @call j job m log q k σ' r hbusy hR =>
    rw [Config.set_agents]
    by_cases hij : i = j
    · subst hij
      rw [if_pos rfl, hbusy]
      exact Or.inl rfl
    · rw [if_neg hij]
      exact Or.inl rfl
  | @finish j job m log out hbusy =>
    rw [Config.set_agents]
    by_cases hij : i = j
    · subst hij
      rw [if_pos rfl]
      exact Or.inr ⟨job, m, log, out, rfl, hbusy, rfl⟩
    · rw [if_neg hij]
      exact Or.inl rfl

/-- Induction over what an agent keeps. -/
theorem Run.kept {I : M.Mem → List (Label M ι) → Prop} (h : Run R P c₀ ls c) (quiet : c₀.Quiet)
    (i : ι) (init : I (c₀.agents i).mem []) (later : ∀ m ls l, I m ls → I m (ls ++ [l]))
    (returns : ∀ ls c job m log out, Run R P c₀ (ls ++ [Label.returned i job m log out]) c →
      Runs (M.code job m) log out → I m ls → I (M.mem out) (ls ++ [Label.returned i job m log out])) :
    I (c.agents i).mem ls := by
  refine h.invariant (I := fun ls c => I (c.agents i).mem ls) init ?_
  intro ls c l c' run ih step admitted
  rcases step.mem_cases i with hsame | ⟨job, m, log, out, rfl, hbusy, hout⟩
  · rw [hsame]
    exact later _ ls l ih
  · rw [hbusy] at ih
    rw [hout]
    exact returns ls c' job m log out (run.snoc step admitted)
      ((run.logs quiet).1 _ _ _ _ _ hbusy) ih

/-! ## Facts -/

/-- **Rely–guarantee.** If an answered call establishes `F` between its event and the shared
state, and every call of anybody preserves every `F`, then `F` holds of every event somebody
remembers. -/
theorem Run.facts {F : ι → Event S → σ → Prop} (h : Run R P c₀ ls c) (quiet : c₀.Quiet)
    (establish : ∀ c i ev s', P c (.did i ev) → R i c.shared ev s' → F i ev s')
    (stable : ∀ i ev j s ev' s', R j s ev' s' → F i ev s → F i ev s') {i : ι}
    {log : List (Event S)} (hlog : Remembers ls c i log) : ∀ ev ∈ log, F i ev c.shared := by
  refine h.invariant (I := fun ls c => ∀ i log, Remembers ls c i log →
    ∀ ev ∈ log, F i ev c.shared) ?_ ?_ i log hlog
  · intro i log hlog
    rcases hlog with ⟨job, m, rest, hbusy⟩ | ⟨job, m, out, hmem⟩
    · obtain ⟨m', hidle⟩ := quiet i
      rw [hidle] at hbusy
      cases hbusy
    · cases hmem
  · intro ls c l c' _ ih step admitted j log hlog
    cases step with
    | @start i m job hidle =>
      rcases hlog with ⟨job', m', rest, hbusy⟩ | ⟨job', m', out, hmem⟩
      · rcases Config.set_busy hbusy with ⟨-, heq⟩ | ⟨-, hbusy⟩
        · cases heq
          exact nofun
        · exact ih j log (Or.inl ⟨job', m', rest, hbusy⟩)
      · exact ih j log (Or.inr ⟨job', m', out, by simpa using hmem⟩)
    | @call i job m log₀ q k σ' r hb hR =>
      have keep : ∀ j log, Remembers ls c j log → ∀ ev ∈ log, F j ev σ' := by
        intro j log hlog ev hev
        exact stable j ev i _ _ _ hR (ih j log hlog ev hev)
      rcases hlog with ⟨job', m', rest, hbusy⟩ | ⟨job', m', out, hmem⟩
      · rcases Config.set_busy hbusy with ⟨rfl, heq⟩ | ⟨-, hbusy⟩
        · cases heq
          intro ev hev
          rcases List.mem_append.mp hev with hev | hev
          · exact keep j log₀ (Or.inl ⟨job, m, _, hb⟩) ev hev
          · obtain rfl := List.mem_singleton.mp hev
            exact establish c j _ σ' admitted hR
        · exact keep j log (Or.inl ⟨job', m', rest, hbusy⟩)
      · exact keep j log (Or.inr ⟨job', m', out, by simpa using hmem⟩)
    | @finish i job m log₀ out hb =>
      rcases hlog with ⟨job', m', rest, hbusy⟩ | ⟨job', m', out', hmem⟩
      · rcases Config.set_busy hbusy with ⟨-, heq⟩ | ⟨-, hbusy⟩
        · cases heq
        · exact ih j log (Or.inl ⟨job', m', rest, hbusy⟩)
      · rcases List.mem_append.mp hmem with hmem | hmem
        · exact ih j log (Or.inr ⟨job', m', out', hmem⟩)
        · rw [List.mem_singleton] at hmem
          cases hmem
          exact ih _ _ (Or.inl ⟨_, _, _, hb⟩)

/-! ## Schedules

The agents of a schedule are numbered; one, two or three are enough for the runs that are played. -/

instance oneAgent : NeZero 1 := ⟨Nat.succ_ne_zero _⟩

instance twoAgents : NeZero 2 := ⟨Nat.succ_ne_zero _⟩

instance threeAgents : NeZero 3 := ⟨Nat.succ_ne_zero _⟩

/-- Whose turn it is, and for what. -/
inductive Turn (M : Machine S) (ι : Type) where
  | start (i : ι) (job : M.Job)
  | call (i : ι)
  | finish (i : ι)

/-- One turn against scripted answers, if `ok` admits it; a turn that is nobody's does
nothing. The answer may depend on the job and on how many calls it has made. -/
def turn (env : ι → M.Job → Nat → σ → (q : Call S) → q.Ans × σ)
    (ok : Config M ι σ → Label M ι → Bool)
    (st : List (Label M ι) × Config M ι σ) : Turn M ι → List (Label M ι) × Config M ι σ
  | .start i job =>
    match st.2.agents i with
    | .idle m => bif ok st.2 (.started i job) then
        (st.1 ++ [Label.started i job], st.2.set i (.busy job m [] (M.code job m))) else st
    | _ => st
  | .call i =>
    match st.2.agents i with
    | .busy job m log (.call q k) =>
      let (r, s') := env i job log.length st.2.shared q
      bif ok st.2 (.did i (Event.of q r)) then
        (st.1 ++ [Label.did i (Event.of q r)],
          { st.2 with shared := s' }.set i (.busy job m (log ++ [Event.of q r]) (k r))) else st
    | _ => st
  | .finish i =>
    match st.2.agents i with
    | .busy job m log (.ret out) => bif ok st.2 (.returned i job m log out) then
        (st.1 ++ [Label.returned i job m log out], st.2.set i (.idle (M.mem out))) else st
    | _ => st

/-- Play a schedule. -/
def play (env : ι → M.Job → Nat → σ → (q : Call S) → q.Ans × σ)
    (ok : Config M ι σ → Label M ι → Bool) (c₀ : Config M ι σ) (turns : List (Turn M ι)) : List (Label M ι) × Config M ι σ :=
  turns.foldl (turn env ok) ([], c₀)

/-- A schedule that is played is a run, if what is admitted is answered by the relation. -/
theorem play_run {env : ι → M.Job → Nat → σ → (q : Call S) → q.Ans × σ}
    {ok : Config M ι σ → Label M ι → Bool} (c₀ : Config M ι σ) (turns : List (Turn M ι))
    (henv : ∀ c i job n q, ok c (.did i (Event.of q (env i job n c.shared q).1)) = true →
      R i c.shared (Event.of q (env i job n c.shared q).1) (env i job n c.shared q).2) :
    Run R (fun c l => ok c l = true) c₀ (play env ok c₀ turns).1 (play env ok c₀ turns).2 := by
  have step : ∀ (st : List (Label M ι) × Config M ι σ) (t : Turn M ι),
      Run R (fun c l => ok c l = true) c₀ st.1 st.2 →
      Run R (fun c l => ok c l = true) c₀ (turn env ok st t).1 (turn env ok st t).2 := by
    intro st t run
    cases t with
    | start i job =>
      simp only [turn]
      split
      · rename_i m hidle
        cases hok : ok st.2 (.started i job) with
        | true => exact run.snoc (.start job hidle) hok
        | false => exact run
      · exact run
    | call i =>
      simp only [turn]
      split
      · rename_i job m log q k hbusy
        cases hok : ok st.2 (.did i (Event.of q (env i job log.length st.2.shared q).1)) with
        | true => exact run.snoc (.call _ hbusy (henv st.2 i job log.length q hok)) hok
        | false => exact run
      · exact run
    | finish i =>
      simp only [turn]
      split
      · rename_i job m log out hbusy
        cases hok : ok st.2 (.returned i job m log out) with
        | true => exact run.snoc (.finish hbusy) hok
        | false => exact run
      · exact run
  have all : ∀ (turns : List (Turn M ι)) (st : List (Label M ι) × Config M ι σ),
      Run R (fun c l => ok c l = true) c₀ st.1 st.2 →
      Run R (fun c l => ok c l = true) c₀ (turns.foldl (turn env ok) st).1
        (turns.foldl (turn env ok) st).2 := by
    intro turns
    induction turns with
    | nil => exact fun _ h => h
    | cons t turns ih => exact fun st h => ih _ (step st t h)
  exact all turns ([], c₀) .nil

end Pool

end Effects
