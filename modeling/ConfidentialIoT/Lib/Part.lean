import ConfidentialIoT.Lib.Embed
import ConfidentialIoT.Lib.Pool

/-!
# `Lib/Part.lean` — the part of a run that is a smaller system's

A machine each of whose jobs is a job of a smaller machine, or makes none of its calls, runs the
smaller one: leave everything else out of a run, and a run of the part is left, with the same calls
in the same order (`Run.part`), if the part cannot see what the other calls do. What is known of
the calls of every run of the part then holds within the whole.
-/

set_option autoImplicit false

namespace Effects

namespace Pool

variable {S T : Sig} {φ : Embedding S T} {M : Machine S} {N : Machine T} {ι σ τ : Type}

/-- The calls of a run, with who made them. -/
def calls (ls : List (Label M ι)) : List (ι × Event S) := ls.filterMap fun
  | .did i ev => some (i, ev)
  | _ => none

theorem calls_append (ls ls' : List (Label M ι)) : calls (ls ++ ls') = calls ls ++ calls ls' :=
  List.filterMap_append

theorem mem_calls {ls : List (Label M ι)} {i : ι} {ev : Event S} :
    (i, ev) ∈ calls ls ↔ .did i ev ∈ ls := by
  unfold calls
  rw [List.mem_filterMap]
  constructor
  · intro ⟨l, hl, heq⟩
    cases l with
    | did j ev' =>
      cases heq
      exact hl
    | started j job => cases heq
    | returned j job m log out => cases heq
  · intro h
    exact ⟨_, h, rfl⟩

theorem calls_prefix {pre ls : List (Label M ι)} {i : ι} {ev : Event S}
    (h : pre ++ [.did i ev] <+: ls) : calls pre ++ [(i, ev)] <+: calls ls := by
  obtain ⟨post, rfl⟩ := h
  exact ⟨calls post, by simp [calls]⟩

/-- `M` as a part of `N`: what a job is to it, what an agent keeps of it, and which calls are its
own. -/
structure Part (φ : Embedding S T) (M : Machine S) (N : Machine T) where
  job : N.Job → Option M.Job
  mem : N.Mem → M.Mem
  out : M.Out → N.Out
  seen : Event T → Option (Event S)
  mem_out : ∀ r, mem (N.mem (out r)) = M.mem r
  seen_own : ∀ q r, seen (.did (φ.act q) r) = some (Event.of q (φ.back q r))
  own : ∀ {j j'}, job j = some j' → ∀ m,
    N.code j m = φ.prog (M.code j' (mem m)) >>= fun r => .ret (out r)
  other : ∀ {j}, job j = none → ∀ m, wp (fun _ q => ∀ r, seen (Event.of q r) = none) (N.code j m)
    (fun _ o => mem (N.mem o) = mem m) []

/-- The part's calls in a run of the whole. -/
def Part.calls (p : Part φ M N) (ls : List (Label N ι)) : List (ι × Event S) :=
  (Pool.calls ls).filterMap fun c => (p.seen c.2).map (c.1, ·)

theorem Part.calls_append (p : Part φ M N) (ls ls' : List (Label N ι)) :
    p.calls (ls ++ ls') = p.calls ls ++ p.calls ls' := by
  rw [Part.calls, Pool.calls_append, List.filterMap_append]
  rfl

/-- An agent of the whole, and the part it plays. A job that is not the part's leaves it idle. -/
inductive Part.Plays (p : Part φ M N) : Agent N → Agent M → Prop where
  | idle (m : N.Mem) : p.Plays (.idle m) (.idle (p.mem m))
  | own {j : N.Job} {j' : M.Job} {m : N.Mem} {log : List (Event T)} {log' : List (Event S)}
      {rest : Prog T N.Out} {rest' : Prog S M.Out}
      (hrest : rest = φ.prog rest' >>= fun r => .ret (p.out r)) :
      p.Plays (.busy j m log rest) (.busy j' (p.mem m) log' rest')
  | other {j : N.Job} {m : N.Mem} {log tr : List (Event T)} {rest : Prog T N.Out}
      (hrest : wp (fun _ q => ∀ r, p.seen (Event.of q r) = none) rest
        (fun _ o => p.mem (N.mem o) = p.mem m) tr) :
      p.Plays (.busy j m log rest) (.idle (p.mem m))

/-- Where the part starts. -/
def Part.start (p : Part φ M N) (c : Config N ι τ) (s : σ) : Config M ι σ :=
  ⟨s, fun i => .idle (p.mem (c.agents i).mem)⟩

variable [DecidableEq ι] {R : ι → σ → Event S → σ → Prop} {R' : ι → τ → Event T → τ → Prop}
  {P : Config N ι τ → Label N ι → Prop} {c₀ c : Config N ι τ} {ls : List (Label N ι)}
  {Sees : τ → σ → Prop} {s₀ : σ} {p : Part φ M N}

/-- A run of the whole has a run of the part in it. -/
def Part.In (p : Part φ M N) (R : ι → σ → Event S → σ → Prop) (Sees : τ → σ → Prop)
    (c₀ : Config N ι τ) (s₀ : σ) (ls : List (Label N ι)) (c : Config N ι τ) : Prop :=
  ∃ ls' c', Run R Any (p.start c₀ s₀) ls' c' ∧ Pool.calls ls' = p.calls ls ∧
    Sees c.shared c'.shared ∧ ∀ i, p.Plays (c.agents i) (c'.agents i)

theorem Part.Plays.set {c : Config N ι τ} {c' : Config M ι σ}
    (h : ∀ i, p.Plays (c.agents i) (c'.agents i)) (i : ι) {a : Agent N} {a' : Agent M}
    (ha : p.Plays a a') (j : ι) : p.Plays ((c.set i a).agents j) ((c'.set i a').agents j) := by
  rw [Config.set_agents, Config.set_agents]
  by_cases hj : j = i
  · rw [if_pos hj, if_pos hj]
    exact ha
  · rw [if_neg hj, if_neg hj]
    exact h j

/-- The agent of the whole moves, and its part does not. -/
theorem Part.Plays.stay {c : Config N ι τ} {c' : Config M ι σ}
    (h : ∀ i, p.Plays (c.agents i) (c'.agents i)) (i : ι) {a : Agent N}
    (ha : p.Plays a (c'.agents i)) (j : ι) : p.Plays ((c.set i a).agents j) (c'.agents j) := by
  rw [Config.set_agents]
  by_cases hj : j = i
  · rw [if_pos hj, hj]
    exact ha
  · rw [if_neg hj]
    exact h j

/-- **Every run of the whole has one**, if the part's calls do to what it sees what they do in the
part, and the other calls do nothing to it. -/
theorem Run.part (p : Part φ M N) (h : Run R' P c₀ ls c) (quiet : c₀.Quiet)
    (init : Sees c₀.shared s₀)
    (own : ∀ i t q r t' s, Sees t s → R' i t (.did (φ.act q) r) t' →
      ∃ s', R i s (Event.of q (φ.back q r)) s' ∧ Sees t' s')
    (other : ∀ i t ev t' s, p.seen ev = none → Sees t s → R' i t ev t' → Sees t' s) :
    p.In R Sees c₀ s₀ ls c := by
  -- a step without a call of the part
  have quietly : ∀ (ls : List (Label N ι)) (l : Label N ι),
      (∀ i ev, l = .did i ev → p.seen ev = none) → p.calls (ls ++ [l]) = p.calls ls := by
    intro ls l hl
    rw [Part.calls_append]
    cases l with
    | did i ev => simp [Part.calls, Pool.calls, hl i ev rfl]
    | started i job => simp [Part.calls, Pool.calls]
    | returned i job m log out => simp [Part.calls, Pool.calls]
  refine h.invariant (I := p.In R Sees c₀ s₀) ?_ ?_
  · refine ⟨[], p.start c₀ s₀, .nil, rfl, init, ?_⟩
    intro i
    obtain ⟨m, hm⟩ := quiet i
    have hmem : (c₀.agents i).mem = m := congrArg Agent.mem hm
    rw [hm, ← hmem]
    exact .idle _
  · intro ls c l c₁ _ ⟨ls', c', run, same, sees, plays⟩ step _
    cases step with
    | @start i m j hidle =>
      have hplays := plays i
      rw [hidle] at hplays
      generalize ha : c'.agents i = a at hplays
      cases hplays
      have hcalls := quietly ls (.started i j) (by simp)
      cases hj : p.job j with
      | none =>
        refine ⟨ls', c', run, same.trans hcalls.symm, sees, ?_⟩
        apply Part.Plays.stay plays
        rw [ha]
        exact .other (p.other hj m)
      | some j' =>
        refine ⟨_, _, run.snoc (.start j' ha) trivial, ?_, sees, ?_⟩
        · rw [Pool.calls_append, same, hcalls]
          exact List.append_nil _
        · exact Part.Plays.set plays i (.own (p.own hj m))
    | @call i j m log q k t' r hbusy hR =>
      have hplays := plays i
      rw [hbusy] at hplays
      generalize ha : c'.agents i = a at hplays
      cases hplays with
      | @own _ j' _ _ log' _ rest' hrest =>
        cases rest' with
        | ret out => cases hrest
        | call q' k' =>
          cases hrest
          obtain ⟨s', hstep, hsees⟩ := own i _ q' r _ _ sees hR
          refine ⟨_, _, run.snoc (.call _ ha hstep) trivial, ?_, hsees, ?_⟩
          · have hseen : p.seen (Event.of (.act (φ.act q')) r) = _ := p.seen_own q' r
            rw [Pool.calls_append, Part.calls_append, same]
            simp [Part.calls, Pool.calls, hseen]
          · exact Part.Plays.set plays i (.own rfl)
      | other hrest =>
        have hforeign := hrest.1 r
        have hcalls := quietly ls (.did i (Event.of q r)) (by simpa using hforeign)
        refine ⟨ls', c', run, same.trans hcalls.symm, other i _ _ _ _ hforeign sees hR, ?_⟩
        apply Part.Plays.stay plays
        rw [ha]
        exact .other (hrest.2 r)
    | @finish i j m log out hbusy =>
      have hplays := plays i
      rw [hbusy] at hplays
      generalize ha : c'.agents i = a at hplays
      have hcalls := quietly ls (.returned i j m log out) (by simp)
      cases hplays with
      | @own _ j' _ _ log' _ rest' hrest =>
        cases rest' with
        | call q' k' => cases hrest
        | ret out' =>
          cases hrest
          refine ⟨_, _, run.snoc (.finish ha) trivial, ?_, sees, ?_⟩
          · rw [Pool.calls_append, same, hcalls]
            exact List.append_nil _
          · apply Part.Plays.set plays i
            rw [← p.mem_out out']
            exact .idle _
      | other hrest =>
        refine ⟨ls', c', run, same.trans hcalls.symm, sees, ?_⟩
        apply Part.Plays.stay plays
        rw [ha, ← show p.mem (N.mem out) = p.mem m from hrest]
        exact .idle _

end Pool

end Effects
