import ConfidentialIoT.Lib.Pool

/-!
# `Lib/Following.lean` — an agent's own history

An agent that does one job after the other has one history, across all of them. A job is specified
from the history it starts in to the one it ends in, with what the agent keeps in between
(`Run.follows`); what it asserts of its calls it asserts of the whole history (`Step.asserted`).
-/

set_option autoImplicit false

namespace Effects

variable {S : Sig} {α : Type}

/-- What complete executions have, a program has: what is said about their calls at its calls, and
what is said about their ends at its end. -/
theorem wp_of_completions (hans : ∀ q : Call S, Nonempty q.Ans) {A : List (Event S) → Call S → Prop}
    {Q : List (Event S) → α → Prop} {p : Prog S α} {tr : List (Event S)}
    (calls : ∀ before ev after a, Runs p (before ++ ev :: after) a → A (tr ++ before) ev.call)
    (ends : ∀ tr' a, Runs p tr' a → Q (tr ++ tr') a) : wp A p Q tr := by
  induction p generalizing tr with
  | ret a =>
    have hend := ends [] a (.refl _)
    rwa [List.append_nil] at hend
  | call q k ih =>
    refine ⟨?_, ?_⟩
    · obtain ⟨r⟩ := hans q
      obtain ⟨after, a, hruns⟩ := exists_completion hans (k r)
      have hcall := calls [] (Event.of q r) after a (.call r hruns)
      rwa [List.append_nil, Event.call_of] at hcall
    · intro r
      apply ih r
      · intro before ev after a hruns
        have hcall := calls (Event.of q r :: before) ev after a (.call r hruns)
        rwa [List.append_assoc, List.singleton_append]
      · intro tr' a hruns
        have hend := ends (Event.of q r :: tr') a (.call r hruns)
        rwa [List.append_assoc, List.singleton_append]

namespace Pool

variable {M : Machine S} {ι σ : Type} [DecidableEq ι] {R : ι → σ → Event S → σ → Prop}
  {P : Config M ι σ → Label M ι → Prop} {c₀ c c' : Config M ι σ} {ls : List (Label M ι)}
  {A : List (Event S) → Call S → Prop} {I : M.Mem → List (Event S) → Prop} {i : ι}

/-- Between two jobs, what it keeps fits its history; within one, what is left of the job leads
there. -/
def Follows (A : List (Event S) → Call S → Prop) (I : M.Mem → List (Event S) → Prop) :
    Agent M → List (Event S) → Prop
  | .idle mem, tr => I mem tr
  | .busy _ _ _ rest, tr => wp A rest (fun tr out => I (M.mem out) tr) tr

/-- **An agent follows its history**, if every job does. -/
theorem Run.follows (h : Run R P c₀ ls c) (init : Follows A I (c₀.agents i) [])
    (code : ∀ job mem tr, I mem tr → wp A (M.code job mem) (fun tr out => I (M.mem out) tr) tr) :
    Follows A I (c.agents i) (eventsOf i ls) := by
  refine h.invariant (I := fun ls c => Follows A I (c.agents i) (eventsOf i ls)) init ?_
  intro ls c l c' _ ih step _
  cases step with
  | @start j mem job hidle =>
    have hevents : eventsOf i (ls ++ [Label.started j job]) = eventsOf i ls := by simp [eventsOf]
    rw [hevents, Config.set_agents]
    by_cases hij : i = j
    · subst hij
      rw [hidle] at ih
      rw [if_pos rfl]
      exact code job mem _ ih
    · rw [if_neg hij]
      exact ih
  | @call j job mem log q k σ' r hbusy hR =>
    rw [Config.set_agents]
    by_cases hij : i = j
    · subst hij
      have hevents : eventsOf i (ls ++ [Label.did i (Event.of q r)]) =
          eventsOf i ls ++ [Event.of q r] := by simp [eventsOf]
      rw [hbusy] at ih
      rw [hevents, if_pos rfl]
      exact ih.2 r
    · have hevents : eventsOf i (ls ++ [Label.did j (Event.of q r)]) = eventsOf i ls := by
        simp [eventsOf, Ne.symm hij]
      rw [hevents, if_neg hij]
      exact ih
  | @finish j job mem log out hbusy =>
    have hevents : eventsOf i (ls ++ [Label.returned j job mem log out]) = eventsOf i ls := by
      simp [eventsOf]
    rw [hevents, Config.set_agents]
    by_cases hij : i = j
    · subst hij
      rw [hbusy] at ih
      rw [if_pos rfl]
      exact ih
    · rw [if_neg hij]
      exact ih

omit [DecidableEq ι] in
/-- A call that is made is one that was asserted. -/
theorem Follows.call {job : M.Job} {mem : M.Mem} {log tr : List (Event S)} {q : Call S}
    {k : q.Ans → Prog S M.Out} {a : Agent M} (h : Follows A I a tr)
    (hbusy : a = .busy job mem log (.call q k)) : A tr q := by
  subst hbusy
  exact h.1

/-- The same, from the step. -/
theorem Step.asserted {tr : List (Event S)} {ev : Event S} (step : Step R c (.did i ev) c')
    (h : Follows A I (c.agents i) tr) : A tr ev.call := by
  obtain ⟨job, mem, log, k, hbusy⟩ := step.of_did
  exact h.call hbusy

end Pool

end Effects
