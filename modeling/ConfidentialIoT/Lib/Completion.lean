import ConfidentialIoT.Lib.Pool

/-!
# `Lib/Completion.lean` — the calls of unfinished jobs

A program that can be answered comes to an end, so whatever an unfinished job has done, some
complete execution of the job does. What is known of complete executions, as a postcondition, then
says something about each call of a run: what led to it, and what it was for.
-/

set_option autoImplicit false

namespace Effects

namespace Pool

variable {S : Sig} {M : Machine S} {ι σ : Type} [DecidableEq ι]
  {R : ι → σ → Event S → σ → Prop} {P : Config M ι σ → Label M ι → Prop}
  {c₀ c : Config M ι σ} {ls : List (Label M ι)}

/-- **A call of a run is a call of a complete execution**: of the job that its agent had started
last, after what the agent had done in it. -/
theorem Run.completes (hans : ∀ q : Call S, Nonempty q.Ans) (h : Run R P c₀ ls c) (quiet : c₀.Quiet)
    {i : ι} {ev : Event S} {pre : List (Label M ι)} (hpre : pre ++ [.did i ev] <+: ls) :
    ∃ job m before mid after out, pre = before ++ .started i job :: mid ∧ NoStart i mid ∧
      Runs (M.code job m) (eventsOf i mid ++ ev :: after) out := by
  obtain ⟨c₁, c₂, post, -, run, step, admitted, -⟩ := h.cut hpre
  obtain ⟨job, m, log, k, hbusy⟩ := step.of_did
  obtain ⟨before, mid, hsplit, hmid, rfl⟩ := run.since_started quiet hbusy
  obtain ⟨rest, hbusy'⟩ := step.did_agent hbusy
  have hsteps := ((run.snoc step admitted).logs quiet).1 _ _ _ _ _ hbusy'
  obtain ⟨after, out, hruns⟩ := exists_completion hans rest
  refine ⟨job, m, before, mid, after, out, hsplit, hmid, ?_⟩
  have htrans := hsteps.trans hruns
  rwa [List.append_assoc] at htrans

end Pool

end Effects
