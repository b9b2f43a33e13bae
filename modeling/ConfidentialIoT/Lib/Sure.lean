import ConfidentialIoT.Lib.Keeps

/-!
# `Lib/Sure.lean` — procedures that are given what they ask for

`Sure F p s Q`: as long as every answer satisfies `F`, the procedure does not fail, and what it
returns and leaves satisfies `Q`. That is what a procedure does for those who help it, as `wp` is
what it does for anybody. The history is gone from `Q`: what an answer says is known where the
answer is given.
-/

set_option autoImplicit false

namespace Effects

variable {S : Sig} {α β ε σ : Type} {F : Event S → Prop} {p : Proc S ε σ α} {s s' : σ} {a : α}
  {Q : σ → α → Prop} {tr : List (Event S)}

/-- Every answer is of a kind. -/
abbrev Fair (F : Event S → Prop) (tr : List (Event S)) : Prop := ∀ ev ∈ tr, F ev

theorem Fair.of_prefix {tr' : List (Event S)} (h : Fair F tr') (hpre : tr <+: tr') : Fair F tr :=
  fun ev hev => h ev (hpre.subset hev)

theorem fair_snoc {ev : Event S} : Fair F (tr ++ [ev]) ↔ Fair F tr ∧ F ev := by
  simp [Fair, or_imp, forall_and]

/-- With answers of the kind, the procedure returns. -/
structure Sure (F : Event S → Prop) (p : Proc S ε σ α) (s : σ) (Q : σ → α → Prop) : Prop where
  wpP : ∀ tr, wpP (fun _ _ => True) p (fun tr' s' a => Fair F tr' → Q s' a)
    (fun tr' _ _ => ¬ Fair F tr') s tr

/-- After an answer of another kind there is nothing to show. -/
theorem wpP_unfair (h : ¬ Fair F tr) :
    wpP (fun _ _ => True) p (fun tr' s' a => Fair F tr' → Q s' a) (fun tr' _ _ => ¬ Fair F tr')
      s tr := by
  have hany : wpP (fun _ _ => True) p (fun _ _ _ => True) (fun _ _ _ => True) s tr := by
    refine wp_trivial (fun _ _ => trivial) ?_
    rintro tr ⟨e | b, s⟩ <;> trivial
  refine wpP_use hany ?_ ?_
  · intro tr' _ _ hpre _ hfair
    exact absurd (hfair.of_prefix hpre) h
  · intro tr' _ _ hpre _ hfair
    exact h (hfair.of_prefix hpre)

namespace Sure

/-- What it is for. -/
theorem runs (h : Sure F p s Q) {r : Except ε α} (hruns : Runs (p.go s) tr (r, s'))
    (hfair : Fair F tr) : ∃ a, r = .ok a ∧ Q s' a := by
  have hpost := wp_runs hruns (h.wpP [])
  cases r with
  | error e => exact absurd hfair hpost
  | ok a => exact ⟨a, rfl, hpost hfair⟩

theorem ret (h : Q s a) : Sure F (pure a : Proc S ε σ α) s Q := ⟨fun _ _ => h⟩

theorem bind {f : α → Proc S ε σ β} {Q' : σ → β → Prop} (h : Sure F p s Q)
    (h' : ∀ s' a, Q s' a → Sure F (f a) s' Q') : Sure F (p >>= f) s Q' := by
  refine ⟨fun tr => wpP_seq (h.wpP tr) ?_ fun _ _ _ _ h => h⟩
  intro tr' s' a _ hret
  by_cases hfair : Fair F tr'
  · exact (h' s' a (hret hfair)).wpP tr'
  · exact wpP_unfair hfair

/-- A procedure that has one outcome. -/
theorem step {f : α → Proc S ε σ β} {Q' : σ → β → Prop}
    (h : Sure F p s fun s₁ b => b = a ∧ s₁ = s') (h' : Sure F (f a) s' Q') :
    Sure F (p >>= f) s Q' := by
  refine h.bind ?_
  rintro _ _ ⟨rfl, rfl⟩
  exact h'

/-- An action, whatever it is answered. -/
theorem act {q : S.Act} {f : S.Res q → Proc S ε σ α} (h : ∀ b, F (.did q b) → Sure F (f b) s Q) :
    Sure F (Proc.act q >>= f) s Q := by
  refine ⟨fun tr => wpP_bind.mpr (wpP_act.mpr ⟨trivial, fun b => ?_⟩)⟩
  by_cases hb : F (.did q b)
  · exact (h b hb).wpP _
  · exact wpP_unfair fun hfair => hb (fair_snoc.mp hfair).2

/-- A request that is not refused. -/
theorem request {q : S.Req} {f : S.Out q → Proc S S.Err σ α} (granted : ∀ e, ¬ F (.refused q e))
    (h : ∀ b, F (.ok q b) → Sure F (f b) s Q) : Sure F (Proc.attempt q >>= f) s Q := by
  refine ⟨fun tr => wpP_bind.mpr (wpP_attempt.mpr ⟨trivial, fun b => ?_, fun e hfair =>
    granted e (fair_snoc.mp hfair).2⟩)⟩
  by_cases hb : F (.ok q b)
  · exact (h b hb).wpP _
  · exact wpP_unfair fun hfair => hb (fair_snoc.mp hfair).2

theorem get {f : σ → Proc S ε σ α} (h : Sure F (f s) s Q) :
    Sure F ((get : Proc S ε σ σ) >>= f) s Q := ⟨h.wpP⟩

theorem modify {f : PUnit → Proc S ε σ α} {g : σ → σ} (h : Sure F (f ⟨⟩) (g s) Q) :
    Sure F ((modify g : Proc S ε σ PUnit) >>= f) s Q := ⟨h.wpP⟩

/-- A procedure at the end. -/
theorem tail (h : Sure F (p >>= pure) s Q) : Sure F p s Q := by
  rwa [bind_pure] at h

theorem cleanup {f : σ → σ} (h : Sure F p s fun s' a => Q (f s') a) : Sure F (p.cleanup f) s Q :=
  ⟨fun tr => wpP_cleanup.mpr (h.wpP tr)⟩

theorem failWith {e : ε} (h : Sure F p s Q) : Sure F (p.failWith e) s Q :=
  ⟨fun tr => wpP_failWith.mpr (h.wpP tr)⟩

end Sure

end Effects
