import ConfidentialIoT.Lib.Embed

/-!
# `Lib/Eval.lean` — a program on its own in front of a state machine

`Lib/Pool.lean` interleaves programs; here one program runs from call to return with nothing in
between. `EvalsP` is read from the program downwards: one equation for each way a procedure is
built, so that an evaluation is taken apart (and put together) along the source.
-/

set_option autoImplicit false

namespace Effects

variable {S : Sig} {α β ε σ τ : Type} {R : τ → Event S → τ → Prop}

/-- A history takes a machine from one state to another. -/
inductive Through (R : τ → Event S → τ → Prop) : τ → List (Event S) → τ → Prop where
  | nil (t : τ) : Through R t [] t
  | cons {t t₁ t' : τ} {ev : Event S} {tr : List (Event S)} (h : R t ev t₁)
      (rest : Through R t₁ tr t') : Through R t (ev :: tr) t'

theorem through_nil {t t' : τ} : Through R t [] t' ↔ t' = t := by
  constructor
  · intro h
    cases h
    rfl
  · rintro rfl
    exact .nil _

theorem through_cons {t t' : τ} {ev : Event S} {tr : List (Event S)} :
    Through R t (ev :: tr) t' ↔ ∃ t₁, R t ev t₁ ∧ Through R t₁ tr t' := by
  constructor
  · intro h
    cases h with
    | cons h rest => exact ⟨_, h, rest⟩
  · rintro ⟨t₁, h, rest⟩
    exact .cons h rest

theorem through_append {t t' : τ} {tr tr' : List (Event S)} :
    Through R t (tr ++ tr') t' ↔ ∃ t₁, Through R t tr t₁ ∧ Through R t₁ tr' t' := by
  induction tr generalizing t with
  | nil => simp [through_nil]
  | cons ev tr ih =>
    simp only [List.cons_append, through_cons, ih]
    constructor
    · rintro ⟨t₁, h, t₂, h', h''⟩
      exact ⟨t₂, ⟨t₁, h, h'⟩, h''⟩
    · rintro ⟨t₂, ⟨t₁, h, h'⟩, h''⟩
      exact ⟨t₁, h, t₂, h', h''⟩

/-- What every step keeps, a history keeps. -/
theorem Through.keeps {f : τ → β} {t t' : τ} {tr : List (Event S)} (h : Through R t tr t')
    (step : ∀ ev ∈ tr, ∀ t t', R t ev t' → f t' = f t) : f t' = f t := by
  induction h with
  | nil t => rfl
  | cons hstep _ ih =>
    rw [ih fun ev hev => step ev (List.mem_cons_of_mem _ hev)]
    exact step _ List.mem_cons_self _ _ hstep

theorem Through.mono {R' : τ → Event S → τ → Prop} {t t' : τ} {tr : List (Event S)}
    (h : Through R t tr t') (hR : ∀ t ev t', R t ev t' → R' t ev t') : Through R' t tr t' := by
  induction h with
  | nil t => exact .nil t
  | cons hstep _ ih => exact .cons (hR _ _ _ hstep) ih

/-- From the machine's state `t` the program makes the calls of `tr`, returns `a`, and leaves the
machine in `t'`. -/
structure Evals (R : τ → Event S → τ → Prop) (p : Prog S α) (t : τ) (tr : List (Event S)) (a : α)
    (t' : τ) : Prop where
  runs : Runs p tr a
  through : Through R t tr t'

theorem evals_ret {a b : α} {t t' : τ} {tr : List (Event S)} :
    Evals R (.ret a) t tr b t' ↔ tr = [] ∧ b = a ∧ t' = t := by
  constructor
  · rintro ⟨hruns, hthrough⟩
    cases hruns
    exact ⟨rfl, rfl, through_nil.mp hthrough⟩
  · rintro ⟨rfl, rfl, rfl⟩
    exact ⟨.refl _, .nil _⟩

theorem evals_call {c : Call S} {k : c.Ans → Prog S α} {b : α} {t t' : τ} {tr : List (Event S)} :
    Evals R (.call c k) t tr b t' ↔ ∃ r t₁ tr₁, tr = Event.of c r :: tr₁ ∧
      R t (Event.of c r) t₁ ∧ Evals R (k r) t₁ tr₁ b t' := by
  constructor
  · rintro ⟨hruns, hthrough⟩
    cases hruns with
    | call r hruns =>
      obtain ⟨t₁, h, hrest⟩ := through_cons.mp hthrough
      exact ⟨r, t₁, _, rfl, h, hruns, hrest⟩
  · rintro ⟨r, t₁, tr₁, rfl, h, hruns, hrest⟩
    exact ⟨.call r hruns, .cons h hrest⟩

theorem evals_bind {p : Prog S α} {f : α → Prog S β} {b : β} {t t' : τ} {tr : List (Event S)} :
    Evals R (p >>= f) t tr b t' ↔ ∃ a t₁ tr₁ tr₂, tr = tr₁ ++ tr₂ ∧ Evals R p t tr₁ a t₁ ∧
      Evals R (f a) t₁ tr₂ b t' := by
  constructor
  · rintro ⟨hruns, hthrough⟩
    obtain ⟨a, tr₁, tr₂, rfl, h₁, h₂⟩ := runs_bind hruns
    obtain ⟨t₁, hfirst, hthen⟩ := through_append.mp hthrough
    exact ⟨a, t₁, tr₁, tr₂, rfl, ⟨h₁, hfirst⟩, ⟨h₂, hthen⟩⟩
  · rintro ⟨a, t₁, tr₁, tr₂, rfl, h₁, h₂⟩
    exact ⟨h₁.runs.bind h₂.runs, through_append.mpr ⟨t₁, h₁.through, h₂.through⟩⟩

theorem evals_perform {a : S.Act} {b : S.Res a} {t t' : τ} {tr : List (Event S)} :
    Evals R (.perform a) t tr b t' ↔ tr = [.did a b] ∧ R t (.did a b) t' := by
  refine evals_call.trans ?_
  constructor
  · rintro ⟨r, t₁, tr₁, rfl, hstep, hret⟩
    obtain ⟨rfl, rfl, rfl⟩ := evals_ret.mp hret
    exact ⟨rfl, hstep⟩
  · rintro ⟨rfl, hstep⟩
    exact ⟨b, t', [], rfl, hstep, evals_ret.mpr ⟨rfl, rfl, rfl⟩⟩

/-! ## Programs that are cut off -/

/-- From `t` the program makes the calls of `tr`, and then no more: it may have returned, or
something stopped it. -/
structure CutOff (R : τ → Event S → τ → Prop) (p : Prog S α) (t : τ) (tr : List (Event S)) (t' : τ) :
    Prop where
  steps : ∃ q, Steps p tr q
  through : Through R t tr t'

theorem cutOff_ret {a : α} {t t' : τ} {tr : List (Event S)} (h : CutOff R (.ret a) t tr t') :
    tr = [] ∧ t' = t := by
  obtain ⟨⟨q, hsteps⟩, hthrough⟩ := h
  cases hsteps
  exact ⟨rfl, through_nil.mp hthrough⟩

theorem cutOff_call {c : Call S} {k : c.Ans → Prog S α} {t t' : τ} {tr : List (Event S)}
    (h : CutOff R (.call c k) t tr t') : (tr = [] ∧ t' = t) ∨ ∃ r t₁ tr₁, tr = Event.of c r :: tr₁ ∧
      R t (Event.of c r) t₁ ∧ CutOff R (k r) t₁ tr₁ t' := by
  obtain ⟨⟨q, hsteps⟩, hthrough⟩ := h
  cases hsteps with
  | refl _ => exact Or.inl ⟨rfl, through_nil.mp hthrough⟩
  | call r hsteps =>
    obtain ⟨t₁, hstep, hrest⟩ := through_cons.mp hthrough
    exact Or.inr ⟨r, t₁, _, rfl, hstep, ⟨_, hsteps⟩, hrest⟩

/-- Sequencing: the first part is cut off, or it returns and the rest is. -/
theorem cutOff_bind {p : Prog S α} {f : α → Prog S β} {t t' : τ} {tr : List (Event S)}
    (h : CutOff R (p >>= f) t tr t') : CutOff R p t tr t' ∨ ∃ a t₁ tr₁ tr₂, tr = tr₁ ++ tr₂ ∧
      Evals R p t tr₁ a t₁ ∧ CutOff R (f a) t₁ tr₂ t' := by
  induction p generalizing t tr with
  | ret a => exact Or.inr ⟨a, t, [], tr, rfl, evals_ret.mpr ⟨rfl, rfl, rfl⟩, h⟩
  | call c k ih =>
    rcases cutOff_call (k := fun r => k r >>= f) h with ⟨rfl, rfl⟩ | ⟨r, t₁, tr₁, rfl, hstep, hrest⟩
    · exact Or.inl ⟨⟨_, .refl _⟩, .nil _⟩
    rcases ih r hrest with ⟨⟨q, hsteps⟩, hthrough⟩ | ⟨a, t₂, tr₂, tr₃, rfl, hfirst, hthen⟩
    · exact Or.inl ⟨⟨q, .call r hsteps⟩, .cons hstep hthrough⟩
    · exact Or.inr ⟨a, t₂, _, tr₃, rfl, evals_call.mpr ⟨r, t₁, tr₂, rfl, hstep, hfirst⟩, hthen⟩

theorem cutOff_perform {a : S.Act} {t t' : τ} {tr : List (Event S)}
    (h : CutOff R (.perform a) t tr t') : (tr = [] ∧ t' = t) ∨ ∃ b, R t (.did a b) t' := by
  rcases cutOff_call h with hnone | ⟨b, t₁, tr₁, rfl, hstep, hret⟩
  · exact Or.inl hnone
  · obtain ⟨rfl, rfl⟩ := cutOff_ret hret
    exact Or.inr ⟨b, hstep⟩

/-! ## Against an environment -/

/-- Run a program against an environment with a state of its own. -/
def serve (env : τ → (c : Call S) → c.Ans × τ) : Prog S α → τ → List (Event S) × α × τ
  | .ret a, t => ([], a, t)
  | .call c k, t =>
    let r := env t c
    let rest := serve env (k r.1) r.2
    (Event.of c r.1 :: rest.1, rest.2)

theorem serve_runs (env : τ → (c : Call S) → c.Ans × τ) (p : Prog S α) (t : τ) :
    Runs p (serve env p t).1 (serve env p t).2.1 := by
  induction p generalizing t with
  | ret a => exact .refl _
  | call c k ih => exact .call _ (ih _ _)

/-- Such a run is an evaluation, if the answers it meets are the machine's. -/
theorem serve_evals {env : τ → (c : Call S) → c.Ans × τ} {ok : Event S → Bool}
    (henv : ∀ t c, ok (Event.of c (env t c).1) = true → R t (Event.of c (env t c).1) (env t c).2)
    {p : Prog S α} {t : τ} (hok : (serve env p t).1.all ok = true) :
    Evals R p t (serve env p t).1 (serve env p t).2.1 (serve env p t).2.2 := by
  induction p generalizing t with
  | ret a => exact evals_ret.mpr ⟨rfl, rfl, rfl⟩
  | call c k ih =>
    obtain ⟨hfirst, hrest⟩ := Bool.and_eq_true_iff.mp hok
    exact evals_call.mpr ⟨_, _, _, rfl, henv t c hfirst, ih _ hrest⟩

/-- What every answer of the environment satisfies, every event of the run does. -/
theorem serve_forall {env : τ → (c : Call S) → c.Ans × τ} {P : Event S → Prop}
    (h : ∀ t c, P (Event.of c (env t c).1)) {p : Prog S α} {t : τ} :
    ∀ ev ∈ (serve env p t).1, P ev := by
  induction p generalizing t with
  | ret a => exact nofun
  | call c k ih =>
    intro ev hev
    rcases List.mem_cons.mp hev with rfl | hev
    · exact h t c
    · exact ih _ ev hev

/-! ## Procedures -/

/-- The same of a procedure, from the local state `s` to `s'`. -/
abbrev EvalsP (R : τ → Event S → τ → Prop) (p : Proc S ε σ α) (s : σ) (t : τ)
    (tr : List (Event S)) (r : Except ε α) (s' : σ) (t' : τ) : Prop :=
  Evals R (p.go s) t tr (r, s') t'

section

variable {s s' : σ} {t t' : τ} {tr : List (Event S)} {r : Except ε α}

theorem evalsP_pure {a : α} : EvalsP R (pure a : Proc S ε σ α) s t tr r s' t' ↔
    tr = [] ∧ r = .ok a ∧ s' = s ∧ t' = t := by
  refine evals_ret.trans ?_
  simp [Prod.ext_iff, and_assoc]

theorem evalsP_throw {e : ε} : EvalsP R (throw e : Proc S ε σ α) s t tr r s' t' ↔
    tr = [] ∧ r = .error e ∧ s' = s ∧ t' = t := by
  refine evals_ret.trans ?_
  simp [Prod.ext_iff, and_assoc]

theorem evalsP_ofOutcome {x : Except ε α} :
    EvalsP R (Proc.ofOutcome x : Proc S ε σ α) s t tr r s' t' ↔
      tr = [] ∧ r = x ∧ s' = s ∧ t' = t := by
  cases x with
  | ok a => exact evalsP_pure
  | error e => exact evalsP_throw

theorem evalsP_act {a : S.Act} {r : Except ε (S.Res a)} :
    EvalsP R (.act a : Proc S ε σ _) s t tr r s' t' ↔
      ∃ b, tr = [.did a b] ∧ r = .ok b ∧ s' = s ∧ R t (.did a b) t' := by
  refine evals_call.trans ?_
  constructor
  · rintro ⟨b, t₁, tr₁, rfl, hstep, hret⟩
    obtain ⟨rfl, hout, rfl⟩ := evals_ret.mp hret
    cases hout
    exact ⟨b, rfl, rfl, rfl, hstep⟩
  · rintro ⟨b, rfl, rfl, rfl, hstep⟩
    exact ⟨b, t', [], rfl, hstep, evals_ret.mpr ⟨rfl, rfl, rfl⟩⟩

/-- Making a request. -/
theorem evalsP_attempt {a : S.Req} {r : Except S.Err (S.Out a)} :
    EvalsP R (.attempt a : Proc S S.Err σ _) s t tr r s' t' ↔
      tr = [Event.of (.req a) r] ∧ s' = s ∧ R t (Event.of (.req a) r) t' := by
  refine evals_call.trans ?_
  constructor
  · rintro ⟨b, t₁, tr₁, rfl, hstep, hret⟩
    obtain ⟨rfl, hout, rfl⟩ := evals_ret.mp hret
    cases hout
    exact ⟨rfl, rfl, hstep⟩
  · rintro ⟨rfl, rfl, hstep⟩
    exact ⟨r, t', [], rfl, hstep, evals_ret.mpr ⟨rfl, rfl, rfl⟩⟩

/-- The outcome of a procedure, whichever it is. -/
theorem evalsP_outcome {p : Proc S ε σ α} {r : Except ε (Except ε α)} :
    EvalsP R p.outcome s t tr r s' t' ↔ ∃ x, r = .ok x ∧ EvalsP R p s t tr x s' t' := by
  have hgo : p.outcome.go s = p.go s >>= fun r => .ret (.ok r.1, r.2) := rfl
  unfold EvalsP
  rw [hgo, evals_bind]
  constructor
  · rintro ⟨⟨x, s₁⟩, t₁, tr₁, tr₂, rfl, hfirst, hthen⟩
    obtain ⟨rfl, hout, rfl⟩ := evals_ret.mp hthen
    cases hout
    exact ⟨x, rfl, by rwa [List.append_nil]⟩
  · rintro ⟨x, rfl, hfirst⟩
    exact ⟨_, t', tr, [], (List.append_nil tr).symm, hfirst, evals_ret.mpr ⟨rfl, rfl, rfl⟩⟩

theorem evalsP_get {r : Except ε σ} :
    EvalsP R (get : Proc S ε σ σ) s t tr r s' t' ↔ tr = [] ∧ r = .ok s ∧ s' = s ∧ t' = t := by
  refine evals_ret.trans ?_
  simp [Prod.ext_iff, and_assoc]

/-- An execution that starts with an action. -/
theorem runs_act {a : S.Act} {b : S.Res a} {f : S.Res a → Proc S ε σ α} {out : Except ε α × σ}
    (h : Runs ((f b).go s) tr out) : Runs ((Proc.act a >>= f).go s) (.did a b :: tr) out := by
  refine Steps.call (c := .act a) b ?_
  exact h

theorem runs_of_act {a : S.Act} {b : S.Res a} {f : S.Res a → Proc S ε σ α}
    {out : Except ε α × σ} (h : Runs ((Proc.act a >>= f).go s) (.did a b :: tr) out) :
    Runs ((f b).go s) tr out := by
  obtain ⟨c, k, answer, hcall, hev, hrest⟩ := steps_cons h
  cases hcall
  cases hev
  exact hrest

/-- Sequencing: the first part raises, or hands its value on. -/
theorem evalsP_bind {p : Proc S ε σ β} {f : β → Proc S ε σ α} :
    EvalsP R (p >>= f) s t tr r s' t' ↔
      (∃ e, r = .error e ∧ EvalsP R p s t tr (.error e) s' t') ∨
      ∃ b s₁ t₁ tr₁ tr₂, tr = tr₁ ++ tr₂ ∧ EvalsP R p s t tr₁ (.ok b) s₁ t₁ ∧
        EvalsP R (f b) s₁ t₁ tr₂ r s' t' := by
  unfold EvalsP
  rw [Proc.go_bind, evals_bind]
  constructor
  · rintro ⟨⟨e | b, s₁⟩, t₁, tr₁, tr₂, rfl, hfirst, hthen⟩
    · obtain ⟨rfl, hout, rfl⟩ := evals_ret.mp hthen
      cases hout
      exact Or.inl ⟨e, rfl, by rwa [List.append_nil]⟩
    · exact Or.inr ⟨b, s₁, t₁, tr₁, tr₂, rfl, hfirst, hthen⟩
  · rintro (⟨e, rfl, hfirst⟩ | ⟨b, s₁, t₁, tr₁, tr₂, rfl, hfirst, hthen⟩)
    · exact ⟨_, t', tr, [], (List.append_nil tr).symm, hfirst, evals_ret.mpr ⟨rfl, rfl, rfl⟩⟩
    · exact ⟨_, t₁, tr₁, tr₂, rfl, hfirst, hthen⟩

/-- What a weakest precondition promises, an evaluation keeps. -/
theorem EvalsP.sound {A : List (Event S) → Call S → Prop} {p : Proc S ε σ α}
    {Q : List (Event S) → σ → α → Prop} {E : List (Event S) → σ → ε → Prop}
    (h : EvalsP R p s t tr r s' t') (hw : wpP A p Q E s []) :
    match r with | .ok a => Q tr s' a | .error e => E tr s' e := by
  have hpost := wp_runs h.runs hw
  cases r with
  | ok a => exact hpost
  | error e => exact hpost

end

end Effects
