import ConfidentialIoT.Lib.Prog

/-!
# `Lib/Keeps.lean` — what a procedure leaves alone

`Keeps A f p`: every call `p` makes satisfies `A`, and on both ways out the part `f` of the
local state is what it was. A helper that only talks to its environment keeps all of it
(`f := id`); a caller then walks past such a helper with `Keeps.bind` instead of unfolding it.

The history is never rewritten either: `wp_grows` puts the old history in front of the new one
for every program, so a caller that remembers an event before the helper still has it after.
-/

set_option autoImplicit false

namespace Effects

variable {S : Sig} {α β γ ε σ : Type} {A : List (Event S) → Call S → Prop}
  {tr : List (Event S)}

/-- The history only grows. -/
theorem wp_grows {p : Prog S α} {Q : List (Event S) → α → Prop} (h : wp A p Q tr) :
    wp A p (fun tr' a => tr <+: tr' ∧ Q tr' a) tr := by
  induction p generalizing tr with
  | ret a => exact ⟨List.prefix_rfl, h⟩
  | call c k ih =>
    refine ⟨h.1, ?_⟩
    intro r
    refine wp_conseq (ih r (h.2 r)) ?_
    intro tr' a h'
    exact ⟨(List.prefix_append _ _).trans h'.1, h'.2⟩

/-- The rule of consequence a caller uses on a helper's specification: the old history is in
front of the new one. -/
theorem wpP_use {p : Proc S ε σ α} {Q Q' : List (Event S) → σ → α → Prop}
    {E E' : List (Event S) → σ → ε → Prop} {s : σ} (h : wpP A p Q' E' s tr)
    (ok : ∀ tr' s' a, tr <+: tr' → Q' tr' s' a → Q tr' s' a)
    (err : ∀ tr' s' e, tr <+: tr' → E' tr' s' e → E tr' s' e) : wpP A p Q E s tr := by
  refine wp_conseq (wp_grows h) ?_
  intro tr' r h'
  obtain ⟨r, s'⟩ := r
  cases r with
  | ok a => exact ok tr' s' a h'.1 h'.2
  | error e => exact err tr' s' e h'.1 h'.2

/-- The same in front of a continuation. -/
theorem wpP_seq {p : Proc S ε σ α} {k : α → Proc S ε σ β}
    {Q : List (Event S) → σ → β → Prop} {Q' : List (Event S) → σ → α → Prop}
    {E E' : List (Event S) → σ → ε → Prop} {s : σ} (h : wpP A p Q' E' s tr)
    (ok : ∀ tr' s' a, tr <+: tr' → Q' tr' s' a → wpP A (k a) Q E s' tr')
    (err : ∀ tr' s' e, tr <+: tr' → E' tr' s' e → E tr' s' e) : wpP A (p >>= k) Q E s tr :=
  wpP_bind.mpr (wpP_use h ok err)

/-- A procedure whose calls preserve an invariant of the history has it on both ways out. -/
theorem wpP_invariant {I : List (Event S) → Prop} {p : Proc S ε σ α}
    {Q : List (Event S) → σ → α → Prop} {E : List (Event S) → σ → ε → Prop} {s : σ}
    (hA : ∀ tr c, A tr c → Preserves I tr c) (hI : I tr) (h : wpP A p Q E s tr) :
    wpP A p (fun tr' s' a => I tr' ∧ Q tr' s' a) (fun tr' s' e => I tr' ∧ E tr' s' e) s tr := by
  refine wp_conseq (wp_invariant hA hI h) ?_
  intro tr' r h'
  obtain ⟨r, s'⟩ := r
  cases r with
  | ok a => exact h'
  | error e => exact h'

/-- `p` asserts `A` and leaves the part `f` of its local state alone, however it ends. -/
def Keeps (A : List (Event S) → Call S → Prop) (f : σ → γ) (p : Proc S ε σ α) : Prop :=
  ∀ s tr, wpP A p (fun _ s' _ => f s' = f s) (fun _ s' _ => f s' = f s) s tr

namespace Keeps

variable {f : σ → γ} {p : Proc S ε σ α} {k : α → Proc S ε σ β}

/-- Less is kept when less is looked at. -/
theorem comp {δ : Type} (h : Keeps A f p) (g : γ → δ) : Keeps A (fun s => g (f s)) p := by
  intro s tr
  refine wpP_conseq (h s tr) ?_ ?_
  · intro _ _ _ heq
    exact congrArg g heq
  · intro _ _ _ heq
    exact congrArg g heq

/-- The rule a caller uses: the helper's outcome, with the kept part and the old history. -/
theorem wpP {Q : List (Event S) → σ → α → Prop} {E : List (Event S) → σ → ε → Prop} {s : σ}
    (h : Keeps A f p) (ok : ∀ tr' s' a, tr <+: tr' → f s' = f s → Q tr' s' a)
    (err : ∀ tr' s' e, tr <+: tr' → f s' = f s → E tr' s' e) : Effects.wpP A p Q E s tr :=
  wpP_use (h s tr) ok err

/-- The same in front of a continuation. -/
theorem bind {Q : List (Event S) → σ → β → Prop} {E : List (Event S) → σ → ε → Prop} {s : σ}
    (h : Keeps A f p)
    (ok : ∀ tr' s' a, tr <+: tr' → f s' = f s → Effects.wpP A (k a) Q E s' tr')
    (err : ∀ tr' s' e, tr <+: tr' → f s' = f s → E tr' s' e) :
    Effects.wpP A (p >>= k) Q E s tr :=
  wpP_seq (h s tr) ok err

end Keeps

end Effects
