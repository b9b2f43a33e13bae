import ConfidentialIoT.Lib.Prog

/-!
# `Lib/Embed.lean` — a program as a part of a larger system

Two programs of different signatures that share a state run over one signature that has the calls
of both. An embedding renames a signature's calls into acts of the larger one, and translates
their answers there and back. What `wp` says about a program it says about the embedded one, read
through the renaming (`wp_embed`). Within one signature, a procedure that keeps nothing between
its calls runs inside one that does.
-/

set_option autoImplicit false

namespace Effects

variable {S T : Sig} {α β : Type}

/-- A program that starts with a history behind it. -/
theorem wp_behind {A : List (Event S) → Call S → Prop} {Q : List (Event S) → α → Prop}
    {p : Prog S α} (pre : List (Event S)) {tr : List (Event S)}
    (h : wp (fun tr c => A (pre ++ tr) c) p (fun tr a => Q (pre ++ tr) a) tr) :
    wp A p Q (pre ++ tr) := by
  induction p generalizing tr with
  | ret a => exact h
  | call c k ih =>
    refine ⟨h.1, ?_⟩
    intro r
    rw [List.append_assoc]
    exact ih r (h.2 r)

/-- Every call of `S` is an act of `T`, with the same answers. -/
structure Embedding (S T : Sig) where
  act : Call S → T.Act
  answer : (q : Call S) → q.Ans → T.Res (act q)
  back : (q : Call S) → T.Res (act q) → q.Ans
  answer_back : ∀ q r, answer q (back q r) = r

namespace Embedding

variable (φ : Embedding S T)

/-- An event, as the larger system sees it. -/
def event : Event S → Event T
  | .ok r b => .did (φ.act (.req r)) (φ.answer (.req r) (.ok b))
  | .refused r e => .did (φ.act (.req r)) (φ.answer (.req r) (.error e))
  | .did a b => .did (φ.act (.act a)) (φ.answer (.act a) b)

theorem event_of (q : Call S) (r : q.Ans) :
    φ.event (Event.of q r) = .did (φ.act q) (φ.answer q r) := by
  cases q with
  | act a => rfl
  | req r' => cases r <;> rfl

/-- A program, as a part. -/
def prog (φ : Embedding S T) : Prog S α → Prog T α
  | .ret a => .ret a
  | .call q k => .call (.act (φ.act q)) fun r => prog φ (k (φ.back q r))

@[simp] theorem prog_ret (a : α) : φ.prog (.ret a) = .ret a := rfl

variable {φ} {A : List (Event T) → Call T → Prop} {tr : List (Event S)}

/-- **What holds of a program holds of it as a part.** -/
theorem wp_embed {p : Prog S α} {Q : List (Event T) → α → Prop}
    (h : wp (fun tr q => A (tr.map φ.event) (.act (φ.act q))) p
      (fun tr a => Q (tr.map φ.event) a) tr) : wp A (φ.prog p) Q (tr.map φ.event) := by
  induction p generalizing tr with
  | ret a => exact h
  | call q k ih =>
    refine ⟨h.1, ?_⟩
    intro r
    have hnext := ih (φ.back q r) (h.2 (φ.back q r))
    rw [List.map_append, List.map_singleton, φ.event_of, φ.answer_back] at hnext
    exact hnext

/-- The same, from the beginning. -/
theorem wp_embed_nil {p : Prog S α} {Q : List (Event T) → α → Prop}
    (h : wp (fun tr q => A (tr.map φ.event) (.act (φ.act q))) p
      (fun tr a => Q (tr.map φ.event) a) []) : wp A (φ.prog p) Q [] :=
  wp_embed h

end Embedding

/-! ## Without a state of its own -/

section

variable {ε σ : Type} {A : List (Event S) → Call S → Prop} {s : σ} {tr : List (Event S)}

/-- A procedure without local state, called from one that has some. -/
def Proc.inside (p : Proc S ε Unit α) : Proc S ε σ α :=
  ExceptT.mk fun s => p.go () >>= fun r => .ret (r.1, s)

@[simp] theorem wpP_inside {p : Proc S ε Unit α} {Q : List (Event S) → σ → α → Prop}
    {E : List (Event S) → σ → ε → Prop} :
    wpP A p.inside Q E s tr ↔ wpP A p (fun tr _ a => Q tr s a) (fun tr _ e => E tr s e) () tr := by
  have hgo : p.inside.go s = p.go () >>= fun r => .ret (r.1, s) := rfl
  unfold wpP
  rw [hgo, wp_bind]
  exact Iff.rfl

@[simp] theorem Proc.go_inside (p : Proc S ε Unit α) :
    (p.inside : Proc S ε σ α).go s = p.go () >>= fun r => .ret (r.1, s) := rfl

theorem Proc.go_get : (get : Proc S ε σ σ).go s = .ret (.ok s, s) := rfl

theorem Proc.go_bind (p : Proc S ε σ β) (f : β → Proc S ε σ α) : (p >>= f).go s = p.go s >>= fun r =>
    match r.1 with | .ok a => (f a).go r.2 | .error e => .ret (.error e, r.2) := by
  refine congrArg (Prog.bind (p.go s)) (funext ?_)
  rintro ⟨e | a, s⟩ <;> rfl

end

/-- Two programs that differ in what they remember, taken apart at the same place. -/
theorem map_bind_eq {γ δ : Type} {p : Prog S α} {p' : Prog S β} {k : α → Prog S γ}
    {k' : β → Prog S δ} {f : α → β} {g : γ → δ} (hp : f <$> p = p')
    (hk : ∀ a, g <$> k a = k' (f a)) : g <$> (p >>= k) = p' >>= k' := by
  rw [← hp, map_bind, bind_map_left]
  exact congrArg (p >>= ·) (funext hk)

end Effects
