import Mathlib.Data.List.Basic
import Mathlib.Tactic.Common

/-!
# `Lib/Prog.lean` — programs over a signature of calls, and their partial executions

A program that talks to an environment is a tree: it returns, or it makes a call and
continues with whatever the environment answers. Nothing here says what a call *does*; the
same program is run against a hostile environment (every answer allowed), against a state
machine (`Lib/Pool.lean`), or against a scripted one (`exec`, for concrete executions).

A signature splits its calls in two. A **request** may be refused, with an error of the
signature's own type; an **action** always gets an answer. The split is what keeps an
ill-formed answer unbuildable: there is no "error whose code is success".

Three notions, and the two theorems that connect them:

* `Steps p tr q` — `p`, after the events `tr`, is at the residual program `q`;
* `Runs p tr a` — the execution is complete and returned `a`;
* `wp A p Q tr` — the weakest precondition: along every execution from `p`, after the
  history `tr`, every call satisfies the assertion `A` *at the time it is made* and every
  returned value satisfies `Q`.

`wp_runs` and `wp_asserts` read a `wp` fact off a complete execution and off an unfinished
one. A program is a finite tree, so it always returns (`exists_completion`): nothing below is
about a program that never finishes.
-/

set_option autoImplicit false

namespace Effects

/-- A signature: requests with their answers and a type of refusals, actions with theirs. -/
structure Sig where
  Err : Type
  Req : Type
  Out : Req → Type
  Act : Type
  Res : Act → Type

/-- What a program asks of its environment. -/
inductive Call (S : Sig) where
  | req (r : S.Req)
  | act (a : S.Act)

/-- The answers to one call. -/
@[reducible] def Call.Ans {S : Sig} : Call S → Type
  | .req r => Except S.Err (S.Out r)
  | .act a => S.Res a

/-- A call together with its answer: one entry of an execution's history. -/
inductive Event (S : Sig) where
  | ok (r : S.Req) (b : S.Out r)
  | refused (r : S.Req) (e : S.Err)
  | did (a : S.Act) (b : S.Res a)

/-- The history entry a call and its answer make. -/
def Event.of {S : Sig} : (c : Call S) → c.Ans → Event S
  | .req r, .ok b => .ok r b
  | .req r, .error e => .refused r e
  | .act a, b => .did a b

/-- The call an event answers. -/
def Event.call {S : Sig} : Event S → Call S
  | .ok r _ => .req r
  | .refused r _ => .req r
  | .did a _ => .act a

@[simp] theorem Event.call_of {S : Sig} (c : Call S) (r : c.Ans) : (Event.of c r).call = c := by
  cases c with
  | req r' => cases r <;> rfl
  | act a => rfl

/-- A program: a tree of calls, branching on the answers. -/
inductive Prog (S : Sig) (α : Type) : Type where
  | ret (a : α)
  | call (c : Call S) (k : c.Ans → Prog S α)

variable {S : Sig} {α β γ : Type}

namespace Prog

/-- Sequencing: graft the continuation at every leaf. -/
def bind : Prog S α → (α → Prog S β) → Prog S β
  | .ret a, f => f a
  | .call c k, f => .call c fun r => (k r).bind f

instance : Monad (Prog S) where
  pure := .ret
  bind := Prog.bind

@[simp] theorem pure_eq (a : α) : (pure a : Prog S α) = .ret a := rfl

@[simp] theorem ret_bind (a : α) (f : α → Prog S β) : (Prog.ret a >>= f) = f a := rfl

@[simp] theorem call_bind (c : Call S) (k : c.Ans → Prog S α) (f : α → Prog S β) :
    (Prog.call c k >>= f) = .call c fun r => k r >>= f := rfl

theorem bind_ret (p : Prog S α) : p.bind .ret = p := by
  induction p with
  | ret a => rfl
  | call c k ih => exact congrArg (Prog.call c) (funext ih)

theorem bind_assoc' (p : Prog S α) (f : α → Prog S β) (g : β → Prog S γ) :
    (p.bind f).bind g = p.bind fun a => (f a).bind g := by
  induction p with
  | ret a => rfl
  | call c k ih => exact congrArg (Prog.call c) (funext ih)

instance : LawfulMonad (Prog S) :=
  LawfulMonad.mk' _ bind_ret (fun _ _ => rfl) bind_assoc'

/-- Make a request and return its answer, refusals included. -/
def ask (r : S.Req) : Prog S (Except S.Err (S.Out r)) := .call (.req r) .ret

/-- Perform an action and return its answer. -/
def perform (a : S.Act) : Prog S (S.Res a) := .call (.act a) .ret

end Prog

/-! ## Executions -/

/-- `Steps p tr q`: from `p`, the environment's answers in `tr` lead to the residual `q`. -/
inductive Steps : Prog S α → List (Event S) → Prog S α → Prop where
  | refl (p : Prog S α) : Steps p [] p
  | call {c : Call S} {k : c.Ans → Prog S α} {tr : List (Event S)} {q : Prog S α}
      (r : c.Ans) (h : Steps (k r) tr q) : Steps (.call c k) (Event.of c r :: tr) q

/-- A complete execution: the program returned `a`. -/
abbrev Runs (p : Prog S α) (tr : List (Event S)) (a : α) : Prop := Steps p tr (.ret a)

theorem Steps.trans {p q r : Prog S α} {tr tr' : List (Event S)} (h : Steps p tr q)
    (h' : Steps q tr' r) : Steps p (tr ++ tr') r := by
  induction h with
  | refl p => exact h'
  | call r _ ih => exact .call r (ih h')

/-- One more answer at the end of an execution. -/
theorem Steps.snoc {p : Prog S α} {c : Call S} {k : c.Ans → Prog S α} {tr : List (Event S)}
    (h : Steps p tr (.call c k)) (r : c.Ans) : Steps p (tr ++ [Event.of c r]) (k r) :=
  h.trans (.call r (.refl _))

/-- An execution that has a first event started at a call. -/
theorem steps_cons {p q : Prog S α} {ev : Event S} {tr : List (Event S)}
    (h : Steps p (ev :: tr) q) :
    ∃ c k r, p = .call c k ∧ ev = Event.of c r ∧ Steps (k r) tr q := by
  generalize hl : ev :: tr = l at h
  cases h with
  | refl p => cases hl
  | call r h =>
    obtain ⟨rfl, rfl⟩ := List.cons.inj hl
    exact ⟨_, _, r, rfl, rfl, h⟩

/-- An execution can be cut anywhere. -/
theorem steps_take {p q : Prog S α} {tr : List (Event S)} (h : Steps p tr q) (n : Nat) :
    ∃ r, Steps p (tr.take n) r := by
  induction h generalizing n with
  | refl p => exact ⟨p, by rw [List.take_nil]; exact .refl p⟩
  | @call c k tr q r _ ih =>
    cases n with
    | zero => exact ⟨_, .refl _⟩
    | succ n =>
      obtain ⟨r', h'⟩ := ih n
      exact ⟨r', .call r h'⟩

/-- A complete execution of a sequence splits at the first program's return. -/
theorem runs_bind {p : Prog S α} {f : α → Prog S β} {tr : List (Event S)} {b : β} :
    Runs (p >>= f) tr b → ∃ a tr₁ tr₂, tr = tr₁ ++ tr₂ ∧ Runs p tr₁ a ∧ Runs (f a) tr₂ b := by
  induction p generalizing tr with
  | ret a => exact fun h => ⟨a, [], tr, rfl, .refl _, h⟩
  | call c k ih =>
    intro h
    cases h with
    | call r h =>
      obtain ⟨a, tr₁, tr₂, rfl, h₁, h₂⟩ := ih r h
      exact ⟨a, _, tr₂, rfl, .call r h₁, h₂⟩

/-- The converse: two complete executions in sequence are one. -/
theorem Steps.bind {p : Prog S α} {f : α → Prog S β} {tr tr' : List (Event S)} {a : α}
    {q : Prog S β} (h : Runs p tr a) (h' : Steps (f a) tr' q) :
    Steps (p >>= f) (tr ++ tr') q := by
  induction p generalizing tr with
  | ret b => cases h; exact h'
  | call c k ih =>
    cases h with
    | call r h => exact .call r (ih r h)

/-- **Every program returns.** Wherever an execution stands, some answers finish it. -/
theorem exists_completion (hans : ∀ c : Call S, Nonempty c.Ans) (p : Prog S α) :
    ∃ tr a, Runs p tr a := by
  induction p with
  | ret a => exact ⟨[], a, .refl _⟩
  | call c k ih =>
    obtain ⟨r⟩ := hans c
    obtain ⟨tr, a, h⟩ := ih r
    exact ⟨_, a, .call r h⟩

/-! ## Weakest preconditions -/

/-- Every call made from here satisfies `A` against the history at that time, and every
returned value satisfies `Q` against the whole history. -/
def wp (A : List (Event S) → Call S → Prop) :
    Prog S α → (List (Event S) → α → Prop) → List (Event S) → Prop
  | .ret a, Q, tr => Q tr a
  | .call c k, Q, tr => A tr c ∧ ∀ r, wp A (k r) Q (tr ++ [Event.of c r])

variable {A : List (Event S) → Call S → Prop} {tr : List (Event S)}

@[simp] theorem wp_ret {a : α} {Q : List (Event S) → α → Prop} :
    wp A (.ret a) Q tr ↔ Q tr a := Iff.rfl

@[simp] theorem wp_pure {a : α} {Q : List (Event S) → α → Prop} :
    wp A (pure a) Q tr ↔ Q tr a := Iff.rfl

@[simp] theorem wp_bind {p : Prog S α} {f : α → Prog S β} {Q : List (Event S) → β → Prop} :
    wp A (p >>= f) Q tr ↔ wp A p (fun tr a => wp A (f a) Q tr) tr := by
  induction p generalizing tr with
  | ret a => exact Iff.rfl
  | call c k ih => exact and_congr_right fun _ => forall_congr' fun r => ih r

/-- The answers to a request, granted or refused. -/
@[simp] theorem wp_ask {r : S.Req} {Q : List (Event S) → Except S.Err (S.Out r) → Prop} :
    wp A (.ask r) Q tr ↔ A tr (.req r) ∧
      (∀ b, Q (tr ++ [.ok r b]) (.ok b)) ∧ ∀ e, Q (tr ++ [.refused r e]) (.error e) := by
  refine and_congr_right fun _ => ⟨fun h => ⟨fun b => h (.ok b), fun e => h (.error e)⟩, ?_⟩
  rintro ⟨hok, herr⟩ (e | b)
  · exact herr e
  · exact hok b

@[simp] theorem wp_perform {a : S.Act} {Q : List (Event S) → S.Res a → Prop} :
    wp A (.perform a) Q tr ↔ A tr (.act a) ∧ ∀ b, Q (tr ++ [.did a b]) b := Iff.rfl

/-- Consequence: weaken the assertion and the postcondition. -/
theorem wp_mono {A' : List (Event S) → Call S → Prop} {p : Prog S α}
    {Q Q' : List (Event S) → α → Prop} (hA : ∀ tr c, A tr c → A' tr c)
    (hQ : ∀ tr a, Q tr a → Q' tr a) (h : wp A p Q tr) : wp A' p Q' tr := by
  induction p generalizing tr with
  | ret a => exact hQ tr a h
  | call c k ih => exact ⟨hA tr c h.1, fun r => ih r (h.2 r)⟩

/-- Consequence in the postcondition alone. -/
theorem wp_conseq {p : Prog S α} {Q Q' : List (Event S) → α → Prop} (h : wp A p Q tr)
    (hQ : ∀ tr a, Q tr a → Q' tr a) : wp A p Q' tr :=
  wp_mono (fun _ _ h => h) hQ h

/-- Equivalent postconditions give equivalent preconditions. -/
theorem wp_congr {p : Prog S α} {Q Q' : List (Event S) → α → Prop}
    (hQ : ∀ tr a, Q tr a ↔ Q' tr a) : wp A p Q tr ↔ wp A p Q' tr :=
  ⟨fun h => wp_conseq h fun tr a => (hQ tr a).mp, fun h => wp_conseq h fun tr a => (hQ tr a).mpr⟩

/-- With no assertion and no postcondition there is nothing to show. -/
theorem wp_trivial {p : Prog S α} {Q : List (Event S) → α → Prop} (hA : ∀ tr c, A tr c)
    (hQ : ∀ tr a, Q tr a) : wp A p Q tr := by
  induction p generalizing tr with
  | ret a => exact hQ tr a
  | call c k ih => exact ⟨hA tr c, fun r => ih r⟩

/-- What holds of every event of every complete execution holds of every answer to every call:
whatever an unfinished execution has done, a complete one does. -/
theorem wp_of_runs (hans : ∀ c : Call S, Nonempty c.Ans) {F : Event S → Prop} {p : Prog S α}
    (h : ∀ tr' a, Runs p tr' a → ∀ ev ∈ tr', F ev) :
    wp (fun _ c => ∀ r, F (Event.of c r)) p (fun _ _ => True) tr := by
  induction p generalizing tr with
  | ret a => trivial
  | call c k ih =>
    refine ⟨?_, fun r => ih r fun tr' a hrun ev hev => ?_⟩
    · intro r
      obtain ⟨tr', a, hrun⟩ := exists_completion hans (k r)
      exact h _ a (.call r hrun) _ List.mem_cons_self
    · exact h _ a (.call r hrun) ev (List.mem_cons_of_mem _ hev)

/-- A weakest precondition travels along an execution. -/
theorem wp_steps {p q : Prog S α} {tr tr' : List (Event S)} {Q : List (Event S) → α → Prop}
    (h : Steps p tr' q) (hw : wp A p Q tr) : wp A q Q (tr ++ tr') := by
  induction h generalizing tr with
  | refl p => simpa using hw
  | call r _ ih => simpa using ih (hw.2 r)

/-- Soundness, at the end of an execution. -/
theorem wp_runs {p : Prog S α} {a : α} {Q : List (Event S) → α → Prop} (h : Runs p tr a)
    (hw : wp A p Q []) : Q tr a := by
  simpa using wp_steps h hw

/-- Soundness, in the middle of one: the assertion held when the call was made. -/
theorem wp_asserts {p : Prog S α} {c : Call S} {k : c.Ans → Prog S α}
    {Q : List (Event S) → α → Prop} (h : Steps p tr (.call c k)) (hw : wp A p Q []) :
    A tr c := by
  simpa using (wp_steps h hw).1

/-- The same, read off the history: every event of it was asserted when its call was made. -/
theorem wp_asserts_mem {p q : Prog S α} {pre post : List (Event S)} {ev : Event S}
    {Q : List (Event S) → α → Prop} {tr₀ : List (Event S)} (h : Steps p (pre ++ ev :: post) q)
    (hw : wp A p Q tr₀) : A (tr₀ ++ pre) ev.call := by
  induction pre generalizing p tr₀ with
  | nil =>
    obtain ⟨c, k, r, rfl, rfl, -⟩ := steps_cons h
    simpa using hw.1
  | cons e pre ih =>
    obtain ⟨c, k, r, rfl, rfl, h'⟩ := steps_cons h
    simpa using ih h' (hw.2 r)

/-- The assertion that a call, however it is answered, preserves a property of the history. -/
def Preserves (I : List (Event S) → Prop) (tr : List (Event S)) (c : Call S) : Prop :=
  I tr → ∀ r, I (tr ++ [Event.of c r])

/-- What every call preserves holds of the history of every execution, finished or not. -/
theorem steps_invariant {I : List (Event S) → Prop} {p q : Prog S α} {tr tr' : List (Event S)}
    {Q : List (Event S) → α → Prop} (h : Steps p tr' q) (hw : wp (Preserves I) p Q tr)
    (hI : I tr) : I (tr ++ tr') := by
  induction h generalizing tr with
  | refl p => simpa using hI
  | call r _ ih => simpa using ih (hw.2 r) (hw.1 hI r)

/-- The same, seen from the end of the program. -/
theorem wp_invariant {I : List (Event S) → Prop} {p : Prog S α} {Q : List (Event S) → α → Prop}
    (hA : ∀ tr c, A tr c → Preserves I tr c) (hI : I tr) (h : wp A p Q tr) :
    wp A p (fun tr' a => I tr' ∧ Q tr' a) tr := by
  induction p generalizing tr with
  | ret a => exact ⟨hI, h⟩
  | call c k ih => exact ⟨h.1, fun r => ih r (hA tr c h.1 hI r) (h.2 r)⟩

/-- No assertion: the weakest precondition of the returned value alone. -/
abbrev post (p : Prog S α) (Q : List (Event S) → α → Prop) (tr : List (Event S)) : Prop :=
  wp (fun _ _ => True) p Q tr

/-! ## Procedures

A procedure is a program with local state of type `σ` that may stop with an error of type `ε`:
a C function over its session struct that returns an error code, a Python method that raises.
The state survives the error, as it does in the source. The weakest precondition takes the
two ways out separately. -/

/-- A program with local state that returns a value or stops with an error. -/
abbrev Proc (S : Sig) (ε σ α : Type) : Type := ExceptT ε (StateT σ (Prog S)) α

variable {ε σ : Type}

namespace Proc

/-- Run a procedure from a local state. -/
def go (p : Proc S ε σ α) (s : σ) : Prog S (Except ε α × σ) := p.run s

/-- Perform an action of the signature. -/
def act (a : S.Act) : Proc S ε σ (S.Res a) :=
  ExceptT.mk fun s => .call (.act a) fun b => .ret (.ok b, s)

/-- Make a request; a refusal is the procedure's error. -/
def attempt (r : S.Req) : Proc S S.Err σ (S.Out r) :=
  ExceptT.mk fun s => .call (.req r) fun b => .ret (b, s)

/-- Run a procedure and hand its outcome to the caller instead of propagating the error. -/
def outcome (p : Proc S ε σ α) : Proc S ε σ (Except ε α) :=
  ExceptT.mk fun s => p.go s >>= fun r => .ret (.ok r.1, r.2)

/-- Replace whatever error a procedure stops with. -/
def failWith (p : Proc S ε σ α) (e : ε) : Proc S ε σ α :=
  ExceptT.mk fun s => p.go s >>= fun r =>
    match r.1 with | .ok a => .ret (.ok a, r.2) | .error _ => .ret (.error e, r.2)

/-- Read one particular error as a value: the `else if (res == …)` of a C function. -/
def errorAs [DecidableEq ε] (p : Proc S ε σ α) (e₀ : ε) (a₀ : α) : Proc S ε σ α :=
  ExceptT.mk fun s => p.go s >>= fun r =>
    match r.1 with
    | .ok a => .ret (.ok a, r.2)
    | .error e => .ret (if e = e₀ then .ok a₀ else .error e, r.2)

/-- Run a procedure, update the state whatever its outcome, and propagate the outcome: the
`goto out` of a C function. -/
def cleanup (p : Proc S ε σ α) (f : σ → σ) : Proc S ε σ α :=
  ExceptT.mk fun s => p.go s >>= fun r => .ret (r.1, f r.2)

/-- Run a procedure and update the state only if it fails. -/
def onError (p : Proc S ε σ α) (f : σ → σ) : Proc S ε σ α :=
  ExceptT.mk fun s => p.go s >>= fun r =>
    match r.1 with | .ok a => .ret (.ok a, r.2) | .error e => .ret (.error e, f r.2)

/-- Return an outcome, or propagate its error. -/
def ofOutcome : Except ε α → Proc S ε σ α
  | .ok a => pure a
  | .error e => throw e

end Proc

/-- Weakest precondition with one postcondition for the value and one for the error; both see
the local state. -/
def wpP (A : List (Event S) → Call S → Prop) (p : Proc S ε σ α)
    (Q : List (Event S) → σ → α → Prop) (E : List (Event S) → σ → ε → Prop) (s : σ)
    (tr : List (Event S)) : Prop :=
  wp A (p.go s) (fun tr r => match r.1 with | .ok a => Q tr r.2 a | .error e => E tr r.2 e) tr

variable {Q : List (Event S) → σ → α → Prop} {E : List (Event S) → σ → ε → Prop} {s : σ}

@[simp] theorem wpP_pure {a : α} : wpP A (pure a : Proc S ε σ α) Q E s tr ↔ Q tr s a := Iff.rfl

@[simp] theorem wpP_throw {e : ε} :
    wpP A (throw e : Proc S ε σ α) Q E s tr ↔ E tr s e := Iff.rfl

@[simp] theorem wpP_bind {p : Proc S ε σ β} {f : β → Proc S ε σ α} :
    wpP A (p >>= f) Q E s tr ↔ wpP A p (fun tr s a => wpP A (f a) Q E s tr) E s tr := by
  have hgo : (p >>= f).go s = p.go s >>= fun r =>
      match r.1 with | .ok a => (f a).go r.2 | .error e => .ret (.error e, r.2) := by
    refine congrArg (Prog.bind (p.go s)) (funext ?_)
    rintro ⟨e | a, s⟩ <;> rfl
  unfold wpP
  rw [hgo, wp_bind]
  apply wp_congr
  rintro tr ⟨e | a, s⟩ <;> exact Iff.rfl

@[simp] theorem wpP_get {Q : List (Event S) → σ → σ → Prop} :
    wpP A (get : Proc S ε σ σ) Q E s tr ↔ Q tr s s := Iff.rfl

@[simp] theorem wpP_modify {f : σ → σ} {Q : List (Event S) → σ → PUnit → Prop} :
    wpP A (modify f : Proc S ε σ PUnit) Q E s tr ↔ Q tr (f s) ⟨⟩ := Iff.rfl

@[simp] theorem wpP_act {a : S.Act} {Q : List (Event S) → σ → S.Res a → Prop} :
    wpP A (.act a : Proc S ε σ _) Q E s tr ↔
      A tr (.act a) ∧ ∀ b, Q (tr ++ [.did a b]) s b := Iff.rfl

@[simp] theorem wpP_attempt {r : S.Req} {Q : List (Event S) → σ → S.Out r → Prop}
    {E : List (Event S) → σ → S.Err → Prop} :
    wpP A (.attempt r) Q E s tr ↔ A tr (.req r) ∧
      (∀ b, Q (tr ++ [.ok r b]) s b) ∧ ∀ e, E (tr ++ [.refused r e]) s e := by
  refine and_congr_right fun _ => ⟨fun h => ⟨fun b => h (.ok b), fun e => h (.error e)⟩, ?_⟩
  rintro ⟨hok, herr⟩ (e | b)
  · exact herr e
  · exact hok b

/-- What the combinators above have in common: a procedure, then a pure function of its
outcome and state. -/
private theorem wpP_mapped {p : Proc S ε σ α} {q : Proc S ε σ β}
    {f : Except ε α × σ → Except ε β × σ} {Q : List (Event S) → σ → β → Prop}
    (hgo : q.go s = p.go s >>= fun r => .ret (f r)) :
    wpP A q Q E s tr ↔ wp A (p.go s) (fun tr r =>
      match (f r).1 with | .ok a => Q tr (f r).2 a | .error e => E tr (f r).2 e) tr := by
  unfold wpP
  rw [hgo, wp_bind]
  exact Iff.rfl

@[simp] theorem wpP_outcome {p : Proc S ε σ α}
    {Q : List (Event S) → σ → Except ε α → Prop} :
    wpP A p.outcome Q E s tr ↔
      wpP A p (fun tr s a => Q tr s (.ok a)) (fun tr s e => Q tr s (.error e)) s tr := by
  rw [wpP_mapped (p := p) (f := fun r => (.ok r.1, r.2)) rfl]
  apply wp_congr
  rintro tr ⟨e | a, s⟩ <;> exact Iff.rfl

@[simp] theorem wpP_failWith {p : Proc S ε σ α} {e : ε} :
    wpP A (p.failWith e) Q E s tr ↔ wpP A p Q (fun tr s _ => E tr s e) s tr := by
  rw [wpP_mapped (p := p) (f := fun r =>
    match r.1 with | .ok a => (.ok a, r.2) | .error _ => (.error e, r.2))]
  · apply wp_congr
    rintro tr ⟨e | a, s⟩ <;> exact Iff.rfl
  · refine congrArg (Prog.bind (p.go s)) (funext ?_)
    rintro ⟨e | a, s⟩ <;> rfl

@[simp] theorem wpP_errorAs [DecidableEq ε] {p : Proc S ε σ α} {e₀ : ε} {a₀ : α} :
    wpP A (p.errorAs e₀ a₀) Q E s tr ↔
      wpP A p Q (fun tr s e => (e = e₀ → Q tr s a₀) ∧ (e ≠ e₀ → E tr s e)) s tr := by
  rw [wpP_mapped (p := p) (f := fun r =>
    match r.1 with
    | .ok a => (.ok a, r.2)
    | .error e => (if e = e₀ then .ok a₀ else .error e, r.2))]
  · apply wp_congr
    rintro tr ⟨e | a, s⟩
    · by_cases he : e = e₀ <;> simp [he]
    · exact Iff.rfl
  · refine congrArg (Prog.bind (p.go s)) (funext ?_)
    rintro ⟨e | a, s⟩ <;> rfl

@[simp] theorem wpP_cleanup {p : Proc S ε σ α} {f : σ → σ} :
    wpP A (p.cleanup f) Q E s tr ↔
      wpP A p (fun tr s a => Q tr (f s) a) (fun tr s e => E tr (f s) e) s tr := by
  rw [wpP_mapped (p := p) (f := fun r => (r.1, f r.2)) rfl]
  apply wp_congr
  rintro tr ⟨e | a, s⟩ <;> exact Iff.rfl

@[simp] theorem wpP_onError {p : Proc S ε σ α} {f : σ → σ} :
    wpP A (p.onError f) Q E s tr ↔ wpP A p Q (fun tr s e => E tr (f s) e) s tr := by
  rw [wpP_mapped (p := p) (f := fun r =>
    match r.1 with | .ok a => (.ok a, r.2) | .error e => (.error e, f r.2))]
  · apply wp_congr
    rintro tr ⟨e | a, s⟩ <;> exact Iff.rfl
  · refine congrArg (Prog.bind (p.go s)) (funext ?_)
    rintro ⟨e | a, s⟩ <;> rfl

@[simp] theorem wpP_ofOutcome {r : Except ε α} :
    wpP A (Proc.ofOutcome r : Proc S ε σ α) Q E s tr ↔
      (∀ a, r = .ok a → Q tr s a) ∧ ∀ e, r = .error e → E tr s e := by
  cases r with
  | ok a => exact ⟨fun h => ⟨fun _ hr => Except.ok.inj hr ▸ h, nofun⟩, fun h => h.1 a rfl⟩
  | error e => exact ⟨fun h => ⟨nofun, fun _ hr => Except.error.inj hr ▸ h⟩, fun h => h.2 e rfl⟩

@[simp] theorem wpP_map {p : Proc S ε σ β} {f : β → α} :
    wpP A (f <$> p) Q E s tr ↔ wpP A p (fun tr s a => Q tr s (f a)) E s tr := by
  rw [← bind_pure_comp, wpP_bind]
  exact Iff.rfl

@[simp] theorem wpP_ite {c : Prop} [Decidable c] {p q : Proc S ε σ α} :
    wpP A (if c then p else q) Q E s tr ↔ (c → wpP A p Q E s tr) ∧ (¬ c → wpP A q Q E s tr) := by
  split <;> simp_all

theorem wpP_conseq {p : Proc S ε σ α} {Q' : List (Event S) → σ → α → Prop}
    {E' : List (Event S) → σ → ε → Prop} (h : wpP A p Q E s tr)
    (hQ : ∀ tr s a, Q tr s a → Q' tr s a) (hE : ∀ tr s e, E tr s e → E' tr s e) :
    wpP A p Q' E' s tr := by
  refine wp_conseq h ?_
  rintro tr ⟨e | a, s⟩ h
  · exact hE tr s e h
  · exact hQ tr s a h

/-- A weaker assertion. -/
theorem wpP_weaken {A' : List (Event S) → Call S → Prop} {p : Proc S ε σ α} (h : wpP A p Q E s tr)
    (hA : ∀ tr c, A tr c → A' tr c) : wpP A' p Q E s tr :=
  wp_mono hA (fun _ _ h => h) h

/-! ## Scripted executions -/

/-- Run a program against a script: the answer to the `n`-th call may depend on `n`. -/
def exec (env : Nat → (c : Call S) → c.Ans) : Nat → Prog S α → List (Event S) × α
  | _, .ret a => ([], a)
  | n, .call c k =>
    let r := env n c
    let (tr, a) := exec env (n + 1) (k r)
    (Event.of c r :: tr, a)

/-- A scripted execution is an execution. -/
theorem exec_runs (env : Nat → (c : Call S) → c.Ans) (n : Nat) (p : Prog S α) :
    Runs p (exec env n p).1 (exec env n p).2 := by
  induction p generalizing n with
  | ret a => exact .refl _
  | call c k ih => exact .call _ (ih _ _)

/-- What every answer of the script satisfies, every event of the execution does. -/
theorem exec_forall {env : Nat → (c : Call S) → c.Ans} {P : Event S → Prop}
    (h : ∀ n c, P (Event.of c (env n c))) (n : Nat) (p : Prog S α) :
    ∀ ev ∈ (exec env n p).1, P ev := by
  induction p generalizing n with
  | ret a => exact fun ev hev => absurd hev (by simp [exec])
  | call c k ih =>
    intro ev hev
    rcases List.mem_cons.mp hev with rfl | hev
    · exact h n c
    · exact ih _ _ ev hev

end Effects
