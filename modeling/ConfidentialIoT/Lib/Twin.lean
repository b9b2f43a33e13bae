import Mathlib.Data.List.Forall2
import ConfidentialIoT.Lib.Pool
import ConfidentialIoT.Lib.Keeps

/-!
# `Lib/Twin.lean` — two executions, step by step

What is said about two runs at once is proved here call by call: the two programs make
corresponding calls, and as long as the answers correspond they go on like that. Which calls
correspond has to be shown; which answers do is what may be assumed of the environment.

* `Twin` — two programs in step;
* `Blind` — a procedure that does not look at a part of its local state;
* `Coupling` — two of a machine's memories, in step through every job; `Run.twins` is what two runs
  with one schedule then have in common.
-/

set_option autoImplicit false

namespace Effects

variable {S : Sig} {α β α' β' ε σ : Type}

theorem Event.of_inj {S : Sig} {c : Call S} {r r' : c.Ans} (h : Event.of c r = Event.of c r') :
    r = r' := by
  cases c with
  | act a =>
    cases h
    rfl
  | req q =>
    cases r with
    | ok b =>
      cases r' with
      | ok b' =>
        cases h
        rfl
      | error e => cases h
    | error e =>
      cases r' with
      | ok b => cases h
      | error e' =>
        cases h
        rfl

/-- Corresponding calls while the answers correspond, and corresponding values. -/
def Twin (C : Call S → Call S → Prop) (E : Event S → Event S → Prop) (Q : α → β → Prop) :
    Prog S α → Prog S β → Prop
  | .ret a, .ret b => Q a b
  | .call c k, .call c' k' =>
    C c c' ∧ ∀ r r', E (Event.of c r) (Event.of c' r') → Twin C E Q (k r) (k' r')
  | _, _ => False

/-- A call that corresponds to itself and has corresponding answers only where it has one. -/
def Definite (C : Call S → Call S → Prop) (E : Event S → Event S → Prop) (c : Call S) : Prop :=
  C c c ∧ ∀ r r', E (Event.of c r) (Event.of c r') → r' = r

section

variable {C : Call S → Call S → Prop} {E : Event S → Event S → Prop} {Q : α → β → Prop}

theorem Twin.bind {Q' : α' → β' → Prop} {p : Prog S α} {q : Prog S β} {f : α → Prog S α'}
    {g : β → Prog S β'} (h : Twin C E (fun a b => Twin C E Q' (f a) (g b)) p q) :
    Twin C E Q' (p >>= f) (q >>= g) := by
  induction p generalizing q with
  | ret a =>
    cases q with
    | ret b => exact h
    | call c k => exact h.elim
  | call c k ih =>
    cases q with
    | ret b => exact h.elim
    | call c' k' => exact ⟨h.1, fun r r' he => ih r (h.2 r r' he)⟩

theorem Twin.mono {Q' : α → β → Prop} {C' : Call S → Call S → Prop} {p : Prog S α} {q : Prog S β}
    (h : Twin C E Q p q) (hC : ∀ c c', C c c' → C' c c') (hQ : ∀ a b, Q a b → Q' a b) :
    Twin C' E Q' p q := by
  induction p generalizing q with
  | ret a =>
    cases q with
    | ret b => exact hQ a b h
    | call c k => exact h.elim
  | call c k ih =>
    cases q with
    | ret b => exact h.elim
    | call c' k' => exact ⟨hC c c' h.1, fun r r' he => ih r (h.2 r r' he)⟩

/-- A program all of whose calls are definite is in step with itself. -/
theorem Twin.of_definite {f : α → β} {p : Prog S α} {tr : List (Event S)}
    (h : wp (fun _ c => Definite C E c) p (fun _ _ => True) tr) :
    Twin C E (fun a b => b = f a) p (p >>= fun a => .ret (f a)) := by
  induction p generalizing tr with
  | ret a => rfl
  | call c k ih =>
    refine ⟨h.1.1, ?_⟩
    intro r r' he
    obtain rfl := h.1.2 r r' he
    exact ih r' (h.2 r')

end

/-! ## Procedures that do not look -/

/-- `p` does the same from the state that `g` has changed, and what it leaves is changed in the
same way. -/
def Blind (g : σ → σ) (p : Proc S ε σ α) : Prop :=
  ∀ s, p.go (g s) = p.go s >>= fun r => .ret (r.1, g r.2)

namespace Blind

variable {g : σ → σ} {p : Proc S ε σ α}

theorem ret (a : α) : Blind g (pure a : Proc S ε σ α) := fun _ => rfl

theorem raise (e : ε) : Blind g (throw e : Proc S ε σ α) := fun _ => rfl

theorem act (a : S.Act) : Blind g (Proc.act a : Proc S ε σ (S.Res a)) := fun _ => rfl

theorem attempt (r : S.Req) : Blind g (Proc.attempt r : Proc S S.Err σ (S.Out r)) := fun _ => rfl

theorem update {f : σ → σ} (h : ∀ s, f (g s) = g (f s)) :
    Blind g (modify f : Proc S ε σ PUnit) := by
  intro s
  show Prog.ret _ = Prog.ret _
  rw [h]

/-- Whatever is made of the outcome, if that does not look either. -/
theorem after {k : Except ε α × σ → Prog S (Except ε β × σ)} (h : Blind g p)
    (hk : ∀ r s, k (r, g s) = k (r, s) >>= fun r => .ret (r.1, g r.2)) (s : σ) :
    (p.go (g s) >>= k) = (p.go s >>= k) >>= fun r => .ret (r.1, g r.2) := by
  rw [h s, bind_assoc, bind_assoc]
  refine congrArg (Prog.bind (p.go s)) (funext ?_)
  intro r
  exact hk r.1 r.2

theorem seq {k : α → Proc S ε σ β} (h : Blind g p) (hk : ∀ a, Blind g (k a)) :
    Blind g (p >>= k) := by
  refine h.after ?_
  intro r s
  cases r with
  | error e => rfl
  | ok a => exact hk a s

/-- The state is read, and nothing of it that `g` changes is used. -/
theorem read {k : σ → Proc S ε σ β} (hsame : ∀ s, k (g s) = k s) (hk : ∀ s, Blind g (k s)) :
    Blind g (get >>= k) := by
  intro s
  show (k (g s)).go (g s) = (k s).go s >>= _
  rw [hsame]
  exact hk s s

theorem ite {c : Prop} [Decidable c] {q : Proc S ε σ α} (hp : Blind g p) (hq : Blind g q) :
    Blind g (if c then p else q) := by
  by_cases hc : c
  · rw [if_pos hc]
    exact hp
  · rw [if_neg hc]
    exact hq

theorem failWith (e : ε) (h : Blind g p) : Blind g (p.failWith e) := by
  refine h.after ?_
  intro r s
  cases r with
  | error e' => rfl
  | ok a => rfl

theorem errorAs [DecidableEq ε] (e₀ : ε) (a₀ : α) (h : Blind g p) : Blind g (p.errorAs e₀ a₀) := by
  refine h.after ?_
  intro r s
  cases r with
  | error e => rfl
  | ok a => rfl

theorem cleanup {f : σ → σ} (hf : ∀ s, f (g s) = g (f s)) (h : Blind g p) :
    Blind g (p.cleanup f) := by
  refine h.after ?_
  intro r s
  show Prog.ret (r, f (g s)) = Prog.ret (r, g (f s))
  rw [hf]

theorem onError {f : σ → σ} (hf : ∀ s, f (g s) = g (f s)) (h : Blind g p) :
    Blind g (p.onError f) := by
  refine h.after ?_
  intro r s
  cases r with
  | error e =>
    show Prog.ret (Except.error e, f (g s)) = Prog.ret (Except.error e, g (f s))
    rw [hf]
  | ok a => rfl

theorem ofOutcome (r : Except ε α) : Blind g (Proc.ofOutcome r : Proc S ε σ α) := by
  cases r with
  | ok a => exact .ret a
  | error e => exact .raise e

end Blind

/-! ## Two procedures in step -/

/-- `Twin` with one postcondition for two values and one for two errors. -/
def TwinP (C : Call S → Call S → Prop) (E : Event S → Event S → Prop) (Q : σ → α → σ → β → Prop)
    (X : σ → ε → σ → ε → Prop) (p : Proc S ε σ α) (q : Proc S ε σ β) (s t : σ) : Prop :=
  Twin C E (fun r r' => match r, r' with
    | (.ok a, s'), (.ok b, t') => Q s' a t' b
    | (.error e, s'), (.error e', t') => X s' e t' e'
    | _, _ => False) (p.go s) (q.go t)

section

variable {C : Call S → Call S → Prop} {E : Event S → Event S → Prop} {Q : σ → α → σ → β → Prop}
  {X : σ → ε → σ → ε → Prop} {s t : σ}

theorem TwinP.mono {Q' : σ → α → σ → β → Prop} {p : Proc S ε σ α} {q : Proc S ε σ β}
    (h : TwinP C E Q X p q s t) (hQ : ∀ s a t b, Q s a t b → Q' s a t b) : TwinP C E Q' X p q s t := by
  refine Twin.mono h (fun _ _ hc => hc) ?_
  rintro ⟨r, s'⟩ ⟨r', t'⟩ h'
  cases r with
  | ok a =>
    cases r' with
    | ok b => exact hQ _ _ _ _ h'
    | error e => exact h'.elim
  | error e =>
    cases r' with
    | ok b => exact h'.elim
    | error e' => exact h'

theorem TwinP.seq {p : Proc S ε σ α'} {q : Proc S ε σ β'} {f : α' → Proc S ε σ α}
    {g : β' → Proc S ε σ β}
    (h : TwinP C E (fun s a t b => TwinP C E Q X (f a) (g b) s t) X p q s t) :
    TwinP C E Q X (p >>= f) (q >>= g) s t := by
  refine Twin.bind (Twin.mono h (fun _ _ hc => hc) ?_)
  rintro ⟨r, s'⟩ ⟨r', t'⟩ h'
  cases r with
  | ok a =>
    cases r' with
    | ok b => exact h'
    | error e => exact h'.elim
  | error e =>
    cases r' with
    | ok b => exact h'.elim
    | error e' => exact h'

theorem TwinP.read {k : σ → Proc S ε σ α} {k' : σ → Proc S ε σ β} (h : TwinP C E Q X (k s) (k' t) s t) :
    TwinP C E Q X (get >>= k) (get >>= k') s t := h

/-- In front of two continuations, a procedure that does not look and makes definite calls. -/
theorem Blind.twin {g : σ → σ} {p : Proc S ε σ α'} {f : α' → Proc S ε σ α} {f' : α' → Proc S ε σ β}
    (h : Blind g p) (hcalls : wp (fun _ c => Definite C E c) (p.go s) (fun _ _ => True) [])
    (ok : ∀ s' a, TwinP C E Q X (f a) (f' a) s' (g s')) (err : ∀ s' e, X s' e (g s') e) :
    TwinP C E Q X (p >>= f) (p >>= f') s (g s) := by
  refine TwinP.seq ?_
  unfold TwinP
  rw [h s]
  refine (Twin.of_definite hcalls).mono (fun _ _ hc => hc) ?_
  rintro ⟨r, s'⟩ _ rfl
  cases r with
  | ok a => exact ok s' a
  | error e => exact err s' e

end

/-! ## Two runs of a pool -/

namespace Pool

variable {M : Machine S} {ι σ' : Type}

/-- What keeps two agents of a machine in step: which calls of a job correspond, which events, which
memories and which results, and that every job goes from corresponding memories to corresponding
results. -/
structure Coupling (M : Machine S) where
  call : M.Job → Call S → Call S → Prop
  event : Event S → Event S → Prop
  mem : M.Mem → M.Mem → Prop
  out : M.Out → M.Out → Prop
  code : ∀ job m m', mem m m' → Twin (call job) event out (M.code job m) (M.code job m')
  kept : ∀ o o', out o o' → mem (M.mem o) (M.mem o')

namespace Coupling

variable (K : Coupling M)

/-- Two events of a job. -/
def Alike (job : M.Job) (ev ev' : Event S) : Prop := K.call job ev.call ev'.call ∧ K.event ev ev'

inductive Agents : Agent M → Agent M → Prop where
  | idle {m m' : M.Mem} (h : K.mem m m') : Agents (.idle m) (.idle m')
  | busy {job : M.Job} {m m' : M.Mem} {log log' : List (Event S)} {rest rest' : Prog S M.Out}
      (hlog : List.Forall₂ (K.Alike job) log log') (h : Twin (K.call job) K.event K.out rest rest') :
      Agents (.busy job m log rest) (.busy job m' log' rest')

inductive Labels : Label M ι → Label M ι → Prop where
  | started (i : ι) (job : M.Job) : Labels (.started i job) (.started i job)
  | did (i : ι) (job : M.Job) {ev ev' : Event S} (h : K.Alike job ev ev') :
      Labels (.did i ev) (.did i ev')
  | returned (i : ι) {job : M.Job} {m m' : M.Mem} {log log' : List (Event S)} {out out' : M.Out}
      (hlog : List.Forall₂ (K.Alike job) log log') (h : K.out out out') :
      Labels (.returned i job m log out) (.returned i job m' log' out')

/-- What the environment of two runs has to do: when everything before was alike, corresponding
calls get corresponding answers. -/
def Answered (ls ls' : List (Label M ι)) : Prop :=
  ∀ pre pre' post post' i job ev ev', ls = pre ++ .did i ev :: post → ls' = pre' ++ .did i ev' :: post' →
    List.Forall₂ K.Labels pre pre' → K.call job ev.call ev'.call → K.event ev ev'

end Coupling

/-- Whose turn it was, and for what if it was the first. -/
def Label.turn : Label M ι → ι × Option M.Job
  | .started i job => (i, some job)
  | .did i _ => (i, none)
  | .returned i _ _ _ _ => (i, none)

variable [DecidableEq ι] {R : ι → σ → Event S → σ → Prop} {R' : ι → σ' → Event S → σ' → Prop}

theorem Config.set_alike {K : Coupling M} {c : Config M ι σ} {c' : Config M ι σ'}
    (h : ∀ j, K.Agents (c.agents j) (c'.agents j)) (i : ι) {a a' : Agent M} (ha : K.Agents a a')
    (j : ι) : K.Agents ((c.set i a).agents j) ((c'.set i a').agents j) := by
  rw [Config.set_agents, Config.set_agents]
  by_cases hj : j = i
  · rw [if_pos hj, if_pos hj]
    exact ha
  · rw [if_neg hj, if_neg hj]
    exact h j

/-- Two steps of the same turn. -/
theorem Step.twins (K : Coupling M) {c c₁ : Config M ι σ} {c' c₁' : Config M ι σ'} {l l' : Label M ι}
    (step : Step R c l c₁) (step' : Step R' c' l' c₁') (h : ∀ j, K.Agents (c.agents j) (c'.agents j))
    (turn : l.turn = l'.turn) (answered : ∀ i job ev ev', l = .did i ev → l' = .did i ev' →
      K.call job ev.call ev'.call → K.event ev ev') :
    K.Labels l l' ∧ ∀ j, K.Agents (c₁.agents j) (c₁'.agents j) := by
  cases step with
  | @start i m job hidle =>
    cases step' with
    | @start i' m' job' hidle' =>
      cases turn
      have hi := h i
      rw [hidle, hidle'] at hi
      cases hi with
      | idle hmem => exact ⟨.started i job, Config.set_alike h i (.busy .nil (K.code job m m' hmem))⟩
    | call _ _ _ => cases turn
    | finish _ => cases turn
  | @call i job m log q k s r hbusy hR =>
    cases step' with
    | start _ _ => cases turn
    | @call i' job' m' log' q' k' s' r' hbusy' hR' =>
      cases turn
      have hi := h i
      rw [hbusy, hbusy'] at hi
      cases hi with
      | busy hlog hrest =>
        have hcall : K.call job (Event.of q r).call (Event.of q' r').call := by
          rw [Event.call_of, Event.call_of]
          exact hrest.1
        have hevent := answered i job _ _ rfl rfl hcall
        refine ⟨.did i job ⟨hcall, hevent⟩, Config.set_alike h i (.busy ?_ (hrest.2 r r' hevent))⟩
        exact List.rel_append hlog (.cons ⟨hcall, hevent⟩ .nil)
    | @finish i' job' m' log' out hbusy' =>
      cases turn
      have hi := h i
      rw [hbusy, hbusy'] at hi
      cases hi with
      | busy _ hrest => exact hrest.elim
  | @finish i job m log out hbusy =>
    cases step' with
    | start _ _ => cases turn
    | @call i' job' m' log' q' k' s' r' hbusy' hR' =>
      cases turn
      have hi := h i
      rw [hbusy, hbusy'] at hi
      cases hi with
      | busy _ hrest => exact hrest.elim
    | @finish i' job' m' log' out' hbusy' =>
      cases turn
      have hi := h i
      rw [hbusy, hbusy'] at hi
      cases hi with
      | busy hlog hrest =>
        exact ⟨.returned i hlog hrest, Config.set_alike h i (.idle (K.kept out out' hrest))⟩

/-- **Two runs in step.** From corresponding agents, with one schedule and corresponding answers,
every two steps of two runs are alike. -/
theorem Run.twins (K : Coupling M) {P : Config M ι σ → Label M ι → Prop}
    {P' : Config M ι σ' → Label M ι → Prop} {c₀ c : Config M ι σ} {c₀' c' : Config M ι σ'}
    {ls ls' : List (Label M ι)} (run : Run R P c₀ ls c) (run' : Run R' P' c₀' ls' c')
    (start : ∀ j, K.Agents (c₀.agents j) (c₀'.agents j))
    (schedule : ls.map Label.turn = ls'.map Label.turn) (answered : K.Answered ls ls') :
    List.Forall₂ K.Labels ls ls' ∧ ∀ j, K.Agents (c.agents j) (c'.agents j) := by
  induction run generalizing ls' c' with
  | nil =>
    cases run' with
    | nil => exact ⟨.nil, start⟩
    | snoc _ _ _ => simp at schedule
  | @snoc ls c c₁ l run step _ ih =>
    cases run' with
    | nil => simp at schedule
    | @snoc ls' c' c₁' l' run' step' _ =>
      rw [List.map_append, List.map_append] at schedule
      obtain ⟨hbefore, hlast⟩ := List.append_inj' schedule rfl
      have hanswered : K.Answered ls ls' := by
        intro pre pre' post post' i job ev ev' hsplit hsplit'
        refine answered pre pre' (post ++ [l]) (post' ++ [l']) i job ev ev' ?_ ?_
        · rw [hsplit]
          simp
        · rw [hsplit']
          simp
      obtain ⟨halike, hagents⟩ := ih run' hbefore hanswered
      obtain ⟨hl, hagents₁⟩ := step.twins K step' hagents (List.singleton_inj.mp hlast) (by
        rintro i job ev ev' rfl rfl
        exact answered ls ls' [] [] i job ev ev' rfl rfl halike)
      exact ⟨List.rel_append halike (.cons hl .nil), hagents₁⟩

end Pool

end Effects
