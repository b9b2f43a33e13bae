import Mathlib.Data.List.Basic
import Mathlib.Tactic.Common

/-!
# `Lib/History.lean` — questions about the most recent entry of a history

A history is a list that grows at its end. `LastWith p R h` asks for the most recent entry of
`h` that satisfies `p` and says `R` about it and about what came after it. Every "the last …
was …" and "… since the last …" is one of these, and `lastWith_snoc` is how one more entry
changes the answer: that equation is all an invariant over a growing history needs.
-/

set_option autoImplicit false

namespace History

variable {α : Type} {p : α → Prop} {R R' : α → List α → Prop} {h : List α} {a : α}

/-- The most recent `p`-entry exists and, with the entries after it, satisfies `R`. -/
def LastWith (p : α → Prop) (R : α → List α → Prop) (h : List α) : Prop :=
  ∃ pre x post, h = pre ++ x :: post ∧ p x ∧ (∀ y ∈ post, ¬ p y) ∧ R x post

/-- The ways to split a history at an entry, by whether that entry is the newest. -/
theorem snoc_eq_split {pre post : List α} {x : α} :
    h ++ [a] = pre ++ x :: post ↔
      (pre = h ∧ x = a ∧ post = []) ∨ ∃ post', post = post' ++ [a] ∧ h = pre ++ x :: post' := by
  constructor
  · intro heq
    rcases List.eq_nil_or_concat post with rfl | ⟨post', b, rfl⟩
    · obtain ⟨rfl, hx⟩ := List.append_inj' heq rfl
      exact Or.inl ⟨rfl, (List.singleton_inj.mp hx).symm, rfl⟩
    · have heq' : h ++ [a] = (pre ++ x :: post') ++ [b] := by simpa using heq
      obtain ⟨rfl, hb⟩ := List.append_inj' heq' rfl
      obtain rfl := List.singleton_inj.mp hb
      exact Or.inr ⟨post', List.concat_eq_append, rfl⟩
  · rintro (⟨rfl, rfl, rfl⟩ | ⟨post', rfl, rfl⟩)
    · rfl
    · simp

theorem not_lastWith_nil : ¬ LastWith p R [] := by
  intro ⟨pre, x, post, heq, _⟩
  simp at heq

/-- One more entry: it is the most recent one, or it is one more thing that came after. -/
theorem lastWith_snoc : LastWith p R (h ++ [a]) ↔
    (p a ∧ R a []) ∨ (¬ p a ∧ LastWith p (fun x post => R x (post ++ [a])) h) := by
  constructor
  · intro ⟨pre, x, post, heq, hx, hpost, hR⟩
    rcases snoc_eq_split.mp heq with ⟨rfl, rfl, rfl⟩ | ⟨post', rfl, rfl⟩
    · exact Or.inl ⟨hx, hR⟩
    · have ha : ¬ p a := hpost a (by simp)
      have hpost' : ∀ y ∈ post', ¬ p y := by
        intro y hy
        exact hpost y (by simp [hy])
      exact Or.inr ⟨ha, pre, x, post', rfl, hx, hpost', hR⟩
  · rintro (⟨ha, hR⟩ | ⟨ha, pre, x, post, rfl, hx, hpost, hR⟩)
    · exact ⟨h, a, [], rfl, ha, by simp, hR⟩
    · refine ⟨pre, x, post ++ [a], by simp, hx, ?_, hR⟩
      intro y hy
      rcases List.mem_append.mp hy with hy | hy
      · exact hpost y hy
      · obtain rfl := List.mem_singleton.mp hy
        exact ha

theorem LastWith.mono (hl : LastWith p R h) (hR : ∀ x post, R x post → R' x post) :
    LastWith p R' h := by
  obtain ⟨pre, x, post, heq, hx, hpost, hr⟩ := hl
  exact ⟨pre, x, post, heq, hx, hpost, hR x post hr⟩

/-- What is said about the entries after the last `p`-entry, when it is about each on its own. -/
theorem lastWith_snoc_exists {q : α → Prop} :
    LastWith p (fun _ post => ∃ y ∈ post, q y) (h ++ [a]) ↔
      ¬ p a ∧ (LastWith p (fun _ post => ∃ y ∈ post, q y) h ∨
        (q a ∧ LastWith p (fun _ _ => True) h)) := by
  rw [lastWith_snoc]
  constructor
  · rintro (⟨_, y, hy, _⟩ | ⟨ha, pre, x, post, heq, hx, hpost, y, hy, hq⟩)
    · simp at hy
    · refine ⟨ha, ?_⟩
      rcases List.mem_append.mp hy with hy | hy
      · exact Or.inl ⟨pre, x, post, heq, hx, hpost, y, hy, hq⟩
      · obtain rfl := List.mem_singleton.mp hy
        exact Or.inr ⟨hq, pre, x, post, heq, hx, hpost, trivial⟩
  · rintro ⟨ha, hl | ⟨hq, hl⟩⟩
    · exact Or.inr ⟨ha, hl.mono fun x post ⟨y, hy, hq⟩ => ⟨y, by simp [hy], hq⟩⟩
    · exact Or.inr ⟨ha, hl.mono fun x post _ => ⟨a, by simp, hq⟩⟩

/-- There is only one most recent entry. -/
theorem last_unique {pre pre' post post' : List α} {x x' : α}
    (h : pre ++ x :: post = pre' ++ x' :: post') (hx : p x) (hx' : p x')
    (hpost : ∀ y ∈ post, ¬ p y) (hpost' : ∀ y ∈ post', ¬ p y) :
    pre = pre' ∧ x = x' ∧ post = post' := by
  rcases List.append_eq_append_iff.mp h with ⟨mid, rfl, hmid⟩ | ⟨mid, rfl, hmid⟩
  · cases mid with
    | nil =>
      obtain ⟨rfl, rfl⟩ := List.cons.inj hmid
      exact ⟨(List.append_nil _).symm, rfl, rfl⟩
    | cons y mid =>
      obtain ⟨rfl, rfl⟩ := List.cons.inj hmid
      exact absurd hx' (hpost x' (by simp))
  · cases mid with
    | nil =>
      obtain ⟨rfl, rfl⟩ := List.cons.inj hmid
      exact ⟨List.append_nil _, rfl, rfl⟩
    | cons y mid =>
      obtain ⟨rfl, rfl⟩ := List.cons.inj hmid
      exact absurd hx (hpost' x (by simp))

/-- There is only one first entry. -/
theorem first_unique {pre pre' post post' : List α} {x x' : α}
    (h : pre ++ x :: post = pre' ++ x' :: post') (hx : p x) (hx' : p x')
    (hpre : ∀ y ∈ pre, ¬ p y) (hpre' : ∀ y ∈ pre', ¬ p y) :
    pre = pre' ∧ x = x' ∧ post = post' := by
  have hrev := congrArg List.reverse h
  simp only [List.reverse_append, List.reverse_cons, List.append_assoc, List.singleton_append] at hrev
  obtain ⟨hpost, hxx, hprepre⟩ := last_unique hrev hx hx'
    (fun y hy => hpre y (List.mem_reverse.mp hy)) (fun y hy => hpre' y (List.mem_reverse.mp hy))
  exact ⟨List.reverse_injective hprepre, hxx, List.reverse_injective hpost⟩

/-- Of two entries of a history the earlier one stands before the later one. -/
theorem earlier {h pre pre' : List α} {x x' : α} (hx : pre ++ [x] <+: h) (hx' : pre' ++ [x'] <+: h)
    (hlt : pre.length < pre'.length) : ∃ mid, pre' = pre ++ x :: mid := by
  have hpre' : pre' <+: h := (List.prefix_append ..).trans hx'
  obtain ⟨mid, hmid⟩ := List.prefix_of_prefix_length_le hx hpre' (by
    rw [List.length_append, List.length_singleton]
    exact hlt)
  exact ⟨mid, by rw [← hmid]; simp⟩

/-- Two entries at the same place are one. -/
theorem same_place {h pre pre' : List α} {x x' : α} (hx : pre ++ [x] <+: h) (hx' : pre' ++ [x'] <+: h)
    (hlen : pre.length = pre'.length) : pre = pre' ∧ x = x' := by
  have heq : pre ++ [x] = pre' ++ [x'] :=
    (List.prefix_of_prefix_length_le hx hx' (by simp [hlen])).eq_of_length (by simp [hlen])
  obtain ⟨hpre, hlast⟩ := List.append_inj' heq rfl
  exact ⟨hpre, List.singleton_inj.mp hlast⟩

/-- A list, cut at its first element of a kind. -/
def cutAt (p : α → Bool) : List α → Option (List α × α × List α)
  | [] => none
  | x :: xs => if p x then some ([], x, xs) else (cutAt p xs).map fun r => (x :: r.1, r.2)

theorem cutAt_eq {p : α → Bool} {xs before after : List α} {x : α}
    (h : cutAt p xs = some (before, x, after)) :
    xs = before ++ x :: after ∧ p x = true ∧ ∀ y ∈ before, p y = false := by
  induction xs generalizing before with
  | nil => cases h
  | cons y ys ih =>
    rw [cutAt] at h
    split at h
    · cases h
      exact ⟨rfl, ‹_›, nofun⟩
    · rename_i hy
      obtain ⟨⟨before', x', after'⟩, hcut, heq⟩ := Option.map_eq_some_iff.mp h
      cases heq
      obtain ⟨rfl, hx, hbefore⟩ := ih hcut
      refine ⟨rfl, hx, ?_⟩
      intro z hz
      rcases List.mem_cons.mp hz with rfl | hz
      · exact Bool.eq_false_iff.mpr hy
      · exact hbefore z hz

end History
