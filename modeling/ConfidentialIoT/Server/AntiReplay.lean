import Mathlib.Data.List.Chain
import ConfidentialIoT.Server.Traffic

/-!
# `Server/AntiReplay.lean` — a sequence number is accepted once

`_on_data` looks the key up, opens the message, advances the session's sequence number and fills
the buffer in separate steps, and the session it advances is the device's at that moment. If no
session is stored between the lookup and the advance it is the session whose key opened the message
(`accepted_at_most_once`); if one is, an old message counts as a first one of the new session
(`replayed_across_sessions`).
-/

set_option autoImplicit false

namespace ConfidentialIoT

open Effects

section

variable {M : Machine Server} {ι : Type} [DecidableEq ι] {C : CryptoLib} {identity : Point}
  {P : Pool.Config M ι ServerState → Pool.Label M ι → Prop} {registry : Registry} {mem : ι → M.Mem}
  {ls : List (Pool.Label M ι)} {c : Pool.Config M ι ServerState}

/-- Within one session the accepted numbers increase. -/
theorem accepted_increase
    (run : Pool.Run (fun _ => ServerStep C identity) P (serving M registry mem) ls c)
    {pre mid : List (Pool.Label M ι)} {i j : ι} {deviceId : Text} {seq seq' : Nat} {t t' : Time}
    (h : (pre ++ .did i (.did (.advanceSeq deviceId seq) (t, true)) :: mid) ++
      [.did j (.did (.advanceSeq deviceId seq') (t', true))] <+: ls)
    (same : ∀ l ∈ mid, ¬ l.Did (StoresSession deviceId)) : seq < seq' := by
  obtain ⟨c₂, _, _, -, before, step', -, -⟩ := run.cut h
  obtain ⟨c₀, -, onwards⟩ := before.split
  obtain ⟨c₁, step, -, onwards⟩ := onwards.first
  obtain ⟨sess, -, -, -, hadvanced⟩ := ServerStep.accepted step.answered
  have hkept : ∀ sess, c₂.shared.sessions deviceId = some sess → seq ≤ sess.lastSeq := by
    refine onwards.invariant (I := fun mid c => (∀ l ∈ mid, ¬ l.Did (StoresSession deviceId)) →
      ∀ sess, c.shared.sessions deviceId = some sess → seq ≤ sess.lastSeq) ?_ ?_ same
    · intro _ sess' hsess'
      obtain rfl := Option.some.inj (hadvanced.symm.trans hsess')
      exact Nat.le_refl _
    · intro mid c l c' _ ih step _ same sess hsess
      have hbefore := ih fun l hl => same l (List.mem_append_left _ hl)
      have hl : ¬ l.Did (StoresSession deviceId) := same l (by simp)
      cases step with
      | start job _ => exact hbefore sess hsess
      | finish _ => exact hbefore sess hsess
      | @call i job m log q k s' r hbusy hR =>
        rcases ServerStep.session_cases hR deviceId with ⟨-, hsame⟩ | hchange
        · exact hbefore sess (hsame ▸ hsess)
        · change s'.sessions deviceId = some sess at hsess
          change ¬ StoresSession deviceId (Event.of q r) at hl
          generalize Event.of q r = ev at hchange hl
          rw [hsess] at hchange
          cases hchange with
          | stored key now => exact absurd rfl hl
          | advanced seq' now old hold live higher =>
            exact (hbefore old hold).trans (Nat.le_of_lt higher)
  obtain ⟨sess', hsess', -, hhigher, -⟩ := ServerStep.accepted step'.answered
  exact Nat.lt_of_le_of_lt (hkept sess' hsess') hhigher

/-- The device's session, as of a point of the run: what was stored last. -/
def InSession (deviceId : Text) (key : Bytes) (pre : List (Pool.Label M ι)) : Prop :=
  History.LastWith (Pool.Label.Did (StoresSession deviceId))
    (fun l _ => ∃ i now, l = .did i (.did (.storeSession deviceId key) now)) pre

/-- No session is stored under a key that another one had. -/
def FreshKeys (deviceId : Text) (ls : List (Pool.Label M ι)) : Prop :=
  ∀ pre pre' i i' key now now', pre ++ [.did i (.did (.storeSession deviceId key) now)] <+: ls →
    pre' ++ [.did i' (.did (.storeSession deviceId key) now')] <+: ls → pre = pre'

omit [DecidableEq ι] in
/-- Between two points of one session no session was stored. -/
theorem InSession.same {deviceId : Text} {key : Bytes} {pre mid : List (Pool.Label M ι)}
    {l : Pool.Label M ι} (h : InSession deviceId key pre)
    (h' : InSession deviceId key (pre ++ l :: mid)) (hls : pre ++ l :: mid <+: ls)
    (fresh : FreshKeys deviceId ls) : ∀ l ∈ mid, ¬ l.Did (StoresSession deviceId) := by
  obtain ⟨p, x, post, hsplit, -, -, i, now, rfl⟩ := h
  obtain ⟨p', x', post', hsplit', -, hpost', i', now', rfl⟩ := h'
  have hp : p ++ [.did i (.did (.storeSession deviceId key) now)] <+: ls := by
    refine List.IsPrefix.trans ⟨post ++ l :: mid, ?_⟩ hls
    rw [hsplit]
    simp
  have hp' : p' ++ [.did i' (.did (.storeSession deviceId key) now')] <+: ls := by
    refine List.IsPrefix.trans ⟨post', ?_⟩ hls
    rw [hsplit']
    simp
  obtain rfl := fresh _ _ _ _ _ _ _ hp hp'
  rw [hsplit, List.append_assoc, List.append_cancel_left_eq, List.cons_append] at hsplit'
  obtain ⟨-, rfl⟩ := List.cons.inj hsplit'
  intro l' hl'
  exact hpost' l' (by simp [hl'])

end

/-! ## Accepted messages -/

section

variable (rt : Runtime) (C : CryptoLib) {identity : Point} {ι : Type} [DecidableEq ι]

/-- A data message is accepted: `accept` is what had happened when its sequence number was. It was
opened with the key that was looked up before, and its thread has done nothing since. -/
structure Accepted (ls accept : List (Pool.Label (linkMachine rt C identity) ι)) (i : ι)
    (deviceId : Text) (key : Bytes) (seq : Nat) : Prop where
  advanced : ∃ t, accept ++ [.did i (.did (.advanceSeq deviceId seq) (t, true))] <+: ls
  looked : ∃ (before mid : List (Pool.Label (linkMachine rt C identity) ι)) (t : Time),
    accept = before ++ .did i (.did (.sessionKey deviceId) (t, some key)) :: mid ∧
    Pool.NoStart i mid ∧ Pool.eventsOf i mid = []
  verified : ∃ msg plaintext, openData C key msg = .ok (seq, plaintext)

/-- Its samples enter the buffer: `append` is what had happened when they did. -/
structure Appended (ls append : List (Pool.Label (linkMachine rt C identity) ι)) (i : ι)
    (deviceId : Text) (key : Bytes) (seq : Nat) : Prop where
  extended : ∃ samples verdict,
    append ++ [.did i (.did (.extendBuffer deviceId samples verdict) ())] <+: ls
  accepted : ∃ (accept mid : List (Pool.Label (linkMachine rt C identity) ι)) (t : Time),
    append = accept ++ .did i (.did (.advanceSeq deviceId seq) (t, true)) :: mid ∧
    Pool.NoStart i mid ∧ Pool.eventsOf i mid = [] ∧ Accepted rt C ls accept i deviceId key seq

/-- The runs without the defect, as far as a device is concerned.

* No session is stored between the lookup of a key and the acceptance that follows it.
* Between a message's acceptance and its entry into the buffer, no other one of the session is
  accepted and entered.
* No session is stored under a key that another one had. -/
structure Calm (ls : List (Pool.Label (linkMachine rt C identity) ι)) (deviceId : Text) : Prop where
  lookup : ∀ (i : ι) (before mid : List (Pool.Label (linkMachine rt C identity) ι)) t key t' seq,
    before ++ .did i (.did (.sessionKey deviceId) (t, some key)) :: mid ++
      [.did i (.did (.advanceSeq deviceId seq) (t', true))] <+: ls →
    Pool.NoStart i mid → Pool.eventsOf i mid = [] → ∀ l ∈ mid, ¬ l.Did (StoresSession deviceId)
  entry : ∀ (i : ι) (accept mid : List (Pool.Label (linkMachine rt C identity) ι)) seq t samples
      verdict,
    accept ++ .did i (.did (.advanceSeq deviceId seq) (t, true)) :: mid ++
      [.did i (.did (.extendBuffer deviceId samples verdict) ())] <+: ls →
    Pool.NoStart i mid → Pool.eventsOf i mid = [] →
    ¬ ∃ (j : ι) (first between later : List (Pool.Label (linkMachine rt C identity) ι)) (seq' : Nat)
        (t' : Time) (samples' : List Sample) (verdict' : Verdict),
      mid = first ++ .did j (.did (.advanceSeq deviceId seq') (t', true)) :: between ++
        .did j (.did (.extendBuffer deviceId samples' verdict') ()) :: later ∧
      ∀ l ∈ first, ¬ l.Did (StoresSession deviceId)
  fresh : FreshKeys deviceId ls

end

section

variable {rt : Runtime} {C : CryptoLib} {identity : Point} {ι : Type} [DecidableEq ι]
  {registry : Registry} {P : Pool.Config (linkMachine rt C identity) ι ServerState →
    Pool.Label (linkMachine rt C identity) ι → Prop}
  {ls : List (Pool.Label (linkMachine rt C identity) ι)}
  {c : Pool.Config (linkMachine rt C identity) ι ServerState}

/-- Every number that is accepted is the one of a message. -/
theorem accepted_of
    (run : Pool.Run (fun _ => ServerStep C identity) P (linkStarted rt C identity ι registry) ls c)
    {accept : List (Pool.Label (linkMachine rt C identity) ι)} {i : ι} {deviceId : Text} {seq : Nat}
    {t : Time} (h : accept ++ [.did i (.did (.advanceSeq deviceId seq) (t, true))] <+: ls) :
    ∃ key, Accepted rt C ls accept i deviceId key seq := by
  obtain ⟨c₁, c₂, post, -, before, step, -, -⟩ := run.cut h
  obtain ⟨job, conn, pre, mid, rest, rfl, hmid, -, hcall⟩ :=
    before.asserted_at serving_quiet step linkMachine_code
  cases hcall with
  | line _ _ call =>
    cases call with
    | issue _ _ call => exact call.elim
    | verify _ _ _ call => exact call.elim
    | reply h => cases h
    | data _ _ call =>
      obtain ⟨rfl, now, t', key, plaintext, hevents, hopen⟩ := call
      obtain ⟨first, later, rfl, -, hlater⟩ := Pool.eventsOf_eq_append
        ([.did .time now] : List (Event Server)) hevents
      refine ⟨key, ⟨t, h⟩, ⟨pre ++ .started i job :: first, later, t', by simp, ?_, hlater⟩,
        _, plaintext, hopen⟩
      intro l hl
      exact hmid l (by simp [hl])
  | hangUp _ _ _ _ call =>
    rcases call with h | ⟨_, h⟩
    · cases h
    · cases h
  | register _ _ call => cases call

/-- Everything that enters the buffer comes from an accepted message. -/
theorem appended_of
    (run : Pool.Run (fun _ => ServerStep C identity) P (linkStarted rt C identity ι registry) ls c)
    {append : List (Pool.Label (linkMachine rt C identity) ι)} {i : ι} {deviceId : Text}
    {samples : List Sample} {verdict : Verdict}
    (h : append ++ [.did i (.did (.extendBuffer deviceId samples verdict) ())] <+: ls) :
    ∃ key seq, Appended rt C ls append i deviceId key seq := by
  obtain ⟨c₁, c₂, post, -, before, step, -, -⟩ := run.cut h
  obtain ⟨job, conn, pre, mid, rest, rfl, hmid, -, hcall⟩ :=
    before.asserted_at serving_quiet step linkMachine_code
  cases hcall with
  | line _ _ call =>
    cases call with
    | issue _ _ call => exact call.elim
    | verify _ _ _ call => exact call.elim
    | reply h => cases h
    | data _ _ call =>
      obtain ⟨rfl, now, t, key, seq, t', plaintext, hevents, hopen, -⟩ := call
      obtain ⟨first, later, rfl, hfirst, hlater⟩ := Pool.eventsOf_eq_append
        (dataRead deviceId now t key) hevents
      have hlater' : Pool.NoStart i later := fun l hl => hmid l (by simp [hl])
      have hadvanced : (pre ++ .started i job :: first) ++
          [.did i (.did (.advanceSeq deviceId seq) (t', true))] <+: ls := by
        refine List.IsPrefix.trans ⟨later ++
          [.did i (.did (.extendBuffer deviceId samples verdict) ())], ?_⟩ h
        simp
      obtain ⟨looked, since, rfl, -, hsince⟩ := Pool.eventsOf_eq_append
        ([.did .time now] : List (Event Server)) hfirst
      refine ⟨key, seq, ⟨samples, verdict, h⟩, pre ++ .started i job :: _, later, t', by simp,
        hlater', hlater, ⟨t', hadvanced⟩, ⟨pre ++ .started i job :: looked, since, t, by simp, ?_,
          hsince⟩, _, plaintext, hopen⟩
      intro l hl
      exact hmid l (by simp [hl])
  | hangUp _ _ _ _ call =>
    rcases call with h | ⟨_, h⟩
    · cases h
    · cases h
  | register _ _ call => cases call

/-- The key a thread looked up last. -/
def lookedUp (i : ι) (ls : List (Pool.Label (linkMachine rt C identity) ι)) : Option Bytes :=
  match (Pool.eventsOf i ls).getLast? with
  | some (.did (.sessionKey _) (_, key)) => key
  | _ => none

theorem Accepted.key_eq {accept : List (Pool.Label (linkMachine rt C identity) ι)} {i : ι}
    {deviceId : Text} {key : Bytes} {seq : Nat} (h : Accepted rt C ls accept i deviceId key seq) :
    lookedUp i accept = some key := by
  obtain ⟨before, mid, t, rfl, -, hevents⟩ := h.looked
  have hlast :
      Pool.eventsOf i (before ++ .did i (.did (.sessionKey deviceId) (t, some key)) :: mid) =
      Pool.eventsOf i before ++ [.did (.sessionKey deviceId) (t, some key)] := by
    rw [Pool.eventsOf_append, Pool.eventsOf_did, hevents]
  rw [lookedUp, hlast, List.getLast?_concat]

/-- In a calm run the key that opened the message is the session's. -/
theorem Accepted.in_session
    (run : Pool.Run (fun _ => ServerStep C identity) P (linkStarted rt C identity ι registry) ls c)
    {accept : List (Pool.Label (linkMachine rt C identity) ι)} {i : ι} {deviceId : Text}
    {key : Bytes} {seq : Nat} (h : Accepted rt C ls accept i deviceId key seq) (calm : Calm rt C ls deviceId) :
    InSession deviceId key accept := by
  obtain ⟨t, hadvanced⟩ := h.advanced
  obtain ⟨before, mid, t', rfl, hmid, hevents⟩ := h.looked
  have untouched := calm.lookup i before mid t' key t seq hadvanced hmid hevents
  have hlooked : before ++ [.did i (.did (.sessionKey deviceId) (t', some key))] <+: ls := by
    refine List.IsPrefix.trans ⟨mid ++ [.did i (.did (.advanceSeq deviceId seq) (t, true))], ?_⟩
      hadvanced
    simp
  obtain ⟨c₁, c₂, post, -, run', step, -, -⟩ := run.cut hlooked
  obtain ⟨sess, hsess, rfl, -⟩ := ServerStep.handed_out step.answered
  obtain ⟨p, x, since, rfl, hx, hsince, j, now, rfl, -⟩ := session_stored run' hsess
  refine ⟨p, _, since ++ .did i (.did (.sessionKey deviceId) (t', some sess.key)) :: mid,
    by simp, hx, ?_, j, now, rfl⟩
  intro l hl
  rcases List.mem_append.mp hl with hl | hl
  · exact hsince l hl
  · rcases List.mem_cons.mp hl with rfl | hl
    · exact not_false
    · exact untouched l hl

/-- Two messages of one session, the earlier accepted one first: their numbers increase. -/
theorem Accepted.increase
    (run : Pool.Run (fun _ => ServerStep C identity) P (linkStarted rt C identity ι registry) ls c)
    {accept accept' : List (Pool.Label (linkMachine rt C identity) ι)} {i i' : ι} {deviceId : Text}
    {key : Bytes} {seq seq' : Nat} (h : Accepted rt C ls accept i deviceId key seq)
    (h' : Accepted rt C ls accept' i' deviceId key seq') (calm : Calm rt C ls deviceId)
    (hlt : accept.length < accept'.length) :
    ∃ t mid, accept' = accept ++ .did i (.did (.advanceSeq deviceId seq) (t, true)) :: mid ∧
      (∀ l ∈ mid, ¬ l.Did (StoresSession deviceId)) ∧ seq < seq' := by
  obtain ⟨t, hadvanced⟩ := h.advanced
  obtain ⟨t', hadvanced'⟩ := h'.advanced
  obtain ⟨mid, rfl⟩ := History.earlier hadvanced hadvanced' hlt
  have hmid : accept ++ .did i (.did (.advanceSeq deviceId seq) (t, true)) :: mid <+: ls :=
    (List.prefix_append ..).trans hadvanced'
  have same := (h.in_session run calm).same (h'.in_session run calm) hmid calm.fresh
  exact ⟨t, mid, rfl, same, accepted_increase run hadvanced' same⟩

theorem Accepted.unique
    (run : Pool.Run (fun _ => ServerStep C identity) P (linkStarted rt C identity ι registry) ls c)
    {accept accept' : List (Pool.Label (linkMachine rt C identity) ι)} {i i' : ι} {deviceId : Text}
    {key : Bytes} {seq : Nat} (h : Accepted rt C ls accept i deviceId key seq)
    (h' : Accepted rt C ls accept' i' deviceId key seq) (calm : Calm rt C ls deviceId) :
    accept = accept' := by
  rcases Nat.lt_trichotomy accept.length accept'.length with hlt | heq | hgt
  · obtain ⟨_, _, _, _, hless⟩ := h.increase run h' calm hlt
    exact absurd hless (Nat.lt_irrefl _)
  · obtain ⟨_, hadvanced⟩ := h.advanced
    obtain ⟨_, hadvanced'⟩ := h'.advanced
    exact (History.same_place hadvanced hadvanced' heq).1
  · obtain ⟨_, _, _, _, hless⟩ := h'.increase run h calm hgt
    exact absurd hless (Nat.lt_irrefl _)

/-- What enters the buffer earlier was accepted earlier. -/
theorem Appended.increase
    (run : Pool.Run (fun _ => ServerStep C identity) P (linkStarted rt C identity ι registry) ls c)
    {append append' : List (Pool.Label (linkMachine rt C identity) ι)} {i i' : ι} {deviceId : Text}
    {key : Bytes} {seq seq' : Nat} (h : Appended rt C ls append i deviceId key seq)
    (h' : Appended rt C ls append' i' deviceId key seq') (calm : Calm rt C ls deviceId)
    (hlt : append.length < append'.length) : seq < seq' := by
  obtain ⟨samples, verdict, hextended⟩ := h.extended
  obtain ⟨samples', verdict', hextended'⟩ := h'.extended
  obtain ⟨since, happend'⟩ := History.earlier hextended hextended' hlt
  obtain ⟨accept, mid, t, rfl, hmid, hevents, haccepted⟩ := h.accepted
  obtain ⟨accept', mid', t', rfl, hmid', hevents', haccepted'⟩ := h'.accepted
  obtain ⟨_, hadvanced⟩ := haccepted.advanced
  obtain ⟨_, hadvanced'⟩ := haccepted'.advanced
  rcases Nat.lt_trichotomy accept.length accept'.length with hearlier | hsame | hlater
  · obtain ⟨_, _, _, _, hless⟩ := haccepted.increase run haccepted' calm hearlier
    exact hless
  · -- one message enters once
    obtain ⟨rfl, hlabel⟩ := History.same_place hadvanced hadvanced' hsame
    cases hlabel
    rw [List.append_assoc, List.append_cancel_left_eq, List.cons_append] at happend'
    obtain ⟨-, hsplit⟩ := List.cons.inj happend'
    have hmem : Event.did (ServerAct.extendBuffer deviceId samples verdict) () ∈
        Pool.eventsOf i mid' := Pool.mem_eventsOf.mpr (by simp [hsplit])
    rw [hevents'] at hmem
    cases hmem
  · -- accepted before and entered after: not in a calm run
    obtain ⟨_, first, haccept, quiet, -⟩ := haccepted'.increase run haccepted calm hlater
    rw [haccept] at happend'
    simp only [List.append_assoc, List.cons_append, List.append_cancel_left_eq] at happend'
    obtain ⟨-, hsplit⟩ := List.cons.inj happend'
    refine absurd ⟨i, first, mid, since, seq, t, samples, verdict, ?_, quiet⟩
      (calm.entry i' accept' mid' seq' t' samples' verdict' hextended' hmid' hevents')
    rw [hsplit]
    simp

end

/-- **At most once**, in every calm run of any number of connections.

* Every sequence number that is accepted is that of a message opened under the key of the very
  session it advances.
* No pair of a session key and a sequence number is accepted twice.
* Whatever enters the buffer comes from an accepted message, and the messages of one session enter
  it in the order of their numbers. -/
theorem accepted_at_most_once (rt : Runtime) (C : CryptoLib) (identity : Point) {ι : Type}
    [DecidableEq ι] (registry : Registry) {ls : List (Pool.Label (linkMachine rt C identity) ι)}
    {c : Pool.Config (linkMachine rt C identity) ι ServerState}
    (run : Pool.Run (fun _ => ServerStep C identity) Pool.Any
      (linkStarted rt C identity ι registry) ls c) (calm : ∀ deviceId, Calm rt C ls deviceId) :
    (∀ accept i deviceId seq t,
      accept ++ [.did i (.did (.advanceSeq deviceId seq) (t, true))] <+: ls →
      ∃ key, Accepted rt C ls accept i deviceId key seq ∧ InSession deviceId key accept) ∧
    (∀ accept accept' i i' deviceId key seq, Accepted rt C ls accept i deviceId key seq →
      Accepted rt C ls accept' i' deviceId key seq → accept = accept') ∧
    (∀ append i deviceId samples verdict,
      append ++ [.did i (.did (.extendBuffer deviceId samples verdict) ())] <+: ls →
      ∃ key seq, Appended rt C ls append i deviceId key seq) ∧
    (∀ append append' i i' deviceId key seq seq', Appended rt C ls append i deviceId key seq →
      Appended rt C ls append' i' deviceId key seq' → append.length < append'.length →
      seq < seq') := by
  refine ⟨?_, ?_, ?_, ?_⟩
  · intro accept i deviceId seq t h
    obtain ⟨key, haccepted⟩ := accepted_of run h
    exact ⟨key, haccepted, haccepted.in_session run (calm deviceId)⟩
  · intro accept accept' i i' deviceId key seq h h'
    exact h.unique run h' (calm deviceId)
  · intro append i deviceId samples verdict h
    exact appended_of run h
  · intro append append' i i' deviceId key seq seq' h h' hlt
    exact h.increase run h' (calm deviceId) hlt

/-! ## Runs, played -/

section

variable {rt : Runtime} {C : CryptoLib} {identity : Point} {ι : Type} [DecidableEq ι]
  {ls : List (Pool.Label (linkMachine rt C identity) ι)}

omit [DecidableEq ι] in
theorem freshKeys_of (h : (storedKeys ls).Nodup) (deviceId : Text) : FreshKeys deviceId ls := by
  have twice : ∀ {pre pre' : List (Pool.Label (linkMachine rt C identity) ι)} {i i' : ι} {key : Bytes}
      {now now' : Time}, pre ++ [.did i (.did (.storeSession deviceId key) now)] <+: ls →
      pre' ++ [.did i' (.did (.storeSession deviceId key) now')] <+: ls →
      ¬ pre.length < pre'.length := by
    intro pre pre' i i' key now now' hpre hpre' hlt
    obtain ⟨mid, rfl⟩ := History.earlier hpre hpre' hlt
    obtain ⟨post, rfl⟩ := hpre'
    have hkeys : storedKeys (pre ++ .did i (.did (.storeSession deviceId key) now) :: mid ++
        [.did i' (.did (.storeSession deviceId key) now')] ++ post) =
        storedKeys pre ++ (deviceId, key) :: (storedKeys mid ++ (deviceId, key) :: storedKeys post) := by
      simp [storedKeys]
    rw [hkeys] at h
    have hnot := (List.nodup_cons.mp (List.nodup_append.mp h).2.1).1
    exact hnot (by simp)
  intro pre pre' i i' key now now' hpre hpre'
  rcases Nat.lt_trichotomy pre.length pre'.length with hlt | heq | hgt
  · exact absurd hlt (twice hpre hpre')
  · exact (History.same_place hpre hpre' heq).1
  · exact absurd hgt (twice hpre' hpre)

/-- A key is handed out. -/
def handsOut : Pool.Label (linkMachine rt C identity) ι → Bool
  | .did _ (.did (.sessionKey _) (_, some _)) => true
  | _ => false

/-- A number is accepted, or samples enter a buffer, and on which thread. -/
def dataStep : Pool.Label (linkMachine rt C identity) ι → Option (Bool × ι)
  | .did i (.did (.advanceSeq _ _) (_, true)) => some (true, i)
  | .did i (.did (.extendBuffer _ _ _) _) => some (false, i)
  | _ => none

omit [DecidableEq ι] in
theorem storedKeys_of_stores {deviceId : Text} {l : Pool.Label (linkMachine rt C identity) ι}
    (h : l.Did (StoresSession deviceId)) : storedKeys [l] ≠ [] := by
  unfold Pool.Label.Did at h
  split at h
  · unfold StoresSession at h
    split at h
    · simp [storedKeys]
    · exact h.elim
  · exact h.elim

/-- A thread whose number is accepted enters its samples before anything else happens to a buffer. -/
theorem entered_next {i : ι} {accept mid : List (Pool.Label (linkMachine rt C identity) ι)}
    {deviceId : Text} {seq : Nat} {t : Time}
    (h : accept ++ .did i (.did (.advanceSeq deviceId seq) (t, true)) :: mid <+: ls)
    (hone : (ls.filterMap dataStep).IsChain fun m m' => m.1 = true → m' = (false, m.2))
    (hevents : Pool.eventsOf i mid = []) : mid.filterMap dataStep = [] := by
  obtain ⟨post, rfl⟩ := h
  simp only [List.filterMap_append, List.filterMap_cons, dataStep, List.append_assoc,
    List.cons_append] at hone
  cases hmid : mid.filterMap dataStep with
  | nil => rfl
  | cons m marks =>
    rw [hmid] at hone
    obtain rfl := (List.isChain_cons_cons.mp hone.right_of_append).1 rfl
    -- the next thing that happens is this thread's own, and it does nothing in between
    have hfirst : (false, i) ∈ mid.filterMap dataStep := hmid ▸ List.mem_cons_self
    obtain ⟨l, hl, hstep⟩ := List.mem_filterMap.mp hfirst
    unfold dataStep at hstep
    split at hstep
    · cases hstep
    · cases hstep
      have hev := Pool.mem_eventsOf.mpr hl
      rw [hevents] at hev
      cases hev
    · cases hstep

/-- A run is calm if it stores no session once a key was handed out, stores every key once, and
has no thread come between another's acceptance and entry. -/
theorem calm_of
    (hlookup : ls.Pairwise fun l l' => handsOut l = true → storedKeys [l'] = [])
    (hone : (ls.filterMap dataStep).IsChain fun m m' => m.1 = true → m' = (false, m.2))
    (hkeys : (storedKeys ls).Nodup) (deviceId : Text) : Calm rt C ls deviceId := by
  refine ⟨?_, ?_, freshKeys_of hkeys deviceId⟩
  · intro i before mid t key t' seq h _ _ l hl hdid
    obtain ⟨post, rfl⟩ := h
    simp only [List.append_assoc, List.cons_append] at hlookup
    have hafter := (List.pairwise_cons.mp (List.pairwise_append.mp hlookup).2.1).1
    exact storedKeys_of_stores hdid (hafter l (List.mem_append_left _ hl) rfl)
  · intro i accept mid seq t samples verdict h _ hevents
      ⟨j, first, between, later, seq', t', samples', verdict', hmid, _⟩
    have hquiet := entered_next ((List.prefix_append ..).trans h) hone hevents
    rw [hmid] at hquiet
    simp [dataStep] at hquiet

/-- A number that is accepted. -/
def acceptance : Pool.Label (linkMachine rt C identity) ι → Option (ι × Text × Nat)
  | .did i (.did (.advanceSeq deviceId seq) (_, true)) => some (i, deviceId, seq)
  | _ => none

omit [DecidableEq ι] in
theorem acceptance_eq {l : Pool.Label (linkMachine rt C identity) ι} {i : ι} {deviceId : Text}
    {seq : Nat} (h : acceptance l = some (i, deviceId, seq)) :
    ∃ t, l = .did i (.did (.advanceSeq deviceId seq) (t, true)) := by
  unfold acceptance at h
  split at h
  · cases h
    exact ⟨_, rfl⟩
  · cases h

/-- The first two numbers that are accepted, what came before the first, and what came between. -/
def acceptances (ls : List (Pool.Label (linkMachine rt C identity) ι)) :
    Option (List (Pool.Label (linkMachine rt C identity) ι) × Pool.Label (linkMachine rt C identity) ι ×
      List (Pool.Label (linkMachine rt C identity) ι) ×
      Pool.Label (linkMachine rt C identity) ι) := do
  let (before, first, rest) ← History.cutAt (fun l => (acceptance l).isSome) ls
  let (between, second, _) ← History.cutAt (fun l => (acceptance l).isSome) rest
  return (before, first, between, second)

omit [DecidableEq ι] in
theorem acceptances_eq {before between : List (Pool.Label (linkMachine rt C identity) ι)}
    {first second : Pool.Label (linkMachine rt C identity) ι}
    (h : acceptances ls = some (before, first, between, second)) :
    before ++ [first] <+: ls ∧ before ++ first :: between ++ [second] <+: ls := by
  simp only [acceptances, Option.bind_eq_bind, Option.bind_eq_some_iff, Prod.exists] at h
  obtain ⟨before', first', rest, hfirst, between', second', post, hsecond, h⟩ := h
  obtain ⟨rfl, -, -⟩ := History.cutAt_eq hfirst
  obtain ⟨rfl, -, -⟩ := History.cutAt_eq hsecond
  cases h
  exact ⟨⟨between ++ second :: post, by simp⟩, ⟨post, by simp⟩⟩

end

namespace Vectors

/-- The device attests on one connection and says hello on a second. A reading comes on the second,
and after the key for it was looked up another one on the first. -/
def crossedReadings :
    List (Pool.Label deviceLink (Fin 2)) × Pool.Config deviceLink (Fin 2) ServerState :=
  playServer lib serverIdentity.pub (fun i _ => if i = 1 then laterDesk else firstDesk)
    (linkStarted python lib serverIdentity.pub (Fin 2) enrolled) (
    byItself 0 (takes (helloMessage deviceName)) ++
    byItself 0 (takes (attestMessage genuineAnswer)) ++
    byItself 1 (takes (helloMessage deviceName)) ++
    [Pool.Turn.start 1 (takes secondData), Pool.Turn.call 1, Pool.Turn.call 1] ++
    byItself 0 (takes firstData) ++
    List.replicate 20 (Pool.Turn.call 1) ++ [Pool.Turn.finish 1])

theorem crossedReadings_run : Pool.Run (fun _ => ServerStep lib serverIdentity.pub) Pool.Any
    (linkStarted python lib serverIdentity.pub (Fin 2) enrolled) crossedReadings.1 crossedReadings.2 :=
  playServer_run ..

/-- The device attests and sends a reading. The reading's line arrives again on a second connection,
and after the key for it was looked up the device attests again, on a third. -/
def replayedReading :
    List (Pool.Label deviceLink (Fin 3)) × Pool.Config deviceLink (Fin 3) ServerState :=
  playServer lib serverIdentity.pub (fun i _ => if i = 2 then laterDesk else firstDesk)
    (linkStarted python lib serverIdentity.pub (Fin 3) enrolled) (
    byItself 0 (takes (helloMessage deviceName)) ++
    byItself 0 (takes (attestMessage genuineAnswer)) ++ byItself 0 (takes firstData) ++
    byItself 1 (takes (helloMessage deviceName)) ++
    [Pool.Turn.start 1 (takes firstData), Pool.Turn.call 1, Pool.Turn.call 1] ++
    byItself 2 (takes (helloMessage deviceName)) ++
    byItself 2 (takes (attestMessage laterAnswer)) ++
    List.replicate 20 (Pool.Turn.call 1) ++ [Pool.Turn.finish 1])

theorem replayedReading_run : Pool.Run (fun _ => ServerStep lib serverIdentity.pub) Pool.Any
    (linkStarted python lib serverIdentity.pub (Fin 3) enrolled) replayedReading.1
      replayedReading.2 := playServer_run ..

end Vectors

/-- Two readings on two connections whose steps interleave: both are accepted, in the one session. -/
theorem accepted_at_most_once_played : ∃ accept accept',
    lookedUp 1 accept = some Vectors.sessionKey ∧
    Accepted Vectors.python Vectors.lib Vectors.crossedReadings.1 accept 0 Vectors.deviceName
      Vectors.sessionKey 1 ∧ InSession Vectors.deviceName Vectors.sessionKey accept ∧
    Accepted Vectors.python Vectors.lib Vectors.crossedReadings.1 accept' 1 Vectors.deviceName
      Vectors.sessionKey 2 ∧ InSession Vectors.deviceName Vectors.sessionKey accept' := by
  have hplayed : (acceptances Vectors.crossedReadings.1).any (fun x => decide
        (acceptance x.2.1 = some (0, Vectors.deviceName, 1) ∧
          lookedUp 0 x.1 = some Vectors.sessionKey ∧ lookedUp 1 x.1 = some Vectors.sessionKey ∧
          acceptance x.2.2.2 = some (1, Vectors.deviceName, 2) ∧
          lookedUp 1 (x.1 ++ x.2.1 :: x.2.2.1) = some Vectors.sessionKey)) = true ∧
      (Vectors.crossedReadings.1.Pairwise
        fun l l' => handsOut l = true → storedKeys [l'] = []) ∧
      ((Vectors.crossedReadings.1.filterMap dataStep).IsChain
        fun m m' => m.1 = true → m' = (false, m.2)) ∧
      (storedKeys Vectors.crossedReadings.1).Nodup := by decide +kernel
  have run := Vectors.crossedReadings_run
  generalize Vectors.crossedReadings = played at run hplayed ⊢
  obtain ⟨hacceptances, hlookup, hone, hkeys⟩ := hplayed
  obtain ⟨⟨before, first, between, second⟩, hsome, hchecks⟩ :=
    (Option.any_eq_true _ _).mp hacceptances
  obtain ⟨hfirst, hkey, hother, hsecond, hkey'⟩ := of_decide_eq_true hchecks
  obtain ⟨_, rfl⟩ := acceptance_eq hfirst
  obtain ⟨_, rfl⟩ := acceptance_eq hsecond
  obtain ⟨hbefore, hbetween⟩ := acceptances_eq hsome
  have hall := (accepted_at_most_once _ _ _ _ run (calm_of hlookup hone hkeys)).1
  obtain ⟨key, haccepted, hsession⟩ := hall _ _ _ _ _ hbefore
  obtain ⟨key', haccepted', hsession'⟩ := hall _ _ _ _ _ hbetween
  obtain rfl := Option.some.inj (haccepted.key_eq.symm.trans hkey)
  obtain rfl := Option.some.inj (haccepted'.key_eq.symm.trans hkey')
  exact ⟨_, _, hother, haccepted, hsession, haccepted', hsession'⟩

/-- The device attests again between the lookup of its key and the acceptance: a reading of the old
session, replayed, is accepted a second time, as the first one of the new session. -/
theorem replayed_across_sessions :
    (∃ accept accept' i i', accept ≠ accept' ∧
      Accepted Vectors.python Vectors.lib Vectors.replayedReading.1 accept i Vectors.deviceName
        Vectors.sessionKey 1 ∧
      Accepted Vectors.python Vectors.lib Vectors.replayedReading.1 accept' i' Vectors.deviceName
        Vectors.sessionKey 1) ∧
    (Vectors.replayedReading.2.shared.sessions Vectors.deviceName).map
      (fun sess => (sess.key, sess.lastSeq)) = some (Vectors.laterKey, 1) := by
  have hplayed : (acceptances Vectors.replayedReading.1).any (fun x => decide
        (acceptance x.2.1 = some (0, Vectors.deviceName, 1) ∧
          lookedUp 0 x.1 = some Vectors.sessionKey ∧
          acceptance x.2.2.2 = some (1, Vectors.deviceName, 1) ∧
          lookedUp 1 (x.1 ++ x.2.1 :: x.2.2.1) = some Vectors.sessionKey)) = true ∧
      (Vectors.replayedReading.2.shared.sessions Vectors.deviceName).map
        (fun sess => (sess.key, sess.lastSeq)) = some (Vectors.laterKey, 1) := by decide +kernel
  have run := Vectors.replayedReading_run
  generalize Vectors.replayedReading = played at run hplayed ⊢
  obtain ⟨hacceptances, hsession⟩ := hplayed
  obtain ⟨⟨before, first, between, second⟩, hsome, hchecks⟩ :=
    (Option.any_eq_true _ _).mp hacceptances
  obtain ⟨hfirst, hkey, hsecond, hkey'⟩ := of_decide_eq_true hchecks
  obtain ⟨_, rfl⟩ := acceptance_eq hfirst
  obtain ⟨_, rfl⟩ := acceptance_eq hsecond
  obtain ⟨hbefore, hbetween⟩ := acceptances_eq hsome
  obtain ⟨key, haccepted⟩ := accepted_of run hbefore
  obtain ⟨key', haccepted'⟩ := accepted_of run hbetween
  obtain rfl := Option.some.inj (haccepted.key_eq.symm.trans hkey)
  obtain rfl := Option.some.inj (haccepted'.key_eq.symm.trans hkey')
  refine ⟨⟨before, _, 0, 1, ?_, haccepted, haccepted'⟩, hsession⟩
  intro heq
  simpa using congrArg List.length heq

end ConfidentialIoT
