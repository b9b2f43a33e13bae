import ConfidentialIoT.Lib.Pool
import ConfidentialIoT.Sensor.Invocation

/-!
# `Sensor/Interleaving.lean` — several TA sessions inside the PTA

The PTA is registered with `TA_FLAG_CONCURRENT` and takes no lock, so between any two accesses of
one invocation to the UART any other may make its own. Here every access is one step of a run,
the frames the sensor sends arrive whole or in part whenever they like, and a `getchar` takes the
next byte for whoever asks first.

That the stream gives an invocation the bytes it takes in a row, and that what it writes arrives
in a row, are facts about runs in which nobody comes between (`Unbroken`).
-/

set_option autoImplicit false

namespace ConfidentialIoT

open Effects

/-! ## The shared UART -/

/-- What has gone over the UART: the frames the sensor sent, how many of their bytes were taken,
and the bytes the sensor received. -/
structure UartState where
  sent : List LinkFrame
  taken : Nat
  received : Bytes

/-- The incoming bytes. -/
def UartState.stream (s : UartState) : Bytes := wireOf s.sent

/-- What an access answers and does. A byte that was sent may still be on its way when
`haveRxData` is asked. -/
inductive UartStep {ι : Type} : ι → UartState → Event Uart → UartState → Prop where
  | putc (i : ι) (s : UartState) (b : UInt8) :
      UartStep i s (.did (.putc b) ()) { s with received := s.received ++ [b] }
  | haveRxData (i : ι) (s : UartState) (ready : Bool)
      (h : ready = true → s.taken < s.stream.length) :
      UartStep i s (.did .haveRxData ready) s
  | getchar (i : ι) (s : UartState) (b : UInt8) (h : s.stream[s.taken]? = some b) :
      UartStep i s (.did .getchar b) { s with taken := s.taken + 1 }
  | mdelay (i : ι) (s : UartState) : UartStep i s (.did .mdelay ()) s
  | transmit (i : ι) (s : UartState) (f : LinkFrame) :
      UartStep i s (.did (.transmit f) ()) { s with sent := s.sent ++ [f] }

/-- Who takes part; nothing is kept between two jobs. -/
def uartParty : Machine Uart where
  Job := UartJob
  Mem := Unit
  Out := Except TeeError Bytes × Unit
  code job _ := uartCode job
  mem _ := ()

abbrev UartConfig (ι : Type) : Type := Pool.Config uartParty ι UartState

abbrev UartLabel (ι : Type) : Type := Pool.Label uartParty ι

/-- Frames are not mixed. -/
structure Unmixed {ι : Type} [DecidableEq ι] (ls : List (UartLabel ι)) (c : UartConfig ι) : Prop where
  /-- What a successful invocation returns is the payload of one frame the sensor sent, of the type
  the command waits for. -/
  read : ∀ i cmdId params cmd log payload s, PtaCommand.ofId cmdId = some cmd →
    .returned i (.invoke cmdId params) () log (.ok payload, s) ∈ ls →
    ∃ f ∈ c.shared.sent, f.type = cmd.wants.byte ∧ f.payload = payload
  /-- A frame the sensor receives was written by one invocation, and that is all it wrote. -/
  written : ∀ frames rest, c.shared.received = wireOf frames ++ rest → ∀ f ∈ frames,
    ∃ i log, Pool.Remembers ls c i log ∧ putsOf log = f.bytes

/-! ## Whose turn it is -/

/-- Somebody has taken bytes and goes on. -/
def MidFrame : Pool.Agent uartParty → Prop
  | .busy _ _ log (.call _ _) => getsOf log ≠ []
  | _ => False

/-- Somebody has written a part of a request. -/
def MidRequest : Pool.Agent uartParty → Prop
  | .busy job _ log _ => ¬ Whole job.request log
  | .idle _ => False

/-- The next byte is the first of a frame. -/
def UartState.AtFrame (s : UartState) : Prop :=
  ∃ before after, s.sent = before ++ after ∧ s.taken = (wireOf before).length

variable {ι : Type}

/-- Nobody comes between two bytes of somebody else's frame, and who takes the first byte of a
frame takes it where a frame begins. -/
def Unbroken (c : UartConfig ι) : UartLabel ι → Prop
  | .did i (.did .getchar _) => (∀ j, j ≠ i → ¬ MidFrame (c.agents j)) ∧
      (getsOf (c.agents i).log = [] → c.shared.AtFrame)
  | .did i (.did (.putc _) _) => ∀ j, j ≠ i → ¬ MidRequest (c.agents j)
  | _ => True

/-! ## Reading -/

/-- What was taken is the beginning of what the sensor sent from some frame on; who goes on does so
there. -/
def ReadsFrame (s : UartState) (log : List (Event Uart)) (goesOn : Prop) : Prop :=
  getsOf log ≠ [] → ∃ before after, s.sent = before ++ after ∧ getsOf log <+: wireOf after ∧
    (goesOn → s.taken = (wireOf before).length + (getsOf log).length)

theorem UartStep.sent {i : ι} {s s' : UartState} {ev : Event Uart} (h : UartStep i s ev s') :
    s.sent <+: s'.sent := by
  cases h with
  | transmit f => exact List.prefix_append _ _
  | putc b => exact List.prefix_rfl
  | haveRxData ready _ => exact List.prefix_rfl
  | getchar b _ => exact List.prefix_rfl
  | mdelay => exact List.prefix_rfl

/-- Somebody who takes nothing in this step. -/
theorem ReadsFrame.keep {s s' : UartState} {log : List (Event Uart)} {goesOn goesOn' : Prop}
    (h : ReadsFrame s log goesOn) (hsent : s.sent <+: s'.sent)
    (htaken : getsOf log ≠ [] → goesOn' → goesOn ∧ s'.taken = s.taken) :
    ReadsFrame s' log goesOn' := by
  intro hgets
  obtain ⟨before, after, hsplit, hprefix, hat⟩ := h hgets
  obtain ⟨more, hmore⟩ := hsent
  refine ⟨before, after ++ more, ?_, ?_, ?_⟩
  · rw [← hmore, hsplit, List.append_assoc]
  · rw [wireOf_append]
    exact hprefix.trans (List.prefix_append _ _)
  · intro hgoes
    obtain ⟨hgoes, htaken⟩ := htaken hgets hgoes
    rw [htaken]
    exact hat hgoes

theorem Bytes.prefix_snoc {x l : Bytes} {b : UInt8} (h : x <+: l) (hb : l[x.length]? = some b) :
    x ++ [b] <+: l := by
  obtain ⟨t, rfl⟩ := h
  rw [List.getElem?_append_right le_rfl, Nat.sub_self] at hb
  cases t with
  | nil => cases hb
  | cons a t =>
    obtain rfl : a = b := Option.some.inj hb
    exact ⟨t, by simp⟩

/-- Somebody who makes an access. -/
theorem ReadsFrame.snoc {i : ι} {s s' : UartState} {log : List (Event Uart)} {ev : Event Uart}
    (h : ReadsFrame s log True) (step : UartStep i s ev s')
    (hfirst : ∀ b, ev = .did .getchar b → getsOf log = [] → s.AtFrame) :
    ReadsFrame s' (log ++ [ev]) True := by
  have hother : getsOf [ev] = [] → s'.taken = s.taken → ReadsFrame s' (log ++ [ev]) True := by
    intro hnone htaken hgets
    rw [getsOf_snoc, hnone, List.append_nil] at hgets ⊢
    exact h.keep step.sent (fun _ _ => ⟨trivial, htaken⟩) hgets
  cases step with
  | putc b => exact hother rfl rfl
  | haveRxData ready _ => exact hother rfl rfl
  | mdelay => exact hother rfl rfl
  | transmit f => exact hother rfl rfl
  | getchar b hb =>
    intro _
    have hhere : ∃ before after, s.sent = before ++ after ∧ getsOf log <+: wireOf after ∧
        s.taken = (wireOf before).length + (getsOf log).length := by
      by_cases hnone : getsOf log = []
      · obtain ⟨before, after, hsplit, htaken⟩ := hfirst b rfl hnone
        rw [hnone]
        exact ⟨before, after, hsplit, List.nil_prefix, htaken⟩
      · obtain ⟨before, after, hsplit, hprefix, hat⟩ := h hnone
        exact ⟨before, after, hsplit, hprefix, hat trivial⟩
    obtain ⟨before, after, hsplit, hprefix, htaken⟩ := hhere
    have hgets : getsOf (log ++ [.did .getchar b]) = getsOf log ++ [b] := getsOf_snoc log _
    rw [hgets]
    refine ⟨before, after, hsplit, Bytes.prefix_snoc hprefix ?_, fun _ => ?_⟩
    · rw [UartState.stream, hsplit, wireOf_append, htaken,
        List.getElem?_append_right (Nat.le_add_right _ _), Nat.add_sub_cancel_left] at hb
      exact hb
    · show s.taken + 1 = _
      rw [htaken, List.length_append, List.length_singleton, Nat.add_assoc]

/-- Everybody reads frames. -/
def Reads (ls : List (UartLabel ι)) (c : UartConfig ι) : Prop :=
  (∀ i job m log rest, c.agents i = .busy job m log rest →
    ReadsFrame c.shared log (MidFrame (c.agents i))) ∧
  ∀ i job m log out, .returned i job m log out ∈ ls → ReadsFrame c.shared log False

section

variable [DecidableEq ι] {c₀ c c' : UartConfig ι} {ls : List (UartLabel ι)} {l : UartLabel ι}
  {P : UartConfig ι → UartLabel ι → Prop}

theorem Reads.next (h : Reads ls c) (step : Pool.Step UartStep c l c') (admitted : Unbroken c l) :
    Reads (ls ++ [l]) c' := by
  obtain ⟨hbusy, hret⟩ := h
  cases step with
  | @start i m job hidle =>
    refine ⟨?_, ?_⟩
    · intro j job' m' log rest hj
      rcases Pool.Config.set_busy hj with ⟨-, heq⟩ | ⟨hne, hj'⟩
      · cases heq
        exact fun hgets => absurd rfl hgets
      · rw [Pool.Config.set_agents, if_neg hne]
        exact hbusy j job' m' log rest hj'
    · intro j job' m' log out hmem
      exact hret j job' m' log out (by simpa using hmem)
  | @call i job m log q k s' r hb hR =>
    have hsent := UartStep.sent hR
    refine ⟨?_, ?_⟩
    · intro j job' m' log' rest hj
      rcases Pool.Config.set_busy hj with ⟨rfl, heq⟩ | ⟨hne, hj'⟩
      · cases heq
        have hlog : (c.agents j).log = log := by rw [hb]; rfl
        have hmid := hbusy j job m log _ hb
        rw [hb] at hmid
        have hbefore : ReadsFrame c.shared log True :=
          hmid.keep List.prefix_rfl fun hgets _ => ⟨hgets, rfl⟩
        refine (hbefore.snoc hR ?_).keep List.prefix_rfl fun _ _ => ⟨trivial, rfl⟩
        intro b hev hnone
        rw [hev] at admitted
        exact admitted.2 (by rw [hlog]; exact hnone)
      · rw [Pool.Config.set_agents, if_neg hne]
        refine (hbusy j job' m' log' rest hj').keep hsent ?_
        intro _ hmid
        refine ⟨hmid, ?_⟩
        generalize hev : Event.of q r = ev at hR admitted
        cases hR with
        | getchar b _ => exact absurd hmid (admitted.1 j hne)
        | putc b => rfl
        | haveRxData ready _ => rfl
        | mdelay => rfl
        | transmit f => rfl
    · intro j job' m' log' out hmem
      exact (hret j job' m' log' out (by simpa using hmem)).keep hsent fun _ h => h.elim
  | @finish i job m log out hb =>
    refine ⟨?_, ?_⟩
    · intro j job' m' log' rest hj
      rcases Pool.Config.set_busy hj with ⟨-, heq⟩ | ⟨hne, hj'⟩
      · cases heq
      · rw [Pool.Config.set_agents, if_neg hne]
        exact hbusy j job' m' log' rest hj'
    · intro j job' m' log' out' hmem
      rcases List.mem_append.mp hmem with hmem | hmem
      · exact hret j job' m' log' out' hmem
      · rw [List.mem_singleton] at hmem
        cases hmem
        exact (hbusy i job m log _ hb).keep List.prefix_rfl fun _ h => h.elim

theorem reads (run : Pool.Run UartStep Unbroken c₀ ls c) (quiet : c₀.Quiet) : Reads ls c := by
  refine run.invariant (I := Reads) ⟨?_, nofun⟩ ?_
  · intro i job m log rest hbusy
    obtain ⟨m', hidle⟩ := quiet i
    cases hidle.symm.trans hbusy
  · intro ls c l c' _ ih step admitted
    exact ih.next step admitted

/-! ## Writing -/

/-- A job that was started, and what it has done. -/
def Log (ls : List (UartLabel ι)) (c : UartConfig ι) (i : ι) (job : UartJob)
    (log : List (Event Uart)) : Prop :=
  (∃ m rest, c.agents i = .busy job m log rest) ∨ ∃ m out, .returned i job m log out ∈ ls

/-- A whole request that somebody wrote. -/
def Wrote (ls : List (UartLabel ι)) (c : UartConfig ι) (request : Bytes) : Prop :=
  ∃ i job log, Log ls c i job log ∧ putsOf log = request ∧ job.request = request

/-- What the sensor has received: whole requests, and what there is of the next one. -/
structure Pieces (ls : List (UartLabel ι)) (c : UartConfig ι) (done : List Bytes) (begun : Bytes) :
    Prop where
  received : c.shared.received = done.flatten ++ begun
  whole : ∀ request ∈ done, Wrote ls c request
  mine : ∀ i, MidRequest (c.agents i) → putsOf (c.agents i).log = begun
  whose : begun ≠ [] → ∃ i, MidRequest (c.agents i)

/-- Where a job is in its request. -/
theorem request_at {job : UartJob} {log : List (Event Uart)}
    {rest : Prog Uart (Except TeeError Bytes × Unit)} (h : Effects.Steps (uartCode job) log rest) :
    Whole job.request log ∨ ∃ b k, rest = .call (.act (.putc b)) k ∧
      putsOf log ++ [b] <+: job.request := by
  cases rest with
  | ret out => exact Or.inl (wp_runs h (uartCode_spec job)).whole
  | call q k =>
    have hasserts := wp_asserts h (uartCode_spec job)
    match q, k with
    | .req r, _ => exact r.elim
    | .act (.putc b), k => exact Or.inr ⟨b, k, rfl, hasserts⟩
    | .act .haveRxData, _ => exact Or.inl hasserts
    | .act .getchar, _ => exact Or.inl hasserts
    | .act .mdelay, _ => exact Or.inl hasserts
    | .act (.transmit _), _ => exact Or.inl hasserts

/-- A whole request does not go on. -/
theorem not_whole_of_initial {request : Bytes} {log : List (Event Uart)} {b : UInt8}
    (h : putsOf log ++ [b] <+: request) : putsOf log ≠ request := by
  intro heq
  have hlen := h.length_le
  rw [heq, List.length_append, List.length_singleton] at hlen
  omega

theorem putsOf_other {log : List (Event Uart)} {ev : Event Uart} (h : putsOf [ev] = []) :
    putsOf (log ++ [ev]) = putsOf log := by rw [putsOf_snoc, h, List.append_nil]

omit [DecidableEq ι] in
/-- An access writes its byte, or nothing. -/
theorem UartStep.received {i : ι} {s s' : UartState} {ev : Event Uart} (h : UartStep i s ev s') :
    (∃ b, ev = .did (.putc b) ()) ∧ s'.received = s.received ++ putsOf [ev] ∨
      putsOf [ev] = [] ∧ s'.received = s.received := by
  cases h with
  | putc b => exact Or.inl ⟨⟨b, rfl⟩, rfl⟩
  | haveRxData ready _ => exact Or.inr ⟨rfl, rfl⟩
  | getchar b _ => exact Or.inr ⟨rfl, rfl⟩
  | mdelay => exact Or.inr ⟨rfl, rfl⟩
  | transmit f => exact Or.inr ⟨rfl, rfl⟩

/-- What a step does to what somebody has done. -/
theorem Log.next {i : ι} {job : UartJob} {log : List (Event Uart)} (h : Log ls c i job log)
    (step : Pool.Step UartStep c l c') : Log (ls ++ [l]) c' i job log ∨
      ∃ ev, l = .did i ev ∧ (∃ m rest, c.agents i = .busy job m log rest) ∧
        Log (ls ++ [l]) c' i job (log ++ [ev]) := by
  rcases h with ⟨m, rest, hbusy⟩ | ⟨m, out, hmem⟩
  · cases step with
    | @start j m' job' hidle =>
      left; left
      have hne : i ≠ j := by
        rintro rfl
        cases hidle.symm.trans hbusy
      exact ⟨m, rest, by rw [Pool.Config.set_agents, if_neg hne]; exact hbusy⟩
    | @call j job' m' log' q k s' r hb hR =>
      by_cases hij : i = j
      · subst hij
        right
        cases hbusy.symm.trans hb
        exact ⟨_, rfl, ⟨m, _, hb⟩, Or.inl ⟨m, k r, by rw [Pool.Config.set_agents, if_pos rfl]⟩⟩
      · left; left
        exact ⟨m, rest, by rw [Pool.Config.set_agents, if_neg hij]; exact hbusy⟩
    | @finish j job' m' log' out hb =>
      left
      by_cases hij : i = j
      · subst hij
        cases hbusy.symm.trans hb
        exact Or.inr ⟨m, out, by simp⟩
      · exact Or.inl ⟨m, rest, by rw [Pool.Config.set_agents, if_neg hij]; exact hbusy⟩
  · exact Or.inl (Or.inr ⟨m, out, List.mem_append_left _ hmem⟩)

theorem Wrote.next {request : Bytes} (h : Wrote ls c request)
    (run : Pool.Run UartStep P c₀ ls c) (quiet : c₀.Quiet) (step : Pool.Step UartStep c l c') :
    Wrote (ls ++ [l]) c' request := by
  obtain ⟨i, job, log, hlog, rfl, hrequest⟩ := h
  rcases hlog.next step with hlog' | ⟨ev, rfl, ⟨m, rest, hbusy⟩, hlog'⟩
  · exact ⟨i, job, log, hlog', rfl, hrequest⟩
  · refine ⟨i, job, _, hlog', ?_, hrequest⟩
    rcases step.answered.received with ⟨⟨b, rfl⟩, -⟩ | ⟨hnone, -⟩
    · -- the request is whole, so this byte would be one too many
      obtain ⟨job', m', log₁, k, hcall⟩ := step.of_did
      cases hbusy.symm.trans hcall
      exact absurd hrequest.symm
        (not_whole_of_initial (run.asserted quiet (fun job _ => uartCode_spec job) hcall))
    · exact putsOf_other hnone

/-- A byte of a request. -/
theorem Pieces.putc {done : List Bytes} {begun : Bytes} {i : ι} {b : UInt8}
    (h : Pieces ls c done begun) (run : Pool.Run UartStep P c₀ ls c) (quiet : c₀.Quiet)
    (step : Pool.Step UartStep c (.did i (.did (.putc b) ())) c')
    (alone : ∀ j, j ≠ i → ¬ MidRequest (c.agents j)) :
    ∃ done' begun', Pieces (ls ++ [.did i (.did (.putc b) ())]) c' done' begun' := by
  obtain ⟨job, m, log, k, hbusy⟩ := step.of_did
  obtain ⟨rest, hbusy'⟩ := step.did_agent hbusy
  have hprefix : putsOf log ++ [b] <+: job.request :=
    run.asserted quiet (fun job _ => uartCode_spec job) hbusy
  have hputs : putsOf (log ++ [.did (.putc b) ()]) = putsOf log ++ [b] := putsOf_snoc log _
  -- what is there of the next request is what this job wrote of it
  have hbegun : begun = putsOf log := by
    by_cases hwhole : Whole job.request log
    · rcases hwhole with hnone | hall
      · by_contra hne
        obtain ⟨j, hj⟩ := h.whose (by rw [hnone] at hne; exact hne)
        by_cases hij : j = i
        · subst hij
          rw [hbusy] at hj
          exact hj (Or.inl hnone)
        · exact alone j hij hj
      · exact absurd hall (not_whole_of_initial hprefix)
    · have hmine := h.mine i (by rw [hbusy]; exact hwhole)
      rw [hbusy] at hmine
      exact hmine.symm
  have hreceived : c'.shared.received = done.flatten ++ (putsOf log ++ [b]) := by
    rcases step.answered.received with ⟨-, hr⟩ | ⟨hnone, -⟩
    · rw [hr, h.received, hbegun, List.append_assoc]
      rfl
    · cases hnone
  have hothers : ∀ j, MidRequest (c'.agents j) → j = i := by
    intro j hj
    by_contra hne
    refine alone j hne ?_
    rw [step.others hne] at hj
    exact hj
  by_cases hwhole : Whole job.request (log ++ [.did (.putc b) ()])
  · have hall : putsOf log ++ [b] = job.request := by
      rcases hwhole with hnone | hall
      · rw [hputs] at hnone
        simp at hnone
      · exact hputs.symm.trans hall
    refine ⟨done ++ [putsOf log ++ [b]], [], ?_, ?_, ?_, ?_⟩
    · rw [hreceived, List.flatten_append, List.flatten_singleton, List.append_nil]
    · intro request hmem
      rcases List.mem_append.mp hmem with hmem | hmem
      · exact (h.whole request hmem).next run quiet step
      · obtain rfl := List.mem_singleton.mp hmem
        exact ⟨i, job, _, Or.inl ⟨m, rest, hbusy'⟩, hputs, hall.symm⟩
    · intro j hj
      obtain rfl := hothers j hj
      rw [hbusy'] at hj
      exact absurd hwhole hj
    · exact fun hne => absurd rfl hne
  · refine ⟨done, putsOf log ++ [b], hreceived, fun request hmem => ?_, ?_, ?_⟩
    · exact (h.whole request hmem).next run quiet step
    · intro j hj
      obtain rfl := hothers j hj
      rw [hbusy']
      exact hputs
    · intro _
      exact ⟨i, by rw [hbusy']; exact hwhole⟩

omit [DecidableEq ι] in
theorem midRequest_congr {job : UartJob} {m m' : Unit} {log log' : List (Event Uart)}
    {rest rest' : Prog Uart (Except TeeError Bytes × Unit)} (h : putsOf log' = putsOf log) :
    MidRequest (.busy job m log rest) ↔ MidRequest (.busy job m' log' rest') := by
  show ¬ (putsOf log = [] ∨ putsOf log = job.request) ↔
    ¬ (putsOf log' = [] ∨ putsOf log' = job.request)
  rw [h]

/-- A step that writes nothing leaves everybody's part of a request as it is. -/
theorem Pieces.other {done : List Bytes} {begun : Bytes} (h : Pieces ls c done begun)
    (run : Pool.Run UartStep P c₀ ls c) (quiet : c₀.Quiet) (step : Pool.Step UartStep c l c')
    (hreceived : c'.shared.received = c.shared.received)
    (hsame : ∀ j, MidRequest (c.agents j) ↔ MidRequest (c'.agents j))
    (hputs : ∀ j, MidRequest (c.agents j) → putsOf (c'.agents j).log = putsOf (c.agents j).log) :
    Pieces (ls ++ [l]) c' done begun := by
  refine ⟨hreceived.trans h.received, fun request hmem => ?_, ?_, ?_⟩
  · exact (h.whole request hmem).next run quiet step
  · intro j hj
    have hj' := (hsame j).mpr hj
    exact (hputs j hj').trans (h.mine j hj')
  · intro hne
    obtain ⟨j, hj⟩ := h.whose hne
    exact ⟨j, (hsame j).mp hj⟩

theorem Pieces.next {done : List Bytes} {begun : Bytes} (h : Pieces ls c done begun)
    (run : Pool.Run UartStep P c₀ ls c) (quiet : c₀.Quiet) (step : Pool.Step UartStep c l c')
    (admitted : Unbroken c l) : ∃ done' begun', Pieces (ls ++ [l]) c' done' begun' := by
  have hstep := step
  cases step with
  | @start i m job hidle =>
    refine ⟨done, begun, h.other run quiet hstep rfl ?_ ?_⟩
    · intro j
      rw [Pool.Config.set_agents]
      by_cases hij : j = i
      · subst hij
        rw [if_pos rfl, hidle]
        exact ⟨fun h => h.elim, fun h => absurd (Or.inl rfl) h⟩
      · rw [if_neg hij]
    · intro j hj
      rw [Pool.Config.set_agents, if_neg]
      rintro rfl
      rw [hidle] at hj
      exact hj
  | @call i job m log q k s' r hb hR =>
    generalize hev : Event.of q r = ev at hR admitted hstep ⊢
    rcases UartStep.received hR with ⟨⟨b, rfl⟩, -⟩ | ⟨hnone, hreceived⟩
    · exact h.putc run quiet hstep admitted
    · have hputs : putsOf (log ++ [ev]) = putsOf log := putsOf_other hnone
      refine ⟨done, begun, h.other run quiet hstep hreceived ?_ ?_⟩
      · intro j
        rw [Pool.Config.set_agents]
        by_cases hij : j = i
        · subst hij
          rw [if_pos rfl, show c.agents j = _ from hb]
          exact midRequest_congr hputs
        · rw [if_neg hij]
      · intro j _
        rw [Pool.Config.set_agents]
        by_cases hij : j = i
        · subst hij
          rw [if_pos rfl, show c.agents j = _ from hb]
          exact hputs
        · rw [if_neg hij]
  | @finish i job m log out hb =>
    have hwhole : Whole job.request log :=
      (wp_runs ((run.logs quiet).1 _ _ _ _ _ hb) (uartCode_spec job)).whole
    refine ⟨done, begun, h.other run quiet hstep rfl ?_ ?_⟩
    · intro j
      rw [Pool.Config.set_agents]
      by_cases hij : j = i
      · subst hij
        rw [if_pos rfl, hb]
        exact ⟨fun h => absurd hwhole h, fun h => h.elim⟩
      · rw [if_neg hij]
    · intro j hj
      rw [Pool.Config.set_agents, if_neg]
      rintro rfl
      rw [hb] at hj
      exact hj hwhole

theorem pieces (run : Pool.Run UartStep Unbroken c₀ ls c) (quiet : c₀.Quiet)
    (silent : c₀.shared.received = []) : ∃ done begun, Pieces ls c done begun := by
  refine run.invariant (I := fun ls c => ∃ done begun, Pieces ls c done begun)
    ⟨[], [], silent, nofun, ?_, fun hne => absurd rfl hne⟩ ?_
  · intro i hmid
    obtain ⟨m, hidle⟩ := quiet i
    rw [hidle] at hmid
    exact hmid.elim
  · intro ls c l c' run ⟨done, begun, h⟩ step admitted
    exact h.next run quiet step admitted

/-! ## Runs -/

/-- A request is one frame. -/
theorem request_frame (job : UartJob) :
    job.request = [] ∨ ∃ f : LinkFrame, f.bytes = job.request := by
  cases job with
  | transmit f => exact Or.inl rfl
  | invoke cmdId params =>
    cases hcmd : PtaCommand.ofId cmdId with
    | none => exact Or.inl (by rw [UartJob.request, hcmd])
    | some cmd =>
      cases cmd with
      | read => exact Or.inl (by rw [UartJob.request, hcmd])
      | fetchSecret =>
        refine Or.inr ⟨⟨FrameType.secretRequest.byte, [], by decide⟩, ?_⟩
        rw [UartJob.request, hcmd]
        rfl
      | challenge =>
        simp only [UartJob.request, hcmd]
        by_cases hsize : params.buf0.length = sensorLinkChallengeSize
        · rw [if_pos hsize]
          exact Or.inr ⟨⟨FrameType.challenge.byte, params.buf0, by rw [hsize]; decide⟩, rfl⟩
        · rw [if_neg hsize]
          exact Or.inl rfl

/-- Frames that arrive among whole frames and the beginning of one more are among the whole
ones. -/
theorem frames_received {frames : List LinkFrame} {rest begun : Bytes} {done : List Bytes}
    {last : LinkFrame} (hdone : ∀ request ∈ done, request = [] ∨ ∃ f : LinkFrame, f.bytes = request)
    (hbegun : ∃ b, begun ++ [b] <+: last.bytes)
    (h : wireOf frames ++ rest = done.flatten ++ begun) : ∀ f ∈ frames, f.bytes ∈ done := by
  induction done generalizing frames with
  | nil =>
    cases frames with
    | nil => exact nofun
    | cons f frames =>
      -- a whole frame does not fit into a part of one
      obtain ⟨b, tail, htail⟩ := hbegun
      rw [List.flatten_nil, List.nil_append] at h
      have hframe : f.bytes ++ (wireOf frames ++ rest ++ (b :: tail)) = last.bytes ++ [] := by
        rw [List.append_nil, ← htail, ← h, wireOf_cons]
        simp
      obtain ⟨-, hnil⟩ := LinkFrame.bytes_append_inj hframe
      simp at hnil
  | cons request done ih =>
    have hdone' : ∀ request ∈ done, request = [] ∨ ∃ f : LinkFrame, f.bytes = request :=
      fun request hmem => hdone request (List.mem_cons_of_mem _ hmem)
    rw [List.flatten_cons, List.append_assoc] at h
    rcases hdone request List.mem_cons_self with rfl | ⟨g, rfl⟩
    · intro f hf
      exact List.mem_cons_of_mem _ (ih hdone' h f hf)
    · cases frames with
      | nil => exact nofun
      | cons f frames =>
        rw [wireOf_cons, List.append_assoc] at h
        obtain ⟨rfl, htail⟩ := LinkFrame.bytes_append_inj h
        intro f' hf'
        rcases List.mem_cons.mp hf' with rfl | hf'
        · exact List.mem_cons_self
        · exact List.mem_cons_of_mem _ (ih hdone' htail f' hf')

/-- **Frames are not mixed while none is broken into.** In every run in which an invocation takes
a frame's first byte only where a frame begins, and takes and writes bytes only while no other is
in the middle of a frame, a successful invocation returns the payload of one frame of its type,
and every frame the sensor receives was written by one invocation. -/
theorem unmixed (quiet : c₀.Quiet) (silent : c₀.shared.received = [])
    (run : Pool.Run UartStep Unbroken c₀ ls c) : Unmixed ls c := by
  refine ⟨?_, ?_⟩
  · intro i cmdId params cmd log payload s hcmd hmem
    have hdone : JobDone (.invoke cmdId params) log (Except.ok payload, s).1 :=
      wp_runs (Q := fun log out => JobDone (.invoke cmdId params) log out.1)
        ((run.logs quiet).2 _ _ _ _ _ hmem) (uartCode_spec (.invoke cmdId params))
    obtain ⟨hlen, hgets⟩ := hdone.gets cmdId params cmd payload rfl hcmd rfl
    have hne : getsOf log ≠ [] := by
      rw [hgets]
      exact List.cons_ne_nil _ _
    obtain ⟨before, after, hsent, hprefix, -⟩ := (reads run quiet).2 _ _ _ _ _ hmem hne
    let f : LinkFrame := ⟨cmd.wants.byte, payload, hlen.trans_lt (by decide)⟩
    have hbytes : getsOf log = f.bytes := hgets
    rw [hbytes] at hprefix
    obtain ⟨rest, hrest⟩ := hprefix
    cases after with
    | nil =>
      rw [wireOf_nil] at hrest
      exact absurd (List.append_eq_nil_iff.mp hrest).1 f.bytes_ne_nil
    | cons g after =>
      rw [wireOf_cons] at hrest
      obtain ⟨hfg, -⟩ := LinkFrame.bytes_append_inj hrest
      refine ⟨f, ?_, rfl, rfl⟩
      rw [hsent, hfg]
      exact List.mem_append_right _ List.mem_cons_self
  · intro frames rest hreceived f hf
    obtain ⟨done, begun, h⟩ := pieces run quiet silent
    have hdone : ∀ request ∈ done, request = [] ∨ ∃ f : LinkFrame, f.bytes = request := by
      intro request hmem
      obtain ⟨i, job, log, -, -, hrequest⟩ := h.whole request hmem
      rw [← hrequest]
      exact request_frame job
    have hbegun : ∃ (last : LinkFrame) (b : UInt8), begun ++ [b] <+: last.bytes := by
      by_cases hnone : begun = []
      · rw [hnone]
        exact ⟨LinkFrame.refusal, _, List.prefix_append _ _⟩
      · obtain ⟨i, hmid⟩ := h.whose hnone
        have hmine := h.mine i hmid
        cases hagent : c.agents i with
        | idle m =>
          rw [hagent] at hmid
          exact hmid.elim
        | busy job m log rest' =>
          rw [hagent] at hmid hmine
          rcases request_at ((run.logs quiet).1 _ _ _ _ _ hagent) with hwhole | ⟨b, k, -, hprefix⟩
          · exact absurd hwhole hmid
          · rcases request_frame job with hempty | ⟨last, hlast⟩
            · rw [hempty] at hprefix
              simp at hprefix
            · refine ⟨last, b, ?_⟩
              rw [hlast, ← hmine]
              exact hprefix
    obtain ⟨last, hlast⟩ := hbegun
    obtain ⟨i, job, log, hlog, hputs, -⟩ :=
      h.whole _ (frames_received hdone hlast (hreceived.symm.trans h.received) f hf)
    refine ⟨i, log, ?_, hputs⟩
    rcases hlog with ⟨m, rest', hbusy⟩ | ⟨m, out, hmem⟩
    · exact Or.inl ⟨job, m, rest', hbusy⟩
    · exact Or.inr ⟨job, m, out, hmem⟩

end

/-! ## Played -/

/-- Who plays: the sensor, and two sessions. -/
abbrev Player : Type := Fin 3

/-- The UART answers: there is a byte whenever one was sent and not taken. -/
def uartAnswers (_ : Player) (_ : UartJob) (_ : Nat) (s : UartState) :
    (q : Call Uart) → q.Ans × UartState
  | .act (.putc b) => ((), { s with received := s.received ++ [b] })
  | .act .haveRxData => (decide (s.taken < s.stream.length), s)
  | .act .getchar => (s.stream.getD s.taken 0, { s with taken := s.taken + 1 })
  | .act .mdelay => ((), s)
  | .act (.transmit f) => ((), { s with sent := s.sent ++ [f] })
  | .req r => r.elim

/-- A `getchar` that there is no byte for is not admitted: it waits. -/
def uartReady (c : UartConfig Player) : UartLabel Player → Bool
  | .did _ (.did .getchar _) => decide (c.shared.taken < c.shared.stream.length)
  | _ => true

/-- Nothing was sent. -/
def uartStart : UartConfig Player where
  shared := ⟨[], 0, []⟩
  agents := fun _ => .idle ()

theorem uartStart_quiet : uartStart.Quiet := fun _ => ⟨(), rfl⟩

theorem uart_played {ok : UartConfig Player → UartLabel Player → Bool}
    (hok : ∀ c l, ok c l = true → uartReady c l = true) (turns : List (Pool.Turn uartParty Player)) :
    Pool.Run UartStep (fun c l => ok c l = true) uartStart
      (Pool.play uartAnswers ok uartStart turns).1 (Pool.play uartAnswers ok uartStart turns).2 := by
  refine Pool.play_run uartStart turns ?_
  intro c i job n q hadmitted
  have hready := hok _ _ hadmitted
  match q with
  | .req r => exact r.elim
  | .act (.putc b) => exact .putc i c.shared b
  | .act .haveRxData => exact .haveRxData i c.shared _ of_decide_eq_true
  | .act .getchar =>
    have hlt : c.shared.taken < c.shared.stream.length := of_decide_eq_true hready
    refine .getchar i c.shared _ ?_
    show _ = some (c.shared.stream.getD c.shared.taken 0)
    rw [List.getD_eq_getElem?_getD, List.getElem?_eq_getElem hlt]
    rfl
  | .act .mdelay => exact .mdelay i c.shared
  | .act (.transmit f) => exact .transmit i c.shared f

/-- A reading of 20 degrees. -/
def reading20 : LinkFrame := ⟨FrameType.reading.byte, [0, 0, 0, 20, 1, 67], by decide⟩

/-- A READ with room for any reading. -/
def readJob : UartJob :=
  .invoke 1 ⟨teeParamTypes .memrefOutput .none .none .none, List.replicate sensorLinkReadingMax 0, []⟩

/-- One byte taken: asked for, and got. -/
def takeBytes (i : Player) (n : Nat) : List (Pool.Turn uartParty Player) :=
  List.replicate (2 * n) (Pool.Turn.call i)

/-- The sensor sends a reading twice. One session reads the first header, another one takes the
next three bytes for a header, and the first goes on. -/
def mixedTurns : List (Pool.Turn uartParty Player) :=
  [Pool.Turn.start 0 (UartJob.transmit reading20), Pool.Turn.call 0, Pool.Turn.finish 0,
    Pool.Turn.start 0 (UartJob.transmit reading20), Pool.Turn.call 0, Pool.Turn.finish 0,
    Pool.Turn.start 1 readJob, Pool.Turn.start 2 readJob] ++
  takeBytes 1 3 ++ takeBytes 2 3 ++ takeBytes 1 6 ++ [Pool.Turn.finish 1]

def mixedRun : List (UartLabel Player) × UartConfig Player :=
  Pool.play uartAnswers uartReady uartStart mixedTurns

/-- What the first session is given ends with the header of the second frame. -/
def mixedPayload : Bytes := [20, 1, 67, 3, 0, 6]

/-- What a READ returned. -/
def readReturned : UartLabel Player → Option Bytes
  | .returned _ (.invoke cmdId _) _ _ (.ok payload, _) =>
    if PtaCommand.ofId cmdId = some .read then some payload else none
  | _ => none

theorem readReturned_mem {ls : List (UartLabel Player)} {payload : Bytes}
    (h : payload ∈ ls.filterMap readReturned) : ∃ i cmdId params log s,
      PtaCommand.ofId cmdId = some .read ∧
      .returned i (.invoke cmdId params) () log (.ok payload, s) ∈ ls := by
  obtain ⟨l, hl, hpayload⟩ := List.mem_filterMap.mp h
  match l, hpayload with
  | .returned i (.invoke cmdId params) m log (.ok payload', s), hpayload =>
    have hread : (if PtaCommand.ofId cmdId = some .read then some payload' else none) =
        some payload := hpayload
    by_cases hcmd : PtaCommand.ofId cmdId = some .read
    · rw [if_pos hcmd] at hread
      obtain rfl := Option.some.inj hread
      exact ⟨i, cmdId, params, log, s, hcmd, hl⟩
    · rw [if_neg hcmd] at hread
      cases hread

/-- A READ succeeds with bytes of two frames. -/
theorem frames_mixed :
    ∃ ls c, Pool.Run UartStep Pool.Any uartStart ls c ∧ ¬ Unmixed ls c := by
  refine ⟨mixedRun.1, mixedRun.2, (uart_played (fun _ _ h => h) mixedTurns).mono
    fun _ _ _ => trivial, ?_⟩
  intro h
  have hreturned : mixedPayload ∈ mixedRun.1.filterMap readReturned := by decide +kernel
  have hsent : mixedPayload ∉ mixedRun.2.shared.sent.map LinkFrame.payload := by decide +kernel
  obtain ⟨i, cmdId, params, log, s, hcmd, hmem⟩ := readReturned_mem hreturned
  obtain ⟨f, hf, -, hpayload⟩ := h.read i cmdId params .read log mixedPayload s hcmd hmem
  exact hsent (List.mem_map.mpr ⟨f, hf, hpayload⟩)

def midFrame : Pool.Agent uartParty → Bool
  | .busy _ _ log (.call _ _) => decide (getsOf log ≠ [])
  | _ => false

def midRequest : Pool.Agent uartParty → Bool
  | .busy job _ log _ => decide (putsOf log ≠ [] ∧ putsOf log ≠ job.request)
  | .idle _ => false

def atFrame (s : UartState) : Bool :=
  (List.range (s.sent.length + 1)).any fun n => decide (s.taken = (wireOf (s.sent.take n)).length)

/-- The steps `Unbroken` admits. -/
def inPieces (c : UartConfig Player) (l : UartLabel Player) : Bool :=
  uartReady c l &&
    match l with
    | .did i (.did .getchar _) => decide (∀ j, j ≠ i → midFrame (c.agents j) = false) &&
        (decide (getsOf (c.agents i).log ≠ []) || atFrame c.shared)
    | .did i (.did (.putc _) _) => decide (∀ j, j ≠ i → midRequest (c.agents j) = false)
    | _ => true

theorem not_midFrame {a : Pool.Agent uartParty} (h : midFrame a = false) : ¬ MidFrame a := by
  intro hmid
  match a, hmid with
  | .busy _ _ _ (.call _ _), hmid => exact of_decide_eq_false h hmid

theorem not_midRequest {a : Pool.Agent uartParty} (h : midRequest a = false) : ¬ MidRequest a := by
  intro hmid
  match a, hmid with
  | .busy _ _ _ _, hmid =>
    refine of_decide_eq_false h ⟨?_, ?_⟩
    · exact fun hnone => hmid (Or.inl hnone)
    · exact fun hwhole => hmid (Or.inr hwhole)

theorem atFrame_of {s : UartState} (h : atFrame s = true) : s.AtFrame := by
  obtain ⟨n, -, htaken⟩ := List.any_eq_true.mp h
  exact ⟨s.sent.take n, s.sent.drop n, (List.take_append_drop n s.sent).symm,
    of_decide_eq_true htaken⟩

theorem inPieces_unbroken {c : UartConfig Player} {l : UartLabel Player}
    (h : inPieces c l = true) : Unbroken c l := by
  obtain ⟨-, hl⟩ := Bool.and_eq_true_iff.mp h
  match l, hl with
  | .did i (.did .getchar b), hl =>
    obtain ⟨hothers, hfirst⟩ := Bool.and_eq_true_iff.mp hl
    refine ⟨fun j hne => not_midFrame (of_decide_eq_true hothers j hne), ?_⟩
    intro hnone
    rcases Bool.or_eq_true_iff.mp hfirst with hsome | hframe
    · exact absurd hnone (of_decide_eq_true hsome)
    · exact atFrame_of hframe
  | .did i (.did (.putc b) _), hl =>
    exact fun j hne => not_midRequest (of_decide_eq_true hl j hne)
  | .did i (.did .haveRxData _), _ => trivial
  | .did i (.did .mdelay _), _ => trivial
  | .did i (.did (.transmit _) _), _ => trivial
  | .did i (.ok r _), _ => exact r.elim
  | .did i (.refused r _), _ => exact r.elim
  | .started _ _, _ => trivial
  | .returned _ _ _ _ _, _ => trivial

/-- A sensor's secret. -/
def secret7 : LinkFrame :=
  ⟨FrameType.secret.byte, List.replicate sensorSecretSize 7, by decide⟩

/-- A FETCH_SECRET with room for it. -/
def fetchJob : UartJob :=
  .invoke 2 ⟨teeParamTypes .memrefOutput .none .none .none, List.replicate sensorSecretSize 0, []⟩

/-- Two sessions inside at once. One takes the reading that the sensor sends, the other writes its
request in the meantime, byte by byte, and takes the secret while the first has yet to return. -/
def unmixedTurns : List (Pool.Turn uartParty Player) :=
  [Pool.Turn.start 0 (UartJob.transmit reading20), Pool.Turn.call 0, Pool.Turn.finish 0,
    Pool.Turn.start 1 readJob, Pool.Turn.start 2 fetchJob] ++
  takeBytes 1 2 ++ [Pool.Turn.call 2] ++ takeBytes 1 1 ++ [Pool.Turn.call 2] ++ takeBytes 1 3 ++
  [Pool.Turn.call 2, Pool.Turn.start 0 (UartJob.transmit secret7), Pool.Turn.call 0,
    Pool.Turn.finish 0] ++
  takeBytes 1 3 ++ takeBytes 2 20 ++ [Pool.Turn.finish 1] ++ takeBytes 2 15 ++
  [Pool.Turn.finish 2]

def unmixedRun : List (UartLabel Player) × UartConfig Player :=
  Pool.play uartAnswers inPieces uartStart unmixedTurns

/-- What a command returned. -/
def payloadReturned : UartLabel Player → Option Bytes
  | .returned _ (.invoke _ _) _ _ (.ok payload, _) => some payload
  | _ => none

/-- Both sessions return the frame that was sent to them, and the sensor has the one request. -/
theorem unmixed_played : Unmixed unmixedRun.1 unmixedRun.2 ∧
    unmixedRun.1.filterMap payloadReturned = [reading20.payload, secret7.payload] ∧
    unmixedRun.2.shared.received = frameOf .secretRequest [] :=
  ⟨unmixed uartStart_quiet rfl ((uart_played (fun _ _ h => (Bool.and_eq_true_iff.mp h).1)
    unmixedTurns).mono fun _ _ h => inPieces_unbroken h), by decide +kernel⟩

end ConfidentialIoT
