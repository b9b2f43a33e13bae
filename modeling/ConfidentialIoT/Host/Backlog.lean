import ConfidentialIoT.Lib.Pace
import ConfidentialIoT.Sensor.Codecs

/-!
# `Host/Backlog.lean` — readings that were sent and not read

Once it is authenticated, the daemon's `serve` sends a READING every `READING_INTERVAL_SEC`
seconds; the Host's push loop has the TA make one READ every `interval` seconds, and a READ takes
one frame. Between them is the link, a queue between two clocks (`Lib/Pace.lean`): `toPace` and
`ofPace` say so step by step.

A pass of `serve` is one step, and a READ is one where it returns. The device sends nothing while
its push loop runs, and the link loses nothing, however much is on it.
-/

set_option autoImplicit false

namespace ConfidentialIoT

open Effects

abbrev ciotPushIntervalDefault : Nat := 3

/-- `main`'s `interval`, in seconds: what `atoi` makes of `CIOT_PUSH_INTERVAL`, if that is set and
positive. -/
def pushInterval (env : Option (BitVec 32)) : Nat :=
  match env with
  | some v => if 0 < v.toInt then v.toNat else ciotPushIntervalDefault
  | none => ciotPushIntervalDefault

theorem pushInterval_pos (env : Option (BitVec 32)) : 0 < pushInterval env := by
  unfold pushInterval
  split
  · rename_i v
    split_ifs with hv
    · rw [BitVec.toInt_eq_toNat_cond] at hv
      split_ifs at hv <;> omega
    · decide
  · decide

/-! ## The link between two clocks -/

/-- A frame of the daemon's, and when it went out. -/
structure SentReading where
  frame : Bytes
  sentAt : Int

structure LinkLoad where
  now : Int
  conn : Conn
  glob : Globals
  /-- the bytes that the PTA has not taken -/
  wire : Bytes
  /-- what was sent and not read, oldest first -/
  unread : List SentReading
  /-- when the next READ is called; the present, while one waits -/
  due : Int

/-- The daemon's calls in a pass at one moment, in which nothing comes from the device. -/
def Pushing (now : Int) (w : Bytes) (ev : Event Daemon) (w' : Bytes) : Prop :=
  w' = w ++ writtenBy [ev] ∧ match ev with
    | .did .time t => t = now
    | .ok (.select _) ready => ready = false
    | _ => True

/-- After a pass of `serve`. -/
def LinkLoad.pushed (s : LinkLoad) (tr : List (Event Daemon)) (conn : Conn) (glob : Globals)
    (wire : Bytes) : LinkLoad :=
  { s with
    conn := conn
    glob := glob
    wire := wire
    unread := if writtenBy tr = [] then s.unread else s.unread ++ [⟨writtenBy tr, s.now⟩] }

/-- After a READ: one that came back with a reading took the oldest. -/
def LinkLoad.read (s : LinkLoad) (interval : Nat) (r : Except TeeError Unit) (wire : Bytes) :
    LinkLoad :=
  { s with
    wire := wire
    unread := match r with | .ok _ => s.unread.tail | .error _ => s.unread
    due := s.now + interval }

/-- The TA's READ, into a buffer of `PTA_SENSOR_LINK_READING_MAX` bytes. -/
structure LinkRead (s : LinkLoad) (r : Except TeeError Unit) (m : PtaMemory) (wire : Bytes) : Prop where
  evals : ∃ m₀ : PtaMemory, m₀.size = sensorLinkReadingMax ∧ ∃ tr, EvalsP Waiting
    (readInto (teeParamTypes .memrefOutput .none .none .none)) m₀ s.wire tr r m wire

inductive LinkStep (interval : Nat) : LinkLoad → LinkLoad → Prop where
  | pass {s : LinkLoad} {tr : List (Event Daemon)} {conn : Conn} {glob : Globals} {wire : Bytes}
      (h : EvalsP (Pushing s.now) (serveOnce s.conn) s.glob s.wire tr (.ok conn) glob wire) :
      LinkStep interval s (s.pushed tr conn glob wire)
  | read {s : LinkLoad} {r : Except TeeError Unit} {m : PtaMemory} {wire : Bytes}
      (hdue : s.now = s.due) (h : LinkRead s r m wire) : LinkStep interval s (s.read interval r wire)
  /-- A second passes: no reading is due, and no READ. -/
  | second {s : LinkLoad} (h : s.now - s.conn.lastReading < readingIntervalSec)
      (hdue : s.now < s.due) : LinkStep interval s { s with now := s.now + 1 }
  /-- A second passes while a READ waits for a frame. -/
  | wait {s : LinkLoad} (h : s.now - s.conn.lastReading < readingIntervalSec)
      (hdue : s.now = s.due) (hempty : s.wire = []) :
      LinkStep interval s { s with now := s.now + 1, due := s.due + 1 }

abbrev LinkRun (interval : Nat) : LinkLoad → LinkLoad → Prop :=
  Relation.ReflTransGen (LinkStep interval)

/-- The daemon has just answered the challenge, and the push loop begins. -/
structure Started (interval : Nat) (s : LinkLoad) : Prop where
  authenticated : s.conn.authenticated = true
  lastReading : s.conn.lastReading = s.now
  wire : s.wire = []
  unread : s.unread = []
  notLate : s.now ≤ s.due
  soon : s.due ≤ s.now + interval

/-! ## One pass of `serve` -/

section

variable {now : Int} {c c' : Conn} {fd : Nat} {g g' : Globals} {w w' : Bytes}
  {tr : List (Event Daemon)}

theorem pushing_written (h : Through (Pushing now) w tr w') : w' = w ++ writtenBy tr := by
  induction h with
  | nil w => exact (List.append_nil w).symm
  | @cons w w₁ w' ev tr hstep _ ih =>
    have hsplit : writtenBy (ev :: tr) = writtenBy [ev] ++ writtenBy tr := writtenBy_append [ev] tr
    rw [ih, hstep.1, hsplit, List.append_assoc]

/-- A reading is due and goes out as one frame, or nothing happens. -/
def SendsOne (now : Int) (c c' : Conn) (tr : List (Event Daemon)) : Prop :=
  (writtenBy tr = [] ∧ c' = c) ∨
  (readingIntervalSec ≤ now - c.lastReading ∧
    writtenBy tr = frameOf .reading (readingPayload c.tick) ∧
    c' = { c with tick := c.tick + 1, lastReading := now })

theorem pushReading_sends (h : EvalsP (Pushing now) (pushReading c) g w tr (.ok c') g' w') :
    SendsOne now c c' tr := by
  unfold pushReading at h
  by_cases hauth : c.authenticated = true
  · rw [if_neg (not_not.mpr hauth)] at h
    rcases evalsP_bind.mp h with ⟨e, hfail, -⟩ | ⟨t, g₁, w₁, tr₁, tr₂, rfl, htime, hthen⟩
    · cases hfail
    obtain ⟨t', rfl, hok, -, hstep⟩ := evalsP_act.mp htime
    obtain rfl : t = t' := Except.ok.inj hok
    obtain rfl : t = now := hstep.2
    have hnone : writtenBy [(.did .time t : Event Daemon)] = [] := rfl
    by_cases hdue : t - c.lastReading ≥ readingIntervalSec
    · rw [if_pos hdue] at hthen
      rcases evalsP_bind.mp hthen with ⟨e, hfail, -⟩ | ⟨u, g₂, w₂, tr₂, tr₃, rfl, hsend, hret⟩
      · cases hfail
      obtain ⟨rfl, hc, -, -⟩ := evalsP_pure.mp hret
      have hframe : writtenBy tr₂ = frameOf .reading (readingPayload c.tick) :=
        hsend.sound (writeFrame_writes .reading (readingPayload c.tick))
      right
      refine ⟨hdue, ?_, Except.ok.inj hc⟩
      rw [List.append_nil, writtenBy_append, hnone, hframe, List.nil_append]
    · rw [if_neg hdue] at hthen
      obtain ⟨rfl, hc, -, -⟩ := evalsP_pure.mp hthen
      exact Or.inl ⟨hnone, Except.ok.inj hc⟩
  · rw [if_pos hauth] at h
    obtain ⟨rfl, hc, -, -⟩ := evalsP_pure.mp h
    exact Or.inl ⟨rfl, Except.ok.inj hc⟩

theorem serveOnce_sends (h : EvalsP (Pushing now) (serveOnce c) g w tr (.ok c') g' w') :
    SendsOne now c c' tr := by
  unfold serveOnce at h
  rcases evalsP_bind.mp h with ⟨e, hfail, -⟩ | ⟨answer, g₁, w₁, tr₁, tr₂, rfl, hselect, hthen⟩
  · cases hfail
  obtain ⟨x, hx, hattempt⟩ := evalsP_outcome.mp hselect
  obtain rfl : answer = x := Except.ok.inj hx
  obtain ⟨rfl, -, hstep⟩ := evalsP_attempt.mp hattempt
  cases answer with
  | error e =>
    -- an interrupted `select` is a pass without a reading, any other ends the connection
    cases e with
    | intr =>
      obtain ⟨rfl, hc, -, -⟩ := evalsP_pure.mp hthen
      exact Or.inl ⟨rfl, Except.ok.inj hc⟩
    | other =>
      obtain ⟨-, hc, -, -⟩ := evalsP_throw.mp hthen
      cases hc
  | ok ready =>
    obtain rfl : ready = false := hstep.2
    have hthen' : EvalsP (Pushing now) (pure c >>= pushReading) g₁ w₁ tr₂ (.ok c') g' w' := hthen
    rcases evalsP_bind.mp hthen' with ⟨e, hfail, -⟩ | ⟨c₁, g₂, w₂, tr₂, tr₃, rfl, hpure, hpush⟩
    · cases hfail
    obtain ⟨rfl, hc, -, -⟩ := evalsP_pure.mp hpure
    obtain rfl : c₁ = c := Except.ok.inj hc
    have hsent : SendsOne now c₁ c' tr₃ := pushReading_sends hpush
    exact hsent

/-- The frame may go out in two pieces. -/
theorem writeFull_sent {buf : Bytes} (h : buf ≠ []) :
    ∃ tr, EvalsP (Pushing now) (writeFull fd buf) g w tr (.ok ()) g (w ++ buf) := by
  obtain ⟨b, bs, rfl⟩ := List.exists_cons_of_ne_nil h
  let all : { n : Nat // n ≤ (b :: bs).length - 0 } := ⟨(b :: bs).length, le_rfl⟩
  have hstep : Pushing now w (.ok (.write fd (b :: bs) 0) all) (w ++ (b :: bs)) := by
    refine ⟨?_, trivial⟩
    show w ++ (b :: bs) = w ++ ((b :: bs).take (b :: bs).length ++ [])
    rw [List.take_length, List.append_nil]
  have hdone : ∀ fuel, writeLoop fd (b :: bs) fuel (b :: bs).length = pure () := by
    intro fuel
    cases fuel with
    | zero => rfl
    | succ fuel =>
      unfold writeLoop
      rw [if_neg (lt_irrefl _)]
  refine ⟨_, ?_, .cons hstep (.nil _)⟩
  refine Steps.call (S := Daemon) (c := .req (.write fd (b :: bs) 0)) (.ok all) ?_
  show Runs ((do
    if all.1 = 0 then
      throw .other
    writeLoop fd (b :: bs) bs.length (0 + all.1) : DaemonProc Unit).go g) [] _
  have hsome : ¬ all.1 = 0 := Nat.succ_ne_zero _
  rw [if_neg hsome, Nat.zero_add, hdone]
  exact .refl _

theorem writeFrame_sent {type : FrameType} {payload : Bytes} (h : payload ≠ []) :
    ∃ tr, EvalsP (Pushing now) (writeFrame fd type payload) g w tr (.ok ()) g
      (w ++ frameOf type payload) := by
  have hhdr : ∃ tr, EvalsP (Pushing now) (writeFull fd (frameHdr type payload.length)) g w tr (.ok ())
      g (w ++ frameHdr type payload.length) := writeFull_sent (List.cons_ne_nil _ _)
  have hbody : ∃ tr, EvalsP (Pushing now) (writeFull fd payload) g (w ++ frameHdr type payload.length)
      tr (.ok ()) g (w ++ frameHdr type payload.length ++ payload) := writeFull_sent h
  obtain ⟨tr₁, hhdr⟩ := hhdr
  obtain ⟨tr₂, hbody⟩ := hbody
  refine ⟨tr₁ ++ tr₂, ?_⟩
  unfold writeFrame
  refine evalsP_bind.mpr (Or.inr ⟨(), g, _, tr₁, tr₂, rfl, hhdr, ?_⟩)
  rw [if_pos h, frameOf, ← List.append_assoc]
  exact hbody

/-- A due reading can be sent. -/
theorem serveOnce_sent (hauth : c.authenticated = true)
    (hdue : readingIntervalSec ≤ now - c.lastReading) :
    ∃ tr, EvalsP (Pushing now) (serveOnce c) g w tr
      (.ok { c with tick := c.tick + 1, lastReading := now }) g
      (w ++ frameOf .reading (readingPayload c.tick)) := by
  have hframe : ∃ tr, EvalsP (Pushing now) (sendReading c.fd c.tick) g w tr (.ok ()) g
      (w ++ frameOf .reading (readingPayload c.tick)) := writeFrame_sent (List.cons_ne_nil _ _)
  obtain ⟨tr, hframe⟩ := hframe
  refine ⟨.ok (.select c.fd) false :: .did .time now :: tr, ?_⟩
  have hpush : EvalsP (Pushing now) (pushReading c) g w (.did .time now :: tr)
      (.ok { c with tick := c.tick + 1, lastReading := now }) g
      (w ++ frameOf .reading (readingPayload c.tick)) := by
    unfold pushReading
    rw [if_neg (not_not.mpr hauth)]
    refine evalsP_bind.mpr (Or.inr ⟨now, g, w, [.did .time now], tr, rfl, ?_, ?_⟩)
    · exact evalsP_act.mpr ⟨now, rfl, rfl, rfl, (List.append_nil w).symm, rfl⟩
    · rw [if_pos hdue]
      refine evalsP_bind.mpr (Or.inr ⟨(), g, _, tr, [], (List.append_nil tr).symm, hframe, ?_⟩)
      exact evalsP_pure.mpr ⟨rfl, rfl, rfl, rfl⟩
  refine ⟨?_, .cons ⟨(List.append_nil w).symm, rfl⟩ hpush.through⟩
  exact Steps.call (S := Daemon) (c := .req (.select c.fd)) (.ok false) hpush.runs

end

/-! ## One READ -/

section

variable {m m' : PtaMemory} {w w' : Bytes} {tr : List (Event Uart)} {r : Except TeeError Unit}

/-- `sensor_link_read` after `read_frame`. -/
def readReport : Except TeeError (Option Nat) × PtaMemory → Except TeeError Unit × PtaMemory
  | (.ok (some len), m) => (.ok (), { m with size := len })
  | (.ok none, m) => (.error .communication, m)
  | (.error e, m) => (.error e, m)

theorem readInto_go (hsize : m.size = sensorLinkReadingMax) :
    (readInto (teeParamTypes .memrefOutput .none .none .none)).go m =
      (readFrameInto .reading .out sensorLinkReadingMax).go m >>= fun out => .ret (readReport out) := by
  unfold readInto
  have hfits : ¬ m.size < sensorLinkReadingMax := by
    rw [hsize]
    exact lt_irrefl _
  simp only [if_neg (not_not.mpr (Eq.refl (teeParamTypes .memrefOutput .none .none .none)))]
  rw [Proc.go_bind, Proc.go_get, Prog.ret_bind]
  dsimp only
  simp only [if_neg hfits]
  rw [Proc.go_bind, Proc.go_get, Prog.ret_bind]
  dsimp only
  rw [Proc.go_bind, hsize]
  refine congrArg ((readFrameInto .reading .out sensorLinkReadingMax).go m >>= ·) (funext ?_)
  rintro ⟨e | len, m₁⟩
  · rfl
  · cases len <;> rfl

theorem readInto_evals (hsize : m.size = sensorLinkReadingMax) :
    EvalsP Waiting (readInto (teeParamTypes .memrefOutput .none .none .none)) m w tr r m' w' ↔
      ∃ x m₁, EvalsP Waiting (readFrameInto .reading .out sensorLinkReadingMax) m w tr x m₁ w' ∧
        (r, m') = readReport (x, m₁) := by
  unfold EvalsP
  rw [readInto_go hsize, evals_bind]
  constructor
  · rintro ⟨⟨x, m₁⟩, w₁, tr₁, tr₂, rfl, hread, hret⟩
    obtain ⟨rfl, hout, rfl⟩ := evals_ret.mp hret
    rw [List.append_nil]
    exact ⟨x, m₁, hread, hout⟩
  · rintro ⟨x, m₁, hread, hout⟩
    refine ⟨(x, m₁), w', tr, [], (List.append_nil tr).symm, hread, ?_⟩
    exact evals_ret.mpr ⟨rfl, hout, rfl⟩

/-- On an empty link it waits in vain. -/
theorem uartReadIntoLoop_waits {dst : PtaBuffer} {len got : Nat} (hgot : got < len) (fuel waited : Nat) :
    ∃ tr, EvalsP Waiting (uartReadIntoLoop dst len fuel got waited) m [] tr (.ok false) m [] := by
  have hpoll : Waiting [] (.did .haveRxData false) [] := ⟨⟨rfl, nofun⟩, fun _ => rfl⟩
  have hdelay : Waiting [] (.did .mdelay ()) [] := ⟨rfl, nofun⟩
  induction fuel generalizing waited with
  | zero => exact ⟨[], evalsP_pure.mpr ⟨rfl, rfl, rfl, rfl⟩⟩
  | succ fuel ih =>
    unfold uartReadIntoLoop
    rw [if_pos hgot]
    by_cases hlate : waited ≥ sensorLinkReadTimeoutMs
    · refine ⟨[.did .haveRxData false], evalsP_bind.mpr (Or.inr ⟨false, m, [], [_], [], rfl, ?_, ?_⟩)⟩
      · exact evalsP_act.mpr ⟨false, rfl, rfl, rfl, hpoll⟩
      · rw [if_neg Bool.false_ne_true, if_pos hlate]
        exact evalsP_pure.mpr ⟨rfl, rfl, rfl, rfl⟩
    · obtain ⟨tr, hrest⟩ := ih (waited + 1)
      refine ⟨.did .haveRxData false :: .did .mdelay () :: tr,
        evalsP_bind.mpr (Or.inr ⟨false, m, [], [_], _, rfl, ?_, ?_⟩)⟩
      · exact evalsP_act.mpr ⟨false, rfl, rfl, rfl, hpoll⟩
      · rw [if_neg Bool.false_ne_true, if_neg hlate]
        refine evalsP_bind.mpr (Or.inr ⟨(), m, [], [_], tr, rfl, ?_, hrest⟩)
        exact evalsP_act.mpr ⟨(), rfl, rfl, rfl, hdelay⟩

theorem readFrameInto_waits : ∃ tr, EvalsP Waiting (readFrameInto .reading .out sensorLinkReadingMax) m
    [] tr (.ok none) m [] := by
  have hwaits : ∃ tr, EvalsP Waiting (uartReadInto .hdr frameHdrSize) m [] tr (.ok false) m [] :=
    uartReadIntoLoop_waits (Nat.zero_lt_succ _) _ 0
  obtain ⟨tr, hwaits⟩ := hwaits
  refine ⟨tr, ?_⟩
  unfold readFrameInto
  refine evalsP_bind.mpr (Or.inr ⟨false, m, [], tr, [], (List.append_nil tr).symm, hwaits, ?_⟩)
  rw [if_neg Bool.false_ne_true]
  exact evalsP_pure.mpr ⟨rfl, rfl, rfl, rfl⟩

/-- `read_frame` finds nothing where there is nothing. -/
theorem readFrameInto_empty {x : Except TeeError (Option Nat)}
    (h : EvalsP Waiting (readFrameInto .reading .out sensorLinkReadingMax) m [] tr x m' w') :
    x = .ok none ∧ w' = [] := by
  have hstream := arriving_gets (h.through.mono fun _ _ _ hstep => hstep.1)
  obtain ⟨hgets, hrest⟩ := List.append_eq_nil_iff.mp hstream.symm
  have hread := h.sound (readFrameInto_spec (E := fun _ _ _ => False))
  cases x with
  | error e => exact hread.elim
  | ok x =>
    obtain ⟨hdr, more, hread⟩ := hread
    cases x with
    | none => exact ⟨rfl, hrest⟩
    | some n =>
      obtain ⟨hframe, -⟩ := hread.frame
      rw [hgets, frameOf] at hframe
      exact absurd hframe (List.cons_ne_nil _ _).symm

end

section

variable {s : LinkLoad} {m : PtaMemory} {wire payload : Bytes} {r : Except TeeError Unit}

theorem LinkRead.empty (h : LinkRead s r m wire) (hempty : s.wire = []) :
    r = .error .communication ∧ wire = [] := by
  obtain ⟨m₀, hsize, tr, hrun⟩ := h.evals
  rw [hempty] at hrun
  obtain ⟨x, m₁, hread, hout⟩ := (readInto_evals hsize).mp hrun
  obtain ⟨rfl, hwire⟩ := readFrameInto_empty hread
  exact ⟨congrArg Prod.fst hout, hwire⟩

/-- A READ takes the frame that the link begins with, all of it and nothing else. -/
theorem LinkRead.frame (h : LinkRead s r m wire) (hlen : payload.length ≤ sensorLinkReadingMax) {rest : Bytes}
    (hwire : s.wire = frameOf .reading payload ++ rest) :
    r = .ok () ∧ wire = rest ∧ m.mem.view .out m.size = payload := by
  obtain ⟨m₀, hsize, tr, hrun⟩ := h.evals
  rw [hwire] at hrun
  obtain ⟨x, m₁, hread, hout⟩ := (readInto_evals hsize).mp hrun
  obtain ⟨rfl, hview, hrest⟩ := frame_waiting hlen hlen hread
  obtain ⟨rfl, rfl⟩ := Prod.ext_iff.mp hout
  exact ⟨rfl, hrest, hview⟩

theorem exists_read_empty (hempty : s.wire = []) : ∃ m, LinkRead s (.error .communication) m [] := by
  let m : PtaMemory := ⟨⟨fun _ _ => 0, []⟩, sensorLinkReadingMax⟩
  obtain ⟨tr, hwaits⟩ := readFrameInto_waits (m := m)
  refine ⟨m, ⟨m, rfl, tr, ?_⟩⟩
  rw [hempty]
  exact (readInto_evals rfl).mpr ⟨_, m, hwaits, rfl⟩

theorem exists_read_frame (hlen : payload.length ≤ sensorLinkReadingMax) {rest : Bytes}
    (hwire : s.wire = frameOf .reading payload ++ rest) : ∃ m, LinkRead s (.ok ()) m rest := by
  let m : PtaMemory := ⟨⟨fun _ _ => 0, []⟩, sensorLinkReadingMax⟩
  have htaken : ∃ tr m', EvalsP Waiting (readFrameInto .reading .out sensorLinkReadingMax) m
      (frameOf .reading payload ++ rest) tr (.ok (some payload.length)) m' rest := frame_taken hlen hlen
  obtain ⟨tr, m', htaken⟩ := htaken
  refine ⟨{ m' with size := payload.length }, ⟨m, rfl, tr, ?_⟩⟩
  rw [hwire]
  exact (readInto_evals rfl).mpr ⟨_, m', htaken, rfl⟩

end

/-! ## The link is such a queue -/

/-- What is on the wire is what was sent and not read, one frame each. -/
structure LinkLoad.Queued (s : LinkLoad) : Prop where
  authenticated : s.conn.authenticated = true
  wire : s.wire = s.unread.flatMap SentReading.frame
  frames : ∀ sent ∈ s.unread, ∃ tick, sent.frame = frameOf .reading (readingPayload tick)

/-- The clocks of a link. -/
def LinkLoad.pace (s : LinkLoad) : Pace :=
  ⟨s.now, s.conn.lastReading, s.due, s.unread.map SentReading.sentAt⟩

section

variable {interval : Nat} {s s' s₀ : LinkLoad}

theorem Started.queued (h : Started interval s) : s.Queued := by
  refine ⟨h.authenticated, ?_, ?_⟩
  · rw [h.wire, h.unread]
    rfl
  · rw [h.unread]
    exact nofun

theorem Started.fresh (h : Started interval s) : Pace.Fresh interval s.pace := by
  refine ⟨?_, h.lastReading, h.notLate, h.soon⟩
  show s.unread.map SentReading.sentAt = []
  rw [h.unread]
  rfl

theorem length_readingPayload (tick : UInt32) : (readingPayload tick).length ≤ sensorLinkReadingMax := by
  rw [readingPayload, List.length_append, List.length_append, Bytes.length_toBE]
  decide

/-- A READ takes the oldest of what is unread, if there is one. -/
theorem LinkLoad.Queued.read (h : s.Queued) {r : Except TeeError Unit} {m : PtaMemory} {wire : Bytes}
    (hread : LinkRead s r m wire) : (s.read interval r wire).Queued ∧
    (s.read interval r wire).unread = s.unread.tail := by
  obtain ⟨hauth, hwire, hframes⟩ := h
  cases hunread : s.unread with
  | nil =>
    rw [hunread] at hwire
    obtain ⟨rfl, rfl⟩ := hread.empty hwire
    refine ⟨⟨hauth, ?_, hframes⟩, hunread⟩
    show [] = s.unread.flatMap SentReading.frame
    rw [hunread]
    rfl
  | cons sent rest =>
    obtain ⟨tick, hframe⟩ := hframes sent (hunread ▸ List.mem_cons_self)
    rw [hunread, List.flatMap_cons, hframe] at hwire
    obtain ⟨rfl, rfl, -⟩ := hread.frame (length_readingPayload tick) hwire
    have htail : s.unread.tail = rest := congrArg List.tail hunread
    refine ⟨⟨hauth, congrArg (List.flatMap SentReading.frame) htail.symm, ?_⟩, htail⟩
    intro sent' hsent'
    exact hframes sent' (List.mem_of_mem_tail hsent')

/-- A pass of `serve` puts one reading behind the others, or changes nothing that counts. -/
theorem LinkLoad.Queued.pass (h : s.Queued) {tr : List (Event Daemon)} {conn : Conn} {glob : Globals}
    {wire : Bytes}
    (hpass : EvalsP (Pushing s.now) (serveOnce s.conn) s.glob s.wire tr (.ok conn) glob wire) :
    (s.pushed tr conn glob wire).Queued ∧ ((s.pushed tr conn glob wire).pace = s.pace ∨
      Pace.Step readingIntervalSec interval s.pace (s.pushed tr conn glob wire).pace) := by
  obtain ⟨hauth, hwire, hframes⟩ := h
  have hwritten := pushing_written hpass.through
  rcases serveOnce_sends hpass with ⟨hnone, rfl⟩ | ⟨hdue, hframe, rfl⟩
  · have hunread : (s.pushed tr s.conn glob wire).unread = s.unread := if_pos hnone
    refine ⟨⟨hauth, ?_, ?_⟩, Or.inl ?_⟩
    · rw [hunread, ← hwire]
      show wire = s.wire
      rw [hwritten, hnone, List.append_nil]
    · rw [hunread]
      exact hframes
    · unfold LinkLoad.pace
      rw [hunread]
      rfl
  · have hsome : writtenBy tr ≠ [] := by
      rw [hframe]
      exact List.cons_ne_nil _ _
    generalize hconn : ({ s.conn with tick := s.conn.tick + 1, lastReading := s.now } : Conn) = conn
    have hunread : (s.pushed tr conn glob wire).unread = s.unread ++ [⟨writtenBy tr, s.now⟩] :=
      if_neg hsome
    refine ⟨⟨?_, ?_, ?_⟩, Or.inr ?_⟩
    · rw [← hconn]
      exact hauth
    · rw [hunread, List.flatMap_append, ← hwire, List.flatMap_singleton]
      exact hwritten
    · rw [hunread]
      intro sent hsent
      rcases List.mem_append.mp hsent with hold | hnew
      · exact hframes sent hold
      · rw [List.mem_singleton.mp hnew]
        exact ⟨_, hframe⟩
    · have hput : (s.pushed tr conn glob wire).pace = s.pace.put := by
        unfold LinkLoad.pace Pace.put
        rw [hunread, List.map_append, ← hconn]
        rfl
      rw [hput]
      exact .put hdue

/-- The wire is empty when nothing is unread, and only then. -/
theorem LinkLoad.Queued.wire_nil_iff (h : s.Queued) : s.wire = [] ↔ s.unread = [] := by
  constructor
  · intro hempty
    cases hunread : s.unread with
    | nil => rfl
    | cons sent rest =>
      obtain ⟨tick, hframe⟩ := h.frames sent (hunread ▸ List.mem_cons_self)
      have hwire := h.wire
      rw [hempty, hunread, List.flatMap_cons, hframe] at hwire
      exact absurd hwire.symm (List.cons_ne_nil _ _)
  · intro hunread
    rw [h.wire, hunread]
    rfl

/-- A step of the link is one of the queue, or none. -/
theorem LinkLoad.Queued.toPace (h : s.Queued) (hstep : LinkStep interval s s') :
    s'.Queued ∧ (s'.pace = s.pace ∨ Pace.Step readingIntervalSec interval s.pace s'.pace) := by
  cases hstep with
  | pass hpass => exact h.pass hpass
  | @read r m wire hdue hread =>
    have htaken : (s.read interval r wire).Queued ∧ (s.read interval r wire).unread = s.unread.tail :=
      h.read hread
    refine ⟨htaken.1, Or.inr ?_⟩
    have htake : (s.read interval r wire).pace = s.pace.take interval := by
      unfold LinkLoad.pace Pace.take
      rw [htaken.2, List.map_tail]
      rfl
    rw [htake]
    exact .take hdue
  | second hquiet hdue => exact ⟨⟨h.authenticated, h.wire, h.frames⟩, Or.inr (.second hquiet hdue)⟩
  | wait hquiet hdue hempty =>
    refine ⟨⟨h.authenticated, h.wire, h.frames⟩, Or.inr (.wait hquiet hdue ?_)⟩
    exact List.map_eq_nil_iff.mpr (h.wire_nil_iff.mp hempty)

/-- Each step of the queue, the link can make. -/
theorem LinkLoad.Queued.ofPace (h : s.Queued) {q : Pace}
    (hstep : Pace.Step readingIntervalSec interval s.pace q) :
    ∃ s', LinkStep interval s s' ∧ s'.pace = q := by
  cases hstep with
  | put hdue =>
    have hsent : ∃ tr, EvalsP (Pushing s.now) (serveOnce s.conn) s.glob s.wire tr
        (.ok { s.conn with tick := s.conn.tick + 1, lastReading := s.now }) s.glob
        (s.wire ++ frameOf .reading (readingPayload s.conn.tick)) := serveOnce_sent h.authenticated hdue
    obtain ⟨tr, hsent⟩ := hsent
    refine ⟨_, .pass hsent, ?_⟩
    have hwritten := pushing_written hsent.through
    have hframe : writtenBy tr = frameOf .reading (readingPayload s.conn.tick) :=
      (List.append_cancel_left hwritten).symm
    have hsome : writtenBy tr ≠ [] := by
      rw [hframe]
      exact List.cons_ne_nil _ _
    unfold LinkLoad.pace LinkLoad.pushed Pace.put
    dsimp only
    rw [if_neg hsome, List.map_append]
    rfl
  | take hdue =>
    have hread : ∃ r m wire, LinkRead s r m wire := by
      cases hunread : s.unread with
      | nil =>
        obtain ⟨m, hread⟩ := exists_read_empty (h.wire_nil_iff.mpr hunread)
        exact ⟨_, m, _, hread⟩
      | cons sent rest =>
        obtain ⟨tick, hframe⟩ := h.frames sent (hunread ▸ List.mem_cons_self)
        have hwire := h.wire
        rw [hunread, List.flatMap_cons, hframe] at hwire
        obtain ⟨m, hread⟩ := exists_read_frame (length_readingPayload tick) hwire
        exact ⟨_, m, _, hread⟩
    obtain ⟨r, m, wire, hread⟩ := hread
    refine ⟨_, .read hdue hread, ?_⟩
    have htaken : (s.read interval r wire).Queued ∧ (s.read interval r wire).unread = s.unread.tail :=
      h.read hread
    unfold LinkLoad.pace Pace.take
    rw [htaken.2, List.map_tail]
    rfl
  | second hquiet hdue => exact ⟨_, .second hquiet hdue, rfl⟩
  | wait hquiet hdue hempty =>
    exact ⟨_, .wait hquiet hdue (h.wire_nil_iff.mpr (List.map_eq_nil_iff.mp hempty)), rfl⟩

theorem LinkRun.toPace (hstart : Started interval s) (h : LinkRun interval s s') :
    s'.Queued ∧ Pace.Run readingIntervalSec interval s.pace s'.pace := by
  induction h with
  | refl => exact ⟨hstart.queued, .refl⟩
  | tail _ hstep ih =>
    obtain ⟨hqueued, hrun⟩ := ih
    obtain ⟨hqueued', hsame | hpace⟩ := hqueued.toPace hstep
    · exact ⟨hqueued', hsame ▸ hrun⟩
    · exact ⟨hqueued', hrun.tail hpace⟩

theorem LinkRun.ofPace (hstart : Started interval s) {q : Pace}
    (h : Pace.Run readingIntervalSec interval s.pace q) : ∃ s', LinkRun interval s s' ∧ s'.pace = q := by
  induction h with
  | refl => exact ⟨s, .refl, rfl⟩
  | tail _ hstep ih =>
    obtain ⟨s₁, hrun, rfl⟩ := ih
    obtain ⟨s₂, hstep', hpace⟩ := (LinkRun.toPace hstart hrun).1.ofPace hstep
    exact ⟨s₂, hrun.tail hstep', hpace⟩

/-! ## What piles up -/

/-- A READ of a run came back, and with it the oldest of what was unread. -/
structure OldestRead (s : LinkLoad) (m : PtaMemory) (sent : SentReading) : Prop where
  read : ∃ wire, LinkRead s (.ok ()) m wire
  oldest : sent ∈ s.unread.head?

/-- One number bounds what is unread in every run. -/
def UnreadBounded (interval : Nat) : Prop :=
  ∃ K : Nat, ∀ s s', Started interval s → LinkRun interval s s' → s'.unread.length ≤ K

/-- One number bounds how old a reading is when a READ comes back with it. -/
def AgeBounded (interval : Nat) : Prop :=
  ∃ K : Int, ∀ s s' m sent, Started interval s → LinkRun interval s s' → s'.now = s'.due →
    OldestRead s' m sent → s'.now - sent.sentAt ≤ K

theorem length_pace_queue (s : LinkLoad) : s.pace.queue.length = s.unread.length := List.length_map _

theorem head_pace_queue {s : LinkLoad} {sent : SentReading} (h : sent ∈ s.unread.head?) :
    sent.sentAt ∈ s.pace.queue.head? := by
  obtain ⟨rest, hunread⟩ := List.head?_eq_some_iff.mp h
  show sent.sentAt ∈ (s.unread.map SentReading.sentAt).head?
  rw [hunread]
  rfl

theorem unreadBounded_of_le (hpos : 0 < interval) (hle : (interval : Int) ≤ readingIntervalSec) :
    UnreadBounded interval := by
  refine ⟨2, ?_⟩
  intro s s' hstart hrun
  have hpace := (LinkRun.toPace hstart hrun).2
  rw [← length_pace_queue]
  exact Pace.Run.length_le (by decide) (Int.natCast_pos.mpr hpos) hle hstart.fresh hpace

theorem ageBounded_of_le (hpos : 0 < interval) (hle : (interval : Int) ≤ readingIntervalSec) :
    AgeBounded interval := by
  refine ⟨2 * readingIntervalSec, ?_⟩
  intro s s' m sent hstart hrun _ hread
  have hpace := (LinkRun.toPace hstart hrun).2
  have hoccurs := head_pace_queue hread.oldest
  exact Pace.Run.age_le (by decide) (Int.natCast_pos.mpr hpos) hle hstart.fresh hpace hoccurs

/-- A connection on which the push loop can begin. -/
def linkStart (glob : Globals) : LinkLoad := ⟨0, ⟨0, 0, 0, true⟩, glob, [], [], 0⟩

theorem linkStart_started (glob : Globals) : Started interval (linkStart glob) where
  authenticated := rfl
  lastReading := rfl
  wire := rfl
  unread := rfl
  notLate := le_rfl
  soon := by
    show (0 : Int) ≤ 0 + interval
    omega

/-- With a longer interval there is a run, at the end of which a READ is due, that leaves more than
`K` readings unread. -/
theorem exists_backlog (hgt : readingIntervalSec < interval) (K : Nat) :
    ∃ s s', Started interval s ∧ LinkRun interval s s' ∧ s'.now = s'.due ∧ K < s'.unread.length := by
  let secret : BytesN sensorSecretSize := ⟨List.replicate sensorSecretSize 0, List.length_replicate⟩
  have hstart : Started interval (linkStart (.boot secret)) := linkStart_started _
  obtain ⟨q, hpace, hdue, hlen⟩ := hstart.fresh.piles (by decide) hgt K
  obtain ⟨s', hrun, rfl⟩ := LinkRun.ofPace hstart hpace
  rw [length_pace_queue] at hlen
  exact ⟨_, s', hstart, hrun, hdue, hlen⟩

theorem not_unreadBounded (hgt : readingIntervalSec < interval) : ¬ UnreadBounded interval := by
  rintro ⟨K, hbound⟩
  obtain ⟨s, s', hstart, hrun, -, hlen⟩ := exists_backlog hgt K
  exact absurd (hbound s s' hstart hrun) (Nat.not_le.mpr hlen)

theorem not_ageBounded (hgt : readingIntervalSec < interval) : ¬ AgeBounded interval := by
  rintro ⟨K, hbound⟩
  obtain ⟨s, s', hstart, hrun, hdue, hlen⟩ := exists_backlog hgt (K.toNat + 1)
  obtain ⟨hqueued, hpace⟩ := LinkRun.toPace hstart hrun
  cases hunread : s'.unread with
  | nil =>
    rw [hunread] at hlen
    exact absurd hlen (Nat.not_lt_zero _)
  | cons sent rest =>
    obtain ⟨tick, hframe⟩ := hqueued.frames sent (hunread ▸ List.mem_cons_self)
    have hwire := hqueued.wire
    rw [hunread, List.flatMap_cons, hframe] at hwire
    obtain ⟨m, hread⟩ := exists_read_frame (length_readingPayload tick) hwire
    have holdest : sent ∈ s'.unread.head? := by
      rw [hunread]
      exact rfl
    have hage := hbound s s' m sent hstart hrun hdue ⟨⟨_, hread⟩, holdest⟩
    -- the one that is read was sent before all the others
    have hpos : (0 : Int) < interval := lt_trans (by decide) hgt
    have hkept := Pace.Run.kept (by decide) hpos hstart.fresh hpace
    have hold := hkept.age_ge (head_pace_queue holdest)
    rw [length_pace_queue] at hold
    have hnow : s'.pace.now = s'.now := rfl
    have hinterval : readingIntervalSec = 2 := rfl
    rw [hnow, hinterval] at hold
    omega

/-- What the push loop and the daemon do together, each at its own interval. -/
structure PushRhythm (interval : Nat) : Prop where
  /-- a run can be of any length -/
  runs : ∀ s, Started interval s → ∀ n : Nat, ∃ s', LinkRun interval s s' ∧ s'.now = s.now + n
  /-- a READ that comes back holds the oldest reading -/
  oldest : ∀ s s' m sent, Started interval s → LinkRun interval s s' → OldestRead s' m sent →
    sent.frame = frameOf .reading (m.mem.view .out m.size)
  unread : UnreadBounded interval ↔ (interval : Int) ≤ readingIntervalSec
  age : AgeBounded interval ↔ (interval : Int) ≤ readingIntervalSec

theorem oldestRead_frame (hstart : Started interval s) (hrun : LinkRun interval s s')
    {m : PtaMemory} {sent : SentReading} (h : OldestRead s' m sent) :
    sent.frame = frameOf .reading (m.mem.view .out m.size) := by
  obtain ⟨⟨wire, hread⟩, holdest⟩ := h
  obtain ⟨hqueued, -⟩ := LinkRun.toPace hstart hrun
  obtain ⟨rest, hunread⟩ := List.head?_eq_some_iff.mp holdest
  obtain ⟨tick, hframe⟩ := hqueued.frames sent (hunread ▸ List.mem_cons_self)
  have hwire := hqueued.wire
  rw [hunread, List.flatMap_cons, hframe] at hwire
  obtain ⟨-, -, hview⟩ := hread.frame (length_readingPayload tick) hwire
  rw [hframe, hview]

/-- **Readings pile up unless they are read as fast as they are sent**, and then what is sealed is
as old as one likes. -/
theorem backlog_bounded_iff (env : Option (BitVec 32)) : PushRhythm (pushInterval env) where
  runs s hstart n := by
    have hpos : (0 : Int) < pushInterval env := Int.natCast_pos.mpr (pushInterval_pos env)
    have hruns : ∃ q, Pace.Run readingIntervalSec (pushInterval env) s.pace q ∧
        q.now = s.pace.now + n := hstart.fresh.runs (by decide) hpos n
    obtain ⟨q, hpace, hnow⟩ := hruns
    obtain ⟨s', hrun, rfl⟩ := LinkRun.ofPace hstart hpace
    exact ⟨s', hrun, hnow⟩
  oldest s s' m sent hstart hrun h := oldestRead_frame hstart hrun h
  unread := by
    refine ⟨?_, unreadBounded_of_le (pushInterval_pos env)⟩
    intro hbounded
    by_contra hgt
    exact not_unreadBounded (not_le.mp hgt) hbounded
  age := by
    refine ⟨?_, ageBounded_of_le (pushInterval_pos env)⟩
    intro hbounded
    by_contra hgt
    exact not_ageBounded (not_le.mp hgt) hbounded

/-- With `CIOT_PUSH_INTERVAL` unset, no number bounds what is unread, nor the age of what is
sealed. -/
theorem default_interval_piles : pushInterval none = ciotPushIntervalDefault ∧
    ¬ UnreadBounded ciotPushIntervalDefault ∧ ¬ AgeBounded ciotPushIntervalDefault :=
  ⟨rfl, not_unreadBounded (by decide), not_ageBounded (by decide)⟩

end

end ConfidentialIoT
