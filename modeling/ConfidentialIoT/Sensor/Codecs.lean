import ConfidentialIoT.Lib.Eval
import ConfidentialIoT.Sensor.Buffers
import ConfidentialIoT.Sensor.Daemon
import ConfidentialIoT.TrustedApp.Reading

/-!
# `Sensor/Codecs.lean` — what one end of the link writes, the other reads

`sensor_link.c` and `sensor_daemon.c` each have their own `write_frame` and their own parser. The
bytes are connected here by two machines whose state is what has not been read yet: at the PTA's
end it is taken byte by byte, at the daemon's end in pieces of any size.
-/

set_option autoImplicit false

namespace ConfidentialIoT

open Effects

/-! ## From the daemon to the PTA -/

/-- The bytes that went out over a connection. -/
def writtenBy (tr : List (Event Daemon)) : Bytes := tr.flatMap fun
  | .ok (.write _ buf sent) n => buf.slice sent n.1
  | _ => []

theorem writtenBy_append (tr tr' : List (Event Daemon)) :
    writtenBy (tr ++ tr') = writtenBy tr ++ writtenBy tr' := List.flatMap_append

@[simp] theorem writtenBy_snoc (tr : List (Event Daemon)) (ev : Event Daemon) :
    writtenBy (tr ++ [ev]) = writtenBy tr ++ writtenBy [ev] := writtenBy_append tr [ev]

section

variable {fd : Nat} {g : Globals} {tr : List (Event Daemon)}

theorem writeLoop_writes {buf : Bytes} (fuel sent : Nat) (hfuel : buf.length ≤ sent + fuel) :
    wpP (fun _ _ => True) (writeLoop fd buf fuel sent)
      (fun tr' _ _ => writtenBy tr' = writtenBy tr ++ buf.drop sent) (fun _ _ _ => True) g tr := by
  induction fuel generalizing sent tr with
  | zero =>
    show writtenBy tr = _
    rw [Nat.add_zero] at hfuel
    rw [List.drop_eq_nil_of_le hfuel, List.append_nil]
  | succ fuel ih =>
    simp only [writeLoop, wpP_ite, wpP_bind, wpP_sys, wpP_throw, wpP_pure]
    refine ⟨?_, ?_⟩
    · intro hlt
      refine ⟨trivial, ?_, fun _ => trivial⟩
      intro n
      refine ⟨fun _ => trivial, ?_⟩
      intro hsome
      have hn := n.2
      refine wpP_conseq (ih (sent + n.1) (by omega)) ?_ fun _ _ _ _ => trivial
      intro tr' _ _ htr'
      rw [writtenBy_snoc] at htr'
      have hpiece : writtenBy [(.ok (.write fd buf sent) n : Event Daemon)] = (buf.drop sent).take n.1 :=
        List.append_nil _
      rw [htr', hpiece, List.append_assoc, ← List.drop_drop, List.take_append_drop]
    · intro hdone
      rw [List.drop_eq_nil_of_le (Nat.le_of_not_lt hdone), List.append_nil]

theorem writeFull_writes (buf : Bytes) : wpP (fun _ _ => True) (writeFull fd buf)
    (fun tr' _ _ => writtenBy tr' = writtenBy tr ++ buf) (fun _ _ _ => True) g tr :=
  writeLoop_writes _ 0 (by omega)

/-- `write_frame` of the daemon, if it returns. -/
theorem writeFrame_writes (type : FrameType) (payload : Bytes) :
    wpP (fun _ _ => True) (writeFrame fd type payload)
      (fun tr' _ _ => writtenBy tr' = writtenBy tr ++ frameOf type payload) (fun _ _ _ => True)
      g tr := by
  simp only [writeFrame, wpP_bind, wpP_ite, wpP_pure]
  refine wpP_conseq (writeFull_writes _) ?_ fun _ _ _ _ => trivial
  intro tr₁ g₁ _ hhdr
  refine ⟨?_, ?_⟩
  · intro _
    refine wpP_conseq (writeFull_writes payload) ?_ fun _ _ _ _ => trivial
    intro tr₂ _ _ hpayload
    rw [hpayload, hhdr, List.append_assoc]
    rfl
  · intro hempty
    rw [not_not] at hempty
    rw [hhdr, hempty, frameOf, List.append_nil]

end

/-- The stream at the PTA's end. Bytes may be on their way when `have_rx_data` is asked. -/
def Arriving (s : Bytes) (ev : Event Uart) (s' : Bytes) : Prop :=
  match ev with
  | .did .haveRxData ready => s' = s ∧ (ready = true → s ≠ [])
  | .did .getchar b => s = b :: s'
  | .did _ _ => s' = s

/-- The same, with all of them there. -/
def Waiting (s : Bytes) (ev : Event Uart) (s' : Bytes) : Prop :=
  Arriving s ev s' ∧ (ev = .did .haveRxData false → s = [])

theorem Arriving.gets {s s' : Bytes} {ev : Event Uart} (h : Arriving s ev s') :
    s = getsOf [ev] ++ s' := by
  cases ev with
  | ok r _ => exact r.elim
  | refused r _ => exact r.elim
  | did a b =>
    cases a with
    | getchar => exact h
    | haveRxData => exact h.1.symm
    | putc _ => exact h.symm
    | mdelay => exact h.symm
    | transmit _ => exact h.symm

/-- What was taken stood before what was left. -/
theorem arriving_gets {s s' : Bytes} {tr : List (Event Uart)} (h : Through Arriving s tr s') :
    s = getsOf tr ++ s' := by
  induction h with
  | nil s => rfl
  | @cons s s₁ s' ev tr hstep _ ih =>
    have hsplit : getsOf (ev :: tr) = getsOf [ev] ++ getsOf tr := List.filterMap_append (l := [ev])
    rw [hsplit, List.append_assoc, ← ih]
    exact hstep.gets

/-- The payload is in the buffer, and what followed the frame is unread. -/
structure GotFrame (dst : PtaBuffer) (payload rest : Bytes) (r : Except TeeError (Option Nat))
    (m' : PtaMemory) (s' : Bytes) : Prop where
  len : r = .ok (some payload.length)
  payload : m'.mem.view dst payload.length = payload
  unread : s' = rest

section

variable {type : FrameType} {dst : PtaBuffer} {size : Nat} {payload rest s' : Bytes}
  {m m' : PtaMemory} {tr : List (Event Uart)} {r : Except TeeError (Option Nat)}

theorem frameOf_append_inj {a b : Bytes} {payload' : Bytes} (h : payload.length < 65536)
    (h' : payload'.length < 65536) (heq : frameOf type payload ++ a = frameOf type payload' ++ b) :
    payload = payload' ∧ a = b := by
  obtain ⟨hframe, rfl⟩ := LinkFrame.bytes_append_inj (f := ⟨type.byte, payload, h⟩)
    (g := ⟨type.byte, payload', h'⟩) heq
  exact ⟨congrArg LinkFrame.payload hframe, rfl⟩

/-- `read_frame` on a stream that begins with a frame of the type: it has the payload, or it has
waited for the end of the frame in vain. -/
theorem frame_read (hlen : payload.length ≤ sensorLinkReadingMax) (hsize : payload.length ≤ size)
    (h : EvalsP Arriving (readFrameInto type dst size) m (frameOf type payload ++ rest) tr r m' s') :
    GotFrame dst payload rest r m' s' ∨ (r = .ok none ∧ TimedOut [] tr ∧
      (getsOf tr).length < (frameOf type payload).length) := by
  have hmax : payload.length ≤ 256 := hlen
  have hshort : payload.length < 65536 := by omega
  have hstream := arriving_gets h.through
  have hread := h.sound (readFrameInto_spec (E := fun _ _ _ => False))
  cases r with
  | error e => exact hread.elim
  | ok r =>
    obtain ⟨hdr, more, hread⟩ := hread
    cases r with
    | some n =>
      left
      obtain ⟨hframe, rfl, hn⟩ := hread.frame
      rw [hframe] at hstream
      have hn' : more.length ≤ 256 := hn
      obtain ⟨rfl, rfl⟩ := frameOf_append_inj hshort (by omega) hstream
      refine ⟨rfl, ?_, rfl⟩
      rw [hread.memory]
      exact Memory.view_storeAll _ _ _
    | none =>
      right
      have hgets : getsOf tr = hdr ++ more := hread.gets
      rw [hgets, frameOf, List.append_assoc, List.append_assoc] at hstream
      -- a header that came whole is the frame's
      have hwhole : hdr.length = frameHdrSize → hdr = frameHdr type payload.length := by
        intro hhdr
        exact (List.append_inj hstream (by rw [length_frameHdr, hhdr])).1.symm
      rw [hgets, List.length_append, frameOf, List.length_append, length_frameHdr]
      rcases hread.cut rfl with ⟨hhdr, rfl, htime⟩ | ⟨hhdr, rfl, hbad⟩ | ⟨hhdr, hmore, htime⟩
      · refine ⟨rfl, htime, ?_⟩
        rw [List.length_nil]
        omega
      · rw [hwhole hhdr, hdrType_frameHdr, hdrLen_frameHdr type hshort] at hbad
        rcases hbad with hbad | hbad | hbad
        · exact absurd rfl hbad
        · exact absurd hlen (Nat.not_le.mpr hbad)
        · exact absurd hsize (Nat.not_le.mpr hbad)
      · rw [hwhole hhdr, hdrLen_frameHdr type hshort] at hmore
        refine ⟨rfl, htime, ?_⟩
        omega

/-- Where all of it is there, nothing is waited for. -/
theorem frame_waiting (hlen : payload.length ≤ sensorLinkReadingMax) (hsize : payload.length ≤ size)
    (h : EvalsP Waiting (readFrameInto type dst size) m (frameOf type payload ++ rest) tr r m' s') :
    GotFrame dst payload rest r m' s' := by
  have harriving : Through Arriving (frameOf type payload ++ rest) tr s' :=
    h.through.mono fun _ _ _ hstep => hstep.1
  rcases frame_read hlen hsize ⟨h.runs, harriving⟩ with hgot | ⟨-, ⟨-, before, rfl⟩, hshort⟩
  · exact hgot
  · -- the last thing seen was that nothing is left, so all of the frame was taken
    obtain ⟨s₁, -, hlast⟩ := through_append.mp h.through
    obtain ⟨s₂, hstep, hnil⟩ := through_cons.mp hlast
    obtain rfl := through_nil.mp hnil
    have hempty : s' = [] := hstep.1.1.trans (hstep.2 rfl)
    have hall := congrArg List.length (arriving_gets harriving)
    rw [hempty, List.append_nil, List.length_append] at hall
    omega

/-- A read of bytes that are there. -/
theorem uartReadIntoLoop_takes {len fuel got : Nat} {bs : Bytes} (hlen : got + bs.length = len)
    (hfuel : bs.length < fuel) :
    ∃ tr, EvalsP Waiting (uartReadIntoLoop dst len fuel got 0) m (bs ++ rest) tr (.ok true)
      (m.storeAll dst got bs) rest := by
  induction bs generalizing fuel got m with
  | nil =>
    obtain ⟨fuel, rfl⟩ : ∃ n, fuel = n + 1 := ⟨fuel - 1, by omega⟩
    refine ⟨[], ?_⟩
    unfold uartReadIntoLoop
    rw [if_neg (by rw [List.length_nil] at hlen; omega)]
    exact evalsP_pure.mpr ⟨rfl, rfl, rfl, rfl⟩
  | cons b bs ih =>
    obtain ⟨fuel, rfl⟩ : ∃ n, fuel = n + 1 := ⟨fuel - 1, by omega⟩
    rw [List.length_cons] at hlen hfuel
    have hnext : ∃ tr, EvalsP Waiting (uartReadIntoLoop dst len fuel (got + 1) 0) (m.store dst got b)
        (bs ++ rest) tr (.ok true) ((m.store dst got b).storeAll dst (got + 1) bs) rest :=
      ih (by omega) (by omega)
    obtain ⟨tr, hrest⟩ := hnext
    refine ⟨.did .haveRxData true :: .did .getchar b :: tr, ?_⟩
    unfold uartReadIntoLoop
    rw [if_pos (by omega)]
    refine ⟨?_, .cons ⟨⟨rfl, fun _ => List.cons_ne_nil _ _⟩, (by rintro ⟨⟩)⟩ (.cons ⟨rfl, (by rintro ⟨⟩)⟩ hrest.through)⟩
    exact Steps.call (S := Uart) (c := .act .haveRxData) true
      (Steps.call (S := Uart) (c := .act .getchar) b hrest.runs)

/-- Such a frame is read. -/
theorem frame_taken (hlen : payload.length ≤ sensorLinkReadingMax) (hsize : payload.length ≤ size) :
    ∃ tr m', EvalsP Waiting (readFrameInto type dst size) m (frameOf type payload ++ rest) tr
      (.ok (some payload.length)) m' rest := by
  have hmax : payload.length ≤ 256 := hlen
  have hhdr : (frameHdr type payload.length).length = frameHdrSize := length_frameHdr _ _
  let m₁ : PtaMemory := m.storeAll .hdr 0 (frameHdr type payload.length)
  have htakesHdr : ∃ tr, EvalsP Waiting (uartReadInto .hdr frameHdrSize) m
      (frameHdr type payload.length ++ (payload ++ rest)) tr (.ok true) m₁ (payload ++ rest) :=
    uartReadIntoLoop_takes (by rw [hhdr, Nat.zero_add]) (by rw [hhdr]; omega)
  have htakesPayload : ∃ tr, EvalsP Waiting (uartReadInto dst payload.length) m₁ (payload ++ rest) tr
      (.ok true) (m₁.storeAll dst 0 payload) rest :=
    uartReadIntoLoop_takes (Nat.zero_add _) (by omega)
  obtain ⟨tr₁, hfirst⟩ := htakesHdr
  obtain ⟨tr₂, hthen⟩ := htakesPayload
  have hview : m₁.mem.view .hdr frameHdrSize = frameHdr type payload.length := by
    rw [← hhdr]
    exact Memory.view_storeAll _ _ _
  have hbig : ¬ (payload.length > sensorLinkReadingMax ∨ payload.length > size) := by
    rw [not_or, Nat.not_lt, Nat.not_lt]
    exact ⟨hlen, hsize⟩
  have hread : hdrLen (frameHdr type payload.length) = payload.length :=
    hdrLen_frameHdr type (by omega)
  rw [frameOf, List.append_assoc]
  unfold readFrameInto
  by_cases hzero : payload.length = 0
  · obtain rfl : payload = [] := List.length_eq_zero_iff.mp hzero
    refine ⟨tr₁ ++ ([] ++ []), m.storeAll .hdr 0 (frameHdr type 0),
      evalsP_bind.mpr (Or.inr ⟨true, _, _, _, _, rfl, hfirst, ?_⟩)⟩
    rw [if_pos rfl]
    refine evalsP_bind.mpr (Or.inr ⟨_, _, _, _, _, rfl, evalsP_get.mpr ⟨rfl, rfl, rfl, rfl⟩, ?_⟩)
    dsimp only
    rw [hview, hdrType_frameHdr, if_neg (not_not.mpr rfl), hread, if_neg hbig, if_pos hzero]
    exact evalsP_pure.mpr ⟨rfl, rfl, rfl, rfl⟩
  · refine ⟨tr₁ ++ ([] ++ (tr₂ ++ [])),
      m₁.storeAll dst 0 payload,
      evalsP_bind.mpr (Or.inr ⟨true, _, _, _, _, rfl, hfirst, ?_⟩)⟩
    rw [if_pos rfl]
    refine evalsP_bind.mpr (Or.inr ⟨_, _, _, _, _, rfl, evalsP_get.mpr ⟨rfl, rfl, rfl, rfl⟩, ?_⟩)
    dsimp only
    rw [hview, hdrType_frameHdr, if_neg (not_not.mpr rfl), hread, if_neg hbig, if_neg hzero]
    refine evalsP_bind.mpr (Or.inr ⟨true, _, _, _, _, rfl, hthen, ?_⟩)
    exact evalsP_pure.mpr ⟨rfl, rfl, rfl, rfl⟩

end

/-! ## From the PTA to the daemon -/

/-- The bytes that came in over a connection. -/
def takenBy (tr : List (Event Daemon)) : Bytes := tr.flatMap fun
  | .ok (.read _ _) chunk => chunk.1
  | _ => []

@[simp] theorem takenBy_snoc (tr : List (Event Daemon)) (ev : Event Daemon) :
    takenBy (tr ++ [ev]) = takenBy tr ++ takenBy [ev] := List.flatMap_append

/-- The stream at the daemon's end: `read` takes a piece of it. -/
def Incoming (s : Bytes) (ev : Event Daemon) (s' : Bytes) : Prop := s = takenBy [ev] ++ s'

theorem incoming_taken {s s' : Bytes} {tr : List (Event Daemon)} (h : Through Incoming s tr s') :
    s = takenBy tr ++ s' := by
  induction h with
  | nil s => rfl
  | @cons s s₁ s' ev tr hstep _ ih =>
    have hsplit : takenBy ([ev] ++ tr) = takenBy [ev] ++ takenBy tr := List.flatMap_append
    rw [List.singleton_append] at hsplit
    rw [hsplit, List.append_assoc, ← ih]
    exact hstep

section

variable {fd : Nat} {g g' : Globals} {tr : List (Event Daemon)} {type : FrameType}
  {payload rest s' : Bytes}

/-- What `read_full` returns is what came in. -/
theorem readLoop_takes {len : Nat} (fuel : Nat) (got : Bytes) (hfuel : len ≤ got.length + fuel)
    (hgot : got.length ≤ len) :
    wpP (fun _ _ => True) (readLoop fd len fuel got)
      (fun tr' g' b => g' = g ∧ b.length = len ∧ ∃ more, b = got ++ more ∧
        takenBy tr' = takenBy tr ++ more) (fun _ _ _ => True) g tr := by
  induction fuel generalizing got tr with
  | zero => exact ⟨rfl, by omega, [], (List.append_nil _).symm, (List.append_nil _).symm⟩
  | succ fuel ih =>
    simp only [readLoop, wpP_ite, wpP_bind, wpP_sys, wpP_throw, wpP_pure]
    refine ⟨?_, ?_⟩
    · intro hlt
      refine ⟨trivial, ?_, fun _ => trivial⟩
      intro chunk
      refine ⟨fun _ => trivial, ?_⟩
      intro hsome
      have hchunk := chunk.2
      have hpos : 0 < chunk.1.length := List.length_pos_iff.mpr hsome
      refine wpP_conseq (ih (got ++ chunk.1) ?_ ?_) ?_ fun _ _ _ _ => trivial
      · rw [List.length_append]
        omega
      · rw [List.length_append]
        omega
      · rintro tr' g' b ⟨hg, hlen, more, rfl, htr'⟩
        have hpiece : takenBy [(.ok (.read fd (len - got.length)) chunk : Event Daemon)] = chunk.1 :=
          List.append_nil _
        rw [takenBy_snoc, hpiece, List.append_assoc] at htr'
        exact ⟨hg, hlen, chunk.1 ++ more, List.append_assoc _ _ _, htr'⟩
    · intro hdone
      exact ⟨trivial, by omega, [], (List.append_nil _).symm, (List.append_nil _).symm⟩

/-- `read_full` of what a stream begins with. -/
theorem readFull_read {front b : Bytes}
    (h : EvalsP Incoming (readFull fd front.length) g (front ++ rest) tr (.ok b) g' s') :
    g' = g ∧ b = front ∧ s' = rest := by
  have hspec : wpP (fun _ _ => True) (readFull fd front.length) _ _ g [] :=
    readLoop_takes front.length [] (Nat.zero_add _).ge (Nat.zero_le _)
  obtain ⟨hg, hlen, more, rfl, htaken⟩ := h.sound hspec
  have hstream := incoming_taken h.through
  have hb : takenBy tr = b := htaken
  rw [hb] at hstream
  obtain ⟨hfront, hrest⟩ := List.append_inj hstream hlen.symm
  exact ⟨hg, hfront.symm, hrest.symm⟩

theorem readLoop_full {len : Nat} (fuel : Nat) {got : Bytes} (h : got.length = len) :
    readLoop fd len fuel got = pure got := by
  cases fuel with
  | zero => rfl
  | succ fuel =>
    unfold readLoop
    rw [if_neg (by omega)]

/-- It can come in one piece. -/
theorem readFull_taken {front : Bytes} (h : front ≠ []) :
    ∃ tr, EvalsP Incoming (readFull fd front.length) g (front ++ rest) tr (.ok front) g rest := by
  obtain ⟨b, bs, rfl⟩ := List.exists_cons_of_ne_nil h
  let chunk : { c : Bytes // c.length ≤ (b :: bs).length } := ⟨b :: bs, le_rfl⟩
  have hstep : Incoming (b :: bs ++ rest) (.ok (.read fd (b :: bs).length) chunk) rest := by
    show b :: bs ++ rest = (b :: bs ++ []) ++ rest
    rw [List.append_nil]
  refine ⟨_, ?_, .cons hstep (.nil _)⟩
  refine Steps.call (S := Daemon) (c := .req (.read fd (b :: bs).length)) (.ok chunk) ?_
  have hfull : readLoop fd (b :: bs).length bs.length ([] ++ (b :: bs)) = pure (b :: bs) :=
    readLoop_full _ rfl
  show Runs (Proc.go (do
    if chunk.1 = [] then
      throw .other
    readLoop fd (b :: bs).length bs.length ([] ++ chunk.1)) g) [] _
  rw [if_neg (List.cons_ne_nil b bs), hfull]
  exact .refl _

/-- What `serve` does with the two fields of a header. -/
def serveFrame (c : Conn) (type : UInt8) (len : Nat) : DaemonProc Conn := do
  if type = FrameType.challenge.byte then
    handleChallenge c.fd len
    if c.authenticated then
      return c
    let now ← sysAct .time
    return { c with authenticated := true, lastReading := now }
  else if type = FrameType.secretRequest.byte then
    handleSecretRequest c.fd len c.authenticated
    return c
  else
    throw .other

theorem handleFrame_eq (c : Conn) : handleFrame c = (do
    let hdr ← readFull c.fd frameHdrSize
    serveFrame c (hdrType hdr) (hdrLen hdr)) := rfl

end

/-! ## Both directions, and the payload -/

/-- The PTA reads a frame back from any stream that begins with it: at once if all of it is there,
and otherwise unless it waits too long. -/
structure ReadByPta (type : FrameType) (payload sent : Bytes) : Prop where
  waiting : ∀ dst size rest m tr r m' s', payload.length ≤ size →
    EvalsP Waiting (readFrameInto type dst size) m (sent ++ rest) tr r m' s' →
    GotFrame dst payload rest r m' s'
  taken : ∀ dst size rest m, payload.length ≤ size → ∃ tr m',
    EvalsP Waiting (readFrameInto type dst size) m (sent ++ rest) tr (.ok (some payload.length)) m' rest
  arriving : ∀ dst size rest m tr r m' s', payload.length ≤ size →
    EvalsP Arriving (readFrameInto type dst size) m (sent ++ rest) tr r m' s' →
    GotFrame dst payload rest r m' s' ∨ (r = .ok none ∧ TimedOut [] tr)

/-- `serve` parses a frame from any stream that begins with it: it goes on with the frame's type
and length, in front of the payload. -/
structure ParsedByDaemon (type : FrameType) (payload sent : Bytes) : Prop where
  header : ∀ (c : Conn) g rest tr r g' s', EvalsP Incoming (handleFrame c) g (sent ++ rest) tr r g' s' →
    (∃ e, r = .error e ∧
      EvalsP Incoming (readFull c.fd frameHdrSize) g (sent ++ rest) tr (.error e) g' s') ∨
    ∃ hdr tr₁ tr₂, tr = tr₁ ++ tr₂ ∧ EvalsP Incoming (readFull c.fd frameHdrSize) g (sent ++ rest) tr₁
        (.ok hdr) g (payload ++ rest) ∧
      EvalsP Incoming (serveFrame c type.byte payload.length) g (payload ++ rest) tr₂ r g' s'
  taken : ∀ (c : Conn) g rest, ∃ hdr tr, EvalsP Incoming (readFull c.fd frameHdrSize) g (sent ++ rest) tr
    (.ok hdr) g (payload ++ rest)
  payload : ∀ fd g rest tr b g' s',
    EvalsP Incoming (readFull fd payload.length) g (payload ++ rest) tr (.ok b) g' s' →
    b = payload ∧ s' = rest

/-- The codecs of the link are inverse. -/
structure SensorCodecs : Prop where
  /-- `write_frame` of the daemon, `read_frame` of the PTA -/
  toPta : ∀ fd type payload g g' tr, payload.length ≤ sensorLinkReadingMax →
    Runs ((writeFrame fd type payload).go g) tr (.ok (), g') → ReadByPta type payload (writtenBy tr)
  /-- `write_frame` of the PTA, `serve` of the daemon -/
  toDaemon : ∀ type payload tr r, payload.length < 65536 →
    Runs ((writeLinkFrame type payload).go ()) tr r → ParsedByDaemon type payload (putsOf tr)
  /-- the layout of `send_reading`, with its value and its unit -/
  sent : ∀ tick, readingPayload tick =
    readingLayout (BitVec.ofNat 32 (20 + tick.toNat % 10)) (Bytes.ascii ['C'])
  /-- any value and any unit in that layout -/
  reading : ∀ value unit answer, unit.length ≤ sensorLinkReadingUnitMax →
    answer.2 = (readingLayout value unit).length →
    answer.1.1.take answer.2 = readingLayout value unit →
    decodeReading answer = some (value, unit) ∧
    ∀ s tr r s', Runs (readSensorReading.go s) tr (r, s') → ptaAnswered answer ∈ tr →
      r = .ok () ∧ s'.sess.reading = formatReading value.toInt unit
  /-- a payload that is not as long as its fifth byte says, or too long, or too short for one -/
  other : ∀ answer, ¬ (sensorLinkReadingValueSize + 1 ≤ answer.2 ∧
      (answer.1.1.getD sensorLinkReadingValueSize 0).toNat ≤ sensorLinkReadingUnitMax ∧
      answer.2 = sensorLinkReadingValueSize + 1 +
        (answer.1.1.getD sensorLinkReadingValueSize 0).toNat) →
    ∀ s tr r s', Runs (readSensorReading.go s) tr (r, s') → ptaAnswered answer ∈ tr →
      r = .error .badFormat ∧ s'.sess.reading = s.sess.reading

theorem writeFrame_readBack {fd : Nat} {type : FrameType} {payload : Bytes} {g g' : Globals}
    {tr : List (Event Daemon)} (hlen : payload.length ≤ sensorLinkReadingMax)
    (h : Runs ((writeFrame fd type payload).go g) tr (.ok (), g')) :
    ReadByPta type payload (writtenBy tr) := by
  have hwritten : writtenBy tr = frameOf type payload := wp_runs h (writeFrame_writes type payload)
  rw [hwritten]
  refine ⟨?_, ?_, ?_⟩
  · intro dst size rest m tr r m' s' hsize hrun
    exact frame_waiting hlen hsize hrun
  · intro dst size rest m hsize
    exact frame_taken hlen hsize
  · intro dst size rest m tr r m' s' hsize hrun
    rcases frame_read hlen hsize hrun with hgot | ⟨hnone, htime, -⟩
    · exact Or.inl hgot
    · exact Or.inr ⟨hnone, htime⟩

theorem writeLinkFrame_parsed {type : FrameType} {payload : Bytes} {tr : List (Event Uart)}
    {out : Except TeeError Unit × Unit} (hlen : payload.length < 65536)
    (h : Runs ((writeLinkFrame type payload).go ()) tr out) : ParsedByDaemon type payload (putsOf tr) := by
  have hspec := wp_runs h (writeLinkFrame_spec (E := fun _ _ _ => False) type payload rfl)
  have hputs : putsOf tr = frameHdr type payload.length ++ payload := by
    obtain ⟨e | u, s⟩ := out
    · exact hspec.elim
    · exact hspec.1
  rw [hputs]
  have hhdr : (frameHdr type payload.length).length = frameHdrSize := length_frameHdr _ _
  refine ⟨?_, ?_, ?_⟩
  · intro c g rest tr r g' s' hrun
    rw [List.append_assoc] at hrun ⊢
    rw [handleFrame_eq] at hrun
    rcases evalsP_bind.mp hrun with hfail | ⟨hdr, g₁, s₁, tr₁, tr₂, rfl, hread, hthen⟩
    · exact Or.inl hfail
    · right
      have hback : g₁ = g ∧ hdr = frameHdr type payload.length ∧ s₁ = payload ++ rest := by
        rw [← hhdr] at hread
        exact readFull_read hread
      obtain ⟨rfl, rfl, rfl⟩ := hback
      rw [hdrType_frameHdr, hdrLen_frameHdr type hlen] at hthen
      exact ⟨_, tr₁, tr₂, rfl, hread, hthen⟩
  · intro c g rest
    have htaken : ∃ tr, EvalsP Incoming (readFull c.fd (frameHdr type payload.length).length) g
        (frameHdr type payload.length ++ (payload ++ rest)) tr (.ok (frameHdr type payload.length)) g
        (payload ++ rest) := readFull_taken (List.cons_ne_nil _ _)
    rw [hhdr] at htaken
    obtain ⟨tr, htaken⟩ := htaken
    rw [List.append_assoc]
    exact ⟨_, tr, htaken⟩
  · intro fd g rest tr b g' s' hrun
    obtain ⟨-, hb, hs⟩ := readFull_read hrun
    exact ⟨hb, hs⟩

/-- **The sensor link's codecs are inverse.** -/
theorem sensor_codecs_inverse : SensorCodecs where
  toPta fd type payload g g' tr hlen hrun := writeFrame_readBack hlen hrun
  toDaemon type payload tr r hlen hrun := writeLinkFrame_parsed hlen hrun
  sent tick := by
    have hvalue : (BitVec.ofNat 32 (20 + tick.toNat % 10)).toNat = 20 + tick.toNat % 10 := by
      rw [BitVec.toNat_ofNat]
      omega
    rw [readingLayout, hvalue, readingPayload, List.append_assoc]
    rfl
  reading value unit answer hunit hsize hlayout := by
    have hdecode := decodeReading_iff.mpr ⟨hunit, hsize, hlayout⟩
    refine ⟨hdecode, ?_⟩
    intro s tr r s' hrun hanswer
    exact (readSensorReading_taken hrun hanswer).decoded value unit hdecode
  other answer hother s tr r s' hrun hanswer := by
    exact (readSensorReading_taken hrun hanswer).refused (decodeReading_none.mpr hother)

end ConfidentialIoT
