import ConfidentialIoT.Lib.Eval
import ConfidentialIoT.Sensor.Buffers

/-!
# `Sensor/LyingSensor.lean` — what a lying sensor can do to the PTA

Nothing is assumed of the bytes that come in, or of when they do: the answers of the UART are any.
A read waits for two thousand poll steps at most, whatever it has been sent in the meantime; a
length that does not fit is refused before a byte of the payload is stored; and the secret goes
through a buffer of the PTA's own, so that a failed fetch leaves the caller's as it was.
-/

set_option autoImplicit false

namespace ConfidentialIoT

open Effects

/-- No store since `m` has been to the caller's buffer, nor has its size changed. -/
structure Untouched (m m' : PtaMemory) : Prop where
  bytes : m'.mem.bytes .out = m.mem.bytes .out
  size : m'.size = m.size
  stores : ∀ s ∈ m'.mem.stores, s ∈ m.mem.stores ∨ s.1 ≠ .out

/-- What a command has done when it returns. -/
structure Invoked (cmd : PtaCommand) (m : PtaMemory) (tr : List (Event Uart))
    (r : Except TeeError Unit) (m' : PtaMemory) : Prop where
  idle : idlePolls tr ≤ 2 * sensorLinkReadTimeoutMs
  within : Memory.NewWithin (PtaBuffer.capacity m.size) m.mem m'.mem
  /-- the size that is set is the length of the payload, which is in the buffer -/
  done : r = .ok () → ∃ payload, getsOf tr = frameOf cmd.wants payload ∧ m'.size = payload.length ∧
    m'.mem.view .out m'.size = payload ∧ payload.length ≤ sensorLinkReadingMax ∧
    (cmd ≠ .read → payload.length = 32)
  untouched : cmd = .fetchSecret → r ≠ .ok () → Untouched m m'
  denied : cmd = .fetchSecret → (r = .error .accessDenied ↔ getsOf tr = frameOf .secret [])

theorem Untouched.refl (m : PtaMemory) : Untouched m m := ⟨rfl, rfl, fun _ h => Or.inl h⟩

/-- A store to one of the PTA's own buffers. -/
theorem Untouched.storeAll {m m' : PtaMemory} (h : Untouched m m') {dst : PtaBuffer}
    (hdst : dst ≠ .out) (off : Nat) (bs : Bytes) : Untouched m (m'.storeAll dst off bs) where
  bytes := (Memory.bytes_storeAll_other _ hdst.symm off bs).trans h.bytes
  size := h.size
  stores s hs := by
    rcases Memory.mem_stores_storeAll hs with hs | hs
    · exact h.stores s hs
    · right
      rw [hs]
      exact hdst

theorem Untouched.wipe {m m' : PtaMemory} (h : Untouched m m') : Untouched m m'.wipe :=
  h.storeAll (by decide) 0 _

theorem PtaMemory.wipe_within (size : Nat) (m : PtaMemory) :
    Memory.NewWithin (PtaBuffer.capacity size) m.mem m.wipe.mem := by
  refine Memory.NewWithin.storeAll m.mem .bounce ?_
  rw [List.length_replicate, Nat.zero_add]
  exact le_rfl

theorem PtaMemory.copyOut_within {size len : Nat} (h : len ≤ size) (m : PtaMemory) :
    Memory.NewWithin (PtaBuffer.capacity size) m.mem (m.copyOut len).mem := by
  refine Memory.NewWithin.storeAll m.mem .out ?_
  rw [Memory.length_view, Nat.zero_add]
  exact h

/-- The copy is what was in the bounce buffer, also after that is wiped. -/
theorem PtaMemory.view_copyOut (m : PtaMemory) (len : Nat) :
    (m.copyOut len).wipe.mem.view .out len = m.mem.view .bounce len := by
  have hwiped : (m.copyOut len).wipe.mem.bytes .out = (m.copyOut len).mem.bytes .out :=
    Memory.bytes_storeAll_other _ (by decide) _ _
  have hcopied := Memory.view_storeAll m.mem .out (m.mem.view .bounce len)
  rw [Memory.length_view] at hcopied
  exact (Memory.view_congr hwiped len).trans hcopied

section

variable {cmd : PtaCommand} {m : PtaMemory} {types : UInt32} {input : Bytes}

/-- A command that gives up before it has read anything. -/
theorem Invoked.early {e : TeeError} (h : e ≠ .accessDenied) : Invoked cmd m [] (.error e) m where
  idle := Nat.zero_le _
  within := .refl _ _
  done := nofun
  untouched _ _ := .refl m
  denied _ := by
    constructor
    · rintro ⟨⟩
      exact absurd rfl h
    · exact nofun

/-- A command that reads into the caller's buffer and fails. -/
theorem Invoked.failed {type : FrameType} {log tr : List (Event Uart)} {hdr more : Bytes}
    {r : Option Nat} {m' : PtaMemory} {e : TeeError} (hcmd : cmd ≠ .fetchSecret)
    (h : FrameRead type .out m.size m log hdr more r m' tr) (hlog : idlePolls log = 0) :
    Invoked cmd m tr (.error e) m' where
  idle := by
    have hidle := h.idle
    omega
  within := h.within le_rfl
  done := nofun
  untouched heq _ := absurd heq hcmd
  denied heq := absurd heq hcmd

/-- A command that reads into the caller's buffer and returns. -/
theorem Invoked.returned {log tr : List (Event Uart)} {hdr more : Bytes} {len : Nat}
    {m' : PtaMemory} (hcmd : cmd ≠ .fetchSecret)
    (h : FrameRead cmd.wants .out m.size m log hdr more (some len) m' tr)
    (hgets : getsOf log = []) (hlog : idlePolls log = 0) (hlen : cmd ≠ .read → len = 32) :
    Invoked cmd m tr (.ok ()) { m' with size := len } := by
  obtain ⟨hframe, rfl, hmax⟩ := h.frame
  refine ⟨?_, h.within le_rfl, ?_, fun heq => absurd heq hcmd, fun heq => absurd heq hcmd⟩
  · have hidle := h.idle
    omega
  · intro _
    refine ⟨more, ?_, rfl, ?_, hmax, hlen⟩
    · rw [hframe, hgets, List.nil_append]
    · rw [h.memory]
      exact Memory.view_storeAll _ _ _

theorem challengeInto_spec : wpP (fun _ _ => True) (challengeInto types input)
    (fun tr m' _ => Invoked .challenge m tr (.ok ()) m')
    (fun tr m' e => Invoked .challenge m tr (.error e) m') m [] := by
  simp only [challengeInto, wpP_bind, wpP_ite, wpP_throw, wpP_get, wpP_inside]
  refine ⟨fun _ => .early (by rintro ⟨⟩), fun _ => ⟨fun _ => .early (by rintro ⟨⟩), fun _ => ?_⟩⟩
  refine ⟨fun _ => .early (by rintro ⟨⟩), fun _ => ?_⟩
  refine wpP_conseq (writeLinkFrame_quiet _ _) ?_ fun _ _ _ h => h
  rintro log _ _ ⟨hgets, hidle⟩
  refine wpP_conseq readFrameInto_spec ?_ fun _ _ _ h => h
  rintro tr m' r ⟨hdr, more, h⟩
  cases r with
  | none => exact .failed (by rintro ⟨⟩) h hidle
  | some len =>
    simp only [wpP_bind, wpP_ite, wpP_throw, wpP_modify]
    refine ⟨fun _ => .failed (by rintro ⟨⟩) h hidle, ?_⟩
    intro hlen
    exact .returned (by rintro ⟨⟩) h hgets hidle fun _ => not_not.mp hlen

theorem readInto_spec : wpP (fun _ _ => True) (readInto types)
    (fun tr m' _ => Invoked .read m tr (.ok ()) m')
    (fun tr m' e => Invoked .read m tr (.error e) m') m [] := by
  simp only [readInto, wpP_bind, wpP_ite, wpP_throw, wpP_get]
  refine ⟨fun _ => .early (by rintro ⟨⟩), fun _ => ⟨fun _ => .early (by rintro ⟨⟩), fun _ => ?_⟩⟩
  refine wpP_conseq readFrameInto_spec ?_ fun _ _ _ h => h
  rintro tr m' r ⟨hdr, more, h⟩
  cases r with
  | none => exact .failed (by rintro ⟨⟩) h rfl
  | some len => exact .returned (by rintro ⟨⟩) h rfl rfl fun h => absurd rfl h

section

variable {log tr : List (Event Uart)} {hdr more : Bytes} {r : Option Nat} {m' : PtaMemory}

/-- The refusal is an empty frame, and nothing else is. -/
theorem FrameRead.refusal_iff {type : FrameType} {dst : PtaBuffer} {size : Nat}
    (h : FrameRead type dst size m log hdr more r m' tr) (hgets : getsOf log = []) :
    r = some 0 ↔ getsOf tr = frameOf type [] := by
  cases r with
  | none =>
    have htr := h.gets
    rw [hgets, List.nil_append] at htr
    constructor
    · exact nofun
    · intro heq
      exact absurd (htr.symm.trans heq) h.not_empty
  | some len =>
    obtain ⟨htr, hlen, -⟩ := h.frame
    rw [hgets, List.nil_append] at htr
    constructor
    · intro heq
      obtain rfl : more = [] := List.length_eq_zero_iff.mp (hlen.trans (Option.some.inj heq))
      exact htr
    · intro heq
      have hsame := congrArg List.length (htr.symm.trans heq)
      simp only [frameOf, List.length_append, length_frameHdr, List.length_nil] at hsame
      rw [← hlen]
      exact congrArg some (by omega)

/-- A fetch that fails: only the PTA's own buffers have been written to. -/
theorem Invoked.refused {e : TeeError} (h : FrameRead .secret .bounce sensorSecretSize m log hdr more r m' tr)
    (hgets : getsOf log = []) (hlog : idlePolls log = 0) (he : e = .accessDenied ↔ r = some 0) :
    Invoked .fetchSecret m tr (.error e) m'.wipe where
  idle := by
    have hidle := h.idle
    omega
  within := (h.within le_rfl).trans (m'.wipe_within m.size)
  done := nofun
  untouched _ _ := by
    have hread : Untouched m m' := by
      rw [h.memory]
      exact ((Untouched.refl m).storeAll (by decide) 0 hdr).storeAll (by decide) 0 more
    exact hread.wipe
  denied _ := by
    rw [← h.refusal_iff hgets, ← he]
    constructor
    · exact fun heq => Except.error.inj heq
    · rintro rfl
      rfl

/-- A fetch that succeeds: the whole secret has come, and is copied out. -/
theorem Invoked.fetched (h : FrameRead .secret .bounce sensorSecretSize m log hdr more
      (some sensorSecretSize) m' tr) (hgets : getsOf log = []) (hlog : idlePolls log = 0)
    (hsize : sensorSecretSize ≤ m.size) :
    Invoked .fetchSecret m tr (.ok ())
      ({ m'.copyOut sensorSecretSize with size := sensorSecretSize } : PtaMemory).wipe := by
  obtain ⟨hframe, hlen, hmax⟩ := h.frame
  rw [hgets, List.nil_append] at hframe
  have hbounce : m'.mem.view .bounce sensorSecretSize = more := by
    rw [h.memory, ← hlen]
    exact Memory.view_storeAll _ _ _
  refine ⟨?_, ?_, ?_, fun _ hne => absurd rfl hne, ?_⟩
  · have hidle := h.idle
    omega
  · exact ((h.within le_rfl).trans (m'.copyOut_within hsize)).trans (PtaMemory.wipe_within _ _)
  · intro _
    refine ⟨more, hframe, hlen.symm, ?_, hlen.trans_le hmax, fun _ => hlen⟩
    exact (m'.view_copyOut sensorSecretSize).trans hbounce
  · intro _
    constructor
    · exact nofun
    · intro heq
      have hempty := (h.refusal_iff hgets).mpr heq
      cases hempty

theorem fetchSecretInto_spec : wpP (fun _ _ => True) (fetchSecretInto types)
    (fun tr m' _ => Invoked .fetchSecret m tr (.ok ()) m')
    (fun tr m' e => Invoked .fetchSecret m tr (.error e) m') m [] := by
  simp only [fetchSecretInto, fetchIntoBounce, wpP_bind, wpP_ite, wpP_throw, wpP_get, wpP_inside,
    wpP_cleanup]
  refine ⟨fun _ => .early (by rintro ⟨⟩), fun _ => ⟨fun _ => .early (by rintro ⟨⟩), fun hsize => ?_⟩⟩
  refine wpP_conseq (writeLinkFrame_quiet _ _) ?_ fun _ _ _ h => h
  rintro log _ _ ⟨hgets, hidle⟩
  refine wpP_conseq readFrameInto_spec ?_ fun _ _ _ h => h
  rintro tr m' r ⟨hdr, more, h⟩
  cases r with
  | none => exact .refused h hgets hidle ⟨(by rintro ⟨⟩), (by rintro ⟨⟩)⟩
  | some len =>
    simp only [wpP_bind, wpP_ite, wpP_throw, wpP_modify]
    refine ⟨?_, ?_⟩
    · rintro rfl
      exact .refused h hgets hidle ⟨fun _ => rfl, fun _ => rfl⟩
    · intro hzero
      refine ⟨?_, ?_⟩
      · intro _
        exact .refused h hgets hidle ⟨(by rintro ⟨⟩), fun heq => absurd (Option.some.inj heq) hzero⟩
      · intro hlen
        obtain rfl : len = sensorSecretSize := not_not.mp hlen
        exact .fetched h hgets hidle (Nat.le_of_not_lt hsize)

end

theorem invokeInto_spec : wpP (fun _ _ => True) (invokeInto types input cmd)
    (fun tr m' _ => Invoked cmd m tr (.ok ()) m')
    (fun tr m' e => Invoked cmd m tr (.error e) m') m [] := by
  cases cmd with
  | challenge => exact challengeInto_spec
  | read => exact readInto_spec
  | fetchSecret => exact fetchSecretInto_spec

end

/-- Against every stream and every arrival pattern: a call of `uart_read` waits two thousand poll
steps at most and ends by itself, and a command has done what `Invoked` says. -/
structure PtaSafe : Prop where
  waits : ∀ dst len m tr r m', Runs ((uartReadInto dst len).go m) tr (r, m') →
    idlePolls tr ≤ sensorLinkReadTimeoutMs ∧ polls tr ≤ len + sensorLinkReadTimeoutMs + 1
  ends : ∀ dst len extra,
    uartReadIntoLoop dst len (len + sensorLinkReadTimeoutMs + 1 + extra) 0 0 = uartReadInto dst len
  invoked : ∀ cmd types input m tr r m', Runs ((invokeInto types input cmd).go m) tr (r, m') →
    Invoked cmd m tr r m'

/-- **The PTA is safe against a lying sensor.** -/
theorem pta_safe : PtaSafe where
  waits dst len m tr r m' hruns := by
    have hspec := wp_runs hruns (uartReadInto_spec (E := fun _ _ _ => False))
    cases r with
    | error e => exact hspec.elim
    | ok ok =>
      obtain ⟨more, hread⟩ := hspec
      have hfits := hread.fits
      have hidle : idlePolls tr + 0 ≤ 0 + sensorLinkReadTimeoutMs := hread.idle
      have hpolled : polls tr + 0 ≤ 0 + more.length + idlePolls tr + 1 := hread.polled
      omega
  ends dst len extra :=
    uartReadIntoLoop_fuel _ extra (Nat.zero_le _) (Nat.zero_le _) (by omega)
  invoked cmd types input m tr r m' hruns := by
    have hspec := wp_runs hruns invokeInto_spec
    cases r with
    | ok u => exact hspec
    | error e => exact hspec

/-! ## Played -/

/-- The UART of a sensor that has sent these bytes. -/
def fromStream (stream : Bytes) : (c : Call Uart) → c.Ans × Bytes
  | .act .haveRxData => (decide (stream ≠ []), stream)
  | .act .getchar => (stream.headD 0, stream.tail)
  | .act (.putc _) => ((), stream)
  | .act .mdelay => ((), stream)
  | .act (.transmit _) => ((), stream)
  | .req r => r.elim

/-- A caller with room for the secret, which holds something else. -/
def caller : PtaMemory := ⟨⟨fun _ _ => 0xAA, []⟩, sensorSecretSize⟩

/-- A FETCH_SECRET that is answered so. -/
def fetchFrom (stream : Bytes) : List (Event Uart) × (Except TeeError Unit × PtaMemory) × Bytes :=
  serve fromStream ((invokeInto (teeParamTypes .memrefOutput .none .none .none) []
    .fetchSecret).go caller) stream

theorem fetchFrom_runs {stream : Bytes} {r : Except TeeError Unit} (h : (fetchFrom stream).2.1.1 = r) :
    Runs ((invokeInto (teeParamTypes .memrefOutput .none .none .none) [] .fetchSecret).go caller)
      (fetchFrom stream).1 (r, (fetchFrom stream).2.1.2) := by
  subst h
  exact serve_runs ..

/-- A sensor that refuses with an empty SECRET, and one that sends thirty-two bytes. -/
theorem pta_safe_played :
    (∃ tr m', Runs ((invokeInto (teeParamTypes .memrefOutput .none .none .none) []
        .fetchSecret).go caller) tr (.error .accessDenied, m') ∧
      getsOf tr = frameOf .secret [] ∧ Untouched caller m') ∧
    ∃ tr m', Runs ((invokeInto (teeParamTypes .memrefOutput .none .none .none) []
        .fetchSecret).go caller) tr (.ok (), m') ∧
      getsOf tr = frameOf .secret (List.replicate 32 7) ∧
      m'.mem.view .out m'.size = List.replicate 32 7 := by
  obtain ⟨hrefused, hsent, hpayload⟩ :
      (fetchFrom (frameOf .secret [])).2.1.1 = .error .accessDenied ∧
      (fetchFrom (frameOf .secret (List.replicate 32 7))).2.1.1 = .ok () ∧
      getsOf (fetchFrom (frameOf .secret (List.replicate 32 7))).1 =
        frameOf .secret (List.replicate 32 7) := by decide +kernel
  have refused := fetchFrom_runs hrefused
  have sent := fetchFrom_runs hsent
  have hdenied := pta_safe.invoked _ _ _ _ _ _ _ refused
  have hdone := pta_safe.invoked _ _ _ _ _ _ _ sent
  refine ⟨⟨_, _, refused, (hdenied.denied rfl).mp rfl, hdenied.untouched rfl nofun⟩,
    _, _, sent, hpayload, ?_⟩
  obtain ⟨payload, hgets, -, hview, -, -⟩ := hdone.done rfl
  rw [hview]
  -- the header of a frame has three bytes
  exact congrArg (List.drop frameHdrSize) (hgets.symm.trans hpayload)

end ConfidentialIoT
