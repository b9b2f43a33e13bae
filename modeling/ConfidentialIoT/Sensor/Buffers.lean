import ConfidentialIoT.Lib.Embed
import ConfidentialIoT.Lib.Memory
import ConfidentialIoT.Sensor.Invocation

/-!
# `Sensor/Buffers.lean` — the sensor_link PTA and its memory

`Sensor/Link.lean` returns what a command read; here it is stored, byte by byte, where
`sensor_link.c` stores it: `hdr` in `read_frame`, the bounce buffer `buf` of
`sensor_link_fetch_secret`, and the memory behind the caller's output memref. The two agree call
by call (`invokeInto_refines`). What a memref's size bounds is only what the code checks.
-/

set_option autoImplicit false

namespace ConfidentialIoT

open Effects

/-- Where the functions of the PTA write to. -/
inductive PtaBuffer where
  | hdr | bounce | out
deriving DecidableEq, Repr

/-- The buffers, and the `memref.size` of the output parameter. -/
structure PtaMemory where
  mem : Memory PtaBuffer
  size : Nat

/-- How many bytes each buffer has, when the caller's has `size`. -/
def PtaBuffer.capacity (size : Nat) : PtaBuffer → Nat
  | .hdr => frameHdrSize
  | .bounce => sensorSecretSize
  | .out => size

namespace PtaMemory

def store (m : PtaMemory) (dst : PtaBuffer) (off : Nat) (b : UInt8) : PtaMemory :=
  { m with mem := m.mem.store dst off b }

def storeAll (m : PtaMemory) (dst : PtaBuffer) (off : Nat) (bs : Bytes) : PtaMemory :=
  { m with mem := m.mem.storeAll dst off bs }

/-- `memzero_explicit(buf, sizeof(buf))` -/
def wipe (m : PtaMemory) : PtaMemory := m.storeAll .bounce 0 (List.replicate sensorSecretSize 0)

/-- `memcpy(params[0].memref.buffer, buf, len)` -/
def copyOut (m : PtaMemory) (len : Nat) : PtaMemory := m.storeAll .out 0 (m.mem.view .bounce len)

end PtaMemory

/-- The monad of the PTA's functions, with their memory. -/
abbrev PtaM (α : Type) : Type := Proc Uart TeeError PtaMemory α

def uartM (a : UartAct) : PtaM a.Res := Proc.act (S := Uart) a

@[simp] theorem wpP_uartM {A : List (Event Uart) → Call Uart → Prop}
    {E : List (Event Uart) → PtaMemory → TeeError → Prop} {a : UartAct} {m : PtaMemory}
    {tr : List (Event Uart)} {Q : List (Event Uart) → PtaMemory → a.Res → Prop} :
    wpP (α := no_index a.Res) A (uartM a) Q E m tr ↔
      A tr (.act a) ∧ ∀ b : a.Res, Q (tr ++ [.did a b]) m b :=
  wpP_act

/-- The loop of `uart_read`: `got` and `waited_ms` are the source's. -/
def uartReadIntoLoop (dst : PtaBuffer) (len : Nat) : (fuel got waitedMs : Nat) → PtaM Bool
  | 0, _, _ => pure false
  | fuel + 1, got, waitedMs =>
    if got < len then do
      if ← uartM .haveRxData then
        let b ← uartM .getchar
        modify fun m => m.store dst got b
        uartReadIntoLoop dst len fuel (got + 1) waitedMs
      else if waitedMs ≥ sensorLinkReadTimeoutMs then
        return false
      else
        uartM .mdelay
        uartReadIntoLoop dst len fuel got (waitedMs + 1)
    else pure true

/-- `uart_read` -/
def uartReadInto (dst : PtaBuffer) (len : Nat) : PtaM Bool :=
  uartReadIntoLoop dst len (len + sensorLinkReadTimeoutMs + 1) 0 0

/-- `read_frame`: the length it leaves in `*out_len`, or `false`. -/
def readFrameInto (wantType : FrameType) (dst : PtaBuffer) (payloadSize : Nat) :
    PtaM (Option Nat) := do
  if ← uartReadInto .hdr frameHdrSize then
    let hdr := (← get).mem.view .hdr frameHdrSize
    if hdrType hdr ≠ wantType.byte then
      return none
    let len := hdrLen hdr
    if len > sensorLinkReadingMax ∨ len > payloadSize then
      return none
    if len = 0 then
      return some 0
    if ← uartReadInto dst len then
      return some len
    return none
  return none

/-! ## Commands -/

/-- `sensor_link_challenge`; `challenge` is `params[0]`, the output is `params[1]`. -/
def challengeInto (types : UInt32) (challenge : Bytes) : PtaM Unit := do
  if types ≠ teeParamTypes .memrefInput .memrefOutput .none .none then
    throw .badParameters
  if challenge.length ≠ sensorLinkChallengeSize then
    throw .badParameters
  if (← get).size < sensorLinkHmacSize then
    throw .shortBuffer
  (writeLinkFrame .challenge challenge).inside
  match ← readFrameInto .challengeResponse .out (← get).size with
  | none => throw .communication
  | some respLen =>
    if respLen ≠ sensorLinkHmacSize then
      throw .communication
    modify fun m => { m with size := respLen }

/-- `sensor_link_read`; the output is `params[0]`. -/
def readInto (types : UInt32) : PtaM Unit := do
  if types ≠ teeParamTypes .memrefOutput .none .none .none then
    throw .badParameters
  if (← get).size < sensorLinkReadingMax then
    throw .shortBuffer
  match ← readFrameInto .reading .out (← get).size with
  | none => throw .communication
  | some len => modify fun m => { m with size := len }

/-- `sensor_link_fetch_secret`, up to the label `out`. -/
def fetchIntoBounce : PtaM Unit := do
  (writeLinkFrame .secretRequest []).inside
  match ← readFrameInto .secret .bounce sensorSecretSize with
  | none => throw .communication
  | some len =>
    if len = 0 then
      throw .accessDenied
    if len ≠ sensorSecretSize then
      throw .communication
    modify fun m => { m.copyOut sensorSecretSize with size := sensorSecretSize }

/-- `sensor_link_fetch_secret`; the output is `params[0]`. -/
def fetchSecretInto (types : UInt32) : PtaM Unit := do
  if types ≠ teeParamTypes .memrefOutput .none .none .none then
    throw .badParameters
  if (← get).size < sensorSecretSize then
    throw .shortBuffer
  fetchIntoBounce.cleanup .wipe

/-- One invocation of a command. -/
def invokeInto (types : UInt32) (input : Bytes) : PtaCommand → PtaM Unit
  | .challenge => challengeInto types input
  | .read => readInto types
  | .fetchSecret => fetchSecretInto types

/-! ## The PTA without its memory -/

/-- What `Sensor/Link.lean` keeps of a read: the bytes that are in the buffer. -/
def readBack (dst : PtaBuffer) (len : Nat) (out : Except TeeError Bool × PtaMemory) :
    Except TeeError (Option Bytes) × Unit :=
  (out.1.map fun ok => if ok then some (out.2.mem.view dst len) else none, ())

theorem uartReadIntoLoop_refines (dst : PtaBuffer) (len fuel waited : Nat) (m : PtaMemory)
    {got : Bytes} (hgot : got.length ≤ len) :
    readBack dst len <$> (uartReadIntoLoop dst len fuel got.length waited).go (m.storeAll dst 0 got) =
      (uartReadLoop len fuel waited got).go () := by
  induction fuel generalizing got waited with
  | zero => rfl
  | succ fuel ih =>
    simp only [uartReadIntoLoop, uartReadLoop]
    by_cases hlt : got.length < len
    · rw [if_pos hlt, if_pos hlt]
      refine congrArg (Prog.call (S := Uart) (.act UartAct.haveRxData)) (funext ?_)
      intro ready
      cases ready with
      | true =>
        refine congrArg (Prog.call (S := Uart) (.act UartAct.getchar)) (funext ?_)
        intro (b : UInt8)
        have hnext : readBack dst len <$> (uartReadIntoLoop dst len fuel (got ++ [b]).length waited).go
            (m.storeAll dst 0 (got ++ [b])) = (uartReadLoop len fuel waited (got ++ [b])).go () :=
          ih waited (by rw [List.length_append]; exact hlt)
        have hstored : m.storeAll dst 0 (got ++ [b]) = (m.storeAll dst 0 got).store dst got.length b := by
          unfold PtaMemory.storeAll
          rw [Memory.storeAll_append, Nat.zero_add]
          rfl
        rw [List.length_append, List.length_singleton, hstored] at hnext
        exact hnext
      | false =>
        by_cases hlate : waited ≥ sensorLinkReadTimeoutMs
        · show readBack dst len <$> (if _ then _ else _ : PtaM Bool).go _ = (if _ then _ else _ : Pta (Option Bytes)).go ()
          simp only [Bool.false_eq_true, if_false, if_pos hlate]
          rfl
        · show readBack dst len <$> (if _ then _ else _ : PtaM Bool).go _ = (if _ then _ else _ : Pta (Option Bytes)).go ()
          simp only [Bool.false_eq_true, if_false, if_neg hlate]
          refine congrArg (Prog.call (S := Uart) (.act UartAct.mdelay)) (funext ?_)
          intro _
          exact ih (waited + 1) hgot
    · rw [if_neg hlt, if_neg hlt]
      obtain rfl : len = got.length := by omega
      have hview : (m.storeAll dst 0 got).mem.view dst got.length = got := Memory.view_storeAll _ _ _
      show Prog.ret (readBack dst got.length (.ok true, m.storeAll dst 0 got)) = _
      unfold readBack
      rw [hview]
      rfl

theorem uartReadInto_refines (dst : PtaBuffer) (len : Nat) (m : PtaMemory) :
    readBack dst len <$> (uartReadInto dst len).go m = (uartRead len).go () :=
  @uartReadIntoLoop_refines dst len _ 0 m [] (Nat.zero_le _)

/-- What it keeps of a frame: the payload. -/
def frameBack (dst : PtaBuffer) (out : Except TeeError (Option Nat) × PtaMemory) :
    Except TeeError (Option Bytes) × Unit :=
  (out.1.map (Option.map (out.2.mem.view dst)), ())

theorem readFrameInto_refines (type : FrameType) (dst : PtaBuffer) (size : Nat) (m : PtaMemory) :
    frameBack dst <$> (readFrameInto type dst size).go m = (readLinkFrame type size).go () := by
  unfold readFrameInto readLinkFrame
  rw [Proc.go_bind, Proc.go_bind]
  refine map_bind_eq (uartReadInto_refines .hdr frameHdrSize m) ?_
  rintro ⟨_ | ok, m₁⟩
  · rfl
  · cases ok with
    | false => rfl
    | true =>
      have hback : readBack .hdr frameHdrSize (.ok true, m₁) =
        (.ok (some (m₁.mem.view .hdr frameHdrSize)), ()) := rfl
      rw [hback]
      simp only [if_true]
      rw [Proc.go_bind, Proc.go_get, Prog.ret_bind]
      dsimp only
      generalize m₁.mem.view .hdr frameHdrSize = hdr
      by_cases htype : hdrType hdr ≠ type.byte
      · simp only [if_pos htype]
        rfl
      · simp only [if_neg htype]
        by_cases hbig : hdrLen hdr > sensorLinkReadingMax ∨ hdrLen hdr > size
        · simp only [if_pos hbig]
          rfl
        · simp only [if_neg hbig]
          by_cases hzero : hdrLen hdr = 0
          · simp only [if_pos hzero]
            rfl
          · simp only [if_neg hzero]
            rw [Proc.go_bind, map_bind, ← uartReadInto_refines dst (hdrLen hdr) m₁, ← bind_pure_comp]
            refine congrArg ((uartReadInto dst (hdrLen hdr)).go m₁ >>= ·) (funext ?_)
            rintro ⟨e | ok, m₂⟩
            · rfl
            · cases ok <;> rfl


/-- What a caller sees of an invocation: the payload in the output buffer, at its size. -/
def PtaMemory.output (out : Except TeeError Unit × PtaMemory) : Except TeeError Bytes × Unit :=
  (out.1.map fun _ => out.2.mem.view .out out.2.size, ())

theorem readInto_refines (types : UInt32) (m : PtaMemory) {buf0 : Bytes} (hsize : buf0.length = m.size)
    (buf1 : Bytes) :
    PtaMemory.output <$> (readInto types).go m = (sensorLinkRead ⟨types, buf0, buf1⟩).go () := by
  unfold readInto sensorLinkRead
  by_cases htypes : types ≠ teeParamTypes .memrefOutput .none .none .none
  · simp only [if_pos htypes]
    rfl
  · simp only [if_neg htypes, hsize]
    rw [Proc.go_bind, Proc.go_get, Prog.ret_bind]
    dsimp only
    by_cases hshort : m.size < sensorLinkReadingMax
    · simp only [if_pos hshort]
      rfl
    · simp only [if_neg hshort]
      rw [Proc.go_bind, Proc.go_bind, Proc.go_get, Prog.ret_bind]
      dsimp only
      rw [Proc.go_bind]
      refine map_bind_eq (readFrameInto_refines .reading .out m.size m) ?_
      rintro ⟨e | len, m₁⟩
      · rfl
      · cases len <;> rfl

theorem challengeInto_refines (types : UInt32) (challenge : Bytes) (m : PtaMemory) {buf1 : Bytes}
    (hsize : buf1.length = m.size) :
    PtaMemory.output <$> (challengeInto types challenge).go m =
      (sensorLinkChallenge ⟨types, challenge, buf1⟩).go () := by
  unfold challengeInto sensorLinkChallenge
  by_cases htypes : types ≠ teeParamTypes .memrefInput .memrefOutput .none .none
  · simp only [if_pos htypes]
    rfl
  · simp only [if_neg htypes, hsize]
    by_cases hlen : challenge.length ≠ sensorLinkChallengeSize
    · simp only [if_pos hlen]
      rfl
    · simp only [if_neg hlen]
      rw [Proc.go_bind, Proc.go_get, Prog.ret_bind]
      dsimp only
      by_cases hshort : m.size < sensorLinkHmacSize
      · simp only [if_pos hshort]
        rfl
      · simp only [if_neg hshort]
        rw [Proc.go_bind, Proc.go_bind, Proc.go_inside, bind_assoc, map_bind]
        refine congrArg ((writeLinkFrame .challenge challenge).go () >>= ·) (funext ?_)
        rintro ⟨e | _, s⟩
        · rfl
        · rw [Prog.ret_bind]
          dsimp only
          rw [Proc.go_bind, Proc.go_bind, Proc.go_get, Prog.ret_bind]
          dsimp only
          rw [Proc.go_bind]
          refine map_bind_eq (readFrameInto_refines .challengeResponse .out m.size m) ?_
          rintro ⟨e | len, m₁⟩
          · rfl
          · cases len with
            | none => rfl
            | some len =>
              have hresp : frameBack .out (.ok (some len), m₁) =
                (.ok (some (m₁.mem.view .out len)), ()) := rfl
              rw [hresp]
              dsimp only
              rw [Memory.length_view]
              by_cases hother : len ≠ sensorLinkHmacSize
              · simp only [if_pos hother]
                rfl
              · simp only [if_neg hother]
                rfl

/-- The bounce buffer is not what the caller sees. -/
theorem PtaMemory.output_wipe (r : Except TeeError Unit) (m : PtaMemory) :
    output (r, m.wipe) = output (r, m) := by
  have hbytes : m.wipe.mem.bytes .out = m.mem.bytes .out :=
    Memory.bytes_storeAll_other _ (by decide) _ _
  unfold output
  dsimp only
  rw [Memory.view_congr hbytes]
  rfl

theorem fetchSecretInto_refines (types : UInt32) (m : PtaMemory) {buf0 : Bytes}
    (hsize : buf0.length = m.size) (buf1 : Bytes) :
    PtaMemory.output <$> (fetchSecretInto types).go m =
      (sensorLinkFetchSecret ⟨types, buf0, buf1⟩).go () := by
  unfold fetchSecretInto sensorLinkFetchSecret
  by_cases htypes : types ≠ teeParamTypes .memrefOutput .none .none .none
  · simp only [if_pos htypes]
    rfl
  · simp only [if_neg htypes, hsize]
    rw [Proc.go_bind, Proc.go_get, Prog.ret_bind]
    dsimp only
    by_cases hshort : m.size < sensorSecretSize
    · simp only [if_pos hshort]
      rfl
    · simp only [if_neg hshort]
      have hcleanup : PtaMemory.output <$> (fetchIntoBounce.cleanup PtaMemory.wipe).go m =
          PtaMemory.output <$> fetchIntoBounce.go m := by
        show PtaMemory.output <$> (fetchIntoBounce.go m >>= fun r => Prog.ret (r.1, r.2.wipe)) = _
        rw [map_bind, ← bind_pure_comp]
        refine congrArg (fetchIntoBounce.go m >>= ·) (funext ?_)
        intro r
        exact congrArg Prog.ret (PtaMemory.output_wipe r.1 r.2)
      rw [hcleanup]
      unfold fetchIntoBounce
      rw [Proc.go_bind, Proc.go_bind, Proc.go_inside, bind_assoc, map_bind]
      refine congrArg ((writeLinkFrame .secretRequest []).go () >>= ·) (funext ?_)
      rintro ⟨e | _, s⟩
      · rfl
      · rw [Prog.ret_bind]
        dsimp only
        rw [Proc.go_bind, Proc.go_bind]
        refine map_bind_eq (readFrameInto_refines .secret .bounce sensorSecretSize m) ?_
        rintro ⟨e | len, m₁⟩
        · rfl
        · cases len with
          | none => rfl
          | some len =>
            have hsecret : frameBack .bounce (.ok (some len), m₁) =
              (.ok (some (m₁.mem.view .bounce len)), ()) := rfl
            rw [hsecret]
            dsimp only
            have hempty : m₁.mem.view .bounce len = [] ↔ len = 0 := by
              rw [← List.length_eq_zero_iff, Memory.length_view]
            rw [Memory.length_view]
            simp only [hempty]
            by_cases hzero : len = 0
            · simp only [if_pos hzero]
              rfl
            · simp only [if_neg hzero]
              by_cases hother : len ≠ sensorSecretSize
              · simp only [if_pos hother]
                rfl
              · simp only [if_neg hother]
                obtain rfl : len = sensorSecretSize := not_not.mp hother
                have hcopy := Memory.view_storeAll m₁.mem .out (m₁.mem.view .bounce sensorSecretSize)
                rw [Memory.length_view] at hcopy
                exact congrArg (fun b => Prog.ret (Except.ok b, ())) hcopy


/-- The memref that a command puts its payload in. -/
def PtaCommand.output (params : PtaParams) : PtaCommand → Bytes
  | .challenge => params.buf1
  | .read => params.buf0
  | .fetchSecret => params.buf0

/-- **The commands with their memory are the commands of `Sensor/Link.lean`.** -/
theorem invokeInto_refines {cmdId : UInt32} {cmd : PtaCommand} (hcmd : PtaCommand.ofId cmdId = some cmd)
    (params : PtaParams) {m : PtaMemory} (hsize : (cmd.output params).length = m.size) :
    PtaMemory.output <$> (invokeInto params.types params.buf0 cmd).go m =
      (invokeCommand cmdId params).go () := by
  unfold invokeCommand
  rw [hcmd]
  cases cmd with
  | challenge => exact challengeInto_refines params.types params.buf0 m hsize
  | read => exact readInto_refines params.types m hsize params.buf1
  | fetchSecret => exact fetchSecretInto_refines params.types m hsize params.buf1

/-! ## One read -/

/-- How often a read has waited for a byte, a poll step each time. -/
def idlePolls (log : List (Event Uart)) : Nat :=
  log.countP fun | .did .mdelay _ => true | _ => false

/-- How often a read has looked for a byte. -/
def polls (log : List (Event Uart)) : Nat :=
  log.countP fun | .did .haveRxData _ => true | _ => false

@[simp] theorem idlePolls_snoc (log : List (Event Uart)) (ev : Event Uart) :
    idlePolls (log ++ [ev]) = idlePolls log + idlePolls [ev] := List.countP_append

@[simp] theorem polls_snoc (log : List (Event Uart)) (ev : Event Uart) :
    polls (log ++ [ev]) = polls log + polls [ev] := List.countP_append

/-- The last thing seen is that there is no byte. -/
def EndsDry (log : List (Event Uart)) : Prop := ∃ before, log = before ++ [.did .haveRxData false]

/-- What `uart_read` has done, from `got` bytes and `waited` milliseconds on: it took `more` and put
it where the buffer went on. -/
structure Filled (dst : PtaBuffer) (len got waited : Nat) (m : PtaMemory) (log : List (Event Uart))
    (more : Bytes) (m' : PtaMemory) (log' : List (Event Uart)) (ok : Bool) : Prop where
  gets : getsOf log' = getsOf log ++ more
  memory : m' = m.storeAll dst got more
  fits : got + more.length ≤ len
  full : ok = true → got + more.length = len
  short : ok = false → got + more.length < len
  waits : idlePolls log ≤ idlePolls log'
  idle : idlePolls log' + waited ≤ idlePolls log + sensorLinkReadTimeoutMs
  timedOut : ok = false → idlePolls log' + waited = idlePolls log + sensorLinkReadTimeoutMs
  dry : ok = false → EndsDry log'
  polled : polls log' + idlePolls log ≤ polls log + more.length + idlePolls log' + 1

section

variable {dst : PtaBuffer} {len got waited : Nat} {m : PtaMemory} {log : List (Event Uart)}
  {E : List (Event Uart) → PtaMemory → TeeError → Prop}

/-- A pass that finds a byte, and what follows it. -/
theorem Filled.byte {b : UInt8} {more : Bytes} {m' : PtaMemory} {log' : List (Event Uart)}
    {ok : Bool} (h : Filled dst len (got + 1) waited (m.store dst got b)
      (log ++ [.did .haveRxData true] ++ [.did .getchar b]) more m' log' ok) :
    Filled dst len got waited m log (b :: more) m' log' ok := by
  obtain ⟨hgets, hmemory, hfits, hfull, hshort, hwaits, hidle, hout, hdry, hpolled⟩ := h
  simp only [getsOf_snoc, idlePolls_snoc, polls_snoc] at hgets hwaits hidle hout hpolled
  change getsOf log' = getsOf log ++ [] ++ [b] ++ more at hgets
  change idlePolls log + 0 + 0 ≤ _ at hwaits
  change _ ≤ idlePolls log + 0 + 0 + _ at hidle
  change _ → _ = idlePolls log + 0 + 0 + _ at hout
  change _ + (idlePolls log + 0 + 0) ≤ polls log + 1 + 0 + _ + _ + _ at hpolled
  rw [Nat.add_right_comm, Nat.add_assoc, ← List.length_cons (a := b)] at hfits hfull hshort
  refine ⟨by simp [hgets], hmemory, hfits, hfull, hshort, hwaits, hidle, hout, hdry, ?_⟩
  rw [List.length_cons]
  omega

/-- A pass that waits, and what follows it. -/
theorem Filled.wait {more : Bytes} {m' : PtaMemory} {log' : List (Event Uart)} {ok : Bool}
    (h : Filled dst len got (waited + 1) m
      (log ++ [.did .haveRxData false] ++ [.did .mdelay ()]) more m' log' ok) :
    Filled dst len got waited m log more m' log' ok := by
  obtain ⟨hgets, hmemory, hfits, hfull, hshort, hwaits, hidle, hout, hdry, hpolled⟩ := h
  simp only [getsOf_snoc, idlePolls_snoc, polls_snoc] at hgets hwaits hidle hout hpolled
  change getsOf log' = getsOf log ++ [] ++ [] ++ more at hgets
  change idlePolls log + 0 + 1 ≤ _ at hwaits
  change _ ≤ idlePolls log + 0 + 1 + _ at hidle
  change _ → _ = idlePolls log + 0 + 1 + _ at hout
  change _ + (idlePolls log + 0 + 1) ≤ polls log + 1 + 0 + _ + _ + _ at hpolled
  refine ⟨by simp [hgets], hmemory, hfits, hfull, hshort, by omega, by omega, ?_, hdry, by omega⟩
  intro hok
  have := hout hok
  omega

/-- The loop of `uart_read`, whose fuel is never used up. -/
theorem uartReadIntoLoop_spec (fuel : Nat) (hgot : got ≤ len)
    (hwaited : waited ≤ sensorLinkReadTimeoutMs)
    (hfuel : len + sensorLinkReadTimeoutMs < fuel + got + waited) :
    wpP (fun _ _ => True) (uartReadIntoLoop dst len fuel got waited)
      (fun log' m' ok => ∃ more, Filled dst len got waited m log more m' log' ok) E m log := by
  induction fuel generalizing got waited m log with
  | zero => omega
  | succ fuel ih =>
    simp only [uartReadIntoLoop, wpP_ite, wpP_bind, wpP_uartM, wpP_modify, wpP_pure]
    refine ⟨?_, ?_⟩
    · intro hlt
      refine ⟨trivial, ?_⟩
      intro ready
      refine ⟨?_, ?_⟩
      · rintro rfl
        refine ⟨trivial, ?_⟩
        intro b
        refine wpP_conseq (ih (by omega) hwaited (by omega)) ?_ fun _ _ _ h => h
        rintro log' m' ok ⟨more, h⟩
        exact ⟨b :: more, h.byte⟩
      · intro hready
        obtain rfl : ready = false := eq_false_of_ne_true hready
        refine ⟨?_, ?_⟩
        · intro hlate
          have hidle : idlePolls (log ++ [.did .haveRxData false]) = idlePolls log + 0 :=
            idlePolls_snoc _ _
          have hpolls : polls (log ++ [.did .haveRxData false]) = polls log + 1 := polls_snoc _ _
          refine ⟨[], ?_, rfl, hgot, (by rintro ⟨⟩), fun _ => hlt, by omega, by omega, fun _ => by omega,
            fun _ => ⟨log, rfl⟩, ?_⟩
          · rw [getsOf_snoc]
            rfl
          · rw [hidle, hpolls, List.length_nil]
            omega
        · intro hlate
          refine ⟨trivial, ?_⟩
          intro u
          refine wpP_conseq (ih hgot (by omega) (by omega)) ?_ fun _ _ _ h => h
          rintro log' m' ok ⟨more, h⟩
          exact ⟨more, h.wait⟩
    · intro hfull
      refine ⟨[], by simp, rfl, by simpa using hgot, fun _ => ?_, (by rintro ⟨⟩), le_rfl, by omega, (by rintro ⟨⟩),
        (by rintro ⟨⟩), by simp⟩
      rw [List.length_nil]
      omega

/-- `uart_read`: what it took is in the buffer, and it waited two seconds at most. -/
theorem uartReadInto_spec : wpP (fun _ _ => True) (uartReadInto dst len)
    (fun log' m' ok => ∃ more, Filled dst len 0 0 m log more m' log' ok) E m log :=
  uartReadIntoLoop_spec _ (Nat.zero_le _) (Nat.zero_le _) (by omega)

/-- More fuel changes nothing: the loop ends by itself. -/
theorem uartReadIntoLoop_fuel (fuel extra : Nat) (hgot : got ≤ len)
    (hwaited : waited ≤ sensorLinkReadTimeoutMs)
    (hfuel : len + sensorLinkReadTimeoutMs < fuel + got + waited) :
    uartReadIntoLoop dst len (fuel + extra) got waited = uartReadIntoLoop dst len fuel got waited := by
  induction fuel generalizing got waited with
  | zero => omega
  | succ fuel ih =>
    rw [Nat.add_right_comm]
    simp only [uartReadIntoLoop]
    by_cases hlt : got < len
    · rw [if_pos hlt, if_pos hlt]
      congr 1
      funext ready
      cases ready with
      | true =>
        have hnext := ih (Nat.succ_le_of_lt hlt) hwaited (by omega)
        simp only [if_true, hnext]
      | false =>
        by_cases hlate : waited ≥ sensorLinkReadTimeoutMs
        · simp only [Bool.false_eq_true, if_false, if_pos hlate]
        · have hnext := ih hgot (Nat.lt_of_not_ge hlate) (by omega)
          simp only [Bool.false_eq_true, if_false, if_neg hlate, hnext]
    · rw [if_neg hlt, if_neg hlt]

/-! ## One frame -/

/-- A read waited for two seconds, and there was still no byte. -/
structure TimedOut (log log' : List (Event Uart)) : Prop where
  waited : idlePolls log + sensorLinkReadTimeoutMs ≤ idlePolls log'
  dry : EndsDry log'

/-- Why a frame was not read: its header or its payload did not come in time, or the header is not
one that was asked for. -/
inductive Cut (late : Prop) (type : FrameType) (size : Nat) (hdr more : Bytes) : Prop where
  | header (h : hdr.length < frameHdrSize) (hmore : more = []) (time : late)
  | rejected (h : hdr.length = frameHdrSize) (hmore : more = [])
      (bad : hdrType hdr ≠ type.byte ∨ hdrLen hdr > sensorLinkReadingMax ∨ hdrLen hdr > size)
  | payload (h : hdr.length = frameHdrSize) (short : more.length < hdrLen hdr) (time : late)

/-- What `read_frame` has done: what it took of a header, and of a payload. -/
structure FrameRead (type : FrameType) (dst : PtaBuffer) (size : Nat) (m : PtaMemory)
    (log : List (Event Uart)) (hdr more : Bytes) (r : Option Nat) (m' : PtaMemory)
    (log' : List (Event Uart)) : Prop where
  gets : getsOf log' = getsOf log ++ (hdr ++ more)
  memory : m' = (m.storeAll .hdr 0 hdr).storeAll dst 0 more
  hdr_le : hdr.length ≤ frameHdrSize
  more_le : more.length ≤ size
  idle : idlePolls log' ≤ idlePolls log + 2 * sensorLinkReadTimeoutMs
  read : ∀ payloadLen, r = some payloadLen → hdr = frameHdr type payloadLen ∧
    more.length = payloadLen ∧ payloadLen ≤ sensorLinkReadingMax
  cut : r = none → Cut (TimedOut log log') type size hdr more

theorem readFrameInto_spec {type : FrameType} {size : Nat} :
    wpP (fun _ _ => True) (readFrameInto type dst size)
      (fun log' m' r => ∃ hdr more, FrameRead type dst size m log hdr more r m' log') E m log := by
  unfold readFrameInto
  rw [wpP_bind]
  refine wpP_conseq uartReadInto_spec ?_ fun _ _ _ h => h
  rintro log₁ _ ok ⟨hdr, hgets, rfl, hfits, hfull, hshort, hwaits, hidle, hlate, hdry, -⟩
  rw [Nat.zero_add] at hfits hfull hshort
  -- nothing of a payload is read
  have stopped : ∀ {r : Option Nat}, (∀ payloadLen, r = some payloadLen →
      hdr = frameHdr type payloadLen ∧ 0 = payloadLen) →
      (r = none → Cut (TimedOut log log₁) type size hdr []) →
      FrameRead type dst size m log hdr [] r (m.storeAll .hdr 0 hdr) log₁ := by
    intro r hread hcut
    refine ⟨by rw [List.append_nil]; exact hgets, rfl, hfits, Nat.zero_le _, by omega, ?_, hcut⟩
    intro payloadLen hr
    obtain ⟨hhdr, hlen⟩ := hread payloadLen hr
    exact ⟨hhdr, hlen, hlen ▸ Nat.zero_le _⟩
  cases ok with
  | false =>
    have hwaited := hlate rfl
    refine ⟨hdr, [], stopped (by rintro _ ⟨⟩) fun _ => .header (hshort rfl) rfl ⟨?_, hdry rfl⟩⟩
    omega
  | true =>
    have hlen := hfull rfl
    have hview : (m.storeAll .hdr 0 hdr).mem.view .hdr frameHdrSize = hdr := by
      rw [← hlen]
      exact Memory.view_storeAll _ _ _
    simp only [if_true, wpP_bind, wpP_get, wpP_ite, wpP_pure, hview]
    refine ⟨fun htype => ⟨hdr, [], stopped (by rintro _ ⟨⟩) fun _ => .rejected hlen rfl (Or.inl htype)⟩, ?_⟩
    intro htype
    rw [not_not] at htype
    refine ⟨fun hbig => ⟨hdr, [], stopped (by rintro _ ⟨⟩) fun _ => .rejected hlen rfl (Or.inr hbig)⟩, ?_⟩
    intro hfits₂
    rw [not_or, Nat.not_lt, Nat.not_lt] at hfits₂
    have hhdr : hdr = frameHdr type (hdrLen hdr) := by
      conv_lhs => rw [frameHdr_fields hlen, htype]
      rfl
    refine ⟨?_, ?_⟩
    · intro hzero
      refine ⟨hdr, [], stopped ?_ (by rintro ⟨⟩)⟩
      rintro _ ⟨⟩
      exact ⟨hzero ▸ hhdr, rfl⟩
    · intro _
      refine wpP_conseq uartReadInto_spec ?_ fun _ _ _ h => h
      rintro log₂ _ ok ⟨more, hgets₂, rfl, hle, hfull₂, hshort₂, hwaits₂, hidle₂, hlate₂, hdry₂, -⟩
      rw [Nat.zero_add] at hle hfull₂ hshort₂
      have hgets' : getsOf log₂ = getsOf log ++ (hdr ++ more) := by
        rw [hgets₂, hgets, List.append_assoc]
      refine ⟨?_, ?_⟩
      · rintro rfl
        refine ⟨hdr, more, hgets', rfl, hfits, hle.trans hfits₂.2, by omega, ?_, (by rintro ⟨⟩)⟩
        rintro _ ⟨⟩
        exact ⟨hhdr, hfull₂ rfl, hfits₂.1⟩
      · intro hok
        obtain rfl : ok = false := eq_false_of_ne_true hok
        refine ⟨hdr, more, hgets', rfl, hfits, hle.trans hfits₂.2, by omega, (by rintro _ ⟨⟩), ?_⟩
        intro _
        have hwaited := hlate₂ rfl
        refine .payload hlen (hshort₂ rfl) ⟨?_, hdry₂ rfl⟩
        omega

/-- No frame outgrows the buffer it is read into. -/
theorem FrameRead.within {type : FrameType} {size : Nat} {hdr more : Bytes} {r : Option Nat}
    {m' : PtaMemory} {log' : List (Event Uart)} (h : FrameRead type dst size m log hdr more r m' log')
    (hsize : size ≤ dst.capacity m.size) :
    Memory.NewWithin (PtaBuffer.capacity m.size) m.mem m'.mem := by
  rw [h.memory]
  refine Memory.NewWithin.trans (Memory.NewWithin.storeAll _ .hdr ?_)
    (Memory.NewWithin.storeAll _ dst ?_)
  · rw [Nat.zero_add]
    exact h.hdr_le
  · rw [Nat.zero_add]
    exact h.more_le.trans hsize

/-- The frame that was read is the one that was taken off the wire. -/
theorem FrameRead.frame {type : FrameType} {size payloadLen : Nat} {hdr more : Bytes}
    {m' : PtaMemory} {log' : List (Event Uart)}
    (h : FrameRead type dst size m log hdr more (some payloadLen) m' log') :
    getsOf log' = getsOf log ++ frameOf type more ∧ more.length = payloadLen ∧
      payloadLen ≤ sensorLinkReadingMax := by
  obtain ⟨hhdr, rfl, hmax⟩ := h.read payloadLen rfl
  refine ⟨?_, rfl, hmax⟩
  rw [h.gets, hhdr, frameOf]

/-- Where none was read, no empty frame of that type was taken either. -/
theorem FrameRead.not_empty {type : FrameType} {size : Nat} {hdr more : Bytes} {m' : PtaMemory}
    {log' : List (Event Uart)} (h : FrameRead type dst size m log hdr more none m' log') :
    hdr ++ more ≠ frameOf type [] := by
  rw [frameOf, List.append_nil, List.length_nil]
  intro heq
  have hlen := congrArg List.length heq
  rw [List.length_append, length_frameHdr] at hlen
  -- the header is the whole of it
  have whole : hdr.length = frameHdrSize → hdr = frameHdr type 0 ∧ more = [] := by
    intro hhdr
    obtain rfl : more = [] := List.length_eq_zero_iff.mp (by omega)
    rw [List.append_nil] at heq
    exact ⟨heq, rfl⟩
  rcases h.cut rfl with ⟨hshort, rfl, -⟩ | ⟨hhdr, -, hbad⟩ | ⟨hhdr, hshort, -⟩
  · rw [List.length_nil] at hlen
    omega
  · rw [(whole hhdr).1, hdrType_frameHdr, hdrLen_frameHdr type (by decide)] at hbad
    rcases hbad with hbad | hbad | hbad
    · exact hbad rfl
    · exact Nat.not_lt_zero _ hbad
    · exact Nat.not_lt_zero _ hbad
  · rw [(whole hhdr).1, hdrLen_frameHdr type (by decide)] at hshort
    exact Nat.not_lt_zero _ hshort

/-- Writing neither reads nor waits. -/
theorem uartWrite_quiet {E : List (Event Uart) → Unit → TeeError → Prop} {s : Unit} (buf : Bytes) :
    wpP (fun _ _ => True) (uartWrite buf)
      (fun log' _ _ => getsOf log' = getsOf log ∧ idlePolls log' = idlePolls log) E s log := by
  induction buf generalizing log with
  | nil => exact ⟨rfl, rfl⟩
  | cons b buf ih =>
    simp only [uartWrite, wpP_bind, wpP_uart]
    refine ⟨trivial, ?_⟩
    intro u
    refine wpP_conseq ih ?_ fun _ _ _ h => h
    rintro log' _ _ ⟨hgets, hidle⟩
    rw [getsOf_snoc] at hgets
    rw [idlePolls_snoc] at hidle
    exact ⟨hgets.trans (List.append_nil _), hidle⟩

theorem writeLinkFrame_quiet {E : List (Event Uart) → Unit → TeeError → Prop} {s : Unit}
    (type : FrameType) (payload : Bytes) :
    wpP (fun _ _ => True) (writeLinkFrame type payload)
      (fun log' _ _ => getsOf log' = getsOf log ∧ idlePolls log' = idlePolls log) E s log := by
  simp only [writeLinkFrame, wpP_bind, wpP_ite, wpP_pure]
  refine wpP_conseq (uartWrite_quiet _) ?_ fun _ _ _ h => h
  rintro log₁ s₁ _ ⟨hgets, hidle⟩
  refine ⟨?_, fun _ => ⟨hgets, hidle⟩⟩
  intro _
  refine wpP_conseq (uartWrite_quiet payload) ?_ fun _ _ _ h => h
  rintro log₂ _ _ ⟨hgets₂, hidle₂⟩
  exact ⟨hgets₂.trans hgets, hidle₂.trans hidle⟩

end

end ConfidentialIoT
