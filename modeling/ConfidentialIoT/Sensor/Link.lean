import ConfidentialIoT.Lib.Keeps
import ConfidentialIoT.Sensor.Frames
import ConfidentialIoT.Tee.Api

/-!
# `Sensor/Link.lean` — the sensor_link PTA

`sensor_link.c`: `uart_write`, `uart_read`, `write_frame`, `read_frame` and the three commands,
down to the single accesses to the UART. A memref parameter is its buffer, whose length is its
size; what a command returns is what it reports of its output buffer. The setup of the UART and
`open_session` are left out: the first changes no byte of the stream, and the caller here is the
TA.
-/

set_option autoImplicit false

namespace ConfidentialIoT

open Effects

/-! ## The UART -/

inductive UartAct where
  | putc (b : UInt8)
  | haveRxData
  /-- waits until there is a byte -/
  | getchar
  /-- one millisecond -/
  | mdelay
  /-- the other end sends a frame -/
  | transmit (f : LinkFrame)

@[reducible] def UartAct.Res : UartAct → Type
  | .putc _ => Unit
  | .haveRxData => Bool
  | .getchar => UInt8
  | .mdelay => Unit
  | .transmit _ => Unit

/-- The accesses to the UART, and the frames that arrive at it. -/
def Uart : Sig where
  Err := Empty
  Req := Empty
  Out := Empty.elim
  Act := UartAct
  Res := UartAct.Res

/-- The monad of the PTA's functions. -/
abbrev Pta (α : Type) : Type := Proc Uart TeeError Unit α

def uart (a : UartAct) : Pta a.Res := Proc.act (S := Uart) a

@[simp] theorem wpP_uart {A : List (Event Uart) → Call Uart → Prop}
    {E : List (Event Uart) → Unit → TeeError → Prop} {a : UartAct} {s : Unit}
    {tr : List (Event Uart)} {Q : List (Event Uart) → Unit → a.Res → Prop} :
    wpP (α := no_index a.Res) A (uart a) Q E s tr ↔
      A tr (.act a) ∧ ∀ b : a.Res, Q (tr ++ [.did a b]) s b :=
  wpP_act

abbrev sensorLinkReadTimeoutMs : Nat := 2000

/-- `uart_write` -/
def uartWrite : Bytes → Pta Unit
  | [] => pure ()
  | b :: buf => do
    uart (.putc b)
    uartWrite buf

/-- `uart_read`; each pass takes a byte or waits a millisecond, so `fuel` passes are enough. -/
def uartReadLoop (len : Nat) : (fuel waitedMs : Nat) → Bytes → Pta (Option Bytes)
  | 0, _, _ => pure none
  | fuel + 1, waitedMs, got =>
    if got.length < len then do
      if ← uart .haveRxData then
        let b ← uart .getchar
        uartReadLoop len fuel waitedMs (got ++ [b])
      else if waitedMs ≥ sensorLinkReadTimeoutMs then
        return none
      else
        uart .mdelay
        uartReadLoop len fuel (waitedMs + 1) got
    else pure (some got)

/-- `uart_read`: the bytes, or `false`. -/
def uartRead (len : Nat) : Pta (Option Bytes) :=
  uartReadLoop len (len + sensorLinkReadTimeoutMs + 1) 0 []

/-- `write_frame`; the payload is `len` bytes long, and `NULL` when `len` is 0. -/
def writeLinkFrame (type : FrameType) (payload : Bytes) : Pta Unit := do
  uartWrite (frameHdr type payload.length)
  if payload ≠ [] then
    uartWrite payload

/-- `read_frame`: the payload, or `false`. -/
def readLinkFrame (wantType : FrameType) (payloadSize : Nat) : Pta (Option Bytes) := do
  match ← uartRead frameHdrSize with
  | none => return none
  | some hdr =>
    if hdrType hdr ≠ wantType.byte then
      return none
    let len := hdrLen hdr
    if len > sensorLinkReadingMax ∨ len > payloadSize then
      return none
    if len = 0 then
      return some []
    uartRead len

/-! ## Commands -/

/-- `param_types` and the two memrefs a command looks at. -/
structure PtaParams where
  types : UInt32
  buf0 : Bytes
  buf1 : Bytes

/-- The challenge goes out, and the response comes back in `params[1]`. -/
def sensorLinkChallenge (params : PtaParams) : Pta Bytes := do
  if params.types ≠ teeParamTypes .memrefInput .memrefOutput .none .none then
    throw .badParameters
  if params.buf0.length ≠ sensorLinkChallengeSize then
    throw .badParameters
  if params.buf1.length < sensorLinkHmacSize then
    throw .shortBuffer
  writeLinkFrame .challenge params.buf0
  match ← readLinkFrame .challengeResponse params.buf1.length with
  | none => throw .communication
  | some resp =>
    if resp.length ≠ sensorLinkHmacSize then
      throw .communication
    return resp

def sensorLinkRead (params : PtaParams) : Pta Bytes := do
  if params.types ≠ teeParamTypes .memrefOutput .none .none .none then
    throw .badParameters
  if params.buf0.length < sensorLinkReadingMax then
    throw .shortBuffer
  match ← readLinkFrame .reading params.buf0.length with
  | none => throw .communication
  | some reading => return reading

def sensorLinkFetchSecret (params : PtaParams) : Pta Bytes := do
  if params.types ≠ teeParamTypes .memrefOutput .none .none .none then
    throw .badParameters
  if params.buf0.length < sensorSecretSize then
    throw .shortBuffer
  writeLinkFrame .secretRequest []
  match ← readLinkFrame .secret sensorSecretSize with
  | none => throw .communication
  | some secret =>
    if secret = [] then
      throw .accessDenied
    if secret.length ≠ sensorSecretSize then
      throw .communication
    return secret

/-- `PTA_SENSOR_LINK_CMD_…` -/
def PtaCommand.ofId : UInt32 → Option PtaCommand
  | 0 => some .challenge
  | 1 => some .read
  | 2 => some .fetchSecret
  | _ => none

/-- `TEE_ERROR_NOT_IMPLEMENTED` -/
abbrev notImplemented : TeeError := .other 0xFFFF0009

/-- `invoke_command` -/
def invokeCommand (cmdId : UInt32) (params : PtaParams) : Pta Bytes :=
  match PtaCommand.ofId cmdId with
  | some .challenge => sensorLinkChallenge params
  | some .read => sensorLinkRead params
  | some .fetchSecret => sensorLinkFetchSecret params
  | none => throw notImplemented

end ConfidentialIoT
