import ConfidentialIoT.Lib.Keeps
import ConfidentialIoT.Sensor.Frames

/-!
# `Sensor/Daemon.lean` — the Sensor Module

`sensor_daemon.c`, from `read_full` to `main`'s accept loop. Both loops run forever in the
source; `turn` is one pass of whichever of them the process is in, and `process n` is what it
has done after `n` passes. What `main` does before its loop (arguments, the secret's file, the
listening socket) and what it logs are left out.
-/

set_option autoImplicit false

namespace ConfidentialIoT

open Effects

/-! ## Calls -/

/-- Why a call returned -1, as far as the source asks. -/
inductive Errno where
  | intr | other
deriving DecidableEq, Repr

inductive DaemonReq where
  | accept
  /-- With a timeout of one second. -/
  | select (fd : Nat)
  | read (fd : Nat) (len : Nat)
  /-- `write(fd, buf + sent, len - sent)` -/
  | write (fd : Nat) (buf : Bytes) (sent : Nat)
  | hmac (key msg : Bytes)
deriving DecidableEq

/-- `accept` answers a descriptor, `select` whether there is something to read, `read` and `write`
how far they came. -/
@[reducible] def DaemonReq.Out : DaemonReq → Type
  | .accept => Nat
  | .select _ => Bool
  | .read _ len => { b : Bytes // b.length ≤ len }
  | .write _ buf sent => { n : Nat // n ≤ buf.length - sent }
  | .hmac _ _ => Bytes

inductive DaemonAct where
  | time
  | close (fd : Nat)
deriving DecidableEq

@[reducible] def DaemonAct.Res : DaemonAct → Type
  | .time => Int
  | .close _ => Unit

/-- The system calls of the daemon, and the one library call that may fail. -/
def Daemon : Sig where
  Err := Errno
  Req := DaemonReq
  Out := DaemonReq.Out
  Act := DaemonAct
  Res := DaemonAct.Res

/-! ## State -/

/-- The process globals. -/
structure Globals where
  secret : BytesN sensorSecretSize
  secretServed : Bool
  secretWindowClosed : Bool

/-- A process that has just loaded its secret. -/
def Globals.boot (secret : BytesN sensorSecretSize) : Globals := ⟨secret, false, false⟩

/-- The locals of `serve`. -/
structure Conn where
  fd : Nat
  tick : UInt32
  lastReading : Int
  authenticated : Bool

/-- `serve`'s locals when it is entered. -/
def Conn.fresh (fd : Nat) : Conn := ⟨fd, 0, 0, false⟩

/-- The monad of the daemon's C functions; its error is their -1. -/
abbrev DaemonProc (α : Type) : Type := Proc Daemon Errno Globals α

def sys (r : DaemonReq) : DaemonProc r.Out := Proc.attempt (S := Daemon) r

def sysAct (a : DaemonAct) : DaemonProc a.Res := Proc.act (S := Daemon) a

section

variable {A : List (Event Daemon) → Call Daemon → Prop}
  {E : List (Event Daemon) → Globals → Errno → Prop} {g : Globals} {tr : List (Event Daemon)}

@[simp] theorem wpP_sys {r : DaemonReq} {Q : List (Event Daemon) → Globals → r.Out → Prop} :
    wpP (α := no_index r.Out) A (sys r) Q E g tr ↔ A tr (.req r) ∧
      (∀ b : r.Out, Q (tr ++ [.ok r b]) g b) ∧ ∀ e, E (tr ++ [.refused r e]) g e :=
  wpP_attempt

@[simp] theorem wpP_sysAct {a : DaemonAct} {Q : List (Event Daemon) → Globals → a.Res → Prop} :
    wpP (α := no_index a.Res) A (sysAct a) Q E g tr ↔
      A tr (.act a) ∧ ∀ b : a.Res, Q (tr ++ [.did a b]) g b :=
  wpP_act

end

/-! ## Frames in and out -/

/-- `read_full`: `fuel` is what is still missing. -/
def readLoop (fd len : Nat) : Nat → Bytes → DaemonProc Bytes
  | 0, got => pure got
  | fuel + 1, got =>
    if got.length < len then do
      let chunk ← sys (.read fd (len - got.length))
      if chunk.1 = [] then
        throw .other
      readLoop fd len fuel (got ++ chunk.1)
    else pure got

/-- `read_full` -/
def readFull (fd len : Nat) : DaemonProc Bytes := readLoop fd len len []

/-- `write_full`, from `sent` on. -/
def writeLoop (fd : Nat) (buf : Bytes) : Nat → Nat → DaemonProc Unit
  | 0, _ => pure ()
  | fuel + 1, sent =>
    if sent < buf.length then do
      let n ← sys (.write fd buf sent)
      if n.1 = 0 then
        throw .other
      writeLoop fd buf fuel (sent + n.1)
    else pure ()

/-- `write_full` -/
def writeFull (fd : Nat) (buf : Bytes) : DaemonProc Unit := writeLoop fd buf buf.length 0

/-- `write_frame`; the payload is `len` bytes long, and `NULL` when `len` is 0. -/
def writeFrame (fd : Nat) (type : FrameType) (payload : Bytes) : DaemonProc Unit := do
  writeFull fd (frameHdr type payload.length)
  if payload ≠ [] then
    writeFull fd payload

/-! ## Handlers -/

def handleChallenge (fd len : Nat) : DaemonProc Unit := do
  if len ≠ sensorLinkChallengeSize then
    throw .other
  let challenge ← readFull fd sensorLinkChallengeSize
  let response ← sys (.hmac (← get).secret.1 challenge)
  if response.length ≠ sensorLinkHmacSize then
    throw .other
  writeFrame fd .challengeResponse response

def handleSecretRequest (fd len : Nat) (authenticated : Bool) : DaemonProc Unit := do
  if len ≠ 0 then
    throw .other
  let g ← get
  if g.secretServed ∨ g.secretWindowClosed ∨ authenticated then
    writeFrame fd .secret []
  else
    writeFrame fd .secret g.secret.1
    modify fun g => { g with secretServed := true }

/-- The payload of the `tick`-th synthetic reading. -/
def readingPayload (tick : UInt32) : Bytes :=
  Bytes.toBE sensorLinkReadingValueSize (20 + tick.toNat % 10) ++ [1] ++ Bytes.ascii ['C']

def sendReading (fd : Nat) (tick : UInt32) : DaemonProc Unit :=
  writeFrame fd .reading (readingPayload tick)

/-! ## The loops -/

abbrev readingIntervalSec : Int := 2

/-- Read one frame and act on it. -/
def handleFrame (c : Conn) : DaemonProc Conn := do
  let hdr ← readFull c.fd frameHdrSize
  if hdrType hdr = FrameType.challenge.byte then
    handleChallenge c.fd (hdrLen hdr)
    if c.authenticated then
      return c
    let now ← sysAct .time
    return { c with authenticated := true, lastReading := now }
  else if hdrType hdr = FrameType.secretRequest.byte then
    handleSecretRequest c.fd (hdrLen hdr) c.authenticated
    return c
  else
    throw .other

/-- Push a reading if one is due. -/
def pushReading (c : Conn) : DaemonProc Conn := do
  if ¬ c.authenticated then
    return c
  let now ← sysAct .time
  if now - c.lastReading ≥ readingIntervalSec then
    sendReading c.fd c.tick
    return { c with tick := c.tick + 1, lastReading := now }
  return c

/-- One pass of the loop in `serve`; its error is `break`. -/
def serveOnce (c : Conn) : DaemonProc Conn := do
  match ← (sys (.select c.fd)).outcome with
  | .error .intr => return c
  | .error .other => throw .other
  | .ok ready =>
    let c ← if ready then handleFrame c else pure c
    pushReading c

/-- Where the process stands between two passes. -/
inductive Stage where
  | accepting
  | serving (c : Conn)
  | exited

/-- One pass of `main`'s loop or of `serve`'s. -/
def turn : Stage → DaemonProc Stage
  | .accepting => do
    match ← (sys .accept).outcome with
    | .error .intr => return .accepting
    | .error .other => return .exited
    | .ok fd => return .serving (.fresh fd)
  | .serving c => do
    match ← (serveOnce c).outcome with
    | .ok c => return .serving c
    | .error _ =>
      sysAct (.close c.fd)
      modify fun g => { g with secretWindowClosed := true }
      return .accepting
  | .exited => return .exited

/-- The first `n` passes. -/
def process : Nat → Stage → DaemonProc Stage
  | 0, stage => pure stage
  | n + 1, stage => do process n (← turn stage)

end ConfidentialIoT
