import ConfidentialIoT.Host.EdgeDevice
import ConfidentialIoT.Lib.Embed
import ConfidentialIoT.Server.Handler

/-!
# `Host/Uplink.lean` — the push loop and the server, joined

The device runs its loop, every connection it opens has a thread of the server, and the server has
other threads that serve whoever else there is. The lines of a connection arrive in order and at
any time; a call of anybody may take any time, and both clocks are one clock that goes on, read
from different zeros. What the TA and the TPM answer is left open.

A connection remembers all its lines, and of each reply how many lines the server had read when it
wrote it. Only the theorems look at that.
-/

set_option autoImplicit false

namespace ConfidentialIoT

open Effects

/-! ## The calls of both -/

inductive UplinkAct where
  | edge (a : EdgeAct)
  | server (a : ServerAct)
  /-- `readline`; there is none at the end of the input -/
  | readline

@[reducible] def UplinkAct.Res : UplinkAct → Type
  | .edge a => a.Res
  | .server a => a.Res
  | .readline => Option Bytes

@[reducible] def Uplink : Sig where
  Err := Empty
  Req := Empty
  Out := nofun
  Act := UplinkAct
  Res := UplinkAct.Res

def edgePart : Embedding Edge Uplink where
  act
    | .req r => nomatch r
    | .act a => .edge a
  answer
    | .req r, _ => nomatch r
    | .act _, b => b
  back
    | .req r, _ => nomatch r
    | .act _, b => b
  answer_back
    | .req r, _ => nomatch r
    | .act _, _ => rfl

def serverPart : Embedding Server Uplink where
  act
    | .req r => nomatch r
    | .act a => .server a
  answer
    | .req r, _ => nomatch r
    | .act _, b => b
  back
    | .req r, _ => nomatch r
    | .act _, b => b
  answer_back
    | .req r, _ => nomatch r
    | .act _, _ => rfl

/-! ## Who takes part -/

/-- The constants of a deployment. -/
structure Deployment where
  lib : HostLib
  rt : Runtime
  C : CryptoLib
  /-- the public half of the server's identity key -/
  identity : Point
  deviceId : Text
  /-- what the device's clock is ahead of the server's -/
  skew : Time

inductive Party where
  | device
  /-- the server's thread of the device's `n`-th connection -/
  | thread (n : Nat)
  /-- a thread that serves somebody else -/
  | other (k : Nat)
deriving DecidableEq

inductive PartyMem where
  | device (g : EdgeGlobals) (phase : LoopPhase)
  | thread (conn : Connection)
  | other (conn : Connection)

inductive UplinkJob where
  /-- the next part of one's loop -/
  | turn
  /-- a line or a registration of somebody else -/
  | serve (job : LinkJob)

namespace Deployment

variable (d : Deployment)

def deviceCode (g : EdgeGlobals) (phase : LoopPhase) : Prog Uplink PartyMem :=
  edgePart.prog ((mainLoop d.lib d.deviceId phase).go g) >>= fun r =>
    .ret (.device r.2 (r.1.toOption.getD .ensure))

def serverCode (job : LinkJob) (conn : Connection) : Prog Uplink Connection :=
  serverPart.prog ((linkJob d.rt d.C d.identity job).go conn) >>= fun r => .ret r.2

def threadCode (conn : Connection) : Prog Uplink PartyMem :=
  if conn.closed then .ret (.thread conn)
  else .call (.act .readline) fun line =>
    d.serverCode (.line line) conn >>= fun conn' => .ret (.thread conn')

def code : UplinkJob → PartyMem → Prog Uplink PartyMem
  | .turn, .device g phase => d.deviceCode g phase
  | .turn, .thread conn => d.threadCode conn
  | .serve job, .other conn => d.serverCode job conn >>= fun conn' => .ret (.other conn')
  | _, mem => .ret mem

@[reducible] def machine : Machine Uplink where
  Job := UplinkJob
  Mem := PartyMem
  Out := PartyMem
  code := d.code
  mem := id

end Deployment

/-! ## What they share -/

/-- A connection. -/
structure Wire where
  /-- the device's lines -/
  sent : List Bytes
  /-- how many of them the server has read -/
  taken : Nat
  /-- the server's replies, and how many lines it had read when it wrote each -/
  replies : List (Nat × JsonValue)
  /-- how many of them the device has read -/
  read : Nat
  hung : Bool

def Wire.fresh : Wire := ⟨[], 0, [], 0, false⟩

structure UplinkState where
  server : ServerState
  clock : Time
  /-- how many connections were opened -/
  opened : Nat
  wires : Nat → Wire

def UplinkState.setWire (s : UplinkState) (n : Nat) (w : Wire) : UplinkState :=
  { s with wires := Function.update s.wires n w }

@[simp] theorem UplinkState.setWire_self (s : UplinkState) (n : Nat) (w : Wire) :
    (s.setWire n w).wires n = w := Function.update_self ..

theorem UplinkState.setWire_ne (s : UplinkState) {n m : Nat} (w : Wire) (h : m ≠ n) :
    (s.setWire n w).wires m = s.wires m := Function.update_of_ne h ..

/-- Nobody has connected. -/
def UplinkState.start (server : ServerState) (clock : Time) : UplinkState :=
  ⟨server, clock, 0, fun _ => .fresh⟩

/-- The time a step of the server says it is. -/
def eventTime : Event Server → Option Time
  | .did .time t => some t
  | .did (.storeSession _ _) t => some t
  | .did (.sessionKey _) r => some r.1
  | .did (.advanceSeq _ _) r => some r.1
  | .did (.register _ _ _ _ _) r => some r.1
  | _ => none

/-- A reply goes to the connection of the thread that writes it. -/
def written (i : Party) (ev : Event Server) (wires : Nat → Wire) : Nat → Wire :=
  match i, ev with
  | .thread n, .did (.writeline reply) _ =>
    let w := wires n
    Function.update wires n { w with replies := w.replies ++ [(w.taken, reply)] }
  | _, _ => wires

theorem written_cases (i : Party) (ev : Event Server) (wires : Nat → Wire) :
    written i ev wires = wires ∨ ∃ n reply, i = .thread n ∧ ev = .did (.writeline reply) () ∧
      written i ev wires = Function.update wires n
        { wires n with replies := (wires n).replies ++ [((wires n).taken, reply)] } := by
  unfold written
  split
  · exact Or.inr ⟨_, _, rfl, rfl, rfl⟩
  · exact Or.inl rfl

/-- What the TA and the TPM are asked. -/
def EdgeAct.secure : EdgeAct → Bool
  | .generateEvidence _ _ | .attestationReport _ | .handshakeComplete _ _ _ _
  | .readAndProtect => true
  | _ => false

/-- `mono_now` at a time: whole seconds. -/
def Deployment.second (d : Deployment) (t : Time) : Int := (t + d.skew) / seconds 1

/-- What a call answers and does, at a time `t` that is not before the last one. -/
inductive UplinkStep (d : Deployment) : Party → UplinkState → Event Uplink → UplinkState → Prop where
  | connected {i : Party} {s : UplinkState} (t : Time) (h : s.clock ≤ t) :
      UplinkStep d i s (.did (.edge .connect) (some s.opened))
        { s with clock := t, opened := s.opened + 1 }
  | unconnected {i : Party} {s : UplinkState} (t : Time) (h : s.clock ≤ t) :
      UplinkStep d i s (.did (.edge .connect) none) { s with clock := t }
  | sent {i : Party} {s : UplinkState} (t : Time) (h : s.clock ≤ t) (n : Nat) (msg : JsonValue)
      (hopen : n < s.opened) :
      UplinkStep d i s (.did (.edge (.send n msg)) true)
        ({ s with clock := t }.setWire n
          { s.wires n with sent := (s.wires n).sent ++ [d.lib.printUnformatted msg] })
  /-- a part of the line may have left before the error -/
  | unsent {i : Party} {s : UplinkState} (t : Time) (h : s.clock ≤ t) (n : Nat) (msg : JsonValue)
      (part : Option Bytes) (hpart : ∀ b, part = some b → b <+: d.lib.printUnformatted msg) :
      UplinkStep d i s (.did (.edge (.send n msg)) false)
        ({ s with clock := t }.setWire n
          { s.wires n with sent := (s.wires n).sent ++ part.toList })
  | received {i : Party} {s : UplinkState} (t : Time) (h : s.clock ≤ t) (n k : Nat)
      (reply : JsonValue) (hnext : (s.wires n).replies[(s.wires n).read]? = some (k, reply)) :
      UplinkStep d i s (.did (.edge (.recv n)) (some reply))
        ({ s with clock := t }.setWire n { s.wires n with read := (s.wires n).read + 1 })
  | unreceived {i : Party} {s : UplinkState} (t : Time) (h : s.clock ≤ t) (n : Nat) :
      UplinkStep d i s (.did (.edge (.recv n)) none) { s with clock := t }
  | closed {i : Party} {s : UplinkState} (t : Time) (h : s.clock ≤ t) (n : Nat) :
      UplinkStep d i s (.did (.edge (.close n)) ())
        ({ s with clock := t }.setWire n { s.wires n with hung := true })
  | told {i : Party} {s : UplinkState} (t : Time) (h : s.clock ≤ t) :
      UplinkStep d i s (.did (.edge .monoNow) (d.second t)) { s with clock := t }
  | secure {i : Party} {s : UplinkState} (t : Time) (h : s.clock ≤ t) (a : EdgeAct)
      (ha : a.secure = true) (b : a.Res) :
      UplinkStep d i s (.did (.edge a) b) { s with clock := t }
  | line {n : Nat} {s : UplinkState} (t : Time) (h : s.clock ≤ t) (line : Bytes)
      (hnext : (s.wires n).sent[(s.wires n).taken]? = some line) :
      UplinkStep d (.thread n) s (.did .readline (some line))
        ({ s with clock := t }.setWire n { s.wires n with taken := (s.wires n).taken + 1 })
  /-- the connection has ended -/
  | ended {n : Nat} {s : UplinkState} (t : Time) (h : s.clock ≤ t) (hopen : n < s.opened) :
      UplinkStep d (.thread n) s (.did .readline none) { s with clock := t }
  | served {i : Party} {s : UplinkState} (t : Time) (h : s.clock ≤ t) (ev : Event Server)
      (server' : ServerState) (hstep : ServerStep d.C d.identity s.server ev server')
      (htime : ∀ t', eventTime ev = some t' → t' = t) :
      UplinkStep d i s (serverPart.event ev)
        ⟨server', t, s.opened, written i ev s.wires⟩

abbrev UplinkConfig (d : Deployment) : Type := Pool.Config d.machine Party UplinkState

abbrev UplinkLabel (d : Deployment) : Type := Pool.Label d.machine Party

/-- Everybody has just started. -/
structure UplinkConfig.Starts {d : Deployment} (c : UplinkConfig d) : Prop where
  device : c.agents .device = .idle (.device .initial .ensure)
  threads : ∀ n, c.agents (.thread n) = .idle (.thread .accepted)
  others : ∀ k, c.agents (.other k) = .idle (.other .accepted)
  shared : ∃ registry clock, c.shared = .start (.started registry) clock

theorem UplinkConfig.Starts.quiet {d : Deployment} {c : UplinkConfig d} (h : c.Starts) : c.Quiet := by
  intro i
  cases i with
  | device => exact ⟨_, h.device⟩
  | thread n => exact ⟨_, h.threads n⟩
  | other k => exact ⟨_, h.others k⟩

/-! ## What a step can do -/

section

variable {d : Deployment} {i : Party} {s s' : UplinkState} {ev : Event Uplink}

theorem UplinkStep.clock_le (h : UplinkStep d i s ev s') : s.clock ≤ s'.clock := by
  cases h <;> assumption

/-- The server changes in its own steps, which happen when they say. -/
theorem UplinkStep.server_cases (h : UplinkStep d i s ev s') :
    s'.server = s.server ∨ ∃ e, ev = serverPart.event e ∧
      ServerStep d.C d.identity s.server e s'.server ∧ ∀ t, eventTime e = some t → t = s'.clock := by
  cases h with
  | served _ _ e _ hstep htime => exact Or.inr ⟨e, rfl, hstep, htime⟩
  | _ => exact Or.inl rfl

/-- A step of the server, from its event. -/
theorem UplinkStep.of_server {a : ServerAct} {b : a.Res}
    (h : UplinkStep d i s (.did (.server a) b) s') :
    ServerStep d.C d.identity s.server (.did a b) s'.server ∧
      ∀ t, eventTime (.did a b) = some t → t = s'.clock := by
  generalize hev : (Event.did (UplinkAct.server a) b : Event Uplink) = ev at h
  cases h with
  | served _ _ e _ hstep htime =>
    cases e with
    | ok r b => exact nomatch r
    | refused r e => exact nomatch r
    | did a' b' =>
      cases hev
      exact ⟨hstep, htime⟩
  | _ => cases hev

theorem UplinkStep.told_eq {v : Int} (h : UplinkStep d i s (.did (.edge .monoNow) v) s') :
    v = d.second s'.clock ∧ s'.server = s.server := by
  generalize hev : (Event.did (.edge .monoNow) v : Event Uplink) = ev at h
  cases h with
  | told t _ =>
    cases hev
    exact ⟨rfl, rfl⟩
  | secure _ _ a ha b =>
    cases hev
    cases ha
  | served _ _ e _ _ _ =>
    cases e with
    | ok r b => exact nomatch r
    | refused r e => exact nomatch r
    | did a' b' => cases hev
  | _ => cases hev

end

end ConfidentialIoT
