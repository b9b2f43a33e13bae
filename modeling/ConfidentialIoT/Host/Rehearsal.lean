import ConfidentialIoT.Host.Uplink
import ConfidentialIoT.Server.Link

/-!
# `Host/Rehearsal.lean` — a push loop that answers

An environment for concrete runs of the loop against the server: the TA, the TPM and the server's
keys are those of `Server/Desk.lean`, connections are reliable, nothing takes time except
where a run says so, and everything else is the state's.
-/

set_option autoImplicit false

namespace ConfidentialIoT

open Effects

namespace Vectors

/-! ## The deployment -/

def edgeLib : HostLib where
  printUnformatted
    | .obj fields => lineOf fields
    | _ => []
  valueint _ := 0
  text b := b.map fun c => Char.ofNat c.toNat
  base64Decode t := (b64d (.str t)).toOption

/-- What the device says in these runs. -/
def edgeMessages : List JsonValue := [
  helloMsg deviceName,
  attestResponseMessage deviceName (b64e deviceEphemeral.pub.sec1)
    (b64e (quoteOver pcr0 transcriptHash)) (b64e (tpmtSignature quoteSig)) pcrText (b64e taSig),
  sensorDataMessage deviceName 1 (b64e firstDraw) (b64e (sealedReading sessionKey firstDraw
    (Bytes.toBE 8 1) (formatReading 23 (Bytes.ascii ['C']))))]

/-- Python, on these. -/
def edgePython : Runtime :=
  { python with
    loads := fun b =>
      match edgeMessages.find? fun msg => edgeLib.printUnformatted msg = b with
      | some msg => .ok msg
      | none => python.loads b }

def edgeBench : Deployment := ⟨edgeLib, edgePython, lib, serverIdentity.pub, deviceName, 0⟩

/-! ## The answers -/

/-- What the device is answered; `t` is what its clock says if it is asked. -/
def edgeAnswer (t : Time) (s : UplinkState) : (a : EdgeAct) → a.Res × UplinkState
  | .connect => (some s.opened, { s with opened := s.opened + 1 })
  | .send n msg => (true, s.setWire n
      { s.wires n with sent := (s.wires n).sent ++ [edgeLib.printUnformatted msg] })
  | .recv n =>
    match (s.wires n).replies[(s.wires n).read]? with
    | some reply => (some reply.2, s.setWire n { s.wires n with read := (s.wires n).read + 1 })
    | none => ((none : Option JsonValue), s)
  | .close n => ((), s.setWire n { s.wires n with hung := true })
  | .monoNow => (edgeBench.second (max s.clock t), { s with clock := max s.clock t })
  | .generateEvidence _ _ => (some (deviceEphemeral.pub.sec1, transcriptHash ++ taSig), s)
  | .attestationReport _ => (some ⟨b64e (quoteOver pcr0 transcriptHash),
      b64e (tpmtSignature quoteSig), Bytes.ascii pcrText⟩, s)
  | .handshakeComplete _ _ _ _ => (true, s)
  | .readAndProtect => (some (firstDraw, sealedReading sessionKey firstDraw (Bytes.toBE 8 1)
      (formatReading 23 (Bytes.ascii ['C'])), 1), s)

/-- What anybody is answered; `time n` is when the device reads its clock, `n` calls into its
part of the loop. -/
def uplinkAnswer (time : Nat → Time) (i : Party) (_ : UplinkJob) (n : Nat) (s : UplinkState) :
    (q : Call Uplink) → q.Ans × UplinkState
  | .req r => nomatch r
  | .act (.edge a) => edgeAnswer (time n) s a
  | .act (.server a) =>
    let r := { firstDesk with clock := s.clock }.serve lib s.server (.act a)
    (r.1, ⟨r.2, s.clock, s.opened, written i (.did a r.1) s.wires⟩)
  | .act .readline =>
    match i with
    | .thread m =>
      match (s.wires m).sent[(s.wires m).taken]? with
      | some line => (some line, s.setWire m { s.wires m with taken := (s.wires m).taken + 1 })
      | none => ((none : Option Bytes), s)
    | _ => ((none : Option Bytes), s)

/-- A thread waits for its next line, a line is sent on an open connection, and the server's
signatures verify. -/
def uplinkReady (c : UplinkConfig edgeBench) : UplinkLabel edgeBench → Bool
  | .did _ (.did (.edge (.send n _)) _) => n < c.shared.opened
  | .did _ (.did (.server a) b) => signsRight lib serverIdentity.pub (.did a b)
  | .did i (.did .readline line) =>
    match i, line with
    | .thread _, some _ => true
    | _, _ => false
  | _ => true

/-- Nobody has started, and both devices of `Server/Desk.lean` are enrolled. -/
def uplinkStart : UplinkConfig edgeBench where
  shared := .start (.started enrolled) 0
  agents
    | .device => .idle (.device .initial .ensure)
    | .thread _ => .idle (.thread .accepted)
    | .other _ => .idle (.other .accepted)

theorem uplinkStart_starts : uplinkStart.Starts :=
  ⟨rfl, fun _ => rfl, fun _ => rfl, enrolled, 0, rfl⟩

/-- Play a schedule. -/
def playUplink (time : Nat → Time) (ok : UplinkConfig edgeBench → UplinkLabel edgeBench → Bool)
    (turns : List (Pool.Turn edgeBench.machine Party)) :
    List (UplinkLabel edgeBench) × UplinkConfig edgeBench :=
  Pool.play (uplinkAnswer time) (fun c l => uplinkReady c l && ok c l) uplinkStart turns

/-- So many calls of one of them. -/
def calls (i : Party) (n : Nat) : List (Pool.Turn edgeBench.machine Party) :=
  List.replicate n (.call i)

/-- The thread reads a line and replies; it makes at most `n` calls. -/
def threadTurn (m n : Nat) : List (Pool.Turn edgeBench.machine Party) :=
  [Pool.Turn.start (Party.thread m) UplinkJob.turn] ++ calls (.thread m) n ++
  [Pool.Turn.finish (Party.thread m)]

/-- The device connects and attests itself, up to where it has the result. -/
def attestTurns : List (Pool.Turn edgeBench.machine Party) :=
  [Pool.Turn.start Party.device UplinkJob.turn] ++ calls .device 2 ++ threadTurn 0 7 ++
  calls .device 4 ++ threadTurn 0 9 ++ calls .device 3 ++ [Pool.Turn.finish Party.device]

/-- It pushes a reading, which the thread serves. -/
def pushTurns : List (Pool.Turn edgeBench.machine Party) :=
  [Pool.Turn.start Party.device UplinkJob.turn] ++ calls .device 2 ++
  [Pool.Turn.finish Party.device] ++ threadTurn 0 6

theorem edgeAnswer_step (t : Time) (i : Party) (s : UplinkState) (a : EdgeAct)
    (hready : ∀ n msg, a = .send n msg → n < s.opened) :
    UplinkStep edgeBench i s (.did (.edge a) (edgeAnswer t s a).1) (edgeAnswer t s a).2 := by
  cases a with
  | connect => exact .connected s.clock le_rfl
  | send n msg => exact .sent s.clock le_rfl n msg (hready n msg rfl)
  | recv n =>
    cases hreply : (s.wires n).replies[(s.wires n).read]? with
    | some reply =>
      have hanswer : edgeAnswer t s (.recv n) = (some reply.2,
          s.setWire n { s.wires n with read := (s.wires n).read + 1 }) := by
        simp only [edgeAnswer, hreply]
      rw [hanswer]
      exact .received s.clock le_rfl n reply.1 reply.2 hreply
    | none =>
      have hanswer : edgeAnswer t s (.recv n) = (none, s) := by
        simp only [edgeAnswer, hreply]
      rw [hanswer]
      exact .unreceived s.clock le_rfl n
  | close n => exact .closed s.clock le_rfl n
  | monoNow => exact .told (max s.clock t) (le_max_left _ _)
  | generateEvidence _ _ => exact .secure s.clock le_rfl _ rfl _
  | attestationReport _ => exact .secure s.clock le_rfl _ rfl _
  | handshakeComplete _ _ _ _ => exact .secure s.clock le_rfl _ rfl _
  | readAndProtect => exact .secure s.clock le_rfl _ rfl _

/-- A desk's clock is what its steps say. -/
theorem serve_time (C : CryptoLib) (d : Desk) (s : ServerState) (a : ServerAct) {t : Time}
    (h : eventTime (.did a (d.serve C s (.act a)).1) = some t) : t = d.clock := by
  cases a with
  | time | storeSession _ _ | sessionKey _ | advanceSeq _ _ | register _ _ _ _ _ =>
    exact (Option.some.inj h).symm
  | _ => cases h

theorem playUplink_run (time : Nat → Time) {ok : UplinkConfig edgeBench → UplinkLabel edgeBench → Bool}
    {P : UplinkConfig edgeBench → UplinkLabel edgeBench → Prop} (admits : ∀ c l, ok c l = true → P c l)
    (turns : List (Pool.Turn edgeBench.machine Party)) :
    Pool.Run (UplinkStep edgeBench) P uplinkStart (playUplink time ok turns).1
      (playUplink time ok turns).2 := by
  refine Pool.Run.mono (Pool.play_run uplinkStart turns ?_) ?_
  · intro c i job n q hadmitted
    have hready := (Bool.and_eq_true_iff.mp hadmitted).1
    match q with
    | .req r => exact nomatch r
    | .act (.edge a) =>
      refine edgeAnswer_step (time n) i c.shared a ?_
      rintro m msg rfl
      exact of_decide_eq_true hready
    | .act (.server a) =>
      exact .served c.shared.clock le_rfl (.did a _) _
        (Desk.serve_step { firstDesk with clock := c.shared.clock } c.shared.server (.act a) hready)
        fun t ht => serve_time lib _ _ a ht
    | .act .readline =>
      cases i with
      | device => cases hready
      | other k => cases hready
      | thread m =>
        cases hline : (c.shared.wires m).sent[(c.shared.wires m).taken]? with
        | none =>
          have hanswer : uplinkAnswer time (.thread m) job n c.shared (.act .readline) =
              (none, c.shared) := by
            simp only [uplinkAnswer, hline]
          rw [hanswer] at hready
          cases hready
        | some line =>
          have hanswer : uplinkAnswer time (.thread m) job n c.shared (.act .readline) =
              (some line, c.shared.setWire m
                { c.shared.wires m with taken := (c.shared.wires m).taken + 1 }) := by
            simp only [uplinkAnswer, hline]
          rw [hanswer]
          exact .line c.shared.clock le_rfl line hline
  · intro c l hadmitted
    exact admits c l (Bool.and_eq_true_iff.mp hadmitted).2

end Vectors

end ConfidentialIoT
