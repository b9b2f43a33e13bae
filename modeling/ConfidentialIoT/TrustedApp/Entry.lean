import ConfidentialIoT.Lib.History
import ConfidentialIoT.TrustedApp.Identity
import ConfidentialIoT.TrustedApp.Handshake
import ConfidentialIoT.TrustedApp.Sensor

/-!
# `TrustedApp/Entry.lean` — `TA_InvokeCommandEntryPoint`, and the runs of one session

A session's history is the list of its finished invocations, each with everything the Host and
the TEE answered while it ran. Nothing restricts those answers here: a run is quantified over
all of them. A TEE panic kills the TA in the middle of a command, so a session that panics is
a run whose last command never finished and has no successor.
-/

set_option autoImplicit false

namespace ConfidentialIoT

open Effects

def taInvokeCommand (cmdId paramTypes : UInt32) : TA Unit :=
  match Command.ofId cmdId with
  | some .authenticateSensor => taAuthenticateSensor
  | some .readAndProtect => taReadAndProtect paramTypes
  | some .generateAttestationEvidence => taGenerateAttestationEvidence paramTypes
  | some .handshakeComplete => taHandshakeComplete paramTypes
  | some .provisionSensorSecret => taProvisionSensorSecret paramTypes
  | some .generateTaIdentity => taGenerateTaIdentity paramTypes
  | none => throw .notSupported

/-- What the Host asks for. -/
structure Invocation where
  cmdId : UInt32
  paramTypes : UInt32
  params : Params

/-- The program an invocation runs in a session. -/
def Invocation.program (inv : Invocation) (sess : Session) :
    Prog Tee (Except TeeError Unit × Frame) :=
  (taInvokeCommand inv.cmdId inv.paramTypes).go ⟨sess, inv.params⟩

/-- A finished invocation: what was asked, what happened, what came back. -/
structure Performed extends Invocation where
  trace : List (Event Tee)
  result : Except TeeError Unit

/-- `SessionRun hist sess`: a session opened fresh, after the invocations of `hist`, is in
state `sess`. -/
inductive SessionRun : List Performed → Session → Prop where
  | opened : SessionRun [] Session.fresh
  | invoke {hist : List Performed} {sess : Session} (p : Performed) {frame : Frame}
      (before : SessionRun hist sess)
      (runs : Runs (p.toInvocation.program sess) p.trace (p.result, frame)) :
      SessionRun (hist ++ [p]) frame.sess

/-- Induction over runs, once: what a fresh session satisfies and every finished invocation
preserves holds of every run. -/
theorem SessionRun.invariant {I : List Performed → Session → Prop} (opened : I [] Session.fresh)
    (invoke : ∀ hist sess (p : Performed) frame, SessionRun hist sess → I hist sess →
      Runs (p.toInvocation.program sess) p.trace (p.result, frame) → I (hist ++ [p]) frame.sess)
    {hist : List Performed} {sess : Session} (h : SessionRun hist sess) : I hist sess := by
  induction h with
  | opened => exact opened
  | invoke p before runs ih => exact invoke _ _ p _ before ih runs

/-- A run has a run behind each of its invocations. -/
theorem SessionRun.split {pre post : List Performed} {p : Performed} {sess : Session}
    (h : SessionRun (pre ++ p :: post) sess) :
    ∃ sess₀ frame, SessionRun pre sess₀ ∧
      Runs (p.toInvocation.program sess₀) p.trace (p.result, frame) ∧
      SessionRun (pre ++ [p]) frame.sess := by
  generalize hl : pre ++ p :: post = l at h
  induction h generalizing post with
  | opened => simp at hl
  | @invoke hist sess q frame before runs ih =>
    rcases History.snoc_eq_split.mp hl.symm with ⟨rfl, rfl, rfl⟩ | ⟨post', rfl, rfl⟩
    · exact ⟨sess, frame, before, runs, .invoke _ before runs⟩
    · exact ih rfl

end ConfidentialIoT
