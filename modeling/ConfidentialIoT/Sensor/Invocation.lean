import ConfidentialIoT.Sensor.Link

/-!
# `Sensor/Invocation.lean` — what one invocation of the PTA writes and reads

On its own an invocation writes one request, byte after byte, and nothing else; what it returns
when it succeeds is the payload of a frame whose bytes it took one after the other
(`uartCode_spec`). Nothing here says who else is at the UART.
-/

set_option autoImplicit false

namespace ConfidentialIoT

open Effects

/-- What somebody does at the UART: call a command of the PTA, or be the sensor. -/
inductive UartJob where
  | invoke (cmdId : UInt32) (params : PtaParams)
  | transmit (f : LinkFrame)

def uartCode : UartJob → Prog Uart (Except TeeError Bytes × Unit)
  | .invoke cmdId params => (invokeCommand cmdId params).go ()
  | .transmit f => ((do uart (.transmit f); return []) : Pta Bytes).go ()

/-- The bytes an invocation has read. -/
def getsOf (log : List (Event Uart)) : Bytes := log.filterMap fun
  | .did .getchar b => some b
  | _ => none

/-- The bytes an invocation has written. -/
def putsOf (log : List (Event Uart)) : Bytes := log.filterMap fun
  | .did (.putc b) _ => some b
  | _ => none

/-- The type of frame a command waits for. -/
def PtaCommand.wants : PtaCommand → FrameType
  | .challenge => .challengeResponse
  | .read => .reading
  | .fetchSecret => .secret

@[simp] theorem getsOf_snoc (log : List (Event Uart)) (ev : Event Uart) :
    getsOf (log ++ [ev]) = getsOf log ++ getsOf [ev] := List.filterMap_append

@[simp] theorem putsOf_snoc (log : List (Event Uart)) (ev : Event Uart) :
    putsOf (log ++ [ev]) = putsOf log ++ putsOf [ev] := List.filterMap_append

/-- The bytes of a frame of a known type. -/
def frameOf (type : FrameType) (payload : Bytes) : Bytes := frameHdr type payload.length ++ payload

/-- The request a job makes of the sensor. -/
def UartJob.request : UartJob → Bytes
  | .transmit _ => []
  | .invoke cmdId params =>
    match PtaCommand.ofId cmdId with
    | some .challenge =>
      if params.buf0.length = sensorLinkChallengeSize then frameOf .challenge params.buf0 else []
    | some .fetchSecret => frameOf .secretRequest []
    | _ => []

/-- No request, or the whole of it. -/
def Whole (request : Bytes) (log : List (Event Uart)) : Prop :=
  putsOf log = [] ∨ putsOf log = request

/-- A byte is written where the request goes on, and everything else is done before it or after
it. -/
def Requesting (request : Bytes) (log : List (Event Uart)) : Call Uart → Prop
  | .act (.putc b) => putsOf log ++ [b] <+: request
  | _ => Whole request log

section

variable {request : Bytes} {log : List (Event Uart)} {s : Unit}

theorem uartWrite_spec {E : List (Event Uart) → Unit → TeeError → Prop} (buf : Bytes)
    (h : putsOf log ++ buf <+: request) :
    wpP (Requesting request) (uartWrite buf)
      (fun log' _ _ => putsOf log' = putsOf log ++ buf ∧ getsOf log' = getsOf log) E s log := by
  induction buf generalizing log with
  | nil => exact ⟨(List.append_nil _).symm, rfl⟩
  | cons b buf ih =>
    have hsplit : putsOf log ++ b :: buf = (putsOf log ++ [b]) ++ buf := by simp
    rw [hsplit] at h
    simp only [uartWrite, wpP_bind, wpP_uart]
    refine ⟨(List.prefix_append _ _).trans h, ?_⟩
    intro u
    have hputs : putsOf (log ++ [.did (.putc b) u]) = putsOf log ++ [b] := putsOf_snoc log _
    have hgets : getsOf (log ++ [.did (.putc b) u]) = getsOf log :=
      (getsOf_snoc log _).trans (List.append_nil _)
    refine wpP_conseq (ih ?_) ?_ fun _ _ _ h => h
    · rw [hputs]
      exact h
    · intro log' _ _ h'
      rw [hputs, hgets] at h'
      rw [hsplit]
      exact h'

/-- Reading writes nothing, and what it returns is what it took. -/
structure Took (len : Nat) (log : List (Event Uart)) (got : Bytes) (log' : List (Event Uart))
    (r : Option Bytes) : Prop where
  puts : putsOf log' = putsOf log
  gets : ∀ b, r = some b → b.length = len ∧ ∃ more, b = got ++ more ∧ getsOf log' = getsOf log ++ more

theorem uartReadLoop_spec {E : List (Event Uart) → Unit → TeeError → Prop} (len : Nat)
    (hwhole : Whole request log) (fuel waited : Nat) (got : Bytes) (hgot : got.length ≤ len) :
    wpP (Requesting request) (uartReadLoop len fuel waited got)
      (fun log' _ r => Took len log got log' r) E s log := by
  induction fuel generalizing log waited got with
  | zero => exact ⟨rfl, (by rintro _ ⟨⟩)⟩
  | succ fuel ih =>
    simp only [uartReadLoop, wpP_ite, wpP_bind, wpP_uart, wpP_pure]
    refine ⟨?_, ?_⟩
    · intro hlt
      refine ⟨hwhole, ?_⟩
      intro ready
      have hputs₁ : putsOf (log ++ [.did .haveRxData ready]) = putsOf log :=
        (putsOf_snoc log _).trans (List.append_nil _)
      have hgets₁ : getsOf (log ++ [.did .haveRxData ready]) = getsOf log :=
        (getsOf_snoc log _).trans (List.append_nil _)
      have hwhole₁ : Whole request (log ++ [.did .haveRxData ready]) := by
        unfold Whole
        rw [hputs₁]
        exact hwhole
      refine ⟨?_, ?_⟩
      · intro _
        refine ⟨hwhole₁, ?_⟩
        intro b
        have hputs₂ : putsOf (log ++ [.did .haveRxData ready] ++ [.did .getchar b]) = putsOf log :=
          (putsOf_snoc _ _).trans ((List.append_nil _).trans hputs₁)
        have hgets₂ : getsOf (log ++ [.did .haveRxData ready] ++ [.did .getchar b]) =
            getsOf log ++ [b] := by
          rw [getsOf_snoc, hgets₁]
          rfl
        have hwhole₂ : Whole request (log ++ [.did .haveRxData ready] ++ [.did .getchar b]) := by
          unfold Whole
          rw [hputs₂]
          exact hwhole
        refine wpP_conseq (ih hwhole₂ waited (got ++ [b]) ?_) ?_ fun _ _ _ h => h
        · rw [List.length_append, List.length_singleton]
          exact hlt
        · rintro log' _ r ⟨hp, hg⟩
          refine ⟨hp.trans hputs₂, ?_⟩
          intro bytes hr
          obtain ⟨hlen, more, rfl, hmore⟩ := hg bytes hr
          refine ⟨hlen, b :: more, by simp, ?_⟩
          rw [hmore, hgets₂]
          simp
      · intro _
        refine ⟨fun _ => ⟨hputs₁, (by rintro _ ⟨⟩)⟩, ?_⟩
        intro _
        refine ⟨hwhole₁, ?_⟩
        intro u
        have hputs₂ : putsOf (log ++ [.did .haveRxData ready] ++ [.did .mdelay u]) = putsOf log :=
          (putsOf_snoc _ _).trans ((List.append_nil _).trans hputs₁)
        have hgets₂ : getsOf (log ++ [.did .haveRxData ready] ++ [.did .mdelay u]) = getsOf log :=
          (getsOf_snoc _ _).trans ((List.append_nil _).trans hgets₁)
        have hwhole₂ : Whole request (log ++ [.did .haveRxData ready] ++ [.did .mdelay u]) := by
          unfold Whole
          rw [hputs₂]
          exact hwhole
        refine wpP_conseq (ih hwhole₂ (waited + 1) got hgot) ?_ fun _ _ _ h => h
        rintro log' _ r ⟨hp, hg⟩
        rw [hgets₂] at hg
        exact ⟨hp.trans hputs₂, hg⟩
    · intro hfull
      refine ⟨rfl, ?_⟩
      rintro b ⟨⟩
      exact ⟨by omega, [], by simp, by simp⟩

theorem uartRead_spec {E : List (Event Uart) → Unit → TeeError → Prop} (len : Nat)
    (hwhole : Whole request log) :
    wpP (Requesting request) (uartRead len) (fun log' _ r => putsOf log' = putsOf log ∧
      ∀ b, r = some b → b.length = len ∧ getsOf log' = getsOf log ++ b) E s log := by
  refine wpP_conseq (uartReadLoop_spec len hwhole _ 0 [] (Nat.zero_le _)) ?_ fun _ _ _ h => h
  intro log' _ r ⟨hp, hg⟩
  refine ⟨hp, ?_⟩
  intro b hr
  obtain ⟨hlen, more, rfl, hmore⟩ := hg b hr
  exact ⟨hlen, hmore⟩

theorem writeLinkFrame_spec {E : List (Event Uart) → Unit → TeeError → Prop} (type : FrameType)
    (payload : Bytes) (hputs : putsOf log = []) :
    wpP (Requesting (frameOf type payload)) (writeLinkFrame type payload)
      (fun log' _ _ => putsOf log' = frameOf type payload ∧ getsOf log' = getsOf log) E s log := by
  simp only [writeLinkFrame, wpP_bind, wpP_ite, wpP_pure]
  refine wpP_conseq (uartWrite_spec (frameHdr type payload.length) ?_) ?_ fun _ _ _ h => h
  · rw [hputs]
    exact List.prefix_append _ _
  · rintro log₁ s₁ _ ⟨hp, hg⟩
    rw [hputs, List.nil_append] at hp
    refine ⟨?_, ?_⟩
    · intro _
      refine wpP_conseq (uartWrite_spec payload ?_) ?_ fun _ _ _ h => h
      · rw [hp]
        exact List.prefix_rfl
      · rintro log₂ _ _ ⟨hp₂, hg₂⟩
        rw [hp] at hp₂
        exact ⟨hp₂, hg₂.trans hg⟩
    · intro hempty
      rw [not_not] at hempty
      refine ⟨?_, hg⟩
      rw [hp, frameOf, hempty, List.append_nil]

theorem readLinkFrame_spec {E : List (Event Uart) → Unit → TeeError → Prop} (type : FrameType)
    (size : Nat) (hwhole : Whole request log) :
    wpP (Requesting request) (readLinkFrame type size) (fun log' _ r => putsOf log' = putsOf log ∧
      ∀ payload, r = some payload → payload.length ≤ sensorLinkReadingMax ∧
        getsOf log' = getsOf log ++ frameOf type payload) E s log := by
  rw [readLinkFrame, wpP_bind]
  refine wpP_conseq (uartRead_spec frameHdrSize hwhole) ?_ fun _ _ _ h => h
  rintro log₁ s₁ r ⟨hp, hg⟩
  cases r with
  | none => exact ⟨hp, (by rintro _ ⟨⟩)⟩
  | some hdr =>
    obtain ⟨hlen, hgets⟩ := hg hdr rfl
    simp only [wpP_ite, wpP_pure]
    refine ⟨fun _ => ⟨hp, (by rintro _ ⟨⟩)⟩, ?_⟩
    intro htype
    rw [not_not] at htype
    refine ⟨fun _ => ⟨hp, (by rintro _ ⟨⟩)⟩, ?_⟩
    intro hfits
    rw [not_or, Nat.not_lt, Nat.not_lt] at hfits
    have hhdr : hdr = frameHdr type (hdrLen hdr) := by
      conv_lhs => rw [frameHdr_fields hlen, htype]
      rfl
    refine ⟨?_, ?_⟩
    · intro hzero
      refine ⟨hp, ?_⟩
      rintro payload ⟨⟩
      refine ⟨Nat.zero_le _, ?_⟩
      rw [hgets, frameOf, List.append_nil, List.length_nil, ← hzero, ← hhdr]
    · intro _
      have hwhole₁ : Whole request log₁ := by
        unfold Whole
        rw [hp]
        exact hwhole
      refine wpP_conseq (uartRead_spec (hdrLen hdr) hwhole₁) ?_ fun _ _ _ h => h
      rintro log₂ _ r ⟨hp₂, hg₂⟩
      refine ⟨hp₂.trans hp, ?_⟩
      rintro payload rfl
      obtain ⟨hpl, hgets₂⟩ := hg₂ payload rfl
      refine ⟨hpl.trans_le hfits.1, ?_⟩
      rw [hgets₂, hgets, frameOf, hpl, ← hhdr, List.append_assoc]

end

/-- What a job has done when it returns. -/
structure JobDone (job : UartJob) (log : List (Event Uart)) (r : Except TeeError Bytes) : Prop where
  whole : Whole job.request log
  gets : ∀ cmdId params cmd payload, job = .invoke cmdId params → PtaCommand.ofId cmdId = some cmd →
    r = .ok payload → payload.length ≤ sensorLinkReadingMax ∧ getsOf log = frameOf cmd.wants payload

/-- A command that fails has nothing to show for what it read. -/
theorem JobDone.failed {job : UartJob} {log : List (Event Uart)} {e : TeeError}
    (h : Whole job.request log) : JobDone job log (.error e) := ⟨h, nofun⟩

/-- A command that reads one frame, at the end of it. -/
theorem JobDone.read {cmdId : UInt32} {params : PtaParams} {cmd : PtaCommand} {payload : Bytes}
    {log : List (Event Uart)} (hcmd : PtaCommand.ofId cmdId = some cmd)
    (hwhole : Whole (UartJob.invoke cmdId params).request log)
    (hlen : payload.length ≤ sensorLinkReadingMax) (hgets : getsOf log = frameOf cmd.wants payload) :
    JobDone (.invoke cmdId params) log (.ok payload) := by
  refine ⟨hwhole, ?_⟩
  rintro _ _ cmd' _ ⟨⟩ hcmd' ⟨⟩
  cases hcmd.symm.trans hcmd'
  exact ⟨hlen, hgets⟩

theorem sensorLinkChallenge_spec {cmdId : UInt32} {params : PtaParams}
    (hcmd : PtaCommand.ofId cmdId = some .challenge) :
    wpP (Requesting (UartJob.invoke cmdId params).request) (sensorLinkChallenge params)
      (fun log _ payload => JobDone (.invoke cmdId params) log (.ok payload))
      (fun log _ e => JobDone (.invoke cmdId params) log (.error e)) () [] := by
  simp only [sensorLinkChallenge, wpP_bind, wpP_ite, wpP_throw]
  refine ⟨fun _ => .failed (Or.inl rfl), fun _ => ⟨fun _ => .failed (Or.inl rfl), ?_⟩⟩
  intro hsize
  rw [not_not] at hsize
  refine ⟨fun _ => .failed (Or.inl rfl), ?_⟩
  intro _
  have hrequest : (UartJob.invoke cmdId params).request = frameOf .challenge params.buf0 := by
    rw [UartJob.request, hcmd]
    exact if_pos hsize
  rw [hrequest]
  refine wpP_conseq (writeLinkFrame_spec .challenge params.buf0 rfl) ?_ fun _ _ _ h => h
  rintro log₁ s₁ _ ⟨hp, hg⟩
  refine wpP_conseq (readLinkFrame_spec .challengeResponse params.buf1.length (Or.inr hp)) ?_
    fun _ _ _ h => h
  rintro log₂ s₂ r ⟨hp₂, hg₂⟩
  have hwhole : Whole (UartJob.invoke cmdId params).request log₂ := by
    right
    rw [hrequest]
    exact hp₂.trans hp
  cases r with
  | none => exact .failed hwhole
  | some resp =>
    obtain ⟨hlen, hgets⟩ := hg₂ resp rfl
    simp only [wpP_bind, wpP_ite, wpP_throw, wpP_pure]
    refine ⟨fun _ => .failed hwhole, fun _ => .read hcmd hwhole hlen ?_⟩
    rw [hgets, hg]
    rfl

theorem sensorLinkRead_spec {cmdId : UInt32} {params : PtaParams}
    (hcmd : PtaCommand.ofId cmdId = some .read) :
    wpP (Requesting (UartJob.invoke cmdId params).request) (sensorLinkRead params)
      (fun log _ payload => JobDone (.invoke cmdId params) log (.ok payload))
      (fun log _ e => JobDone (.invoke cmdId params) log (.error e)) () [] := by
  simp only [sensorLinkRead, wpP_bind, wpP_ite, wpP_throw]
  refine ⟨fun _ => .failed (Or.inl rfl), fun _ => ⟨fun _ => .failed (Or.inl rfl), fun _ => ?_⟩⟩
  refine wpP_conseq (readLinkFrame_spec .reading params.buf0.length (Or.inl rfl)) ?_ fun _ _ _ h => h
  rintro log₁ s₁ r ⟨hp, hg⟩
  have hwhole : Whole (UartJob.invoke cmdId params).request log₁ := Or.inl hp
  cases r with
  | none => exact .failed hwhole
  | some reading =>
    obtain ⟨hlen, hgets⟩ := hg reading rfl
    exact .read hcmd hwhole hlen hgets

theorem sensorLinkFetchSecret_spec {cmdId : UInt32} {params : PtaParams}
    (hcmd : PtaCommand.ofId cmdId = some .fetchSecret) :
    wpP (Requesting (UartJob.invoke cmdId params).request) (sensorLinkFetchSecret params)
      (fun log _ payload => JobDone (.invoke cmdId params) log (.ok payload))
      (fun log _ e => JobDone (.invoke cmdId params) log (.error e)) () [] := by
  simp only [sensorLinkFetchSecret, wpP_bind, wpP_ite, wpP_throw]
  refine ⟨fun _ => .failed (Or.inl rfl), fun _ => ⟨fun _ => .failed (Or.inl rfl), fun _ => ?_⟩⟩
  have hrequest : (UartJob.invoke cmdId params).request = frameOf .secretRequest [] := by
    rw [UartJob.request, hcmd]
  rw [hrequest]
  refine wpP_conseq (writeLinkFrame_spec .secretRequest [] rfl) ?_ fun _ _ _ h => h
  rintro log₁ s₁ _ ⟨hp, hg⟩
  refine wpP_conseq (readLinkFrame_spec .secret sensorSecretSize (Or.inr hp)) ?_ fun _ _ _ h => h
  rintro log₂ s₂ r ⟨hp₂, hg₂⟩
  have hwhole : Whole (UartJob.invoke cmdId params).request log₂ := by
    right
    rw [hrequest]
    exact hp₂.trans hp
  cases r with
  | none => exact .failed hwhole
  | some secret =>
    obtain ⟨hlen, hgets⟩ := hg₂ secret rfl
    simp only [wpP_bind, wpP_ite, wpP_throw, wpP_pure]
    refine ⟨fun _ => .failed hwhole, fun _ => ⟨fun _ => .failed hwhole, fun _ => .read hcmd hwhole hlen ?_⟩⟩
    rw [hgets, hg]
    rfl

theorem uartCode_spec (job : UartJob) :
    wp (Requesting job.request) (uartCode job) (fun log out => JobDone job log out.1) [] := by
  cases job with
  | transmit f => exact ⟨Or.inl rfl, fun _ => ⟨Or.inl rfl, nofun⟩⟩
  | invoke cmdId params =>
    have hspec : wpP (Requesting (UartJob.invoke cmdId params).request) (invokeCommand cmdId params)
        (fun log _ payload => JobDone (.invoke cmdId params) log (.ok payload))
        (fun log _ e => JobDone (.invoke cmdId params) log (.error e)) () [] := by
      unfold invokeCommand
      cases hcmd : PtaCommand.ofId cmdId with
      | none => exact .failed (Or.inl rfl)
      | some cmd =>
        cases cmd with
        | challenge => exact sensorLinkChallenge_spec hcmd
        | read => exact sensorLinkRead_spec hcmd
        | fetchSecret => exact sensorLinkFetchSecret_spec hcmd
    refine wp_conseq hspec ?_
    rintro log ⟨e | payload, s⟩ h
    · exact h
    · exact h

end ConfidentialIoT
