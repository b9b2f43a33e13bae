import ConfidentialIoT.Host.Rehearsal
import ConfidentialIoT.Server.Replies

/-!
# `Host/Expiry.lean` — two deadlines for one session

The server lets a session expire its TTL after it has stored it. The device counts the same TTL
from the moment it has read the reply, in whole seconds, and stops believing in the session when
its own deadline has come. The second deadline is not after the first exactly when no second of
the device's clock has begun in between.
-/

set_option autoImplicit false

namespace ConfidentialIoT

open Effects

/-! ## What the device makes of a result -/

/-- A result that makes the device count on a session. -/
def HostLib.accepted (lib : HostLib) (result : JsonValue) : Bool :=
  isOk result && (lib.decodeExact ciotServerSigSize result "server_sig".toList).isSome

/-- The deadline was set after such a result. -/
def Accepts (lib : HostLib) (tr : List (Event Edge)) (expiry : Int) : Prop :=
  ∃ pre conn result v post, tr = pre ++ .did (.recv conn) (some result) :: .did .monoNow v :: post ∧
    lib.accepted result = true ∧ expiry = v + lib.sessionTtl result

theorem Accepts.mono {lib : HostLib} {tr tr' : List (Event Edge)} {expiry : Int}
    (h : Accepts lib tr expiry) (hle : tr <+: tr') : Accepts lib tr' expiry := by
  obtain ⟨pre, conn, result, v, post, rfl, hacc, hexpiry⟩ := h
  obtain ⟨more, rfl⟩ := hle
  exact ⟨pre, conn, result, v, post ++ more, by simp, hacc, hexpiry⟩

/-- No assertion. -/
abbrev NoCare (_ : List (Event Edge)) (_ : Call Edge) : Prop := True

/-- A part of the loop that does not touch `g_attested`. -/
abbrev KeepsAttested {α : Type} (p : EdgeM α) : Prop := Keeps NoCare EdgeGlobals.attested p

section

variable {lib : HostLib} {deviceId : Text} {g : EdgeGlobals} {tr : List (Event Edge)}

theorem openConnection_keeps : KeepsAttested openConnection := by
  intro g tr
  simp only [openConnection, wpP_bind, wpP_get]
  cases g.conn with
  | some conn => exact rfl
  | none =>
    simp only [wpP_bind, wpP_edge, wpP_orFail, wpP_modify, wpP_pure]
    refine ⟨trivial, fun conn => ⟨fun _ _ => trivial, fun _ => trivial⟩⟩

theorem sendLine_keeps (conn : Nat) (msg : JsonValue) : KeepsAttested (sendLine conn msg) := by
  intro g tr
  simp only [sendLine, wpP_bind, wpP_edge, wpP_ite, wpP_throw, wpP_pure]
  exact ⟨trivial, fun ok => ⟨fun _ => trivial, fun _ => trivial⟩⟩

theorem recvLine_keeps (conn : Nat) : KeepsAttested (recvLine conn) := by
  intro g tr
  simp only [recvLine, wpP_bind, wpP_edge, wpP_orFail]
  exact ⟨trivial, fun reply => ⟨fun _ _ => trivial, fun _ => trivial⟩⟩

theorem readChallenge_keeps (challenge : JsonValue) : KeepsAttested (readChallenge lib challenge) := by
  intro g tr
  simp only [readChallenge, wpP_bind, wpP_orFail, wpP_modify]
  exact ⟨fun _ _ => ⟨fun _ _ => ⟨fun _ _ => trivial, fun _ => trivial⟩, fun _ => trivial⟩, fun _ => trivial⟩

theorem answerChallenge_keeps : KeepsAttested (answerChallenge lib deviceId) := by
  intro g tr
  simp only [answerChallenge, wpP_bind, wpP_get, wpP_edge, wpP_orFail, wpP_ite, wpP_throw, wpP_pure]
  refine ⟨trivial, fun answer => ⟨fun evidence _ => ⟨fun _ => trivial, fun _ => ?_⟩, fun _ => trivial⟩⟩
  refine ⟨trivial, fun report => ⟨fun _ _ => ⟨fun _ _ => ⟨fun _ _ => trivial, fun _ => trivial⟩,
    fun _ => trivial⟩, fun _ => trivial⟩⟩

/-- What a result does: a deadline that counts, or none. -/
theorem readResult_spec {conn : Nat} {result : JsonValue} (hattested : g.attested = false)
    {pre : List (Event Edge)} (htr : tr = pre ++ [.did (.recv conn) (some result)]) :
    wpP NoCare (readResult lib result) (fun tr' g' _ => Accepts lib tr' g'.sessionExpiry)
      (fun _ g' _ => g'.attested = false) g tr := by
  simp only [readResult, wpP_bind, wpP_edge, wpP_modify, wpP_ite, wpP_throw, wpP_orFail]
  refine ⟨trivial, fun v => ⟨fun hok => ⟨fun sig hsig => ?_, fun _ => hattested⟩, fun _ => hattested⟩⟩
  refine ⟨pre, conn, result, v, [], by rw [htr]; simp, ?_, rfl⟩
  rw [HostLib.accepted, hok, hsig]
  rfl

theorem edgeAttestToServer_spec :
    wpP NoCare (edgeAttestToServer lib deviceId) (fun tr' g' _ => Accepts lib tr' g'.sessionExpiry)
      (fun _ g' _ => g'.attested = false) g tr := by
  simp only [edgeAttestToServer, wpP_bind, wpP_modify]
  refine openConnection_keeps.wpP ?_ fun _ _ _ _ h => h
  intro tr₁ g₁ conn _ h₁
  refine (sendLine_keeps conn _).wpP ?_ fun _ _ _ _ h => h.trans h₁
  intro tr₂ g₂ _ _ h₂
  refine (recvLine_keeps conn).wpP ?_ fun _ _ _ _ h => h.trans (h₂.trans h₁)
  intro tr₃ g₃ challenge _ h₃
  have hnot : g₃.attested = false := h₃.trans (h₂.trans h₁)
  cases errorReply challenge with
  | some e => exact hnot
  | none =>
    simp only [wpP_bind]
    refine (readChallenge_keeps challenge).wpP ?_ fun _ _ _ _ h => h.trans hnot
    intro tr₄ g₄ _ _ h₄
    refine answerChallenge_keeps.wpP ?_ fun _ _ _ _ h => h.trans (h₄.trans hnot)
    intro tr₅ g₅ response _ h₅
    refine (sendLine_keeps conn response).wpP ?_ fun _ _ _ _ h => h.trans (h₅.trans (h₄.trans hnot))
    intro tr₆ g₆ _ _ h₆
    have hnot₆ : g₆.attested = false := h₆.trans (h₅.trans (h₄.trans hnot))
    simp only [recvLine, wpP_bind, wpP_edge, wpP_orFail]
    refine ⟨trivial, fun result => ⟨?_, fun _ => hnot₆⟩⟩
    rintro reply rfl
    exact readResult_spec hnot₆ rfl

theorem edgeHandshake_keeps : Keeps NoCare id edgeHandshake := by
  intro g tr
  simp only [edgeHandshake, wpP_bind, wpP_get, wpP_ite, wpP_throw, wpP_edge, wpP_pure]
  exact ⟨fun _ => trivial, fun _ => ⟨trivial, fun _ => ⟨fun _ => trivial, fun _ => trivial⟩⟩⟩

/-- The session the device counts on, if any, is the one it had, or one it was just given. -/
def Counts (lib : HostLib) (g : EdgeGlobals) (tr : List (Event Edge)) (g' : EdgeGlobals) : Prop :=
  g'.attested = true → (g.attested = true ∧ g'.sessionExpiry = g.sessionExpiry) ∨
    Accepts lib tr g'.sessionExpiry

theorem edgeEnsureSession_spec :
    wpP NoCare (edgeEnsureSession lib deviceId) (fun tr' g' _ => Counts lib g tr' g')
      (fun _ _ _ => True) g tr := by
  have hattest : ∀ tr₀, wpP NoCare (edgeAttestToServer lib deviceId >>= fun _ => edgeHandshake)
      (fun tr' g' _ => Counts lib g tr' g') (fun _ _ _ => True) g tr₀ := by
    intro tr₀
    refine wpP_seq edgeAttestToServer_spec ?_ fun _ _ _ _ _ => trivial
    intro tr₁ g₁ _ _ hacc
    refine edgeHandshake_keeps.wpP ?_ fun _ _ _ _ _ => trivial
    rintro tr₂ g₂ _ hle rfl
    exact fun _ => Or.inr (hacc.mono hle)
  simp only [edgeEnsureSession, wpP_bind, wpP_get, wpP_ite, wpP_edge, wpP_pure]
  refine ⟨?_, ?_⟩
  · intro hattested
    refine ⟨trivial, fun now => ⟨fun _ _ => Or.inl ⟨hattested, rfl⟩, fun _ => ?_⟩⟩
    exact wpP_bind.mp (hattest _)
  · intro _
    exact wpP_bind.mp (hattest tr)

theorem edgeResetConnection_spec :
    wpP NoCare edgeResetConnection (fun _ g' _ => g'.attested = false) (fun _ _ _ => False) g tr := by
  simp only [edgeResetConnection, wpP_bind, wpP_get]
  cases g.conn with
  | none => exact rfl
  | some conn =>
    simp only [wpP_bind, wpP_edge, wpP_modify]
    exact ⟨trivial, fun _ => trivial⟩

theorem edgeCallTa_spec :
    wpP NoCare edgeCallTa (fun _ g' _ => g'.attested = g.attested ∧ g'.sessionExpiry = g.sessionExpiry)
      (fun _ g' _ => g'.attested = g.attested ∧ g'.sessionExpiry = g.sessionExpiry) g tr := by
  simp only [edgeCallTa, wpP_bind, wpP_edge, wpP_orFail, wpP_ite, wpP_throw, wpP_modify]
  refine ⟨trivial, fun answer => ⟨?_, fun _ => ⟨trivial, trivial⟩⟩⟩
  rintro ⟨nonce, ciphertext, seq⟩ _
  refine ⟨fun _ => ⟨trivial, trivial⟩, fun _ => ⟨fun _ _ => ⟨trivial, trivial⟩, fun _ => ⟨trivial, trivial⟩⟩⟩

theorem edgeSendSensorData_keeps (protectedData : Text) :
    Keeps NoCare id (edgeSendSensorData lib deviceId protectedData) := by
  intro g tr
  simp only [edgeSendSensorData, wpP_bind, wpP_get]
  split
  · simp only [wpP_bind, wpP_orFail, sendLine, wpP_edge, wpP_ite, wpP_throw, wpP_pure]
    refine ⟨fun _ _ => ⟨fun _ _ => ⟨fun _ _ => ⟨trivial, fun _ => ⟨fun _ => trivial, fun _ => trivial⟩⟩,
      fun _ => trivial⟩, fun _ => trivial⟩, fun _ => trivial⟩
  · trivial

/-- **A part of the loop.** -/
theorem mainLoop_spec (phase : LoopPhase) :
    wpP NoCare (mainLoop lib deviceId phase) (fun tr' g' _ => Counts lib g tr' g')
      (fun _ _ _ => False) g tr := by
  have hreset : ∀ tr₀ g₀, wpP NoCare (edgeResetConnection >>= fun _ => pure LoopPhase.ensure)
      (fun tr' g' _ => Counts lib g tr' g') (fun _ _ _ => False) g₀ tr₀ := by
    intro tr₀ g₀
    rw [wpP_bind]
    refine wpP_conseq edgeResetConnection_spec ?_ fun _ _ _ h => h
    intro tr₁ g₁ _ hnot hattested
    rw [hnot] at hattested
    cases hattested
  cases phase with
  | ensure =>
    simp only [mainLoop, wpP_bind, wpP_outcome]
    refine wpP_conseq edgeEnsureSession_spec ?_ ?_
    · intro tr₁ g₁ _ h
      exact h
    · intro tr₁ g₁ e _
      exact wpP_bind.mp (hreset tr₁ g₁)
  | push =>
    simp only [mainLoop, wpP_bind, wpP_outcome]
    refine wpP_conseq edgeCallTa_spec ?_ ?_
    · rintro tr₁ g₁ protectedData ⟨h, hexpiry⟩
      refine (edgeSendSensorData_keeps protectedData).wpP ?_ ?_
      · rintro tr₂ g₂ _ _ rfl
        exact fun hattested => Or.inl ⟨h ▸ hattested, hexpiry⟩
      · rintro tr₂ g₂ _ _ rfl
        exact wpP_bind.mp (hreset tr₂ _)
    · rintro tr₁ g₁ e ⟨h, hexpiry⟩
      exact fun hattested => Or.inl ⟨h ▸ hattested, hexpiry⟩

end

/-! ## What the server writes -/

/-- The replies there are. -/
inductive ServerReply : JsonValue → Prop where
  | refused (error : Text) : ServerReply (Reply.refused error)
  | accepted : ServerReply Reply.accepted
  | error (why : Text) : ServerReply (Reply.error why)
  | attestChallenge (m : ChallengeMessage) : ServerReply (Reply.attestChallenge m)
  | attestRefused (error : Text) : ServerReply (Reply.attestRefused error)
  | attestAccepted (sig : Bytes) : ServerReply (Reply.attestAccepted sig)

/-- The one reply that the device counts on carries the server's TTL. -/
theorem ServerReply.ttl {lib : HostLib} {reply : JsonValue} (h : ServerReply reply)
    (hacc : lib.accepted reply = true) : seconds 1 * lib.sessionTtl reply = deviceSessionTtl := by
  cases h with
  | attestAccepted sig => rfl
  | _ => cases hacc

theorem Handled.writes {rt : Runtime} {C : CryptoLib} {identity : Point} {conn conn' : Connection}
    {line : Bytes} {tr : List (Event Server)} (h : Handled rt C identity conn line tr conn') :
    ∀ reply ∈ repliesOf tr, ServerReply reply := by
  have hlast : ∀ (tr₀ : List (Event Server)) reply, repliesOf tr₀ = [] → ServerReply reply →
      ∀ r ∈ repliesOf (tr₀ ++ [.did (.writeline reply) ()]), ServerReply r := by
    intro tr₀ reply hnone hreply r hr
    rw [repliesOf_append, hnone] at hr
    obtain rfl := List.mem_singleton.mp hr
    exact hreply
  cases h with
  | badJson _ _ => exact hlast [] _ rfl (.refused _)
  | @challenged msg deviceId challenge tr _ _ drawn =>
    intro r hr
    rw [repliesOf_append, repliesOf_drawn drawn] at hr
    obtain rfl := List.mem_singleton.mp hr
    exact .attestChallenge _
  | unknownDevice _ _ => exact hlast [_] _ rfl (.error _)
  | attestUnnamed _ _ => exact hlast [] _ rfl (.attestRefused _)
  | attested _ _ v _ now _ sig =>
    intro r hr
    rw [repliesOf_append, repliesOf_vetting] at hr
    obtain rfl := List.mem_singleton.mp hr
    exact .attestAccepted sig
  | attestRefused _ _ failure _ => exact hlast _ _ (repliesOf_failure failure) (.attestRefused _)
  | dataUnnamed _ _ => exact hlast [] _ rfl (.refused _)
  | data _ _ handled => exact hlast _ _ (repliesOf_data handled) .accepted
  | unknownType _ _ => exact hlast [] _ rfl (.refused _)

theorem Escapes.writes {rt : Runtime} {C : CryptoLib} {conn : Connection} {line : Bytes}
    {tr : List (Event Server)} (h : Escapes rt C conn line tr) : repliesOf tr = [] := by
  cases h with
  | attest _ _ failure _ => exact repliesOf_failure failure
  | data _ _ escapes => cases escapes <;> rfl
  | _ => rfl

theorem Served.writes {rt : Runtime} {C : CryptoLib} {identity : Point} {conn conn' : Connection}
    {job : LinkJob} {tr : List (Event Server)} (h : Served rt C identity conn job tr conn') :
    ∀ reply ∈ repliesOf tr, ServerReply reply := by
  have hhang : ∀ {conn : Connection} {tr : List (Event Server)}, HangsUp conn tr → repliesOf tr = [] := by
    intro conn tr h
    cases h <;> rfl
  cases h with
  | handled _ h => exact h.writes
  | escaped _ h hangs =>
    rw [repliesOf_append, h.writes, hhang hangs]
    exact nofun
  | ended _ hangs =>
    rw [hhang hangs]
    exact nofun
  | _ => exact nofun

/-- A reply that is written is one of them. -/
def WritesReply : Call Uplink → Prop
  | .act (.server (.writeline reply)) => ServerReply reply
  | _ => True

theorem server_answers (q : Call Server) : Nonempty q.Ans := by
  cases q with
  | req r => exact nomatch r
  | act a =>
    cases a with
    | randomBytes n => exact ⟨⟨List.replicate n 0, List.length_replicate⟩⟩
    | p256Generate => exact ⟨((0 : Scalar), ([] : Bytes))⟩
    | lookup _ | popPending _ => exact ⟨none⟩
    | register _ _ _ _ _ => exact ⟨(0, .ok (⟨[], [], [], [], 0, []⟩, false))⟩
    | time | storeSession _ _ => exact ⟨(0 : Time)⟩
    | ecVerify _ _ _ _ => exact ⟨false⟩
    | signServerIdentity _ => exact ⟨([] : Bytes)⟩
    | sessionKey _ => exact ⟨(0, none)⟩
    | advanceSeq _ _ => exact ⟨(0, false)⟩
    | setPending _ _ | setVerdict _ _ | extendBuffer _ _ _ | writeline _ => exact ⟨()⟩

section

variable {d : Deployment}

theorem linkJob_writes (job : LinkJob) (conn : Connection) :
    wp (fun _ (q : Call Server) => ∀ reply, q = .act (.writeline reply) → ServerReply reply)
      ((linkJob d.rt d.C d.identity job).go conn) (fun _ _ => True) [] := by
  have hevents : ∀ tr r, Runs ((linkJob d.rt d.C d.identity job).go conn) tr r → ∀ ev ∈ tr,
      ∀ reply, ev = .did (.writeline reply) () → ServerReply reply := by
    rintro tr ⟨r, conn'⟩ hrun ev hev reply rfl
    have hserved := wp_runs hrun (linkJob_spec job conn)
    cases r with
    | error e => exact hserved.elim
    | ok u => exact hserved.writes reply (List.mem_filterMap.mpr ⟨_, hev, rfl⟩)
  refine wp_mono ?_ (fun _ _ h => h) (wp_of_runs server_answers hevents)
  rintro tr q h reply rfl
  exact h () reply rfl

theorem serverCode_writes (job : LinkJob) (conn : Connection) (pre : List (Event Uplink)) :
    wp (fun _ c => WritesReply c) (d.serverCode job conn) (fun _ _ => True) pre := by
  rw [← List.append_nil pre]
  refine wp_behind pre ?_
  rw [Deployment.serverCode, wp_bind]
  refine Embedding.wp_embed_nil (wp_mono ?_ (fun _ _ _ => trivial) (linkJob_writes job conn))
  intro tr q h
  match q with
  | .req r => exact nomatch r
  | .act (.writeline reply) => exact h reply rfl
  | .act (.lookup _) | .act (.register _ _ _ _ _) | .act .time | .act (.randomBytes _)
  | .act .p256Generate | .act (.setPending _ _) | .act (.popPending _) | .act (.ecVerify _ _ _ _)
  | .act (.storeSession _ _) | .act (.signServerIdentity _) | .act (.sessionKey _)
  | .act (.advanceSeq _ _) | .act (.setVerdict _ _) | .act (.extendBuffer _ _ _) => trivial

/-- The device writes nothing of the server's. -/
theorem deviceCode_writes (g : EdgeGlobals) (phase : LoopPhase) :
    wp (fun _ c => WritesReply c) (d.deviceCode g phase) (fun _ _ => True) [] := by
  rw [Deployment.deviceCode, wp_bind]
  refine Embedding.wp_embed_nil (wp_trivial ?_ fun _ _ => trivial)
  intro tr q
  cases q with
  | req r => exact nomatch r
  | act a => trivial

theorem code_writes (job : UplinkJob) (mem : PartyMem) :
    wp (fun _ c => WritesReply c) (d.code job mem) (fun _ _ => True) [] := by
  match job, mem with
  | .turn, .device g phase => exact deviceCode_writes g phase
  | .turn, .thread conn =>
    show wp _ (d.threadCode conn) _ _
    unfold Deployment.threadCode
    by_cases hclosed : conn.closed = true
    · rw [if_pos hclosed]
      trivial
    · rw [if_neg hclosed]
      refine ⟨trivial, fun line => ?_⟩
      rw [wp_bind]
      exact wp_conseq (serverCode_writes (.line line) conn _) fun _ _ _ => trivial
  | .serve job, .other conn =>
    show wp _ (d.serverCode job conn >>= _) _ _
    rw [wp_bind]
    exact wp_conseq (serverCode_writes job conn []) fun _ _ _ => trivial
  | .turn, .other _ => trivial
  | .serve _, .device _ _ => trivial
  | .serve _, .thread _ => trivial

/-! ## What the device counts on -/

/-- What a part of the device's loop has done, in the joint history. -/
theorem deviceCode_spec (g : EdgeGlobals) (phase : LoopPhase) :
    wp (fun _ _ => True) (d.deviceCode g phase) (fun log mem => ∃ tr g' phase',
      log = tr.map edgePart.event ∧ mem = .device g' phase' ∧ Counts d.lib g tr g') [] := by
  rw [Deployment.deviceCode, wp_bind]
  refine Embedding.wp_embed_nil (wp_mono (fun _ _ _ => trivial) ?_ (mainLoop_spec
    phase))
  rintro tr ⟨r, g'⟩ h
  cases r with
  | error e => exact h.elim
  | ok phase' => exact ⟨tr, g', phase', rfl, rfl, h⟩

/-- A deadline of the device that the server's session outlives, or that has passed. -/
def Covered (d : Deployment) (expiry : Int) (s : UplinkState) : Prop :=
  (∃ sess, s.server.sessions d.deviceId = some sess ∧ seconds 1 * expiry ≤ sess.expires + d.skew) ∨
    seconds 1 * expiry ≤ s.clock + d.skew

/-- No session is stored longer than the TTL. -/
def Bounded (s : UplinkState) : Prop :=
  ∀ id sess, s.server.sessions id = some sess → sess.expires ≤ s.clock + deviceSessionTtl

theorem Bounded.step {i : Party} {s s' : UplinkState} {ev : Event Uplink} (h : Bounded s)
    (step : UplinkStep d i s ev s') : Bounded s' := by
  have hclock := step.clock_le
  intro id sess hsess
  rcases step.server_cases with hsame | ⟨e, -, hstep, htime⟩
  · rw [hsame] at hsess
    exact (h id sess hsess).trans (Int.add_le_add_right hclock _)
  · rcases hstep.session_cases id with ⟨-, hsame⟩ | hchange
    · rw [hsame] at hsess
      exact (h id sess hsess).trans (Int.add_le_add_right hclock _)
    · rw [hsess] at hchange
      cases hchange with
      | stored key now =>
        rw [← htime now rfl]
      | advanced seq now sess₀ hbefore _ _ =>
        exact (h id sess₀ hbefore).trans (Int.add_le_add_right hclock _)

/-- A deadline stays covered: a session is only replaced by a later one, and only removed when it
has expired. -/
theorem Covered.step {i : Party} {s s' : UplinkState} {ev : Event Uplink} {expiry : Int}
    (h : Covered d expiry s) (hbounded : Bounded s) (step : UplinkStep d i s ev s') :
    Covered d expiry s' := by
  have hclock := step.clock_le
  rcases h with ⟨sess, hsess, hle⟩ | hpast
  · rcases step.server_cases with hsame | ⟨e, -, hstep, htime⟩
    · exact Or.inl ⟨sess, by rw [hsame]; exact hsess, hle⟩
    · rcases hstep.session_cases d.deviceId with ⟨-, hsame⟩ | hchange
      · exact Or.inl ⟨sess, by rw [hsame]; exact hsess, hle⟩
      · rw [hsess] at hchange
        generalize hafter : s'.server.sessions d.deviceId = after at hchange
        cases hchange with
        | stored key now =>
          refine Or.inl ⟨_, hafter, hle.trans ?_⟩
          have hbound := hbounded _ _ hsess
          have hnow : now = s'.clock := htime now rfl
          have hlonger : sess.expires ≤ now + deviceSessionTtl :=
            hbound.trans (Int.add_le_add_right (hclock.trans_eq hnow.symm) _)
          exact Int.add_le_add_right hlonger _
        | removed now sess₀ hbefore hexpired =>
          obtain rfl := Option.some.inj hbefore
          have hnow : now = s'.clock := htime now rfl
          exact Or.inr (hle.trans (Int.add_le_add_right (hexpired.le.trans_eq hnow) _))
        | advanced seq now sess₀ hbefore _ _ =>
          obtain rfl := Option.some.inj hbefore
          exact Or.inl ⟨_, hafter, hle⟩
  · exact Or.inr (hpast.trans (Int.add_le_add_right hclock _))

/-- Before a covered deadline there is a session that has not expired. -/
theorem Covered.live {s : UplinkState} {expiry : Int} {t : Time} (h : Covered d expiry s)
    (hclock : s.clock ≤ t) (hbefore : d.second t < expiry) :
    ∃ sess, s.server.sessions d.deviceId = some sess ∧ t ≤ sess.expires := by
  have hsecond : t + d.skew < seconds 1 * expiry := by
    have hlt := Int.lt_mul_of_ediv_lt (by decide : (0 : Int) < seconds 1) hbefore
    rw [Int.mul_comm]
    exact hlt
  rcases h with ⟨sess, hsess, hle⟩ | hpast
  · exact ⟨sess, hsess, (Int.lt_of_add_lt_add_right (hsecond.trans_le hle)).le⟩
  · exact absurd hsecond (not_lt_of_ge (hpast.trans (Int.add_le_add_right hclock _)))

theorem UplinkStep.replies {i : Party} {s s' : UplinkState} {ev : Event Uplink}
    (h : UplinkStep d i s ev s')
    (hnew : ∀ reply, ev = .did (.server (.writeline reply)) () → ServerReply reply)
    (hold : ∀ n p, p ∈ (s.wires n).replies → ServerReply p.2) :
    ∀ n p, p ∈ (s'.wires n).replies → ServerReply p.2 := by
  have hset : ∀ (s₀ : UplinkState) (m : Nat) (w : Wire), s₀.wires = s.wires →
      w.replies = (s.wires m).replies →
      ∀ n p, p ∈ ((s₀.setWire m w).wires n).replies → ServerReply p.2 := by
    intro s₀ m w hwires hw n p hp
    by_cases hn : n = m
    · subst hn
      rw [UplinkState.setWire_self, hw] at hp
      exact hold n p hp
    · rw [UplinkState.setWire_ne _ _ hn, hwires] at hp
      exact hold n p hp
  cases h with
  | connected t _ => exact hold
  | unconnected t _ => exact hold
  | unreceived t _ n => exact hold
  | told t _ => exact hold
  | secure t _ a _ b => exact hold
  | ended t _ _ => exact hold
  | sent t _ n msg _ => exact hset _ n _ rfl rfl
  | unsent t _ n msg part _ => exact hset _ n _ rfl rfl
  | received t _ n k reply _ => exact hset _ n _ rfl rfl
  | closed t _ n => exact hset _ n _ rfl rfl
  | line t _ line _ => exact hset _ _ _ rfl rfl
  | served t _ e server' _ _ =>
    intro n p hp
    change p ∈ (written i e s.wires n).replies at hp
    rcases written_cases i e s.wires with hsame | ⟨m, reply, -, rfl, hwritten⟩
    · rw [hsame] at hp
      exact hold n p hp
    · rw [hwritten] at hp
      by_cases hn : n = m
      · subst hn
        rw [Function.update_self] at hp
        rcases List.mem_append.mp hp with hp | hp
        · exact hold n p hp
        · obtain rfl := List.mem_singleton.mp hp
          exact hnew reply rfl
      · rw [Function.update_of_ne hn] at hp
        exact hold n p hp

theorem UplinkStep.received_mem {i : Party} {s s' : UplinkState} {conn : Nat} {reply : JsonValue}
    (h : UplinkStep d i s (.did (.edge (.recv conn)) (some reply)) s') :
    ∃ k, (k, reply) ∈ (s.wires conn).replies := by
  generalize hev : (Event.did (.edge (.recv conn)) (some reply) : Event Uplink) = ev at h
  cases h with
  | received t _ n k reply' hnext =>
    cases hev
    exact ⟨k, List.mem_of_getElem? hnext⟩
  | secure t _ a ha b =>
    cases hev
    cases ha
  | served t _ e _ _ _ =>
    cases e with
    | ok r b => exact nomatch r
    | refused r e => exact nomatch r
    | did a' b' => cases hev
  | _ => cases hev

/-! ## Runs -/

/-- The device takes its session for valid. -/
def CountsOn (g : EdgeGlobals) (now : Int) : Prop := g.attested = true ∧ now < g.sessionExpiry

/-- The device has just read a result that it accepts. -/
def ResultRead (d : Deployment) (log : List (Event Uplink)) : Prop :=
  ∃ pre conn result, log = pre ++ [.did (.edge (.recv conn)) (some result)] ∧
    d.lib.accepted result = true

/-- When the device reads its clock after an accepted result, no second of it has begun since the
server stored the session; and the server looks the session up while the device counts on it. -/
def Prompt (d : Deployment) (c : UplinkConfig d) : UplinkLabel d → Prop
  | .did .device (.did (.edge .monoNow) v) => ResultRead d (c.agents .device).log →
    ∃ sess, c.shared.server.sessions d.deviceId = some sess ∧
      seconds 1 * v ≤ sess.expires - deviceSessionTtl + d.skew
  | .did (.thread _) (.did (.server (.sessionKey id)) r) => id = d.deviceId →
    ∃ g phase, (c.agents .device).mem = .device g phase ∧ CountsOn g (d.second r.1)
  | _ => True

/-- What a step must not do. -/
structure Sound (d : Deployment) (c : UplinkConfig d) (l : UplinkLabel d) (c' : UplinkConfig d) :
    Prop where
  /-- `edge_ensure_session` reads the clock and takes the session for valid: the server's session
  has not expired. -/
  believed : ∀ v g rest, l = .did .device (.did (.edge .monoNow) v) →
    c.agents .device = .busy .turn (.device g .ensure) [] rest → CountsOn g v →
    ∃ sess, c'.shared.server.sessions d.deviceId = some sess ∧ c'.shared.clock ≤ sess.expires
  /-- A reading of the device is not dropped as unattested. -/
  kept : ∀ n t key, l = .did (.thread n) (.did (.server (.sessionKey d.deviceId)) (t, key)) →
    key ≠ none

/-- Everything the device counts on is covered by the server's session. -/
structure Track (d : Deployment) (c : UplinkConfig d) : Prop where
  replies : ∀ n p, p ∈ (c.shared.wires n).replies → ServerReply p.2
  read : ∀ conn reply, .did (.edge (.recv conn)) (some reply) ∈ (c.agents .device).log →
    ServerReply reply
  bounded : Bounded c.shared
  believed : ∀ g phase, (c.agents .device).mem = .device g phase → g.attested = true →
    Covered d g.sessionExpiry c.shared
  told : ∀ pre conn result v post, (c.agents .device).log =
      pre ++ .did (.edge (.recv conn)) (some result) :: .did (.edge .monoNow) v :: post →
    d.lib.accepted result = true → Covered d (v + d.lib.sessionTtl result) c.shared

theorem Track.init {c : UplinkConfig d} (h : c.Starts) : Track d c := by
  obtain ⟨registry, clock, hshared⟩ := h.shared
  have hlog : (c.agents .device).log = [] := by
    rw [h.device]
    rfl
  refine ⟨?_, ?_, ?_, ?_, ?_⟩
  · rw [hshared]
    exact fun _ _ => nofun
  · rw [hlog]
    exact fun _ _ => nofun
  · rw [hshared]
    exact fun _ _ => nofun
  · intro g phase hmem hattested
    rw [h.device] at hmem
    cases hmem
    cases hattested
  · intro pre conn result v post hsplit
    rw [hlog] at hsplit
    simp at hsplit

/-- A step that leaves the device and the state alone. -/
theorem Track.same {c c' : UplinkConfig d} (h : Track d c) (hshared : c'.shared = c.shared)
    (hlog : (c'.agents .device).log = (c.agents .device).log)
    (hmem : (c'.agents .device).mem = (c.agents .device).mem) : Track d c' := by
  refine ⟨?_, ?_, ?_, ?_, ?_⟩
  · rw [hshared]
    exact h.replies
  · rw [hlog]
    exact h.read
  · rw [hshared]
    exact h.bounded
  · rw [hshared, hmem]
    exact h.believed
  · rw [hshared, hlog]
    exact h.told

/-- Only the device's code returns a device. -/
theorem code_device {job : UplinkJob} {m : PartyMem} {log : List (Event Uplink)} {g' : EdgeGlobals}
    {phase' : LoopPhase} (hrun : Runs (d.code job m) log (.device g' phase')) :
    ∃ g phase, m = .device g phase ∧ (job = .turn ∨ g' = g) := by
  have hnever : ∀ (p : Prog Uplink Connection) (f : Connection → PartyMem) (log : List (Event Uplink)),
      (∀ conn, f conn ≠ .device g' phase') →
      ¬ Runs (p >>= fun conn => .ret (f conn)) log (.device g' phase') := by
    intro p f log hf hrun
    obtain ⟨conn, tr, tr', rfl, -, hret⟩ := runs_bind hrun
    generalize hout : f conn = out at hret
    cases hret with
    | refl _ => exact hf conn hout
  match job, m with
  | .turn, .device g phase => exact ⟨g, phase, rfl, Or.inl rfl⟩
  | .serve job, .device g phase =>
    cases hrun with
    | refl _ => exact ⟨g', phase', rfl, Or.inr rfl⟩
  | .turn, .thread conn =>
    have hthread : Runs (d.threadCode conn) log (.device g' phase') := hrun
    unfold Deployment.threadCode at hthread
    by_cases hclosed : conn.closed = true
    · rw [if_pos hclosed] at hthread
      cases hthread
    · rw [if_neg hclosed] at hthread
      cases hthread with
      | call line hthread =>
        exact (hnever (d.serverCode (.line line) conn) .thread _ (fun _ => nofun) hthread).elim
  | .serve job, .other conn => exact (hnever (d.serverCode job conn) .other log (fun _ => nofun) hrun).elim
  | .turn, .other _ => cases hrun
  | .serve _, .thread _ => cases hrun

section

variable {c₀ c c' : UplinkConfig d} {ls : List (UplinkLabel d)} {l : UplinkLabel d}
  {P : UplinkConfig d → UplinkLabel d → Prop}

theorem Track.started (h : Track d c) {i : Party} {job : UplinkJob} {m : PartyMem}
    (hidle : c.agents i = .idle m) : Track d (c.set i (.busy job m [] (d.code job m))) := by
  by_cases hi : Party.device = i
  · subst hi
    refine ⟨h.replies, ?_, h.bounded, ?_, ?_⟩
    · rw [Pool.Config.set_agents, if_pos rfl]
      exact fun _ _ => nofun
    · intro g phase hmem
      rw [Pool.Config.set_agents, if_pos rfl] at hmem
      refine h.believed g phase ?_
      rw [hidle]
      exact hmem
    · intro pre conn result v post hsplit
      rw [Pool.Config.set_agents, if_pos rfl] at hsplit
      exact absurd hsplit.symm (by simp [Pool.Agent.log])
  · refine h.same rfl ?_ ?_
    · rw [Pool.Config.set_agents, if_neg hi]
    · rw [Pool.Config.set_agents, if_neg hi]

/-- Nobody but the device is looked at. -/
theorem Track.shared (h : Track d c) {i : Party} {ev : Event Uplink} {s' : UplinkState}
    (hR : UplinkStep d i c.shared ev s')
    (hnew : ∀ reply, ev = .did (.server (.writeline reply)) () → ServerReply reply) :
    Track d { c with shared := s' } := by
  refine ⟨hR.replies hnew h.replies, h.read, h.bounded.step hR, ?_, ?_⟩
  · intro g phase hmem hattested
    exact (h.believed g phase hmem hattested).step h.bounded hR
  · intro pre conn result v post hsplit hacc
    exact (h.told pre conn result v post hsplit hacc).step h.bounded hR

theorem Track.returned (h : Track d c) {i : Party} {job : UplinkJob} {m out : PartyMem}
    {log : List (Event Uplink)} (hbusy : c.agents i = .busy job m log (.ret out))
    (hrun : Runs (d.code job m) log out) : Track d (c.set i (.idle out)) := by
  by_cases hi : Party.device = i
  · subst hi
    refine ⟨h.replies, ?_, h.bounded, ?_, ?_⟩
    · rw [Pool.Config.set_agents, if_pos rfl]
      exact fun _ _ => nofun
    · intro g' phase' hmem hattested
      rw [Pool.Config.set_agents, if_pos rfl] at hmem
      obtain rfl : out = .device g' phase' := hmem
      have hhad : ∀ g phase, m = .device g phase → g.attested = true →
          Covered d g.sessionExpiry c.shared := by
        rintro g phase rfl
        refine h.believed g phase ?_
        rw [hbusy]
        rfl
      obtain ⟨g, phase, rfl, rfl | rfl⟩ := code_device hrun
      · obtain ⟨tr, g'', phase'', rfl, hout, hcounts⟩ := wp_runs hrun (deviceCode_spec g phase)
        cases hout
        rcases hcounts hattested with ⟨hbefore, hexpiry⟩ | ⟨pre, conn, result, v, post, rfl, hacc, hexpiry⟩
        · show Covered d g'.sessionExpiry c.shared
          rw [hexpiry]
          exact hhad g phase rfl hbefore
        · show Covered d g'.sessionExpiry c.shared
          rw [hexpiry]
          refine h.told (pre.map edgePart.event) conn result v (post.map edgePart.event) ?_ hacc
          rw [hbusy]
          show List.map _ _ = _
          rw [List.map_append, List.map_cons, List.map_cons]
          rfl
      · exact hhad g' phase rfl hattested
    · intro pre conn result v post hsplit
      rw [Pool.Config.set_agents, if_pos rfl] at hsplit
      exact absurd hsplit.symm (by simp [Pool.Agent.log])
  · refine h.same rfl ?_ ?_
    · rw [Pool.Config.set_agents, if_neg hi]
    · rw [Pool.Config.set_agents, if_neg hi]

/-- The deadline that is set after an accepted result is covered. -/
theorem covered_now {v : Int} {result : JsonValue} {s' : UplinkState} (hreply : ServerReply result)
    (hacc : d.lib.accepted result = true) {sess : DeviceSession}
    (hsess : s'.server.sessions d.deviceId = some sess)
    (hle : seconds 1 * v ≤ sess.expires - deviceSessionTtl + d.skew) :
    Covered d (v + d.lib.sessionTtl result) s' := by
  refine Or.inl ⟨sess, hsess, ?_⟩
  calc seconds 1 * (v + d.lib.sessionTtl result)
      = seconds 1 * v + deviceSessionTtl := by rw [Int.mul_add, hreply.ttl hacc]
    _ ≤ sess.expires - deviceSessionTtl + d.skew + deviceSessionTtl := Int.add_le_add_right hle _
    _ = sess.expires + d.skew := by
      rw [Int.add_right_comm, Int.sub_add_cancel]

theorem Track.called (h : Track d c) {i : Party} {job : UplinkJob} {m : PartyMem}
    {log : List (Event Uplink)} {q : Call Uplink} {k : q.Ans → Prog Uplink PartyMem}
    {s' : UplinkState} {r : q.Ans} (hbusy : c.agents i = .busy job m log (.call q k))
    (hR : UplinkStep d i c.shared (Event.of q r) s')
    (hnew : ∀ reply, Event.of q r = .did (.server (.writeline reply)) () → ServerReply reply)
    (admitted : Prompt d c (.did i (Event.of q r))) :
    Track d (({ c with shared := s' } : UplinkConfig d).set i
      (.busy job m (log ++ [Event.of q r]) (k r))) := by
  have hshared := h.shared hR hnew
  by_cases hi : Party.device = i
  · subst hi
    have hlog : (c.agents .device).log = log := by
      rw [hbusy]
      rfl
    refine ⟨hshared.replies, ?_, hshared.bounded, ?_, ?_⟩
    · rw [Pool.Config.set_agents, if_pos rfl]
      intro conn reply hmem
      rcases List.mem_append.mp hmem with hmem | hmem
      · exact h.read conn reply (by rw [hlog]; exact hmem)
      · rw [← List.mem_singleton.mp hmem] at hR
        obtain ⟨k, hk⟩ := hR.received_mem
        exact h.replies conn _ hk
    · intro g phase hmem
      rw [Pool.Config.set_agents, if_pos rfl] at hmem
      refine hshared.believed g phase ?_
      show (c.agents .device).mem = _
      rw [hbusy]
      exact hmem
    · intro pre conn result v post hsplit hacc
      rw [Pool.Config.set_agents, if_pos rfl] at hsplit
      change log ++ [Event.of q r] = _ at hsplit
      have hsplit' : log ++ [Event.of q r] = (pre ++ [.did (.edge (.recv conn)) (some result)]) ++
          .did (.edge .monoNow) v :: post := hsplit.trans (by simp)
      rcases History.snoc_eq_split.mp hsplit' with ⟨hpre, hev, -⟩ | ⟨post', -, hpre⟩
      · -- the clock was read just now
        rw [← hev] at hR admitted
        obtain ⟨sess, hsess, hle⟩ := admitted ⟨pre, conn, result, hlog.trans hpre.symm, hacc⟩
        have hreply : ServerReply result := h.read conn result (by rw [hlog, ← hpre]; simp)
        refine covered_now hreply hacc ?_ hle
        show s'.server.sessions d.deviceId = some sess
        rw [hR.told_eq.2]
        exact hsess
      · refine hshared.told pre conn result v post' ?_ hacc
        exact hlog.trans (hpre.trans (by simp))
  · refine hshared.same rfl ?_ ?_
    · rw [Pool.Config.set_agents, if_neg hi]
    · rw [Pool.Config.set_agents, if_neg hi]

theorem Track.next (h : Track d c) (run : Pool.Run (UplinkStep d) P c₀ ls c) (quiet : c₀.Quiet)
    (step : Pool.Step (UplinkStep d) c l c') (admitted : Prompt d c l) : Track d c' := by
  cases step with
  | start job hidle => exact h.started hidle
  | finish hbusy => exact h.returned hbusy ((run.logs quiet).1 _ _ _ _ _ hbusy)
  | @call i job m log q k s' r hbusy hR =>
    refine h.called hbusy hR ?_ admitted
    intro reply hev
    have hasserted : WritesReply q := run.asserted quiet (fun job m => code_writes job m) hbusy
    have hcall : q = .act (.server (.writeline reply)) := by
      rw [← Event.call_of q r, hev]
      rfl
    rw [hcall] at hasserted
    exact hasserted

theorem track (run : Pool.Run (UplinkStep d) (Prompt d) c₀ ls c) (starts : c₀.Starts) :
    Track d c := by
  refine run.invariant (I := fun _ c => Track d c) (.init starts) ?_
  intro ls c l c' run ih step admitted
  exact ih.next run starts.quiet step admitted

/-- **While nothing is late the device believes in no expired session.** In every run in which no
second of the device's clock begins between the server's store and the device's reading of its
clock after the reply, whenever `edge_ensure_session` takes the session for valid the server's has
not expired; and a reading that the server looks the session up for while the device counts on it
is not dropped. -/
theorem no_expired_belief (starts : c₀.Starts) (run : Pool.Run (UplinkStep d) (Prompt d) c₀ ls c)
    (step : Pool.Step (UplinkStep d) c l c') (admitted : Prompt d c l) : Sound d c l c' := by
  have htrack := track run starts
  refine ⟨?_, ?_⟩
  · rintro v g rest rfl hbusy ⟨hattested, hbefore⟩
    obtain ⟨rfl, hserver⟩ := step.answered.told_eq
    rw [hserver]
    refine (htrack.believed g .ensure ?_ hattested).live step.answered.clock_le hbefore
    rw [hbusy]
    rfl
  · rintro n t key rfl rfl
    obtain ⟨g, phase, hmem, hattested, hbefore⟩ := admitted rfl
    obtain ⟨hstep, htime⟩ := step.answered.of_server
    have hnow : t = c'.shared.clock := htime t rfl
    have hclock : c.shared.clock ≤ t := step.answered.clock_le.trans_eq hnow.symm
    obtain ⟨sess, hsess, hlive⟩ := (htrack.believed g phase hmem hattested).live hclock hbefore
    have hkey : none = (c.shared.server.sessionKey d.deviceId t).1 := congrArg Prod.fst hstep
    rw [ServerState.sessionKey, hsess] at hkey
    simp only [if_neg (Int.not_lt.mpr hlive)] at hkey
    cases hkey

end

end

/-! ## Runs that were played -/

section

open Vectors

/-- What the device is told when it starts over, attested, and takes its session for valid. -/
def believesAt (ls : List (UplinkLabel edgeBench)) (c : UplinkConfig edgeBench) : Option Int :=
  match ls.getLast?, c.agents .device with
  | some (.did .device (.did (.edge .monoNow) v)), .busy .turn (.device g .ensure) [_] _ =>
    if g.attested ∧ v < g.sessionExpiry then some v else none
  | _, _ => none

theorem believesAt_last {P : UplinkConfig edgeBench → UplinkLabel edgeBench → Prop}
    {ls : List (UplinkLabel edgeBench)} {c₀ c' : UplinkConfig edgeBench} {v : Int}
    (run : Pool.Run (UplinkStep edgeBench) P c₀ ls c') (h : believesAt ls c' = some v) :
    ∃ pre c g rest, Pool.Run (UplinkStep edgeBench) P c₀ pre c ∧
      Pool.Step (UplinkStep edgeBench) c (.did .device (.did (.edge .monoNow) v)) c' ∧
      P c (.did .device (.did (.edge .monoNow) v)) ∧
      c.agents .device = .busy .turn (.device g .ensure) [] rest ∧ CountsOn g v := by
  unfold believesAt at h
  split at h
  · next v' g ev rest' hlast hafter =>
    by_cases hcounts : g.attested = true ∧ v' < g.sessionExpiry
    · rw [if_pos hcounts] at h
      obtain rfl := Option.some.inj h
      obtain ⟨pre, rfl⟩ := List.getLast?_eq_some_iff.mp hlast
      obtain ⟨c, before, step, admitted⟩ := run.last
      obtain ⟨job, m, log, k, hbusy⟩ := step.of_did
      obtain ⟨rest, hbusy'⟩ := step.did_agent hbusy
      have hsame := hbusy'.symm.trans hafter
      injection hsame with hjob hmem hlog _
      obtain rfl : log = [] := List.length_eq_zero_iff.mp (Nat.succ.inj (by
        simpa using congrArg List.length hlog))
      subst hjob hmem
      exact ⟨pre, c, g, _, before, step, admitted, hbusy, hcounts⟩
    · rw [if_neg hcounts] at h
      cases h
  · cases h

/-- The device reads its clock two seconds after the server has stored the session, and pushes a
reading. An hour after the store it starts over. -/
def lateRun : List (UplinkLabel edgeBench) × UplinkConfig edgeBench :=
  playUplink (fun n => if n = 0 then seconds 3601 else seconds 2) (fun _ _ => true)
    (attestTurns ++ pushTurns ++
      [Pool.Turn.start Party.device UplinkJob.turn, Pool.Turn.call Party.device])

theorem lateRun_played : believesAt lateRun.1 lateRun.2 = some 3601 ∧
    ((lateRun.2.shared.server.sessions deviceName).all fun sess =>
      decide (sess.expires < lateRun.2.shared.clock)) = true := by
  decide +kernel

/-- The device takes an expired session for valid. -/
theorem not_sound {ls : List (UplinkLabel edgeBench)} {c' : UplinkConfig edgeBench} {v : Int}
    (run : Pool.Run (UplinkStep edgeBench) Pool.Any uplinkStart ls c')
    (hbelieves : believesAt ls c' = some v) (hexpired : ((c'.shared.server.sessions deviceName).all
      fun sess => decide (sess.expires < c'.shared.clock)) = true) :
    ∃ pre c l, Pool.Run (UplinkStep edgeBench) Pool.Any uplinkStart pre c ∧
      Pool.Step (UplinkStep edgeBench) c l c' ∧ ¬ Sound edgeBench c l c' := by
  obtain ⟨pre, c, g, rest, before, step, -, hbusy, hcounts⟩ := believesAt_last run hbelieves
  refine ⟨pre, c, _, before, step, ?_⟩
  intro h
  obtain ⟨sess, hsess, hle⟩ := h.believed _ g rest rfl hbusy hcounts
  rw [show c'.shared.server.sessions deviceName = some sess from hsess] at hexpired
  exact absurd hle (Int.not_le.mpr (of_decide_eq_true hexpired))

/-- The server's session has expired, and the device goes on pushing. -/
theorem expired_belief :
    ∃ (c₀ : UplinkConfig edgeBench) (ls : _) (c : _) (l : _) (c' : _), c₀.Starts ∧
      Pool.Run (UplinkStep edgeBench) Pool.Any c₀ ls c ∧
      Pool.Step (UplinkStep edgeBench) c l c' ∧ ¬ Sound edgeBench c l c' := by
  have run : Pool.Run (UplinkStep edgeBench) Pool.Any uplinkStart lateRun.1 lateRun.2 :=
    playUplink_run _ (fun _ _ _ => trivial) _
  obtain ⟨pre, c, l, before, step, hnot⟩ := not_sound run lateRun_played.1 lateRun_played.2
  exact ⟨uplinkStart, pre, c, l, _, uplinkStart_starts, before, step, hnot⟩

/-- `Prompt`, for a run that is played. -/
def promptly (c : UplinkConfig edgeBench) : UplinkLabel edgeBench → Bool
  | .did .device (.did (.edge .monoNow) v) =>
    (c.agents .device).log.isEmpty || match c.shared.server.sessions deviceName with
      | some sess => decide (seconds 1 * v ≤ sess.expires - deviceSessionTtl + edgeBench.skew)
      | none => false
  | .did (.thread _) (.did (.server (.sessionKey _)) r) =>
    match (c.agents .device).mem with
    | .device g _ => g.attested && decide (edgeBench.second r.1 < g.sessionExpiry)
    | _ => false
  | _ => true

theorem promptly_prompt (c : UplinkConfig edgeBench) (l : UplinkLabel edgeBench)
    (h : promptly c l = true) : Prompt edgeBench c l := by
  unfold Prompt
  split
  · next v =>
    rintro ⟨pre, conn, result, hlog, -⟩
    have hsome : (c.agents .device).log.isEmpty = false := by
      rw [hlog]
      simp
    rcases Bool.or_eq_true_iff.mp h with hempty | hstored
    · cases hsome.symm.trans hempty
    · cases hsess : c.shared.server.sessions deviceName with
      | none =>
        rw [hsess] at hstored
        cases hstored
      | some sess =>
        rw [hsess] at hstored
        exact ⟨sess, hsess, of_decide_eq_true hstored⟩
  · next n id r =>
    intro _
    cases hmem : (c.agents .device).mem with
    | device g phase =>
      have h' : (g.attested && decide (edgeBench.second r.1 < g.sessionExpiry)) = true := by
        unfold promptly at h
        simpa only [hmem] using h
      obtain ⟨hattested, hbefore⟩ := Bool.and_eq_true_iff.mp h'
      exact ⟨g, phase, rfl, hattested, of_decide_eq_true hbefore⟩
    | thread conn =>
      unfold promptly at h
      simp only [hmem] at h
      cases h
    | other conn =>
      unfold promptly at h
      simp only [hmem] at h
      cases h
  · trivial

/-- The device has the result at once, pushes a reading, and starts over in the last second. -/
def promptRun : List (UplinkLabel edgeBench) × UplinkConfig edgeBench :=
  playUplink (fun n => if n = 0 then seconds 3599 else 0) promptly
    (attestTurns ++ pushTurns ++
      [Pool.Turn.start Party.device UplinkJob.turn, Pool.Turn.call Party.device])

theorem no_expired_belief_played :
    ∃ c c' g rest, Sound edgeBench c (.did .device (.did (.edge .monoNow) 3599)) c' ∧
      c.agents .device = .busy .turn (.device g .ensure) [] rest ∧ CountsOn g 3599 := by
  have hprompt : believesAt promptRun.1 promptRun.2 = some 3599 := by decide +kernel
  have run : Pool.Run (UplinkStep edgeBench) (Prompt edgeBench) uplinkStart promptRun.1 promptRun.2 :=
    playUplink_run _ promptly_prompt _
  generalize promptRun = r at *
  obtain ⟨pre, c, g, rest, before, step, admitted, hbusy, hcounts⟩ := believesAt_last run hprompt
  exact ⟨c, r.2, g, rest, no_expired_belief uplinkStart_starts before step admitted, hbusy, hcounts⟩

end

end ConfidentialIoT
