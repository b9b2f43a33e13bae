import ConfidentialIoT.Host.Expiry

/-!
# `Host/Talk.lean` — what the device does with a connection

The device asks and waits for the reply, or it tells a reading and waits for nothing. What has gone
over a connection is read off its history (`talk`), and the loop keeps this: it reads a reply for
each question and for nothing else, and asks the TA for evidence when it has read a challenge
(`mainLoop_speaks`). Between a question that it asks after readings and the reply it takes for the
answer, it cannot tell; whether it was fooled is a part of the record.
-/

set_option autoImplicit false

namespace ConfidentialIoT

open Effects

/-- A message that the device waits for no reply to. -/
def isReading (msg : JsonValue) : Bool := decide (stringItem msg "type".toList = some "data".toList)

/-- What has gone over a connection, as the device knows it. -/
structure Talk where
  /-- what it has sent -/
  sent : List JsonValue
  /-- how many replies it has read -/
  heard : Nat
  /-- it is connected, and whatever it sent has left -/
  live : Bool
  /-- a reply that it read after a reading had a nonce -/
  fooled : Bool

/-- A reply that can be a challenge. -/
def namesNonce (reply : JsonValue) : Bool := (stringItem reply "nonce".toList).isSome

namespace Talk

def unconnected : Talk := ⟨[], 0, false, false⟩

def connected : Talk := ⟨[], 0, true, false⟩

/-- The messages that it waits for a reply to. -/
def questions (t : Talk) : List JsonValue := t.sent.filter fun msg => !isReading msg

/-- One more event, on the `n`-th connection. -/
def next (n : Nat) (t : Talk) : Event Edge → Talk
  | .did .connect (some m) => if m = n then .connected else t
  | .did (.send m msg) ok =>
    if m = n then (if ok then { t with sent := t.sent ++ [msg] } else { t with live := false }) else t
  | .did (.recv m) (some reply) =>
    if m = n then { t with
      heard := t.heard + 1
      fooled := t.fooled || (t.sent.any isReading && namesNonce reply) } else t
  | _ => t

/-- Questions come before readings. -/
def Sorted (msgs : List JsonValue) : Prop := ∃ questions readings, msgs = questions ++ readings ∧
  (∀ msg ∈ questions, isReading msg = false) ∧ ∀ msg ∈ readings, isReading msg = true

/-- Everything it asked was answered. -/
structure Rests (t : Talk) : Prop where
  live : t.live = true
  heard : t.heard = t.questions.length
  sorted : t.fooled = false → Sorted t.sent

/-- It has just asked something. -/
structure Asked (t : Talk) : Prop where
  live : t.live = true
  heard : t.heard + 1 = t.questions.length
  last : ∃ before msg, t.sent = before ++ [msg] ∧ isReading msg = false ∧
    (t.fooled = false → Sorted before)

/-- No reading was sent. -/
def Clean (t : Talk) : Prop := t.fooled = false → ∀ msg ∈ t.sent, isReading msg = false

end Talk

/-- The device's `n`-th connection. -/
def talk (n : Nat) (tr : List (Event Edge)) : Talk := tr.foldl (Talk.next n) .unconnected

@[simp] theorem talk_snoc (n : Nat) (tr : List (Event Edge)) (ev : Event Edge) :
    talk n (tr ++ [ev]) = (talk n tr).next n ev := by
  rw [talk, List.foldl_append]
  rfl

/-- The device sends on a live connection, and reads only after it has asked. The TA is asked for
evidence when a challenge has come. -/
def TalkCalls (tr : List (Event Edge)) : Call Edge → Prop
  | .act (.send n _) => (talk n tr).live = true
  | .act (.recv n) => (talk n tr).Asked
  | .act (.generateEvidence _ _) =>
    ∃ n before challenge, tr = before ++ [.did (.recv n) (some challenge)] ∧ (talk n tr).Clean
  | _ => True

/-- The open connection can be spoken on. -/
def Ready (g : EdgeGlobals) (tr : List (Event Edge)) : Prop :=
  ∀ n, g.conn = some n → (talk n tr).Rests

/-- The connections are as they were. -/
structure Still (g : EdgeGlobals) (tr : List (Event Edge)) (g' : EdgeGlobals)
    (tr' : List (Event Edge)) : Prop where
  conn : g'.conn = g.conn
  talk : ∀ n, talk n tr' = talk n tr

/-- A part of the loop that leaves the connections alone. -/
def Quiet {α : Type} (p : EdgeM α) : Prop := ∀ g tr, wpP TalkCalls p
  (fun tr' g' _ => Still g tr g' tr') (fun tr' g' _ => Still g tr g' tr') g tr

section

variable {lib : HostLib} {deviceId : Text} {g : EdgeGlobals} {tr : List (Event Edge)}

theorem Ready.still {g' : EdgeGlobals} {tr' : List (Event Edge)} (h : Ready g tr)
    (hstill : Still g tr g' tr') : Ready g' tr' := by
  intro n hconn
  rw [hstill.talk n]
  exact h n (hstill.conn.symm.trans hconn)

/-- A part whose errors end the whole. -/
theorem wpP_then {α : Type} {p : EdgeM α} {Q Q' : List (Event Edge) → EdgeGlobals → α → Prop}
    {E : List (Event Edge) → EdgeGlobals → EdgeError → Prop} (h : wpP TalkCalls p Q' E g tr)
    (ok : ∀ tr' g' a, Q' tr' g' a → Q tr' g' a) : wpP TalkCalls p Q (fun _ _ _ => True) g tr := by
  apply wpP_conseq h ok
  intro _ _ _ _
  trivial

theorem Talk.Rests.ask {t : Talk} (h : t.Rests) {msg : JsonValue} (hmsg : isReading msg = false)
    {n : Nat} : (t.next n (.did (.send n msg) true)).Asked := by
  have hnext : t.next n (.did (.send n msg) true) = { t with sent := t.sent ++ [msg] } := by
    simp [Talk.next]
  rw [hnext]
  refine ⟨h.live, ?_, t.sent, msg, rfl, hmsg, h.sorted⟩
  simp [Talk.questions, List.filter_append, hmsg, h.heard]

theorem Talk.Rests.tell {t : Talk} (h : t.Rests) {msg : JsonValue} (hmsg : isReading msg = true)
    {n : Nat} : (t.next n (.did (.send n msg) true)).Rests := by
  have hnext : t.next n (.did (.send n msg) true) = { t with sent := t.sent ++ [msg] } := by
    simp [Talk.next]
  rw [hnext]
  refine ⟨h.live, ?_, ?_⟩
  · simp [Talk.questions, List.filter_append, hmsg, h.heard]
  · intro hfooled
    obtain ⟨questions, readings, hsent, hquestions, hreadings⟩ := h.sorted hfooled
    refine ⟨questions, readings ++ [msg], by simp [hsent], hquestions, ?_⟩
    intro m hm
    rcases List.mem_append.mp hm with hm | hm
    · exact hreadings m hm
    · obtain rfl := List.mem_singleton.mp hm
      exact hmsg

theorem Talk.next_recv (t : Talk) (n : Nat) (reply : JsonValue) :
    t.next n (.did (.recv n) (some reply)) = { t with
      heard := t.heard + 1
      fooled := t.fooled || (t.sent.any isReading && namesNonce reply) } := by
  simp [Talk.next]

/-- A challenge: either no reading was sent, or it was no challenge. -/
theorem Talk.clean_recv (t : Talk) {n : Nat} {reply : JsonValue} (hreply : namesNonce reply = true) :
    (t.next n (.did (.recv n) (some reply))).Clean := by
  rw [Talk.next_recv]
  intro hfooled msg hmsg
  have hany : t.sent.any isReading = false := by
    simpa [hreply] using (Bool.or_eq_false_iff.mp hfooled).2
  exact Bool.eq_false_iff.mpr fun hreading =>
    Bool.eq_false_iff.mp hany (List.any_eq_true.mpr ⟨msg, hmsg, hreading⟩)

theorem Talk.Asked.hear {t : Talk} (h : t.Asked) {n : Nat} {reply : JsonValue}
    (hclean : (t.next n (.did (.recv n) (some reply))).Clean) :
    (t.next n (.did (.recv n) (some reply))).Rests := by
  rw [Talk.next_recv] at hclean ⊢
  refine ⟨h.live, h.heard, ?_⟩
  intro hfooled
  exact ⟨t.sent, [], by simp, hclean hfooled, by simp⟩

/-- A question after no reading. -/
theorem Talk.Clean.asked {t : Talk} (h : t.Clean) {n : Nat} {msg reply : JsonValue}
    (hmsg : isReading msg = false) :
    ((t.next n (.did (.send n msg) true)).next n (.did (.recv n) (some reply))).Clean := by
  rw [Talk.next_recv]
  intro hfooled m hm
  simp only [Talk.next, if_pos] at hfooled hm
  rcases List.mem_append.mp hm with hm | hm
  · exact h (Bool.or_eq_false_iff.mp hfooled).1 m hm
  · obtain rfl := List.mem_singleton.mp hm
    exact hmsg

theorem openConnection_speaks (h : Ready g tr) :
    wpP TalkCalls openConnection (fun tr' g' n => g'.conn = some n ∧ (talk n tr').Rests)
      (fun _ _ _ => True) g tr := by
  simp only [openConnection, wpP_bind, wpP_get]
  cases hconn : g.conn with
  | some n => exact ⟨hconn, h n hconn⟩
  | none =>
    simp only [wpP_bind, wpP_edge, wpP_orFail, wpP_modify, wpP_pure]
    refine ⟨trivial, fun conn => ⟨?_, fun _ => trivial⟩⟩
    rintro n rfl
    refine ⟨trivial, ?_⟩
    rw [talk_snoc]
    simp only [Talk.next, if_pos]
    exact ⟨rfl, rfl, fun _ => ⟨[], [], rfl, by simp, by simp⟩⟩

theorem sendLine_asks {n : Nat} {msg : JsonValue} (h : (talk n tr).Rests)
    (hmsg : isReading msg = false) :
    wpP TalkCalls (sendLine n msg) (fun tr' g' _ => g' = g ∧ (talk n tr').Asked ∧
      talk n tr' = (talk n tr).next n (.did (.send n msg) true)) (fun _ _ _ => True) g tr := by
  simp only [sendLine, wpP_bind, wpP_edge, wpP_ite, wpP_throw, wpP_pure]
  refine ⟨h.live, fun ok => ⟨fun _ => trivial, fun hok => ?_⟩⟩
  obtain rfl : ok = true := by simpa using hok
  rw [talk_snoc]
  exact ⟨trivial, h.ask hmsg, rfl⟩

theorem recvLine_hears {n : Nat} (h : (talk n tr).Asked) :
    wpP TalkCalls (recvLine n)
      (fun tr' g' reply => g' = g ∧ tr' = tr ++ [.did (.recv n) (some reply)]) (fun _ _ _ => True) g tr := by
  simp only [recvLine, wpP_bind, wpP_edge, wpP_orFail]
  refine ⟨h, fun reply => ⟨?_, fun _ => trivial⟩⟩
  rintro reply rfl
  exact ⟨trivial, rfl⟩

/-- `readChallenge` calls nobody, and takes nothing without a nonce. -/
theorem readChallenge_takes (challenge : JsonValue) :
    wpP TalkCalls (readChallenge lib challenge)
      (fun tr' g' _ => tr' = tr ∧ g'.conn = g.conn ∧ namesNonce challenge = true)
      (fun _ _ _ => True) g tr := by
  simp only [readChallenge, wpP_bind, wpP_orFail, wpP_modify]
  refine ⟨fun nonce hnonce => ⟨fun _ _ => ⟨fun _ _ => ⟨trivial, trivial, ?_⟩, fun _ => trivial⟩,
    fun _ => trivial⟩, fun _ => trivial⟩
  obtain ⟨t, ht, -⟩ := Option.bind_eq_some_iff.mp hnonce
  rw [namesNonce, ht]
  rfl

/-- The TA and the TPM are not on a connection, and the answer is a question. -/
theorem answerChallenge_asks {n : Nat} {before : List (Event Edge)} {challenge : JsonValue}
    (htr : tr = before ++ [.did (.recv n) (some challenge)]) (hclean : (talk n tr).Clean) :
    wpP TalkCalls (answerChallenge lib deviceId)
      (fun tr' g' response => g' = g ∧ (∀ n, talk n tr' = talk n tr) ∧ isReading response = false)
      (fun _ _ _ => True) g tr := by
  simp only [answerChallenge, wpP_bind, wpP_get, wpP_edge, wpP_orFail, wpP_ite, wpP_throw, wpP_pure]
  refine ⟨⟨n, before, challenge, htr, hclean⟩,
    fun answer => ⟨fun evidence _ => ⟨fun _ => trivial, fun _ => ?_⟩, fun _ => trivial⟩⟩
  refine ⟨trivial, fun report => ⟨fun _ _ => ⟨fun _ _ => ⟨fun _ _ => ?_, fun _ => trivial⟩,
    fun _ => trivial⟩, fun _ => trivial⟩⟩
  refine ⟨trivial, fun n => ?_, rfl⟩
  rw [talk_snoc, talk_snoc]
  rfl

/-- A call that is not on a connection. -/
theorem Still.call {a : EdgeAct} {b : a.Res} (g' : EdgeGlobals) (hconn : g'.conn = g.conn)
    (hcall : ∀ n t, Talk.next n t (.did a b) = t) : Still g tr g' (tr ++ [.did a b]) := by
  refine ⟨hconn, ?_⟩
  intro n
  rw [talk_snoc]
  exact hcall n _

theorem readResult_quiet (result : JsonValue) : Quiet (readResult lib result) := by
  intro g tr
  have hstill : ∀ v g', g'.conn = g.conn → Still g tr g' (tr ++ [.did .monoNow v]) :=
    fun v g' hconn => .call g' hconn fun _ _ => rfl
  simp only [readResult, wpP_bind, wpP_edge, wpP_modify, wpP_ite, wpP_throw, wpP_orFail]
  exact ⟨trivial, fun v => ⟨fun _ => ⟨fun _ _ => hstill v _ rfl, fun _ => hstill v _ rfl⟩,
    fun _ => hstill v _ rfl⟩⟩

theorem edgeHandshake_quiet : Quiet edgeHandshake := by
  intro g tr
  simp only [edgeHandshake, wpP_bind, wpP_get, wpP_ite, wpP_throw, wpP_edge, wpP_pure]
  refine ⟨fun _ => ⟨rfl, fun _ => rfl⟩, fun _ => ⟨trivial, fun done => ?_⟩⟩
  exact ⟨fun _ => .call g rfl fun _ _ => rfl, fun _ => .call g rfl fun _ _ => rfl⟩

theorem edgeCallTa_quiet : Quiet edgeCallTa := by
  intro g tr
  have hstill : ∀ answer g', g'.conn = g.conn → Still g tr g' (tr ++ [.did .readAndProtect answer]) :=
    fun answer g' hconn => .call g' hconn fun _ _ => rfl
  simp only [edgeCallTa, wpP_bind, wpP_edge, wpP_orFail, wpP_ite, wpP_throw, wpP_modify]
  refine ⟨trivial, fun answer => ⟨?_, fun _ => hstill answer _ rfl⟩⟩
  rintro ⟨nonce, ciphertext, seq⟩ _
  exact ⟨fun _ => hstill answer _ rfl, fun _ => ⟨fun _ _ => hstill answer _ rfl,
    fun _ => hstill answer _ rfl⟩⟩

theorem edgeAttestToServer_speaks (h : Ready g tr) :
    wpP TalkCalls (edgeAttestToServer lib deviceId) (fun tr' g' _ => Ready g' tr') (fun _ _ _ => True)
      g tr := by
  simp only [edgeAttestToServer, wpP_bind, wpP_modify]
  apply wpP_then (openConnection_speaks (g := { g with attested := false }) h)
  rintro tr₁ g₁ n ⟨hconn, hrests⟩
  apply wpP_then (sendLine_asks hrests rfl)
  rintro tr₂ g₁ _ ⟨rfl, hasked, -⟩
  apply wpP_then (recvLine_hears hasked)
  rintro tr₃ g₁ challenge ⟨rfl, htr⟩
  cases errorReply challenge with
  | some e => trivial
  | none =>
    simp only [wpP_bind]
    apply wpP_then (readChallenge_takes challenge)
    rintro tr₃ g₄ _ ⟨rfl, hconn₄, hnonce⟩
    have hclean : (talk n tr₃).Clean := by
      rw [htr, talk_snoc]
      exact (talk n tr₂).clean_recv hnonce
    have hrests₃ : (talk n tr₃).Rests := by
      rw [htr, talk_snoc] at hclean ⊢
      exact hasked.hear hclean
    apply wpP_then (answerChallenge_asks htr hclean)
    rintro tr₅ g₄ response ⟨rfl, htalk, hresponse⟩
    have hrests₅ : (talk n tr₅).Rests := by
      rw [htalk]
      exact hrests₃
    apply wpP_then (sendLine_asks hrests₅ hresponse)
    rintro tr₆ g₄ _ ⟨rfl, hasked₆, htalk₆⟩
    apply wpP_then (recvLine_hears hasked₆)
    rintro tr₇ g₄ result ⟨rfl, htr₇⟩
    have hrests₇ : (talk n tr₇).Rests := by
      rw [htr₇, talk_snoc]
      apply hasked₆.hear
      rw [htalk₆, htalk]
      exact hclean.asked hresponse
    have hready : Ready g₄ tr₇ := by
      intro m hm
      obtain rfl := Option.some.inj (hm.symm.trans (hconn₄.trans hconn))
      exact hrests₇
    apply wpP_then (readResult_quiet result _ tr₇)
    intro _ _ _ hstill
    exact hready.still hstill

theorem edgeEnsureSession_speaks (h : Ready g tr) :
    wpP TalkCalls (edgeEnsureSession lib deviceId) (fun tr' g' _ => Ready g' tr') (fun _ _ _ => True)
      g tr := by
  have hattest : ∀ tr₀, Ready g tr₀ →
      wpP TalkCalls (edgeAttestToServer lib deviceId >>= fun _ => edgeHandshake)
        (fun tr' g' _ => Ready g' tr') (fun _ _ _ => True) g tr₀ := by
    intro tr₀ h₀
    rw [wpP_bind]
    apply wpP_then (edgeAttestToServer_speaks h₀)
    intro tr₁ g₁ _ h₁
    apply wpP_then (edgeHandshake_quiet g₁ tr₁)
    intro _ _ _ hstill
    exact h₁.still hstill
  simp only [edgeEnsureSession, wpP_bind, wpP_get, wpP_ite, wpP_edge, wpP_pure]
  refine ⟨fun _ => ⟨trivial, fun now => ?_⟩, fun _ => wpP_bind.mp (hattest tr h)⟩
  have hnow : Ready g (tr ++ [.did .monoNow now]) := by
    intro n hconn
    rw [talk_snoc]
    exact h n hconn
  exact ⟨fun _ => hnow, fun _ => wpP_bind.mp (hattest _ hnow)⟩

theorem edgeResetConnection_speaks :
    wpP TalkCalls edgeResetConnection (fun _ g' _ => g'.conn = none) (fun _ _ _ => False) g tr := by
  simp only [edgeResetConnection, wpP_bind, wpP_get]
  cases hconn : g.conn with
  | none => exact hconn
  | some conn =>
    simp only [wpP_bind, wpP_edge, wpP_modify]
    exact ⟨trivial, fun _ => trivial⟩

theorem edgeSendSensorData_tells (h : Ready g tr) (protectedData : Text) :
    wpP TalkCalls (edgeSendSensorData lib deviceId protectedData) (fun tr' g' _ => Ready g' tr')
      (fun _ _ _ => True) g tr := by
  simp only [edgeSendSensorData, wpP_bind, wpP_get]
  split
  · rename_i conn hconn _
    simp only [wpP_bind, wpP_orFail, sendLine, wpP_edge, wpP_ite, wpP_throw, wpP_pure]
    refine ⟨fun _ _ => ⟨fun _ _ => ⟨fun _ _ => ⟨(h conn hconn).live, fun ok => ⟨fun _ => trivial,
      fun hok => ?_⟩⟩, fun _ => trivial⟩, fun _ => trivial⟩, fun _ => trivial⟩
    obtain rfl : ok = true := by simpa using hok
    intro n hn
    obtain rfl := Option.some.inj (hconn.symm.trans hn)
    rw [talk_snoc]
    exact (h conn hconn).tell rfl
  · trivial

/-- **The device's loop keeps count**: it reads a reply for each question and for nothing else. -/
theorem mainLoop_speaks (phase : LoopPhase) (h : Ready g tr) :
    wpP TalkCalls (mainLoop lib deviceId phase) (fun tr' g' _ => Ready g' tr') (fun _ _ _ => False)
      g tr := by
  have hreset : ∀ tr₀ g₀, wpP TalkCalls (edgeResetConnection >>= fun _ => pure LoopPhase.ensure)
      (fun tr' g' _ => Ready g' tr') (fun _ _ _ => False) g₀ tr₀ := by
    intro tr₀ g₀
    rw [wpP_bind]
    apply wpP_conseq edgeResetConnection_speaks
    · intro tr₁ g₁ _ hnone n hconn
      rw [hnone] at hconn
      cases hconn
    · intro _ _ _ hfalse
      exact hfalse
  cases phase with
  | ensure =>
    simp only [mainLoop, wpP_bind, wpP_outcome]
    apply wpP_conseq (edgeEnsureSession_speaks h)
    · intro tr₁ g₁ _ h₁
      exact h₁
    · intro tr₁ g₁ e _
      exact wpP_bind.mp (hreset tr₁ g₁)
  | push =>
    simp only [mainLoop, wpP_bind, wpP_outcome]
    apply wpP_conseq (edgeCallTa_quiet g tr)
    · intro tr₁ g₁ protectedData hstill
      apply wpP_conseq (edgeSendSensorData_tells (h.still hstill) protectedData)
      · intro tr₂ g₂ _ h₂
        exact h₂
      · intro tr₂ g₂ _ _
        exact wpP_bind.mp (hreset tr₂ g₂)
    · intro tr₁ g₁ _ hstill
      exact h.still hstill

end

end ConfidentialIoT
