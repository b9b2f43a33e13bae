import ConfidentialIoT.Server.Challenges
import ConfidentialIoT.Server.Link

/-!
# `Server/Handler.lean` — what the handler of one line does

Every execution of the handler on a line, written down: the steps it takes, what it replies and
what it remembers (`Handled`), or the exception that escapes it (`Escapes`) and the `finally`
block that follows (`HangsUp`). Next to it, what holds at the steps that change the state
(`LinkCall`).
-/

set_option autoImplicit false

namespace ConfidentialIoT

open Effects

section

variable (rt : Runtime) (C : CryptoLib) (deviceId : Text) (msg : JsonValue)

/-! ## `_on_data` -/

/-- The steps before the message is opened. -/
def dataRead (now t : Time) (key : Bytes) : List (Event Server) :=
  [.did .time now, .did (.sessionKey deviceId) (t, some key)]

/-- The steps before the plaintext is looked at. -/
def dataAdvanced (now t : Time) (key : Bytes) (seq : Nat) (t' : Time) (ok : Bool) :
    List (Event Server) :=
  dataRead deviceId now t key ++ [.did (.advanceSeq deviceId seq) (t', ok)]

/-- The ways `_on_data` returns. -/
inductive DataHandled : List (Event Server) → Prop where
  | noSession (now t : Time) : DataHandled [.did .time now,
      .did (.sessionKey deviceId) (t, none), .did (.setVerdict deviceId (.noSession now)) ()]
  | undecrypted (now t : Time) (key : Bytes) {e : StdError} (h : openData C key msg = .error e)
      (caught : decryptCatches e = true) : DataHandled (dataRead deviceId now t key ++
        [.did (.setVerdict deviceId (.decryptFailed (rt.messages.exc e) now)) ()])
  | replayed (now t : Time) (key : Bytes) {seq : Nat} {plaintext : Bytes} (t' : Time)
      (h : openData C key msg = .ok (seq, plaintext)) :
      DataHandled (dataAdvanced deviceId now t key seq t' false ++
        [.did (.setVerdict deviceId (.replayed seq now)) ()])
  | unparsed (now t : Time) (key : Bytes) {seq : Nat} {plaintext : Bytes} (t' : Time)
      (h : openData C key msg = .ok (seq, plaintext)) {e : StdError}
      (hload : rt.loads plaintext = .error e) (caught : loadsCatches e = true) :
      DataHandled (dataAdvanced deviceId now t key seq t' true ++
        [.did (.setVerdict deviceId (.decryptFailed (rt.messages.exc e) now)) ()])
  | accepted (now t : Time) (key : Bytes) {seq : Nat} {plaintext : Bytes} (t' : Time)
      (h : openData C key msg = .ok (seq, plaintext)) {payload : JsonValue}
      (hload : rt.loads plaintext = .ok payload) {samples : List Sample}
      (hsamples : payloadSamples rt deviceId now payload = .ok samples) :
      DataHandled (dataAdvanced deviceId now t key seq t' true ++
        [.did (.extendBuffer deviceId samples (.verified now)) ()])

/-- The exceptions that escape it. -/
inductive DataEscapes : List (Event Server) → Prop where
  | undecrypted (now t : Time) (key : Bytes) {e : StdError} (h : openData C key msg = .error e)
      (uncaught : decryptCatches e = false) : DataEscapes (dataRead deviceId now t key)
  | unparsed (now t : Time) (key : Bytes) {seq : Nat} {plaintext : Bytes} (t' : Time)
      (h : openData C key msg = .ok (seq, plaintext)) {e : StdError}
      (hload : rt.loads plaintext = .error e) (uncaught : loadsCatches e = false) :
      DataEscapes (dataAdvanced deviceId now t key seq t' true)
  | samples (now t : Time) (key : Bytes) {seq : Nat} {plaintext : Bytes} (t' : Time)
      (h : openData C key msg = .ok (seq, plaintext)) {payload : JsonValue}
      (hload : rt.loads plaintext = .ok payload) {e : StdError}
      (hsamples : payloadSamples rt deviceId now payload = .error e) :
      DataEscapes (dataAdvanced deviceId now t key seq t' true)

/-- The calls it makes, and what it knows at those that change the state. -/
def DataCall (tr : List (Event Server)) : Call Server → Prop
  | .act .time => True
  | .act (.sessionKey id) => id = deviceId
  | .act (.advanceSeq id seq) => id = deviceId ∧ ∃ now t key plaintext,
    tr = dataRead deviceId now t key ∧ openData C key msg = .ok (seq, plaintext)
  | .act (.setVerdict id verdict) => id = deviceId ∧ (∀ ev ∈ tr, verdictOf deviceId ev = none) ∧
    ((∃ now t rest, tr = .did .time now :: .did (.sessionKey deviceId) (t, none) :: rest ∧
      verdict = .noSession now) ∨
    verdict.integrity = "fail".toList ∧ ∃ now t key rest, tr = dataRead deviceId now t key ++ rest)
  | .act (.extendBuffer id _ verdict) => id = deviceId ∧ ∃ now t key seq t' plaintext,
    tr = dataAdvanced deviceId now t key seq t' true ∧
      openData C key msg = .ok (seq, plaintext) ∧ verdict = .verified now
  | _ => False

end

section

variable {rt : Runtime} {C : CryptoLib} {deviceId : Text} {msg : JsonValue}

/-- A sequence number that came out of a message is one. -/
theorem seqOf_openData {key : Bytes} {seq : Nat} {plaintext : Bytes}
    (h : openData C key msg = .ok (seq, plaintext)) : seqOf (.int seq) = some seq := by
  simp only [openData, bind_eq_ok] at h
  obtain ⟨_, -, nonce, -, _, -, ciphertext, -, v, -, hopen⟩ := h
  cases hseq : seqOf v with
  | none =>
    rw [hseq] at hopen
    cases hopen
  | some n =>
    rw [hseq] at hopen
    simp only [bind_eq_ok, pure_eq_ok, Prod.mk.injEq] at hopen
    obtain ⟨_, -, rfl, -⟩ := hopen
    cases v with
    | int m =>
      simp only [seqOf] at hseq ⊢
      split at hseq
      · cases hseq
      · rename_i hrange
        obtain rfl := Option.some.inj hseq
        have hcast : ((m.toNat : Nat) : Int) = m := Int.toNat_of_nonneg (by omega)
        rw [hcast, if_neg hrange]
    | _ => cases hseq

theorem onData_spec (conn : Connection) :
    wpP (DataCall C deviceId msg) (onData rt C deviceId msg)
      (fun tr conn' _ => conn' = conn ∧ DataHandled rt C deviceId msg tr)
      (fun tr conn' _ => conn' = conn ∧ DataEscapes rt C deviceId msg tr) conn [] := by
  simp only [onData, sessionKey, wpP_bind, wpP_step, wpP_pure, List.nil_append, DataCall, true_and]
  rintro now ⟨t, found⟩
  cases found with
  | none =>
    refine ⟨⟨rfl, by simp [verdictOf], Or.inl ⟨now, t, [], rfl, rfl⟩⟩, ?_⟩
    intro _
    exact ⟨rfl, .noSession now t⟩
  | some key =>
    dsimp only
    cases hopen : openData C key msg with
    | error e =>
      simp only [wpP_bind, wpP_ite, wpP_throw, wpP_step, DataCall]
      refine ⟨fun h => ⟨trivial, .undecrypted now t key hopen (by simpa using h)⟩, ?_⟩
      intro h
      refine ⟨⟨trivial, by simp [verdictOf], Or.inr ⟨rfl, now, t, key, [], by simp [dataRead]⟩⟩, ?_⟩
      intro _
      exact ⟨trivial, .undecrypted now t key hopen (by simpa using h)⟩
    | ok opened =>
      obtain ⟨seq, plaintext⟩ := opened
      simp only [checkAndAdvanceSeq, seqOf_openData hopen, wpP_bind, wpP_step, wpP_pure, wpP_ite,
        DataCall]
      refine ⟨⟨trivial, now, t, key, plaintext, rfl, hopen⟩, ?_⟩
      rintro ⟨t', ok⟩
      cases ok with
      | false =>
        refine ⟨fun _ => ⟨⟨trivial, by simp [verdictOf], Or.inr ⟨rfl, now, t, key, _, rfl⟩⟩, ?_⟩,
          fun h => absurd (by simp) h⟩
        intro _
        exact ⟨trivial, .replayed now t key t' hopen⟩
      | true =>
        refine ⟨fun h => absurd h (by simp), fun _ => ?_⟩
        cases hload : rt.loads plaintext with
        | error e =>
          simp only [wpP_bind, wpP_ite, wpP_throw, wpP_step, DataCall]
          refine ⟨fun h => ⟨trivial, .unparsed now t key t' hopen hload (by simpa using h)⟩, ?_⟩
          intro h
          refine ⟨⟨trivial, by simp [verdictOf], Or.inr ⟨rfl, now, t, key, _, rfl⟩⟩, ?_⟩
          intro _
          exact ⟨trivial, .unparsed now t key t' hopen hload (by simpa using h)⟩
        | ok payload =>
          simp only [wpP_bind, wpP_raising, wpP_step, DataCall]
          cases hsamples : payloadSamples rt deviceId now payload with
          | error e =>
            refine ⟨?_, fun _ _ => ⟨trivial, .samples now t key t' hopen hload hsamples⟩⟩
            rintro _ ⟨⟩
          | ok samples =>
            refine ⟨?_, (by rintro _ ⟨⟩)⟩
            intro _ h
            cases h
            refine ⟨⟨trivial, now, t, key, seq, t', plaintext, rfl, hopen, rfl⟩, ?_⟩
            intro _
            exact ⟨trivial, .accepted now t key t' hopen hload hsamples⟩

end

/-! ## One line -/

/-- `except (AttestationError, KeyError)` -/
def attestCatches : PyError → Bool
  | .attestation _ => true
  | .std (.keyError _) => true
  | _ => false

/-- `str(exc)` of what it catches. -/
def Runtime.attestError (rt : Runtime) : PyError → Text
  | .attestation failure => rt.why failure
  | .std e => rt.messages.exc e

/-- The ways the body of that `try` fails. -/
inductive AttestFailure (C : CryptoLib) (deviceId : Text) (msg : JsonValue) :
    List (Event Server) → PyError → Prop where
  | field {e : PyError} (h : attestResponseOf msg = .error e) : AttestFailure C deviceId msg [] e
  | verify {response : AttestResponse} {tr : List (Event Server)} {e : PyError}
      (h : attestResponseOf msg = .ok response) (failure : VerifyFailure C deviceId response tr e) :
      AttestFailure C deviceId msg tr e

/-- The message of a line, and its type. -/
structure Parses (rt : Runtime) (line : Bytes) (msg : JsonValue) (type : MessageType) : Prop where
  loads : rt.loads line = .ok msg
  type : ∃ v, msg.get "type".toList = .ok v ∧ MessageType.of v = type

def challengeMessage (identity : Point) (challenge : PendingChallenge) : ChallengeMessage :=
  ⟨b64e challenge.nonce, b64e challenge.serverPub, b64e identity.sec1⟩

section

variable (rt : Runtime) (C : CryptoLib) (identity : Point) (conn : Connection) (line : Bytes)

/-- The executions without an uncaught exception: the steps, and what is remembered after. -/
inductive Handled : List (Event Server) → Connection → Prop where
  | badJson {e : StdError} (h : rt.loads line = .error e) (caught : loadsCatches e = true) :
      Handled [.did (.writeline (Reply.refused "invalid JSON".toList)) ()] conn
  | challenged {msg : JsonValue} {deviceId : Text} {challenge : PendingChallenge}
      {tr : List (Event Server)} (h : Parses rt line msg .hello)
      (hid : helloId rt msg = .ok deviceId) (drawn : Drawn deviceId challenge tr) :
      Handled (tr ++ [.did (.setPending deviceId challenge) (),
          .did (.writeline (Reply.attestChallenge (challengeMessage identity challenge))) ()])
        { conn with deviceId := some deviceId }
  | unknownDevice {msg : JsonValue} {deviceId : Text} (h : Parses rt line msg .hello)
      (hid : helloId rt msg = .ok deviceId) :
      Handled [.did (.lookup deviceId) none,
          .did (.writeline (Reply.error (rt.why (.notRegistered deviceId)))) ()]
        { conn with deviceId := none }
  | attestUnnamed {msg : JsonValue} (h : Parses rt line msg .attestResponse)
      (hname : conn.named = none) :
      Handled [.did (.writeline (Reply.attestRefused "send hello first".toList)) ()] conn
  | attested {msg : JsonValue} {deviceId : Text} (h : Parses rt line msg .attestResponse)
      (hname : conn.named = some deviceId) (v : Vetting C deviceId)
      (hresponse : attestResponseOf msg = .ok v.response) {key : Bytes} (now : Time)
      (hkey : deviceKey C v.pending v.presented.devicePub = .ok key) (sig : Bytes) :
      Handled (v.events ++ [.did (.storeSession deviceId key) now,
        .did (.signServerIdentity (serverIdentityPreimage v.pending.nonce v.pending.serverPub
          v.presented.devicePub)) sig, .did (.writeline (Reply.attestAccepted sig)) ()]) conn
  | attestRefused {msg : JsonValue} {deviceId : Text} (h : Parses rt line msg .attestResponse)
      (hname : conn.named = some deviceId) {tr : List (Event Server)} {e : PyError}
      (failure : AttestFailure C deviceId msg tr e) (caught : attestCatches e = true) :
      Handled (tr ++ [.did (.writeline (Reply.attestRefused (rt.attestError e))) ()]) conn
  | dataUnnamed {msg : JsonValue} (h : Parses rt line msg .data) (hname : conn.named = none) :
      Handled [.did (.writeline (Reply.refused "send hello first".toList)) ()] conn
  | data {msg : JsonValue} {deviceId : Text} (h : Parses rt line msg .data)
      (hname : conn.named = some deviceId) {tr : List (Event Server)}
      (handled : DataHandled rt C deviceId msg tr) :
      Handled (tr ++ [.did (.writeline Reply.accepted) ()]) conn
  | unknownType {msg : JsonValue} {type : Option JsonValue} {text : Text}
      (h : Parses rt line msg (.unknown type)) (hrepr : rt.repr (type.getD .null) = .ok text) :
      Handled [.did (.writeline (Reply.refused ("unknown type ".toList ++ text))) ()] conn

/-- The exceptions that escape, with the steps taken before. -/
inductive Escapes : List (Event Server) → Prop where
  | badJson {e : StdError} (h : rt.loads line = .error e) (uncaught : loadsCatches e = false) :
      Escapes []
  | notADict {msg : JsonValue} {e : StdError} (h : rt.loads line = .ok msg)
      (htype : msg.get "type".toList = .error e) : Escapes []
  | hello {msg : JsonValue} {e : StdError} (h : Parses rt line msg .hello)
      (hid : helloId rt msg = .error e) : Escapes []
  | attest {msg : JsonValue} {deviceId : Text} (h : Parses rt line msg .attestResponse)
      (hname : conn.named = some deviceId) {tr : List (Event Server)} {e : PyError}
      (failure : AttestFailure C deviceId msg tr e) (uncaught : attestCatches e = false) :
      Escapes tr
  | data {msg : JsonValue} {deviceId : Text} (h : Parses rt line msg .data)
      (hname : conn.named = some deviceId) {tr : List (Event Server)}
      (escapes : DataEscapes rt C deviceId msg tr) : Escapes tr
  | unknownType {msg : JsonValue} {type : Option JsonValue} {e : StdError}
      (h : Parses rt line msg (.unknown type)) (hrepr : rt.repr (type.getD .null) = .error e) :
      Escapes []

/-- The calls a line's handler makes. -/
inductive LinkCall (tr : List (Event Server)) (c : Call Server) : Prop where
  | issue {msg : JsonValue} {deviceId : Text} (h : Parses rt line msg .hello)
      (hid : helloId rt msg = .ok deviceId) (call : IssueCall deviceId tr c)
  | verify {msg : JsonValue} {deviceId : Text} {response : AttestResponse}
      (h : Parses rt line msg .attestResponse) (hname : conn.named = some deviceId)
      (hresponse : attestResponseOf msg = .ok response) (call : VerifyCall C deviceId response tr c)
  | data {msg : JsonValue} {deviceId : Text} (h : Parses rt line msg .data)
      (hname : conn.named = some deviceId) (call : DataCall C deviceId msg tr c)
  | reply {reply : JsonValue} (h : c = .act (.writeline reply))

end

section

variable {rt : Runtime} {C : CryptoLib} {identity : Point} {line : Bytes} {msg : JsonValue}

theorem onHello_spec (h : Parses rt line msg .hello) (conn : Connection) :
    wpP (LinkCall rt C conn line) (onHello rt identity msg)
      (fun tr conn' _ => Handled rt C identity conn line tr conn')
      (fun tr conn' _ => conn' = conn ∧ Escapes rt C conn line tr) conn [] := by
  simp only [onHello, wpP_bind, wpP_raising, wpP_modify]
  cases hid : helloId rt msg with
  | error e =>
    refine ⟨(by rintro _ ⟨⟩), ?_⟩
    intro _ _
    exact ⟨trivial, .hello h hid⟩
  | ok deviceId =>
    refine ⟨?_, (by rintro _ ⟨⟩)⟩
    intro _ heq
    cases heq
    rw [wpP_outcome]
    refine wpP_conseq (wpP_weaken issueChallenge_spec fun _ _ => LinkCall.issue h hid) ?_ ?_
    · rintro tr conn' message ⟨rfl, challenge, tr, drawn, rfl, rfl⟩
      simp only [wpP_step]
      refine ⟨.reply rfl, ?_⟩
      intro _
      rw [List.append_assoc]
      exact .challenged h hid drawn
    · rintro tr conn' e ⟨rfl, rfl, rfl⟩
      simp only [wpP_bind, wpP_step, wpP_modify]
      refine ⟨.reply rfl, ?_⟩
      intro _
      exact .unknownDevice h hid

theorem attest_spec {conn : Connection} {deviceId : Text} (h : Parses rt line msg .attestResponse)
    (hname : conn.named = some deviceId) :
    wpP (LinkCall rt C conn line) (attest C deviceId msg)
      (fun tr conn' sig => conn' = conn ∧ ∃ (v : Vetting C deviceId) (key : Bytes) (now : Time),
        attestResponseOf msg = .ok v.response ∧
        deviceKey C v.pending v.presented.devicePub = .ok key ∧
        tr = v.events ++ [.did (.storeSession deviceId key) now, .did (.signServerIdentity
          (serverIdentityPreimage v.pending.nonce v.pending.serverPub v.presented.devicePub)) sig])
      (fun tr conn' e => conn' = conn ∧ AttestFailure C deviceId msg tr e) conn [] := by
  simp only [attest, wpP_bind, wpP_raising]
  cases hresponse : attestResponseOf msg with
  | error e =>
    refine ⟨(by rintro _ ⟨⟩), ?_⟩
    intro _ heq
    cases heq
    exact ⟨trivial, .field hresponse⟩
  | ok response =>
    refine ⟨?_, (by rintro _ ⟨⟩)⟩
    intro _ heq
    cases heq
    refine wpP_conseq (wpP_weaken verifyAndDerive_spec fun _ _ => LinkCall.verify h hname hresponse)
      ?_ ?_
    · rintro tr conn' sig ⟨rfl, v, key, now, rfl, hkey, rfl⟩
      exact ⟨rfl, v, key, now, rfl, hkey, rfl⟩
    · rintro tr conn' e ⟨rfl, failure⟩
      exact ⟨rfl, .verify hresponse failure⟩

theorem onAttestResponse_spec (h : Parses rt line msg .attestResponse) (conn : Connection) :
    wpP (LinkCall rt C conn line) (onAttestResponse rt C msg)
      (fun tr conn' _ => Handled rt C identity conn line tr conn')
      (fun tr conn' _ => conn' = conn ∧ Escapes rt C conn line tr) conn [] := by
  simp only [onAttestResponse, wpP_bind, wpP_get]
  cases hname : conn.named with
  | none =>
    simp only [wpP_step]
    refine ⟨.reply rfl, ?_⟩
    intro _
    exact .attestUnnamed h hname
  | some deviceId =>
    simp only [wpP_bind, wpP_outcome]
    refine wpP_conseq (attest_spec h hname) ?_ ?_
    · rintro tr conn' sig ⟨rfl, v, key, now, hresponse, hkey, rfl⟩
      simp only [wpP_step]
      refine ⟨.reply rfl, ?_⟩
      intro _
      rw [List.append_assoc]
      exact .attested h hname v hresponse now hkey sig
    · rintro tr conn' e ⟨rfl, failure⟩
      cases e with
      | attestation why =>
        simp only [wpP_step]
        refine ⟨.reply rfl, ?_⟩
        intro _
        exact .attestRefused h hname failure rfl
      | std e =>
        cases e with
        | keyError key =>
          simp only [wpP_step]
          refine ⟨.reply rfl, ?_⟩
          intro _
          exact .attestRefused h hname failure rfl
        | _ => exact ⟨rfl, .attest h hname failure rfl⟩

theorem onDataMessage_spec (h : Parses rt line msg .data) (conn : Connection) :
    wpP (LinkCall rt C conn line) (onDataMessage rt C msg)
      (fun tr conn' _ => Handled rt C identity conn line tr conn')
      (fun tr conn' _ => conn' = conn ∧ Escapes rt C conn line tr) conn [] := by
  simp only [onDataMessage, wpP_bind, wpP_get]
  cases hname : conn.named with
  | none =>
    simp only [wpP_step]
    refine ⟨.reply rfl, ?_⟩
    intro _
    exact .dataUnnamed h hname
  | some deviceId =>
    simp only [wpP_bind]
    refine wpP_conseq (wpP_weaken (onData_spec conn) fun _ _ => LinkCall.data h hname) ?_ ?_
    · rintro tr conn' _ ⟨rfl, handled⟩
      simp only [wpP_step]
      refine ⟨.reply rfl, ?_⟩
      intro _
      exact .data h hname handled
    · rintro tr conn' _ ⟨rfl, escapes⟩
      exact ⟨rfl, .data h hname escapes⟩

/-- **What the handler does with a line.** -/
theorem onLine_spec (line : Bytes) (conn : Connection) :
    wpP (LinkCall rt C conn line) (onLine rt C identity line)
      (fun tr conn' _ => Handled rt C identity conn line tr conn')
      (fun tr conn' _ => conn' = conn ∧ Escapes rt C conn line tr) conn [] := by
  unfold onLine
  cases hload : rt.loads line with
  | error e =>
    simp only [wpP_bind, wpP_ite, wpP_throw, wpP_step]
    refine ⟨fun h => ⟨trivial, .badJson hload (by simpa using h)⟩, ?_⟩
    intro h
    refine ⟨.reply rfl, ?_⟩
    intro _
    exact .badJson hload (by simpa using h)
  | ok msg =>
    simp only [onMessage, wpP_bind, wpP_raising]
    cases htype : msg.get "type".toList with
    | error e =>
      refine ⟨(by rintro _ ⟨⟩), ?_⟩
      intro _ _
      exact ⟨trivial, .notADict hload htype⟩
    | ok v =>
      refine ⟨?_, (by rintro _ ⟨⟩)⟩
      intro _ heq
      cases heq
      have parses : ∀ {type}, MessageType.of v = type → Parses rt line msg type :=
        fun hof => ⟨hload, v, htype, hof⟩
      cases hof : MessageType.of v with
      | hello => exact onHello_spec (parses hof) conn
      | attestResponse => exact onAttestResponse_spec (parses hof) conn
      | data => exact onDataMessage_spec (parses hof) conn
      | unknown type =>
        simp only [wpP_bind, wpP_raising, wpP_step]
        cases hrepr : rt.repr (type.getD .null) with
        | error e =>
          refine ⟨(by rintro _ ⟨⟩), ?_⟩
          intro _ _
          exact ⟨trivial, .unknownType (parses hof) hrepr⟩
        | ok text =>
          refine ⟨?_, (by rintro _ ⟨⟩)⟩
          intro _ heq
          cases heq
          refine ⟨.reply rfl, ?_⟩
          intro _
          exact .unknownType (parses hof) hrepr

end

/-! ## One job -/

/-- The `finally` block. -/
inductive HangsUp (conn : Connection) : List (Event Server) → Prop where
  | unnamed (hname : conn.named = none) : HangsUp conn []
  | named {deviceId : Text} (hname : conn.named = some deviceId) (now : Time) :
      HangsUp conn [.did .time now, .did (.setVerdict deviceId (.disconnected now)) ()]

section

variable (rt : Runtime) (C : CryptoLib) (identity : Point) (conn : Connection)

/-- What a thread does with what it is given. -/
inductive Served : LinkJob → List (Event Server) → Connection → Prop where
  | closed (line : Option Bytes) (h : conn.closed = true) : Served (.line line) [] conn
  | handled {line : Bytes} (live : conn.closed = false) {tr : List (Event Server)}
      {conn' : Connection} (h : Handled rt C identity conn line tr conn') :
      Served (.line (some line)) tr conn'
  | escaped {line : Bytes} (live : conn.closed = false) {tr tr' : List (Event Server)}
      (h : Escapes rt C conn line tr) (hangs : HangsUp conn tr') :
      Served (.line (some line)) (tr ++ tr') { conn with closed := true }
  | ended (live : conn.closed = false) {tr : List (Event Server)} (hangs : HangsUp conn tr) :
      Served (.line none) tr { conn with closed := true }
  | notEnrolled {body : JsonValue} {e : StdError} (h : enrolmentOf rt C body = .error e) :
      Served (.register body) [] conn
  | enrolled {body : JsonValue} {s : Submission} (h : enrolmentOf rt C body = .ok s)
      (answer : Time × Except KeyMismatch (DeviceRecord × Bool)) : Served (.register body)
        [.did (.register s.deviceId s.akPubPem s.expectedPcr s.pcrBank s.taPubB64) answer] conn

/-- Nothing escapes after a verdict was given. -/
theorem Escapes.unwritten {rt : Runtime} {C : CryptoLib} {conn : Connection} {line : Bytes}
    {tr : List (Event Server)} (h : Escapes rt C conn line tr) (deviceId : Text) :
    ∀ ev ∈ tr, verdictOf deviceId ev = none := by
  cases h with
  | attest _ _ failure _ =>
    cases failure with
    | field _ => exact nofun
    | verify _ failure =>
      cases failure with
      | notRegistered => simp [verdictOf]
      | noPending _ => simp [verdictOf]
      | answered h => cases h <;> simp [verdictOf]
  | data _ _ escapes => cases escapes <;> simp [dataAdvanced, dataRead, verdictOf]
  | _ => exact nofun

/-- The calls it makes. -/
inductive JobCall (job : LinkJob) (tr : List (Event Server)) (c : Call Server) : Prop where
  | line {line : Bytes} (h : job = .line (some line)) (live : conn.closed = false)
      (call : LinkCall rt C conn line tr c)
  | hangUp {line : Option Bytes} (h : job = .line line) {deviceId : Text}
      (live : conn.closed = false) (hname : conn.named = some deviceId)
      (unwritten : ∀ ev ∈ tr, verdictOf deviceId ev = none)
      (call : c = .act .time ∨ ∃ now, c = .act (.setVerdict deviceId (.disconnected now)))
  | register {body : JsonValue} {s : Submission} (h : job = .register body)
      (hs : enrolmentOf rt C body = .ok s)
      (call : c = .act (.register s.deviceId s.akPubPem s.expectedPcr s.pcrBank s.taPubB64))

end

section

variable {rt : Runtime} {C : CryptoLib} {identity : Point} {conn : Connection}

theorem hangUp_spec {line : Option Bytes} (live : conn.closed = false) {tr : List (Event Server)}
    (unwritten : ∀ deviceId, ∀ ev ∈ tr, verdictOf deviceId ev = none) :
    wpP (JobCall rt C conn (.line line)) hangUp
      (fun tr' conn' _ => conn' = { conn with closed := true } ∧
        ∃ more, tr' = tr ++ more ∧ HangsUp conn more)
      (fun _ _ _ => False) conn tr := by
  simp only [hangUp, wpP_bind, wpP_get]
  cases hname : conn.named with
  | none =>
    simp only [wpP_modify]
    exact ⟨trivial, [], by simp, .unnamed hname⟩
  | some deviceId =>
    simp only [wpP_bind, wpP_step, wpP_modify]
    refine ⟨.hangUp rfl live hname (unwritten deviceId) (Or.inl rfl), ?_⟩
    intro now
    have unwritten' : ∀ ev ∈ tr ++ [.did .time now], verdictOf deviceId ev = none := by
      intro ev hev
      rcases List.mem_append.mp hev with hev | hev
      · exact unwritten deviceId ev hev
      · rw [List.mem_singleton.mp hev]
        rfl
    refine ⟨.hangUp rfl live hname unwritten' (Or.inr ⟨now, rfl⟩), ?_⟩
    intro _
    exact ⟨trivial, _, List.append_assoc .., .named hname now⟩

/-- **What a thread does**, and that no exception ends it. -/
theorem linkJob_spec (job : LinkJob) (conn : Connection) :
    wpP (JobCall rt C conn job) (linkJob rt C identity job)
      (fun tr conn' _ => Served rt C identity conn job tr conn') (fun _ _ _ => False) conn [] := by
  cases job with
  | register body =>
    simp only [linkJob, registerDevice]
    cases hs : enrolmentOf rt C body with
    | error e => exact .notEnrolled hs
    | ok s =>
      simp only [wpP_bind, wpP_step, wpP_pure]
      refine ⟨.register rfl hs rfl, ?_⟩
      intro answer
      exact .enrolled hs answer
  | line line =>
    simp only [linkJob, wpP_bind, wpP_get]
    cases hclosed : conn.closed with
    | true => exact .closed line hclosed
    | false =>
      simp only [Bool.false_eq_true, if_false]
      cases line with
      | none =>
        refine wpP_conseq (hangUp_spec hclosed (fun _ => by rintro _ ⟨⟩)) ?_ (fun _ _ _ h => h)
        rintro tr conn' _ ⟨rfl, more, rfl, hangs⟩
        exact .ended hclosed hangs
      | some line =>
        simp only [handleConnection, wpP_bind, wpP_outcome]
        refine wpP_conseq (wpP_weaken (onLine_spec line conn) fun _ _ => JobCall.line rfl hclosed)
          ?_ ?_
        · intro tr conn' _ handled
          exact .handled hclosed handled
        · rintro tr conn' _ ⟨rfl, escapes⟩
          refine wpP_conseq (hangUp_spec hclosed escapes.unwritten) ?_ (fun _ _ _ h => h)
          rintro tr' conn'' _ ⟨rfl, more, rfl, hangs⟩
          exact .escaped hclosed escapes hangs

end

end ConfidentialIoT
