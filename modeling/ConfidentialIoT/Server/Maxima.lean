import ConfidentialIoT.Lib.Drain
import ConfidentialIoT.Lib.Eval
import ConfidentialIoT.Server.Handler
import ConfidentialIoT.Server.Marshal
import ConfidentialIoT.Server.Link

/-!
# `Server/Maxima.lean` — which messages of a session are accepted

`_on_data` on one message after another, on a session that does not expire meanwhile. A message is
genuine if the session's key opens it. What one message does to the session is `Judged`; a list of
them accepts exactly its running maxima.
-/

set_option autoImplicit false

namespace ConfidentialIoT

open Effects

/-! ## What is observed of a message -/

/-- The sequence number of a message that a key opens. -/
def genuineSeq (C : CryptoLib) (key : Bytes) (msg : JsonValue) : Option Nat :=
  (openData C key msg).toOption.map Prod.fst

/-- The samples of a message that a key opens; those of a plaintext that is no document of samples
are none. -/
def carried (rt : Runtime) (C : CryptoLib) (deviceId : Text) (key : Bytes) (now : Time)
    (msg : JsonValue) : List Sample :=
  match openData C key msg with
  | .error _ => []
  | .ok (_, plaintext) =>
    match rt.loads plaintext with
    | .error _ => []
    | .ok payload => (payloadSamples rt deviceId now payload).toOption.getD []

/-- `check_and_advance_seq` has returned `True` for the device. -/
def admitted (deviceId : Text) (tr : List (Event Server)) : Bool :=
  tr.any fun
    | .did (.advanceSeq id _) (_, ok) => ok && id = deviceId
    | _ => false

/-- What has been appended to the device's buffer. -/
def appendedBy (deviceId : Text) (tr : List (Event Server)) : List Sample :=
  tr.flatMap fun
    | .did (.extendBuffer id samples _) _ => if id = deviceId then samples else []
    | _ => []

/-- A step on a session reads the clock before the session expires. -/
def InTime (expires : Time) : Event Server → Prop
  | .did (.sessionKey _) r => r.1 ≤ expires
  | .did (.advanceSeq _ _) r => r.1 ≤ expires
  | _ => True

/-- A data message, when its handling began, and the steps of the handling. -/
structure Delivery where
  msg : JsonValue
  now : Time
  events : List (Event Server)

/-- `_on_data` on one message after another, whatever connection each of them comes on. -/
inductive Processed (rt : Runtime) (C : CryptoLib) (identity : Point) (deviceId : Text) :
    List Delivery → ServerState → ServerState → Prop where
  | nil (s : ServerState) : Processed rt C identity deviceId [] s s
  | cons {d : Delivery} {ds : List Delivery} {s s₁ s' : ServerState} {conn conn' : Connection}
      {r : Except PyError Unit}
      (h : EvalsP (ServerStep C identity) (onData rt C deviceId d.msg) conn s d.events r conn' s₁)
      (hnow : d.events.head? = some (.did .time d.now))
      (rest : Processed rt C identity deviceId ds s₁ s') :
      Processed rt C identity deviceId (d :: ds) s s'

section

variable {rt : Runtime} {C : CryptoLib} {identity : Point} {deviceId : Text}
  {s s' : ServerState} {sess : DeviceSession}

/-! ## A session in its lifetime -/

theorem ServerState.sessionKey_live {now : Time} (hsess : s.sessions deviceId = some sess)
    (hlive : now ≤ sess.expires) : s.sessionKey deviceId now = (some sess.key, s) := by
  unfold ServerState.sessionKey
  rw [hsess]
  exact if_neg (Int.not_lt.mpr hlive)

/-- The session has accepted a number. -/
def ServerState.advanced (s : ServerState) (deviceId : Text) (sess : DeviceSession) (seq : Nat) :
    ServerState :=
  let sess := { sess with lastSeq := seq }
  { s with sessions := Function.update s.sessions deviceId (some sess) }

theorem ServerState.advanceSeq_live {now : Time} {seq : Nat}
    (hsess : s.sessions deviceId = some sess) (hlive : now ≤ sess.expires) :
    s.advanceSeq deviceId seq now =
      if seq ≤ sess.lastSeq then (false, s) else (true, s.advanced deviceId sess seq) := by
  unfold ServerState.advanceSeq
  rw [hsess]
  exact if_neg (Int.not_lt.mpr hlive)

/-! ## One message -/

/-- What one message does on a session: its number is above the session's and it is accepted, or
it is rejected and nothing changes but the verdict. -/
inductive Judged (rt : Runtime) (C : CryptoLib) (deviceId : Text) (s : ServerState)
    (sess : DeviceSession) (d : Delivery) (s' : ServerState) : Prop where
  | accepted (seq : Nat) (genuine : genuineSeq C sess.key d.msg = some seq)
      (higher : sess.lastSeq < seq) (admits : admitted deviceId d.events = true)
      (appends : appendedBy deviceId d.events = carried rt C deviceId sess.key d.now d.msg)
      (sessions : s'.sessions =
        Function.update s.sessions deviceId (some { sess with lastSeq := seq }))
      (buf : (s.buf deviceId).length ≤ maxBuffer →
        s'.buf deviceId = (s.buf deviceId ++ appendedBy deviceId d.events).rtake maxBuffer)
  | rejected (lower : ∀ seq, genuineSeq C sess.key d.msg = some seq → seq ≤ sess.lastSeq)
      (admits : admitted deviceId d.events = false) (appends : appendedBy deviceId d.events = [])
      (sessions : s'.sessions = s.sessions) (buf : s'.buf = s.buf)

theorem genuineSeq_of_ok {key : Bytes} {msg : JsonValue} {seq : Nat} {plaintext : Bytes}
    (h : openData C key msg = .ok (seq, plaintext)) : genuineSeq C key msg = some seq := by
  unfold genuineSeq
  rw [h]
  rfl

theorem genuineSeq_of_error {key : Bytes} {msg : JsonValue} {e : StdError}
    (h : openData C key msg = .error e) : genuineSeq C key msg = none := by
  unfold genuineSeq
  rw [h]
  rfl

/-- The lookup of the key, in its lifetime. -/
theorem through_dataRead {now t : Time} {key : Bytes} {tr : List (Event Server)}
    (hsess : s.sessions deviceId = some sess) (hlive : t ≤ sess.expires)
    (h : Through (ServerStep C identity) s (dataRead deviceId now t key ++ tr) s') :
    key = sess.key ∧ Through (ServerStep C identity) s tr s' := by
  obtain ⟨s₂, hread, hrest⟩ := through_append.mp h
  obtain ⟨s₁, rfl, hlookup⟩ := through_cons.mp hread
  obtain ⟨s₃, hanswer, hend⟩ := through_cons.mp hlookup
  obtain rfl := through_nil.mp hend
  have hlooked : (some key, s₂) = _ := hanswer
  rw [ServerState.sessionKey_live hsess hlive] at hlooked
  obtain ⟨hkey, rfl⟩ := Prod.mk.inj hlooked
  exact ⟨Option.some.inj hkey, hrest⟩

/-- The number is compared and recorded, in the session's lifetime. -/
theorem through_dataAdvanced {now t t' : Time} {key : Bytes} {seq : Nat} {ok : Bool}
    {tr : List (Event Server)} (hsess : s.sessions deviceId = some sess) (hlive : t ≤ sess.expires)
    (hlive' : t' ≤ sess.expires)
    (h : Through (ServerStep C identity) s (dataAdvanced deviceId now t key seq t' ok ++ tr) s') :
    key = sess.key ∧
      (ok = true ∧ sess.lastSeq < seq ∧
        Through (ServerStep C identity) (s.advanced deviceId sess seq) tr s' ∨
      ok = false ∧ seq ≤ sess.lastSeq ∧ Through (ServerStep C identity) s tr s') := by
  rw [dataAdvanced, List.append_assoc] at h
  obtain ⟨hkey, hopened⟩ := through_dataRead hsess hlive h
  obtain ⟨s₁, hanswer, hrest⟩ := through_cons.mp hopened
  refine ⟨hkey, ?_⟩
  have hadvance : (ok, s₁) = _ := hanswer
  rw [ServerState.advanceSeq_live hsess hlive'] at hadvance
  by_cases hseq : seq ≤ sess.lastSeq
  · rw [if_pos hseq] at hadvance
    obtain ⟨hok, rfl⟩ := Prod.mk.inj hadvance
    exact Or.inr ⟨hok, hseq, hrest⟩
  · rw [if_neg hseq] at hadvance
    obtain ⟨hok, rfl⟩ := Prod.mk.inj hadvance
    exact Or.inl ⟨hok, Nat.lt_of_not_le hseq, hrest⟩

theorem through_setVerdict {verdict : Verdict}
    (h : Through (ServerStep C identity) s [.did (.setVerdict deviceId verdict) ()] s') :
    s'.sessions = s.sessions ∧ s'.buf = s.buf := by
  obtain ⟨s₁, rfl, hend⟩ := through_cons.mp h
  obtain rfl := through_nil.mp hend
  exact ⟨rfl, rfl⟩

/-- A message that was accepted and appended nothing. -/
theorem Judged.empty {d : Delivery} {seq : Nat} {plaintext : Bytes} {now t t' : Time} {key : Bytes}
    {rest : List (Event Server)}
    (hopen : openData C sess.key d.msg = .ok (seq, plaintext)) (higher : sess.lastSeq < seq)
    (hevents : d.events = dataAdvanced deviceId now t key seq t' true ++ rest)
    (hrest : appendedBy deviceId rest = [])
    (hnone : carried rt C deviceId sess.key d.now d.msg = [])
    (hsessions : s'.sessions = (s.advanced deviceId sess seq).sessions) (hbuf : s'.buf = s.buf) :
    Judged rt C deviceId s sess d s' := by
  have hadmits : admitted deviceId d.events = true := by
    simp [hevents, dataAdvanced, dataRead, admitted]
  have hnothing : appendedBy deviceId d.events = [] := by
    rw [hevents, appendedBy, List.flatMap_append, ← appendedBy, ← appendedBy, hrest]
    rfl
  refine .accepted seq (genuineSeq_of_ok hopen) higher hadmits ?_ hsessions ?_
  · rw [hnothing, hnone]
  · intro hlen
    rw [hbuf, hnothing, List.append_nil, rtake_of_length_le hlen]

theorem Judged.unchanged {d : Delivery}
    (lower : ∀ seq, genuineSeq C sess.key d.msg = some seq → seq ≤ sess.lastSeq)
    (hadmits : admitted deviceId d.events = false) (happends : appendedBy deviceId d.events = [])
    (h : s'.sessions = s.sessions ∧ s'.buf = s.buf) : Judged rt C deviceId s sess d s' :=
  .rejected lower hadmits happends h.1 h.2

/-- **One message** on a session in its lifetime. -/
theorem onData_judged {d : Delivery} {conn conn' : Connection} {r : Except PyError Unit}
    (h : EvalsP (ServerStep C identity) (onData rt C deviceId d.msg) conn s d.events r conn' s')
    (hnow : d.events.head? = some (.did .time d.now)) (hsess : s.sessions deviceId = some sess)
    (hlive : ∀ ev ∈ d.events, InTime sess.expires ev) : Judged rt C deviceId s sess d s' := by
  obtain ⟨msg, now₀, events⟩ := d
  have hspec := h.sound (onData_spec conn)
  have hthrough := h.through
  dsimp only at hspec hthrough hnow hlive
  cases r with
  | ok _ =>
    obtain ⟨-, hhandled⟩ := hspec
    cases hhandled with
    | noSession now t =>
      obtain ⟨s₁, rfl, hrest⟩ := through_cons.mp hthrough
      obtain ⟨s₂, hanswer, -⟩ := through_cons.mp hrest
      have hlooked : (none, s₂) = _ := hanswer
      have ht : t ≤ sess.expires := hlive (.did (.sessionKey deviceId) (t, none)) (by simp)
      rw [ServerState.sessionKey_live hsess ht] at hlooked
      cases hlooked
    | undecrypted now t key hopen caught =>
      have ht : t ≤ sess.expires := hlive (.did (.sessionKey deviceId) (t, some key))
        (by simp [dataRead])
      obtain ⟨rfl, hrest⟩ := through_dataRead hsess ht hthrough
      refine .unchanged ?_ rfl rfl (through_setVerdict hrest)
      intro seq hseq
      rw [genuineSeq_of_error hopen] at hseq
      cases hseq
    | @replayed now t key seq plaintext t' hopen =>
      have ht : t ≤ sess.expires := hlive (.did (.sessionKey deviceId) (t, some key))
        (by simp [dataAdvanced, dataRead])
      have ht' : t' ≤ sess.expires := hlive (.did (.advanceSeq deviceId seq) (t', false))
        (by simp [dataAdvanced])
      obtain ⟨rfl, ⟨hok, -⟩ | ⟨-, hlower, hrest⟩⟩ := through_dataAdvanced hsess ht ht' hthrough
      · cases hok
      · refine .unchanged ?_ rfl rfl (through_setVerdict hrest)
        intro seq' hseq'
        rw [genuineSeq_of_ok hopen] at hseq'
        exact Option.some.inj hseq' ▸ hlower
    | @unparsed now t key seq plaintext t' hopen e hload caught =>
      have ht : t ≤ sess.expires := hlive (.did (.sessionKey deviceId) (t, some key))
        (by simp [dataAdvanced, dataRead])
      have ht' : t' ≤ sess.expires := hlive (.did (.advanceSeq deviceId seq) (t', true))
        (by simp [dataAdvanced])
      obtain ⟨rfl, ⟨-, higher, hrest⟩ | ⟨hok, -⟩⟩ := through_dataAdvanced hsess ht ht' hthrough
      · obtain ⟨hsessions, hbuf⟩ := through_setVerdict hrest
        refine .empty hopen higher rfl rfl ?_ hsessions hbuf
        simp only [carried, hopen, hload]
      · cases hok
    | @accepted now t key seq plaintext t' hopen payload hload samples hsamples =>
      have ht : t ≤ sess.expires := hlive (.did (.sessionKey deviceId) (t, some key))
        (by simp [dataAdvanced, dataRead])
      have ht' : t' ≤ sess.expires := hlive (.did (.advanceSeq deviceId seq) (t', true))
        (by simp [dataAdvanced])
      obtain rfl : now = now₀ := by simpa [dataAdvanced, dataRead] using hnow
      obtain ⟨rfl, ⟨-, higher, hrest⟩ | ⟨hok, -⟩⟩ := through_dataAdvanced hsess ht ht' hthrough
      · obtain ⟨s₁, rfl, hend⟩ := through_cons.mp hrest
        obtain rfl := through_nil.mp hend
        have happended : appendedBy deviceId (dataAdvanced deviceId now t sess.key seq t' true ++
            [.did (.extendBuffer deviceId samples (.verified now)) ()]) = samples := by
          simp [appendedBy, dataAdvanced, dataRead]
        refine .accepted seq (genuineSeq_of_ok hopen) higher ?_ ?_ rfl ?_
        · simp [dataAdvanced, dataRead, admitted]
        · simp only [happended, carried, hopen, hload, hsamples]
          rfl
        · intro _
          rw [happended]
          exact Function.update_self ..
      · cases hok
  | error e =>
    obtain ⟨-, hescapes⟩ := hspec
    cases hescapes with
    | undecrypted now t key hopen uncaught =>
      have ht : t ≤ sess.expires := hlive (.did (.sessionKey deviceId) (t, some key))
        (by simp [dataRead])
      rw [← List.append_nil (dataRead ..)] at hthrough
      obtain ⟨rfl, hrest⟩ := through_dataRead hsess ht hthrough
      obtain rfl := through_nil.mp hrest
      refine .unchanged ?_ rfl rfl ⟨rfl, rfl⟩
      intro seq hseq
      rw [genuineSeq_of_error hopen] at hseq
      cases hseq
    | @unparsed now t key seq plaintext t' hopen e hload uncaught =>
      have ht : t ≤ sess.expires := hlive (.did (.sessionKey deviceId) (t, some key))
        (by simp [dataAdvanced, dataRead])
      have ht' : t' ≤ sess.expires := hlive (.did (.advanceSeq deviceId seq) (t', true))
        (by simp [dataAdvanced])
      rw [← List.append_nil (dataAdvanced ..)] at hthrough
      obtain ⟨rfl, ⟨-, higher, hrest⟩ | ⟨hok, -⟩⟩ := through_dataAdvanced hsess ht ht' hthrough
      · obtain rfl := through_nil.mp hrest
        refine .empty hopen higher (List.append_nil _).symm rfl ?_ rfl rfl
        simp only [carried, hopen, hload]
      · cases hok
    | @samples now t key seq plaintext t' hopen payload hload e hsamples =>
      have ht : t ≤ sess.expires := hlive (.did (.sessionKey deviceId) (t, some key))
        (by simp [dataAdvanced, dataRead])
      have ht' : t' ≤ sess.expires := hlive (.did (.advanceSeq deviceId seq) (t', true))
        (by simp [dataAdvanced])
      obtain rfl : now = now₀ := by simpa [dataAdvanced, dataRead] using hnow
      rw [← List.append_nil (dataAdvanced ..)] at hthrough
      obtain ⟨rfl, ⟨-, higher, hrest⟩ | ⟨hok, -⟩⟩ := through_dataAdvanced hsess ht ht' hthrough
      · obtain rfl := through_nil.mp hrest
        refine .empty hopen higher (List.append_nil _).symm rfl ?_ rfl rfl
        simp only [carried, hopen, hload, hsamples]
        rfl
      · cases hok

/-! ## A list of messages -/

/-- The numbers of the genuine ones. -/
def genuineSeqs (C : CryptoLib) (key : Bytes) (ds : List Delivery) : List Nat :=
  ds.filterMap fun d => genuineSeq C key d.msg

/-- What a list of messages does on a session. -/
structure Replayed (rt : Runtime) (C : CryptoLib) (identity : Point) (deviceId : Text)
    (sess : DeviceSession) (ds : List Delivery) (s s' : ServerState) : Prop where
  /-- the accepted ones are the running maxima of the genuine ones -/
  maxima : ∀ pre d post, ds = pre ++ d :: post → (admitted deviceId d.events = true ↔
    ∃ seq, genuineSeq C sess.key d.msg = some seq ∧ sess.lastSeq < seq ∧
      ∀ seq' ∈ genuineSeqs C sess.key pre, seq' < seq)
  /-- what is appended is theirs, in their order -/
  appended : ds.flatMap (fun d => appendedBy deviceId d.events) =
    (ds.filter fun d => admitted deviceId d.events).flatMap
      fun d => carried rt C deviceId sess.key d.now d.msg
  buf : (s.buf deviceId).length ≤ maxBuffer → s'.buf deviceId =
    (s.buf deviceId ++ ds.flatMap fun d => appendedBy deviceId d.events).rtake maxBuffer
  lastSeq : s'.sessions deviceId =
    some { sess with lastSeq := (genuineSeqs C sess.key ds).foldl max sess.lastSeq }
  /-- a rejected one leaves the sessions and the buffers alone -/
  rejected : ∀ pre d post, ds = pre ++ d :: post → admitted deviceId d.events = false →
    ∃ s₁ s₂, Processed rt C identity deviceId pre s s₁ ∧
      Processed rt C identity deviceId [d] s₁ s₂ ∧ Processed rt C identity deviceId post s₂ s' ∧
      s₂.sessions = s₁.sessions ∧ s₂.buf = s₁.buf

/-- One message more, in front. `above` is what it leaves the rest to be compared with. -/
theorem Replayed.cons {d : Delivery} {ds : List Delivery} {s₁ : ServerState} {n : Nat}
    {conn conn' : Connection} {r : Except PyError Unit}
    (hfirst : EvalsP (ServerStep C identity) (onData rt C deviceId d.msg) conn s d.events r conn' s₁)
    (hnow : d.events.head? = some (.did .time d.now))
    (hrest : Processed rt C identity deviceId ds s₁ s')
    (judged : Judged rt C deviceId s sess d s₁)
    (above : n = (genuineSeq C sess.key d.msg).elim sess.lastSeq (max sess.lastSeq))
    (ih : Replayed rt C identity deviceId { sess with lastSeq := n } ds s₁ s') :
    Replayed rt C identity deviceId sess (d :: ds) s s' := by
  have hbelow : ∀ m, n < m ↔ sess.lastSeq < m ∧
      ∀ seq', genuineSeq C sess.key d.msg = some seq' → seq' < m := by
    intro m
    rw [above]
    cases genuineSeq C sess.key d.msg <;> simp
  constructor
  · intro pre d' post hsplit
    cases pre with
    | nil =>
      obtain ⟨rfl, rfl⟩ := List.cons.inj hsplit
      cases judged with
      | accepted seq genuine higher admits _ _ _ =>
        exact ⟨fun _ => ⟨seq, genuine, higher, nofun⟩, fun _ => admits⟩
      | rejected lower admits _ _ _ =>
        constructor
        · intro hadmits
          rw [admits] at hadmits
          cases hadmits
        · rintro ⟨seq, genuine, higher, -⟩
          exact absurd (lower seq genuine) (Nat.not_le.mpr higher)
    | cons p pre =>
      obtain ⟨rfl, rfl⟩ := List.cons.inj hsplit
      rw [ih.maxima pre d' post rfl]
      refine exists_congr fun seq => and_congr_right fun _ => ?_
      rw [hbelow seq, and_assoc]
      refine and_congr_right fun _ => ?_
      unfold genuineSeqs
      cases hseq : genuineSeq C sess.key d.msg <;> simp [hseq]
  · simp only [List.flatMap_cons]
    rw [ih.appended, List.filter_cons]
    cases judged with
    | accepted _ _ _ admits appends _ _ => simp only [admits, if_true, appends, List.flatMap_cons]
    | rejected _ admits appends _ _ => simp [admits, appends]
  · intro hlen
    simp only [List.flatMap_cons]
    cases judged with
    | accepted _ _ _ _ _ _ buf =>
      have hlen₁ : (s₁.buf deviceId).length ≤ maxBuffer := buf hlen ▸ length_rtake_le _ _
      rw [ih.buf hlen₁, buf hlen, rtake_append_rtake, List.append_assoc]
    | rejected _ _ appends _ hbuf =>
      rw [ih.buf (hbuf ▸ hlen), hbuf, appends, List.nil_append]
  · rw [ih.lastSeq, above]
    unfold genuineSeqs
    cases hseq : genuineSeq C sess.key d.msg <;> simp [hseq]
  · intro pre d' post hsplit hadmits
    cases pre with
    | nil =>
      obtain ⟨rfl, rfl⟩ := List.cons.inj hsplit
      cases judged with
      | accepted _ _ _ admits _ _ _ =>
        rw [admits] at hadmits
        cases hadmits
      | rejected _ _ _ hsessions hbuf =>
        exact ⟨s, s₁, .nil s, .cons hfirst hnow (.nil s₁), hrest, hsessions, hbuf⟩
    | cons p pre =>
      obtain ⟨rfl, rfl⟩ := List.cons.inj hsplit
      obtain ⟨t₁, t₂, hbefore, hthis, hafter, hsame⟩ := ih.rejected pre d' post rfl hadmits
      exact ⟨t₁, t₂, .cons hfirst hnow hbefore, hthis, hafter, hsame⟩

/-- **Anti-replay accepts exactly the running maxima**, of any list of messages on a session that
does not expire meanwhile. -/
theorem accepts_running_maxima {ds : List Delivery}
    (run : Processed rt C identity deviceId ds s s') (hsess : s.sessions deviceId = some sess)
    (hlive : ∀ d ∈ ds, ∀ ev ∈ d.events, InTime sess.expires ev) :
    Replayed rt C identity deviceId sess ds s s' := by
  induction run generalizing sess with
  | nil s =>
    constructor
    · intro pre d post hsplit
      simp at hsplit
    · rfl
    · intro hlen
      rw [List.flatMap_nil, List.append_nil, rtake_of_length_le hlen]
    · exact hsess
    · intro pre d post hsplit
      simp at hsplit
  | @cons d ds s s₁ s' conn conn' r hfirst hnow rest ih =>
    have judged : Judged rt C deviceId s sess d s₁ :=
      onData_judged hfirst hnow hsess (hlive d List.mem_cons_self)
    have hrest : ∀ d ∈ ds, ∀ ev ∈ d.events, InTime sess.expires ev := fun d hd =>
      hlive d (List.mem_cons_of_mem _ hd)
    refine Replayed.cons hfirst hnow rest judged rfl (ih ?_ hrest)
    cases judged with
    | accepted seq genuine higher _ _ sessions _ =>
      rw [sessions, genuine, Function.update_self]
      simp [Nat.max_eq_right (Nat.le_of_lt higher)]
    | rejected lower _ _ sessions _ =>
      rw [sessions, hsess]
      cases hseq : genuineSeq C sess.key d.msg with
      | none => rfl
      | some seq => simp [Nat.max_eq_left (lower seq hseq)]

/-- A message that was sealed under the session's key opens: the one the TA's nonce, ciphertext and
number were put into. -/
theorem openData_sealed {key nonce sealed plaintext : Bytes} {seq : Nat}
    {fields : List (Text × JsonValue)} (hpos : 0 < seq) (hmax : seq ≤ 0xFFFFFFFF)
    (hnonce : JsonValue.field? fields "nonce".toList = some (.str (b64e nonce)))
    (hsealed : JsonValue.field? fields "ciphertext".toList = some (.str (b64e sealed)))
    (hseq : JsonValue.field? fields "seq".toList = some (.int seq))
    (hopens : C.aeadDecrypt key nonce sealed (Bytes.toBE seqAadSize seq) = .ok plaintext) :
    openData C key (.obj fields) = .ok (seq, plaintext) := by
  have hnumber : seqOf (.int seq) = some seq := by
    have hrange : ¬ ((seq : Int) ≤ 0 ∨ (seq : Int) > 0xFFFFFFFF) := by omega
    exact if_neg hrange
  unfold openData
  simp only [JsonValue.subscript, hnonce, hsealed, hseq, ok_bind, b64d_b64e, hnumber, hopens]
  rfl

end

namespace Vectors

/-- The session of the first handshake, with nothing accepted yet. -/
def liveSession : DeviceSession := ⟨sessionKey, deviceSessionTtl, 0⟩

def inSession : ServerState where
  registry := enrolled
  pending _ := none
  sessions id := if id = deviceName then some liveSession else none
  buf _ := []
  verdict _ := none

/-- `_on_data` on one message after another, at the first desk. -/
def deliver : List JsonValue → ServerState → List Delivery × ServerState
  | [], s => ([], s)
  | msg :: rest, s =>
    let handled := serve (firstDesk.serve lib) ((onData python lib deviceName msg).go .accepted) s
    let later := deliver rest handled.2.2
    (⟨msg, 0, handled.1⟩ :: later.1, later.2)

theorem deliver_processed (msgs : List JsonValue) (s : ServerState)
    (hok : ((deliver msgs s).1.all fun d => d.events.all (signsRight lib serverIdentity.pub)) = true) :
    Processed python lib serverIdentity.pub deviceName (deliver msgs s).1 s (deliver msgs s).2 := by
  induction msgs generalizing s with
  | nil => exact .nil s
  | cons msg rest ih =>
    obtain ⟨hfirst, hrest⟩ := Bool.and_eq_true_iff.mp hok
    exact .cons (serve_evals (firstDesk.serve_step (C := lib)) hfirst) rfl (ih _ hrest)

theorem deliver_inTime (msgs : List JsonValue) (s : ServerState) :
    ∀ d ∈ (deliver msgs s).1, ∀ ev ∈ d.events, InTime deviceSessionTtl ev := by
  induction msgs generalizing s with
  | nil => exact nofun
  | cons msg rest ih =>
    intro d hd
    rcases List.mem_cons.mp hd with rfl | hd
    · refine serve_forall ?_
      intro t c
      cases c with
      | req r => cases r
      | act a =>
        have hclock : firstDesk.clock ≤ deviceSessionTtl := by decide
        cases a with
        | sessionKey id => exact hclock
        | advanceSeq id seq => exact hclock
        | _ => trivial
    · exact ih _ d hd

/-- The first reading, the same message again, the second one under another number, and the second
one. -/
def received : List Delivery × ServerState :=
  deliver [.obj firstData, .obj firstData, .obj (secondData.map fun f =>
    if f.1 = "seq".toList then (f.1, .int 7) else f), .obj secondData] inSession

end Vectors

theorem accepts_running_maxima_played :
    (Vectors.received.1.map fun d => admitted Vectors.deviceName d.events) =
        [true, false, false, true] ∧
      Replayed Vectors.python Vectors.lib Vectors.serverIdentity.pub Vectors.deviceName
        Vectors.liveSession Vectors.received.1 Vectors.inSession Vectors.received.2 :=
  ⟨by decide +kernel, accepts_running_maxima (Vectors.deliver_processed _ _ (by decide +kernel))
    (by decide +kernel) (Vectors.deliver_inTime _ _)⟩

end ConfidentialIoT
