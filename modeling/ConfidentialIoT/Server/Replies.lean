import ConfidentialIoT.Server.Traffic

/-!
# `Server/Replies.lean` — one reply per line

The runs of the link: any number of connections, whose handlers interleave their steps. Where no
exception escapes (`NoEscape`), a line gets one reply and a connection ends only at the end of its
input. The handler does not catch everything its callees raise: a quote that is cut off inside a
field is a `struct.error`, which is neither an `AttestationError` nor a `KeyError`, and the
connection is dropped without a word (`truncated_quote_drops_connection`).
-/

set_option autoImplicit false

namespace ConfidentialIoT

open Effects

/-! ## Replies -/

section

variable {rt : Runtime} {C : CryptoLib} {identity : Point}

/-- What a history writes. -/
def repliesOf (tr : List (Event Server)) : List JsonValue := tr.filterMap fun
  | .did (.writeline reply) _ => some reply
  | _ => none

theorem repliesOf_append (tr tr' : List (Event Server)) :
    repliesOf (tr ++ tr') = repliesOf tr ++ repliesOf tr' := List.filterMap_append

/-- The steps of the verifier write nothing. -/
theorem repliesOf_vetting {deviceId : Text} (v : Vetting C deviceId) : repliesOf v.events = [] := rfl

theorem repliesOf_drawn {deviceId : Text} {challenge : PendingChallenge} {tr : List (Event Server)}
    (h : Drawn deviceId challenge tr) : repliesOf tr = [] := by
  obtain ⟨record, nonce, -, rfl⟩ := h
  rfl

theorem repliesOf_failure {deviceId : Text} {msg : JsonValue} {tr : List (Event Server)} {e : PyError}
    (h : AttestFailure C deviceId msg tr e) : repliesOf tr = [] := by
  cases h with
  | field _ => rfl
  | verify _ failure =>
    cases failure with
    | notRegistered => rfl
    | noPending _ => rfl
    | answered h => cases h <;> rfl

theorem repliesOf_data {deviceId : Text} {msg : JsonValue} {tr : List (Event Server)}
    (h : DataHandled rt C deviceId msg tr) : repliesOf tr = [] := by
  cases h <;> rfl

/-- A line that is handled gets one reply. -/
theorem Handled.one_reply {conn conn' : Connection} {line : Bytes} {tr : List (Event Server)}
    (h : Handled rt C identity conn line tr conn') : ∃ reply, repliesOf tr = [reply] := by
  cases h with
  | badJson _ _ => exact ⟨_, rfl⟩
  | challenged _ _ drawn =>
    rw [repliesOf_append, repliesOf_drawn drawn]
    exact ⟨_, rfl⟩
  | unknownDevice _ _ => exact ⟨_, rfl⟩
  | attestUnnamed _ _ => exact ⟨_, rfl⟩
  | attested _ _ v _ _ _ _ =>
    rw [repliesOf_append, repliesOf_vetting]
    exact ⟨_, rfl⟩
  | attestRefused _ _ failure _ =>
    rw [repliesOf_append, repliesOf_failure failure]
    exact ⟨_, rfl⟩
  | dataUnnamed _ _ => exact ⟨_, rfl⟩
  | data _ _ handled =>
    rw [repliesOf_append, repliesOf_data handled]
    exact ⟨_, rfl⟩
  | unknownType _ _ => exact ⟨_, rfl⟩

end

/-! ## What escapes -/

section

variable (rt : Runtime) (C : CryptoLib)

/-- Whether `verify_and_derive` raises something its caller does not catch, on the record, the
challenge and the verdicts of the signature checks it was answered with. -/
def answerEscapes (response : AttestResponse) : List (Event Server) → Bool
  | .did (.lookup _) (some record) :: .did (.popPending _) (some pending) :: .did .time now :: rest =>
    if attestChallengeTtl < now - pending.issuedAt then false
    else
      match present C.toCrypto response with
      | .error e => !attestCatches e
      | .ok p =>
        match loadAk C record, rest with
        | .error e, _ => !attestCatches e
        | .ok _, .did (.ecVerify _ _ _ _) true :: rest =>
          match matchRecord C record pending p, rest with
          | .error e, _ => !attestCatches e
          | .ok _, .did (.ecVerify _ _ _ _) true :: _ =>
            match deviceKey C pending p.devicePub with
            | .error e => !attestCatches e
            | .ok _ => false
          | .ok _, _ => false
        | .ok _, _ => false
  | _ => false

/-- Whether `_on_data` does, on the time, the key and the sequence check it was answered with. -/
def dataEscapes (deviceId : Text) (msg : JsonValue) : List (Event Server) → Bool
  | .did .time now :: .did (.sessionKey _) (_, some key) :: rest =>
    match openData C key msg, rest with
    | .error e, _ => !decryptCatches e
    | .ok (_, plaintext), .did (.advanceSeq _ _) (_, true) :: _ =>
      match rt.loads plaintext with
      | .error e => !loadsCatches e
      | .ok payload =>
        match payloadSamples rt deviceId now payload with
        | .error _ => true
        | .ok _ => false
    | .ok _, _ => false
  | _ => false

/-- Whether the handler of a line does. -/
def lineEscapes (conn : Connection) (line : Bytes) (log : List (Event Server)) : Bool :=
  match rt.loads line with
  | .error e => !loadsCatches e
  | .ok msg =>
    match msg.get "type".toList with
    | .error _ => true
    | .ok v =>
      match MessageType.of v with
      | .hello => match helloId rt msg with | .error _ => true | .ok _ => false
      | .attestResponse =>
        match conn.named, attestResponseOf msg with
        | none, _ => false
        | some _, .error e => !attestCatches e
        | some _, .ok response => answerEscapes C response log
      | .data =>
        match conn.named with
        | none => false
        | some deviceId => dataEscapes rt C deviceId msg log
      | .unknown type => match rt.repr (type.getD .null) with | .error _ => true | .ok _ => false

end

section

variable {rt : Runtime} {C : CryptoLib} {identity : Point} {conn conn' : Connection} {line : Bytes}
  {tr tr' : List (Event Server)}

/-- An exception that escapes `verify_and_derive` is one of the three its caller does not expect. -/
theorem AnswerFailure.escapes {deviceId : Text} {record : DeviceRecord}
    {pending : PendingChallenge} {response : AttestResponse} {now : Time} {e : PyError}
    (h : AnswerFailure C deviceId record pending response now tr e) (more : List (Event Server)) :
    answerEscapes C response (.did (.lookup deviceId) (some record) ::
      .did (.popPending deviceId) (some pending) :: .did .time now :: (tr ++ more)) =
        !attestCatches e := by
  cases h with
  | expired h => simp only [answerEscapes, if_pos h, attestCatches, Bool.not_true]
  | presented fresh h =>
    have hp : present C.toCrypto response = .error e := h
    simp only [answerEscapes, if_neg (Int.not_lt.mpr fresh), hp]
  | ak fresh hp h =>
    simp only [answerEscapes, if_neg (Int.not_lt.mpr fresh), present_eq_ok.mpr hp, h]
  | quote fresh hp hak =>
    simp only [answerEscapes, if_neg (Int.not_lt.mpr fresh), present_eq_ok.mpr hp, hak,
      List.cons_append, attestCatches, Bool.not_true]
  | matched fresh hp hak h =>
    simp only [answerEscapes, if_neg (Int.not_lt.mpr fresh), present_eq_ok.mpr hp, hak, h,
      List.cons_append]
  | ta fresh hp hak hq =>
    simp only [answerEscapes, if_neg (Int.not_lt.mpr fresh), present_eq_ok.mpr hp, hak,
      matchRecord_eq_ok.mpr hq, List.cons_append, attestCatches, Bool.not_true]
  | key fresh hp hak hq h =>
    simp only [answerEscapes, if_neg (Int.not_lt.mpr fresh), present_eq_ok.mpr hp, hak,
      matchRecord_eq_ok.mpr hq, List.cons_append, h]

theorem VerifyFailure.escapes {deviceId : Text} {response : AttestResponse} {e : PyError}
    (h : VerifyFailure C deviceId response tr e) (more : List (Event Server)) :
    answerEscapes C response (tr ++ more) = !attestCatches e := by
  cases h with
  | notRegistered => rfl
  | noPending _ => rfl
  | answered h => exact h.escapes more

theorem Vetting.no_escape {deviceId : Text} (v : Vetting C deviceId) {key : Bytes}
    (hkey : deviceKey C v.pending v.presented.devicePub = .ok key) (more : List (Event Server)) :
    answerEscapes C v.response (v.events ++ more) = false := by
  simp only [Vetting.events, Vetting.checks, List.cons_append, answerEscapes,
    if_neg (Int.not_lt.mpr v.fresh), present_eq_ok.mpr v.presents, v.ak,
    matchRecord_eq_ok.mpr v.matched, hkey]

theorem DataHandled.no_escape {deviceId : Text} {msg : JsonValue}
    (h : DataHandled rt C deviceId msg tr) (more : List (Event Server)) :
    dataEscapes rt C deviceId msg (tr ++ more) = false := by
  cases h with
  | noSession now t => rfl
  | undecrypted now t key h caught =>
    simp only [dataRead, List.cons_append, dataEscapes, h, caught, Bool.not_true]
  | replayed now t key t' h =>
    simp only [dataAdvanced, dataRead, List.cons_append, dataEscapes, h]
    rfl
  | unparsed now t key t' h hload caught =>
    simp only [dataAdvanced, dataRead, List.cons_append, List.nil_append, dataEscapes, h, hload,
      caught, Bool.not_true]
  | accepted now t key t' h hload hsamples =>
    simp only [dataAdvanced, dataRead, List.cons_append, List.nil_append, dataEscapes, h, hload,
      hsamples]

theorem DataEscapes.escapes {deviceId : Text} {msg : JsonValue}
    (h : DataEscapes rt C deviceId msg tr) (more : List (Event Server)) :
    dataEscapes rt C deviceId msg (tr ++ more) = true := by
  cases h with
  | undecrypted now t key h uncaught =>
    simp only [dataRead, List.cons_append, dataEscapes, h, uncaught, Bool.not_false]
  | unparsed now t key t' h hload uncaught =>
    simp only [dataAdvanced, dataRead, List.cons_append, List.nil_append, dataEscapes, h, hload,
      uncaught, Bool.not_false]
  | samples now t key t' h hload hsamples =>
    simp only [dataAdvanced, dataRead, List.cons_append, List.nil_append, dataEscapes, h, hload,
      hsamples]

theorem Handled.no_escape (h : Handled rt C identity conn line tr conn') :
    lineEscapes rt C conn line tr = false := by
  cases h with
  | badJson h caught => simp only [lineEscapes, h, caught, Bool.not_true]
  | challenged h hid drawn =>
    obtain ⟨hload, v, hget, htype⟩ := h
    simp only [lineEscapes, hload, hget, htype, hid]
  | unknownDevice h hid =>
    obtain ⟨hload, v, hget, htype⟩ := h
    simp only [lineEscapes, hload, hget, htype, hid]
  | attestUnnamed h hname =>
    obtain ⟨hload, v, hget, htype⟩ := h
    simp only [lineEscapes, hload, hget, htype, hname]
  | attested h hname v hresponse now hkey sig =>
    obtain ⟨hload, w, hget, htype⟩ := h
    simp only [lineEscapes, hload, hget, htype, hname, hresponse]
    exact v.no_escape hkey _
  | attestRefused h hname failure caught =>
    obtain ⟨hload, v, hget, htype⟩ := h
    cases failure with
    | field h => simp only [lineEscapes, hload, hget, htype, hname, h, caught, Bool.not_true]
    | verify h failure =>
      simp only [lineEscapes, hload, hget, htype, hname, h]
      rw [failure.escapes, caught]
      rfl
  | dataUnnamed h hname =>
    obtain ⟨hload, v, hget, htype⟩ := h
    simp only [lineEscapes, hload, hget, htype, hname]
  | data h hname handled =>
    obtain ⟨hload, v, hget, htype⟩ := h
    simp only [lineEscapes, hload, hget, htype, hname]
    exact handled.no_escape _
  | unknownType h hrepr =>
    obtain ⟨hload, v, hget, htype⟩ := h
    simp only [lineEscapes, hload, hget, htype, hrepr]

theorem Escapes.escapes (h : Escapes rt C conn line tr) (more : List (Event Server)) :
    lineEscapes rt C conn line (tr ++ more) = true := by
  cases h with
  | badJson h uncaught => simp only [lineEscapes, h, uncaught, Bool.not_false]
  | notADict h htype => simp only [lineEscapes, h, htype]
  | hello h hid =>
    obtain ⟨hload, v, hget, htype⟩ := h
    simp only [lineEscapes, hload, hget, htype, hid]
  | attest h hname failure uncaught =>
    obtain ⟨hload, v, hget, htype⟩ := h
    cases failure with
    | field h => simp only [lineEscapes, hload, hget, htype, hname, h, uncaught, Bool.not_false]
    | verify h failure =>
      simp only [lineEscapes, hload, hget, htype, hname, h]
      rw [failure.escapes, uncaught]
      rfl
  | data h hname escapes =>
    obtain ⟨hload, v, hget, htype⟩ := h
    simp only [lineEscapes, hload, hget, htype, hname]
    exact escapes.escapes _
  | unknownType h hrepr =>
    obtain ⟨hload, v, hget, htype⟩ := h
    simp only [lineEscapes, hload, hget, htype, hrepr]

/-- A line gets its one reply, and leaves the connection open, when nothing escapes. -/
theorem Served.one_reply_iff
    (h : Served rt C identity conn (.line (some line)) tr conn') (live : conn.closed = false) :
    (∃ reply, repliesOf tr = [reply]) ∧ conn'.closed = false ↔
      lineEscapes rt C conn line tr = false := by
  cases h with
  | closed _ h => exact absurd h (by simp [live])
  | handled _ h =>
    constructor
    · intro _
      exact h.no_escape
    · intro _
      exact ⟨h.one_reply, h.closed_eq ▸ live⟩
  | escaped _ h _ =>
    constructor
    · intro hopen
      cases hopen.2
    · intro hno
      rw [h.escapes] at hno
      cases hno

end

section

variable {rt : Runtime} {C : CryptoLib} {identity : Point} {ι : Type}

/-- The steps without the defect: nothing that a line's handler calls raises what the handler does
not catch. -/
def NoEscape (_ : Pool.Config (linkMachine rt C identity) ι ServerState) :
    Pool.Label (linkMachine rt C identity) ι → Prop
  | .returned _ (.line (some line)) conn log _ =>
    conn.closed = false → lineEscapes rt C conn line log = false
  | _ => True

/-- Whether a step is one of these. -/
def admitsNoEscape (rt : Runtime) (C : CryptoLib) (identity : Point)
    (_ : Pool.Config (linkMachine rt C identity) ι ServerState) :
    Pool.Label (linkMachine rt C identity) ι → Bool
  | .returned _ (.line (some line)) conn log _ => conn.closed || !lineEscapes rt C conn line log
  | _ => true

theorem noEscape_of_admits (c : Pool.Config (linkMachine rt C identity) ι ServerState)
    (l : Pool.Label (linkMachine rt C identity) ι)
    (h : admitsNoEscape rt C identity c l = true) : NoEscape c l := by
  unfold NoEscape
  split
  · intro live
    simpa [admitsNoEscape, live] using h
  · trivial

end

/-- **Every line gets exactly one reply**, in every run in which nothing escapes the handler, of
any number of connections.

* A line that is taken off an open connection gets one reply, and the connection stays open.
* What a connection does is what its jobs do, one after the other, so the replies come in the
  order of the lines.
* A connection is closed only at the end of its input. -/
theorem one_reply_per_line (rt : Runtime) (C : CryptoLib) (identity : Point) {ι : Type}
    [DecidableEq ι] (registry : Registry) {ls : List (Pool.Label (linkMachine rt C identity) ι)}
    {c : Pool.Config (linkMachine rt C identity) ι ServerState}
    (run : Pool.Run (fun _ => ServerStep C identity) NoEscape
      (linkStarted rt C identity ι registry) ls c) :
    (∀ i line conn log out, .returned i (.line (some line)) conn log out ∈ ls →
      conn.closed = false →
      (∃ reply, repliesOf log = [reply]) ∧ out.1 = .ok () ∧ out.2.closed = false) ∧
    (∀ i, Pool.eventsOf i ls = (Pool.returnedLogs i ls).flatten ++ (c.agents i).log) ∧
    (∀ i, (c.agents i).mem.closed = true →
      ∃ conn log out, .returned i (.line none) conn log out ∈ ls) := by
  refine ⟨?_, ?_, ?_⟩
  · intro i line conn log out hmem live
    obtain ⟨hok, hserved⟩ := returned_served run hmem
    obtain ⟨c₁, hnone⟩ := run.admitted _ hmem
    obtain ⟨hreply, hopen⟩ := (hserved.one_reply_iff live).mpr (hnone live)
    exact ⟨hreply, hok, hopen⟩
  · exact run.eventsOf_eq serving_quiet
  · intro i hclosed
    cases ended_of_closed run hclosed with
    | input h => exact ⟨_, _, _, h⟩
    | exception h live hpre escapes =>
      obtain ⟨c₁, hnone⟩ := run.admitted _ h
      obtain ⟨more, rfl⟩ := hpre
      have hescapes := escapes.escapes more
      rw [hnone live] at hescapes
      cases hescapes

namespace Vectors

/-- The device's connection: a challenge, its answer, a reading, and the end. -/
def oneReading : List (Pool.Label deviceLink (Fin 1)) × Pool.Config deviceLink (Fin 1) ServerState :=
  playAdmitted lib serverIdentity.pub (admitsNoEscape python lib serverIdentity.pub)
    (fun _ _ => firstDesk) (linkStarted python lib serverIdentity.pub (Fin 1) enrolled) (
    byItself 0 (takes (helloMessage deviceName)) ++
    byItself 0 (takes (attestMessage genuineAnswer)) ++
    byItself 0 (takes firstData) ++ byItself 0 ends)

theorem oneReading_run : Pool.Run (fun _ => ServerStep lib serverIdentity.pub) NoEscape
    (linkStarted python lib serverIdentity.pub (Fin 1) enrolled) oneReading.1 oneReading.2 :=
  playAdmitted_run _ _ _ noEscape_of_admits

/-- A connection that answers its challenge with a quote that ends inside a field. -/
def droppedConnection :
    List (Pool.Label deviceLink (Fin 1)) × Pool.Config deviceLink (Fin 1) ServerState :=
  playServer lib serverIdentity.pub (fun _ _ => firstDesk)
    (linkStarted python lib serverIdentity.pub (Fin 1) enrolled) (
    byItself 0 (takes (helloMessage deviceName)) ++
    byItself 0 (takes (attestMessage truncatedAnswer)))

theorem droppedConnection_run : Pool.Run (fun _ => ServerStep lib serverIdentity.pub) Pool.Any
    (linkStarted python lib serverIdentity.pub (Fin 1) enrolled) droppedConnection.1
      droppedConnection.2 := playServer_run ..

end Vectors

/-- The device's connection, played: three lines, three replies, and closed at its end. -/
theorem one_reply_per_line_played :
    (repliesOf (Pool.eventsOf 0 Vectors.oneReading.1)).length = 3 ∧
      (Vectors.oneReading.2.agents 0).mem.closed = true ∧
      ∃ conn log out, .returned 0 (.line none) conn log out ∈ Vectors.oneReading.1 := by
  obtain ⟨hreplies, hclosed⟩ : (repliesOf (Pool.eventsOf 0 Vectors.oneReading.1)).length = 3 ∧
      (Vectors.oneReading.2.agents 0).mem.closed = true := by decide +kernel
  exact ⟨hreplies, hclosed, (one_reply_per_line _ _ _ _ Vectors.oneReading_run).2.2 0 hclosed⟩

/-- The shape of a run: how many replies each of its jobs wrote, and whether it left the connection
closed. -/
def replyCounts {ι : Type} [DecidableEq ι] {rt : Runtime} {C : CryptoLib} {identity : Point} (i : ι)
    (ls : List (Pool.Label (linkMachine rt C identity) ι)) : List (Nat × Bool) :=
  ls.filterMap fun
    | .returned j _ _ log out => if j = i then some ((repliesOf log).length, out.2.closed) else none
    | _ => none

/-- A quote cut off inside a field: no reply, and the connection is closed before its input
ends. -/
theorem truncated_quote_drops_connection :
    replyCounts 0 Vectors.droppedConnection.1 = [(1, false), (0, true)] ∧
      Pool.Run (fun _ => ServerStep Vectors.lib Vectors.serverIdentity.pub) Pool.Any
        (linkStarted Vectors.python Vectors.lib Vectors.serverIdentity.pub (Fin 1) Vectors.enrolled)
        Vectors.droppedConnection.1 Vectors.droppedConnection.2 :=
  ⟨by decide +kernel, Vectors.droppedConnection_run⟩

end ConfidentialIoT
