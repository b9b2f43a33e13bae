import ConfidentialIoT.Server.Genuine
import ConfidentialIoT.Server.Replies

/-!
# `Server/Exchange.lean` — a hello and its answer, among other connections

A device has one pending challenge, whichever connection asked for it: a later `hello` replaces
it and an `attest_response` takes it. So what another connection can do to an exchange between a
`hello` and its answer is to touch that entry, and nothing else: if it is left alone, a genuine
answer is accepted (`honest_handshake_completes`).
-/

set_option autoImplicit false

namespace ConfidentialIoT

open Effects

section

variable {M : Machine Server} {ι : Type} [DecidableEq ι] {C : CryptoLib} {identity : Point}
  {P : Pool.Config M ι ServerState → Pool.Label M ι → Prop} {ls : List (Pool.Label M ι)}
  {c c' : Pool.Config M ι ServerState}

/-- A pending challenge nobody touches stays. -/
theorem pending_kept (run : Pool.Run (fun _ => ServerStep C identity) P c ls c') {deviceId : Text}
    (untouched : ∀ l ∈ ls, ¬ l.Did (TouchesPending deviceId)) :
    c'.shared.pending deviceId = c.shared.pending deviceId := by
  refine run.invariant (I := fun ls c' => (∀ l ∈ ls, ¬ l.Did (TouchesPending deviceId)) →
    c'.shared.pending deviceId = c.shared.pending deviceId) (fun _ => rfl) ?_ untouched
  intro ls c₁ l c₂ _ ih step _ untouched
  have hl : ¬ l.Did (TouchesPending deviceId) := untouched l (by simp)
  have hbefore := ih fun l' hl' => untouched l' (List.mem_append_left _ hl')
  cases step with
  | start job _ => exact hbefore
  | finish _ => exact hbefore
  | call r _ hR =>
    rcases ServerStep.pending_cases hR deviceId with ⟨-, hsame⟩ | ⟨challenge, hev, -⟩ | ⟨hev, -⟩
    · exact hsame.trans hbefore
    · exact absurd (hev ▸ rfl) hl
    · exact absurd (hev ▸ rfl) hl

end

section

variable {rt : Runtime} {C : CryptoLib} {identity : Point} {conn conn' : Connection}
  {job : LinkJob} {line : Bytes} {tr : List (Event Server)} {deviceId : Text}

/-- A `hello` that files a challenge names the device, and replies with it. -/
theorem Served.challenged {challenge : PendingChallenge} (h : Served rt C identity conn job tr conn')
    {before after : List (Event Server)} (drawn : Drawn deviceId challenge before)
    (hfiled : tr = before ++ .did (.setPending deviceId challenge) () :: after) :
    conn'.closed = false ∧ conn'.deviceId = some deviceId ∧
      after = [.did (.writeline (Reply.attestChallenge (challengeMessage identity challenge))) ()] := by
  have hmem : .did (.setPending deviceId challenge) () ∈ tr := by simp [hfiled]
  cases h with
  | closed _ _ => cases hmem
  | ended _ hangs => cases hangs <;> simp at hmem
  | notEnrolled _ => cases hmem
  | enrolled _ _ => simp at hmem
  | escaped _ h hangs =>
    rcases List.mem_append.mp hmem with hmem | hmem
    · cases h with
      | attest _ _ failure _ =>
        cases failure with
        | field _ => cases hmem
        | verify _ failure =>
          cases failure with
          | notRegistered => simp at hmem
          | noPending _ => simp at hmem
          | answered h => cases h <;> simp at hmem
      | data _ _ escapes => cases escapes <;> simp [dataAdvanced, dataRead] at hmem
      | _ => cases hmem
    · cases hangs <;> simp at hmem
  | handled live h =>
    cases h with
    | challenged _ hid drawn' =>
      obtain ⟨record, nonce, -, rfl⟩ := drawn
      obtain ⟨record', nonce', hnonce', rfl⟩ := drawn'
      obtain ⟨-, htail⟩ := List.append_inj hfiled rfl
      obtain ⟨hcall, rfl⟩ := List.cons.inj htail
      cases hcall
      exact ⟨live, rfl, rfl⟩
    | attested _ _ v _ _ _ _ => simp [Vetting.events, Vetting.checks] at hmem
    | attestRefused _ _ failure _ =>
      cases failure with
      | field _ => simp at hmem
      | verify _ failure =>
        cases failure with
        | notRegistered => simp at hmem
        | noPending _ => simp at hmem
        | answered h => cases h <;> simp at hmem
    | data _ _ handled => cases handled <;> simp [dataAdvanced, dataRead] at hmem
    | _ => simp at hmem

/-- Two readings of one line agree. -/
theorem Parses.unique {msg msg' : JsonValue} {type type' : MessageType} (h : Parses rt line msg type)
    (h' : Parses rt line msg' type') : msg = msg' ∧ type = type' := by
  obtain ⟨hload, v, hget, rfl⟩ := h
  obtain ⟨hload', v', hget', rfl⟩ := h'
  obtain rfl := Except.ok.inj (hload.symm.trans hload')
  obtain rfl := Except.ok.inj (hget.symm.trans hget')
  exact ⟨rfl, rfl⟩

/-- What an `attest_response` of a named, open connection leads to: it is accepted, or
`verify_and_derive` fails. -/
inductive Answered (C : CryptoLib) (deviceId : Text) (response : AttestResponse)
    (tr : List (Event Server)) : Prop where
  | accepted {sig : Bytes} (h : repliesOf tr = [Reply.attestAccepted sig])
  | failed {tr' more : List (Event Server)} {e : PyError}
      (failure : VerifyFailure C deviceId response tr' e) (h : tr = tr' ++ more)

theorem Served.answered (h : Served rt C identity conn (.line (some line)) tr conn')
    (live : conn.closed = false) (hname : conn.named = some deviceId) {msg : JsonValue}
    (parses : Parses rt line msg .attestResponse) {response : AttestResponse}
    (hresponse : attestResponseOf msg = .ok response) : Answered C deviceId response tr := by
  have fails : ∀ {tr' : List (Event Server)} {e : PyError} (more : List (Event Server)),
      AttestFailure C deviceId msg tr' e → Answered C deviceId response (tr' ++ more) := by
    intro tr' e more failure
    cases failure with
    | field h => cases hresponse.symm.trans h
    | verify h failure =>
      obtain rfl := Except.ok.inj (hresponse.symm.trans h)
      exact .failed failure rfl
  cases h with
  | closed _ h => exact absurd h (by simp [live])
  | escaped _ h _ =>
    cases h with
    | badJson h _ => cases parses.loads.symm.trans h
    | notADict h htype =>
      obtain rfl := Except.ok.inj (parses.loads.symm.trans h)
      obtain ⟨v, hget, -⟩ := parses.type
      cases hget.symm.trans htype
    | hello h _ => cases (parses.unique h).2
    | attest h hname' failure _ =>
      obtain ⟨rfl, -⟩ := parses.unique h
      obtain rfl := Option.some.inj (hname.symm.trans hname')
      exact fails _ failure
    | data h _ _ => cases (parses.unique h).2
    | unknownType h _ => cases (parses.unique h).2
  | handled _ h =>
    cases h with
    | badJson h _ => cases parses.loads.symm.trans h
    | challenged h _ _ => cases (parses.unique h).2
    | unknownDevice h _ => cases (parses.unique h).2
    | attestUnnamed _ h => cases hname.symm.trans h
    | attested h hname' v hresponse' now hkey sig =>
      obtain ⟨rfl, -⟩ := parses.unique h
      obtain rfl := Option.some.inj (hname.symm.trans hname')
      refine .accepted (?_ : repliesOf _ = [Reply.attestAccepted sig])
      rw [repliesOf_append, repliesOf_vetting]
      rfl
    | attestRefused h hname' failure _ =>
      obtain ⟨rfl, -⟩ := parses.unique h
      obtain rfl := Option.some.inj (hname.symm.trans hname')
      exact fails _ failure
    | dataUnnamed h _ => cases (parses.unique h).2
    | data h _ _ => cases (parses.unique h).2
    | unknownType h _ => cases (parses.unique h).2

end

/-! ## The exchange -/

section

variable {rt : Runtime} {C : CryptoLib} {identity : Point} {ι : Type} [DecidableEq ι]
  {registry : Registry}

/-- A `hello` and a later line of its connection, in a run: the challenge that was filed, what
happened until the `hello` was answered, until the line was taken, and until that was dealt with.
Lines of the connection that come in between leave the device's challenge, and the connection and
its name, alone. -/
structure Exchange (ls : List (Pool.Label (linkMachine rt C identity) ι)) (i : ι) (deviceId : Text)
    (challenge : PendingChallenge) (line : Bytes) (log : List (Event Server))
    (answering waiting serving : List (Pool.Label (linkMachine rt C identity) ι)) : Prop where
  labels : ∃ pre post hello conn₀ log₀ out₀ conn out,
    ls = pre ++ .did i (.did (.setPending deviceId challenge) ()) ::
      (answering ++ .returned i hello conn₀ log₀ out₀ ::
        (waiting ++ .started i (.line (some line)) ::
          (serving ++ .returned i (.line (some line)) conn log out :: post)))
  first : Pool.NoStart i answering
  same : Pool.NoStart i serving
  challenge : ∀ ev, .did i ev ∈ waiting → ¬ TouchesPending deviceId ev
  name : ∀ job conn log out, .returned i job conn log out ∈ waiting →
    out.2.closed = conn.closed ∧ out.2.deviceId = conn.deviceId

/-- A connection whose lines leave it and its name alone. -/
theorem name_kept {c c' : Pool.Config (linkMachine rt C identity) ι ServerState}
    {ls : List (Pool.Label (linkMachine rt C identity) ι)} {i : ι}
    (run : Pool.Run (fun _ => ServerStep C identity) Pool.Any c ls c')
    (name : ∀ job conn log out, .returned i job conn log out ∈ ls →
      out.2.closed = conn.closed ∧ out.2.deviceId = conn.deviceId) :
    (c'.agents i).mem.closed = (c.agents i).mem.closed ∧
      (c'.agents i).mem.deviceId = (c.agents i).mem.deviceId := by
  refine run.invariant (I := fun ls (c' : Pool.Config (linkMachine rt C identity) ι ServerState) =>
    (∀ job conn log out, .returned i job conn log out ∈ ls →
      out.2.closed = conn.closed ∧ out.2.deviceId = conn.deviceId) →
    (c'.agents i).mem.closed = (c.agents i).mem.closed ∧
      (c'.agents i).mem.deviceId = (c.agents i).mem.deviceId) (fun _ => ⟨rfl, rfl⟩) ?_ name
  intro ls c₁ l c₂ _ ih step _ name
  have hbefore := ih fun job conn log out h => name job conn log out (List.mem_append_left _ h)
  rcases step.mem_cases i with hsame | ⟨job, conn, log, out, rfl, hbusy, hout⟩
  · rw [hsame]
    exact hbefore
  · rw [hbusy] at hbefore
    rw [hout]
    obtain ⟨hclosed, hdevice⟩ := name job conn log out (by simp)
    exact ⟨hclosed.trans hbefore.1, hdevice.trans hbefore.2⟩

/-- Where an exchange comes through; `waiting` is all that happened until the line was taken. -/
structure Opened (ls : List (Pool.Label (linkMachine rt C identity) ι))
    (c : Pool.Config (linkMachine rt C identity) ι ServerState) (i : ι) (deviceId : Text)
    (challenge : PendingChallenge) (line : Bytes) (log : List (Event Server))
    (waiting serving : List (Pool.Label (linkMachine rt C identity) ι))
    (filed : Pool.Config (linkMachine rt C identity) ι ServerState) : Prop where
  pending : filed.shared.pending deviceId = some challenge
  registered : ∃ record, filed.shared.registry deviceId = some record
  onwards : ∃ post, Pool.Run (fun _ => ServerStep C identity) Pool.Any filed
    (waiting ++ .started i (.line (some line)) :: (serving ++ post)) c
  waited : ∀ ev ∈ Pool.eventsOf i waiting, ¬ TouchesPending deviceId ev
  served : Pool.eventsOf i serving = log
  job : ∃ conn out, conn.closed = false ∧ conn.deviceId = some deviceId ∧
    .returned i (.line (some line)) conn log out ∈ ls

/-- The job that files a challenge has drawn it. -/
theorem filed_drawn {pre : List (Pool.Label (linkMachine rt C identity) ι)}
    {c c' : Pool.Config (linkMachine rt C identity) ι ServerState}
    (run : Pool.Run (fun _ => ServerStep C identity) Pool.Any
      (linkStarted rt C identity ι registry) pre c)
    {i : ι} {deviceId : Text} {challenge : PendingChallenge}
    (step : Pool.Step (fun _ => ServerStep C identity) c
      (.did i (.did (.setPending deviceId challenge) ())) c') :
    ∃ job conn log rest, c.agents i = .busy job conn log rest ∧ Drawn deviceId challenge log := by
  obtain ⟨job, conn, _, mid, rest, -, -, hbusy, hcall⟩ :=
    run.asserted_at serving_quiet step linkMachine_code
  refine ⟨job, conn, _, rest, hbusy, ?_⟩
  cases hcall with
  | line _ _ call =>
    cases call with
    | issue _ _ call =>
      obtain ⟨rfl, h⟩ := call
      exact h
    | verify _ _ _ call => exact call.elim
    | data _ _ call => exact call.elim
    | reply h => cases h
  | hangUp _ _ _ _ call =>
    rcases call with h | ⟨_, h⟩
    · cases h
    · cases h
  | register _ _ call => cases call

theorem Exchange.opened {ls : List (Pool.Label (linkMachine rt C identity) ι)}
    {c : Pool.Config (linkMachine rt C identity) ι ServerState}
    (run : Pool.Run (fun _ => ServerStep C identity) Pool.Any
      (linkStarted rt C identity ι registry) ls c)
    {i : ι} {deviceId : Text} {challenge : PendingChallenge} {line : Bytes}
    {log : List (Event Server)}
    {answering waiting serving : List (Pool.Label (linkMachine rt C identity) ι)}
    (exchange : Exchange ls i deviceId challenge line log answering waiting serving) :
    ∃ between filed, (∀ j ev, .did j ev ∈ between → .did j ev ∈ answering ++ waiting) ∧
      Opened ls c i deviceId challenge line log between serving filed := by
  obtain ⟨⟨pre, post, hello, conn₀, log₀, out₀, conn, out, rfl⟩, first, same, hkept, hname⟩ := exchange
  have whole := run
  rw [← List.singleton_append, ← List.append_assoc] at run
  obtain ⟨c₂, before, onwards⟩ := run.split
  obtain ⟨c₁, before, step, -⟩ := before.last
  -- the hello's job, where it files the challenge
  obtain ⟨job, m, drawing, rest', hbusy, drawn⟩ := filed_drawn before step
  obtain ⟨rest₂, hfiled⟩ := step.did_agent hbusy
  -- it is the one that returns first
  obtain ⟨c₃, answers, replied⟩ := onwards.split
  obtain ⟨c₄, returns, -, idling⟩ := replied.first
  obtain ⟨hbusy₀, hidle₀⟩ := returns.of_returned
  obtain ⟨rfl, rfl, hlog₀⟩ := answers.same_job hfiled first hbusy₀
  obtain ⟨-, hhello⟩ := returned_served whole (List.mem_append_right _
    (List.mem_cons_of_mem _ (List.mem_append_right _ List.mem_cons_self)))
  obtain ⟨hopen, hnamed, hanswered⟩ := hhello.challenged drawn (hlog₀.trans (List.append_assoc ..))
  change Pool.eventsOf i answering = _ at hanswered
  -- the lines in between
  obtain ⟨c₅, waits, asked⟩ := idling.split
  obtain ⟨hclosed, hdevice⟩ := name_kept waits hname
  obtain ⟨c₆, starts, -, dealing⟩ := asked.first
  obtain ⟨m', hidle, hstart⟩ := starts.of_started
  rw [hidle₀, hidle] at hclosed hdevice
  -- and the line's job is the one that returns
  obtain ⟨c₇, serves, dealt⟩ := dealing.split
  obtain ⟨_, returns', -, -⟩ := dealt.first
  obtain ⟨hbusy', -⟩ := returns'.of_returned
  obtain ⟨-, rfl, hlog⟩ := serves.same_job hstart same hbusy'
  refine ⟨answering ++ .returned i hello conn₀ log₀ out₀ :: waiting, c₂, ?_, ?_, ?_,
    ⟨_, by simpa using onwards⟩, ?_, hlog.symm, conn, out, hclosed.trans hopen,
    hdevice.trans hnamed, by simp⟩
  · intro j ev hmem
    simpa using hmem
  · have hstep : c₂.shared = { c₁.shared with
        pending := Function.update c₁.shared.pending deviceId (some challenge) } := step.answered
    rw [hstep]
    exact Function.update_self ..
  · obtain ⟨record, nonce, -, hdrawn⟩ := drawn
    have hfact : ServerFact C identity c₁.shared (.did (.lookup deviceId) (some record)) :=
      before.facts (F := fun _ ev s => ServerFact C identity s ev) serving_quiet
        (fun _ _ _ _ _ h => .of_step h) (fun _ _ _ _ _ _ h => ServerFact.kept h)
        (Or.inl ⟨hello, conn₀, rest', hbusy⟩) _ (by simp [hdrawn])
    exact ⟨record, hfact.kept step.answered⟩
  · intro ev hev
    have hmem := Pool.mem_eventsOf.mp hev
    rcases List.mem_append.mp hmem with hmem | hmem
    · have hreply : ev ∈ Pool.eventsOf i answering := Pool.mem_eventsOf.mpr hmem
      rw [hanswered, List.mem_singleton] at hreply
      rw [hreply]
      exact not_false
    · rcases List.mem_cons.mp hmem with h | hmem
      · cases h
      · exact hkept ev hmem

/-- What the line's job finds under the device's name when it takes its challenge. -/
theorem Opened.popped {ls : List (Pool.Label (linkMachine rt C identity) ι)}
    {c filed : Pool.Config (linkMachine rt C identity) ι ServerState} {i : ι} {deviceId : Text}
    {challenge : PendingChallenge} {line : Bytes} {log : List (Event Server)}
    {waiting serving : List (Pool.Label (linkMachine rt C identity) ι)}
    (opened : Opened ls c i deviceId challenge line log waiting serving filed)
    (undisturbed : ∀ j ev, j ≠ i → .did j ev ∈ waiting ++ serving → ¬ TouchesPending deviceId ev)
    {found : Option DeviceRecord} {popped : Option PendingChallenge} {more : List (Event Server)}
    (hlog : log = .did (.lookup deviceId) found :: .did (.popPending deviceId) popped :: more) :
    popped = some challenge := by
  obtain ⟨post, onwards⟩ := opened.onwards
  obtain ⟨upto, after, rfl, hupto, -⟩ := Pool.eventsOf_eq_append
    ([.did (.lookup deviceId) found] : List (Event Server)) (opened.served.trans hlog)
  have onwards' : Pool.Run (fun _ => ServerStep C identity) Pool.Any filed
      ((waiting ++ .started i (.line (some line)) :: upto) ++
        .did i (.did (.popPending deviceId) popped) :: (after ++ post)) c := by
    simpa using onwards
  obtain ⟨c₁, before, rest⟩ := onwards'.split
  obtain ⟨_, step, -, -⟩ := rest.first
  have hkept : c₁.shared.pending deviceId = some challenge := by
    rw [← opened.pending]
    refine pending_kept before ?_
    intro l hl htouch
    cases l with
    | started _ _ => exact htouch
    | returned _ _ _ _ _ => exact htouch
    | did j ev =>
      by_cases hj : j = i
      · subst hj
        rcases List.mem_append.mp hl with hl | hl
        · exact opened.waited ev (Pool.mem_eventsOf.mpr hl) htouch
        · have hev : ev ∈ Pool.eventsOf j upto := Pool.mem_eventsOf.mpr (by simpa using hl)
          rw [hupto, List.mem_singleton] at hev
          rw [hev] at htouch
          exact htouch
      · refine undisturbed j ev hj ?_ htouch
        rcases List.mem_append.mp hl with hl | hl
        · exact List.mem_append_left _ hl
        · have hl' : Pool.Label.did j ev ∈ upto := by simpa using hl
          simp [hl']
  exact step.answered.1.trans hkept

/-- The device is still registered when the job looks it up. -/
theorem Opened.found {ls : List (Pool.Label (linkMachine rt C identity) ι)}
    {c filed : Pool.Config (linkMachine rt C identity) ι ServerState} {i : ι} {deviceId : Text}
    {challenge : PendingChallenge} {line : Bytes} {log : List (Event Server)}
    {waiting serving : List (Pool.Label (linkMachine rt C identity) ι)}
    (opened : Opened ls c i deviceId challenge line log waiting serving filed)
    {found : Option DeviceRecord} (h : .did (.lookup deviceId) found ∈ log) :
    ∃ record, found = some record := by
  obtain ⟨post, onwards⟩ := opened.onwards
  obtain ⟨record, hrecord⟩ := opened.registered
  have hmem : (.did i (.did (.lookup deviceId) found) : Pool.Label (linkMachine rt C identity) ι) ∈
      waiting ++ .started i (.line (some line)) :: (serving ++ post) := by
    have hserving := Pool.mem_eventsOf.mp (opened.served.symm ▸ h)
    simp [hserving]
  obtain ⟨pre, c₁, _, before, hR, -⟩ := onwards.happened hmem
  have hkept : c₁.shared.registry deviceId = some record :=
    before.shared (T := fun s => s.registry deviceId = some record)
      (fun _ _ _ _ h => h.registered_kept) hrecord
  exact ⟨record, hR.1.trans hkept⟩

/-- **Other connections cannot break an honest handshake** unless they touch the device's pending
challenge. Whatever else they send while the exchange lasts, and whatever else the device's own connection
sends before its answer that leaves the challenge and the connection's name alone, a genuine answer
in time is accepted: the connection's one reply to it is `attest_result` with `ok` true. -/
theorem honest_handshake_completes {ls : List (Pool.Label (linkMachine rt C identity) ι)}
    {c : Pool.Config (linkMachine rt C identity) ι ServerState}
    (run : Pool.Run (fun _ => ServerStep C identity) Pool.Any
      (linkStarted rt C identity ι registry) ls c)
    {i : ι} {deviceId : Text} {challenge : PendingChallenge} {line : Bytes}
    {log : List (Event Server)}
    {answering waiting serving : List (Pool.Label (linkMachine rt C identity) ι)}
    (exchange : Exchange ls i deviceId challenge line log answering waiting serving)
    (hid : deviceId ≠ []) {record : DeviceRecord}
    (registered : c.shared.registry deviceId = some record)
    (a : GenuineAnswer C deviceId record challenge) {msg : JsonValue}
    (parses : Parses rt line msg .attestResponse) (hresponse : attestResponseOf msg = .ok a.response)
    (fresh : ∀ now, .did .time now ∈ log → now - challenge.issuedAt ≤ attestChallengeTtl)
    (undisturbed : ∀ j ev, j ≠ i → .did j ev ∈ answering ++ waiting ++ serving →
      ¬ TouchesPending deviceId ev) :
    ∃ sig, repliesOf log = [Reply.attestAccepted sig] := by
  obtain ⟨between, filed, hbetween, opened⟩ := exchange.opened run
  have hothers : ∀ j ev, j ≠ i → .did j ev ∈ between ++ serving → ¬ TouchesPending deviceId ev := by
    intro j ev hj hmem
    refine undisturbed j ev hj ?_
    rcases List.mem_append.mp hmem with hmem | hmem
    · exact List.mem_append_left _ (hbetween j ev hmem)
    · exact List.mem_append_right _ hmem
  obtain ⟨conn, out, live, hdevice, hreturned⟩ := opened.job
  have hname : conn.named = some deviceId := by
    rw [Connection.named, hdevice]
    simp [hid]
  have facts : ∀ ev ∈ log, ServerFact C identity c.shared ev :=
    run.facts (F := fun _ ev s => ServerFact C identity s ev) serving_quiet
      (fun _ _ _ _ _ h => .of_step h) (fun _ _ _ _ _ _ h => ServerFact.kept h)
      (Or.inr ⟨_, conn, out, hreturned⟩)
  obtain ⟨-, hserved⟩ := returned_served run hreturned
  cases hserved.answered live hname parses hresponse with
  | accepted h => exact ⟨_, h⟩
  | failed failure hlog =>
    exfalso
    cases failure with
    | notRegistered =>
      have hlooked : .did (.lookup deviceId) none ∈ log := by simp [hlog]
      obtain ⟨_, hfound⟩ := opened.found hlooked
      cases hfound
    | noPending found => cases opened.popped hothers hlog
    | @answered found pending now tr e h =>
      cases opened.popped hothers hlog
      have hfound : c.shared.registry deviceId = some found :=
        facts (.did (.lookup deviceId) (some found)) (by simp [hlog])
      obtain rfl := Option.some.inj (hfound.symm.trans registered)
      have answered : ∀ ev ∈ tr, ServerFact C identity c.shared ev := by
        intro ev hev
        exact facts ev (by simp [hlog, hev])
      exact a.no_failure (fresh now (by simp [hlog])) answered h

end

/-! ## Reading exchanges off a run -/

section

variable {rt : Runtime} {C : CryptoLib} {identity : Point} {ι : Type} [DecidableEq ι]

/-- An agent files a challenge for the device. -/
def filesFor (i : ι) (deviceId : Text) : Pool.Label (linkMachine rt C identity) ι →
    Option PendingChallenge
  | .did j (.did (.setPending id challenge) _) => if j = i ∧ id = deviceId then some challenge else none
  | _ => none

/-- An agent starts something. -/
def startsAny (i : ι) : Pool.Label (linkMachine rt C identity) ι → Bool
  | .started j _ => j = i
  | _ => false

/-- An agent returns. -/
def returnsAny (i : ι) : Pool.Label (linkMachine rt C identity) ι → Bool
  | .returned j _ _ _ _ => j = i
  | _ => false

/-- An agent takes this line. -/
def takesLine (i : ι) (line : Bytes) : Pool.Label (linkMachine rt C identity) ι → Bool
  | .started j (.line (some line')) => j = i && line' = line
  | _ => false

/-- A step of a connection's that leaves the device's challenge, the connection and its name alone. -/
def leavesAlone (i : ι) (deviceId : Text) : Pool.Label (linkMachine rt C identity) ι → Bool
  | .did j (.did (.setPending id _) _) => j ≠ i || id ≠ deviceId
  | .did j (.did (.popPending id) _) => j ≠ i || id ≠ deviceId
  | .returned j _ conn _ out =>
    j ≠ i || (decide (out.2.closed = conn.closed) && decide (out.2.deviceId = conn.deviceId))
  | _ => true

section

variable {l : Pool.Label (linkMachine rt C identity) ι} {i : ι}

theorem filesFor_eq {deviceId : Text} {challenge : PendingChallenge}
    (h : filesFor i deviceId l = some challenge) :
    l = .did i (.did (.setPending deviceId challenge) ()) := by
  unfold filesFor at h
  split at h
  · split at h
    · rename_i hsame
      obtain ⟨rfl, rfl⟩ := hsame
      cases h
      rfl
    · cases h
  · cases h

theorem returnsAny_eq (h : returnsAny i l = true) :
    ∃ job conn log out, l = .returned i job conn log out := by
  unfold returnsAny at h
  split at h
  · cases of_decide_eq_true h
    exact ⟨_, _, _, _, rfl⟩
  · cases h

theorem takesLine_eq {line : Bytes} (h : takesLine i line l = true) :
    l = .started i (.line (some line)) := by
  unfold takesLine at h
  split at h
  · simp only [Bool.and_eq_true, decide_eq_true_eq] at h
    obtain ⟨rfl, rfl⟩ := h
    rfl
  · cases h

end

theorem noStart_of {i : ι} {ls : List (Pool.Label (linkMachine rt C identity) ι)}
    (h : ls.all (fun l => !startsAny i l) = true) : Pool.NoStart i ls := by
  intro l hl hstarts
  have hnot := List.all_eq_true.mp h l hl
  cases l with
  | started j job =>
    rw [Bool.not_eq_true', startsAny, decide_eq_false_iff_not] at hnot
    exact hnot hstarts
  | did _ _ => exact hstarts
  | returned _ _ _ _ _ => exact hstarts

/-- The first exchange of a connection about a device that ends with this line: its challenge, the
line's log, and what happened meanwhile. -/
def exchangeOf (i : ι) (deviceId : Text) (line : Bytes)
    (ls : List (Pool.Label (linkMachine rt C identity) ι)) :
    Option (PendingChallenge × List (Event Server) ×
      List (Pool.Label (linkMachine rt C identity) ι) ×
      List (Pool.Label (linkMachine rt C identity) ι) ×
      List (Pool.Label (linkMachine rt C identity) ι)) := do
  let (_, filed, rest) ← History.cutAt (fun l => (filesFor i deviceId l).isSome) ls
  let challenge ← filesFor i deviceId filed
  let (answering, _, rest) ← History.cutAt (returnsAny i) rest
  let (waiting, _, rest) ← History.cutAt (takesLine i line) rest
  let (serving, return_, _) ← History.cutAt (returnsAny i) rest
  match return_ with
  | .returned _ (.line (some line')) _ log _ =>
    if line' = line ∧ (answering ++ serving).all (fun l => !startsAny i l) ∧
        waiting.all (leavesAlone i deviceId) then
      some (challenge, log, answering, waiting, serving)
    else none
  | _ => none

theorem exchange_of {i : ι} {deviceId : Text}
    {ls answering waiting serving : List (Pool.Label (linkMachine rt C identity) ι)}
    {challenge : PendingChallenge} {line : Bytes} {log : List (Event Server)}
    (h : exchangeOf i deviceId line ls = some (challenge, log, answering, waiting, serving)) :
    Exchange ls i deviceId challenge line log answering waiting serving := by
  simp only [exchangeOf, Option.bind_eq_bind, Option.bind_eq_some_iff, Prod.exists] at h
  obtain ⟨pre, filed, rest, hfiled, challenge', hchallenge, answering', hello, rest₁, hhello, waiting',
    start, rest₂, hstart, serving', return_, post, hreturn, h⟩ := h
  obtain ⟨rfl, -, -⟩ := History.cutAt_eq hfiled
  obtain ⟨rfl, hanswers, -⟩ := History.cutAt_eq hhello
  obtain ⟨rfl, htakes, -⟩ := History.cutAt_eq hstart
  obtain ⟨rfl, hreturns, -⟩ := History.cutAt_eq hreturn
  obtain rfl := filesFor_eq hchallenge
  obtain ⟨job, conn₀, log₀, out₀, rfl⟩ := returnsAny_eq hanswers
  obtain rfl := takesLine_eq htakes
  split at h
  · rename_i j line' conn log' out
    split at h
    · rename_i hcond
      obtain ⟨rfl, hstarts, halone⟩ := hcond
      cases h
      obtain ⟨_, _, _, _, heq⟩ := returnsAny_eq hreturns
      cases heq
      have quiet := noStart_of hstarts
      refine ⟨⟨pre, post, job, conn₀, log₀, out₀, conn, out, rfl⟩, ?_, ?_, ?_, ?_⟩
      · intro l hl
        exact quiet l (List.mem_append_left _ hl)
      · intro l hl
        exact quiet l (List.mem_append_right _ hl)
      · intro ev hev htouch
        have hl := List.all_eq_true.mp halone _ hev
        unfold TouchesPending at htouch
        split at htouch
        · simp [leavesAlone, htouch] at hl
        · simp [leavesAlone, htouch] at hl
        · exact htouch
      · intro job conn log out hret
        have hl := List.all_eq_true.mp halone _ hret
        simpa [leavesAlone] using hl
    · cases h
  · cases h

/-- Nobody else touches the device's challenge. -/
def undisturbedBy (i : ι) (deviceId : Text) (ls : List (Pool.Label (linkMachine rt C identity) ι)) :
    Bool :=
  ls.all fun
    | .did j (.did (.setPending id _) _) => j = i || id ≠ deviceId
    | .did j (.did (.popPending id) _) => j = i || id ≠ deviceId
    | _ => true

theorem undisturbed_of {i : ι} {deviceId : Text}
    {ls : List (Pool.Label (linkMachine rt C identity) ι)} (h : undisturbedBy i deviceId ls = true) :
    ∀ j ev, j ≠ i → .did j ev ∈ ls → ¬ TouchesPending deviceId ev := by
  intro j ev hj hmem htouch
  have hl := List.all_eq_true.mp h _ hmem
  unfold TouchesPending at htouch
  split at htouch
  · simp [hj, htouch] at hl
  · simp [hj, htouch] at hl
  · exact htouch

/-- Every clock reading of a job is within the challenge's lifetime. -/
def inTime (challenge : PendingChallenge) (log : List (Event Server)) : Bool :=
  log.all fun
    | .did .time now => now - challenge.issuedAt ≤ attestChallengeTtl
    | _ => true

theorem fresh_of {challenge : PendingChallenge} {log : List (Event Server)}
    (h : inTime challenge log = true) :
    ∀ now, .did .time now ∈ log → now - challenge.issuedAt ≤ attestChallengeTtl := by
  intro now hmem
  simpa using List.all_eq_true.mp h _ hmem

end

namespace Vectors

/-- Two connections: one is the device's, and sends a reading before it attests; the other says hello
for a device in between. -/
def interleaved (other : Text) :
    List (Pool.Label deviceLink (Fin 2)) × Pool.Config deviceLink (Fin 2) ServerState :=
  playServer lib serverIdentity.pub (fun i _ => if i = 0 then firstDesk else laterDesk)
    (linkStarted python lib serverIdentity.pub (Fin 2) enrolled) (
    byItself 0 (takes (helloMessage deviceName)) ++ byItself 0 (takes firstData) ++
    byItself 1 (takes (helloMessage other)) ++ byItself 0 (takes (attestMessage genuineAnswer)))

theorem interleaved_run (other : Text) : Pool.Run (fun _ => ServerStep lib serverIdentity.pub)
    Pool.Any (linkStarted python lib serverIdentity.pub (Fin 2) enrolled) (interleaved other).1
      (interleaved other).2 := playServer_run ..

theorem loads_genuine : python.loads (lineOf (attestMessage genuineAnswer)) =
    .ok (.obj (attestMessage genuineAnswer)) := by
  obtain ⟨hello, hello', first, second⟩ :
      ¬ lineOf (helloMessage deviceName) = lineOf (attestMessage genuineAnswer) ∧
      ¬ lineOf (helloMessage intruderName) = lineOf (attestMessage genuineAnswer) ∧
      ¬ lineOf firstData = lineOf (attestMessage genuineAnswer) ∧
      ¬ lineOf secondData = lineOf (attestMessage genuineAnswer) := by decide +kernel
  simp only [python, messages, List.find?_cons, hello, hello', first, second, decide_false,
    decide_true]

theorem parses_genuine : Parses python (lineOf (attestMessage genuineAnswer))
    (.obj (attestMessage genuineAnswer)) .attestResponse :=
  ⟨loads_genuine, some (.str "attest_response".toList), rfl, rfl⟩

theorem genuine_fields :
    attestResponseOf (.obj (attestMessage genuineAnswer)) = .ok genuine.response := by
  rw [genuine_response]
  rfl

end Vectors

/-- The device's exchange, a reading of its own in it, while the other device says hello on another
connection: accepted. -/
theorem honest_handshake_completes_played : ∃ log answering waiting serving,
    Exchange (Vectors.interleaved Vectors.intruderName).1 0 Vectors.deviceName
      Vectors.firstChallenge (lineOf (Vectors.attestMessage Vectors.genuineAnswer)) log
      answering waiting serving ∧
    .started 0 (.line (some (lineOf Vectors.firstData))) ∈ waiting ∧
    ∃ sig, repliesOf log = [Reply.attestAccepted sig] := by
  have hplayed : (exchangeOf 0 Vectors.deviceName
      (lineOf (Vectors.attestMessage Vectors.genuineAnswer))
      (Vectors.interleaved Vectors.intruderName).1).any (fun x =>
        decide (x.1 = Vectors.firstChallenge) && inTime Vectors.firstChallenge x.2.1 &&
        x.2.2.2.1.any (takesLine 0 (lineOf Vectors.firstData)) &&
        undisturbedBy 0 Vectors.deviceName (x.2.2.1 ++ x.2.2.2.1 ++ x.2.2.2.2)) = true ∧
      (Vectors.interleaved Vectors.intruderName).2.shared.registry Vectors.deviceName =
        some Vectors.deviceRecord := by decide +kernel
  have run := Vectors.interleaved_run Vectors.intruderName
  generalize Vectors.interleaved Vectors.intruderName = played at run hplayed ⊢
  obtain ⟨hplayed, hregistered⟩ := hplayed
  obtain ⟨⟨challenge, log, answering, waiting, serving⟩, hexchange, hchecks⟩ :=
    (Option.any_eq_true _ _).mp hplayed
  simp only [Bool.and_eq_true, decide_eq_true_eq] at hchecks
  obtain ⟨⟨⟨rfl, hfresh⟩, hreading⟩, hquiet⟩ := hchecks
  obtain ⟨l, hl, htakes⟩ := List.any_eq_true.mp hreading
  obtain rfl := takesLine_eq htakes
  have hid : Vectors.deviceName ≠ [] := by decide
  have exchange := exchange_of hexchange
  exact ⟨log, answering, waiting, serving, exchange, hl, honest_handshake_completes run exchange hid
    hregistered Vectors.genuine Vectors.parses_genuine Vectors.genuine_fields (fresh_of hfresh)
    (undisturbed_of hquiet)⟩

/-- The `ok` of a reply. -/
def okOf : JsonValue → Option Bool
  | .obj fields => match JsonValue.field? fields "ok".toList with | some (.bool b) => some b | _ => none
  | _ => none

/-- Another connection says hello for the same device in between: the genuine answer is refused. -/
theorem second_hello_breaks_handshake : ∃ log answering waiting serving,
    Exchange (Vectors.interleaved Vectors.deviceName).1 0 Vectors.deviceName
      Vectors.firstChallenge (lineOf (Vectors.attestMessage Vectors.genuineAnswer)) log
      answering waiting serving ∧
    (Vectors.interleaved Vectors.deviceName).2.shared.registry Vectors.deviceName =
      some Vectors.deviceRecord ∧
    (∀ now, .did .time now ∈ log → now - Vectors.firstChallenge.issuedAt ≤ attestChallengeTtl) ∧
    (repliesOf log).map okOf = [some false] ∧ ¬ ∃ sig, repliesOf log = [Reply.attestAccepted sig] := by
  have hplayed : (exchangeOf 0 Vectors.deviceName
      (lineOf (Vectors.attestMessage Vectors.genuineAnswer))
      (Vectors.interleaved Vectors.deviceName).1).any (fun x =>
        decide (x.1 = Vectors.firstChallenge) && inTime Vectors.firstChallenge x.2.1 &&
        decide ((repliesOf x.2.1).map okOf = [some false])) = true ∧
      (Vectors.interleaved Vectors.deviceName).2.shared.registry Vectors.deviceName =
        some Vectors.deviceRecord := by decide +kernel
  obtain ⟨hplayed, hregistered⟩ := hplayed
  obtain ⟨⟨challenge, log, answering, waiting, serving⟩, hexchange, hchecks⟩ :=
    (Option.any_eq_true _ _).mp hplayed
  simp only [Bool.and_eq_true, decide_eq_true_eq] at hchecks
  obtain ⟨⟨rfl, hfresh⟩, hrefused⟩ := hchecks
  refine ⟨log, answering, waiting, serving, exchange_of hexchange, hregistered, fresh_of hfresh,
    hrefused, ?_⟩
  intro ⟨sig, haccepted⟩
  rw [haccepted] at hrefused
  cases hrefused

end ConfidentialIoT
