import ConfidentialIoT.Host.Binding
import ConfidentialIoT.Lib.Part
import ConfidentialIoT.Server.Collect

/-!
# `Host/Provenance.lean` — where the samples come from that a user is shown

Beside the users' requests the link's threads run as they do without them (`dash_link`): the
dashboard takes samples out of the buffers, and nothing else of the link looks at those. So what is
known of the link holds here, and every sample a user is shown was in a message that a session's
key has opened, and the session was stored after a quote was vetted for the device
(`shown_samples_attested`).
-/

set_option autoImplicit false

namespace ConfidentialIoT

open Effects

/-! ## What is buffered -/

section

variable {rt : Runtime} {C : CryptoLib} {identity : Point} {ι : Type}

/-- Where a device's samples come from: a session that was stored after a vetting; its key, looked
up while the session was alive; a message that the key opens; its sequence number, accepted by the
thread that looked the key up; and the samples of its payload, buffered by that thread. The steps
were taken in this order. -/
inductive Origin (rt : Runtime) (C : CryptoLib) (registry : Registry)
    (calls : List (ι × Event Server)) (deviceId : Text) (x : Sample) : Prop where
  | mk {i j : ι} {store look accept append : List (ι × Event Server)} {v : Vetting C deviceId}
      {key : Bytes} {since t t' now : Time} {msg payload : JsonValue} {seq : Nat}
      {plaintext : Bytes} {samples : List Sample} {verdict : Verdict}
      (vetted : v.Sound registry key)
      (stored : store ++ [(j, .did (.storeSession deviceId key) since)] <+: look)
      (alive : t ≤ since + deviceSessionTtl)
      (looked : look ++ [(i, .did (.sessionKey deviceId) (t, some key))] <+: accept)
      (opened : openData C key msg = .ok (seq, plaintext))
      (accepted : accept ++ [(i, .did (.advanceSeq deviceId seq) (t', true))] <+: append)
      (loads : rt.loads plaintext = .ok payload)
      (read : payloadSamples rt deviceId now payload = .ok samples)
      (appended : append ++ [(i, .did (.extendBuffer deviceId samples verdict) ())] <+: calls)
      (mem : x ∈ samples)

/-- A job that buffers samples has opened a message, and read them from its payload. -/
theorem Served.buffers {conn conn' : Connection} {job : LinkJob} {tr after : List (Event Server)}
    {deviceId : Text} {now t t' : Time} {key : Bytes} {seq : Nat} {samples : List Sample}
    {verdict : Verdict} (h : Served rt C identity conn job tr conn')
    (htr : tr = dataAdvanced deviceId now t key seq t' true ++
      .did (.extendBuffer deviceId samples verdict) () :: after) :
    ∃ msg plaintext payload, openData C key msg = .ok (seq, plaintext) ∧
      rt.loads plaintext = .ok payload ∧ payloadSamples rt deviceId now payload = .ok samples := by
  unfold dataAdvanced dataRead at htr
  cases h with
  | handled _ h =>
    cases h with
    | data _ _ handled =>
      cases handled with
      | accepted now' t₁ key' t₁' hopen hload hsamples =>
        unfold dataAdvanced dataRead at htr
        cases htr
        exact ⟨_, _, _, hopen, hload, hsamples⟩
      | _ => simp [dataAdvanced, dataRead] at htr
    | challenged _ _ drawn =>
      obtain ⟨record, nonce, -, rfl⟩ := drawn
      simp at htr
    | attested _ _ v _ _ _ _ => simp [Vetting.events] at htr
    | attestRefused _ _ failure _ =>
      cases failure with
      | field _ => simp at htr
      | verify _ failure => cases failure <;> simp at htr
    | _ => simp at htr
  | escaped _ h hangs =>
    -- the `finally` block buffers nothing
    cases h with
    | data _ _ escapes => cases escapes <;> cases hangs <;> simp [dataAdvanced, dataRead] at htr
    | attest _ _ failure _ =>
      cases failure with
      | field _ => cases hangs <;> simp at htr
      | verify _ failure => cases failure <;> simp at htr
    | _ => cases hangs <;> simp at htr
  | ended _ hangs => cases hangs <;> simp at htr
  | _ => simp at htr

variable [DecidableEq ι] {registry : Registry}
  {P : Pool.Config (linkMachine rt C identity) ι ServerState →
    Pool.Label (linkMachine rt C identity) ι → Prop}
  {ls : List (Pool.Label (linkMachine rt C identity) ι)}
  {c : Pool.Config (linkMachine rt C identity) ι ServerState}

/-- **Everything that is buffered has an origin.** -/
theorem buffered_origin
    (run : Pool.Run (fun _ => ServerStep C identity) P (linkStarted rt C identity ι registry) ls c)
    {i : ι} {deviceId : Text} {samples : List Sample} {verdict : Verdict}
    (h : .did i (.did (.extendBuffer deviceId samples verdict) ()) ∈ ls) {x : Sample}
    (hx : x ∈ samples) : Origin rt C c.shared.registry (Pool.calls ls) deviceId x := by
  obtain ⟨append, post, hls⟩ := List.append_of_mem h
  have hpre : append ++ [.did i (.did (.extendBuffer deviceId samples verdict) ())] <+: ls :=
    ⟨post, by simp [hls]⟩
  obtain ⟨c₁, c₂, -, -, before, step, admitted, -⟩ := run.cut hpre
  obtain ⟨job, conn, pre, mid, rest, happend, -, hbusy, hcall⟩ :=
    before.asserted_at serving_quiet step linkMachine_code
  obtain ⟨now, t, key, seq, t', hevents⟩ : ∃ now t key seq t',
      Pool.eventsOf i mid = dataAdvanced deviceId now t key seq t' true := by
    cases hcall with
    | line _ _ call =>
      cases call with
      | issue _ _ call => exact call.elim
      | verify _ _ _ call => exact call.elim
      | reply h => cases h
      | data _ _ call =>
        obtain ⟨rfl, now, t, key, seq, t', plaintext, hevents, -, -⟩ := call
        exact ⟨now, t, key, seq, t', hevents⟩
    | hangUp _ _ _ _ call =>
      rcases call with h | ⟨_, h⟩
      · cases h
      · cases h
    | register _ _ call => cases call
  -- what the job does in the end says what it has opened
  obtain ⟨rest', hbusy'⟩ := step.did_agent hbusy
  have hsteps := ((before.snoc step admitted).logs serving_quiet).1 _ _ _ _ _ hbusy'
  obtain ⟨after, out, hruns⟩ := exists_completion server_answers rest'
  obtain ⟨-, hserved⟩ := wp_runs (hsteps.trans hruns) (linkMachine_code job conn)
  rw [hevents, List.append_assoc] at hserved
  obtain ⟨msg, plaintext, payload, hopen, hload, hread⟩ := hserved.buffers rfl
  obtain ⟨m₁, m₂, hmid, hfirst, -⟩ :=
    Pool.eventsOf_eq_append (dataRead deviceId now t key) hevents
  obtain ⟨m₃, m₄, hm₁, -, -⟩ := Pool.eventsOf_eq_append
    ([.did .time now] : List (Event Server)) hfirst
  have hadvance : (pre ++ .started i job :: m₁) ++
      [.did i (.did (.advanceSeq deviceId seq) (t', true))] <+: append :=
    ⟨m₂, by simp [happend, hmid]⟩
  have hlook : (pre ++ .started i job :: m₃) ++
      [.did i (.did (.sessionKey deviceId) (t, some key))] <+: pre ++ .started i job :: m₁ :=
    ⟨m₄, by simp [hm₁]⟩
  -- the session that was alive when its key was looked up
  have happended : append <+: ls := (List.prefix_append _ _).trans hpre
  have hlooked := hlook.trans ((List.prefix_append _ _).trans (hadvance.trans happended))
  obtain ⟨c₃, c₄, _, -, before₃, step₃, -, -⟩ := run.cut hlooked
  obtain ⟨sess, hsess, rfl, halive⟩ := step₃.answered.handed_out
  obtain ⟨store, l, since', hsplit, -, -, j, since, rfl, hexpires⟩ := session_stored before₃ hsess
  have hstore : store ++ [.did j (.did (.storeSession deviceId sess.key) since)] <+:
      pre ++ .started i job :: m₃ := ⟨since', by simp [hsplit]⟩
  have hstored := hstore.trans ((List.prefix_append _ _).trans hlooked)
  obtain ⟨v, issue, use, pre', mid', job', -, -, -, -, -, hsound⟩ :=
    session_provenance (linkMachine_vets rt C identity) run hstored
  exact .mk hsound (Pool.calls_prefix hstore) (hexpires ▸ halive) (Pool.calls_prefix hlook) hopen
    (Pool.calls_prefix hadvance) hload hread (Pool.calls_prefix hpre) hx

end

/-! ## The link, beside the users -/

section

/-- The job of the link that a job is. -/
def DashJob.link? : DashJob → Option LinkJob
  | .link job => some job
  | .collect _ _ _ => none

variable {rt : Runtime} {C : CryptoLib} {identity : Point} {fl : Floats}

theorem linkEvent_own (q : Call Server) (r : Dash.Res (dashPart.act q)) :
    linkEvent (.did (dashPart.act q) r) = some (Event.of q (dashPart.back q r)) := by
  cases q with
  | req e => cases e
  | act a => rfl

theorem serviceCollect_unseen (deviceId window aggregation : Text) :
    wpP (fun _ q => ∀ r, linkEvent (Event.of q r) = none)
      (serviceCollect fl deviceId window aggregation) (fun _ _ _ => True) (fun _ _ _ => True) () [] := by
  unfold serviceCollect linkCollect storeWindow
  cases collectWindows.lookup window with
  | none => trivial
  | some seconds =>
    simp only [wpP_bind, wpP_ite, wpP_throw, wpP_dash, wpP_pure, wpP_ofOutcome]
    refine ⟨fun _ => trivial, fun _ => ⟨fun _ => rfl, fun _ => ⟨fun _ => rfl, fun _ => ⟨fun _ => rfl,
      fun _ => ⟨fun _ => rfl, fun _ => ⟨fun _ _ => trivial, fun _ _ => trivial⟩⟩⟩⟩⟩⟩

theorem dashCode_own {job : DashJob} {job' : LinkJob} (h : job.link? = some job')
    (conn : Connection) : dashCode rt C identity fl job conn =
      dashPart.prog ((linkMachine rt C identity).code job' conn) >>= fun r => .ret (none, r.2) := by
  cases job with
  | link job =>
    cases h
    rfl
  | collect _ _ _ => cases h

theorem dashCode_other {job : DashJob} (h : job.link? = none) (conn : Connection) :
    wp (fun _ q => ∀ r, linkEvent (Event.of q r) = none) (dashCode rt C identity fl job conn)
      (fun _ out => out.2 = conn) [] := by
  cases job with
  | link job => cases h
  | collect deviceId window aggregation =>
    refine wp_bind.mpr (wp_conseq (serviceCollect_unseen deviceId window aggregation) ?_)
    intro tr out _
    rfl

/-- The link, as a part of the server. -/
def dashLink (rt : Runtime) (C : CryptoLib) (identity : Point) (fl : Floats) :
    Pool.Part dashPart (linkMachine rt C identity) (dashMachine rt C identity fl) where
  job := DashJob.link?
  mem conn := conn
  out r := (none, r.2)
  seen := linkEvent
  mem_out _ := rfl
  seen_own := linkEvent_own
  own := dashCode_own
  other := dashCode_other

/-- What the link sees of the server: everything but the buffers. -/
def SeesLink (s : DashState) (s' : ServerState) : Prop := ∃ buf, s' = { s.server with buf := buf }

section

variable (s : ServerState) (buf : Text → List Sample) (id : Text) (now : Time)

theorem ServerState.sessionKey_rebuffer : ({ s with buf := buf } : ServerState).sessionKey id now =
    ((s.sessionKey id now).1, { (s.sessionKey id now).2 with buf := buf }) := by
  unfold ServerState.sessionKey
  cases s.sessions id with
  | none => rfl
  | some sess =>
    dsimp only
    split <;> rfl

theorem ServerState.advanceSeq_rebuffer (seq : Nat) :
    ({ s with buf := buf } : ServerState).advanceSeq id seq now =
      ((s.advanceSeq id seq now).1, { (s.advanceSeq id seq now).2 with buf := buf }) := by
  unfold ServerState.advanceSeq
  cases s.sessions id with
  | none => rfl
  | some sess =>
    dsimp only
    split
    · rfl
    · split <;> rfl

theorem ServerState.register_rebuffer (ak pcr bank ta : Text) :
    ({ s with buf := buf } : ServerState).register id ak pcr bank ta now =
      ((s.register id ak pcr bank ta now).1,
        { (s.register id ak pcr bank ta now).2 with buf := buf }) := by
  unfold ServerState.register
  dsimp only
  split <;> rfl

end

/-- A step of the link does not depend on the buffers. -/
theorem ServerStep.rebuffer {s s' : ServerState} {a : ServerAct} {b : a.Res}
    (h : ServerStep C identity s (.did a b) s') (buf : Text → List Sample) :
    ∃ buf', ServerStep C identity { s with buf := buf } (.did a b) { s' with buf := buf' } := by
  cases a with
  | extendBuffer id samples verdict =>
    obtain rfl := h
    exact ⟨_, rfl⟩
  | register id ak pcr bank ta =>
    have hs : (b.2, s') = s.register id ak pcr bank ta b.1 := h
    refine ⟨buf, ?_⟩
    show (b.2, _) = ServerState.register _ id ak pcr bank ta b.1
    rw [ServerState.register_rebuffer, ← hs]
  | sessionKey id =>
    have hs : (b.2, s') = s.sessionKey id b.1 := h
    refine ⟨buf, ?_⟩
    show (b.2, _) = ServerState.sessionKey _ id b.1
    rw [ServerState.sessionKey_rebuffer, ← hs]
  | advanceSeq id seq =>
    have hs : (b.2, s') = s.advanceSeq id seq b.1 := h
    refine ⟨buf, ?_⟩
    show (b.2, _) = ServerState.advanceSeq _ id seq b.1
    rw [ServerState.advanceSeq_rebuffer, ← hs]
  | storeSession _ _ | setPending _ _ | time | randomBytes _ | writeline _ | setVerdict _ _ =>
    obtain rfl := h
    exact ⟨buf, rfl⟩
  | lookup _ | p256Generate | ecVerify _ _ _ _ | popPending _ =>
    obtain ⟨hb, rfl⟩ := h
    exact ⟨buf, hb, rfl⟩
  | signServerIdentity _ =>
    obtain ⟨hlen, hb, rfl⟩ := h
    exact ⟨buf, hlen, hb, rfl⟩

theorem DashStep.own {s s' : DashState} {t : ServerState} {q : Call Server}
    {r : Dash.Res (dashPart.act q)} (sees : SeesLink s t)
    (h : DashStep C identity fl s (.did (dashPart.act q) r) s') :
    ∃ t', ServerStep C identity t (Event.of q (dashPart.back q r)) t' ∧ SeesLink s' t' := by
  obtain ⟨buf, rfl⟩ := sees
  cases q with
  | req e => cases e
  | act a =>
    obtain ⟨buf', hstep⟩ := ServerStep.rebuffer h.1 buf
    exact ⟨_, hstep, buf', rfl⟩

theorem DashStep.other {s s' : DashState} {t : ServerState} {ev : Event Dash}
    (hev : linkEvent ev = none) (sees : SeesLink s t) (h : DashStep C identity fl s ev s') :
    SeesLink s' t := by
  obtain ⟨buf, rfl⟩ := sees
  cases ev with
  | ok r b => cases r
  | refused r e => cases r
  | did a b =>
    cases a with
    | server a => cases hev
    | collect id =>
      obtain ⟨-, rfl⟩ := h
      exact ⟨buf, rfl⟩
    | add id samples =>
      obtain rfl := h
      exact ⟨buf, rfl⟩
    | time =>
      obtain rfl := h
      exact ⟨buf, rfl⟩
    | window id cutoff =>
      obtain ⟨-, rfl⟩ := h
      exact ⟨buf, rfl⟩

variable {ι : Type} [DecidableEq ι] {registry : Registry}
  {P : Pool.Config (dashMachine rt C identity fl) ι DashState →
    Pool.Label (dashMachine rt C identity fl) ι → Prop}
  {c₀ c c' : Pool.Config (dashMachine rt C identity fl) ι DashState}
  {ls : List (Pool.Label (dashMachine rt C identity fl) ι)}

/-- The calls of the link. -/
def linkCalls (ls : List (Pool.Label (dashMachine rt C identity fl) ι)) : List (ι × Event Server) :=
  (dashLink rt C identity fl).calls ls

/-- **The link runs as it does without users.** -/
theorem dash_link (run : Pool.Run (fun _ => DashStep C identity fl) P c₀ ls c)
    (server : c₀.shared.server = .started registry) (idle : ∀ i, c₀.agents i = .idle .accepted) :
    ∃ ls' c', Pool.Run (fun _ => ServerStep C identity) Pool.Any
      (linkStarted rt C identity ι registry) ls' c' ∧ Pool.calls ls' = linkCalls ls ∧
      SeesLink c.shared c'.shared := by
  have hstart : (dashLink rt C identity fl).start c₀ (.started registry) =
      linkStarted rt C identity ι registry := by
    refine congrArg (Pool.Config.mk _) (funext fun i => ?_)
    have hmem : (c₀.agents i).mem = .accepted := congrArg Pool.Agent.mem (idle i)
    exact congrArg Pool.Agent.idle hmem
  have sees : SeesLink c₀.shared (.started registry) := ⟨_, by rw [server]⟩
  obtain ⟨ls', c', run', hcalls, sees, -⟩ := run.part (R := fun _ => ServerStep C identity)
    (dashLink rt C identity fl) (fun i => ⟨_, idle i⟩) sees
    (fun _ _ _ _ _ _ sees h => h.own sees) (fun _ _ _ _ _ hev sees h => h.other hev sees)
  rw [hstart] at run'
  exact ⟨ls', c', run', hcalls, sees⟩

/-! ## What is shown -/

omit [DecidableEq ι] in
theorem mem_callsOf {ev : Event Dash} : ev ∈ callsOf ls ↔ ∃ i, .did i ev ∈ ls := by
  unfold callsOf
  rw [List.mem_filterMap]
  constructor
  · intro ⟨l, hl, heq⟩
    cases l with
    | did i ev' =>
      cases heq
      exact ⟨i, hl⟩
    | started i job => cases heq
    | returned i job m log out => cases heq
  · intro ⟨i, hl⟩
    exact ⟨_, hl, rfl⟩

theorem mem_returned {id : Text} {evs : List (Event Dash)} {x : Sample} : x ∈ returned id evs ↔
    ∃ r, .did (.collect id) r ∈ evs ∧ x ∈ batchSamples r := by
  unfold returned drained Drain.took
  rw [List.mem_flatMap]
  constructor
  · intro ⟨op, hop, hx⟩
    obtain ⟨ev, hev, heq⟩ := List.mem_filterMap.mp hop
    cases op with
    | put id' xs => cases hx
    | took id' xs =>
      dsimp only at hx
      split at hx
      · rename_i hid
        subst hid
        unfold dashOp at heq
        split at heq
        · cases heq
        · cases heq
          exact ⟨_, hev, hx⟩
        · cases heq
      · cases hx
  · intro ⟨r, hr, hx⟩
    refine ⟨.took id (batchSamples r), List.mem_filterMap.mpr ⟨_, hr, rfl⟩, ?_⟩
    simpa using hx

theorem mem_buffered {id : Text} {evs : List (Event Dash)} {x : Sample} (h : x ∈ buffered id evs) :
    ∃ samples verdict, .did (.server (.extendBuffer id samples verdict)) () ∈ evs ∧ x ∈ samples := by
  unfold buffered drained Drain.put at h
  obtain ⟨op, hop, hx⟩ := List.mem_flatMap.mp h
  obtain ⟨ev, hev, heq⟩ := List.mem_filterMap.mp hop
  cases op with
  | took id' xs => cases hx
  | put id' xs =>
    dsimp only at hx
    split at hx
    · rename_i hid
      subst hid
      unfold dashOp at heq
      split at heq
      · cases heq
        exact ⟨_, _, hev, hx⟩
      · cases heq
      · cases heq
    · cases hx

/-- What is added to the store was returned by `collect`, to the request that adds it. -/
theorem added_returned (run : Pool.Run (fun _ => DashStep C identity fl) P c₀ ls c)
    (quiet : c₀.Quiet) {id : Text} {x : Sample} (hx : x ∈ added id (callsOf ls)) :
    x ∈ returned id (callsOf ls) := by
  obtain ⟨ev, hev, hadds⟩ := List.mem_flatMap.mp hx
  obtain ⟨i, hdid⟩ := mem_callsOf.mp hev
  obtain ⟨pre, post, hls⟩ := List.append_of_mem hdid
  have hpre : pre ++ [.did i ev] <+: ls := ⟨post, by simp [hls]⟩
  obtain ⟨c₁, c₂, -, -, before, step, admitted, -⟩ := run.cut hpre
  have upto := before.snoc step admitted
  obtain ⟨job, conn, log, k, hbusy⟩ := step.of_did
  obtain ⟨rest, hbusy'⟩ := step.did_agent hbusy
  have hsteps := (upto.logs quiet).1 _ _ _ _ _ hbusy'
  cases job with
  | link job =>
    obtain ⟨a, hcall⟩ := @link_calls rt C identity fl job conn _ _ _
      ((before.logs quiet).1 _ _ _ _ _ hbusy)
    cases ev with
    | ok r b => cases r
    | refused r e => cases r
    | did a' b =>
      cases hcall
      cases hadds
  | collect deviceId window aggregation =>
    obtain ⟨batch, -, hreturned⟩ :=
      @collect_owing rt C identity fl deviceId window aggregation conn _ _ hsteps id
    have hlog : x ∈ returned id (log ++ [ev]) := by
      rw [hreturned, added_snoc]
      exact List.mem_append_left _ (List.mem_append_right _ hadds)
    obtain ⟨r, hr, hmem⟩ := mem_returned.mp hlog
    have hremembered := upto.remembered quiet (Or.inl ⟨_, _, _, hbusy'⟩) _ hr
    exact mem_returned.mpr ⟨r, mem_callsOf.mpr ⟨i, hpre.subset hremembered⟩, hmem⟩

/-- **Every sample that a user is shown was opened with the key of an attested session**, which was
alive at that time: a message's sequence number was accepted, its samples were buffered, and this
is one of them. -/
theorem shown_samples_attested (run : Pool.Run (fun _ => DashStep C identity fl) P c₀ ls c)
    (fresh : c₀.shared.Fresh) (idle : ∀ i, c₀.agents i = .idle .accepted) {i : ι} {deviceId : Text}
    {cutoff : UInt64} {r : List Sample}
    (step : Pool.Step (fun _ => DashStep C identity fl) c (.did i (.did (.window deviceId cutoff) r)) c')
    {x : Sample} (hx : x ∈ r) :
    Origin rt C c.shared.server.registry (linkCalls ls) deviceId x := by
  have quiet : c₀.Quiet := fun i => ⟨_, idle i⟩
  have hinv := buffers_run run fresh
  obtain ⟨rfl, -⟩ := step.answered
  have hstore : x ∈ c.shared.store deviceId := List.mem_of_mem_filter hx
  rw [hinv.store deviceId] at hstore
  have hadded := (rtake_sublist _ _).subset hstore
  have hbuffered := (returned_sublist hinv deviceId).subset (added_returned run quiet hadded)
  obtain ⟨samples, verdict, hev, hmem⟩ := mem_buffered hbuffered
  obtain ⟨j, hdid⟩ := mem_callsOf.mp hev
  obtain ⟨⟨registry, server⟩, -⟩ := fresh
  obtain ⟨ls', c', run', hcalls, buf, hsees⟩ := dash_link run server idle
  have hcall : (j, .did (.extendBuffer deviceId samples verdict) ()) ∈ Pool.calls ls' := by
    rw [hcalls]
    exact List.mem_filterMap.mpr ⟨_, Pool.mem_calls.mpr hdid, rfl⟩
  have horigin := buffered_origin run' (Pool.mem_calls.mp hcall) hmem
  rw [hcalls, hsees] at horigin
  exact horigin

end

namespace Vectors

/-! ## A user is shown the device's reading -/

/-- What a user is shown of the device. -/
def shownOf : Pool.Label deviceDash (Fin 2) → Option (List Sample)
  | .did _ (.did (.window id _) r) => if id = deviceName then some r else none
  | _ => none

theorem shownOf_eq {l : Pool.Label deviceDash (Fin 2)} {r : List Sample} (h : shownOf l = some r) :
    ∃ i cutoff, l = .did i (.did (.window deviceName cutoff) r) := by
  unfold shownOf at h
  split at h
  · split at h
    · rename_i hid
      cases h
      exact ⟨_, _, by rw [hid]⟩
    · cases h
  · cases h

end Vectors

theorem shown_samples_attested_played : ∃ ls c,
    Pool.Run (fun _ => DashStep Vectors.lib Vectors.serverIdentity.pub Vectors.dashFloats) Pool.Any
      Vectors.dashStart ls c ∧
    Origin Vectors.python Vectors.lib c.shared.server.registry (linkCalls ls) Vectors.deviceName
      Vectors.shownSample := by
  have hshown : Vectors.shownRun.1.filterMap Vectors.shownOf = [[Vectors.shownSample],
      [Vectors.shownSample, Vectors.nextSample], [Vectors.shownSample, Vectors.nextSample]] := by
    decide +kernel
  have run : Pool.Run _ Pool.Any _ _ _ := Vectors.shownRun_run.mono fun _ _ _ => trivial
  generalize Vectors.shownRun = played at hshown run
  have hmem : [Vectors.shownSample] ∈ played.1.filterMap Vectors.shownOf := by
    rw [hshown]
    exact List.mem_cons_self
  obtain ⟨l, hl, heq⟩ := List.mem_filterMap.mp hmem
  obtain ⟨i, cutoff, rfl⟩ := Vectors.shownOf_eq heq
  obtain ⟨pre, post, hsplit⟩ := List.append_of_mem hl
  have hpre : pre ++ [.did i (.did (.window Vectors.deviceName cutoff) [Vectors.shownSample])] <+:
      played.1 := ⟨post, by simp [hsplit]⟩
  obtain ⟨c, c', _, -, before, step, -, -⟩ := run.cut hpre
  have fresh : Vectors.dashStart.shared.Fresh := ⟨⟨_, rfl⟩, rfl⟩
  exact ⟨pre, c, before, shown_samples_attested before fresh (fun _ => rfl) step
    (List.mem_singleton_self _)⟩

end ConfidentialIoT
