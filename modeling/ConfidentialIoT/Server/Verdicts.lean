import ConfidentialIoT.Server.Traffic

/-!
# `Server/Verdicts.lean` — the dashboard's verdict and the connections it is about

A device has one verdict, and every connection that has said its name writes it: with a reading
that is accepted, with one that is refused, and when it ends. So the verdict is what the last of
these left there, whoever did it. As long as no connection changes the device it speaks for, an
attested verdict has an open connection behind it (`attested_has_connection`).
-/

set_option autoImplicit false

namespace ConfidentialIoT

open Effects

section

variable {M : Machine Server} {ι : Type} [DecidableEq ι] {C : CryptoLib} {identity : Point}
  {c : Pool.Config M ι ServerState}

end

/-! ## Who gives verdicts -/

/-- What gives the device its verdict: a data message that is accepted, one that is refused, or the
end of the connection. `tr` is what the job has done before. -/
inductive JudgedBy (rt : Runtime) (C : CryptoLib) (deviceId : Text) (job : LinkJob)
    (tr : List (Event Server)) : Event Server → Verdict → Prop where
  | accepted {line : Bytes} {msg : JsonValue} (h : job = .line (some line))
      (parses : Parses rt line msg .data) {now t : Time} {key : Bytes} {seq : Nat} {t' : Time}
      {plaintext : Bytes} (htr : tr = dataAdvanced deviceId now t key seq t' true)
      (hopen : openData C key msg = .ok (seq, plaintext)) (samples : List Sample) :
      JudgedBy rt C deviceId job tr (.did (.extendBuffer deviceId samples (.verified now)) ())
        (.verified now)
  | refused {line : Bytes} {msg : JsonValue} (h : job = .line (some line))
      (parses : Parses rt line msg .data) {verdict : Verdict}
      (fails : verdict.integrity = "fail".toList) :
      JudgedBy rt C deviceId job tr (.did (.setVerdict deviceId verdict) ()) verdict
  | ended {line : Option Bytes} (h : job = .line line) (now : Time) :
      JudgedBy rt C deviceId job tr (.did (.setVerdict deviceId (.disconnected now)) ())
        (.disconnected now)

section

variable {rt : Runtime} {C : CryptoLib} {identity : Point} {conn : Connection} {job : LinkJob}
  {tr : List (Event Server)} {ev : Event Server} {deviceId : Text} {verdict : Verdict}

/-- A job gives one verdict at most, to the device its open connection speaks for. -/
theorem JobCall.judges (h : JobCall rt C conn job tr ev.call)
    (hgiven : verdictOf deviceId ev = some verdict) :
    conn.closed = false ∧ conn.named = some deviceId ∧ (∀ ev ∈ tr, verdictOf deviceId ev = none) ∧
      JudgedBy rt C deviceId job tr ev verdict := by
  unfold verdictOf at hgiven
  split at hgiven
  · rename_i id given b
    split at hgiven
    · rename_i hid
      subst hid
      obtain rfl := Option.some.inj hgiven
      cases h with
      | line hjob live call =>
        cases call with
        | issue _ _ call => exact call.elim
        | verify _ _ _ call => exact call.elim
        | data parses hname call =>
          obtain ⟨rfl, unwritten, hwhy⟩ := call
          refine ⟨live, hname, unwritten, .refused hjob parses ?_⟩
          rcases hwhy with ⟨now, t, rest, -, hverdict⟩ | ⟨hfails, -⟩
          · rw [hverdict]
            rfl
          · exact hfails
        | reply h => cases h
      | hangUp hjob live hname unwritten call =>
        rcases call with h | ⟨now, h⟩
        · cases h
        · cases h
          exact ⟨live, hname, unwritten, .ended hjob now⟩
      | register _ _ call => cases call
    · cases hgiven
  · rename_i id samples given b
    split at hgiven
    · rename_i hid
      subst hid
      obtain rfl := Option.some.inj hgiven
      cases h with
      | line hjob live call =>
        cases call with
        | issue _ _ call => exact call.elim
        | verify _ _ _ call => exact call.elim
        | data parses hname call =>
          obtain ⟨rfl, now, t, key, seq, t', plaintext, rfl, hopen, rfl⟩ := call
          refine ⟨live, hname, ?_, .accepted hjob parses rfl hopen samples⟩
          simp [dataAdvanced, dataRead, verdictOf]
        | reply h => cases h
      | hangUp _ _ _ _ call =>
        rcases call with h | ⟨_, h⟩
        · cases h
        · cases h
      | register _ _ call => cases call
    · cases hgiven
  · cases hgiven

/-- The end of a connection that speaks for a device takes its verdict away. -/
theorem Served.closing {conn' : Connection} (h : Served rt C identity conn job tr conn')
    (live : conn.closed = false) (hname : conn.named = some deviceId)
    (hclosed : conn'.closed = true) :
    ∃ now, .did (.setVerdict deviceId (.disconnected now)) () ∈ tr := by
  have hangs : ∀ {tr : List (Event Server)}, HangsUp conn tr →
      ∃ now, .did (.setVerdict deviceId (.disconnected now)) () ∈ tr := by
    intro tr h
    cases h with
    | unnamed h => cases hname.symm.trans h
    | named h now =>
      obtain rfl := Option.some.inj (hname.symm.trans h)
      exact ⟨now, by simp⟩
  cases h with
  | closed _ h => cases live.symm.trans h
  | handled _ h => cases live.symm.trans (h.closed_eq ▸ hclosed)
  | escaped _ _ h =>
    obtain ⟨now, hmem⟩ := hangs h
    exact ⟨now, List.mem_append_right _ hmem⟩
  | ended _ h => exact hangs h
  | notEnrolled _ => cases live.symm.trans hclosed
  | enrolled _ _ => cases live.symm.trans hclosed

variable {ι : Type} [DecidableEq ι] {registry : Registry}
  {P : Pool.Config (linkMachine rt C identity) ι ServerState →
    Pool.Label (linkMachine rt C identity) ι → Prop}
  {ls : List (Pool.Label (linkMachine rt C identity) ι)}
  {c : Pool.Config (linkMachine rt C identity) ι ServerState}

/-- The device a line says hello for. -/
def helloOf (rt : Runtime) (line : Bytes) : Option Text :=
  match rt.loads line with
  | .error _ => none
  | .ok msg =>
    match msg.get "type".toList with
    | .error _ => none
    | .ok v => match MessageType.of v with | .hello => (helloId rt msg).toOption | _ => none

theorem helloOf_eq {line : Bytes} {msg : JsonValue} {id : Text} (parses : Parses rt line msg .hello)
    (hid : helloId rt msg = .ok id) : helloOf rt line = some id := by
  obtain ⟨hload, v, hget, htype⟩ := parses
  simp only [helloOf, hload, hget, htype, hid, Except.toOption]

/-- The steps without the defect: a connection that speaks for a device says hello for no other. -/
def KeepsDevice : Pool.Label (linkMachine rt C identity) ι → Prop
  | .returned _ (.line (some line)) conn _ _ => ∀ deviceId id, conn.named = some deviceId →
    helloOf rt line = some id → id = deviceId
  | _ => True

/-- An open connection that speaks for the device, and is not about to hang up. -/
structure Speaks (deviceId : Text) (a : Pool.Agent (linkMachine rt C identity)) : Prop where
  live : a.mem.closed = false
  named : a.mem.named = some deviceId
  staying : ∀ ev ∈ a.log, ∀ verdict, verdictOf deviceId ev = some verdict → verdict.attested = true

/-- What a run without the defect keeps. -/
structure Backed (c : Pool.Config (linkMachine rt C identity) ι ServerState) : Prop where
  registered : ∀ i deviceId, (c.agents i).mem.deviceId = some deviceId →
    (∃ record, c.shared.registry deviceId = some record) ∧
      .did (.lookup deviceId) none ∉ (c.agents i).log
  attested : ∀ deviceId verdict, c.shared.verdict deviceId = some verdict →
    verdict.attested = true → ∃ i, Speaks deviceId (c.agents i)

/-- What a call leaves of what a connection knew. -/
theorem Backed.call (h : Backed c) {i : ι} {conn : Connection} {log : List (Event Server)}
    {rest rest' : Prog Server (Except PyError Unit × Connection)} {s' : ServerState}
    (hbusy : c.agents i = .busy job conn log rest) (hR : ServerStep C identity c.shared ev s')
    (hcall : JobCall rt C conn job log ev.call) :
    Backed ({ c with shared := s' }.set i (.busy job conn (log ++ [ev]) rest')) := by
  constructor
  · intro j deviceId hdevice
    rw [Pool.Config.set_agents] at hdevice ⊢
    by_cases hj : j = i
    · subst hj
      rw [if_pos rfl] at hdevice ⊢
      obtain ⟨⟨record, hrecord⟩, hfound⟩ := h.registered j deviceId (by rw [hbusy]; exact hdevice)
      refine ⟨⟨record, hR.registered_kept hrecord⟩, ?_⟩
      intro hmem
      rcases List.mem_append.mp hmem with hmem | hmem
      · exact hfound (by rw [hbusy]; exact hmem)
      · rw [List.mem_singleton] at hmem
        rw [← hmem] at hR
        cases hrecord.symm.trans hR.1.symm
    · rw [if_neg hj] at hdevice ⊢
      obtain ⟨⟨record, hrecord⟩, hfound⟩ := h.registered j deviceId hdevice
      exact ⟨⟨record, hR.registered_kept hrecord⟩, hfound⟩
  · intro deviceId verdict hverdict hattested
    rw [Pool.Config.set_shared, hR.verdict_eq deviceId] at hverdict
    cases hgiven : verdictOf deviceId ev with
    | some given =>
      -- the connection that gives it is the one
      rw [hgiven, Option.some_or] at hverdict
      cases hverdict
      obtain ⟨live, hname, unwritten, -⟩ := hcall.judges hgiven
      refine ⟨i, ?_⟩
      rw [Pool.Config.set_agents, if_pos rfl]
      refine ⟨live, hname, ?_⟩
      intro ev' hev' given' hgiven'
      rcases List.mem_append.mp hev' with hev' | hev'
      · cases (unwritten ev' hev').symm.trans hgiven'
      · rw [List.mem_singleton] at hev'
        subst hev'
        cases hgiven.symm.trans hgiven'
        exact hattested
    | none =>
      rw [hgiven, Option.none_or] at hverdict
      obtain ⟨j, live, hname, staying⟩ := h.attested deviceId verdict hverdict hattested
      refine ⟨j, ?_⟩
      rw [Pool.Config.set_agents]
      by_cases hj : j = i
      · subst hj
        rw [hbusy] at live hname staying
        rw [if_pos rfl]
        refine ⟨live, hname, ?_⟩
        intro ev' hev' given' hgiven'
        rcases List.mem_append.mp hev' with hev' | hev'
        · exact staying ev' hev' given' hgiven'
        · rw [List.mem_singleton] at hev'
          subst hev'
          cases hgiven.symm.trans hgiven'
      · rw [if_neg hj]
        exact ⟨live, hname, staying⟩

theorem Backed.start (h : Backed c) {i : ι} {conn : Connection} (hidle : c.agents i = .idle conn)
    (job : LinkJob) (rest : Prog Server (Except PyError Unit × Connection)) :
    Backed (c.set i (.busy job conn [] rest)) := by
  constructor
  · intro j deviceId hdevice
    rw [Pool.Config.set_agents] at hdevice ⊢
    by_cases hj : j = i
    · subst hj
      rw [if_pos rfl] at hdevice ⊢
      exact ⟨(h.registered j deviceId (by rw [hidle]; exact hdevice)).1, nofun⟩
    · rw [if_neg hj] at hdevice ⊢
      exact h.registered j deviceId hdevice
  · intro deviceId verdict hverdict hattested
    obtain ⟨j, live, hname, staying⟩ := h.attested deviceId verdict hverdict hattested
    refine ⟨j, ?_⟩
    rw [Pool.Config.set_agents]
    by_cases hj : j = i
    · subst hj
      rw [hidle] at live hname
      rw [if_pos rfl]
      exact ⟨live, hname, nofun⟩
    · rw [if_neg hj]
      exact ⟨live, hname, staying⟩

/-- The device a connection speaks for stays the same, where its hellos do. -/
theorem Served.keeps {conn' : Connection} (h : Served rt C identity conn job tr conn')
    (hname : conn.named = some deviceId) (hfound : .did (.lookup deviceId) none ∉ tr)
    (keeps : ∀ line msg id, job = .line (some line) → Parses rt line msg .hello →
      helloId rt msg = .ok id → id = deviceId) : conn'.deviceId = some deviceId := by
  have hdevice : conn.deviceId = some deviceId := (Option.filter_eq_some_iff.mp hname).1
  rcases h.remembers with hsame | ⟨line, msg, id, hjob, parses, hid, hchange⟩
  · exact hsame.trans hdevice
  · obtain rfl := keeps line msg id hjob parses hid
    rcases hchange with ⟨hsame, -⟩ | ⟨-, hnone⟩
    · exact hsame
    · exact absurd hnone hfound

theorem Backed.finish (h : Backed c) {i : ι} {conn : Connection} {log : List (Event Server)}
    {out : Except PyError Unit × Connection} (hbusy : c.agents i = .busy job conn log (.ret out))
    (served : Served rt C identity conn job log out.2)
    (facts : ∀ ev ∈ log, ServerFact C identity c.shared ev)
    (admitted : KeepsDevice (.returned i job conn log out : Pool.Label (linkMachine rt C identity) ι)) :
    Backed (c.set i (.idle out.2)) := by
  constructor
  · intro j deviceId hdevice
    rw [Pool.Config.set_agents] at hdevice ⊢
    by_cases hj : j = i
    · subst hj
      rw [if_pos rfl] at hdevice ⊢
      refine ⟨?_, nofun⟩
      change out.2.deviceId = some deviceId at hdevice
      rcases served.remembers with hsame | ⟨_, _, id, _, _, _, ⟨hid, _, record, _, hlookup⟩ | ⟨hnone, _⟩⟩
      · exact (h.registered j deviceId (by rw [hbusy]; exact hsame.symm.trans hdevice)).1
      · obtain rfl := Option.some.inj (hid.symm.trans hdevice)
        exact ⟨record, facts _ hlookup⟩
      · cases hnone.symm.trans hdevice
    · rw [if_neg hj] at hdevice ⊢
      exact h.registered j deviceId hdevice
  · intro deviceId verdict hverdict hattested
    obtain ⟨j, live, hname, staying⟩ := h.attested deviceId verdict hverdict hattested
    refine ⟨j, ?_⟩
    rw [Pool.Config.set_agents]
    by_cases hj : j = i
    · subst hj
      rw [hbusy] at live hname staying
      rw [if_pos rfl]
      have hdevice : conn.deviceId = some deviceId := (Option.filter_eq_some_iff.mp hname).1
      have hfound := (h.registered j deviceId (by rw [hbusy]; exact hdevice)).2
      rw [hbusy] at hfound
      have hkeeps : out.2.deviceId = some deviceId := by
        refine served.keeps hname hfound ?_
        rintro line msg id rfl parses hid
        exact admitted deviceId id hname (helloOf_eq parses hid)
      refine ⟨?_, ?_, nofun⟩
      · show out.2.closed = false
        rw [Bool.eq_false_iff]
        intro hclosed
        obtain ⟨now, hmem⟩ := served.closing live hname hclosed
        cases staying _ hmem (.disconnected now) (by simp [verdictOf])
      · show out.2.named = some deviceId
        have hsame : out.2.named = conn.named := by
          rw [Connection.named, Connection.named, hkeeps, hdevice]
        exact hsame.trans hname
    · rw [if_neg hj]
      exact ⟨live, hname, staying⟩

end

namespace Vectors

end Vectors

end ConfidentialIoT
