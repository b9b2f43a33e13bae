import ConfidentialIoT.Lib.Drain
import ConfidentialIoT.Lib.Embed
import ConfidentialIoT.Server.Link

/-!
# `Server/Collect.lean` — what the dashboard's users collect

`AttestedNetworkDeviceLink.collect`, `DataStore` and `CollectionService.collect`, next to the
link's own threads. `with self._lock` makes the buffer's snapshot and its `clear` one step.
Nothing in `CollectionService.collect` suspends it, so on the event loop one request's collect
runs to its end before another's starts (`EventLoop`), while the link's threads go on.

The comparison of a timestamp and `processing.aggregate` compute with doubles, and are a
parameter.
-/

set_option autoImplicit false

namespace ConfidentialIoT

open Effects

/-! ## What the service calls -/

/-- `_MAX_PER_DEVICE` -/
def maxPerDevice : Nat := 100000

/-- `WINDOWS` -/
def collectWindows : List (Text × Nat) := [("1h".toList, 3600), ("24h".toList, 86400)]

/-- `AGGREGATIONS` -/
def aggregations : List Text :=
  ["raw".toList, "mean".toList, "min".toList, "max".toList, "weighted_avg".toList]

inductive DashAct where
  | server (a : ServerAct)
  /-- the locked body of the link's `collect` -/
  | collect (deviceId : Text)
  /-- `DataStore.add` -/
  | add (deviceId : Text) (samples : List Sample)
  /-- `time.time()` -/
  | time
  /-- the locked body of `DataStore.window` -/
  | window (deviceId : Text) (cutoff : UInt64)

@[reducible] def DashAct.Res : DashAct → Type
  | .server a => a.Res
  | .collect _ => List Sample × Option Verdict
  | .add _ _ => Unit
  | .time => Time
  | .window _ _ => List Sample

@[reducible] def Dash : Sig where
  Err := Empty
  Req := Empty
  Out := nofun
  Act := DashAct
  Res := DashAct.Res

def dashPart : Embedding Server Dash where
  act
    | .req r => nomatch r
    | .act a => .server a
  answer
    | .req r, _ => nomatch r
    | .act _, b => b
  back
    | .req r, _ => nomatch r
    | .act _, b => b
  answer_back
    | .req r, _ => nomatch r
    | .act _, _ => rfl

/-- The call of the link that a call is. -/
def linkEvent : Event Dash → Option (Event Server)
  | .did (.server a) b => some (.did a b)
  | _ => none

/-! ## The functions -/

/-- `Batch` -/
structure Batch where
  deviceId : Text
  window : Text
  samples : List Sample
  attested : Bool
  integrity : Text
  measurementOk : Bool
  note : Text

/-- What `collect` makes of the buffer's snapshot and the verdict. -/
def Batch.of (deviceId window : Text) : List Sample × Option Verdict → Batch
  | (_, none) => ⟨deviceId, window, [], false, "fail".toList, false,
      "no data received from this device yet".toList⟩
  | (new, some verdict) => ⟨deviceId, window, new.rtake 1, verdict.attested, verdict.integrity,
      verdict.attested, verdict.note⟩

/-- The doubles of the dashboard. -/
structure Floats where
  /-- `now - seconds` -/
  cutoff : Time → Nat → UInt64
  /-- `s.ts >= cutoff` -/
  since : (ts cutoff : UInt64) → Bool
  /-- `processing.aggregate` -/
  aggregate : List Sample → Text → Except StdError JsonValue

/-- What the service answers a request with. -/
structure CollectResult where
  deviceId : Text
  window : Text
  aggregation : Text
  result : JsonValue
  nSamples : Nat
  attested : Bool
  integrity : Text
  measurementOk : Bool
  note : Text

abbrev DashM (α : Type) : Type := Proc Dash StdError Unit α

def dash (a : DashAct) : DashM a.Res := Proc.act (S := Dash) a

@[simp] theorem wpP_dash {A : List (Event Dash) → Call Dash → Prop}
    {E : List (Event Dash) → Unit → StdError → Prop} {a : DashAct} {u : Unit}
    {tr : List (Event Dash)} {Q : List (Event Dash) → Unit → a.Res → Prop} :
    wpP (α := no_index a.Res) A (dash a) Q E u tr ↔
      A tr (.act a) ∧ ∀ b : a.Res, Q (tr ++ [.did a b]) u b := Iff.rfl

/-- `AttestedNetworkDeviceLink.collect` -/
def linkCollect (deviceId window : Text) : DashM Batch := do
  return Batch.of deviceId window (← dash (.collect deviceId))

/-- `collect`, answered so, returns this batch. -/
def Collects (deviceId window : Text) (r : List Sample × Option Verdict) (batch : Batch) : Prop :=
  Runs ((linkCollect deviceId window).go ()) [.did (.collect deviceId) r] (.ok batch, ())

/-- Whatever `collect` does, it is one locked call, and it returns what it makes of the answer. -/
theorem linkCollect_runs {deviceId window : Text} {tr : List (Event Dash)}
    {out : Except StdError Batch × Unit} (h : Runs ((linkCollect deviceId window).go ()) tr out) :
    ∃ r, tr = [.did (.collect deviceId) r] ∧ out = (.ok (Batch.of deviceId window r), ()) := by
  have hwp : wpP (fun _ _ => True) (linkCollect deviceId window)
      (fun tr _ batch => ∃ r, tr = [.did (.collect deviceId) r] ∧ batch = Batch.of deviceId window r)
      (fun _ _ _ => False) () [] := by
    simp only [linkCollect, wpP_bind, wpP_dash, wpP_pure, List.nil_append, true_and]
    exact fun r => ⟨r, rfl, rfl⟩
  obtain ⟨result, u⟩ := out
  cases result with
  | error e => exact (wp_runs h hwp).elim
  | ok batch =>
    obtain ⟨r, htr, rfl⟩ := wp_runs h hwp
    exact ⟨r, htr, rfl⟩

theorem collects_iff {deviceId window : Text} {r : List Sample × Option Verdict} {batch : Batch} :
    Collects deviceId window r batch ↔ batch = Batch.of deviceId window r := by
  constructor
  · intro h
    obtain ⟨r', htr, hout⟩ := linkCollect_runs h
    cases htr
    cases hout
    rfl
  · intro h
    subst h
    exact Steps.call (S := Dash) (c := .act (.collect deviceId)) r (.refl _)

/-- `DataStore.window` -/
def storeWindow (fl : Floats) (deviceId : Text) (seconds : Nat) : DashM (List Sample) := do
  let now ← dash .time
  dash (.window deviceId (fl.cutoff now seconds))

/-- `CollectionService.collect` -/
def serviceCollect (fl : Floats) (deviceId window aggregation : Text) : DashM CollectResult := do
  match collectWindows.lookup window with
  | none => throw .valueError
  | some seconds =>
    if aggregation ∉ aggregations then
      throw .valueError
    let batch ← linkCollect deviceId window
    dash (.add deviceId batch.samples)
    let windowSamples ← storeWindow fl deviceId seconds
    let result ← Proc.ofOutcome (fl.aggregate windowSamples aggregation)
    return ⟨deviceId, window, aggregation, result, windowSamples.length, batch.attested,
      batch.integrity, batch.measurementOk, batch.note⟩

/-- A request as it is served: what the link's `collect` returns is added, and the window is read. -/
inductive Request (fl : Floats) (deviceId window : Text) (seconds : Nat) :
    List (Event Dash) → Prop where
  | mk {r : List Sample × Option Verdict} {batch : Batch} {now : Time} {samples : List Sample}
      (collects : Collects deviceId window r batch) :
      Request fl deviceId window seconds [.did (.collect deviceId) r,
        .did (.add deviceId batch.samples) (), .did .time now,
        .did (.window deviceId (fl.cutoff now seconds)) samples]

/-- A request is refused before its first call, or it is served. -/
theorem serviceCollect_runs {fl : Floats} {deviceId window aggregation : Text}
    {tr : List (Event Dash)} {out : Except StdError CollectResult × Unit}
    (h : Runs ((serviceCollect fl deviceId window aggregation).go ()) tr out) :
    ((collectWindows.lookup window = none ∨ aggregation ∉ aggregations) ∧ tr = [] ∧
        out.1 = .error .valueError) ∨
      ∃ seconds, collectWindows.lookup window = some seconds ∧ aggregation ∈ aggregations ∧
        Request fl deviceId window seconds tr := by
  have hwp : wpP (fun _ _ => True) (serviceCollect fl deviceId window aggregation)
      (fun tr _ _ => ∃ seconds, collectWindows.lookup window = some seconds ∧
        aggregation ∈ aggregations ∧ Request fl deviceId window seconds tr)
      (fun tr _ e => ((collectWindows.lookup window = none ∨ aggregation ∉ aggregations) ∧
          tr = [] ∧ e = .valueError) ∨
        ∃ seconds, collectWindows.lookup window = some seconds ∧ aggregation ∈ aggregations ∧
          Request fl deviceId window seconds tr) () [] := by
    unfold serviceCollect linkCollect storeWindow
    cases hwindow : collectWindows.lookup window with
    | none => exact Or.inl ⟨Or.inl rfl, rfl, rfl⟩
    | some seconds =>
      simp only [wpP_bind, wpP_ite, wpP_throw, wpP_dash, wpP_pure, wpP_ofOutcome, List.nil_append]
      refine ⟨fun hbad => Or.inl ⟨Or.inr hbad, trivial, trivial⟩, ?_⟩
      intro haggregation
      have hknown : aggregation ∈ aggregations := of_not_not haggregation
      refine ⟨trivial, fun r => ⟨trivial, fun _ => ⟨trivial, fun now => ⟨trivial, ?_⟩⟩⟩⟩
      intro samples
      have hserved : Request fl deviceId window seconds [.did (.collect deviceId) r,
          .did (.add deviceId (Batch.of deviceId window r).samples) (), .did .time now,
          .did (.window deviceId (fl.cutoff now seconds)) samples] := .mk (collects_iff.mpr rfl)
      exact ⟨fun _ _ => ⟨seconds, rfl, hknown, hserved⟩,
        fun _ _ => Or.inr ⟨seconds, rfl, hknown, hserved⟩⟩
  obtain ⟨result, u⟩ := out
  cases result with
  | ok _ => exact Or.inr (wp_runs h hwp)
  | error e =>
    rcases wp_runs h hwp with ⟨hbad, htr, rfl⟩ | hserved
    · exact Or.inl ⟨hbad, htr, rfl⟩
    · exact Or.inr hserved

/-! ## Threads and requests -/

inductive DashJob where
  /-- a thread of the link, or a registration -/
  | link (job : LinkJob)
  /-- one request of a user -/
  | collect (deviceId window aggregation : Text)

def dashCode (rt : Runtime) (C : CryptoLib) (identity : Point) (fl : Floats) :
    DashJob → Connection → Prog Dash (Option (Except StdError CollectResult) × Connection)
  | .link job, conn =>
    dashPart.prog ((linkJob rt C identity job).go conn) >>= fun r => .ret (none, r.2)
  | .collect deviceId window aggregation, conn =>
    (serviceCollect fl deviceId window aggregation).go () >>= fun r => .ret (some r.1, conn)

@[reducible] def dashMachine (rt : Runtime) (C : CryptoLib) (identity : Point) (fl : Floats) :
    Machine Dash where
  Job := DashJob
  Mem := Connection
  Out := Option (Except StdError CollectResult) × Connection
  code := dashCode rt C identity fl
  mem out := out.2

/-- What the server has in memory. -/
structure DashState where
  server : ServerState
  /-- `DataStore._by_device` -/
  store : Text → List Sample

/-- What a step answers and does. -/
def DashStep (C : CryptoLib) (identity : Point) (fl : Floats) (s : DashState) :
    Event Dash → DashState → Prop
  | .did (.server a) b, s' => ServerStep C identity s.server (.did a b) s'.server ∧ s'.store = s.store
  | .did (.collect deviceId) r, s' => r = (s.server.buf deviceId, s.server.verdict deviceId) ∧
    s' = { s with server := { s.server with buf := Function.update s.server.buf deviceId [] } }
  | .did (.add deviceId samples) _, s' =>
    let all := s.store deviceId ++ samples
    s' = { s with store := Function.update s.store deviceId (all.rtake maxPerDevice) }
  | .did .time _, s' => s' = s
  | .did (.window deviceId cutoff) r, s' =>
    r = (s.store deviceId).filter (fun x => fl.since x.ts cutoff) ∧ s' = s
  | .ok r _, _ => nomatch r
  | .refused r _, _ => nomatch r

/-! ## What was buffered, and what was collected -/

/-- The samples of a snapshot that a batch carries. -/
def batchSamples (r : List Sample × Option Verdict) : List Sample := (Batch.of [] [] r).samples

theorem Batch.of_samples (deviceId window : Text) (r : List Sample × Option Verdict) :
    (Batch.of deviceId window r).samples = batchSamples r := by
  obtain ⟨new, _ | verdict⟩ := r <;> rfl

theorem Batch.of_deviceId (deviceId window : Text) (r : List Sample × Option Verdict) :
    (Batch.of deviceId window r).deviceId = deviceId := by
  obtain ⟨new, _ | verdict⟩ := r <;> rfl

/-- A call, as something put under a device or taken from under it. -/
def dashOp : Event Dash → Option (Drain.Op Text Sample)
  | .did (.server (.extendBuffer deviceId samples _)) _ => some (.put deviceId samples)
  | .did (.collect deviceId) r => some (.took deviceId (batchSamples r))
  | _ => none

/-- What was added to the store. -/
def dashAdded (deviceId : Text) : Event Dash → List Sample
  | .did (.add id samples) _ => if id = deviceId then samples else []
  | _ => []

section

variable {M : Machine Dash} {ι : Type}

/-- The calls of a run, whoever made them. -/
def callsOf (ls : List (Pool.Label M ι)) : List (Event Dash) := ls.filterMap fun
  | .did _ ev => some ev
  | _ => none

theorem callsOf_snoc (ls : List (Pool.Label M ι)) (l : Pool.Label M ι) :
    callsOf (ls ++ [l]) = callsOf ls ++ match l with | .did _ ev => [ev] | _ => [] := by
  cases l <;> simp [callsOf]

/-- The buffers' history. -/
def drained (evs : List (Event Dash)) : List (Drain.Op Text Sample) := evs.filterMap dashOp

/-- `_on_data` buffered these for a device. -/
def buffered (deviceId : Text) (evs : List (Event Dash)) : List Sample :=
  Drain.put deviceId (drained evs)

/-- `collect` returned these for a device, one batch after the other. -/
def returned (deviceId : Text) (evs : List (Event Dash)) : List Sample :=
  Drain.took deviceId (drained evs)

/-- These were buffered for a device since its last `collect`. -/
def uncollected (deviceId : Text) (evs : List (Event Dash)) : List Sample :=
  Drain.pending deviceId (drained evs)

/-- These were added to the store for a device. -/
def added (deviceId : Text) (evs : List (Event Dash)) : List Sample :=
  evs.flatMap (dashAdded deviceId)

end

/-! ## Any interleaving -/

/-- A server that has just started. -/
def DashState.Fresh (s : DashState) : Prop :=
  (∃ registry, s.server = .started registry) ∧ s.store = fun _ => []

/-- The buffers hold the newest of what was not collected, and whoever has a sample has a
verdict. The store holds the newest of what was added to it. -/
structure BuffersInv (evs : List (Event Dash)) (s : DashState) : Prop where
  buf : ∀ id, s.server.buf id = (uncollected id evs).rtake maxBuffer
  verdict : ∀ id, s.server.verdict id = none → uncollected id evs = []
  store : ∀ id, s.store id = (added id evs).rtake maxPerDevice
  newest : Drain.Newest (drained evs)

section

variable {C : CryptoLib} {identity : Point} {fl : Floats} {evs : List (Event Dash)} {ev : Event Dash}
  {s s' : DashState}

theorem drained_snoc (evs : List (Event Dash)) (ev : Event Dash) :
    drained (evs ++ [ev]) = drained evs ++ (dashOp ev).toList := by
  rw [drained, List.filterMap_append]
  cases hop : dashOp ev <;> simp [drained, hop]

theorem added_snoc (id : Text) (evs : List (Event Dash)) (ev : Event Dash) :
    added id (evs ++ [ev]) = added id evs ++ dashAdded id ev := by
  simp [added]

/-- A step of the link's threads: it buffers something, or it leaves the buffers alone. -/
theorem serverStep_buf {s s' : ServerState} {a : ServerAct} {b : a.Res}
    (h : ServerStep C identity s (.did a b) s') :
    (∃ id samples verdict, dashOp (.did (.server a) b) = some (.put id samples) ∧
        s' = s.extendBuffer id samples verdict) ∨
      dashOp (.did (.server a) b) = none ∧ s'.buf = s.buf := by
  cases a with
  | extendBuffer id samples verdict => exact Or.inl ⟨id, samples, verdict, rfl, h⟩
  | register id ak pcr bank ta =>
    have hs' := congrArg Prod.snd h
    refine Or.inr ⟨rfl, ?_⟩
    rw [show s' = _ from hs', ServerState.register]
    split <;> rfl
  | sessionKey id =>
    have hs' := congrArg Prod.snd h
    refine Or.inr ⟨rfl, ?_⟩
    rw [show s' = _ from hs', ServerState.sessionKey]
    split
    · rfl
    · split <;> rfl
  | advanceSeq id seq =>
    have hs' := congrArg Prod.snd h
    refine Or.inr ⟨rfl, ?_⟩
    rw [show s' = _ from hs', ServerState.advanceSeq]
    split
    · rfl
    · split
      · rfl
      · split <;> rfl
  | storeSession _ _ | setPending _ _ | time | randomBytes _ | writeline _ | setVerdict _ _ =>
    obtain rfl := h
    exact Or.inr ⟨rfl, rfl⟩
  | lookup _ | p256Generate | ecVerify _ _ _ _ | popPending _ =>
    obtain ⟨-, rfl⟩ := h
    exact Or.inr ⟨rfl, rfl⟩
  | signServerIdentity _ =>
    obtain ⟨-, -, rfl⟩ := h
    exact Or.inr ⟨rfl, rfl⟩

/-- Nothing is put or taken. -/
theorem BuffersInv.quiet (hi : BuffersInv evs s) (hop : dashOp ev = none)
    (hbuf : s'.server.buf = s.server.buf)
    (hverdict : ∀ id, s'.server.verdict id = none → s.server.verdict id = none)
    (hstore : ∀ id, s'.store id = (s.store id ++ dashAdded id ev).rtake maxPerDevice) :
    BuffersInv (evs ++ [ev]) s' := by
  have hdrained : drained (evs ++ [ev]) = drained evs := by
    rw [drained_snoc, hop]
    exact List.append_nil _
  have hsame : ∀ id, uncollected id (evs ++ [ev]) = uncollected id evs := by
    intro id
    rw [uncollected, hdrained, uncollected]
  refine ⟨?_, ?_, ?_, ?_⟩
  · intro id
    rw [hbuf, hsame, hi.buf id]
  · intro id hnone
    rw [hsame]
    exact hi.verdict id (hverdict id hnone)
  · intro id
    rw [hstore, hi.store id, rtake_append_rtake, added_snoc]
  · rw [hdrained]
    exact hi.newest

/-- A store that nothing is added to. -/
theorem BuffersInv.unstored (hi : BuffersInv evs s) {id : Text} (hadded : dashAdded id ev = []) :
    s.store id = (s.store id ++ dashAdded id ev).rtake maxPerDevice := by
  have hlen : (s.store id).length ≤ maxPerDevice := by
    rw [hi.store id]
    exact length_rtake_le _ _
  rw [hadded, List.append_nil, rtake_of_length_le hlen]

/-- `_on_data` buffers. -/
theorem BuffersInv.put (hi : BuffersInv evs s) {id : Text} {samples : List Sample}
    {verdict : Verdict} (hop : dashOp ev = some (.put id samples))
    (hserver : s'.server = s.server.extendBuffer id samples verdict) (hstore : s'.store = s.store)
    (hadded : ∀ id', dashAdded id' ev = []) : BuffersInv (evs ++ [ev]) s' := by
  have hdrained : drained (evs ++ [ev]) = drained evs ++ [.put id samples] := by
    rw [drained_snoc, hop]
    rfl
  have hpending : ∀ id', uncollected id' (evs ++ [ev]) =
      uncollected id' evs ++ if id = id' then samples else [] := by
    intro id'
    rw [uncollected, hdrained]
    exact Drain.pending_put ..
  refine ⟨?_, ?_, ?_, ?_⟩
  · intro id'
    rw [hserver, hpending]
    by_cases hid : id = id'
    · subst hid
      rw [if_pos rfl, ← rtake_append_rtake, ← hi.buf id]
      exact Function.update_self ..
    · rw [if_neg hid, List.append_nil, ← hi.buf id']
      exact Function.update_of_ne (Ne.symm hid) ..
  · intro id' hnone
    rw [hserver] at hnone
    by_cases hid : id = id'
    · subst hid
      cases (Function.update_self ..).symm.trans hnone
    · rw [hpending, if_neg hid, List.append_nil]
      exact hi.verdict id' ((Function.update_of_ne (Ne.symm hid) ..).symm.trans hnone)
  · intro id'
    rw [hstore, added_snoc, ← rtake_append_rtake, ← hi.store id']
    exact hi.unstored (hadded id')
  · rw [hdrained]
    exact Drain.newest_put hi.newest id samples

/-- What a batch carries is the newest of what was not collected: the bound of the buffer has not
cost it, and a device without a verdict has nothing buffered. -/
theorem BuffersInv.batch (hi : BuffersInv evs s) (id : Text) :
    batchSamples (s.server.buf id, s.server.verdict id) = (uncollected id evs).rtake 1 := by
  cases hverdict : s.server.verdict id with
  | none =>
    rw [hi.verdict id hverdict]
    rfl
  | some verdict =>
    have hnewest : batchSamples (s.server.buf id, some verdict) = (s.server.buf id).rtake 1 := rfl
    rw [hnewest, hi.buf id, rtake_rtake]
    decide

/-- `collect` empties a buffer. -/
theorem BuffersInv.took (hi : BuffersInv evs s) {id : Text} {xs : List Sample}
    (hop : dashOp ev = some (.took id xs)) (hxs : xs = (uncollected id evs).rtake 1)
    (hbuf : s'.server.buf = Function.update s.server.buf id [])
    (hverdict : s'.server.verdict = s.server.verdict) (hstore : s'.store = s.store)
    (hadded : ∀ id', dashAdded id' ev = []) : BuffersInv (evs ++ [ev]) s' := by
  have hdrained : drained (evs ++ [ev]) = drained evs ++ [.took id xs] := by
    rw [drained_snoc, hop]
    rfl
  have hpending : ∀ id', uncollected id' (evs ++ [ev]) =
      if id = id' then [] else uncollected id' evs := by
    intro id'
    rw [uncollected, hdrained]
    exact Drain.pending_took ..
  refine ⟨?_, ?_, ?_, ?_⟩
  · intro id'
    rw [hbuf, hpending]
    by_cases hid : id = id'
    · subst hid
      rw [if_pos rfl]
      exact Function.update_self ..
    · rw [if_neg hid, ← hi.buf id']
      exact Function.update_of_ne (Ne.symm hid) ..
  · intro id' hnone
    rw [hverdict] at hnone
    rw [hpending, hi.verdict id' hnone, ite_self]
  · intro id'
    rw [hstore, added_snoc, ← rtake_append_rtake, ← hi.store id']
    exact hi.unstored (hadded id')
  · rw [hdrained]
    exact Drain.newest_took hi.newest hxs

/-- What one call does to the buffers and the store. -/
theorem BuffersInv.step (hi : BuffersInv evs s) (h : DashStep C identity fl s ev s') :
    BuffersInv (evs ++ [ev]) s' := by
  cases ev with
  | ok r b => cases r
  | refused r e => cases r
  | did a b =>
    cases a with
    | server a =>
      obtain ⟨hserver, hstore⟩ := h
      rcases serverStep_buf hserver with ⟨id, samples, verdict, hop, hs'⟩ | ⟨hop, hbuf⟩
      · exact hi.put hop hs' hstore fun _ => rfl
      · refine hi.quiet hop hbuf ?_ ?_
        · intro id hnone
          rw [hserver.verdict_eq id] at hnone
          exact (Option.or_eq_none_iff.mp hnone).2
        · intro id
          rw [hstore]
          exact hi.unstored rfl
    | collect id =>
      obtain ⟨rfl, rfl⟩ := h
      exact hi.took rfl (hi.batch id) rfl rfl rfl fun _ => rfl
    | add id samples =>
      obtain rfl := h
      refine hi.quiet rfl rfl (fun _ hnone => hnone) ?_
      intro id'
      by_cases hid : id = id'
      · subst hid
        simp [dashAdded]
      · have hnone : dashAdded id' (.did (.add id samples) b) = [] := if_neg hid
        exact (Function.update_of_ne (Ne.symm hid) ..).trans (hi.unstored hnone)
    | time =>
      obtain rfl := h
      exact hi.quiet rfl rfl (fun _ hnone => hnone) fun id => hi.unstored rfl
    | window id cutoff =>
      obtain ⟨-, rfl⟩ := h
      exact hi.quiet rfl rfl (fun _ hnone => hnone) fun id => hi.unstored rfl

end

section

variable {M : Machine Dash} {ι : Type} [DecidableEq ι] {C : CryptoLib} {identity : Point} {fl : Floats}
  {P : Pool.Config M ι DashState → Pool.Label M ι → Prop} {c₀ c : Pool.Config M ι DashState}
  {ls : List (Pool.Label M ι)}

theorem BuffersInv.init {s : DashState} (fresh : s.Fresh) : BuffersInv [] s := by
  obtain ⟨⟨registry, hserver⟩, hstore⟩ := fresh
  refine ⟨?_, fun _ _ => rfl, ?_, Drain.newest_nil⟩
  · intro id
    rw [hserver]
    exact (rtake_of_length_le (Nat.zero_le maxBuffer)).symm
  · intro id
    rw [hstore]
    exact (rtake_of_length_le (Nat.zero_le maxPerDevice)).symm

/-- Whoever makes the calls, and in whatever order. -/
theorem buffers_run (run : Pool.Run (fun _ => DashStep C identity fl) P c₀ ls c)
    (fresh : c₀.shared.Fresh) : BuffersInv (callsOf ls) c.shared := by
  refine run.invariant (I := fun ls c => BuffersInv (callsOf ls) c.shared) (.init fresh) ?_
  intro ls c l c' _ hi step _
  rw [callsOf_snoc]
  cases step with
  | start job _ =>
    rw [List.append_nil]
    exact hi
  | call r _ hR => exact hi.step hR
  | finish _ =>
    rw [List.append_nil]
    exact hi

end

/-! ## The event loop -/

section

variable {rt : Runtime} {C : CryptoLib} {identity : Point} {fl : Floats} {ι : Type}

/-- A request is being served, and has made these calls. -/
def Collecting (c : Pool.Config (dashMachine rt C identity fl) ι DashState) (i : ι)
    (log : List (Event Dash)) : Prop :=
  ∃ id window aggregation conn rest,
    c.agents i = .busy (.collect id window aggregation) conn log rest

/-- A request is taken up when none is being served. -/
def EventLoop (c : Pool.Config (dashMachine rt C identity fl) ι DashState)
    (l : Pool.Label (dashMachine rt C identity fl) ι) : Prop :=
  ∀ i id window aggregation, l = .started i (.collect id window aggregation) →
    ∀ j log, ¬ Collecting c j log

theorem returned_append (id : Text) (evs evs' : List (Event Dash)) :
    returned id (evs ++ evs') = returned id evs ++ returned id evs' := by
  rw [returned, drained, List.filterMap_append]
  exact Drain.took_append ..

theorem added_append (id : Text) (evs evs' : List (Event Dash)) :
    added id (evs ++ evs') = added id evs ++ added id evs' := List.flatMap_append

/-- What is returned and not added yet: at most one sample. -/
def Owing (log : List (Event Dash)) : Prop :=
  ∀ id, ∃ batch, batch.length ≤ 1 ∧ returned id log = added id log ++ batch

/-- Everything returned is added. -/
def Settled (log : List (Event Dash)) : Prop := ∀ id, returned id log = added id log

theorem Settled.owing {log : List (Event Dash)} (h : Settled log) : Owing log :=
  fun id => ⟨[], Nat.zero_le 1, (h id).trans (List.append_nil _).symm⟩

theorem length_batchSamples (r : List Sample × Option Verdict) : (batchSamples r).length ≤ 1 := by
  obtain ⟨new, _ | verdict⟩ := r
  · exact Nat.zero_le 1
  · exact length_rtake_le new 1

/-- A call that neither collects nor adds. -/
theorem Settled.quiet {log : List (Event Dash)} {ev : Event Dash} (h : Settled log)
    (hop : dashOp ev = none) (hadded : ∀ id, dashAdded id ev = []) : Settled (log ++ [ev]) := by
  intro id
  have hreturned : returned id [ev] = [] := by
    unfold returned drained
    simp [hop, Drain.took]
  rw [returned_append, hreturned, added_snoc, hadded, h id]

/-- A batch that is added. -/
theorem settled_pair (deviceId window : Text) (r : List Sample × Option Verdict) :
    Settled [.did (.collect deviceId) r,
      .did (.add deviceId (Batch.of deviceId window r).samples) ()] := by
  intro id
  rw [Batch.of_samples]
  simp [returned, drained, dashOp, Drain.took, added, dashAdded]

/-- A request adds what it was returned, at once. -/
theorem serviceCollect_settles (deviceId window aggregation : Text) :
    wpP (fun tr _ => Owing tr) (serviceCollect fl deviceId window aggregation)
      (fun tr _ _ => Settled tr) (fun tr _ _ => Settled tr) () [] := by
  have hnone : Settled [] := fun _ => rfl
  unfold serviceCollect linkCollect storeWindow
  cases collectWindows.lookup window with
  | none => exact hnone
  | some seconds =>
    simp only [wpP_bind, wpP_ite, wpP_throw, wpP_dash, wpP_pure, wpP_ofOutcome, List.nil_append]
    refine ⟨fun _ => hnone, fun _ => ⟨hnone.owing, ?_⟩⟩
    intro r
    have howing : Owing [.did (.collect deviceId) r] := by
      intro id
      refine ⟨if deviceId = id then batchSamples r else [], ?_, ?_⟩
      · split
        · exact length_batchSamples r
        · exact Nat.zero_le 1
      · simp [returned, drained, dashOp, Drain.took, added, dashAdded]
    refine ⟨howing, fun _ => ?_⟩
    have hpair := settled_pair deviceId window r
    refine ⟨hpair.owing, fun now => ?_⟩
    have htime : Settled (_ ++ [.did .time now]) := hpair.quiet rfl fun _ => rfl
    refine ⟨htime.owing, fun samples => ?_⟩
    have hwindow : Settled (_ ++ [.did (.window deviceId (fl.cutoff now seconds)) samples]) :=
      htime.quiet rfl fun _ => rfl
    exact ⟨fun _ _ => hwindow, fun _ _ => hwindow⟩

theorem link_calls {job : LinkJob} {conn : Connection} {log : List (Event Dash)} {q : Call Dash}
    {k : q.Ans → Prog Dash (Option (Except StdError CollectResult) × Connection)}
    (h : Steps (dashCode rt C identity fl (.link job) conn) log (.call q k)) :
    ∃ a, q = .act (.server a) := by
  have hcalls : wp (fun _ (q : Call Dash) => ∃ a, q = .act (.server a))
      (dashPart.prog ((linkJob rt C identity job).go conn)) (fun _ _ => True) [] := by
    refine Embedding.wp_embed_nil (wp_trivial ?_ ?_)
    · rintro tr (r | a)
      · exact nomatch r
      · exact ⟨a, rfl⟩
    · exact fun _ _ => trivial
  have hcode : wp (fun _ (q : Call Dash) => ∃ a, q = .act (.server a))
      (dashCode rt C identity fl (.link job) conn) (fun _ _ => True) [] := wp_bind.mpr (wp_conseq hcalls fun _ _ _ => trivial)
  exact wp_asserts h hcode

theorem collect_wp (id window aggregation : Text) (conn : Connection) :
    wp (fun tr _ => Owing tr) (dashCode rt C identity fl (.collect id window aggregation) conn)
      (fun tr _ => Settled tr) [] := by
  refine wp_bind.mpr (wp_conseq (serviceCollect_settles id window aggregation) ?_)
  rintro tr ⟨e | result, u⟩ h
  · exact h
  · exact h

/-- A request that is being served. -/
theorem collect_owing {id window aggregation : Text} {conn : Connection} {log : List (Event Dash)}
    {rest : Prog Dash (Option (Except StdError CollectResult) × Connection)}
    (h : Steps (dashCode rt C identity fl (.collect id window aggregation) conn) log rest) :
    Owing log := by
  have hrest := wp_steps h (collect_wp id window aggregation conn)
  cases rest with
  | ret out => exact Settled.owing hrest
  | call q k => exact hrest.1

theorem collect_settled {id window aggregation : Text} {conn : Connection} {log : List (Event Dash)}
    {out : Option (Except StdError CollectResult) × Connection}
    (h : Runs (dashCode rt C identity fl (.collect id window aggregation) conn) log out) :
    Settled log :=
  wp_runs h (collect_wp id window aggregation conn)

/-- The link's threads return nothing to anybody and add nothing. -/
theorem returned_server (id : Text) (a : ServerAct) (b : a.Res) :
    returned id [.did (.server a) b] = [] := by
  cases a <;> rfl

variable [DecidableEq ι]
  {c₀ c : Pool.Config (dashMachine rt C identity fl) ι DashState}
  {ls : List (Pool.Label (dashMachine rt C identity fl) ι)}

/-- What was returned is in the store, but for the request that is being served. -/
structure LoopInv (evs : List (Event Dash))
    (c : Pool.Config (dashMachine rt C identity fl) ι DashState) : Prop where
  one : ∀ i j log log', Collecting c i log → Collecting c j log' → i = j
  idle : (∀ i log, ¬ Collecting c i log) → Settled evs
  serving : ∀ i log, Collecting c i log → ∃ before, Settled before ∧
    ∀ id, returned id evs = returned id before ++ returned id log ∧
      added id evs = added id before ++ added id log

/-- Another agent's step leaves a request where it is. -/
theorem Collecting.of_set {i j : ι} {a : Pool.Agent (dashMachine rt C identity fl)}
    {log : List (Event Dash)} (h : Collecting (c.set i a) j log) :
    (j = i ∧ ∃ id window aggregation conn rest,
      a = .busy (.collect id window aggregation) conn log rest) ∨ j ≠ i ∧ Collecting c j log := by
  obtain ⟨id, window, aggregation, conn, rest, hbusy⟩ := h
  rcases Pool.Config.set_busy hbusy with ⟨hj, ha⟩ | ⟨hj, hbusy⟩
  · exact Or.inl ⟨hj, id, window, aggregation, conn, rest, ha⟩
  · exact Or.inr ⟨hj, id, window, aggregation, conn, rest, hbusy⟩

/-- An agent that serves no request, before and after its step. -/
theorem collecting_set_iff {i : ι} {a : Pool.Agent (dashMachine rt C identity fl)}
    (hold : ∀ log, ¬ Collecting c i log)
    (hnew : ∀ id window aggregation conn log rest,
      a ≠ .busy (.collect id window aggregation) conn log rest) (j : ι) (log : List (Event Dash)) :
    Collecting (c.set i a) j log ↔ Collecting c j log := by
  constructor
  · intro h
    rcases h.of_set with ⟨-, id, window, aggregation, conn, rest, ha⟩ | ⟨-, h⟩
    · exact absurd ha (hnew _ _ _ _ _ _)
    · exact h
  · rintro ⟨id, window, aggregation, conn, rest, hbusy⟩
    have hj : j ≠ i := by
      rintro rfl
      exact hold log ⟨id, window, aggregation, conn, rest, hbusy⟩
    refine ⟨id, window, aggregation, conn, rest, ?_⟩
    rw [Pool.Config.set_agents, if_neg hj, hbusy]

omit [DecidableEq ι] in
theorem LoopInv.congr {evs evs' : List (Event Dash)}
    {c' : Pool.Config (dashMachine rt C identity fl) ι DashState} (hi : LoopInv evs c)
    (hsame : ∀ j log, Collecting c' j log ↔ Collecting c j log)
    (hevs : ∀ id, returned id evs' = returned id evs ∧ added id evs' = added id evs) :
    LoopInv evs' c' := by
  refine ⟨?_, ?_, ?_⟩
  · intro i j log log' h h'
    exact hi.one i j log log' ((hsame i log).mp h) ((hsame j log').mp h')
  · intro hnone id
    rw [(hevs id).1, (hevs id).2]
    exact hi.idle (fun i log h => hnone i log ((hsame i log).mpr h)) id
  · intro i log h
    obtain ⟨before, hbefore, hlog⟩ := hi.serving i log ((hsame i log).mp h)
    refine ⟨before, hbefore, ?_⟩
    intro id
    rw [(hevs id).1, (hevs id).2]
    exact hlog id

/-- Nobody but one serves a request. -/
theorem LoopInv.only {evs : List (Event Dash)} (hi : LoopInv evs c) {i : ι}
    {log : List (Event Dash)} (h : Collecting c i log)
    {a : Pool.Agent (dashMachine rt C identity fl)} {j : ι} {log' : List (Event Dash)}
    (hj : Collecting (c.set i a) j log') : j = i ∧ ∃ id window aggregation conn rest,
      a = .busy (.collect id window aggregation) conn log' rest := by
  rcases hj.of_set with hj | ⟨hne, hj⟩
  · exact hj
  · exact absurd (hi.one j i log' log hj h) hne

/-- The loop is free, and takes a request up. -/
theorem LoopInv.start {evs : List (Event Dash)} (hi : LoopInv evs c)
    (hfree : ∀ j log, ¬ Collecting c j log) {i : ι} {job : DashJob} {conn : Connection}
    {rest : Prog Dash (Option (Except StdError CollectResult) × Connection)} :
    LoopInv evs (c.set i (.busy job conn [] rest)) := by
  have hserved : ∀ j log, Collecting (c.set i (.busy job conn [] rest)) j log → j = i ∧ log = [] := by
    intro j log h
    rcases h.of_set with ⟨hj, _, _, _, _, _, ha⟩ | ⟨-, h⟩
    · cases ha
      exact ⟨hj, rfl⟩
    · exact absurd h (hfree j log)
  refine ⟨?_, fun _ => hi.idle hfree, ?_⟩
  · intro j k log log' h h'
    rw [(hserved j log h).1, (hserved k log' h').1]
  · intro j log h
    obtain ⟨-, rfl⟩ := hserved j log h
    exact ⟨evs, hi.idle hfree, fun id => ⟨(List.append_nil _).symm, (List.append_nil _).symm⟩⟩

/-- The request that is being served makes a call. -/
theorem LoopInv.call {evs log : List (Event Dash)} (hi : LoopInv evs c) {i : ι}
    (h : Collecting c i log) {job : DashJob} {conn : Connection} {ev : Event Dash}
    {rest : Prog Dash (Option (Except StdError CollectResult) × Connection)}
    (hserved : Collecting (c.set i (.busy job conn (log ++ [ev]) rest)) i (log ++ [ev])) :
    LoopInv (evs ++ [ev]) (c.set i (.busy job conn (log ++ [ev]) rest)) := by
  refine ⟨?_, fun hnone => absurd hserved (hnone _ _), ?_⟩
  · intro j k log' log'' hj hk
    rw [(hi.only h hj).1, (hi.only h hk).1]
  · intro j log' hj
    obtain ⟨-, _, _, _, _, _, ha⟩ := hi.only h hj
    cases ha
    obtain ⟨before, hbefore, hlog⟩ := hi.serving i log h
    refine ⟨before, hbefore, ?_⟩
    intro id
    obtain ⟨hreturned, hadded⟩ := hlog id
    rw [returned_append, returned_append id log, hreturned, added_append, added_append id log, hadded]
    simp only [List.append_assoc, and_self]

/-- It returns. -/
theorem LoopInv.finish {evs log : List (Event Dash)} (hi : LoopInv evs c) {i : ι}
    (h : Collecting c i log) (settled : Settled log) {conn : Connection} :
    LoopInv evs (c.set i (.idle conn)) := by
  have hnone : ∀ j log', ¬ Collecting (c.set i (.idle conn)) j log' := by
    intro j log' hj
    obtain ⟨-, _, _, _, _, _, ha⟩ := hi.only h hj
    cases ha
  refine ⟨fun j _ log' _ hj => absurd hj (hnone j log'), ?_, fun j log' hj => absurd hj (hnone j log')⟩
  intro _ id
  obtain ⟨before, hbefore, hlog⟩ := hi.serving i log h
  rw [(hlog id).1, (hlog id).2, hbefore id, settled id]

theorem loop_run (run : Pool.Run (fun _ => DashStep C identity fl) EventLoop c₀ ls c)
    (quiet : c₀.Quiet) : LoopInv (callsOf ls) c := by
  refine run.invariant (I := fun ls c => LoopInv (callsOf ls) c) ?_ ?_
  · have hnone : ∀ i log, ¬ Collecting c₀ i log := by
      intro i log ⟨_, _, _, _, _, hbusy⟩
      obtain ⟨m, hidle⟩ := quiet i
      rw [hidle] at hbusy
      cases hbusy
    exact ⟨fun i _ log _ h => absurd h (hnone i log), fun _ _ => rfl,
      fun i log h => absurd h (hnone i log)⟩
  · intro ls c l c' run hi step admitted
    rw [callsOf_snoc]
    cases step with
    | @start i m job hidle =>
      rw [List.append_nil]
      have hold : ∀ log, ¬ Collecting c i log := by
        intro log ⟨_, _, _, _, _, hbusy⟩
        rw [hidle] at hbusy
        cases hbusy
      cases job with
      | link job => exact hi.congr (collecting_set_iff hold (by simp)) fun _ => ⟨rfl, rfl⟩
      | collect id window aggregation => exact hi.start (admitted i id window aggregation rfl)
    | @call i job m log q k σ' r hbusy hR =>
      have hi' : LoopInv (callsOf ls) { c with shared := σ' } :=
        hi.congr (fun _ _ => Iff.rfl) fun _ => ⟨rfl, rfl⟩
      cases job with
      | link job =>
        obtain ⟨a, rfl⟩ := @link_calls rt C identity fl job m log q k
          ((run.logs quiet).1 _ _ _ _ _ hbusy)
        have hold : ∀ log, ¬ Collecting { c with shared := σ' } i log := by
          intro log ⟨_, _, _, _, _, hbusy'⟩
          cases hbusy.symm.trans hbusy'
        refine hi'.congr (collecting_set_iff hold (by simp)) ?_
        intro id
        rw [returned_append, added_append]
        refine ⟨?_, List.append_nil _⟩
        exact (congrArg (returned id (callsOf ls) ++ ·) (returned_server id a r)).trans
          (List.append_nil _)
      | collect id window aggregation =>
        have hserving : Collecting { c with shared := σ' } i log :=
          ⟨id, window, aggregation, m, _, hbusy⟩
        apply hi'.call hserving
        refine ⟨id, window, aggregation, m, k r, ?_⟩
        rw [Pool.Config.set_agents, if_pos rfl]
    | @finish i job m log out hbusy =>
      rw [List.append_nil]
      cases job with
      | link job =>
        have hold : ∀ log, ¬ Collecting c i log := by
          intro log ⟨_, _, _, _, _, hbusy'⟩
          cases hbusy.symm.trans hbusy'
        exact hi.congr (collecting_set_iff hold (by simp)) fun _ => ⟨rfl, rfl⟩
      | collect id window aggregation =>
        have hruns := (run.logs quiet).1 _ _ _ _ _ hbusy
        have hsettled := @collect_settled rt C identity fl id window aggregation m log out hruns
        exact hi.finish ⟨id, window, aggregation, m, _, hbusy⟩ hsettled

end

/-! ## The laws -/

/-- What `collected_once` says. -/
structure CollectLaws (rt : Runtime) (C : CryptoLib) (identity : Point) (fl : Floats) : Prop where
  /-- `collect` is one locked call, and returns a batch of the device it was asked about; `returned`
  puts the samples of these together. -/
  returns : ∀ (deviceId window : Text) (tr : List (Event Dash)) (out : Except StdError Batch × Unit),
    Runs ((linkCollect deviceId window).go ()) tr out →
      ∃ r batch, tr = [.did (.collect deviceId) r] ∧ out = (.ok batch, ()) ∧
        batch.deviceId = deviceId ∧ batch.samples = batchSamples r
  /-- What it returns is the newest sample buffered for the device since that device's last
  `collect`, and nothing if there is none; whoever makes the calls, and in whatever order. -/
  newest : ∀ (ι : Type) [DecidableEq ι]
    (c₀ c : Pool.Config (dashMachine rt C identity fl) ι DashState)
    (pre post : List (Pool.Label (dashMachine rt C identity fl) ι)) (i : ι) (deviceId : Text)
    (r : List Sample × Option Verdict), c₀.shared.Fresh →
    Pool.Run (fun _ => DashStep C identity fl) Pool.Any c₀
      (pre ++ .did i (.did (.collect deviceId) r) :: post) c →
      ∀ window batch, Collects deviceId window r batch →
        batch.samples = (uncollected deviceId (callsOf pre)).rtake 1
  /-- A request is refused before its first call, or adds what its `collect` has returned. -/
  request : ∀ (deviceId window aggregation : Text) (tr : List (Event Dash))
    (out : Except StdError CollectResult × Unit),
    Runs ((serviceCollect fl deviceId window aggregation).go ()) tr out →
      ((collectWindows.lookup window = none ∨ aggregation ∉ aggregations) ∧ tr = [] ∧
          out.1 = .error .valueError) ∨
        ∃ seconds, collectWindows.lookup window = some seconds ∧ aggregation ∈ aggregations ∧
          Request fl deviceId window seconds tr
  /-- Together the batches of a device are a subsequence of what was buffered for it: no sample is
  returned twice, out of order or for another device. -/
  once : ∀ (ι : Type) [DecidableEq ι]
    (c₀ c : Pool.Config (dashMachine rt C identity fl) ι DashState)
    (ls : List (Pool.Label (dashMachine rt C identity fl) ι)), c₀.shared.Fresh →
    Pool.Run (fun _ => DashStep C identity fl) Pool.Any c₀ ls c →
      ∀ deviceId, (returned deviceId (callsOf ls)).Sublist (buffered deviceId (callsOf ls))
  /-- On the event loop the store of a device has the newest of what was returned for it, except
  that the request that is being served may still have to add its sample; what it has was
  buffered, in this order. -/
  store : ∀ (ι : Type) [DecidableEq ι]
    (c₀ c : Pool.Config (dashMachine rt C identity fl) ι DashState)
    (ls : List (Pool.Label (dashMachine rt C identity fl) ι)), c₀.shared.Fresh → c₀.Quiet →
    Pool.Run (fun _ => DashStep C identity fl) EventLoop c₀ ls c → ∀ deviceId,
      (∃ stored batch, returned deviceId (callsOf ls) = stored ++ batch ∧ batch.length ≤ 1 ∧
        ((∀ i log, ¬ Collecting c i log) → batch = []) ∧
        c.shared.store deviceId = stored.rtake maxPerDevice) ∧
      (c.shared.store deviceId).Sublist (buffered deviceId (callsOf ls))

section

variable {rt : Runtime} {C : CryptoLib} {identity : Point} {fl : Floats} {ι : Type}
  {c : Pool.Config (dashMachine rt C identity fl) ι DashState}

/-- What is settled, and what the request that is being served owes. -/
theorem LoopInv.split {evs : List (Event Dash)} (hi : LoopInv evs c)
    (logs : ∀ i log, Collecting c i log → Owing log) (deviceId : Text) :
    ∃ batch, batch.length ≤ 1 ∧ returned deviceId evs = added deviceId evs ++ batch ∧
      ((∀ i log, ¬ Collecting c i log) → batch = []) := by
  by_cases hserving : ∃ i log, Collecting c i log
  · obtain ⟨i, log, h⟩ := hserving
    obtain ⟨before, hbefore, hlog⟩ := hi.serving i log h
    obtain ⟨batch, hlen, hbatch⟩ := logs i log h deviceId
    refine ⟨batch, hlen, ?_, fun hnone => absurd h (hnone i log)⟩
    rw [(hlog deviceId).1, (hlog deviceId).2, hbatch, hbefore deviceId, List.append_assoc]
  · have hnone : ∀ i log, ¬ Collecting c i log := fun i log h => hserving ⟨i, log, h⟩
    exact ⟨[], Nat.zero_le 1, (hi.idle hnone deviceId).trans (List.append_nil _).symm, fun _ => rfl⟩

theorem returned_sublist {evs : List (Event Dash)} {s : DashState} (hi : BuffersInv evs s)
    (deviceId : Text) : (returned deviceId evs).Sublist (buffered deviceId evs) :=
  (List.sublist_append_left ..).trans (hi.newest.sublist deviceId)

end

/-- **Samples are collected once, in order, and under their own device.** -/
theorem collected_once (rt : Runtime) (C : CryptoLib) (identity : Point) (fl : Floats) :
    CollectLaws rt C identity fl where
  returns deviceId window tr out h := by
    obtain ⟨r, htr, hout⟩ := linkCollect_runs h
    exact ⟨r, _, htr, hout, Batch.of_deviceId .., Batch.of_samples ..⟩
  newest ι _ c₀ c pre post i deviceId r fresh run window batch h := by
    rw [← List.singleton_append, ← List.append_assoc] at run
    obtain ⟨c₂, hpre, -⟩ := run.split
    obtain ⟨c₁, hbefore, step, -⟩ := hpre.last
    have hinv := buffers_run hbefore fresh
    obtain ⟨rfl, -⟩ := step.answered
    rw [collects_iff.mp h, Batch.of_samples]
    exact hinv.batch deviceId
  request deviceId window aggregation tr out h := serviceCollect_runs h
  once ι _ c₀ c ls fresh run deviceId := returned_sublist (buffers_run run fresh) deviceId
  store ι _ c₀ c ls fresh quiet run deviceId := by
    have hinv := buffers_run run fresh
    have howing : ∀ i log, Collecting c i log → Owing log := by
      intro i log ⟨id, window, aggregation, conn, rest, hbusy⟩
      exact @collect_owing rt C identity fl id window aggregation conn log rest
        ((run.logs quiet).1 _ _ _ _ _ hbusy)
    obtain ⟨batch, hlen, hreturned, hnone⟩ := (loop_run run quiet).split howing deviceId
    refine ⟨⟨added deviceId (callsOf ls), batch, hreturned, hlen, hnone, hinv.store deviceId⟩, ?_⟩
    have hadded : (added deviceId (callsOf ls)).Sublist (returned deviceId (callsOf ls)) := by
      rw [hreturned]
      exact List.sublist_append_left ..
    rw [hinv.store deviceId]
    exact (rtake_sublist _ _).trans (hadded.trans (returned_sublist hinv deviceId))

namespace Vectors

/-- Doubles that let every sample through. -/
def dashFloats : Floats where
  cutoff _ _ := 0
  since _ _ := true
  aggregate _ _ := .ok .null

/-- The server's calls at the desk, and the dashboard's. -/
def dashDesk (s : DashState) : (q : Call Dash) → q.Ans × DashState
  | .req r => Empty.elim r
  | .act (.server a) =>
    let r := firstDesk.serve lib s.server (.act a)
    (r.1, { s with server := r.2 })
  | .act (.collect id) => ((s.server.buf id, s.server.verdict id),
      { s with server := { s.server with buf := Function.update s.server.buf id [] } })
  | .act (.add id samples) => ((), { s with
      store := Function.update s.store id ((s.store id ++ samples).rtake maxPerDevice) })
  | .act .time => (0, s)
  | .act (.window id cutoff) =>
    ((s.store id).filter fun x => dashFloats.since x.ts cutoff, s)

/-- The link and the dashboard, on all of this. -/
@[reducible] def deviceDash : Machine Dash := dashMachine python lib serverIdentity.pub dashFloats

/-- Signatures are right, and a request is taken up when none is being served. -/
def dashRight (c : Pool.Config deviceDash (Fin 2) DashState) : Pool.Label deviceDash (Fin 2) → Bool
  | .did _ ev => ((linkEvent ev).map (signsRight lib serverIdentity.pub)).getD true
  | .started _ (.collect _ _ _) => (List.finRange 2).all fun j =>
    match c.agents j with
    | .busy (.collect _ _ _) _ _ _ => false
    | _ => true
  | _ => true

theorem dashRight_loop {c : Pool.Config deviceDash (Fin 2) DashState}
    {l : Pool.Label deviceDash (Fin 2)} (h : dashRight c l = true) : EventLoop c l := by
  rintro i id window aggregation rfl j log ⟨id', window', aggregation', conn, rest, hbusy⟩
  have hj := List.all_eq_true.mp h j (List.mem_finRange j)
  rw [hbusy] at hj
  cases hj

def dashStart : Pool.Config deviceDash (Fin 2) DashState :=
  ⟨⟨.started enrolled, fun _ => []⟩, fun _ => .idle .accepted⟩

/-- One job, without another. -/
def undisturbed (i : Fin 2) (job : DashJob) : List (Pool.Turn deviceDash (Fin 2)) := byItself i job

/-- The device attests itself and sends a reading. A user collects, and a second reading comes while
that request is being served; then two more requests. -/
def shownRun : List (Pool.Label deviceDash (Fin 2)) × Pool.Config deviceDash (Fin 2) DashState :=
  Pool.play (fun _ _ _ => dashDesk) dashRight dashStart (
    undisturbed 0 (.link (takes (helloMessage deviceName))) ++
    undisturbed 0 (.link (takes (attestMessage genuineAnswer))) ++
    undisturbed 0 (.link (takes firstData)) ++
    [.start 1 (.collect deviceName "1h".toList "raw".toList), .call 1] ++
    undisturbed 0 (.link (takes secondData)) ++
    [.call 1, .call 1, .call 1, .finish 1] ++
    undisturbed 1 (.collect deviceName "1h".toList "raw".toList) ++
    undisturbed 1 (.collect deviceName "24h".toList "mean".toList))

theorem shownRun_run : Pool.Run (fun _ => DashStep lib serverIdentity.pub dashFloats) EventLoop
    dashStart shownRun.1 shownRun.2 := by
  refine Pool.Run.mono (Pool.play_run _ _ ?_) (fun _ _ h => dashRight_loop h)
  intro c i job n q hok
  cases q with
  | req e => cases e
  | act a =>
    cases a with
    | server a => exact ⟨firstDesk.serve_step c.shared.server (.act a) hok, rfl⟩
    | collect id => exact ⟨rfl, rfl⟩
    | add id samples => exact rfl
    | time => exact rfl
    | window id cutoff => exact ⟨rfl, rfl⟩

/-- 23 degrees, and 24. -/
def shownSample : Sample := ⟨0, 0x4037000000000000, deviceName ++ ":sensor".toList, ['C']⟩

def nextSample : Sample := ⟨0, 0x4038000000000000, deviceName ++ ":sensor".toList, ['C']⟩

/-- What a `collect` for the device takes from the buffer. -/
def snapshotOf : Pool.Label deviceDash (Fin 2) → Option (List Sample × Option Verdict)
  | .did _ (.did (.collect id) r) => if id = deviceName then some r else none
  | _ => none

theorem snapshotOf_eq {l : Pool.Label deviceDash (Fin 2)} {r : List Sample × Option Verdict}
    (h : snapshotOf l = some r) : ∃ i, l = .did i (.did (.collect deviceName) r) := by
  unfold snapshotOf at h
  split at h
  · split at h
    · rename_i hid
      cases h
      exact ⟨_, by rw [hid]⟩
    · cases h
  · cases h

end Vectors

theorem collected_once_played : ∃ pre post i r c batch,
    Pool.Run (fun _ => DashStep Vectors.lib Vectors.serverIdentity.pub Vectors.dashFloats) EventLoop
      Vectors.dashStart (pre ++ .did i (.did (.collect Vectors.deviceName) r) :: post) c ∧
    Collects Vectors.deviceName "1h".toList r batch ∧ batch.samples = [Vectors.nextSample] ∧
    (uncollected Vectors.deviceName (callsOf pre)).rtake 1 = [Vectors.nextSample] ∧
    c.shared.store Vectors.deviceName = [Vectors.shownSample, Vectors.nextSample] ∧
    [Vectors.shownSample, Vectors.nextSample].Sublist (buffered Vectors.deviceName
      (callsOf (pre ++ .did i (.did (.collect Vectors.deviceName) r) :: post))) := by
  -- the second request takes what came while the first was being served, and the third takes nothing
  obtain ⟨htaken, hstore⟩ : (Vectors.shownRun.1.filterMap Vectors.snapshotOf).map batchSamples =
        [[Vectors.shownSample], [Vectors.nextSample], []] ∧
      Vectors.shownRun.2.shared.store Vectors.deviceName =
        [Vectors.shownSample, Vectors.nextSample] := by
    decide +kernel
  have run := Vectors.shownRun_run
  generalize Vectors.shownRun = played at htaken hstore run
  obtain ⟨ls, c⟩ := played
  have hmem : [Vectors.nextSample] ∈ (ls.filterMap Vectors.snapshotOf).map batchSamples := by
    rw [htaken]
    simp
  obtain ⟨r, hr, hnext⟩ := List.mem_map.mp hmem
  obtain ⟨l, hl, hsnapshot⟩ := List.mem_filterMap.mp hr
  obtain ⟨i, rfl⟩ := Vectors.snapshotOf_eq hsnapshot
  obtain ⟨pre, post, rfl⟩ := List.append_of_mem hl
  have laws := collected_once Vectors.python Vectors.lib Vectors.serverIdentity.pub Vectors.dashFloats
  have fresh : Vectors.dashStart.shared.Fresh := ⟨⟨_, rfl⟩, rfl⟩
  have collects : Collects Vectors.deviceName "1h".toList r _ := collects_iff.mpr rfl
  obtain ⟨r', batch, htr, hout, -, hsamples⟩ := laws.returns _ _ _ _ collects
  cases htr
  cases hout
  have hnewest := laws.newest _ _ c pre post i _ r fresh (run.mono fun _ _ _ => trivial) _ _ collects
  have hstored := (laws.store _ _ c _ fresh (fun _ => ⟨_, rfl⟩) run Vectors.deviceName).2
  rw [hstore] at hstored
  exact ⟨pre, post, i, r, c, _, run, collects, hsamples.trans hnext,
    hnewest.symm.trans (hsamples.trans hnext), hstore, hstored⟩

end ConfidentialIoT
